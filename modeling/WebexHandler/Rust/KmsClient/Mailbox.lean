import WebexHandler.Interaction.Run
import WebexHandler.Rust.KmsClient.Client
import WebexHandler.Transition.Machine

open interaction json transition

namespace webex.rust.kms_client

/-- The pending list of `KmsClient` and `KmsResponseHandler`, each request with its
    channel, and what has been sent on the channels. -/
structure Mailbox where
  pending : List (String × Nat) := []
  sent : Nat → Option String := fun _ => none
  next_rx : Nat := 0

namespace Mailbox

def register_pending (self : Mailbox) (request_id : String) : Option Nat × Mailbox :=
  if MAX_PENDING_REQUESTS ≤ self.pending.length then (none, self)
  else (some self.next_rx, { self with
    pending := self.pending ++ [(request_id, self.next_rx)]
    next_rx := self.next_rx + 1 })

def remove_pending (self : Mailbox) (request_id : String) : Mailbox :=
  { self with pending := self.pending.filter (fun entry => entry.1 != request_id) }

/-- One string of a batch resolves the first pending request, or is dropped. -/
def handle_response (self : Mailbox) (wrapped : String) : Mailbox :=
  match self.pending with
  | [] => self
  | (_, tx) :: rest => { self with
      pending := rest
      sent := fun rx => if rx = tx then some wrapped else self.sent rx }

end Mailbox

/-- The array of KMS messages in a Mercury event. -/
def kms_messages (data : Value) : Option (List Value) :=
  ((data.get "kmsMessages").bind Value.as_array).or
    (((data.get "encryption").bind (·.get "kmsMessages")).bind Value.as_array)

def Mailbox.handle_kms_message (self : Mailbox) (data : Value) : Mailbox :=
  match kms_messages data with
  | none => self
  | some kms_messages => (Value.strings kms_messages).foldl Mailbox.handle_response self

/-- The client's environment: the mailbox, and a KMS that answers each accepted POST
    once and in order. -/
structure World where
  mailbox : Mailbox := {}
  /-- Every accepted POST with its answer. -/
  accepted : List (FetchRequest × String) := []
  /-- The answers Mercury has not delivered yet. -/
  outstanding : List (FetchRequest × String) := []
  last_post : Option FetchRequest := none
  /-- Every response a call took as its own, with the POST of that call. -/
  consumed : List (Option FetchRequest × String) := []

/-- How the environment resolves an operation. A POST may be accepted and answered
    even though the HTTP client reports a failure. -/
inductive Choice
  | fetched (result : Except String FetchResponse) (answer : Option String)
  | instant (now : Nat)
  | elapsed
  | uuid (id : String)
  | bytes (drawn : Bytes)
  | done
  | received
  | closed
  | timed_out

namespace World

def post (self : World) (req : FetchRequest) : Option String → World
  | none => { self with last_post := some req }
  | some answer => { self with
      last_post := some req
      accepted := self.accepted ++ [(req, answer)]
      outstanding := self.outstanding ++ [(req, answer)] }

def perform : (op : Op) → Choice → World → Option (Res op × World)
  | .fetch req, .fetched result answer, self =>
    if req.method = "POST" then some (result, self.post req answer)
    else if answer = none then some (result, self) else none
  | .now, .instant now, self => some (now, self)
  | .sleep _, .elapsed, self => some ((), self)
  | .new_v4, .uuid id, self => some (id, self)
  | .random _, .bytes drawn, self => some (drawn, self)
  | .register_pending request_id, .done, self =>
    some ((self.mailbox.register_pending request_id).1,
      { self with mailbox := (self.mailbox.register_pending request_id).2 })
  | .remove_pending request_id, .done, self =>
    some ((), { self with mailbox := self.mailbox.remove_pending request_id })
  | .wait_response rx _, .received, self =>
    (self.mailbox.sent rx).map fun response =>
      (.received response, { self with consumed := self.consumed ++ [(self.last_post, response)] })
  | .wait_response rx _, .closed, self =>
    if self.mailbox.sent rx = none ∧ rx ∉ self.mailbox.pending.map Prod.snd then some (.closed, self) else none
  | .wait_response rx _, .timed_out, self =>
    if self.mailbox.sent rx = none then some (.timed_out, self) else none
  | _, _, _ => none

/-- Mercury hands `data` to `handle_kms_message`: its strings are the next answers,
    in the order the POSTs were accepted. -/
def deliver (self : World) (data : Value) : Option World :=
  let texts := Value.strings ((kms_messages data).getD [])
  if (self.outstanding.take texts.length).map Prod.snd = texts then
    some { self with
      mailbox := self.mailbox.handle_kms_message data
      outstanding := self.outstanding.drop texts.length }
  else none

end World

/-- The call that holds the `kms_client` mutex, with what is left of it. -/
inductive Call
  | get_key (key_uri : String) (rest : Program Op Res (Except WebexError Bytes × KmsClient))
  | initialize_client (rest : Program Op Res (Except WebexError Unit × KmsClient))

/-- One `KmsClient` in its environment. `kms` holds its fields between calls. -/
structure Session where
  kms : KmsClient
  call : Option Call := none
  world : World := {}
  /-- The keys returned so far. -/
  returned : List (String × Bytes) := []

inductive Label
  | get_key (key_uri : String)
  | initialize_client
  | perform (choice : Choice)
  | return_call
  | deliver (data : Value)

namespace Session

/-- The operation the running call asks for. -/
def head (self : Session) : Option Op :=
  match self.call with
  | none => none
  | some (.get_key _ rest) => rest.head
  | some (.initialize_client rest) => rest.head

def perform (self : Session) (choice : Choice) : Option Session :=
  match self.call with
  | none => none
  | some (.get_key key_uri rest) =>
    (rest.advance World.perform choice self.world).map fun (rest', world) =>
      { self with call := some (.get_key key_uri rest'), world := world }
  | some (.initialize_client rest) =>
    (rest.advance World.perform choice self.world).map fun (rest', world) =>
      { self with call := some (.initialize_client rest'), world := world }

def return_call (self : Session) : Option Session :=
  match self.call with
  | some (.get_key key_uri (.ret (.ok key, kms))) =>
    some { self with kms := kms, call := none, returned := self.returned ++ [(key_uri, key)] }
  | some (.get_key _ (.ret (.error _, kms))) => some { self with kms := kms, call := none }
  | some (.initialize_client (.ret (_, kms))) => some { self with kms := kms, call := none }
  | _ => none

def step (crates : Crates) (self : Session) : Label → Option Session
  | .get_key key_uri =>
    if self.call.isNone then some { self with call := some (.get_key key_uri (get_key crates key_uri self.kms)) }
    else none
  | .initialize_client =>
    if self.call.isNone then some { self with call := some (.initialize_client (initialize_client crates self.kms)) }
    else none
  | .perform choice => self.perform choice
  | .return_call => self.return_call
  | .deliver data => (self.world.deliver data).map fun world => { self with world := world }

end Session

/-- Every run of calls on a new client, one at a time, with deliveries in between
    and within. -/
def session (crates : Crates) (kms : KmsClient) : Machine Session Label where
  init := { kms := kms }
  step := Session.step crates

namespace Session

/-- An invariant of the client's fields, and a running call that keeps to a monitor and
    will leave the invariant behind. -/
def Keeps (mon : Monitor Op Res Unit) (inv : KmsClient → Prop) (self : Session) : Prop :=
  inv self.kms ∧ match self.call with
    | none => True
    | some (.get_key _ rest) => rest.Obeys mon (fun out _ => inv out.2) ()
    | some (.initialize_client rest) => rest.Obeys mon (fun out _ => inv out.2) ()

variable {crates : Crates} {mon : Monitor Op Res Unit} {inv : KmsClient → Prop} {self next : Session}

theorem Keeps.allowed (hkeeps : self.Keeps mon inv) {op : Op} (hhead : self.head = some op) : mon.allowed () op := by
  obtain ⟨-, hcall⟩ := hkeeps
  unfold head at hhead
  split at hhead
  · cases hhead
  all_goals
    rename_i rest heq
    rw [heq] at hcall
    cases rest with
    | ret value => simp [Program.head] at hhead
    | ask op' next =>
      obtain rfl : op' = op := by simpa [Program.head] using hhead
      exact hcall.1

/-- One step keeps the invariant, provided that the answers the environment gives are
    ones the monitor admits. -/
theorem Keeps.step (hget : ∀ key_uri, (get_key crates key_uri).Keeps mon fun kms _ => inv kms)
    (hinit : (initialize_client crates).Keeps mon fun kms _ => inv kms) {label : Label}
    (hmoves : ∀ op choice r world, label = .perform choice → self.head = some op →
      World.perform op choice self.world = some (r, world) → mon.moves () op r ())
    (hkeeps : self.Keeps mon inv) (hstep : self.step crates label = some next) : next.Keeps mon inv := by
  obtain ⟨hkms, hcall⟩ := hkeeps
  cases label with
  | get_key key_uri =>
    simp only [Session.step, Option.ite_none_right_eq_some, Option.some.injEq] at hstep
    obtain ⟨-, rfl⟩ := hstep
    exact ⟨hkms, hget key_uri self.kms () hkms⟩
  | initialize_client =>
    simp only [Session.step, Option.ite_none_right_eq_some, Option.some.injEq] at hstep
    obtain ⟨-, rfl⟩ := hstep
    exact ⟨hkms, hinit self.kms () hkms⟩
  | perform choice =>
    simp only [Session.step, Session.perform] at hstep
    split at hstep
    · cases hstep
    all_goals
      rename_i rest heq
      simp only [Option.map_eq_some_iff] at hstep
      obtain ⟨⟨rest', world⟩, hadvance, rfl⟩ := hstep
      rw [heq] at hcall
      cases rest with
      | ret value => simp [Program.advance] at hadvance
      | ask op continue_with =>
        simp only [Program.advance, Option.map_eq_some_iff, Prod.mk.injEq] at hadvance
        obtain ⟨⟨r, world'⟩, hperform, rfl, rfl⟩ := hadvance
        have hhead : self.head = some op := by simp [head, heq, Program.head]
        exact ⟨hkms, hcall.2 r () (hmoves op choice r world' rfl hhead hperform)⟩
  | return_call =>
    simp only [Session.step, Session.return_call] at hstep
    split at hstep
    all_goals first
      | simp at hstep
        done
      | rename_i heq
        obtain rfl := Option.some.inj hstep
        rw [heq] at hcall
        exact ⟨hcall, trivial⟩
  | deliver data =>
    simp only [Session.step, Option.map_eq_some_iff] at hstep
    obtain ⟨world, -, rfl⟩ := hstep
    exact ⟨hkms, hcall⟩

end Session

section sample

/-- The bytes of a text, which is given in pieces. -/
def ascii (text : List String) : Bytes := text.flatMap fun piece => piece.toList.map fun c => UInt8.ofNat c.toNat

/-- The coordinates of the P-256 base point. -/
def base_x : Bytes :=
  [107, 23, 209, 242, 225, 44, 66, 71, 248, 188, 230, 229, 99, 164, 64, 242, 119, 3, 125, 129, 45, 235, 51, 160, 244,
    161, 57, 69, 216, 152, 194, 150]

def base_y : Bytes :=
  [79, 227, 66, 226, 254, 26, 127, 155, 142, 231, 235, 74, 124, 15, 158, 22, 43, 206, 51, 87, 107, 49, 94, 206, 203,
    182, 64, 104, 55, 191, 81, 245]

def key_a : Bytes := List.replicate 32 0xAA
def key_b : Bytes := List.replicate 32 0xBB

def details_text : List String :=
  ["\x7b\"kmsCluster\":", "\"kms://ciscospark.com\",", "\"rsaPublicKey\":", "\x7b\"kty\":\"RSA\"\x7d\x7d"]

def handshake_text : List String :=
  ["\x7b\"key\":\x7b\"kty\":\"EC\",", "\"crv\":\"P-256\",", "\"x\":\"axfR8uEsQkf4vOblY6R", "A8ncDfYEt6zOg9KE5RdiYwpY\",",
    "\"y\":\"T-NC4v4af5uO5-tKfA-", "eFivOM1drMV7Oy7ZAaDe_UfU\"\x7d\x7d"]

def key_text (k : String) : List String := ["\x7b\"key\":\x7b\"k\":\"", k, "\"\x7d\x7d"]

def key_document (k : String) : Value := .object [("key", .object [("k", .string k)])]

def key_a_b64 : String := "qqqqqqqqqqqqqqqqqqqqqqqqqqqqqqqqqqqqqqqqqqo"
def key_b_b64 : String := "u7u7u7u7u7u7u7u7u7u7u7u7u7u7u7u7u7u7u7u7u7s"

def sample_documents : List (Bytes × Value) :=
  [(ascii details_text, .object [("kmsCluster", .string "kms://ciscospark.com"),
      ("rsaPublicKey", .object [("kty", .string "RSA")])]),
    (ascii handshake_text, .object [("key", .object [("kty", .string "EC"), ("crv", .string "P-256"),
      ("x", .string "axfR8uEsQkf4vOblY6RA8ncDfYEt6zOg9KE5RdiYwpY"),
      ("y", .string "T-NC4v4af5uO5-tKfA-eFivOM1drMV7Oy7ZAaDe_UfU")])]),
    (ascii (key_text key_a_b64), key_document key_a_b64),
    (ascii (key_text key_b_b64), key_document key_b_b64)]

def sample_base64 : List (String × Bytes) :=
  [("axfR8uEsQkf4vOblY6RA8ncDfYEt6zOg9KE5RdiYwpY", base_x), ("T-NC4v4af5uO5-tKfA-eFivOM1drMV7Oy7ZAaDe_UfU", base_y),
    (key_a_b64, key_a), (key_b_b64, key_b)]

/-- The compact serialisations of the KMS's answers. -/
def handshake_jwe : String := "header.key.iv.handshake.tag"
def answer_a_jwe : String := "header.key.iv.a.tag"
def answer_b_jwe : String := "header.key.iv.b.tag"

/-- HKDF-SHA256 of the base point's x coordinate, the secret both sides share when
    both keys are 1. -/
def sample_derived : Bytes :=
  [24, 166, 137, 208, 241, 76, 191, 149, 28, 197, 85, 103, 145, 120, 163, 103, 122, 227, 241, 78, 209, 99, 40, 83, 124,
    165, 163, 230, 54, 233, 117, 23]

/-- The other crates on the inputs of the runs below, over a cipher that leaves
    requests readable and names its plaintexts. -/
def sample_crates : Crates where
  from_slice bytes := (sample_documents.lookup bytes).elim (.error "expected value at line 1 column 1") .ok
  from_str _ := .error "expected value at line 1 column 1"
  to_string value := match value.get "kmsMessages" with
    | some (.array [.string wrapped]) => wrapped
    | _ => ((value.get "method").bind Value.as_str).getD "" ++ " " ++ ((value.get "uri").bind Value.as_str).getD ""
  from_utf8_lossy bytes := String.ofList (bytes.map fun b => Char.ofNat b.toNat)
  url_safe_no_pad_encode bytes := ((sample_base64.find? fun entry => entry.2 == bytes).map Prod.fst).getD ""
  url_safe_no_pad_decode text := (sample_base64.lookup text).elim (.error "Invalid byte 33, offset 0.") .ok
  public_point _ := (some base_x, some base_y)
  from_sec1_bytes bytes := .ok bytes
  diffie_hellman _ _ := base_x
  hkdf_sha256 _ := .ok sample_derived
  encrypt_rsa_oaep_a256gcm plaintext _ _ := .ok plaintext
  encrypt_dir_a256gcm plaintext _ _ _ := .ok plaintext
  decrypt_jwe token _ :=
    if token = handshake_jwe then .ok (ascii handshake_text)
    else if token = answer_a_jwe then .ok (ascii (key_text key_a_b64))
    else if token = answer_b_jwe then .ok (ascii (key_text key_b_b64))
    else .error (.kms "AES-GCM decryption failed: aead::Error")

def sample_client : KmsClient :=
  new "token" "https://wdm-a.wbx2.com/wdm/api/v1/devices/dev-123" "user-1" "https://encryption-a.wbx2.com"

def kms_event (response : String) : Value := .object [("kmsMessages", .array [.string response])]

def ok_response (status : Nat) (body : Bytes) : Except String FetchResponse := .ok ⟨status, true, body⟩

/-- A POST, up to the HTTP client's success. -/
def post_labels (request_id : String) (answer : String) : List Label :=
  [.perform (.uuid request_id), .perform (.bytes []), .perform .done,
    .perform (.fetched (ok_response 202 []) (some answer))]

def handshake_labels : List Label :=
  ([.initialize_client, .perform (.fetched (ok_response 200 (ascii details_text)) none),
    .perform (.bytes (List.replicate 31 0 ++ [1]))] : List Label) ++ post_labels "r0" handshake_jwe ++
  ([.deliver (kms_event handshake_jwe), .perform .received, .perform (.instant 0), .return_call] : List Label)

end sample

end webex.rust.kms_client
