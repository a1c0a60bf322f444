import WebexHandler.Interaction.Pool
import WebexHandler.Json
import WebexHandler.Transition.Machine

open interaction json transition

namespace webex.key_retrieval

/-- An error, by its class and text. -/
inductive Failure
  | kms_error (message : String)
  | other (message : String)
  deriving DecidableEq, Repr

def Failure.message : Failure → String
  | .kms_error message => message
  | .other message => message

inductive CbState
  | closed
  | open
  | half_open
  deriving DecidableEq, Repr

/-- A symmetric key with its id. -/
structure JsonWebKey where
  key : String
  key_id : String
  deriving DecidableEq, Repr

/-- A P-256 key pair. -/
structure LocalKey where
  private_key : String
  public_jwk : Value

/-- A key that a response is decrypted with. -/
inductive DecryptionKey
  | ecdh (key : LocalKey)
  | ephemeral (key : JsonWebKey)

/-- The calls of the encryption of a JWE, any of which may fail. -/
inductive JweStage
  | new_encrypter
  | encrypt
  | serialize
  deriving DecidableEq, Repr

structure FetchRequest where
  url : String
  method : String
  headers : List (String × String)
  body : Option Value

/-- A response whose body is read later. -/
structure FetchResponse where
  status : Nat
  ok : Bool
  deriving DecidableEq, Repr

/-- The details of a KMS, as a record that a body is decoded into. -/
structure KmsDetails where
  kms_cluster : String
  rsa_public_key : Option Value

/-- What the client's language and libraries compute: the scheme and host name of a URL,
    a text in lower case, the time that a date denotes, and whether Python reads the date
    as one without an offset. -/
structure Library where
  parse_url : String → Except String (String × String)
  to_lower : String → String
  parse_time : String → Option Nat
  naive : String → Bool

/-- The fields of `KmsClient` in the Go and the Python port, but for the ephemeral key.
    A pending request is kept under its id. The Python port may store a cluster that is no
    string, and an expiration without an offset. -/
structure KmsClient where
  token : String
  device_url : String
  user_id : String
  encryption_service_url : String
  kms_cluster : Value := .string ""
  context_expiration : Option Nat := none
  naive_expiration : Bool := false
  key_cache : List (String × Value) := []
  initialized : Bool := false
  pending_requests : List String := []
  cb_state : CbState := .closed
  cb_failures : Nat := 0
  cb_last_failure : Nat := 0

/-- The cluster as a text. A handshake has validated it before it formats it. -/
def KmsClient.cluster_text (self : KmsClient) : String := self.kms_cluster.as_str.getD ""

/-- What a call of the client does at a time. The ephemeral key is read and replaced
    on its own; `section` is a critical section, or a segment without an await, that may
    refuse to go on. -/
inductive Op
  | get
  | update (f : Nat → KmsClient → KmsClient)
  | section (f : Nat → KmsClient → Bool × KmsClient)
  | now
  | has_key
  | load_key
  | store_key (key : JsonWebKey)
  | new_request_id
  | http_do (req : FetchRequest)
  | details (response : FetchResponse)
  | json (response : FetchResponse)
  | text (response : FetchResponse)
  | parse (text : String)
  | generate_key
  | import_key (jwk : Value)
  | wrap_rsa (rsa_key : Value) (plaintext : Value)
  | wrap (key : JsonWebKey) (kid : String) (plaintext : Value)
  | parse_encrypted (wrapped : String)
  | decrypt (key : DecryptionKey) (wrapped : String)
  | decode_payload (part : String)
  | derive (local_key : LocalKey) (remote_key : Value)
  | lock
  | unlock
  | response (request_id : String)
  | sleep (millis : Nat)

/-- A response that has not come in time is `none`. -/
@[reducible]
def Res : Op → Type
  | .get => KmsClient
  | .update _ => Unit
  | .section _ => Bool
  | .now => Nat
  | .has_key => Bool
  | .load_key => Option JsonWebKey
  | .store_key _ => Unit
  | .new_request_id => String
  | .http_do _ => Except Failure FetchResponse
  | .details _ => Except Failure KmsDetails
  | .json _ => Except Failure Value
  | .text _ => Except Failure String
  | .parse _ => Except Failure Value
  | .generate_key => Except Failure LocalKey
  | .import_key _ => Except Failure Value
  | .wrap_rsa _ _ => Except (JweStage × Failure) String
  | .wrap _ _ _ => Except (JweStage × Failure) String
  | .parse_encrypted _ => Except Failure Unit
  | .decrypt _ _ => Except Failure String
  | .decode_payload _ => Except Failure String
  | .derive _ _ => Except Failure String
  | .lock => Unit
  | .unlock => Unit
  | .response _ => Option String
  | .sleep _ => Unit

/-- A method of `KmsClient`. -/
abbrev Kms (α : Type) : Type := Method Op Res Unit Failure α

def read : Kms KmsClient := Method.request Op.get
def update (f : Nat → KmsClient → KmsClient) : Kms Unit := Method.request (Op.update f)
def now : Kms Nat := Method.request Op.now
def load_key : Kms (Option JsonWebKey) := Method.request Op.load_key
def store_key (key : JsonWebKey) : Kms Unit := Method.request (Op.store_key key)
def has_key : Kms Bool := Method.request Op.has_key
def lock : Kms Unit := Method.request Op.lock
def unlock : Kms Unit := Method.request Op.unlock
def http_do (req : FetchRequest) : Kms (Except Failure FetchResponse) := Method.request (Op.http_do req)
def response (request_id : String) : Kms (Option String) := Method.request (Op.response request_id)
def new_request_id : Kms String := Method.request Op.new_request_id
def sleep (millis : Nat) : Kms Unit := Method.request (Op.sleep millis)

/-- An operation that may fail, and the error the caller makes of its failure. -/
def check {δ α : Type} (op : Op) (h : Res op = Except δ α) (failed : δ → Failure) : Kms α := do
  let outcome ← (Method.request op : Kms (Res op))
  Method.ofExcept ((h ▸ outcome : Except δ α).mapError failed)

/-- A critical section that refuses with an error. -/
def guard (f : Nat → KmsClient → Bool × KmsClient) (refusal : Failure) : Kms Unit := do
  let passed ← (Method.request (Op.section f) : Kms Bool)
  Method.reject (!passed) refusal

/-- Where a call stands in the exchange of a request for a key: the key it has loaded to
    wrap the request, the key of the request that is on its way, and the key of the
    request whose response it is about to unwrap. -/
inductive Exchange
  | idle
  | loaded (key : JsonWebKey)
  | sent (key : JsonWebKey)
  | answered (key : JsonWebKey)
  deriving DecidableEq, Repr

namespace Exchange

def after (self : Exchange) : (op : Op) → Res op → Exchange
  | .load_key, some key => match self with
    | .idle | .answered _ => .loaded key
    | .loaded first => .loaded first
    | .sent first => .answered first
  | .wrap key _ _, .ok _ => .sent key
  | .wrap _ _ _, .error _ => .idle
  | .section _, false => .idle
  | .http_do _, .error _ => .idle
  | .http_do _, .ok response => if response.ok then self else .idle
  | .response _, none => .idle
  | _, _ => self

/-- The key of an exchange whose response has not been followed by a new read. -/
def held : Exchange → Option JsonWebKey
  | .loaded key => some key
  | .sent key => some key
  | _ => none

end Exchange

/-- A client with its calls' shared variables, and a record of the key requests: each
    call's exchange, the key and key id of each request, and for each response that was
    decrypted the key of its request and the key it was decrypted with. -/
structure Env where
  client : KmsClient
  ephemeral_key : Option JsonWebKey := none
  time : Nat := 0
  request_mu : Bool := false
  responses : List (String × String) := []
  exchange : Nat → Exchange := fun _ => .idle
  wrapped : List (JsonWebKey × String) := []
  unwrapped : List (JsonWebKey × JsonWebKey) := []

/-- The outcome of an operation that the client does not determine. -/
inductive Answer
  | own
  | timed_out
  | id (request_id : String)
  | fetched (result : Except Failure FetchResponse)
  | details (result : Except Failure KmsDetails)
  | value (result : Except Failure Value)
  | text (result : Except Failure String)
  | key_pair (result : Except Failure LocalKey)
  | encrypted (result : Except (JweStage × Failure) String)
  | parsed (result : Except Failure Unit)

/-- A port of the client: its two methods that use the ephemeral key, the pending
    request that a response may resolve, and whether a timer removes a request. -/
structure Port where
  get_key : String → Kms Value
  initialize_client : Kms Unit
  resolves : List String → String → Bool
  timer_forgets : Bool

def forget (request_id : String) (self : KmsClient) : KmsClient :=
  { self with pending_requests := self.pending_requests.erase request_id }

/-- One operation in the shared variables. -/
def answer (port : Port) : (op : Op) → Answer → Env → Option (Res op × Env)
  | .get, .own, env => some (env.client, env)
  | .update f, .own, env => some ((), { env with client := f env.time env.client })
  | .section f, .own, env => some ((f env.time env.client).1, { env with client := (f env.time env.client).2 })
  | .now, .own, env => some (env.time, env)
  | .has_key, .own, env => some (env.ephemeral_key.isSome, env)
  | .load_key, .own, env => some (env.ephemeral_key, env)
  | .store_key key, .own, env => some ((), { env with ephemeral_key := some key })
  | .lock, .own, env => if env.request_mu then none else some ((), { env with request_mu := true })
  | .unlock, .own, env => some ((), { env with request_mu := false })
  | .response id, .own, env => (env.responses.lookup id).map fun wrapped => (some wrapped, env)
  | .response id, .timed_out, env =>
    some (none, if port.timer_forgets then { env with client := forget id env.client } else env)
  | .sleep _, .own, env => some ((), env)
  | .new_request_id, .id request_id, env => some (request_id, env)
  | .http_do _, .fetched result, env => some (result, env)
  | .details _, .details result, env => some (result, env)
  | .json _, .value result, env => some (result, env)
  | .parse _, .value result, env => some (result, env)
  | .import_key _, .value result, env => some (result, env)
  | .text _, .text result, env => some (result, env)
  | .decrypt _ _, .text result, env => some (result, env)
  | .decode_payload _, .text result, env => some (result, env)
  | .derive _ _, .text result, env => some (result, env)
  | .generate_key, .key_pair result, env => some (result, env)
  | .wrap_rsa _ _, .encrypted result, env => some (result, env)
  | .wrap _ _ _, .encrypted result, env => some (result, env)
  | .parse_encrypted _, .parsed result, env => some (result, env)
  | _, _, _ => none

def requested : (op : Op) → Res op → List (JsonWebKey × String)
  | .wrap key kid _, .ok _ => [(key, kid)]
  | _, _ => []

def opened : Op → Exchange → List (JsonWebKey × JsonWebKey)
  | .decrypt (.ephemeral key) _, .answered request_key => [(request_key, key)]
  | _, _ => []

namespace Env

def record (self : Env) (tid : Nat) (op : Op) (r : Res op) : Env :=
  { self with
    exchange := fun other => if other = tid then (self.exchange tid).after op r else self.exchange other
    wrapped := self.wrapped ++ requested op r
    unwrapped := self.unwrapped ++ opened op (self.exchange tid) }

end Env

def perform (port : Port) : Perform Op Res Env Answer := fun tid op choice env =>
  (answer port op choice env).map fun (r, env) => (r, env.record tid op r, [])

/-- A call begins or performs an operation, Mercury delivers a response to a pending
    request, or time passes. The operations between two awaits of a Python call follow
    one another at once; here they may also be interleaved with other calls. -/
inductive Label
  | get_key (key_uri : String)
  | initialize_client
  | perform (tid : Nat) (choice : Answer)
  | deliver (request_id wrapped : String)
  | wait (millis : Nat)

abbrev System : Type := Pool Op Res Env

def as_task {α : Type} (m : Kms α) : Task Op Res := { rest := (m ()).bind fun _ => .ret () }

namespace System

def start (self : System) (task : Task Op Res) : System := { self with tasks := self.tasks ++ [task] }

def step (port : Port) (self : System) : Label → Option System
  | .get_key key_uri => some (self.start (as_task (port.get_key key_uri)))
  | .initialize_client => some (self.start (as_task port.initialize_client))
  | .perform tid choice => self.advance (key_retrieval.perform port) tid choice
  | .deliver request_id wrapped =>
    if port.resolves self.env.client.pending_requests request_id then
      some { self with env := { self.env with
        client := forget request_id self.env.client
        responses := self.env.responses ++ [(request_id, wrapped)] } }
    else none
  | .wait millis => some { self with env := { self.env with time := self.env.time + millis } }

end System

/-- Every run of a port's client, with any number of calls at a time. -/
def calls (port : Port) (client : KmsClient) : Machine System Label where
  init := { env := { client := client }, tasks := [] }
  step := System.step port

/-- Every request for a key carried the id of the key it was wrapped with, and every
    response was decrypted with the key of its request. -/
structure SameKey (env : Env) : Prop where
  requests : ∀ request ∈ env.wrapped, request.2 = request.1.key_id
  responses : ∀ response ∈ env.unwrapped, response.2 = response.1

/-- The ephemeral key is replaced only while no call is between its first read of the
    key, to wrap a request, and its read to unwrap the response. -/
def Separate (self : System) : Label → Prop
  | .perform tid _ => ∀ key, self.head tid = some (.store_key key) →
      ∀ other < self.tasks.length, (self.env.exchange other).held = none
  | _ => True

/-- What a read of the ephemeral key found. -/
def loaded : (op : Op) → Res op → Option (Option JsonWebKey)
  | .load_key, found => some found
  | _, _ => none

/-- While a call holds a key the variable keeps it, and the call uses no other one. -/
def key_held : Monitor Op Res Exchange where
  allowed g op := match op with
    | .wrap key kid _ => g = .loaded key ∧ kid = key.key_id
    | .decrypt (.ephemeral key) _ => g = .answered key
    | _ => True
  moves g op r g' := g' = g.after op r ∧
    ∀ found, loaded op r = some found → ∀ key, g.held = some key → found = some key

/-- No exchange is under way before and after a method. -/
def Exchanges {α : Type} (m : Kms α) : Prop := m.Keeps key_held fun _ g => g.held = none

section soundness

variable {port : Port}

/-- What an operation does to the ephemeral key and the record. -/
theorem answer_cases {op : Op} {choice : Answer} {env env' : Env} {r : Res op}
    (hanswer : answer port op choice env = some (r, env')) :
    env'.exchange = env.exchange ∧ env'.wrapped = env.wrapped ∧ env'.unwrapped = env.unwrapped ∧
    ((∃ key, op = .store_key key) ∨ env'.ephemeral_key = env.ephemeral_key) := by
  cases op with
  | store_key key =>
    cases choice <;> cases hanswer
    exact ⟨rfl, rfl, rfl, .inl ⟨key, rfl⟩⟩
  | lock =>
    cases choice <;> simp only [answer, reduceCtorEq, Option.ite_none_left_eq_some, Option.some.injEq,
      Prod.mk.injEq] at hanswer
    obtain ⟨-, -, rfl⟩ := hanswer
    exact ⟨rfl, rfl, rfl, .inr rfl⟩
  | response id =>
    cases choice with
    | own =>
      simp only [answer, Option.map_eq_some_iff, Prod.mk.injEq] at hanswer
      obtain ⟨wrapped, -, -, rfl⟩ := hanswer
      exact ⟨rfl, rfl, rfl, .inr rfl⟩
    | timed_out =>
      simp only [answer, Option.some.injEq, Prod.mk.injEq] at hanswer
      obtain ⟨-, rfl⟩ := hanswer
      split <;> exact ⟨rfl, rfl, rfl, .inr rfl⟩
    | _ => cases hanswer
  | _ =>
    cases choice <;> cases hanswer
    exact ⟨rfl, rfl, rfl, .inr rfl⟩

theorem answer_loaded {op : Op} {choice : Answer} {env env' : Env} {r : Res op} {found : Option JsonWebKey}
    (hanswer : answer port op choice env = some (r, env')) (hloaded : loaded op r = some found) :
    found = env.ephemeral_key := by
  cases op with
  | load_key =>
    obtain rfl := Option.some.inj hloaded
    cases choice <;> cases hanswer
    rfl
  | _ => cases hloaded

/-- A call's view is its exchange, and the variable keeps the key that a call holds. -/
structure Viewed (env : Env) (views : List Exchange) : Prop where
  exchange : ∀ tid g, views[tid]? = some g → env.exchange tid = g
  unstarted : ∀ tid, views.length ≤ tid → env.exchange tid = .idle
  holds : ∀ tid key, (env.exchange tid).held = some key → env.ephemeral_key = some key
  same_key : SameKey env

theorem requested_same {g : Exchange} {op : Op} (hallowed : key_held.allowed g op) (r : Res op) :
    ∀ request ∈ requested op r, request.2 = request.1.key_id := by
  cases op with
  | wrap key kid plaintext =>
    obtain ⟨-, rfl⟩ := hallowed
    cases r with
    | ok wrapped =>
      intro request hmem
      obtain rfl := List.mem_singleton.mp hmem
      rfl
    | error e => exact nofun
  | _ => exact nofun

theorem opened_same {g : Exchange} {op : Op} (hallowed : key_held.allowed g op) :
    ∀ response ∈ opened op g, response.2 = response.1 := by
  cases op with
  | decrypt key wrapped =>
    cases key with
    | ecdh key => exact nofun
    | ephemeral key =>
      obtain rfl : g = .answered key := hallowed
      intro response hmem
      obtain rfl := List.mem_singleton.mp hmem
      rfl
  | _ => exact nofun

/-- A key that is held after an operation was held before it or has just been loaded. -/
theorem held_after {g : Exchange} {op : Op} {r : Res op} (hallowed : key_held.allowed g op) {key : JsonWebKey}
    (hheld : (g.after op r).held = some key) : g.held = some key ∨ loaded op r = some (some key) := by
  cases op with
  | load_key =>
    cases r with
    | none => exact .inl hheld
    | some found =>
      cases g with
      | idle | answered first =>
        obtain rfl := Option.some.inj hheld
        exact .inr rfl
      | loaded first => exact .inl hheld
      | sent first => cases hheld
  | wrap first kid plaintext =>
    obtain ⟨rfl, -⟩ := hallowed
    cases r with
    | ok wrapped => exact .inl hheld
    | error e => cases hheld
  | «section» f =>
    cases r with
    | true => exact .inl hheld
    | false => cases hheld
  | http_do req =>
    cases r with
    | error e => cases hheld
    | ok response =>
      simp only [Exchange.after] at hheld
      split at hheld
      · exact .inl hheld
      · cases hheld
  | response id =>
    cases r with
    | none => cases hheld
    | some wrapped => exact .inl hheld
  | _ => exact .inl hheld

theorem performs_sound : Pool.Sound key_held (fun _ => True) Viewed
    (fun env _ op _ => ∀ key, op = .store_key key → ∀ other, (env.exchange other).held = none) (perform port) := by
  intro tid op choice env r env' spawned views g hview hget hallowed hcond hperform
  simp only [perform, Option.map_eq_some_iff, Prod.mk.injEq] at hperform
  obtain ⟨⟨result, after⟩, hanswer, rfl, rfl, rfl⟩ := hperform
  obtain ⟨hexchange, hwrapped, hunwrapped, hkey⟩ := answer_cases hanswer
  obtain rfl : env.exchange tid = g := hview.exchange tid g hget
  have hlt : tid < views.length := (List.getElem?_eq_some_iff.mp hget).1
  have hself : (after.record tid op result).exchange tid = (env.exchange tid).after op result := by
    simp [Env.record, hexchange]
  have hothers : ∀ other, other ≠ tid → (after.record tid op result).exchange other = env.exchange other := by
    intro other hne
    simp [Env.record, hexchange, hne]
  refine ⟨(env.exchange tid).after op result, [], ⟨rfl, ?_⟩, ?_, .nil⟩
  · intro found hloaded key hheld
    exact (answer_loaded hanswer hloaded).trans (hview.holds tid key hheld)
  rw [List.append_nil]
  constructor
  case exchange =>
    intro other g hother
    obtain ⟨rfl, rfl⟩ | ⟨hne, hold⟩ := getElem?_set_cases hother
    · exact hself
    · exact (hothers other hne).trans (hview.exchange other g hold)
  case unstarted =>
    intro other hle
    rw [List.length_set] at hle
    have hne : other ≠ tid := by omega
    exact (hothers other hne).trans (hview.unstarted other hle)
  case holds =>
    intro other key hheld
    have hbefore : (env.exchange other).held = some key ∨ loaded op result = some (some key) := by
      by_cases heq : other = tid
      · subst heq
        exact held_after hallowed (hself ▸ hheld)
      · exact .inl (hothers other heq ▸ hheld)
    have hvariable : env.ephemeral_key = some key := by
      obtain hold | hnew := hbefore
      · exact hview.holds other key hold
      · exact (answer_loaded hanswer hnew).symm
    obtain ⟨stored, rfl⟩ | hkept := hkey
    · obtain hold | hnew := hbefore
      · rw [hcond stored rfl other] at hold
        cases hold
      · cases hnew
    · exact hkept.trans hvariable
  case same_key =>
    constructor
    · intro request hmem
      simp only [Env.record, hwrapped, List.mem_append] at hmem
      obtain hold | hnew := hmem
      · exact hview.same_key.requests request hold
      · exact requested_same hallowed result request hnew
    · intro response hmem
      simp only [Env.record, hunwrapped, hexchange, List.mem_append] at hmem
      obtain hold | hnew := hmem
      · exact hview.same_key.responses response hold
      · exact opened_same hallowed response hnew

/-- The other variables play no part. -/
theorem Viewed.of_eq {env env' : Env} {views : List Exchange} (hview : Viewed env views)
    (hexchange : env'.exchange = env.exchange) (hkey : env'.ephemeral_key = env.ephemeral_key)
    (hwrapped : env'.wrapped = env.wrapped) (hunwrapped : env'.unwrapped = env.unwrapped) : Viewed env' views where
  exchange := hexchange ▸ hview.exchange
  unstarted := hexchange ▸ hview.unstarted
  holds := by simpa only [hexchange, hkey] using hview.holds
  same_key := ⟨hwrapped ▸ hview.same_key.requests, hunwrapped ▸ hview.same_key.responses⟩

/-- A new call holds no key. -/
theorem Viewed.start {env : Env} {views : List Exchange} (hview : Viewed env views) :
    Viewed env (views ++ [.idle]) where
  exchange tid g hget := by
    obtain hold | ⟨rfl, rfl⟩ := getElem?_concat_cases hget
    · exact hview.exchange tid g hold
    · exact hview.unstarted _ (Nat.le_refl _)
  unstarted tid hle := by
    rw [List.length_append, List.length_singleton] at hle
    exact hview.unstarted tid (by omega)
  holds := hview.holds
  same_key := hview.same_key

theorem Exchanges.task {α : Type} {m : Kms α} (hm : Exchanges m) :
    (as_task m).Obeys key_held (fun _ => True) .idle := by
  show ((m ()).bind _).Obeys key_held _ _
  rw [Program.obeys_bind]
  exact Program.Obeys.mono (fun _ _ _ => trivial) (hm () .idle rfl)

abbrev Kept (s : System) (views : List Exchange) : Prop := s.Obeyed key_held (fun _ => True) Viewed views

def Tracked (s : System) : Prop := ∃ views, Kept s views

theorem Kept.start {s : System} {views : List Exchange} (hkept : Kept s views) {task : Task Op Res}
    (htask : task.Obeys key_held (fun _ => True) .idle) : Kept (s.start task) (views ++ [.idle]) :=
  ⟨hkept.view.start, List.rel_append hkept.tasks (.cons htask .nil)⟩

/-- What a port's methods do with the key they do in every run in which the key is
    replaced only between exchanges. -/
theorem same_key_of_exchanges {client : KmsClient} (hget : ∀ key_uri, Exchanges (port.get_key key_uri))
    (hhandshake : Exchanges port.initialize_client) {s : System}
    (hreach : (calls port client).Reachable Separate s) : SameKey s.env := by
  have htracked : Tracked s := by
    refine hreach.invariant ?_ ?_
    · exact ⟨[], ⟨nofun, fun _ _ => rfl, nofun, nofun, nofun⟩, .nil⟩
    · rintro s label next - ⟨views, hkept⟩ hseparate hstep
      cases label with
      | get_key key_uri =>
        obtain rfl := Option.some.inj hstep
        exact ⟨_, hkept.start (hget key_uri).task⟩
      | initialize_client =>
        obtain rfl := Option.some.inj hstep
        exact ⟨_, hkept.start hhandshake.task⟩
      | perform tid choice =>
        refine hkept.advance performs_sound ?_ hstep
        rintro op hhead key rfl other
        by_cases hlt : other < s.tasks.length
        · exact hseparate key hhead other hlt
        · rw [hkept.view.unstarted other (hkept.tasks.length_eq ▸ Nat.le_of_not_lt hlt)]
          rfl
      | deliver request_id wrapped =>
        simp only [calls, System.step, Option.ite_none_right_eq_some, Option.some.injEq] at hstep
        obtain ⟨-, rfl⟩ := hstep
        exact ⟨views, hkept.view.of_eq rfl rfl rfl rfl, hkept.tasks⟩
      | wait millis =>
        obtain rfl := Option.some.inj hstep
        exact ⟨views, hkept.view.of_eq rfl rfl rfl rfl, hkept.tasks⟩
  obtain ⟨views, hkept⟩ := htracked
  exact hkept.view.same_key

end soundness

/-- An operation outside the exchange of a key request. -/
def Outside : Op → Prop
  | .load_key => False
  | .wrap _ _ _ => False
  | .decrypt (.ephemeral _) _ => False
  | _ => True

/-- An operation that does not tell whether a request has failed, either. -/
def Still : Op → Prop
  | .section _ => False
  | .http_do _ => False
  | .response _ => False
  | op => Outside op

/-- A method that may run during an exchange, and ends it when it fails. -/
def Sends {α : Type} (m : Kms α) : Prop :=
  ∀ g, m.Obeys key_held () g fun r _ g' =>
    match r with
    | .ok _ => g' = g
    | .error _ => g'.held = none

/-- A method that is called when the exchange is over, and fails. -/
def Fails {α : Type} (m : Kms α) : Prop :=
  ∀ g, g.held = none → m.Obeys key_held () g fun r _ g' =>
    match r with
    | .ok _ => False
    | .error _ => g'.held = none

/-- A request is on its way, or has failed. -/
def Begun {α : Type} : Except Failure α → Exchange → Prop
  | .ok _, g => ∃ key, g = .sent key
  | .error _, g => g.held = none

/-- A method that begins an exchange with a request, or fails. -/
def Wraps {α : Type} (m : Kms α) : Prop :=
  ∀ g, g.held = none → m.Obeys key_held () g fun r _ g' => Begun r g'

/-- A method that ends the exchange it is called in. -/
def Finishes {α : Type} (m : Kms α) : Prop :=
  ∀ key, m.Obeys key_held () (.sent key) fun _ _ g' => g'.held = none

section rules

variable {α β δ : Type}

theorem allowed_of_outside {op : Op} (houtside : Outside op) (g : Exchange) : key_held.allowed g op := by
  cases op with
  | decrypt key wrapped =>
    cases key with
    | ecdh key => trivial
    | ephemeral key => exact houtside.elim
  | load_key | wrap => exact houtside.elim
  | _ => trivial

theorem exchanges_request (op : Op) (houtside : Outside op) : Exchanges (Method.request op : Kms (Res op)) := by
  apply Method.keeps_request
  intro _ g hnone
  refine ⟨allowed_of_outside houtside g, ?_⟩
  rintro r _ ⟨rfl, -⟩
  cases hheld : (g.after op r).held with
  | none => rfl
  | some key =>
    obtain hbefore | hloaded := held_after (allowed_of_outside houtside g) hheld
    · rw [hnone] at hbefore
      cases hbefore
    · cases op with
      | load_key => exact houtside.elim
      | _ => cases hloaded

theorem exchanges_check (op : Op) (houtside : Outside op) {h : Res op = Except δ α} {failed : δ → Failure} :
    Exchanges (check op h failed) :=
  Method.keeps_bind (exchanges_request op houtside) fun _ => Method.keeps_ofExcept _

theorem exchanges_guard {f : Nat → KmsClient → Bool × KmsClient} {refusal : Failure} :
    Exchanges (guard f refusal) :=
  Method.keeps_bind (exchanges_request (.section f) trivial) fun _ => Method.keeps_reject _ _

theorem Sends.exchanges {m : Kms α} (hm : Sends m) : Exchanges m := by
  intro _ g hnone
  refine (hm g).mono ?_
  intro r _ g' hpost
  cases r with
  | ok value => exact hpost ▸ hnone
  | error e => exact hpost

theorem sends_pure (value : α) : Sends (pure value) := fun _ => rfl

theorem sends_bind {m : Kms α} {f : α → Kms β} (hm : Sends m) (hf : ∀ value, Sends (f value)) :
    Sends (m >>= f) := by
  intro g
  refine (hm g).bind ?_ ?_
  · rintro value _ _ rfl
    exact hf value _
  · exact fun _ _ _ hnone => hnone

theorem sends_request (op : Op) (hstill : Still op) : Sends (Method.request op : Kms (Res op)) := by
  intro g
  cases op with
  | decrypt key wrapped =>
    cases key with
    | ecdh key =>
      refine ⟨trivial, ?_⟩
      rintro r _ ⟨rfl, -⟩
      rfl
    | ephemeral key => exact hstill.elim
  | load_key | wrap | «section» | http_do | response => exact hstill.elim
  | _ =>
    refine ⟨trivial, ?_⟩
    rintro r _ ⟨rfl, -⟩
    rfl

theorem sends_read : Sends read := sends_request .get trivial

theorem sends_update (f : Nat → KmsClient → KmsClient) : Sends (update f) := sends_request (.update f) trivial

theorem sends_lock : Sends lock := sends_request .lock trivial

theorem sends_unlock : Sends unlock := sends_request .unlock trivial

theorem sends_guard {f : Nat → KmsClient → Bool × KmsClient} {refusal : Failure} : Sends (guard f refusal) := by
  intro g
  refine ⟨trivial, ?_⟩
  rintro passed _ ⟨rfl, -⟩
  cases passed with
  | true => exact rfl
  | false => exact rfl

/-- The lock is released however the calls under it end. -/
theorem sends_attempt_unlock {m : Kms α} (hm : Sends m) :
    Sends (m.attempt >>= fun outcome => unlock >>= fun _ => Method.ofExcept outcome) := by
  intro g
  rw [Method.obeys_bind, Method.obeys_attempt]
  refine (hm g).mono ?_
  intro r _ g' hpost
  refine Method.obeys_bind_request.mpr ⟨trivial, ?_⟩
  rintro _ _ ⟨rfl, -⟩
  cases r with
  | ok value => exact hpost
  | error e => exact hpost

theorem fails_throw (e : Failure) : Fails (throw e : Kms α) := fun _ hnone => hnone

theorem fails_bind {m : Kms α} {f : α → Kms β} (hm : Exchanges m) (hf : ∀ value, Fails (f value)) :
    Fails (m >>= f) := by
  intro g hnone
  refine (hm () g hnone).bind ?_ ?_
  · exact fun value _ g' hnone' => hf value g' hnone'
  · exact fun _ _ _ hnone' => hnone'

theorem Fails.obeys {m : Kms α} (hm : Fails m) {g first : Exchange} (hnone : g.held = none) :
    m.Obeys key_held () g fun r _ g' =>
      match r with
      | .ok _ => g' = first
      | .error _ => g'.held = none := by
  refine (hm g hnone).mono ?_
  intro r _ g' hpost
  cases r with
  | ok value => exact hpost.elim
  | error e => exact hpost

/-- A POST goes on with the exchange only when it is accepted. -/
theorem sends_bind_http_do {req : FetchRequest} {f : Except Failure FetchResponse → Kms α}
    (hok : ∀ posted : FetchResponse, posted.ok = true → Sends (f (.ok posted)))
    (hrefused : ∀ posted : FetchResponse, posted.ok = false → Fails (f (.ok posted)))
    (herror : ∀ e, Fails (f (.error e))) : Sends (http_do req >>= f) := by
  intro g
  refine Method.obeys_bind_request.mpr ⟨trivial, ?_⟩
  rintro r _ ⟨rfl, -⟩
  cases r with
  | error e => exact (herror e).obeys rfl
  | ok posted =>
    cases hposted : posted.ok with
    | true =>
      simp only [Exchange.after, hposted, if_true]
      exact hok posted hposted g
    | false =>
      simp only [Exchange.after, hposted, Bool.false_eq_true, if_false]
      exact (hrefused posted hposted).obeys rfl

/-- The wait for a response ends the exchange when it times out. -/
theorem sends_bind_response {request_id : String} {f : Option String → Kms α}
    (hsome : ∀ wrapped, Sends (f (some wrapped))) (hnone : Fails (f none)) : Sends (response request_id >>= f) := by
  intro g
  refine Method.obeys_bind_request.mpr ⟨trivial, ?_⟩
  rintro r _ ⟨rfl, -⟩
  cases r with
  | some wrapped => exact hsome wrapped g
  | none => exact hnone.obeys rfl

theorem finishes_bind {m : Kms α} {f : α → Kms β} (hm : Finishes m) (hf : ∀ value, Exchanges (f value)) :
    Finishes (m >>= f) := by
  intro key
  refine (hm key).bind ?_ ?_
  · exact fun value _ g' hnone => hf value () g' hnone
  · exact fun _ _ _ hnone => hnone

theorem finishes_attempt {m : Kms α} (hm : Finishes m) : Finishes m.attempt := by
  intro key
  rw [Method.obeys_attempt]
  exact hm key

/-- The request is sent and the key is read again: it is still the one of the request. -/
theorem finishes_bind_load_key {send : Kms α} {f : α → Option JsonWebKey → Kms β} (hsend : Sends send)
    (hunwrap : ∀ value key, (f value (some key)).Obeys key_held () (.answered key) fun _ _ g' => g'.held = none) :
    Finishes (send >>= fun value => load_key >>= f value) := by
  intro key
  refine (hsend (.sent key)).bind ?_ ?_
  · rintro value _ _ rfl
    refine Method.obeys_bind_request.mpr ⟨trivial, ?_⟩
    rintro found _ ⟨rfl, hfound⟩
    obtain rfl := hfound found rfl key rfl
    exact hunwrap value key
  · exact fun _ _ _ hnone => hnone

theorem exchanges_bind_wraps {m : Kms α} {f : α → Kms β} (hm : Wraps m) (hf : ∀ value, Finishes (f value)) :
    Exchanges (m >>= f) := by
  intro _ g hnone
  refine (hm g hnone).bind ?_ ?_
  · rintro value _ _ ⟨key, rfl⟩
    exact hf value key
  · exact fun _ _ _ hnone' => hnone'

theorem wraps_bind {m : Kms α} {f : α → Kms β} (hm : Exchanges m) (hf : ∀ value, Wraps (f value)) :
    Wraps (m >>= f) := by
  intro g hnone
  refine (hm () g hnone).bind ?_ ?_
  · exact fun value _ g' hnone' => hf value g' hnone'
  · exact fun _ _ _ hnone' => hnone'

/-- A key that is found outside an exchange begins one. -/
theorem wraps_bind_load_key {f : Option JsonWebKey → Kms α} (hnone : Fails (f none))
    (hsome : ∀ key, (f (some key)).Obeys key_held () (.loaded key) fun r _ g' => Begun r g') :
    Wraps (load_key >>= f) := by
  intro g hidle
  refine Method.obeys_bind_request.mpr ⟨trivial, ?_⟩
  rintro found _ ⟨rfl, -⟩
  cases found with
  | none =>
    refine (hnone g hidle).mono ?_
    intro r _ g' hpost
    cases r with
    | ok value => exact hpost.elim
    | error e => exact hpost
  | some key =>
    cases g with
    | idle | answered => exact hsome key
    | loaded | sent => cases hidle

/-- A request is wrapped with the key that was loaded, and with its id. -/
theorem check_wrap {key : JsonWebKey} {plaintext : Value} {failed : JweStage × Failure → Failure} :
    (check (.wrap key key.key_id plaintext) rfl failed : Kms String).Obeys key_held () (.loaded key)
      fun r _ g' => Begun r g' := by
  refine Method.obeys_bind_request.mpr ⟨⟨rfl, rfl⟩, ?_⟩
  rintro r _ ⟨rfl, -⟩
  cases r with
  | ok wrapped => exact ⟨key, rfl⟩
  | error e => exact rfl

end rules

end webex.key_retrieval
