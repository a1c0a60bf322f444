import WebexHandler.Go.KmsClient.Rules
import WebexHandler.Python.KmsClient.Rules

open interaction json transition

namespace webex.key_retrieval

/-- In any run of either port in which the ephemeral key is replaced only while no key
    request is under way, every request carries the id of the key it is wrapped with and
    every response is decrypted with the key of its request. -/
theorem same_key_of_separate {lib : Library} {client : KmsClient} {go_client python_client : System}
    (hgo : (calls (go.key_retrieval.port lib) client).Reachable Separate go_client)
    (hpython : (calls (python.key_retrieval.port lib) client).Reachable Separate python_client) :
    SameKey go_client.env ∧ SameKey python_client.env :=
  ⟨same_key_of_exchanges go.key_retrieval.get_key_exchanges go.key_retrieval.initialize_client_exchanges hgo,
    same_key_of_exchanges python.key_retrieval.get_key_exchanges python.key_retrieval.initialize_client_exchanges
      hpython⟩

/-- `Separate` as a test. -/
def separate (self : System) : Label → Bool
  | .perform tid _ => match self.head tid with
    | some (.store_key _) => (List.range self.tasks.length).all fun other => (self.env.exchange other).held.isNone
    | _ => true
  | _ => true

theorem separate_iff {self : System} {label : Label} (htest : separate self label = true) : Separate self label := by
  cases label with
  | perform tid choice =>
    intro key hhead other hlt
    simp only [separate, hhead, List.all_eq_true, List.mem_range, Option.isNone_iff_eq_none] at htest
    exact htest other hlt
  | _ => trivial

section sample

def sample_library : Library where
  parse_url _ := .ok ("kms", "wbx2.com")
  to_lower text := text
  parse_time _ := none
  naive _ := false

def sample_client : KmsClient where
  token := "token"
  device_url := "https://wdm-a.wbx2.com/wdm/api/v1/devices/dev-123"
  user_id := "user-1"
  encryption_service_url := "https://encryption-a.wbx2.com"

def sample_jwk : Value := .object [("kty", .string "EC"), ("crv", .string "P-256")]

/-- The body of a response with a key. -/
def sample_response (uri : String) : Value :=
  .object [("body", .object [("key", .object [("jwk", sample_jwk), ("uri", .string uri)])])]

def sample_pair : LocalKey := { private_key := "d", public_jwk := sample_jwk }

def own (tid count : Nat) : List Label := List.replicate count (.perform tid .own)

/-- A handshake of the Go port up to the wait for its response. -/
def go_request (tid : Nat) (request_id : String) : List Label :=
  ([.initialize_client, .perform tid .own, .perform tid (.fetched (.ok ⟨200, true⟩)),
    .perform tid (.details (.ok ⟨"kms://wbx2.com", some sample_jwk⟩)), .perform tid .own,
    .perform tid (.value (.ok sample_jwk)), .perform tid (.key_pair (.ok sample_pair)),
    .perform tid (.id request_id), .perform tid .own, .perform tid (.encrypted (.ok "handshake"))] : List Label) ++ own tid 3 ++
  ([.perform tid (.fetched (.ok ⟨202, true⟩))] : List Label)

/-- The rest of the handshake. -/
def go_derive (tid : Nat) (request_id uri shared_key : String) : List Label :=
  .deliver request_id "h.k.i.c.t" :: own tid 2 ++
  ([.perform tid (.parsed (.ok ())), .perform tid (.text (.ok "response")),
    .perform tid (.value (.ok (sample_response uri))), .perform tid (.value (.ok sample_jwk)),
    .perform tid (.text (.ok shared_key))] : List Label) ++ own tid 3

/-- A retrieval of the Go port up to the lock of its request. -/
def go_wrap (tid : Nat) (request_id : String) : List Label :=
  .get_key "kms://key-1" :: own tid 7 ++ [.perform tid (.id request_id)] ++ own tid 3 ++
  [.perform tid (.encrypted (.ok "retrieve"))] ++ own tid 1

/-- The rest of the retrieval, up to the decryption of its response. -/
def go_unwrap (tid : Nat) (request_id : String) (outcome : Except Failure String) : List Label :=
  own tid 2 ++ ([.perform tid (.fetched (.ok ⟨202, true⟩)), .deliver request_id "h.k.i.c.t"] : List Label) ++ own tid 3 ++
  ([.perform tid (.parsed (.ok ())), .perform tid (.text outcome)] : List Label)

def python_request (tid : Nat) (request_id : String) : List Label :=
  ([.initialize_client, .perform tid .own, .perform tid (.fetched (.ok ⟨200, true⟩)),
    .perform tid (.value (.ok (.object [("kmsCluster", .string "kms://wbx2.com"), ("rsaPublicKey", sample_jwk)]))),
    .perform tid .own, .perform tid (.key_pair (.ok sample_pair)), .perform tid (.id request_id),
    .perform tid .own, .perform tid (.value (.ok sample_jwk)), .perform tid (.encrypted (.ok "handshake"))] : List Label) ++
  own tid 4 ++ ([.perform tid (.fetched (.ok ⟨202, true⟩))] : List Label)

def python_derive (tid : Nat) (request_id uri shared_key : String) : List Label :=
  .deliver request_id "h.k.i.c.t" :: own tid 2 ++
  [.perform tid (.text (.ok "response")), .perform tid (.value (.ok (sample_response uri))),
    .perform tid (.value (.ok sample_jwk)), .perform tid (.text (.ok shared_key))] ++ own tid 3

def python_wrap (tid : Nat) (request_id : String) : List Label :=
  .get_key "kms://key-1" :: own tid 5 ++ [.perform tid (.id request_id)] ++ own tid 2 ++
  [.perform tid (.encrypted (.ok "retrieve"))] ++ own tid 1

def python_unwrap (tid : Nat) (request_id : String) (outcome : Except Failure String) : List Label :=
  own tid 3 ++ [.perform tid (.fetched (.ok ⟨202, true⟩)), .deliver request_id "h.k.i.c.t"] ++ own tid 3 ++
  [.perform tid (.text outcome)]

/-- A key is retrieved, and the next one after another handshake. -/
def go_labels : List Label :=
  go_request 0 "r0" ++ go_derive 0 "r0" "kms://ephemeral-1" "k1" ++ go_wrap 1 "r1" ++ go_unwrap 1 "r1" (.ok "key") ++
  go_request 2 "r2" ++ go_derive 2 "r2" "kms://ephemeral-2" "k2"

def python_labels : List Label :=
  python_request 0 "r0" ++ python_derive 0 "r0" "kms://ephemeral-1" "k1" ++ python_wrap 1 "r1" ++
  python_unwrap 1 "r1" (.ok "key") ++ python_request 2 "r2" ++ python_derive 2 "r2" "kms://ephemeral-2" "k2"

/-- A handshake is under way while a key request is wrapped, and replaces the key before
    the request is sent. -/
def go_overlap : List Label :=
  go_request 0 "r0" ++ go_derive 0 "r0" "kms://ephemeral-1" "k1" ++ go_request 1 "r1" ++ go_wrap 2 "r2" ++
  go_derive 1 "r1" "kms://ephemeral-2" "k2" ++ go_unwrap 2 "r2" (.error (.other "error in cryptographic primitive"))

def python_overlap : List Label :=
  python_request 0 "r0" ++ python_derive 0 "r0" "kms://ephemeral-1" "k1" ++ python_request 1 "r1" ++
  python_wrap 2 "r2" ++ python_derive 1 "r1" "kms://ephemeral-2" "k2" ++
  python_unwrap 2 "r2" (.error (.other "No recipient matched the provided key"))

theorem go_labels_run : ∃ s, (calls (go.key_retrieval.port sample_library) sample_client).run
    { env := { client := sample_client }, tasks := [] } go_labels = some s ∧ s.env.unwrapped.length = 1 :=
  ⟨_, rfl, rfl⟩

theorem python_labels_run : ∃ s, (calls (python.key_retrieval.port sample_library) sample_client).run
    { env := { client := sample_client }, tasks := [] } python_labels = some s ∧ s.env.unwrapped.length = 1 :=
  ⟨_, rfl, rfl⟩

theorem handshakes_between_requests_same_key :
    ∃ go_client python_client,
      (calls (go.key_retrieval.port sample_library) sample_client).run { env := { client := sample_client }, tasks := [] }
        go_labels = some go_client ∧
      (calls (python.key_retrieval.port sample_library) sample_client).run
        { env := { client := sample_client }, tasks := [] } python_labels = some python_client ∧
      go_client.env.unwrapped.length = 1 ∧ python_client.env.unwrapped.length = 1 ∧
      SameKey go_client.env ∧ SameKey python_client.env := by
  obtain ⟨go_client, hgo, hgo_length⟩ := go_labels_run
  obtain ⟨python_client, hpython, hpython_length⟩ := python_labels_run
  refine ⟨go_client, python_client, hgo, hpython, hgo_length, hpython_length, same_key_of_separate
    (Machine.Reachable.run .init go_labels ?_ hgo) (Machine.Reachable.run .init python_labels ?_ hpython)⟩
  · exact .mono (fun _ _ => separate_iff) (.of_meets (by decide))
  · exact .mono (fun _ _ => separate_iff) (.of_meets (by decide))

theorem not_same_key {env : Env} (request_key key : JsonWebKey) (hmem : (request_key, key) ∈ env.unwrapped)
    (hne : key ≠ request_key) : ¬ SameKey env :=
  fun hsame => hne (hsame.responses _ hmem)

/-- In both ports a response is decrypted with the key of the later handshake. -/
theorem overlapping_handshake_changes_key :
    (∃ s, (calls (go.key_retrieval.port sample_library) sample_client).Reachable Machine.Always s ∧
      ¬ SameKey s.env) ∧
    ∃ s, (calls (python.key_retrieval.port sample_library) sample_client).Reachable Machine.Always s ∧
      ¬ SameKey s.env := by
  constructor
  · refine ⟨_, Machine.Reachable.run .init go_overlap (Machine.meets_always _ _) rfl, ?_⟩
    exact not_same_key ⟨"k1", "kms://ephemeral-1"⟩ ⟨"k2", "kms://ephemeral-2"⟩
      (List.mem_singleton.mpr rfl) (by decide)
  · refine ⟨_, Machine.Reachable.run .init python_overlap (Machine.meets_always _ _) rfl, ?_⟩
    exact not_same_key ⟨"k1", "kms://ephemeral-1"⟩ ⟨"k2", "kms://ephemeral-2"⟩
      (List.mem_singleton.mpr rfl) (by decide)

end sample

end webex.key_retrieval
