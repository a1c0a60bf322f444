import WebexHandler.Interaction.Run
import WebexHandler.Node.KmsClient.Client
import WebexHandler.Transition.Machine

open interaction json transition

namespace webex.node.kms_client

/-- The timeout of a pending request. -/
structure Timer where
  request_id : String
  armed_at : Nat
  deriving DecidableEq, Repr

/-- A client in the JavaScript runtime. Promise 0 is the resolved one that the chain of
    the mutex begins with; a timer belongs to the promise it rejects. -/
structure Runtime where
  kms : KmsClient
  time : Nat := 0
  next_promise : Nat := 1
  resolved : List Nat := [0]
  timers : List (Nat × Timer) := []
  responses : List (Nat × Except Thrown Value) := []

/-- What a call does without giving up its turn. -/
def sync : (op : Op) → Runtime → Option (Res op × Runtime)
  | .get, env => some (env.kms, env)
  | .update f, env => some ((), { env with kms := f env.time env.kms })
  | .now, env => some (env.time, env)
  | .new_promise, env => some (env.next_promise, { env with next_promise := env.next_promise + 1 })
  | .resolve promise, env => some ((), { env with resolved := promise :: env.resolved })
  | .set_timeout promise request_id, env => some ((), { env with timers := env.timers ++ [(promise, ⟨request_id, env.time⟩)] })
  | _, _ => none

/-- How an awaited promise settles. -/
inductive Settled
  | own
  | fetched (result : Except Thrown FetchResponse)
  | parsed (result : Except Thrown Value)
  | text (result : Except Thrown String)
  | ecdh_key (result : Except Thrown EphemeralKey)
  | jwk (result : Except Thrown Value)
  | wrapped (result : Except Thrown Wrapped)
  | body (result : Except Thrown Value)

/-- The promises of the mutex and of the responses settle as the client has settled
    them, and any other as its callee decides. -/
def answer : (op : Op) → Settled → Runtime → Option (Res op)
  | .turn promise, .own, env => if promise ∈ env.resolved then some () else none
  | .response promise, .own, env => env.responses.lookup promise
  | .sleep _, .own, _ => some ()
  | .http_do _, .fetched result, _ => some result
  | .json _, .parsed result, _ => some result
  | .text _, .text result, _ => some result
  | .create_ecdh_key, .ecdh_key result, _ => some result
  | .derive_ephemeral_key _ _, .ecdh_key result, _ => some result
  | .as_key _, .jwk result, _ => some result
  | .jwk_as_key _, .jwk result, _ => some result
  | .wrap _ _ _ _ _, .wrapped result, _ => some result
  | .unwrap _ _, .body result, _ => some result
  | _, _, _ => none

/-- A call, with what is left of it. -/
inductive Call
  | get_key (key_uri : String) (rest : Program Op Res (Except Thrown Value × Unit))
  | initialize_client (rest : Program Op Res (Except Thrown Unit × Unit))

/-- A client with its calls, and the time of the last failed `getKey` that was not
    rejected by an open breaker. -/
structure State where
  env : Runtime
  calls : List Call := []
  last_real_failure : Option Nat := none

/-- A call begins or goes on after an await; Mercury delivers KMS messages; the timer of
    a pending request fires; time passes. -/
inductive Label
  | get_key (key_uri : String)
  | initialize_client
  | resume (call : Nat) (settled : Settled)
  | deliver (data : Value)
  | timeout (promise : Nat)
  | wait (millis : Nat)

/-- `getKey` is about to be rejected because the breaker is open. -/
def fails_fast (kms : KmsClient) (key_uri : String) (time : Nat) : Bool :=
  (kms.key_cache.lookup key_uri).isNone && kms.cb_state == .open && decide (time - kms.cb_last_failure < CB_COOLDOWN_MS)

/-- The time of the last failure after a segment of a `getKey`. -/
def failure_after (rest : Program Op Res (Except Thrown Value × Unit)) (time : Nat) (last : Option Nat) : Option Nat :=
  match rest with
  | .ret (.error _, _) => some time
  | _ => last

namespace Runtime

/-- The first pending request is resolved with a message, and its timer is cleared. -/
def resolve_first (self : Runtime) (wrapped : Value) : Runtime :=
  match self.kms.pending_requests with
  | [] => self
  | (_, promise) :: rest => { self with
      kms := { self.kms with pending_requests := rest }
      timers := self.timers.filter fun timer => timer.1 != promise
      responses := self.responses ++ [(promise, .ok wrapped)] }

/-- The array of KMS messages of an event, at the top or under `encryption`. -/
def kms_messages (data : Value) : List Value :=
  match ((data.get "kmsMessages").filter truthy).or ((data.get "encryption").bind (·.get "kmsMessages")) with
  | some (.array messages) => messages
  | _ => []

def handle_kms_message (self : Runtime) (data : Value) : Runtime := (kms_messages data).foldl resolve_first self

/-- The timer of a pending request rejects the promise that waits for its response. -/
def fire (self : Runtime) (promise : Nat) : Option Runtime :=
  match self.timers.lookup promise with
  | none => none
  | some timer =>
    if timer.armed_at + KMS_RESPONSE_TIMEOUT ≤ self.time then some { self with
      kms := { self.kms with pending_requests := map_delete self.kms.pending_requests timer.request_id }
      timers := self.timers.filter fun entry => entry.1 != promise
      responses := self.responses ++ [(promise, .error (.kms_error ("KMS request " ++ timer.request_id ++
        " timed out after " ++ toString KMS_RESPONSE_TIMEOUT ++ "ms")))] }
    else none

end Runtime

variable (builtins : Builtins)

namespace State

def begin_get_key (s : State) (key_uri : String) : State :=
  let out := (kms_client.get_key builtins key_uri ()).settle sync s.env
  { env := out.2
    calls := s.calls ++ [.get_key key_uri out.1]
    last_real_failure :=
      if fails_fast s.env.kms key_uri s.env.time then s.last_real_failure
      else failure_after out.1 s.env.time s.last_real_failure }

def begin_initialize (s : State) : State :=
  let out := (kms_client.initialize_client builtins ()).settle sync s.env
  { s with env := out.2, calls := s.calls ++ [.initialize_client out.1] }

def resume (s : State) (call : Nat) (settled : Settled) : Option State :=
  match s.calls[call]? with
  | some (.get_key key_uri (.ask op next)) =>
    (answer op settled s.env).map fun r =>
      let out := (next r).settle sync s.env
      { env := out.2
        calls := s.calls.set call (.get_key key_uri out.1)
        last_real_failure := failure_after out.1 s.env.time s.last_real_failure }
  | some (.initialize_client (.ask op next)) =>
    (answer op settled s.env).map fun r =>
      let out := (next r).settle sync s.env
      { s with env := out.2, calls := s.calls.set call (.initialize_client out.1) }
  | _ => none

def step (s : State) : Label → Option State
  | .get_key key_uri => some (s.begin_get_key builtins key_uri)
  | .initialize_client => some (s.begin_initialize builtins)
  | .resume call settled => s.resume call settled
  | .deliver data => some { s with env := s.env.handle_kms_message data }
  | .timeout promise => (s.env.fire promise).map fun env => { s with env := env }
  | .wait millis => some { s with env := { s.env with time := s.env.time + millis } }

end State

/-- Every run of a client, with any number of calls at a time. -/
def calls (kms : KmsClient) : Machine State Label where
  init := { env := { kms := kms } }
  step := State.step builtins

/-- The built-in functions on the inputs of the runs in this development. -/
def sample_builtins : Builtins where
  parse_url _ := none
  parse_json _ := .error (.error "Unexpected end of JSON input")
  stringify _ := ""
  string _ := ""
  to_lower_case text := text

def sample_client : KmsClient :=
  new "token" "https://wdm-a.wbx2.com/wdm/api/v1/devices/dev-123" "user-1" "https://encryption-a.wbx2.com"

end webex.node.kms_client
