import Mathlib.Logic.Function.Basic
import WebexHandler.Rust.Handler.Lifecycle

open interaction json transition

namespace webex.rust.handler

open device_manager (DeviceManager DeviceRegistration)
open kms_client (KmsClient Mailbox Waited)

/-- An activity the event loop received, with the task that handles it and the time of
    its arrival. -/
structure Delivery where
  task : Nat
  activity : MercuryActivity
  time : Nat

/-- What the tasks share: the mutexes, the bounded event channel, and the pending
    lists of the KMS clients. The rest is a record of the run. -/
structure Env where
  capacity : Nat
  content : (cell : Cell) → Content cell
  owner : Cell → Option Nat := fun _ => none
  queue : List HandlerEvent := []
  mailboxes : Nat → Mailbox := fun _ => {}
  next_mailbox : Nat := 0
  /-- The event loop's task, once the receiver of the Mercury events is taken. -/
  event_loop : Option Nat := none
  next_task : Nat
  /-- The events sent on the channel, with the task that sent them. -/
  sent : List (Nat × HandlerEvent) := []
  deliveries : List Delivery := []
  time : Nat := 0

/-- How the environment resolves an operation. -/
inductive Choice
  | done
  | fetched (result : Except String FetchResponse)
  | opened (result : Except WebexError Unit)
  | flag (value : Bool)
  | count (value : Nat)
  | uuid (id : String)
  | bytes (drawn : Bytes)
  | event (event : MercuryEvent)
  | received
  | closed
  | timed_out
  | elapsed
  | tick

/-- The choices that only a timer makes. -/
def Choice.is_timer : Choice → Bool
  | .timed_out | .elapsed | .tick => true
  | _ => false

/-- The socket reports every end of a connection but never that it is back up. -/
def emitted_by_socket : MercuryEvent → Bool
  | .connected => false
  | _ => true

namespace Env

def store (self : Env) (cell : Cell) (content : Content cell) : Env :=
  { self with content := Function.update self.content cell content }

def set_owner (self : Env) (cell : Cell) (owner : Option Nat) : Env :=
  { self with owner := Function.update self.owner cell owner }

def set_mailbox (self : Env) (mailbox : Nat) (value : Mailbox) : Env :=
  { self with mailboxes := Function.update self.mailboxes mailbox value }

/-- The operations of a `KmsClient`, on the pending list it shares. -/
def perform_kms (self : Env) (mailbox : Nat) : (op : kms_client.Op) → Choice → Option (kms_client.Res op × Env)
  | .fetch _, .fetched result => some (result, self)
  | .now, .done => some (self.time, self)
  | .sleep _, .elapsed => some ((), self)
  | .new_v4, .uuid id => some (id, self)
  | .random _, .bytes drawn => some (drawn, self)
  | .register_pending request_id, .done =>
    let registered := (self.mailboxes mailbox).register_pending request_id
    some (registered.1, self.set_mailbox mailbox registered.2)
  | .remove_pending request_id, .done =>
    some ((), self.set_mailbox mailbox ((self.mailboxes mailbox).remove_pending request_id))
  | .wait_response rx _, .received =>
    ((self.mailboxes mailbox).sent rx).map fun response => (.received response, self)
  | .wait_response rx _, .closed =>
    if (self.mailboxes mailbox).sent rx = none ∧ rx ∉ (self.mailboxes mailbox).pending.map Prod.snd then
      some (.closed, self)
    else none
  | .wait_response rx _, .timed_out =>
    if (self.mailboxes mailbox).sent rx = none then some (.timed_out, self) else none
  | _, _ => none

end Env

variable (crates : Crates)

/-- A handler function run as a task of its own, whose result nobody looks at. -/
def as_task {α : Type} (m : Handler α) : Program Op Res Unit := (m ()).bind fun _ => .ret ()

/-- One operation of a task. A mutex is taken only while it is free, and `send` waits
    for room in the channel. -/
def perform (tid : Nat) : (op : Op) → Choice → Env → Option (Res op × Env × List (Task Op Res))
  | .acquire cell, .done, env =>
    if env.owner cell = none then some (env.content cell, env.set_owner cell (some tid), []) else none
  | .release cell content, .done, env => some ((), (env.store cell content).set_owner cell none, [])
  | .fetch _, .fetched result, env => some (result, env, [])
  | .kms mailbox op, choice, env => (env.perform_kms mailbox op choice).map fun (r, env) => (r, env, [])
  | .new_mailbox, .done, env => some (env.next_mailbox, { env with next_mailbox := env.next_mailbox + 1 }, [])
  | .handle_kms_message mailbox data, .done, env =>
    some ((), env.set_mailbox mailbox ((env.mailboxes mailbox).handle_kms_message data), [])
  | .open_socket _ _ _, .opened result, env => some (result, env, [])
  | .mercury_disconnect, .done, env => some ((), env, [])
  | .mercury_connected, .flag value, env => some (value, env, [])
  | .mercury_attempts, .count value, env => some (value, env, [])
  | .start_event_loop, .done, env =>
    match env.event_loop with
    | some _ => some ((), env, [])
    | none => some ((), { env with event_loop := some env.next_task, next_task := env.next_task + 1 },
        [Task.loop (as_task (event_loop crates))])
  | .next_event, .event event, env => if emitted_by_socket event then some (some event, env, []) else none
  | .next_event, .tick, env => some (none, env, [])
  | .spawn_activity activity, .done, env =>
    some ((), { env with
      next_task := env.next_task + 1
      deliveries := env.deliveries ++ [⟨env.next_task, activity, env.time⟩] },
      [{ rest := as_task (activity_task crates activity) }])
  | .now, .done, env => some (env.time, env, [])
  | .send event, .done, env =>
    if env.queue.length < env.capacity then
      some ((), { env with queue := env.queue ++ [event], sent := env.sent ++ [(tid, event)] }, [])
    else none
  | .try_send event, .done, env =>
    if env.queue.length < env.capacity then
      some ((), { env with queue := env.queue ++ [event], sent := env.sent ++ [(tid, event)] }, [])
    else some ((), env, [])
  | _, _, _ => none

/-- The calls the consumer makes. -/
inductive Call
  | connect
  | disconnect
  | reconnect (new_token : String)
  | status

def call_program (ignore_self_messages : Bool) : Call → Program Op Res Unit
  | .connect => as_task (connect crates ignore_self_messages)
  | .disconnect => as_task disconnect
  | .reconnect new_token => as_task (reconnect crates ignore_self_messages new_token)
  | .status => as_task status

/-- The steps of the system: the consumer, which is task 0, begins a call or receives
    an event while it is not in a call; a task performs an operation; time passes. -/
inductive Label
  | call (call : Call)
  | receive
  | perform (tid : Nat) (choice : Choice)
  | wait (millis : Nat)

abbrev System : Type := Pool Op Res Env

namespace System

def consumer_idle (s : System) : Bool :=
  match s.tasks[0]? with
  | none => false
  | some task => match task.rest with
    | .ret _ => true
    | .ask _ _ => false

def step (ignore_self_messages : Bool) (s : System) : Label → Option System
  | .call call =>
    if s.consumer_idle then some { s with tasks := s.tasks.set 0 { rest := call_program crates ignore_self_messages call } }
    else none
  | .receive =>
    match s.env.queue with
    | [] => none
    | _ :: rest => if s.consumer_idle then some { s with env := { s.env with queue := rest } } else none
  | .perform tid choice => s.advance (handler.perform crates) tid choice
  | .wait millis => some { s with env := { s.env with time := s.env.time + millis } }

end System

/-- The contents of the mutexes of a new handler. -/
def initial_content (token : String) : (cell : Cell) → Content cell
  | .token => token
  | .device_manager => ({} : DeviceManager)
  | .kms_client => (none : Option (Nat × KmsClient))
  | .kms_response_handler => (none : Option Nat)
  | .registration => (none : Option DeviceRegistration)
  | .connected => false
  | .connecting => false
  | .bot_person_id => (none : Option String)
  | .recent_activity_ids => ([] : List (String × Nat))

/-- A new handler with an event channel of the given capacity, and its consumer. -/
def system (token : String) (ignore_self_messages : Bool) (capacity : Nat) : Machine System Label where
  init := {
    env := { capacity := capacity, content := initial_content token, next_task := 1 }
    tasks := [{ rest := .ret () }] }
  step := System.step crates ignore_self_messages

section sample

open kms_client (ascii ok_response kms_event)

def registration_text : List String :=
  ["\x7b\"url\":", "\"https://wdm-a.wbx2.com", "/wdm/api/v1/devices/dev-123\",", "\"webSocketUrl\":",
    "\"wss://mercury.wbx2.com\",", "\"userId\":\"user-1\",", "\"services\":\x7b", "\"encryptionServiceUrl\":",
    "\"https://encryption-", "a.wbx2.com\"\x7d\x7d"]

def listing_text : List String := ["\x7b\"devices\":[]\x7d"]

def foreign_listing_text : List String :=
  ["\x7b\"devices\":[\x7b\"url\":", "\"https://evil.example", "/steal\",\"webSocketUrl\":", "\"\",\"userId\":\"u\",\"name\":",
    "\"webex-message-handler\",", "\"deviceType\":\"DESKTOP\"\x7d]\x7d"]

def sample_documents : List (Bytes × Value) :=
  [(ascii registration_text, .object [("url", .string "https://wdm-a.wbx2.com/wdm/api/v1/devices/dev-123"),
      ("webSocketUrl", .string "wss://mercury.wbx2.com"), ("userId", .string "user-1"),
      ("services", .object [("encryptionServiceUrl", .string "https://encryption-a.wbx2.com")])]),
    (ascii listing_text, .object [("devices", .array [])]),
    (ascii foreign_listing_text, .object [("devices", .array [.object [("url", .string "https://evil.example/steal"),
      ("webSocketUrl", .string ""), ("userId", .string "u"), ("name", .string "webex-message-handler"),
      ("deviceType", .string "DESKTOP")]])])] ++ kms_client.sample_documents

def sample_from_slice (body : Bytes) : Except String Value :=
  (sample_documents.lookup body).elim (.error "expected value at line 1 column 1") .ok

/-- The derived deserialiser of `DeviceRegistration`. -/
def sample_registration (value : Value) : Except String DeviceRegistration :=
  match (value.get "webSocketUrl").bind Value.as_str, (value.get "url").bind Value.as_str,
    (value.get "userId").bind Value.as_str with
  | some web_socket_url, some device_url, some user_id => .ok {
      web_socket_url := web_socket_url
      device_url := device_url
      user_id := user_id
      name := (value.get "name").bind Value.as_str
      device_type := (value.get "deviceType").bind Value.as_str
      services := match value.get "services" with
        | some (.object members) => members.filterMap fun member => member.2.as_str.map (member.1, ·)
        | _ => [] }
  | _, _, _ => .error "missing field"

/-- The other crates on the inputs of the runs below. -/
def sample_crates : Crates where
  kms := { kms_client.sample_crates with from_slice := sample_from_slice }
  device := {
    from_slice := sample_from_slice
    to_string := kms_client.sample_crates.to_string
    registration_from_slice := fun body => sample_from_slice body >>= sample_registration
    registration_from_value := sample_registration
    device_list_from_slice := fun body => do
      match ((← sample_from_slice body).get "devices").bind Value.as_array with
      | some devices => .ok devices
      | none => .error "missing field `devices`" }
  decrypt_message_jwe _ _ := .error (.decryption "AES-GCM decryption failed: aead::Error")
  from_utf8 bytes := some (kms_client.sample_crates.from_utf8_lossy bytes)
  standard_decode _ := none
  parse_mentions _ := ([], [])
  socket := {
    from_str := fun _ => .error "expected value at line 1 column 1"
    activity_from_value := fun _ => .error "missing field `id`"
    parse_url := fun url => if url = "" then .error "relative URL without a base" else .ok url
    append_pairs := fun url pairs =>
      url ++ "?" ++ String.intercalate "&" (pairs.map fun pair => pair.1 ++ "=" ++ pair.2) }

/-- The consumer's call, up to its first request: the catalog of services. -/
def connect_labels : List Label := .call .connect :: List.replicate 9 (.perform 0 .done)

/-- A connection with trusted answers, up to the request for the KMS details. -/
def trusted_labels : List Label :=
  connect_labels ++ ([.perform 0 (.fetched (.error "connection refused")),
    .perform 0 (.fetched (ok_response 200 (ascii listing_text))),
    .perform 0 (.fetched (ok_response 200 (ascii registration_text)))] : List Label) ++
  List.replicate 7 (.perform 0 .done) ++ ([.perform 0 (.opened (.ok ()))] : List Label) ++ List.replicate 2 (.perform 0 .done)

/-- The rest of the connection. Task 1 is the event loop, which delivers the answer to
    the handshake. -/
def connected_labels : List Label :=
  trusted_labels ++ ([.perform 0 (.fetched (ok_response 200 (ascii kms_client.details_text))),
    .perform 0 (.bytes (List.replicate 31 0 ++ [1])), .perform 0 (.uuid "r0"), .perform 0 (.bytes []),
    .perform 0 .done, .perform 0 (.fetched (ok_response 202 [])),
    .perform 1 (.event (.kms_response (kms_event kms_client.handshake_jwe)))] : List Label) ++
  List.replicate 3 (.perform 1 .done) ++ ([.perform 0 .received] : List Label) ++ List.replicate 9 (.perform 0 .done)

/-- The deletion of a message, as Mercury reports it. -/
def deletion (id : String) : MercuryActivity where
  id := id
  verb := "delete"
  object := { id := "message-1", object_type := "activity" }
  target := { id := "room-1", object_type := "conversation" }
  actor := { id := "person-1", object_type := "person" }

/-- The event loop receives an activity and starts the task that handles it. -/
def deliver_labels (activity : MercuryActivity) : List Label :=
  [.perform 1 (.event (.activity activity)), .perform 1 .done]

end sample

end webex.rust.handler
