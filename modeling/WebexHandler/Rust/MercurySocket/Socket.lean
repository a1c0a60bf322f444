import WebexHandler.Interaction.Program
import WebexHandler.Rust.Activity

open interaction json

namespace webex.rust.mercury_socket

/-- The functions of other crates that the socket calls. -/
structure Crates where
  from_str : String → Except String Value
  activity_from_value : Value → Except String MercuryActivity
  /-- `Url::parse`, with the URL as it is printed. -/
  parse_url : String → Except String String
  append_pairs : String → List (String × String) → String

/-- What the stream of a WebSocket yields: a text frame, a Close frame with its code
    and reason, any other frame, or an error. -/
inductive Item
  | text (text : String)
  | close (frame : Option (UInt16 × String))
  | other
  | error (message : String)

/-- A pending or finished reset of the attempts counter, with the socket whose
    connection it watches and the time at which it was armed. -/
structure Reset where
  socket : Nat
  armed_at : Nat
  pending : Bool := true
  deriving DecidableEq, Repr

/-- What `connect`, `disconnect` and the read loops of a `MercurySocket` share, and the
    clock. An event in the channel keeps the number of the socket whose read loop sent
    it. -/
structure Shared where
  token : String := ""
  base_url : String := ""
  connected : Bool := false
  should_reconnect : Bool := true
  reconnect_attempts : Nat := 0
  stability_task : Option Reset := none
  events : List (Option Nat × MercuryEvent) := []
  time : Nat := 0

/-- The operations of the tasks on what they share. A read loop has its stream and its
    half of the socket to itself, but other tasks run between two items. -/
inductive Action
  | set_token (token : String)
  | get_token
  | set_base_url (base_url : String)
  | get_base_url
  | set_connected (value : Bool)
  | get_connected
  | set_should_reconnect (value : Bool)
  | get_should_reconnect
  /-- Under the lock on the counter: the next attempt, if there is one left. -/
  | take_attempt (max_reconnect : Nat)
  | cancel_stability_timer
  | schedule_attempts_reset (socket : Nat)
  | send (event : MercuryEvent)
  | next (item : Option Item)
  /-- Whether the ack could be written is not looked at. -/
  | ack (message : Value)
  | sleep (attempt : Nat)

@[reducible]
def Answer : Action → Type
  | .get_token => String
  | .get_base_url => String
  | .get_connected => Bool
  | .get_should_reconnect => Bool
  | .take_attempt _ => Option Nat
  | _ => Unit

/-- An action of the read loop of socket `origin`, or of a caller. -/
def Shared.apply (origin : Option Nat) : (action : Action) → Shared → Answer action × Shared
  | .set_token token, shared => ((), { shared with token := token })
  | .get_token, shared => (shared.token, shared)
  | .set_base_url base_url, shared => ((), { shared with base_url := base_url })
  | .get_base_url, shared => (shared.base_url, shared)
  | .set_connected value, shared => ((), { shared with connected := value })
  | .get_connected, shared => (shared.connected, shared)
  | .set_should_reconnect value, shared => ((), { shared with should_reconnect := value })
  | .get_should_reconnect, shared => (shared.should_reconnect, shared)
  | .take_attempt max_reconnect, shared =>
    if max_reconnect ≤ shared.reconnect_attempts then (none, shared)
    else (some (shared.reconnect_attempts + 1), { shared with reconnect_attempts := shared.reconnect_attempts + 1 })
  | .cancel_stability_timer, shared => ((), { shared with stability_task := none })
  | .schedule_attempts_reset socket, shared => ((), { shared with stability_task := some ⟨socket, shared.time, true⟩ })
  | .send event, shared => ((), { shared with events := shared.events ++ [(origin, event)] })
  | .next _, shared => ((), shared)
  | .ack _, shared => ((), shared)
  | .sleep _, shared => ((), shared)

variable (crates : Crates)

def prepare_url (base_url : String) (timestamp : Nat) : Except WebexError String := do
  let url ← (crates.parse_url base_url).mapError fun e => .mercury_connection ("Invalid URL: " ++ e) none
  return crates.append_pairs url [("outboundWireFormat", "text"), ("bufferStates", "true"),
    ("aliasHttpStatus", "true"), ("clientTimestamp", toString timestamp)]

/-- A URL is prepared only if it parses. -/
theorem prepare_url_parses {crates : Crates} {base_url prepared_url : String} {timestamp : Nat}
    (hprepared : prepare_url crates base_url timestamp = .ok prepared_url) :
    ∃ url, crates.parse_url base_url = .ok url := by
  unfold prepare_url at hprepared
  cases hparsed : crates.parse_url base_url with
  | error e =>
    rw [hparsed] at hprepared
    exact absurd hprepared nofun
  | ok url => exact ⟨url, rfl⟩

def is_connection_ready (message : Value) : Bool :=
  let event_type := (((message.get "data").bind (·.get "eventType")).bind Value.as_str).getD ""
  contains event_type "mercury.buffer_state" || contains event_type "mercury.registration_status"

/-- A read loop, as the actions it performs. -/
abbrev Loop : Type := Program Action Answer Unit

def act (action : Action) : Program Action Answer (Answer action) := Program.request action
def get_connected : Program Action Answer Bool := act .get_connected
def get_should_reconnect : Program Action Answer Bool := act .get_should_reconnect
def take_attempt (max_reconnect : Nat) : Program Action Answer (Option Nat) := act (.take_attempt max_reconnect)

/-- The `data` of a message that is neither a pong nor a shutdown notice, with its
    event type. -/
def event_data (message : Value) : Option (Value × String) :=
  let msg_type := ((message.get "type").bind Value.as_str).getD ""
  if msg_type = "pong" ∨ msg_type = "shutdown" then none
  else do
    let data ← message.get "data"
    let event_type ← (data.get "eventType").bind Value.as_str
    return (data, event_type)

/-- The event that a message is turned into. -/
def mercury_event (data : Value) (event_type : String) : Option MercuryEvent :=
  if starts_with event_type "encryption." then some (.kms_response data)
  else if event_type = "conversation.activity" then do
    let activity_raw ← data.get "activity"
    let activity ← (crates.activity_from_value activity_raw).toOption
    return .activity { activity with object := activity.object.finalize_inputs }
  else none

def send_ack (message : Value) : Loop :=
  match (message.get "id").bind Value.as_str with
  | some msg_id => act (.ack (.object [("messageId", .string msg_id), ("type", .string "ack")]))
  | none => return ()

def send_event : Option MercuryEvent → Loop
  | some event => act (.send event)
  | none => return ()

def handle_message_static (message : Value) : Loop :=
  match event_data message with
  | none => return ()
  | some (data, event_type) => do
    send_ack message
    send_event (mercury_event crates data event_type)

/-- Longer than the 1 MB that a message may have. -/
@[irreducible]
def oversized (text : String) : Bool := 1048576 < text.utf8ByteSize

/-- A text frame as JSON, when it is at most 1 MB long and parses. -/
def parse_text (text : String) : Option Value :=
  if oversized text then none else (crates.from_str text).toOption

def handle_text (text : String) : Loop :=
  match parse_text crates text with
  | none => return ()
  | some parsed => handle_message_static crates parsed

/-- A close that no reconnect may follow. -/
def handle_permanent_close (error reason : String) : Loop := do
  act (.set_should_reconnect false)
  act (.send (.error error))
  act (.send (.disconnected reason))

/-- A close that the caller may answer with another `connect`. -/
def handle_recoverable_close (max_reconnect : Nat) : Loop := do
  if ← get_should_reconnect then
    match ← take_attempt max_reconnect with
    | none => do
      act (.set_should_reconnect false)
      act (.send (.disconnected "max-attempts-exceeded"))
    | some attempt => do
      act (.send (.reconnecting attempt))
      act (.sleep attempt)
      act (.send (.disconnected "reconnect-needed"))
  else act (.send (.disconnected "manual"))

def handle_close_static (max_reconnect : Nat) (code : UInt16) : Loop := do
  act (.set_connected false)
  act .cancel_stability_timer
  if code = 4401 then handle_permanent_close "Mercury authorization failed" "auth-failed"
  else if code = 4400 ∨ code = 4403 then
    handle_permanent_close ("Mercury permanent failure (code " ++ toString code ++ ")") "permanent-failure"
  else handle_recoverable_close max_reconnect

/-- What follows the loop looks at the flags and does nothing. -/
def connection_ended : Loop := do
  if ← get_should_reconnect then
    let _ ← get_connected

/-- The read loop that `connect_internal` spawns, on a stream that yields the given
    items and then ends. -/
def read_loop (max_reconnect : Nat) : List Item → Loop
  | [] => do
    act (.next none)
    connection_ended
  | .text text :: rest => do
    act (.next (some (.text text)))
    handle_text crates text
    read_loop max_reconnect rest
  | .close frame :: _ => do
    act (.next (some (.close frame)))
    handle_close_static max_reconnect ((frame.map Prod.fst).getD 1000)
    connection_ended
  | .error message :: _ => do
    act (.next (some (.error message)))
    act (.send (.error message))
    act (.set_connected false)
    connection_ended
  | .other :: rest => do
    act (.next (some .other))
    read_loop max_reconnect rest

/-- The operations of a caller. The stream that `connect_async` opens is given as the
    items it will yield. -/
inductive Op
  | act (action : Action)
  | now
  | new_v4
  | connect_async (url : String)
  | write (message : Value)
  /-- Whether the setup takes longer than 30 seconds. -/
  | timeout
  | spawn_read_loop (items : List Item)

@[reducible]
def Res : Op → Type
  | .act action => Answer action
  | .now => Nat
  | .new_v4 => String
  | .connect_async _ => Except String (List Item)
  | .write _ => Except String Unit
  | .timeout => Bool
  | .spawn_read_loop _ => Nat

abbrev Caller (α : Type) : Type := Method Op Res Unit WebexError α

def perform (action : Action) : Caller (Answer action) := Method.request (Op.act action)
def now : Caller Nat := Method.request Op.now
def new_v4 : Caller String := Method.request Op.new_v4
def connect_async (url : String) : Caller (Except String (List Item)) := Method.request (Op.connect_async url)
def write (message : Value) : Caller (Except String Unit) := Method.request (Op.write message)
def timeout : Caller Bool := Method.request Op.timeout
def spawn_read_loop (items : List Item) : Caller Nat := Method.request (Op.spawn_read_loop items)

def authorization_message (id token : String) : Value :=
  .object [("id", .string id), ("type", .string "authorization"),
    ("data", .object [("token", .string ("Bearer " ++ token))])]

/-- The setup reads up to the readiness message and leaves the rest of the stream to
    the read loop. -/
def wait_ready : List Item → Except WebexError (List Item)
  | [] => .error (.mercury_connection "WebSocket closed during setup" none)
  | .text text :: rest =>
    match crates.from_str text with
    | .ok parsed => if is_connection_ready parsed then .ok rest else wait_ready rest
    | .error _ => wait_ready rest
  | .error e :: _ => .error (.mercury_connection ("WebSocket error during setup: " ++ e) none)
  | _ :: rest => wait_ready rest

/-- `connect_internal`, with the number of the socket it opens. -/
def connect_internal : Caller Nat := do
  let base_url ← perform .get_base_url
  let timestamp ← now
  let prepared_url ← Method.ofExcept (prepare_url crates base_url timestamp)
  perform (.set_connected false)
  let opened ← connect_async prepared_url
  let stream ← Method.ofExcept (opened.mapError fun e => .mercury_connection ("Failed to connect: " ++ e) none)
  let token ← perform .get_token
  let id ← new_v4
  let sent ← write (authorization_message id token)
  Method.ofExcept (sent.mapError fun e => .mercury_connection ("Failed to send auth: " ++ e) none)
  let timed_out ← timeout
  Method.reject timed_out (.mercury_connection "Mercury connection timeout" none)
  let items ← Method.ofExcept (wait_ready crates stream)
  perform (.set_connected true)
  spawn_read_loop items

/-- `connect`, with the number of the socket it opens. -/
def connect (ws_url token : String) : Caller (Option Nat) := do
  perform (.set_token token)
  perform (.set_base_url ws_url)
  perform (.set_should_reconnect true)
  perform .cancel_stability_timer
  let socket ← connect_internal crates
  perform (.schedule_attempts_reset socket)
  return some socket

def disconnect : Caller (Option Nat) := do
  perform (.set_should_reconnect false)
  perform (.set_connected false)
  perform .cancel_stability_timer
  perform (.send (.disconnected "client"))
  return none

end webex.rust.mercury_socket
