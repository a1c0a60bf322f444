import WebexHandler.Go.MercurySocket.Activities

open json

namespace webex.go.mercury_socket

/-- What the read goroutine does for a frame that is seen outside: it writes to the
    connection, calls back, or starts a goroutine. -/
inductive Effect (α : Type)
  | write (message : Value)
  | on_kms_response (data : Value)
  | on_activity (activity : α)
  | go_trigger_reconnect

def Effect.is_write {α : Type} : Effect α → Bool
  | .write _ => true
  | _ => false

variable {α : Type} (parse_activity : Value → α)

def is_connection_ready_message (message : Value) : Bool :=
  match as_map (message.get "data") with
  | none => false
  | some data =>
    let event_type := as_string (data.get "eventType")
    event_type == "mercury.buffer_state" || event_type == "mercury.registration_status"

def has_event_type (message : Value) : Bool :=
  match as_map (message.get "data") with
  | none => false
  | some data => ((data.get "eventType").bind Value.as_str).isSome

/-- `len(s) > 11 && s[:11] == "encryption."`. The prefix is ASCII, so that its bytes are
    the first characters. -/
def is_kms_event_type (event_type : String) : Bool :=
  11 < event_type.utf8ByteSize && event_type.toList.take 11 == "encryption.".toList

def ack (message : Value) : Value :=
  .object [("messageId", .string (as_string (message.get "id"))), ("type", .string "ack")]

/-- What follows the ack. -/
def route (data : Value) (event_type : String) : List (Effect α) :=
  if is_kms_event_type event_type then [.on_kms_response data]
  else if event_type = "conversation.activity" then
    match as_map (data.get "activity") with
    | none => []
    | some activity_raw => [.on_activity (parse_activity activity_raw)]
  else []

def handle_activity_envelope (message : Value) : List (Effect α) :=
  match as_map (message.get "data") with
  | none => []
  | some data => .write (ack message) :: route parse_activity data (as_string (data.get "eventType"))

/-- A pong changes only which pong is waited for. -/
def handle_message (message : Value) : List (Effect α) :=
  let msg_type := as_string (message.get "type")
  if msg_type = "pong" then []
  else if has_event_type message then handle_activity_envelope parse_activity message
  else if msg_type = "shutdown" then [.go_trigger_reconnect]
  else []

variable (from_str : String → Except String Value)

/-- `json.Unmarshal` into a map. The map of a JSON null is nil and has no members. -/
def unmarshal (text : String) : Option Value :=
  match from_str text with
  | .ok (.object members) => some (.object members)
  | .ok .null => some (.object [])
  | _ => none

/-- The connection when the next frame is due: it is up, or `closeWebSocket` has taken it
    down after the frame was read, or before. -/
inductive Link
  | up
  | closing
  | down
  deriving DecidableEq

/-- What the read goroutine of a connection has done: how many frames it had read when it
    signalled readiness, and its effects. -/
structure Reader (α : Type) where
  ready : Option Nat := none
  effects : List (Effect α) := []

/-- One frame of the read goroutine. The write of an ack fails on a connection that is
    closed meanwhile, and is not looked at. -/
def Reader.read_frame (reader : Reader α) (place : Nat) (link : Link) (text : String) : Reader α :=
  match unmarshal from_str text with
  | none => reader
  | some message =>
    let handled := handle_message parse_activity message
    { effects := reader.effects ++ (if link = .up then handled else handled.filter (!·.is_write))
      ready := if reader.ready.isNone && is_connection_ready_message message then some (place + 1) else reader.ready }

/-- The read goroutine on the frames that arrive, the first of them at `place`. -/
def read_goroutine (link : Nat → Link) (reader : Reader α) (place : Nat) : List String → Reader α
  | [] => reader
  | text :: rest =>
    match link place with
    | .down => reader
    | found => read_goroutine link (reader.read_frame parse_activity from_str place found text) (place + 1) rest

/-- A frame that starts `triggerReconnect`. -/
def is_shutdown_notice (text : String) : Bool :=
  match unmarshal from_str text with
  | none => false
  | some message => as_string (message.get "type") == "shutdown" && !has_event_type message

/-- The connection is taken down by nothing but a reconnect that a frame before has
    started. -/
def Link.Caused (link : Nat → Link) (texts : List String) : Prop :=
  ∀ place, link place ≠ .up → ∃ text ∈ texts.take place, is_shutdown_notice from_str text = true

end webex.go.mercury_socket
