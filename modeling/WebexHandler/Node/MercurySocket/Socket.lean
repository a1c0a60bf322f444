import Mathlib.Algebra.GroupWithZero.Nat
import WebexHandler.Node.KmsClient.Client
import WebexHandler.Transition.Machine

open json transition
open webex.node.kms_client (truthy includes)

namespace webex.node.mercury_socket

def MAX_MESSAGE_LENGTH : Nat := 1048576

/-- The built-in functions of JavaScript that the socket calls. -/
structure Builtins where
  parse_json : String → Option Value
  /-- The URL with the search parameters set, if it parses. -/
  set_search_params : String → List (String × String) → Option String
  /-- The UUIDs that `randomUUID` draws, one after another. -/
  random_uuid : Nat → String

inductive ReadyState
  | connecting
  | open
  | closing
  | closed
  deriving DecidableEq, Repr

inductive Thrown
  | auth_error (message : String)
  | mercury_connection_error (message : String) (code : Option Nat)
  | error (message : String)
  deriving DecidableEq, Repr

inductive Promise
  | pending
  | resolved
  | rejected (reason : Thrown)
  deriving DecidableEq, Repr

/-- Who has called `_connectInternal`. -/
inductive Origin
  | connect
  | reconnect
  deriving DecidableEq, Repr

/-- A call of `_connectInternal`: its promise, the flag its listeners share, and the socket
    that it has created, with whether that socket has delivered a message that signals
    readiness. -/
structure Attempt where
  origin : Origin
  ready_state : ReadyState := .connecting
  settled : Bool := false
  promise : Promise := .pending
  delivered_ready : Bool := false
  deriving DecidableEq, Repr

inductive TimerTask
  | ping
  | pong
  | stability
  | reconnect
  deriving DecidableEq, Repr

structure Timer where
  id : Nat
  task : TimerTask
  delay : Nat
  deriving DecidableEq, Repr

/-- What is written to a socket. -/
inductive Frame
  | authorization (id token : String)
  | ping (id : String)
  | ack (message_id : Option Value)

inductive DisconnectReason
  | auth_failed
  | permanent_failure
  | manual
  | max_attempts_exceeded
  | client
  deriving DecidableEq, Repr

/-- The events that the socket emits. `connected` is noted with the attempt that it is
    emitted for. -/
inductive Event
  | connected (attempt : Nat)
  | disconnected (reason : DisconnectReason)
  | reconnecting (attempts : Nat)
  | activity (activity : Value)
  | kms_response (data : Value)
  | error (error : Thrown)

/-- `MercurySocket`, with the sockets and timers that belong to it, the settled promises
    whose reactions have yet to run, and what it has sent and emitted. -/
structure MercurySocket where
  ping_interval : Nat := 15000
  pong_timeout : Nat := 14000
  reconnect_backoff_max : Nat := 32000
  max_reconnect_attempts : Nat := 10
  reconnect_stability_window : Nat := 60000
  ws : Option Nat := none
  ping_interval_handle : Option Nat := none
  pong_timeout_handle : Option Nat := none
  stability_timer_handle : Option Nat := none
  pending_pong_id : Option String := none
  should_reconnect : Bool := true
  reconnect_attempts : Nat := 0
  token : String := ""
  base_url : String := ""
  connection_ready : Bool := false
  attempts : List Attempt := []
  timers : List Timer := []
  next_timer : Nat := 0
  reactions : List Nat := []
  sent : List (Nat × Frame) := []
  emitted : List Event := []
  drawn : Nat := 0

/-- The constructor: an option that is missing or zero has its default. -/
def new (ping_interval pong_timeout reconnect_backoff_max max_reconnect_attempts reconnect_stability_window : Option Nat) :
    MercurySocket where
  ping_interval := (ping_interval.filter (· ≠ 0)).getD 15000
  pong_timeout := (pong_timeout.filter (· ≠ 0)).getD 14000
  reconnect_backoff_max := (reconnect_backoff_max.filter (· ≠ 0)).getD 32000
  max_reconnect_attempts := (max_reconnect_attempts.filter (· ≠ 0)).getD 10
  reconnect_stability_window := (reconnect_stability_window.filter (· ≠ 0)).getD 60000

/-- The number of UTF-16 code units, which is what `length` counts. -/
def length (text : String) : Nat := (text.toList.map fun c => if c.toNat < 65536 then 1 else 2).sum

def is_connection_ready (message : Value) : Bool :=
  match (message.get "data").bind (·.get "eventType") with
  | some (.string event_type) =>
    includes event_type "mercury.buffer_state" || includes event_type "mercury.registration_status"
  -- An array has an `includes` too, which looks for an element.
  | some (.array items) => items.any fun
    | .string item => item == "mercury.buffer_state" || item == "mercury.registration_status"
    | _ => false
  | _ => false

namespace MercurySocket

def emit (self : MercurySocket) (event : Event) : MercurySocket := { self with emitted := self.emitted ++ [event] }

def send (self : MercurySocket) (socket : Nat) (frame : Frame) : MercurySocket :=
  { self with sent := self.sent ++ [(socket, frame)] }

def set_timer (self : MercurySocket) (task : TimerTask) (delay : Nat) : MercurySocket :=
  { self with timers := self.timers ++ [⟨self.next_timer, task, delay⟩], next_timer := self.next_timer + 1 }

/-- `clearTimeout` and `clearInterval`, of a handle that may be `null`. -/
def clear_timer (self : MercurySocket) (handle : Option Nat) : MercurySocket :=
  { self with timers := self.timers.filter fun timer => some timer.id != handle }

def update_attempt (self : MercurySocket) (attempt : Nat) (f : Attempt → Attempt) : MercurySocket :=
  { self with attempts := self.attempts.modify attempt f }

def push_attempt (self : MercurySocket) (attempt : Attempt) (ws : Option Nat) : MercurySocket :=
  { self with attempts := self.attempts ++ [attempt], ws := ws }

/-- The socket in `ws` is open. -/
def ws_open (self : MercurySocket) : Option Nat :=
  self.ws.filter fun socket => (self.attempts[socket]?).any fun attempt => attempt.ready_state == .open

/-- A promise settles once. The reaction of a reconnect is queued, and that of `connect`
    is its caller's. -/
def settle (self : MercurySocket) (attempt : Nat) (outcome : Promise) : MercurySocket :=
  match self.attempts[attempt]? with
  | some ⟨origin, _, _, .pending, _⟩ =>
    let self := self.update_attempt attempt fun attempt => { attempt with promise := outcome }
    match origin with
    | .connect => self
    | .reconnect => { self with reactions := self.reactions ++ [attempt] }
  | _ => self

def cancel_stability_timer (self : MercurySocket) : MercurySocket :=
  { self.clear_timer self.stability_timer_handle with stability_timer_handle := none }

def stop_ping_loop (self : MercurySocket) : MercurySocket :=
  { (self.clear_timer self.ping_interval_handle).clear_timer self.pong_timeout_handle with
    ping_interval_handle := none
    pong_timeout_handle := none
    pending_pong_id := none }

def start_ping_loop (self : MercurySocket) : MercurySocket :=
  { self.set_timer .ping self.ping_interval with ping_interval_handle := some self.next_timer }

def close_websocket (self : MercurySocket) : MercurySocket :=
  match self.ws_open with
  | some socket => self.update_attempt socket fun attempt => { attempt with ready_state := .closing }
  | none => self

def reconnect (self : MercurySocket) : MercurySocket :=
  if self.should_reconnect = false then self
  else if self.max_reconnect_attempts ≤ self.reconnect_attempts then
    { self with should_reconnect := false }.emit (.disconnected .max_attempts_exceeded)
  else
    let delay := min (1000 * 2 ^ self.reconnect_attempts) self.reconnect_backoff_max
    ({ self with reconnect_attempts := self.reconnect_attempts + 1 }.emit
      (.reconnecting (self.reconnect_attempts + 1))).set_timer .reconnect delay

def schedule_attempts_reset (self : MercurySocket) : MercurySocket :=
  { self.cancel_stability_timer.set_timer .stability self.reconnect_stability_window with
    stability_timer_handle := some self.next_timer }

def handle_shutdown (self : MercurySocket) : MercurySocket := self.reconnect

def handle_pong (self : MercurySocket) (message : Value) : MercurySocket :=
  match self.pending_pong_id, message.get "id" with
  | some pending, some (.string id) =>
    if pending ≠ "" ∧ id = pending then
      { self.clear_timer self.pong_timeout_handle with pending_pong_id := none, pong_timeout_handle := none }
    else self
  | _, _ => self

/-- An event type that is no string stops the method after the ack. -/
def handle_activity_envelope (self : MercurySocket) (message data event_type : Value) : MercurySocket :=
  let self := match self.ws_open with
    | some socket => self.send socket (.ack (message.get "id"))
    | none => self
  match event_type with
  | .string event_type =>
    if "encryption.".toList.isPrefixOf event_type.toList then self.emit (.kms_response data)
    else if event_type = "conversation.activity" then
      match (data.get "activity").filter truthy with
      | some activity => self.emit (.activity activity)
      | none => self
    else self
  | _ => self

/-- The error that a property of `null` throws is caught and logged. -/
def handle_message (self : MercurySocket) (message : Value) : MercurySocket :=
  let type := (message.get "type").bind Value.as_str
  let data := (message.get "data").getD .null
  if type = some "pong" then self.handle_pong message
  else match (data.get "eventType").filter truthy with
    | some event_type => self.handle_activity_envelope message data event_type
    | none => if type = some "shutdown" then self.handle_shutdown else self

def handle_close (self : MercurySocket) (code : Nat) : MercurySocket :=
  let self := { self.stop_ping_loop.cancel_stability_timer with connection_ready := false }
  if code = 4401 then
    ({ self with should_reconnect := false }.emit (.error (.auth_error "Mercury authorization failed"))).emit
      (.disconnected .auth_failed)
  else if code = 4400 ∨ code = 4403 then
    ({ self with should_reconnect := false }.emit (.error (.mercury_connection_error
      ("Mercury permanent failure (code " ++ toString code ++ ")") (some code)))).emit (.disconnected .permanent_failure)
  else if self.should_reconnect then self.reconnect
  else self.emit (.disconnected .manual)

def prepare_url (builtins : Builtins) (base_url : String) (now : Nat) : Option String :=
  builtins.set_search_params base_url [("outboundWireFormat", "text"), ("bufferStates", "true"),
    ("aliasHttpStatus", "true"), ("clientTimestamp", toString now)]

/-- Whether a socket is created, at a time and with what the factory does. -/
def create_socket (builtins : Builtins) (base_url : String) (now : Nat) (factory : Except String Unit) :
    Except String Unit :=
  match prepare_url builtins base_url now with
  | none => .error "Invalid URL"
  | some _ => factory

/-- `_connectInternal`. A URL that does not parse and a factory that throws reject the
    promise, with `ws` as it was. -/
def connect_internal (builtins : Builtins) (self : MercurySocket) (origin : Origin) (now : Nat) (factory : Except String Unit) :
    MercurySocket :=
  match create_socket builtins self.base_url now factory with
  | .ok _ => self.push_attempt { origin := origin } (some self.attempts.length)
  | .error message =>
    (self.push_attempt { origin := origin, ready_state := .closed } self.ws).settle self.attempts.length
      (.rejected (.error message))

def connect (builtins : Builtins) (self : MercurySocket) (url token : String) (now : Nat) (factory : Except String Unit) :
    MercurySocket :=
  let self := { self with token := token, base_url := url, should_reconnect := true }
  connect_internal builtins { self.cancel_stability_timer with reconnect_attempts := 0 } .connect now factory

def disconnect (self : MercurySocket) : MercurySocket :=
  let self := { self with should_reconnect := false }
  let self := self.stop_ping_loop.cancel_stability_timer.close_websocket
  emit { self with ws := none, connection_ready := false } (.disconnected .client)

/-- The listeners of a socket. The one for `open` writes to the socket in `ws`. -/
def on_open (builtins : Builtins) (self : MercurySocket) (socket : Nat) : MercurySocket :=
  let self := self.update_attempt socket fun attempt => { attempt with ready_state := .open }
  let frame := Frame.authorization (builtins.random_uuid self.drawn) ("Bearer " ++ self.token)
  match self.ws with
  | some current => { self with drawn := self.drawn + 1 }.send current frame
  | none => { self with drawn := self.drawn + 1 }

def on_message (builtins : Builtins) (self : MercurySocket) (socket : Nat) (raw_data : String) : MercurySocket :=
  if MAX_MESSAGE_LENGTH < length raw_data then self
  else match builtins.parse_json raw_data with
    | none => self
    | some message =>
      let self := self.handle_message message
      if is_connection_ready message then
        let self := self.update_attempt socket fun attempt => { attempt with delivered_ready := true }
        if self.connection_ready then self
        else
          let self := { self with connection_ready := true }.start_ping_loop
          (self.update_attempt socket fun attempt => { attempt with settled := true }).settle socket .resolved
      else self

def on_error (self : MercurySocket) (socket : Nat) (message : String) : MercurySocket :=
  match self.attempts[socket]? with
  | none => self
  | some attempt =>
    if attempt.settled then self.emit (.error (.error message))
    else (self.update_attempt socket fun attempt => { attempt with settled := true }).settle socket
      (.rejected (.mercury_connection_error "Failed to connect to Mercury socket" none))

def on_close (self : MercurySocket) (socket code : Nat) : MercurySocket :=
  let self := self.update_attempt socket fun attempt => { attempt with ready_state := .closed }
  match self.attempts[socket]? with
  | none => self
  | some attempt =>
    if attempt.settled then self.handle_close code
    else ((self.update_attempt socket fun attempt => { attempt with settled := true }).settle socket
      (.rejected (.mercury_connection_error ("WebSocket closed during setup (code " ++ toString code ++ ")")
        (some code)))).handle_close code

/-- The callbacks of the timers. An interval stays until it is cleared. -/
def on_timer (builtins : Builtins) (self : MercurySocket) (timer : Timer) (now : Nat) (factory : Except String Unit) :
    MercurySocket :=
  match timer.task with
  | .ping =>
    match self.ws_open with
    | none => self
    | some socket =>
      let id := builtins.random_uuid self.drawn
      let self := { self with drawn := self.drawn + 1, pending_pong_id := some id }.send socket (.ping id)
      { (self.clear_timer self.pong_timeout_handle).set_timer .pong self.pong_timeout with
        pong_timeout_handle := some self.next_timer }
  | .pong => { self.clear_timer (some timer.id) with pending_pong_id := none }.close_websocket.reconnect
  | .stability => { self.clear_timer (some timer.id) with stability_timer_handle := none, reconnect_attempts := 0 }
  | .reconnect =>
    let self := self.clear_timer (some timer.id)
    if self.should_reconnect then connect_internal builtins self .reconnect now factory else self

/-- The reaction of a reconnect to its settled promise. -/
def react (self : MercurySocket) (attempt : Nat) : MercurySocket :=
  match (self.attempts[attempt]?).map Attempt.promise with
  | some .resolved => self.schedule_attempts_reset.emit (.connected attempt)
  | some (.rejected _) => if self.should_reconnect then self.reconnect else self
  | _ => self

end MercurySocket

/-- A call of `connect` or `disconnect`, an event of a socket, a timer that fires, or the
    first of the queued reactions. -/
inductive Label
  | connect (url token : String) (now : Nat) (factory : Except String Unit)
  | disconnect
  | open (socket : Nat)
  | message (socket : Nat) (raw_data : String)
  | error (socket : Nat) (message : String)
  | close (socket code : Nat)
  | timer (id now : Nat) (factory : Except String Unit)
  | react

/-- An event of a socket in one of the given states. -/
def MercurySocket.in_state (self : MercurySocket) (socket : Nat) (states : List ReadyState) : Bool :=
  (self.attempts[socket]?).any fun attempt => states.contains attempt.ready_state

/-- A timer fires only when no reaction is queued, while a socket may report an error and
    its closing one after the other. -/
def MercurySocket.step (builtins : Builtins) (self : MercurySocket) : Label → Option MercurySocket
  | .connect url token now factory => some (self.connect builtins url token now factory)
  | .disconnect => some self.disconnect
  | .open socket => if self.in_state socket [.connecting] then some (self.on_open builtins socket) else none
  | .message socket raw_data =>
    if self.in_state socket [.open, .closing] then some (self.on_message builtins socket raw_data) else none
  | .error socket message =>
    if self.in_state socket [.connecting, .open, .closing] then some (self.on_error socket message) else none
  | .close socket code =>
    if self.in_state socket [.connecting, .open, .closing] then some (self.on_close socket code) else none
  | .timer id now factory =>
    match self.reactions, self.timers.find? (·.id == id) with
    | [], some timer => some (self.on_timer builtins timer now factory)
    | _, _ => none
  | .react =>
    match self.reactions with
    | [] => none
    | attempt :: rest => some ({ self with reactions := rest }.react attempt)

/-- Every run of a socket made with the given options. -/
def socket (builtins : Builtins) (self : MercurySocket) : Machine MercurySocket Label where
  init := self
  step := MercurySocket.step builtins

end webex.node.mercury_socket
