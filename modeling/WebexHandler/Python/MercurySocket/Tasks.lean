import WebexHandler.Transition.Machine

open transition

namespace webex.python.mercury_socket

/-- Events passed to the listeners. A message with an event type is routed as
    one `envelope`. -/
inductive Event
  | connected
  | disconnected (reason : String)
  | reconnecting (attempt : Nat)
  | auth_error
  | connection_error
  | envelope
  deriving DecidableEq, Repr

/-- A message's `type`. -/
inductive MessageType
  | pong (id : Nat)
  | shutdown
  | other
  deriving DecidableEq, Repr

/-- `data.eventType` as the code tests it: absent or empty, a string that names
    readiness, another string, a list or dict with elements, which the routing raises on
    but the readiness test searches, or a value on which both raise. Such a value may
    still be falsy and so count as absent for the routing. The message or its data may
    also be no dict, so that already the lookup raises. -/
inductive EventType
  | absent
  | ready
  | other
  | collection (named : Bool)
  | malformed (truthy : Bool)
  | unreadable
  deriving DecidableEq, Repr

/-- The readiness test on the event type, and nothing where it raises. -/
def EventType.is_connection_ready : EventType → Option Bool
  | .absent | .other => some false
  | .ready => some true
  | .collection named => some named
  | .malformed _ | .unreadable => none

/-- What a read loop's `async for` yields: a JSON message, another frame (or text
    that is not JSON), or one of the ways the iteration ends. -/
inductive Item
  | message (type : MessageType) (event_type : EventType)
  | other
  | closed
  | error
  | raised
  | ended
  deriving DecidableEq, Repr

/-- The awaits of `_close_websocket`, with the object being closed. -/
inductive ClosePc
  | session (ws : Nat)
  | socket (ws : Nat)
  deriving DecidableEq, Repr

inductive ReadPc
  | reading
  | closing_session
  | done
  deriving DecidableEq, Repr

/-- One `_connect_internal` past its authorization: the closure of its read loop
    with the socket it owns, its `ready_event` and `connect_error`. -/
structure ReadTask where
  owned_ws : Option Nat := none
  pc : ReadPc := .done
  ready : Bool := false
  connect_error : Bool := false
  deriving DecidableEq, Repr

/-- The awaits of the running `_reconnect` loop, those of the `_connect_internal`
    and `_cleanup_ws` it calls included. -/
inductive LoopPc
  | sleeping
  | opening
  | authorizing
  | awaiting_ready (read : Nat)
  | cleanup_read
  | cleanup_close (pc : ClosePc)
  deriving DecidableEq, Repr

/-- An `_on_pong_timeout` task, scheduled or suspended in `_close_websocket`. -/
inductive PongPc
  | scheduled
  | closing (pc : ClosePc)
  deriving DecidableEq, Repr

inductive PingPc
  | done
  | sleeping
  | sending
  deriving DecidableEq, Repr

/-- The fields and tasks of the ping loop. Ping loops, pings and pong timers are
    numbered in order of creation; `next_*` is the next free number. -/
structure Heartbeat where
  pending_pong_id : Option Nat := none
  ping_task : Option Nat := none
  pong_timeout_handle : Option Nat := none
  pings : Nat → PingPc := fun _ => .done
  next_ping : Nat := 0
  /-- Pong timers that have neither fired nor been cancelled. -/
  armed : List Nat := []
  next_pong : Nat := 0

namespace Heartbeat

def set_ping (self : Heartbeat) (ping : Nat) (pc : PingPc) : Heartbeat :=
  { self with pings := fun other => if other = ping then pc else self.pings other }

/-- `TimerHandle.cancel`, on the handle stored in `_pong_timeout_handle`. -/
def cancel_pong_timeout (self : Heartbeat) : Heartbeat :=
  match self.pong_timeout_handle with
  | none => self
  | some timer => { self with armed := self.armed.erase timer, pong_timeout_handle := none }

def stop_ping_loop (self : Heartbeat) : Heartbeat :=
  let stopped : Heartbeat := match self.ping_task with
    | some ping =>
      if self.pings ping = .done then self else { self.set_ping ping .done with ping_task := none }
    | none => self
  { stopped.cancel_pong_timeout with pending_pong_id := none }

def start_ping_loop (self : Heartbeat) : Heartbeat :=
  { self.set_ping self.next_ping .sleeping with
    ping_task := some self.next_ping
    next_ping := self.next_ping + 1 }

def handle_pong (self : Heartbeat) (id : Nat) : Heartbeat :=
  if self.pending_pong_id = some id then { self with pending_pong_id := none }.cancel_pong_timeout
  else self

/-- The ping loop takes a fresh id for its frame, then suspends in `send_str`. -/
def send_ping (self : Heartbeat) (ping : Nat) : Heartbeat :=
  { self with pending_pong_id := some self.next_pong, next_pong := self.next_pong + 1 }.set_ping ping .sending

/-- `send_str` returns or raises. After a frame is sent the pong timer is armed, in
    place of a handle that may still be armed itself. -/
def ping_sent (self : Heartbeat) (ping : Nat) (ok : Bool) : Heartbeat :=
  if ok then { self with
    armed := self.armed ++ [self.next_pong]
    pong_timeout_handle := some self.next_pong
    next_pong := self.next_pong + 1 }.set_ping ping .sleeping
  else self.set_ping ping .done

end Heartbeat

/-- The fields of `MercurySocket` and the asyncio tasks it has created. Sockets and
    read loops are numbered in order of creation. -/
structure MercurySocket where
  max_reconnect_attempts : Nat
  ws : Option Nat := none
  connection_ready : Bool := false
  should_reconnect : Bool := true
  reconnect_attempts : Nat := 0
  reconnecting : Bool := false
  heartbeat : Heartbeat := {}
  read_task : Option Nat := none
  stability_timer : Bool := false
  /-- Sockets with an attached session that is still open. -/
  session_open : Nat → Bool := fun _ => false
  ws_closed : Nat → Bool := fun _ => false
  next_ws : Nat := 0
  reads : Nat → ReadTask := fun _ => {}
  next_read : Nat := 0
  pongs : List PongPc := []
  /-- `_reconnect` tasks passed to `ensure_future` that have not started. -/
  scheduled : Nat := 0
  /-- The `_reconnect` call that is past its guard. -/
  loop : Option LoopPc := none
  events : List Event := []
  /-- ACKs passed to `ensure_future`. -/
  acks : Nat := 0

/-- How a segment of `_close_websocket` ends. -/
inductive CloseStatus
  | suspended (pc : ClosePc)
  | finished
  | raised

namespace MercurySocket

def emit (self : MercurySocket) (event : Event) : MercurySocket :=
  { self with events := self.events ++ [event] }

def set_read (self : MercurySocket) (read : Nat) (task : ReadTask) : MercurySocket :=
  { self with reads := fun other => if other = read then task else self.reads other }

def cancel_stability_timer (self : MercurySocket) : MercurySocket := { self with stability_timer := false }

def stop_ping_loop (self : MercurySocket) : MercurySocket :=
  { self with heartbeat := self.heartbeat.stop_ping_loop }

def start_ping_loop (self : MercurySocket) : MercurySocket :=
  { self with heartbeat := self.heartbeat.start_ping_loop }

def handle_pong (self : MercurySocket) (id : Nat) : MercurySocket :=
  { self with heartbeat := self.heartbeat.handle_pong id }

/-- `asyncio.ensure_future(self._reconnect())`. -/
def ensure_reconnect (self : MercurySocket) : MercurySocket := { self with scheduled := self.scheduled + 1 }

/-- The ACK of `_handle_activity_envelope`, for a socket that is open. -/
def send_ack (self : MercurySocket) : MercurySocket :=
  match self.ws with
  | some ws => if self.ws_closed ws then self else { self with acks := self.acks + 1 }
  | none => self

theorem send_ack_eq (self : MercurySocket) : ∃ acks, self.send_ack = { self with acks } := by
  unfold send_ack
  split
  · split
    · exact ⟨self.acks, rfl⟩
    · exact ⟨self.acks + 1, rfl⟩
  · exact ⟨self.acks, rfl⟩

/-- `_handle_message`, whose `except` swallows what a malformed event type raises. A truthy
    one has been acknowledged before. -/
def handle_message (self : MercurySocket) : MessageType → EventType → MercurySocket
  | .pong id, _ => self.handle_pong id
  | _, .ready | _, .other => self.send_ack.emit .envelope
  | _, .collection _ | _, .malformed true => self.send_ack
  | .shutdown, .absent | .shutdown, .malformed false => self.ensure_reconnect
  | _, .absent | _, .malformed false | _, .unreadable => self

/-- What a message can do to the socket, its ACK apart. -/
theorem handle_message_cases (self : MercurySocket) (type : MessageType) (event_type : EventType) : ∃ acks,
    (∃ id, self.handle_message type event_type = { self with acks }.handle_pong id) ∨
      self.handle_message type event_type = { self with acks }.emit .envelope ∨
      self.handle_message type event_type = { self with acks }.ensure_reconnect ∨
      self.handle_message type event_type = { self with acks } := by
  obtain ⟨acks, hsent⟩ := self.send_ack_eq
  unfold handle_message
  split
  · exact ⟨self.acks, .inl ⟨_, rfl⟩⟩
  · exact ⟨acks, .inr (.inl (by rw [hsent]))⟩
  · exact ⟨acks, .inr (.inl (by rw [hsent]))⟩
  · exact ⟨acks, .inr (.inr (.inr hsent))⟩
  · exact ⟨acks, .inr (.inr (.inr hsent))⟩
  · exact ⟨self.acks, .inr (.inr (.inl rfl))⟩
  · exact ⟨self.acks, .inr (.inr (.inl rfl))⟩
  all_goals exact ⟨self.acks, .inr (.inr (.inr rfl))⟩

def handle_close (self : MercurySocket) (code : Nat) : MercurySocket :=
  let self := { self.stop_ping_loop.cancel_stability_timer with connection_ready := false }
  if code = 4401 then
    ({ self with should_reconnect := false }.emit .auth_error).emit (.disconnected "auth-failed")
  else if code = 4400 ∨ code = 4403 then
    ({ self with should_reconnect := false }.emit .connection_error).emit (.disconnected "permanent-failure")
  else if self.should_reconnect then self.ensure_reconnect
  else self.emit (.disconnected "manual")

/-- The code after the loop of `_read_loop`. `close_code` is the owned socket's,
    absent or zero when the peer sent none. -/
def read_tail (self : MercurySocket) (read : Nat) (close_code : Option Nat) : MercurySocket :=
  let task := self.reads read
  if task.owned_ws ≠ self.ws then
    match task.owned_ws with
    | some ws => self.set_read read { task with pc := if self.session_open ws then .closing_session else .done }
    | none => self.set_read read { task with pc := .done }
  else
    let code := match close_code with
      | none | some 0 => 1000
      | some code => code
    (self.set_read read { task with pc := .done }).handle_close code

/-- A failure inside the loop of `_read_loop`, before or after readiness. -/
def read_failed (self : MercurySocket) (read : Nat) : MercurySocket :=
  if self.connection_ready then self.emit .connection_error
  else self.set_read read { self.reads read with connect_error := true, ready := true }

/-- The readiness test after `_handle_message`. It is made only before readiness,
    and outside the `except` of `_handle_message`. -/
def read_ready (self : MercurySocket) (read : Nat) (event_type : EventType) (close_code : Option Nat) :
    MercurySocket :=
  if self.connection_ready then self
  else match event_type.is_connection_ready with
    | some true =>
      { self with connection_ready := true }.start_ping_loop.set_read read
        { self.reads read with ready := true }
    | some false => self
    | none => (self.read_failed read).read_tail read close_code

/-- A read loop receives one item. The rotation check precedes every message but
    not an exception or the end of the iteration. -/
def read_item (self : MercurySocket) (read : Nat) (item : Item) (close_code : Option Nat) : MercurySocket :=
  match (self.reads read).owned_ws with
  | none => self.set_read read { self.reads read with pc := .done }
  | some ws =>
    match item with
    | .raised => (self.read_failed read).read_tail read close_code
    | .ended => self.read_tail read close_code
    | .closed => self.read_tail read close_code
    | .error =>
      if some ws ≠ self.ws then self.read_tail read close_code
      else (self.read_failed read).read_tail read close_code
    | .message type event_type =>
      if some ws ≠ self.ws then self.read_tail read close_code
      else (self.handle_message type event_type).read_ready read event_type close_code
    | .other => if some ws ≠ self.ws then self.read_tail read close_code else self

/-- `_close_websocket` from its test of `self._ws.closed`, which fails when
    another task has cleared `_ws` meanwhile. -/
def close_socket (self : MercurySocket) : MercurySocket × CloseStatus :=
  match self.ws with
  | none => (self, .raised)
  | some ws =>
    if self.ws_closed ws then ({ self with ws := none }, .finished) else (self, .suspended (.socket ws))

def close_websocket (self : MercurySocket) : MercurySocket × CloseStatus :=
  match self.ws with
  | none => (self, .finished)
  | some ws => if self.session_open ws then (self, .suspended (.session ws)) else self.close_socket

/-- `_close_websocket` after one of its awaits, which may raise. -/
def close_websocket_resume (self : MercurySocket) (pc : ClosePc) (ok : Bool) : MercurySocket × CloseStatus :=
  if !ok then (self, .raised)
  else match pc with
    | .session ws => close_socket { self with
        session_open := fun other => if other = ws then false else self.session_open other }
    | .socket ws => ({ self with
        ws_closed := fun other => if other = ws then true else self.ws_closed other
        ws := none }, .finished)

/-- `_reconnect` returns: its `finally` clears the guard. -/
def reconnect_return (self : MercurySocket) : MercurySocket := { self with loop := none, reconnecting := false }

/-- The head of the loop in `_reconnect`, up to the backoff sleep or a return. -/
def reconnect_head (self : MercurySocket) : MercurySocket :=
  if !self.should_reconnect then self.reconnect_return
  else if self.max_reconnect_attempts ≤ self.reconnect_attempts then
    ({ self with should_reconnect := false }.emit (.disconnected "max-attempts-exceeded")).reconnect_return
  else
    { { self with reconnect_attempts := self.reconnect_attempts + 1 }.emit
        (.reconnecting (self.reconnect_attempts + 1)) with loop := some .sleeping }

/-- A call of `_reconnect`, whose guard admits one at a time. -/
def reconnect (self : MercurySocket) : MercurySocket :=
  if self.reconnecting then self else reconnect_head { self with reconnecting := true }

/-- `_close_websocket` inside `_cleanup_ws`, then the exception that ends the
    attempt and sends `_reconnect` round its loop. -/
def cleanup_continue : MercurySocket × CloseStatus → MercurySocket
  | (self, .suspended pc) => { self with loop := some (.cleanup_close pc) }
  | (self, .finished) => reconnect_head { self with ws := none }
  | (self, .raised) => self.reconnect_head

/-- `_cleanup_ws` up to its first await. A cancelled read loop runs no more. -/
def cleanup_ws (self : MercurySocket) : MercurySocket :=
  let self := self.stop_ping_loop
  match self.read_task with
  | some read =>
    if (self.reads read).pc = .done then cleanup_continue self.close_websocket
    else { self.set_read read { self.reads read with pc := .done } with loop := some .cleanup_read }
  | none => cleanup_continue self.close_websocket

/-- `_on_pong_timeout` after `_close_websocket`. -/
def pong_continue (pong : Nat) : MercurySocket × CloseStatus → MercurySocket
  | (self, .suspended pc) => { self with pongs := self.pongs.set pong (.closing pc) }
  | (self, .finished) => reconnect { self with pongs := self.pongs.eraseIdx pong }
  | (self, .raised) => { self with pongs := self.pongs.eraseIdx pong }

end MercurySocket

end webex.python.mercury_socket
