import WebexHandler.Python.MercurySocket.Tasks

open transition

namespace webex.python.mercury_socket

/-- The steps between two awaits, of whichever task the event loop runs next, with
    the outcome of the await that ended. -/
inductive Step
  | read (read : Nat) (item : Item) (close_code : Option Nat)
  | read_session_closed (read : Nat)
  | socket_closed (ws : Nat)
  | run_reconnect
  | wake
  | opened (ok has_session : Bool)
  | authorized (ok : Bool)
  | resumed
  | ready_timeout
  | read_cancelled
  | cleanup_resumed (ok : Bool)
  | ping_wake (ping : Nat)
  | ping_sent (ping : Nat) (ok : Bool)
  | pong_timer (timer : Nat)
  | run_pong_timeout (pong : Nat)
  | pong_resumed (pong : Nat) (ok : Bool)
  | stability_timer
  deriving DecidableEq, Repr

namespace MercurySocket

/-- The factory of `_connect_internal` returns a socket or raises. -/
def opened (self : MercurySocket) (ok has_session : Bool) : MercurySocket :=
  if ok then { self with
    ws := some self.next_ws
    next_ws := self.next_ws + 1
    session_open := fun other => if other = self.next_ws then has_session else self.session_open other
    ws_closed := fun other => if other = self.next_ws then false else self.ws_closed other
    loop := some .authorizing }
  else self.reconnect_head

/-- The authorization frame is sent: the read loop starts on whatever `_ws` is by
    then. -/
def authorized (self : MercurySocket) (ok : Bool) : MercurySocket :=
  if ok then { self.set_read self.next_read { owned_ws := self.ws, pc := .reading } with
    read_task := some self.next_read
    next_read := self.next_read + 1
    loop := some (.awaiting_ready self.next_read) }
  else self.reconnect_head

/-- `_connect_internal` resumes after `ready_event` and `_reconnect` goes on. -/
def resumed (self : MercurySocket) (read : Nat) : MercurySocket :=
  if (self.reads read).connect_error then self.cleanup_ws
  else { self with stability_timer := true }.emit .connected |>.reconnect_return

def ping_wake (self : MercurySocket) (ping : Nat) : MercurySocket :=
  match self.ws with
  | some ws => if self.ws_closed ws then self else { self with heartbeat := self.heartbeat.send_ping ping }
  | none => self

def step (self : MercurySocket) : Step → Option MercurySocket
  | .read read item close_code =>
    if (self.reads read).pc = .reading then some (self.read_item read item close_code) else none
  | .read_session_closed read =>
    if (self.reads read).pc = .closing_session then
      some (self.set_read read { self.reads read with pc := .done })
    else none
  | .socket_closed ws =>
    some { self with ws_closed := fun other => if other = ws then true else self.ws_closed other }
  | .run_reconnect =>
    if 0 < self.scheduled then some (reconnect { self with scheduled := self.scheduled - 1 }) else none
  | .wake =>
    if self.loop = some .sleeping then
      if self.should_reconnect then some { self with connection_ready := false, loop := some .opening }
      else some self.reconnect_return
    else none
  | .opened ok has_session =>
    if self.loop = some .opening then some (self.opened ok has_session) else none
  | .authorized ok =>
    if self.loop = some .authorizing then some (self.authorized ok) else none
  | .resumed =>
    match self.loop with
    | some (.awaiting_ready read) => if (self.reads read).ready then some (self.resumed read) else none
    | _ => none
  | .ready_timeout =>
    match self.loop with
    | some (.awaiting_ready _) => some self.cleanup_ws
    | _ => none
  | .read_cancelled =>
    if self.loop = some .cleanup_read then some (cleanup_continue self.close_websocket) else none
  | .cleanup_resumed ok =>
    match self.loop with
    | some (.cleanup_close pc) => some (cleanup_continue (self.close_websocket_resume pc ok))
    | _ => none
  | .ping_wake ping => if self.heartbeat.pings ping = .sleeping then some (self.ping_wake ping) else none
  | .ping_sent ping ok =>
    if self.heartbeat.pings ping = .sending then
      some { self with heartbeat := self.heartbeat.ping_sent ping ok }
    else none
  | .pong_timer timer =>
    if timer ∈ self.heartbeat.armed then
      some { self with
        heartbeat := { self.heartbeat with armed := self.heartbeat.armed.erase timer }
        pongs := self.pongs ++ [.scheduled] }
    else none
  | .run_pong_timeout pong =>
    if self.pongs[pong]? = some .scheduled then
      some (pong_continue pong
        { self with heartbeat := { self.heartbeat with pending_pong_id := none } }.close_websocket)
    else none
  | .pong_resumed pong ok =>
    match self.pongs[pong]? with
    | some (.closing pc) => some (pong_continue pong (self.close_websocket_resume pc ok))
    | _ => none
  | .stability_timer =>
    if self.stability_timer then some { self with stability_timer := false, reconnect_attempts := 0 } else none

end MercurySocket

end webex.python.mercury_socket
