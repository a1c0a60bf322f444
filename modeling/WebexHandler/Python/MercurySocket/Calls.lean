import WebexHandler.Python.MercurySocket.Steps

open transition

namespace webex.python.mercury_socket

/-- The awaits of a `connect()` or `disconnect()` call. A call of `connect()` makes
    its own `_connect_internal`, beside the one of a running `_reconnect` loop. -/
inductive CallPc
  | opening
  | authorizing
  | awaiting_ready (read : Nat)
  | cleanup_read
  | cleanup_close (pc : ClosePc)
  | disconnect_read
  | disconnect_close (pc : ClosePc)
  | done
  deriving DecidableEq, Repr

namespace MercurySocket

/-- `self._ws = await self._ws_factory(prepared_url)`. -/
def attach (self : MercurySocket) (has_session : Bool) : MercurySocket :=
  { self with
    ws := some self.next_ws
    next_ws := self.next_ws + 1
    session_open := fun other => if other = self.next_ws then has_session else self.session_open other
    ws_closed := fun other => if other = self.next_ws then false else self.ws_closed other }

/-- `owned_ws = self._ws` and the read loop created on it. -/
def start_read_loop (self : MercurySocket) : MercurySocket :=
  { self.set_read self.next_read { owned_ws := self.ws, pc := .reading } with
    read_task := some self.next_read
    next_read := self.next_read + 1 }

/-- The `_reconnect` loop's `_connect_internal` takes the same steps. -/
theorem opened_eq (self : MercurySocket) (ok has_session : Bool) :
    self.opened ok has_session =
      if ok then { self.attach has_session with loop := some .authorizing } else self.reconnect_head := rfl

theorem authorized_eq (self : MercurySocket) (ok : Bool) :
    self.authorized ok =
      if ok then { self.start_read_loop with loop := some (.awaiting_ready self.next_read) }
      else self.reconnect_head := rfl

def connect (self : MercurySocket) : MercurySocket × CallPc :=
  ({ self with should_reconnect := true, reconnect_attempts := 0, connection_ready := false }, .opening)

def connect_opened (self : MercurySocket) (ok has_session : Bool) : MercurySocket × CallPc :=
  if ok then (self.attach has_session, .authorizing) else (self, .done)

def connect_authorized (self : MercurySocket) (ok : Bool) : MercurySocket × CallPc :=
  if ok then (self.start_read_loop, .awaiting_ready self.next_read) else (self, .done)

/-- The end of `_cleanup_ws` inside a `connect()` that raises. -/
def connect_continue : MercurySocket × CloseStatus → MercurySocket × CallPc
  | (self, .suspended pc) => (self, .cleanup_close pc)
  | (self, .finished) => ({ self with ws := none }, .done)
  | (self, .raised) => (self, .done)

def connect_cleanup (self : MercurySocket) : MercurySocket × CallPc :=
  let self := self.stop_ping_loop
  match self.read_task with
  | some read =>
    if (self.reads read).pc = .done then connect_continue self.close_websocket
    else (self.set_read read { self.reads read with pc := .done }, .cleanup_read)
  | none => connect_continue self.close_websocket

def connect_resumed (self : MercurySocket) (read : Nat) : MercurySocket × CallPc :=
  if (self.reads read).connect_error then self.connect_cleanup else (self, .done)

/-- The end of `disconnect()`. -/
def disconnect_continue : MercurySocket × CloseStatus → MercurySocket × CallPc
  | (self, .suspended pc) => (self, .disconnect_close pc)
  | (self, .finished) => ({ self with ws := none, connection_ready := false }.emit (.disconnected "client"), .done)
  | (self, .raised) => (self, .done)

def disconnect (self : MercurySocket) : MercurySocket × CallPc :=
  let self := { self with should_reconnect := false }.stop_ping_loop.cancel_stability_timer
  match self.read_task with
  | some read =>
    if (self.reads read).pc = .done then disconnect_continue self.close_websocket
    else (self.set_read read { self.reads read with pc := .done }, .disconnect_read)
  | none => disconnect_continue self.close_websocket

/-- A suspended call goes on. The flags say whether the await returned; a
    `ready_event` that was never set is one that timed out. -/
def resume (self : MercurySocket) (pc : CallPc) (ok has_session : Bool) : Option (MercurySocket × CallPc) :=
  match pc with
  | .opening => some (self.connect_opened ok has_session)
  | .authorizing => some (self.connect_authorized ok)
  | .awaiting_ready read =>
    if !ok then some self.connect_cleanup
    else if (self.reads read).ready then some (self.connect_resumed read)
    else none
  | .cleanup_read => some (connect_continue self.close_websocket)
  | .cleanup_close pc => some (connect_continue (self.close_websocket_resume pc ok))
  | .disconnect_read => some (disconnect_continue self.close_websocket)
  | .disconnect_close pc => some (disconnect_continue (self.close_websocket_resume pc ok))
  | .done => none

end MercurySocket

/-- A socket with the `connect()` and `disconnect()` calls made on it so far. -/
structure System where
  socket : MercurySocket
  calls : List CallPc := []

/-- A task of the socket runs, a call is made, or a suspended call goes on. -/
inductive Label
  | task (step : Step)
  | connect
  | disconnect
  | call (call : Nat) (ok has_session : Bool)
  deriving DecidableEq, Repr

namespace System

def start (self : System) (begun : MercurySocket × CallPc) : System :=
  { socket := begun.1, calls := self.calls ++ [begun.2] }

def step (self : System) : Label → Option System
  | .task step => (self.socket.step step).map fun socket => { self with socket }
  | .connect => some (self.start self.socket.connect)
  | .disconnect => some (self.start self.socket.disconnect)
  | .call call ok has_session =>
    (self.calls[call]?.bind fun pc => self.socket.resume pc ok has_session).map
      fun resumed => { socket := resumed.1, calls := self.calls.set call resumed.2 }

end System

/-- Every interleaving of the tasks and calls of one new `MercurySocket`. -/
def system (max_reconnect_attempts : Nat) : Machine System Label where
  init := { socket := { max_reconnect_attempts } }
  step := System.step

end webex.python.mercury_socket
