import WebexHandler.Go.MercurySocket.Close
import WebexHandler.Transition.Machine

open transition

namespace webex.go.mercury_socket

/-- `data.eventType` of a message, as the code tests it. -/
inductive EventType
  | absent
  | ready
  | kms
  | activity
  | other
  deriving DecidableEq, Repr

/-- A message's `type`. -/
inductive MessageType
  | pong (id : String)
  | shutdown
  | other
  deriving DecidableEq, Repr

structure Message where
  type : MessageType
  event_type : EventType
  deriving DecidableEq, Repr

def Message.is_connection_ready (message : Message) : Bool := message.event_type == .ready

/-- What `conn.Read` returns: an error, text that is not JSON, or a message. -/
inductive Received
  | error
  | text
  | message (message : Message)
  deriving DecidableEq, Repr

/-- Where the read goroutine of a connection stands. Between two of these it performs one
    operation on what the goroutines share. -/
inductive ReadPc
  | idle
  | reading
  | handling (message : Message)
  | testing (ready : Bool)
  | readying
  | signalling
  | closing_timer
  | closing_flag
  | closing_check
  | done
  deriving DecidableEq, Repr

/-- What belongs to one call of `connectInternal`: its context, its connection, how often
    `readyCh` has been closed, whether `errCh` holds an error, and its read goroutine. -/
structure Conn where
  cancelled : Bool := false
  closed : Bool := false
  ready_closes : Nat := 0
  err_sent : Bool := false
  read : ReadPc := .idle
  deriving DecidableEq, Repr

/-- `conn.Read` fails from now on. -/
def Conn.down (conn : Conn) : Bool := conn.cancelled || conn.closed

/-- Where a call of `connectInternal` stands. -/
inductive AttemptPc
  | start
  | register (conn : Nat)
  | dial (conn : Nat)
  | opened (conn : Nat)
  | authorize (conn : Nat)
  | waiting (conn : Nat)
  deriving DecidableEq, Repr

inductive AttemptStatus
  | continues (pc : AttemptPc)
  | succeeded
  | failed
  deriving DecidableEq, Repr

/-- How an operation of `connectInternal` ends. In its `select`, `proceeds` is the
    readiness and `fails` the error. -/
inductive Outcome
  | proceeds
  | fails
  | timeout
  deriving DecidableEq, Repr

/-- Where `triggerReconnect` past its guard and the `reconnect` it calls stand. -/
inductive LoopPc
  | closing
  | head
  | giving_up
  | reporting
  | counting
  | announcing (attempt : Nat)
  | sleeping
  | connecting (pc : AttemptPc)
  | scheduling
  | notifying
  | returning
  deriving DecidableEq, Repr

/-- Where a call of `Connect` or `Disconnect` stands. -/
inductive CallPc
  | connect_flag
  | connect_timer
  | connect_attempts
  | connecting (pc : AttemptPc)
  | connected (ok : Bool)
  | disconnect_flag
  | disconnect_timer
  | disconnect_close
  | disconnect_ready
  | disconnect_report
  | disconnected
  deriving DecidableEq, Repr

inductive PingPc
  | waiting
  | ticked (conn : Nat)
  | writing (conn : Nat) (id : String)
  | done
  deriving DecidableEq, Repr

/-- A ping loop, with the connection whose context it watches. -/
structure Ping where
  ctx : Nat
  pc : PingPc := .waiting
  deriving DecidableEq, Repr

/-- A goroutine that waits for a pong. -/
structure Pong where
  ctx : Nat
  expected_id : String
  done : Bool := false
  deriving DecidableEq, Repr

/-- A `MercurySocket` with its goroutines and the calls on it. At most one
    `triggerReconnect` is past its guard at a time; the others are counted. -/
structure Process where
  ms : MercurySocket
  conns : Nat → Conn := fun _ => {}
  next_conn : Nat := 0
  pings : List Ping := []
  pongs : List Pong := []
  triggers : Nat := 0
  loop : Option LoopPc := none
  calls : List CallPc := []
  /-- The messages passed to the callbacks, with the connection they came from. -/
  deliveries : List (Nat × EventType) := []
  /-- A channel was closed twice, which ends the process. -/
  panicked : Bool := false

namespace Process

def set_conn (p : Process) (c : Nat) (conn : Conn) : Process :=
  { p with conns := fun other => if other = c then conn else p.conns other }

def set_read (p : Process) (c : Nat) (pc : ReadPc) : Process := p.set_conn c { p.conns c with read := pc }

/-- The cancel function of a connection's context. -/
def cancel (p : Process) (c : Nat) : Process := p.set_conn c { p.conns c with cancelled := true }

def close_conn (p : Process) (c : Nat) : Process := p.set_conn c { p.conns c with closed := true }

/-- `go ms.triggerReconnect()`. -/
def go_trigger (p : Process) : Process := { p with triggers := p.triggers + 1 }

/-- `closeWebSocket`, under the lock. The context and the connection may belong to
    different calls of `connectInternal`. -/
def close_web_socket (p : Process) : Process :=
  let cancelled := p.ms.cancel_fn.elim p p.cancel
  let closed := p.ms.conn.elim cancelled cancelled.close_conn
  { closed with ms := p.ms.close_web_socket }

/-- `handlePong`. -/
def handle_pong (p : Process) (id : String) : Process :=
  if p.ms.pending_pong_id ≠ "" ∧ id = p.ms.pending_pong_id then
    { p with ms := { p.ms with pending_pong_id := "" } }
  else p

def deliver (p : Process) (c : Nat) (event_type : EventType) : Process :=
  { p with deliveries := p.deliveries ++ [(c, event_type)] }

/-- `handleMessage`. The ack of an envelope changes nothing here. -/
def handle_message (p : Process) (c : Nat) (message : Message) : Process :=
  match message.type, message.event_type with
  | .pong id, _ => p.handle_pong id
  | _, .kms => p.deliver c .kms
  | _, .activity => p.deliver c .activity
  | .shutdown, .absent => p.go_trigger
  | _, _ => p

/-- `conn.Read` returns in the read goroutine. An error before readiness goes to `errCh`,
    and after it to `handleClose`. -/
def read (p : Process) (c : Nat) : Received → Option Process
  | .error =>
    if p.ms.connection_ready then some (p.set_read c .closing_timer)
    else some (p.set_conn c { p.conns c with err_sent := true, read := .done })
  | .text => if (p.conns c).down then none else some p
  | .message message => if (p.conns c).down then none else some (p.set_read c (.handling message))

/-- `close(readyCh)`. -/
def close_ready (p : Process) (c : Nat) : Process :=
  if (p.conns c).ready_closes = 0 then p.set_conn c { p.conns c with ready_closes := 1, read := .reading }
  else { p with panicked := true }

/-- The next operation of the read goroutine between two reads. -/
def read_next (p : Process) (c : Nat) : Option Process :=
  match (p.conns c).read with
  | .handling message => some ((p.handle_message c message).set_read c (.testing message.is_connection_ready))
  | .testing ready =>
    some (p.set_read c (if !p.ms.connection_ready && ready then .readying else .reading))
  | .readying => some { p.set_read c .signalling with
      ms := p.ms.set_connection_ready true
      pings := p.pings ++ [{ ctx := c }] }
  | .signalling => some (p.close_ready c)
  | .closing_timer => some { p.set_read c .closing_flag with ms := p.ms.cancel_stability_timer }
  | .closing_flag => some { p.set_read c .closing_check with ms := p.ms.set_connection_ready false }
  | .closing_check =>
    if p.ms.should_reconnect then some (p.set_read c .done).go_trigger
    else some { p.set_read c .done with ms := p.ms.act (.on_disconnected "manual") }
  | _ => none

/-- The next operation of a call of `connectInternal`. -/
def attempt (p : Process) : AttemptPc → Outcome → Option (Process × AttemptStatus)
  | .start, .proceeds =>
    some ({ p with ms := p.ms.set_connection_ready false, next_conn := p.next_conn + 1 },
      .continues (.register p.next_conn))
  | .register c, .proceeds => some ({ p with ms := { p.ms with cancel_fn := some c } }, .continues (.dial c))
  | .dial c, .proceeds => if (p.conns c).cancelled then none else some (p, .continues (.opened c))
  | .dial c, .fails => some (p.cancel c, .failed)
  | .opened c, .proceeds => some ({ p with ms := { p.ms with conn := some c } }, .continues (.authorize c))
  | .authorize c, .proceeds =>
    -- the goroutine of a call is started once, with channels of its own
    if (p.conns c).down ∨ (p.conns c).read ≠ .idle then none
    else some (p.set_conn c { p.conns c with ready_closes := 0, err_sent := false, read := .reading },
      .continues (.waiting c))
  | .authorize c, .fails => some (p.cancel c, .failed)
  | .waiting c, .proceeds => if 0 < (p.conns c).ready_closes then some (p, .succeeded) else none
  | .waiting c, .fails => if (p.conns c).err_sent then some (p.cancel c, .failed) else none
  | .waiting c, .timeout => some (p.cancel c, .failed)
  | _, _ => none

/-- The guard of a `triggerReconnect`. -/
def trigger (p : Process) : Option Process :=
  if p.triggers = 0 then none
  else if p.ms.reconnecting || !p.ms.should_reconnect then some { p with triggers := p.triggers - 1 }
  else some { p with
    ms := { p.ms with reconnecting := true }
    triggers := p.triggers - 1
    loop := some .closing }

def at_loop (p : Process) (pc : LoopPc) : Process := { p with loop := some pc }

/-- The next operation of the running `reconnect`. -/
def loop_next (p : Process) (outcome : Outcome) : LoopPc → Option Process
  | .closing => some (p.close_web_socket.at_loop .head)
  | .head =>
    if !p.ms.should_reconnect then some (p.at_loop .returning)
    else if p.ms.max_reconnect_attempts ≤ p.ms.reconnect_attempts then some (p.at_loop .giving_up)
    else some (p.at_loop .counting)
  | .giving_up => some { p.at_loop .reporting with ms := p.ms.set_should_reconnect false }
  | .reporting => some { p.at_loop .returning with ms := p.ms.act (.on_disconnected "max-attempts-exceeded") }
  | .counting => some { p.at_loop (.announcing (p.ms.reconnect_attempts + 1)) with
      ms := { p.ms with reconnect_attempts := p.ms.reconnect_attempts + 1 } }
  | .announcing attempt => some { p.at_loop .sleeping with ms := p.ms.act (.on_reconnecting attempt) }
  | .sleeping => some (p.at_loop (if p.ms.should_reconnect then .connecting .start else .returning))
  | .connecting pc => (p.attempt pc outcome).map fun
      | (p, .continues pc) => p.at_loop (.connecting pc)
      | (p, .succeeded) => p.at_loop .scheduling
      | (p, .failed) => p.at_loop .head
  | .scheduling => some { p.at_loop .notifying with ms := { p.ms with stability_timer := true } }
  | .notifying => some { p.at_loop .returning with ms := p.ms.act .on_connected }
  | .returning => some { p with ms := { p.ms with reconnecting := false }, loop := none }

def at_call (p : Process) (index : Nat) (pc : CallPc) : Process := { p with calls := p.calls.set index pc }

/-- The next operation of a `Connect` or `Disconnect`. -/
def call_next (p : Process) (index : Nat) (outcome : Outcome) : CallPc → Option Process
  | .connect_flag => some { p.at_call index .connect_timer with ms := p.ms.set_should_reconnect true }
  | .connect_timer => some { p.at_call index .connect_attempts with ms := p.ms.cancel_stability_timer }
  | .connect_attempts => some { p.at_call index (.connecting .start) with ms := { p.ms with reconnect_attempts := 0 } }
  | .connecting pc => (p.attempt pc outcome).map fun
      | (p, .continues pc) => p.at_call index (.connecting pc)
      | (p, .succeeded) => p.at_call index (.connected true)
      | (p, .failed) => p.at_call index (.connected false)
  | .disconnect_flag => some { p.at_call index .disconnect_timer with ms := p.ms.set_should_reconnect false }
  | .disconnect_timer => some { p.at_call index .disconnect_close with ms := p.ms.cancel_stability_timer }
  | .disconnect_close => some (p.close_web_socket.at_call index .disconnect_ready)
  | .disconnect_ready => some { p.at_call index .disconnect_report with ms := p.ms.set_connection_ready false }
  | .disconnect_report => some { p.at_call index .disconnected with ms := p.ms.act (.on_disconnected "client") }
  | .connected _ | .disconnected => none

/-- The next operation of a ping loop: it ends with its context or without a connection,
    and after a frame that cannot be written. Its `select` may take a tick that is due even
    when the context has ended; then `ok` says so. -/
def ping_next (p : Process) (index : Nat) (ping : Ping) (id : String) (ok : Bool) : Option Process :=
  match ping.pc with
  | .waiting =>
    let pc := if (p.conns ping.ctx).cancelled ∧ ok = false then .done else p.ms.conn.elim .done .ticked
    some { p with pings := p.pings.set index { ping with pc := pc } }
  | .ticked c => some { p with
      ms := { p.ms with pending_pong_id := id }
      pings := p.pings.set index { ping with pc := .writing c id } }
  | .writing c id =>
    if ok then
      if (p.conns c).closed || (p.conns ping.ctx).cancelled then none
      else some { p with
        pings := p.pings.set index { ping with pc := .waiting }
        pongs := p.pongs ++ [{ ctx := ping.ctx, expected_id := id }] }
    else some { p with pings := p.pings.set index { ping with pc := .done } }
  | .done => none

/-- A goroutine that waits for a pong ends with its context, or at its timeout, when it
    goes on to `triggerReconnect` if the pong is still pending. -/
def pong_next (p : Process) (index : Nat) (pong : Pong) (timeout : Bool) : Option Process :=
  let ended := { p with pongs := p.pongs.set index { pong with done := true } }
  if pong.done then none
  else if !timeout then if (p.conns pong.ctx).cancelled then some ended else none
  else if p.ms.pending_pong_id ≠ pong.expected_id then some ended
  else some { ended with ms := { p.ms with pending_pong_id := "" } }.go_trigger

end Process

/-- The steps of the goroutines, with the choices of the server, the timers and the
    scheduler. -/
inductive Label
  | connect
  | disconnect
  | call (index : Nat) (outcome : Outcome)
  | read (conn : Nat) (received : Received)
  | read_next (conn : Nat)
  | trigger
  | loop (outcome : Outcome)
  | ping (index : Nat) (id : String) (ok : Bool)
  | pong (index : Nat) (timeout : Bool)
  | stability_timer
  deriving DecidableEq, Repr

namespace Process

/-- One step. A process that has panicked takes no more. -/
def step (p : Process) (label : Label) : Option Process :=
  if p.panicked then none
  else match label with
    | .connect => some { p with calls := p.calls ++ [.connect_flag] }
    | .disconnect => some { p with calls := p.calls ++ [.disconnect_flag] }
    | .call index outcome => (p.calls[index]?).bind (p.call_next index outcome)
    | .read c received => if (p.conns c).read = .reading then p.read c received else none
    | .read_next c => p.read_next c
    | .trigger => p.trigger
    | .loop outcome => p.loop.bind (p.loop_next outcome)
    | .ping index id ok => (p.pings[index]?).bind fun ping => p.ping_next index ping id ok
    | .pong index timeout => (p.pongs[index]?).bind fun pong => p.pong_next index pong timeout
    | .stability_timer =>
      if p.ms.stability_timer then some { p with ms := { p.ms with stability_timer := false, reconnect_attempts := 0 } }
      else none

end Process

/-- A new `MercurySocket`. -/
def new_process (max_reconnect_attempts : Nat) : Process where
  ms := { max_reconnect_attempts := max_reconnect_attempts }

/-- Every interleaving of calls and goroutines on a new `MercurySocket`. -/
def interleavings (max_reconnect_attempts : Nat) : Machine Process Label where
  init := new_process max_reconnect_attempts
  step := Process.step

/-- `connectInternal` in a call or in the loop, up to its `select`. -/
def dialled (label : Label) : List Label := List.replicate 5 label

/-- A readiness message and what the read goroutine does with it. -/
def ready_labels (c : Nat) : List Label :=
  .read c (.message ⟨.other, .ready⟩) :: List.replicate 4 (.read_next c)

/-- A `Connect` that succeeds, on a new socket. -/
def connect_labels : List Label :=
  .connect :: List.replicate 3 (.call 0 .proceeds) ++ dialled (.call 0 .proceeds) ++ ready_labels 0 ++
    ([.call 0 .proceeds] : List Label)

end webex.go.mercury_socket
