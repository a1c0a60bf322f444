import WebexHandler.Rust.MercurySocket.Socket
import WebexHandler.Transition.Machine

open interaction json transition

namespace webex.rust.mercury_socket

/-- The item a read loop takes is its last one. -/
def Action.ends : Action → Bool
  | .next none => true
  | .next (some (.close _)) => true
  | .next (some (.error _)) => true
  | _ => false

/-- A read loop task. Its socket has ended once the loop has taken its last item. -/
structure Reading where
  rest : Loop
  opened_at : Nat
  ended_at : Option Nat := none
  /-- The item it took last, and whether it has looked at `should_reconnect` since. -/
  item : Option Item := none
  looked : Bool := false

/-- The item that is being handled after an action. -/
def Action.taken (item : Option Item) : Action → Option Item
  | .next taken => taken
  | _ => item

/-- Whether the loop has looked at `should_reconnect` since it took the item. -/
def Action.looks (looked : Bool) : Action → Bool
  | .next _ => false
  | .get_should_reconnect => true
  | _ => looked

/-- The loop after an action, at the time of which its socket may have ended. -/
def Reading.resume (loop : Reading) (action : Action) (time : Nat) (rest : Loop) : Reading where
  rest := rest
  opened_at := loop.opened_at
  ended_at := if action.ends then some time else loop.ended_at
  item := action.taken loop.item
  looked := action.looks loop.looked

/-- The close codes after which `handle_close_static` reports a permanent failure. -/
def permanent (code : UInt16) : Bool := code == 4401 || (code == 4400 || code == 4403)

/-- A Close frame that is not a permanent failure. -/
def Item.recoverable : Item → Bool
  | .close frame => !permanent ((frame.map Prod.fst).getD 1000)
  | _ => false

/-- What a read loop has left to emit for the item it took last: nothing, the report of a
    Close frame, or anything. -/
inductive Phase
  | silent
  | farewell
  | loud
  deriving DecidableEq, Repr

/-- The phase of a loop that handles this item, by its next action. On its way from a Close
    frame to `should_reconnect` it will report the frame if the flag is down then, and
    `"manual"` is that report. -/
def phase_at (item : Option Item) (looked : Bool) : Option Action → Phase
  | none | some (.next _) | some .get_connected => .silent
  | some .get_should_reconnect => if item.any Item.recoverable && !looked then .farewell else .silent
  | some (.set_connected _) => match item with
    | some (.close _) => if item.any Item.recoverable then .farewell else .loud
    | _ => .silent
  | some .cancel_stability_timer => if item.any Item.recoverable then .farewell else .loud
  | some (.send (.disconnected reason)) =>
    if item.any Item.recoverable && looked && reason == "manual" then .farewell else .loud
  | some _ => .loud

def Reading.phase (loop : Reading) : Phase := phase_at loop.item loop.looked loop.rest.head

/-- What a call has set so far, and the socket it has opened. -/
structure Progress where
  should_reconnect : Bool := false
  connected : Bool := false
  opened : Option Nat := none
  scheduled : Option Nat := none
  deriving DecidableEq, Repr

def Progress.after (done : Progress) : (op : Op) → Res op → Progress
  | .act (.set_should_reconnect value), _ => { done with should_reconnect := value }
  | .act (.set_connected value), _ => { done with connected := value }
  | .act .cancel_stability_timer, _ => { done with scheduled := none }
  | .act (.schedule_attempts_reset socket), _ => { done with scheduled := some socket }
  | .spawn_read_loop _, socket => { done with opened := some socket }
  | _, _ => done

/-- A call of `connect` or `disconnect` in progress, and whether another call was in
    progress at some time since it began. -/
structure Calling where
  rest : Program Op Res (Except WebexError (Option Nat) × Unit)
  done : Progress := {}
  overlapped : Bool := false

/-- The time from the return of a successful `connect` on that no other call overlapped:
    the socket it opened, and the attempts counter and the number of events at its
    return. -/
structure Window where
  socket : Nat
  attempts : Nat
  sent : Nat
  deriving DecidableEq, Repr

/-- The time from the return of a `disconnect` up to the next `connect`: the numbers of
    events and acks at its start, whether another call overlapped the `disconnect`, and the
    number of Close frames that were still to be reported then or were taken since. -/
structure Mark where
  sent : Nat
  acked : Nat
  overlapped : Bool
  closes : Nat
  deriving DecidableEq, Repr

def Mark.after (mark : Mark) : Action → Mark
  | .next (some (.close _)) => { mark with closes := mark.closes + 1 }
  | _ => mark

/-- A `MercurySocket` with its tasks. The calls are numbered in the order in which they
    began, and the read loops in the order in which their sockets were opened; the acks
    they write keep that number. -/
structure State where
  shared : Shared := {}
  calls : List (Option Calling) := []
  loops : List Reading := []
  acks : List (Nat × Value) := []
  current : Option Window := none
  closed : Option Mark := none
  /-- What a caller has set `should_reconnect` to last. -/
  wanted : Bool := true

/-- How the environment resolves an operation of a caller. -/
inductive Choice
  | done
  | time (millis : Nat)
  | uuid (id : String)
  | opened (result : Except String (List Item))
  | written (result : Except String Unit)
  | timed_out (value : Bool)

/-- A caller begins a call, performs an operation of one in progress or returns from it; a
    read loop performs an action; the reset of the attempts counter fires; time passes.
    Every call takes `&self`, so it may begin while others are in progress. -/
inductive Label
  | connect (ws_url token : String)
  | disconnect
  | perform (call : Nat) (choice : Choice)
  | return_call (call : Nat)
  | read (socket : Nat)
  | fire
  | wait (millis : Nat)

/-- The options of a `MercurySocket` that its tasks use, times in milliseconds. -/
structure Options where
  max_reconnect_attempts : Nat
  reconnect_stability : Nat

variable (crates : Crates) (options : Options)

/-- A read loop that is about to take an item, or has ended. -/
def Reading.resting (loop : Reading) : Bool :=
  match loop.rest.head with
  | none => true
  | some (.next _) => true
  | some _ => false

/-- A read loop that is about to look at `should_reconnect`. -/
def Reading.looking (loop : Reading) : Bool :=
  match loop.rest.head with
  | some .get_should_reconnect => true
  | _ => false

namespace State

/-- What a caller has set `should_reconnect` to last, after an operation. -/
def wants (wanted : Bool) : Op → Bool
  | .act (.set_should_reconnect value) => value
  | _ => wanted

/-- One operation of a caller. -/
def perform (s : State) : (op : Op) → Choice → Option (Res op × State)
  | .act action, .done => some ((s.shared.apply none action).1,
      { s with shared := (s.shared.apply none action).2, wanted := wants s.wanted (.act action) })
  | .now, .time millis => some (millis, s)
  | .new_v4, .uuid id => some (id, s)
  | .connect_async _, .opened result => some (result, s)
  | .write _, .written result => some (result, s)
  | .timeout, .timed_out value => some (value, s)
  | .spawn_read_loop items, .done =>
    some (s.loops.length, { s with loops := s.loops ++
      [{ rest := read_loop crates options.max_reconnect_attempts items, opened_at := s.shared.time }] })
  | _, _ => none

/-- The call of this number, while it is in progress. -/
def call (s : State) (n : Nat) : Option Calling := s.calls[n]?.join

def begin_call (s : State) (call : Caller (Option Nat)) (closed : Option Mark) : State :=
  { s with
    calls := s.calls.map (Option.map fun call => { call with overlapped := true }) ++
      [some { rest := call (), overlapped := s.calls.any Option.isSome }]
    current := none
    closed := closed }

/-- The read loops that still have a Close frame to report. -/
def farewells (s : State) : Nat := s.loops.countP (·.phase == .farewell)

/-- What the return of a call opens: of a `connect`, unless its socket has ended by then
    or another call overlapped it, or of a `disconnect`. -/
def return_call (s : State) (n : Nat) (overlapped : Bool) : Except WebexError (Option Nat) → State
  | .ok (some socket) => { s with
      calls := s.calls.set n none
      current := if !overlapped && (s.loops[socket]?).any (·.ended_at.isNone) then
          some ⟨socket, s.shared.reconnect_attempts, s.shared.events.length⟩
        else none }
  | .ok none => { s with
      calls := s.calls.set n none
      closed := some (s.closed.getD ⟨s.shared.events.length, s.acks.length, overlapped, s.farewells⟩) }
  | .error _ => { s with calls := s.calls.set n none }

/-- The next action of a read loop. -/
def head (s : State) (socket : Nat) : Option Action := (s.loops[socket]?).bind (·.rest.head)

/-- One action of a read loop. The socket that a `connect` has opened is no longer the
    current one when it ends. -/
def read (s : State) (socket : Nat) (loop : Reading) (action : Action) (rest : Loop) : State :=
  { s with
    shared := (s.shared.apply (some socket) action).2
    loops := s.loops.set socket (loop.resume action s.shared.time rest)
    acks := match action with
      | .ack message => s.acks ++ [(socket, message)]
      | _ => s.acks
    current := s.current.filter fun window => !(window.socket == socket && action.ends)
    closed := s.closed.map (·.after action) }

def step (s : State) : Label → Option State
  | .connect ws_url token => some (s.begin_call (mercury_socket.connect crates ws_url token) none)
  | .disconnect => some (s.begin_call mercury_socket.disconnect s.closed)
  | .perform n choice =>
    match s.call n with
    | some ⟨.ask op next, done, overlapped⟩ =>
      (s.perform crates options op choice).map fun (r, after) =>
        { after with calls := s.calls.set n (some ⟨next r, done.after op r, overlapped⟩) }
    | _ => none
  | .return_call n =>
    match s.call n with
    | some ⟨.ret (result, _), _, overlapped⟩ => some (s.return_call n overlapped result)
    | _ => none
  | .read socket =>
    match s.loops[socket]? with
    | none => none
    | some loop =>
      match loop.rest with
      | .ret _ => none
      | .ask action next => some (s.read socket loop action (next (s.shared.apply (some socket) action).1))
  | .fire =>
    match s.shared.stability_task with
    | some ⟨socket, armed_at, true⟩ =>
      if armed_at + options.reconnect_stability ≤ s.shared.time then
        some { s with shared := { s.shared with
          reconnect_attempts := 0, stability_task := some ⟨socket, armed_at, false⟩ } }
      else none
    | _ => none
  | .wait millis => some { s with shared := { s.shared with time := s.shared.time + millis } }

end State

/-- A new `MercurySocket`, with its callers, its read loops and its timer. -/
def tasks : Machine State Label where
  init := {}
  step := State.step crates options

section sample

/-- The texts of the runs below, as JSON. -/
def sample_texts : List (String × Value) :=
  [("ready", .object [("data", .object [("eventType", .string "mercury.buffer_state")])]),
    ("pong", .object [("type", .string "pong"), ("id", .string "1")])]

/-- The other crates on the inputs of the runs below. -/
def sample_crates : Crates where
  from_str text := (sample_texts.lookup text).elim (.error "expected value at line 1 column 1") .ok
  activity_from_value _ := .error "missing field `id`"
  parse_url url := if url = "" then .error "relative URL without a base" else .ok url
  append_pairs url pairs := url ++ "?" ++ String.intercalate "&" (pairs.map fun pair => pair.1 ++ "=" ++ pair.2)

/-- A `connect` that succeeds, as the call of this number, with a socket on which the given
    items follow the readiness message. -/
def connect_labels (call : Nat) (items : List Item) : List Label :=
  ([.connect "wss://mercury.wbx2.com" "token"] : List Label) ++ List.replicate 5 (.perform call .done) ++
  ([.perform call (.time 0), .perform call .done, .perform call (.opened (.ok (.text "ready" :: items))),
    .perform call .done, .perform call (.uuid "u"), .perform call (.written (.ok ())),
    .perform call (.timed_out false)] : List Label) ++
  List.replicate 3 (.perform call .done) ++ ([.return_call call] : List Label)

def disconnect_labels (call : Nat) : List Label :=
  [.disconnect] ++ List.replicate 4 (.perform call .done) ++ [.return_call call]

end sample

end webex.rust.mercury_socket
