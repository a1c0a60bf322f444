import WebexHandler.Python.MercurySocket.Heartbeats
import WebexHandler.Python.MercurySocket.Ownership

open transition interaction

namespace webex.python.mercury_socket

/-- A ping with its id and the socket its frame was sent on. -/
structure Ping where
  id : Nat := 0
  ws : Nat := 0
  deriving DecidableEq, Repr

/-- A close that `_on_pong_timeout` begins on the current socket or its session: the
    ping whose timer expired, and whether its pong had been received. -/
structure Closing where
  ping : Ping
  ws : Nat
  answered : Bool
  deriving DecidableEq, Repr

/-- The ping was sent on the socket that is closed, and its pong is missing. -/
def Closing.Justified (self : Closing) : Prop := self.ping.ws = self.ws ∧ self.answered = false

def ClosePc.ws : ClosePc → Nat
  | .session ws | .socket ws => ws

/-- A pong-timeout task that has still to close the socket. -/
def PongPc.closes : PongPc → Bool
  | .scheduled | .closing (.session _) => true
  | .closing (.socket _) => false

namespace MercurySocket

/-- The socket on which a ping loop that wakes up sends its ping. -/
def ping_target (self : MercurySocket) : Option Nat :=
  match self.ws with
  | some ws => if self.ws_closed ws then none else some ws
  | none => none

theorem ping_wake_eq (self : MercurySocket) (ping : Nat) :
    self.ping_wake ping = match self.ping_target with
      | some _ => { self with heartbeat := self.heartbeat.send_ping ping }
      | none => self := by
  simp only [ping_wake, ping_target]
  cases self.ws with
  | none => rfl
  | some ws => by_cases hclosed : self.ws_closed ws = true <;> simp [hclosed]

theorem ws_of_ping_target {self : MercurySocket} {ws : Nat} (htarget : self.ping_target = some ws) :
    self.ws = some ws := by
  simp only [ping_target] at htarget
  split at htarget
  · simp only [Option.ite_none_left_eq_some, Option.some.injEq] at htarget
    rename_i hws
    exact htarget.2 ▸ hws
  · cases htarget

/-- The segment of `_close_websocket` that a pong-timeout task runs in a step. -/
def pong_segment (self : MercurySocket) : Step → Option (Nat × MercurySocket × CloseStatus)
  | .run_pong_timeout pong =>
    if self.pongs[pong]? = some .scheduled then
      some (pong, { self with heartbeat := { self.heartbeat with pending_pong_id := none } }.close_websocket)
    else none
  | .pong_resumed pong ok =>
    match self.pongs[pong]? with
    | some (.closing pc) => some (pong, self.close_websocket_resume pc ok)
    | _ => none
  | _ => none

variable {self : MercurySocket} {step : Step} {pong : Nat} {closed : MercurySocket × CloseStatus}

theorem step_of_pong_segment (hsegment : self.pong_segment step = some (pong, closed)) :
    self.step step = some (pong_continue pong closed) := by
  cases step with
  | run_pong_timeout other =>
    simp only [pong_segment, Option.ite_none_right_eq_some, Option.some.injEq, Prod.mk.injEq] at hsegment
    obtain ⟨hscheduled, rfl, rfl⟩ := hsegment
    simp only [MercurySocket.step, if_pos hscheduled]
  | pong_resumed other ok =>
    simp only [pong_segment] at hsegment
    split at hsegment
    · rename_i pc hclosing
      simp only [Option.some.injEq, Prod.mk.injEq] at hsegment
      obtain ⟨rfl, rfl⟩ := hsegment
      simp only [MercurySocket.step, hclosing]
    · cases hsegment
  | _ => cases hsegment

/-- The segment leaves the heartbeat's callbacks to the steps that follow, and opens no socket. -/
theorem pong_segment_settles (hsegment : self.pong_segment step = some (pong, closed)) :
    Settles self closed.1 ∧ Quiet self closed.1 := by
  cases step with
  | run_pong_timeout other =>
    simp only [pong_segment, Option.ite_none_right_eq_some, Option.some.injEq, Prod.mk.injEq] at hsegment
    obtain ⟨-, rfl, rfl⟩ := hsegment
    have hcleared : Settles self { self with heartbeat := { self.heartbeat with pending_pong_id := none } } :=
      ⟨.of_eq rfl rfl rfl, rfl⟩
    have hquiet : Quiet self { self with heartbeat := { self.heartbeat with pending_pong_id := none } } :=
      .of_eq rfl rfl rfl rfl id
    exact ⟨hcleared.trans (close_websocket_settles _), hquiet.trans (close_websocket_quiet _)⟩
  | pong_resumed other ok =>
    simp only [pong_segment] at hsegment
    split at hsegment
    · rename_i pc hclosing
      simp only [Option.some.injEq, Prod.mk.injEq] at hsegment
      obtain ⟨rfl, rfl⟩ := hsegment
      exact ⟨close_websocket_resume_settles self pc ok, close_websocket_resume_quiet self pc ok⟩
    · cases hsegment
  | _ => cases hsegment

theorem close_socket_suspended {self : MercurySocket} {pc : ClosePc} (hsuspended : self.close_socket.2 = .suspended pc) :
    self.ws = some pc.ws := by
  simp only [close_socket] at hsuspended
  split at hsuspended
  · cases hsuspended
  · split at hsuspended
    · cases hsuspended
    · rename_i ws hws _
      obtain rfl := CloseStatus.suspended.inj hsuspended
      exact hws

theorem close_websocket_suspended {self : MercurySocket} {pc : ClosePc}
    (hsuspended : self.close_websocket.2 = .suspended pc) : self.ws = some pc.ws := by
  simp only [close_websocket] at hsuspended
  split at hsuspended
  · cases hsuspended
  · split at hsuspended
    · rename_i ws hws _
      obtain rfl := CloseStatus.suspended.inj hsuspended
      exact hws
    · exact close_socket_suspended hsuspended

/-- A task that begins a close had still to close the socket, and closes the current one. -/
theorem pong_segment_suspended {pc : ClosePc} (hsegment : self.pong_segment step = some (pong, closed))
    (hsuspended : closed.2 = .suspended pc) :
    (∃ task, self.pongs[pong]? = some task ∧ task.closes = true) ∧ self.ws = some pc.ws := by
  cases step with
  | run_pong_timeout other =>
    simp only [pong_segment, Option.ite_none_right_eq_some, Option.some.injEq, Prod.mk.injEq] at hsegment
    obtain ⟨hscheduled, rfl, rfl⟩ := hsegment
    have hws := close_websocket_suspended hsuspended
    exact ⟨⟨_, hscheduled, rfl⟩, hws⟩
  | pong_resumed other ok =>
    simp only [pong_segment] at hsegment
    split at hsegment
    · rename_i await hclosing
      simp only [Option.some.injEq, Prod.mk.injEq] at hsegment
      obtain ⟨rfl, rfl⟩ := hsegment
      simp only [close_websocket_resume] at hsuspended
      split at hsuspended
      · cases hsuspended
      · cases await with
        | session ws =>
          have hws := close_socket_suspended hsuspended
          exact ⟨⟨_, hclosing, rfl⟩, hws⟩
        | socket ws => cases hsuspended
    · cases hsegment
  | _ => cases hsegment

/-- A task that ends leaves the list. -/
theorem pong_continue_ended {closed : MercurySocket} {status : CloseStatus} (hended : ∀ pc, status ≠ .suspended pc) :
    Settles { closed with pongs := closed.pongs.eraseIdx pong } (pong_continue pong (closed, status)) ∧
    Quiet closed (pong_continue pong (closed, status)) := by
  have hquiet : Quiet closed (pong_continue pong (closed, status)) := pong_continue_quiet (.refl closed) pong
  cases status with
  | suspended pc => exact absurd rfl (hended pc)
  | finished => exact ⟨reconnect_settles _, hquiet⟩
  | raised => exact ⟨.refl _, hquiet⟩

end MercurySocket

/-- A socket with a record of its pings. The ping is noted for each loop that sends
    it, each timer armed for it and each pong-timeout task. -/
structure Watched where
  system : System
  sending : Nat → Ping := fun _ => {}
  timed : Nat → Ping := fun _ => {}
  tasks : List Ping := []
  /-- The ids of the pongs that read loops have received. -/
  received : List Nat := []
  closings : List Closing := []

namespace Watched

def socket (self : Watched) : MercurySocket := self.system.socket

/-- What a step adds to the record. A pong cannot carry an id that is yet to be
    generated; such a number stands for any other text. -/
def observe (self : Watched) : Label → Watched
  | .task (.read read (.message (.pong id) _) _) =>
    if (self.socket.reads read).owned_ws.isSome ∧ id < self.socket.heartbeat.next_pong then
      { self with received := self.received ++ [id] }
    else self
  | .task (.ping_wake ping) =>
    match self.socket.ping_target with
    | some ws => { self with
        sending := Function.update self.sending ping { id := self.socket.heartbeat.next_pong, ws } }
    | none => self
  | .task (.ping_sent ping true) =>
    { self with timed := Function.update self.timed self.socket.heartbeat.next_pong (self.sending ping) }
  | .task (.pong_timer timer) => { self with tasks := self.tasks ++ [self.timed timer] }
  | .task step =>
    match self.socket.pong_segment step with
    | some (pong, _, .suspended pc) =>
      let ping := self.tasks[pong]?.getD {}
      { self with closings := self.closings ++ [{ ping, ws := pc.ws, answered := self.received.contains ping.id }] }
    | some (pong, _, _) => { self with tasks := self.tasks.eraseIdx pong }
    | none => self
  | _ => self

def step (self : Watched) (label : Label) : Option Watched :=
  (self.system.step label).map fun system => { self.observe label with system }

end Watched

/-- Every interleaving of the tasks and calls of one new `MercurySocket`, recorded. -/
def watched (max_reconnect_attempts : Nat) : Machine Watched Label where
  init := { system := (system max_reconnect_attempts).init }
  step := Watched.step

/-- What may still close the socket for a ping: its loop between the frame and the
    timer, the armed timer, or the task. -/
inductive Callback
  | sending (ping : Nat)
  | timer (timer : Nat)
  | task (pong : Nat)
  deriving DecidableEq, Repr

namespace Watched

def Awaits (self : Watched) : Callback → Ping → Prop
  | .sending loop, ping => self.socket.heartbeat.pings loop = .sending ∧ self.sending loop = ping
  | .timer timer, ping => timer ∈ self.socket.heartbeat.armed ∧ self.timed timer = ping
  | .task pong, ping => self.tasks[pong]? = some ping ∧ ∃ pc, self.socket.pongs[pong]? = some pc ∧ pc.closes = true

/-- A new socket is attached when no callback is left. A pong is received either
    without a current socket, or by the current socket's loop while its ping is the
    pending one and has no callback but the timer whose handle is stored. -/
structure Guarded (s : Watched) (label : Label) : Prop where
  attached : s.system.opens label = true → ∀ callback ping, ¬ s.Awaits callback ping
  answered : ∀ read id event_type close_code, label = .task (.read read (.message (.pong id) event_type) close_code) →
    (s.socket.reads read).owned_ws.isSome = true →
    ∀ callback ping, s.Awaits callback ping → ping.id = id → s.socket.ws = none ∨
      ((s.socket.reads read).owned_ws = s.socket.ws ∧ s.socket.heartbeat.pending_pong_id = some id ∧
        ∃ timer, callback = .timer timer ∧ s.socket.heartbeat.pong_timeout_handle = some timer)

/-- A ping that is awaited was sent on the current socket, if there is one, and its
    pong has not been received. -/
structure Sound (s : Watched) : Prop where
  known : ∀ id ∈ s.received, id < s.socket.heartbeat.next_pong
  distinct : s.socket.heartbeat.armed.Nodup
  armed : ∀ timer ∈ s.socket.heartbeat.armed, timer < s.socket.heartbeat.next_pong
  aligned : s.tasks.length = s.socket.pongs.length
  awaited : ∀ callback ping, s.Awaits callback ping →
    s.socket.ws = none ∨ (s.socket.ws = some ping.ws ∧ ping.id ∉ s.received)
  justified : ∀ closing ∈ s.closings, closing.Justified

variable {self : Watched}

theorem Awaits.of_settles {socket : MercurySocket} {calls : List CallPc} {received : List Nat}
    {closings : List Closing} (hsettles : self.socket.Settles socket) {callback : Callback} {ping : Ping}
    (hawaits : Awaits { self with system := { socket, calls }, received, closings } callback ping) :
    self.Awaits callback ping := by
  cases callback with
  | sending loop => exact ⟨hsettles.heartbeat.pings loop hawaits.1, hawaits.2⟩
  | timer timer => exact ⟨hsettles.heartbeat.armed.subset hawaits.1, hawaits.2⟩
  | task pong => exact ⟨hawaits.1, hsettles.pongs ▸ hawaits.2⟩

/-- A step without pings keeps the invariant, if it attaches no socket or nothing is
    awaited. -/
theorem Sound.settles (hsound : self.Sound) {socket : MercurySocket} (calls : List CallPc)
    (hsettles : self.socket.Settles socket)
    (hws : (∀ ws, socket.ws = some ws → self.socket.ws = some ws) ∨ ∀ callback ping, ¬ self.Awaits callback ping) :
    Sound { self with system := { socket, calls } } where
  known id hid := hsettles.heartbeat.next_pong ▸ hsound.known id hid
  distinct := hsound.distinct.sublist hsettles.heartbeat.armed
  armed timer htimer := hsettles.heartbeat.next_pong ▸ hsound.armed timer (hsettles.heartbeat.armed.subset htimer)
  aligned := hsettles.pongs ▸ hsound.aligned
  awaited callback ping hawaits := by
    have hawaits : self.Awaits callback ping := .of_settles hsettles hawaits
    obtain hws | hnone := hws
    · obtain hcleared | ⟨hcurrent, hmissing⟩ := hsound.awaited callback ping hawaits
      · left
        cases hnext : socket.ws with
        | none => exact hnext
        | some ws => cases hcleared.symm.trans (hws ws hnext)
      · cases hnext : socket.ws with
        | none => exact .inl hnext
        | some ws =>
          obtain rfl : ws = ping.ws := Option.some.inj ((hws ws hnext).symm.trans hcurrent)
          exact .inr ⟨hnext, hmissing⟩
    · exact absurd hawaits (hnone callback ping)
  justified := hsound.justified

/-- The pong is in the record before its message is handled. -/
theorem Sound.receive (hsound : self.Sound) {read id : Nat} {event_type : EventType} {close_code : Option Nat}
    (hguarded : self.Guarded (.task (.read read (.message (.pong id) event_type) close_code)))
    (howned : (self.socket.reads read).owned_ws.isSome = true) (hid : id < self.socket.heartbeat.next_pong) :
    Sound { self with
      system := { self.system with
        socket := self.socket.read_item read (.message (.pong id) event_type) close_code }
      received := self.received ++ [id] } := by
  have hsettles : self.socket.Settles (self.socket.read_item read (.message (.pong id) event_type) close_code) :=
    MercurySocket.read_item_settles read _ close_code
  have hquiet : self.socket.Quiet (self.socket.read_item read (.message (.pong id) event_type) close_code) :=
    MercurySocket.read_item_quiet read _ close_code
  have hkept := hsound.settles self.system.calls hsettles (.inl hquiet.ws)
  constructor
  case known =>
    intro other hother
    obtain hold | hnew := List.mem_append.mp hother
    · exact hkept.known other hold
    · obtain rfl := List.mem_singleton.mp hnew
      exact hsettles.heartbeat.next_pong ▸ hid
  case distinct => exact hkept.distinct
  case armed => exact hkept.armed
  case aligned => exact hkept.aligned
  case justified => exact hkept.justified
  case awaited =>
    intro callback ping hawaits
    obtain hcleared | ⟨hcurrent, hmissing⟩ := hkept.awaited callback ping hawaits
    · exact .inl hcleared
    by_cases hping : ping.id = id
    · have hbefore : self.Awaits callback ping := .of_settles hsettles hawaits
      obtain hnone | ⟨howner, hpending, timer, rfl, hhandle⟩ :=
        hguarded.answered read id event_type close_code rfl howned callback ping hbefore hping
      · cases hnone.symm.trans (hquiet.ws _ hcurrent)
      · have hcancelled := Heartbeat.handle_pong_cancels hpending hhandle hsound.distinct
        have harmed := (MercurySocket.read_pong_settles howned howner id event_type close_code).heartbeat.armed
        exact absurd (harmed.subset hawaits.1) hcancelled
    · refine .inr ⟨hcurrent, ?_⟩
      simp only [List.mem_append, List.mem_singleton, not_or]
      exact ⟨hmissing, hping⟩

theorem Sound.ping_wake (hsound : self.Sound) (ping : Nat) :
    Sound { self.observe (.task (.ping_wake ping)) with
      system := { self.system with socket := self.socket.ping_wake ping } } := by
  cases htarget : self.socket.ping_target with
  | none =>
    simp only [observe, MercurySocket.ping_wake_eq, htarget]
    exact hsound
  | some ws =>
    simp only [observe, MercurySocket.ping_wake_eq, htarget]
    have hws := MercurySocket.ws_of_ping_target htarget
    constructor
    case known =>
      intro id hid
      exact Nat.lt_succ_of_lt (hsound.known id hid)
    case distinct => exact hsound.distinct
    case armed =>
      intro timer htimer
      exact Nat.lt_succ_of_lt (hsound.armed timer htimer)
    case aligned => exact hsound.aligned
    case justified => exact hsound.justified
    case awaited =>
      intro callback other hawaits
      cases callback with
      | timer timer => exact hsound.awaited (.timer timer) other hawaits
      | task pong => exact hsound.awaited (.task pong) other hawaits
      | sending loop =>
        obtain ⟨hpings, hother⟩ := hawaits
        by_cases hloop : loop = ping
        · subst hloop
          simp only [Function.update_self] at hother
          subst hother
          refine .inr ⟨hws, fun hreceived => ?_⟩
          exact Nat.lt_irrefl _ (hsound.known _ hreceived)
        · simp only [Function.update_of_ne hloop] at hother
          refine hsound.awaited (.sending loop) other ⟨?_, hother⟩
          simpa [socket, Heartbeat.send_ping, Heartbeat.set_ping, hloop] using hpings

/-- The timer takes over from the loop that sent the frame. -/
theorem Sound.ping_sent (hsound : self.Sound) {ping : Nat} (hsending : self.socket.heartbeat.pings ping = .sending) :
    Sound { self.observe (.task (.ping_sent ping true)) with
      system := { self.system with
        socket := { self.socket with heartbeat := self.socket.heartbeat.ping_sent ping true } } } := by
  constructor
  case known =>
    intro id hid
    exact Nat.lt_succ_of_lt (hsound.known id hid)
  case distinct =>
    refine List.nodup_append.mpr ⟨hsound.distinct, by simp, ?_⟩
    intro timer htimer other hother
    obtain rfl := List.mem_singleton.mp hother
    exact Nat.ne_of_lt (hsound.armed timer htimer)
  case armed =>
    intro timer htimer
    obtain hold | hnew := List.mem_append.mp htimer
    · exact Nat.lt_succ_of_lt (hsound.armed timer hold)
    · obtain rfl := List.mem_singleton.mp hnew
      exact Nat.lt_succ_self _
  case aligned => exact hsound.aligned
  case justified => exact hsound.justified
  case awaited =>
    intro callback other hawaits
    cases callback with
    | task pong => exact hsound.awaited (.task pong) other hawaits
    | sending loop =>
      obtain ⟨hpings, hother⟩ := hawaits
      have hloop : loop ≠ ping := by
        rintro rfl
        simp [socket, Heartbeat.ping_sent, Heartbeat.set_ping] at hpings
      refine hsound.awaited (.sending loop) other ⟨?_, hother⟩
      simpa [socket, Heartbeat.ping_sent, Heartbeat.set_ping, hloop] using hpings
    | timer timer =>
      obtain ⟨harmed, hother⟩ := hawaits
      obtain hold | hnew := List.mem_append.mp harmed
      · have hne : timer ≠ self.socket.heartbeat.next_pong := Nat.ne_of_lt (hsound.armed timer hold)
        simp only [observe, Function.update_of_ne hne] at hother
        exact hsound.awaited (.timer timer) other ⟨hold, hother⟩
      · obtain rfl := List.mem_singleton.mp hnew
        simp only [observe, Function.update_self] at hother
        exact hsound.awaited (.sending ping) other ⟨hsending, hother⟩

/-- The task takes over from the timer. -/
theorem Sound.pong_timer (hsound : self.Sound) {timer : Nat} (harmed : timer ∈ self.socket.heartbeat.armed) :
    Sound { self.observe (.task (.pong_timer timer)) with
      system := { self.system with
        socket := { self.socket with
          heartbeat := { self.socket.heartbeat with armed := self.socket.heartbeat.armed.erase timer }
          pongs := self.socket.pongs ++ [.scheduled] } } } := by
  constructor
  case known => exact hsound.known
  case distinct => exact hsound.distinct.erase timer
  case armed =>
    intro other hother
    exact hsound.armed other (List.mem_of_mem_erase hother)
  case aligned =>
    show (self.tasks ++ [self.timed timer]).length = (self.socket.pongs ++ [PongPc.scheduled]).length
    rw [List.length_append, List.length_append, hsound.aligned, List.length_singleton, List.length_singleton]
  case justified => exact hsound.justified
  case awaited =>
    intro callback ping hawaits
    cases callback with
    | sending loop => exact hsound.awaited (.sending loop) ping hawaits
    | timer other => exact hsound.awaited (.timer other) ping ⟨List.mem_of_mem_erase hawaits.1, hawaits.2⟩
    | task pong =>
      obtain ⟨htask, pc, hpong, hcloses⟩ := hawaits
      obtain htask | ⟨hlast, rfl⟩ := getElem?_concat_cases htask
      · obtain hpong | ⟨hlast, -⟩ := getElem?_concat_cases hpong
        · exact hsound.awaited (.task pong) ping ⟨htask, pc, hpong, hcloses⟩
        · have hbound := (List.getElem?_eq_some_iff.mp htask).1
          have haligned := hsound.aligned
          omega
      · exact hsound.awaited (.timer timer) _ ⟨harmed, rfl⟩

/-- A close on the way: the task has shown its ping to be awaited. -/
theorem Sound.close (hsound : self.Sound) {step : Step} {pong : Nat} {closed : MercurySocket} {pc : ClosePc}
    (hsegment : self.socket.pong_segment step = some (pong, closed, .suspended pc)) :
    let ping := self.tasks[pong]?.getD {}
    Sound { self with
      system := { self.system with socket := MercurySocket.pong_continue pong (closed, .suspended pc) }
      closings := self.closings ++ [{ ping, ws := pc.ws, answered := self.received.contains ping.id }] } := by
  intro ping
  obtain ⟨⟨task, htask, hcloses⟩, hws⟩ := MercurySocket.pong_segment_suspended hsegment rfl
  obtain ⟨hsettles, hquiet⟩ := MercurySocket.pong_segment_settles hsegment
  have hkept := hsound.settles self.system.calls hsettles (.inl hquiet.ws)
  have hping : self.tasks[pong]? = some ping := by
    have hbound : pong < self.tasks.length := by
      rw [hsound.aligned]
      exact (List.getElem?_eq_some_iff.mp htask).1
    simp [ping, List.getElem?_eq_getElem hbound]
  constructor
  case known => exact hkept.known
  case distinct => exact hkept.distinct
  case armed => exact hkept.armed
  case aligned =>
    show self.tasks.length = (closed.pongs.set pong (.closing pc)).length
    rw [List.length_set]
    exact hkept.aligned
  case justified =>
    intro closing hclosing
    obtain hold | hnew := List.mem_append.mp hclosing
    · exact hsound.justified closing hold
    · obtain rfl := List.mem_singleton.mp hnew
      obtain hnone | ⟨hcurrent, hmissing⟩ := hsound.awaited (.task pong) ping ⟨hping, task, htask, hcloses⟩
      · cases hnone.symm.trans hws
      · exact ⟨Option.some.inj (hcurrent.symm.trans hws), by simpa using hmissing⟩
  case awaited =>
    intro callback other hawaits
    cases callback with
    | sending loop => exact hkept.awaited (.sending loop) other hawaits
    | timer timer => exact hkept.awaited (.timer timer) other hawaits
    | task index =>
      obtain ⟨hother, pc', hindex, hcloses'⟩ := hawaits
      obtain ⟨rfl, -⟩ | ⟨-, hold⟩ := getElem?_set_cases hindex
      · exact hkept.awaited (.task index) other ⟨hother, task, hsettles.pongs ▸ htask, hcloses⟩
      · exact hkept.awaited (.task index) other ⟨hother, pc', hold, hcloses'⟩

/-- A task that ends takes its ping with it. -/
theorem Sound.ended (hsound : self.Sound) {step : Step} {pong : Nat} {closed : MercurySocket} {status : CloseStatus}
    (hsegment : self.socket.pong_segment step = some (pong, closed, status)) (hended : ∀ pc, status ≠ .suspended pc) :
    Sound { self with
      system := { self.system with socket := MercurySocket.pong_continue pong (closed, status) }
      tasks := self.tasks.eraseIdx pong } := by
  obtain ⟨hsettles, hquiet⟩ := MercurySocket.pong_segment_settles hsegment
  have hkept := hsound.settles self.system.calls hsettles (.inl hquiet.ws)
  have herased : Sound { self with
      system := { self.system with socket := { closed with pongs := closed.pongs.eraseIdx pong } }
      tasks := self.tasks.eraseIdx pong } := by
    refine ⟨hkept.known, hkept.distinct, hkept.armed, ?_, ?_, hkept.justified⟩
    · show (self.tasks.eraseIdx pong).length = (closed.pongs.eraseIdx pong).length
      rw [List.length_eraseIdx, List.length_eraseIdx, show self.tasks.length = closed.pongs.length from hkept.aligned]
    · intro callback ping hawaits
      cases callback with
      | sending loop => exact hkept.awaited (.sending loop) ping hawaits
      | timer timer => exact hkept.awaited (.timer timer) ping hawaits
      | task index =>
        obtain ⟨hping, pc, hindex, hcloses⟩ := hawaits
        -- both lists lose the same place, so the pair was at one place before
        simp only [socket, List.getElem?_eraseIdx] at hping hindex
        split at hping
        · rename_i hbefore
          rw [if_pos hbefore] at hindex
          exact hkept.awaited (.task index) ping ⟨hping, pc, hindex, hcloses⟩
        · rename_i hafter
          rw [if_neg hafter] at hindex
          exact hkept.awaited (.task (index + 1)) ping ⟨hping, pc, hindex, hcloses⟩
  obtain ⟨hlast, hreconnect⟩ := MercurySocket.pong_continue_ended hended
  exact herased.settles self.system.calls hlast (.inl hreconnect.ws)

theorem Sound.calm (hsound : self.Sound) {step : Step} {socket : MercurySocket}
    (hguarded : self.Guarded (.task step)) (hcalm : MercurySocket.calm step = true)
    (hstep : self.socket.step step = some socket) : Sound { self with system := { self.system with socket } } := by
  refine hsound.settles self.system.calls (MercurySocket.step_settles hcalm hstep) ?_
  obtain hquiet | ⟨has_session, rfl, rfl⟩ | ⟨-, rfl, rfl⟩ := MercurySocket.step_quiet hstep
  · exact .inl hquiet.ws
  · exact .inr (hguarded.attached rfl)
  · exact .inl fun _ => id

/-- A step of a pong-timeout task begins a close or ends the task. -/
theorem Sound.segment (hsound : self.Sound) {step : Step} {socket : MercurySocket} {pong : Nat}
    (hkind : step = .run_pong_timeout pong ∨ ∃ ok, step = .pong_resumed pong ok)
    (hstep : self.socket.step step = some socket) :
    Sound { self.observe (.task step) with system := { self.system with socket } } := by
  have hobserve : self.observe (.task step) = match self.socket.pong_segment step with
      | some (pong, _, .suspended pc) =>
        let ping := self.tasks[pong]?.getD {}
        { self with
          closings := self.closings ++ [{ ping, ws := pc.ws, answered := self.received.contains ping.id }] }
      | some (pong, _, _) => { self with tasks := self.tasks.eraseIdx pong }
      | none => self := by
    obtain rfl | ⟨ok, rfl⟩ := hkind <;> rfl
  rw [hobserve]
  cases hsegment : self.socket.pong_segment step with
  | none =>
    obtain rfl | ⟨ok, rfl⟩ := hkind
    · simp only [MercurySocket.step, Option.ite_none_right_eq_some] at hstep
      simp [MercurySocket.pong_segment, hstep.1] at hsegment
    · simp only [MercurySocket.step] at hstep
      split at hstep
      · rename_i hclosing
        simp [MercurySocket.pong_segment, hclosing] at hsegment
      · cases hstep
  | some segment =>
    obtain ⟨pong, closed, status⟩ := segment
    obtain rfl := Option.some.inj (hstep.symm.trans (MercurySocket.step_of_pong_segment hsegment))
    cases status with
    | suspended pc => exact hsound.close hsegment
    | finished => exact hsound.ended hsegment (by simp)
    | raised => exact hsound.ended hsegment (by simp)

theorem Sound.task (hsound : self.Sound) {step : Step} {socket : MercurySocket}
    (hguarded : self.Guarded (.task step)) (hstep : self.socket.step step = some socket) :
    Sound { self.observe (.task step) with system := { self.system with socket } } := by
  cases step with
  | read read item close_code =>
    have hcalm := hsound.calm hguarded rfl hstep
    cases item with
    | message type event_type =>
      cases type with
      | pong id =>
        simp only [MercurySocket.step, Option.ite_none_right_eq_some, Option.some.injEq] at hstep
        obtain ⟨-, rfl⟩ := hstep
        simp only [observe]
        split
        · rename_i hreceived
          exact hsound.receive hguarded hreceived.1 hreceived.2
        · exact hcalm
      | shutdown | other => exact hcalm
    | other | closed | error | raised | ended => exact hcalm
  | ping_wake ping =>
    simp only [MercurySocket.step, Option.ite_none_right_eq_some, Option.some.injEq] at hstep
    obtain ⟨-, rfl⟩ := hstep
    exact hsound.ping_wake ping
  | ping_sent ping ok =>
    cases ok with
    | true =>
      simp only [MercurySocket.step, Option.ite_none_right_eq_some, Option.some.injEq] at hstep
      obtain ⟨hsending, rfl⟩ := hstep
      exact hsound.ping_sent hsending
    | false => exact hsound.calm hguarded rfl hstep
  | pong_timer timer =>
    simp only [MercurySocket.step, Option.ite_none_right_eq_some, Option.some.injEq] at hstep
    obtain ⟨harmed, rfl⟩ := hstep
    exact hsound.pong_timer harmed
  | run_pong_timeout pong => exact hsound.segment (.inl rfl) hstep
  | pong_resumed pong ok => exact hsound.segment (.inr ⟨ok, rfl⟩) hstep
  | read_session_closed | socket_closed | run_reconnect | wake | opened | authorized | resumed | ready_timeout
  | read_cancelled | cleanup_resumed | stability_timer => exact hsound.calm hguarded rfl hstep

theorem Sound.step (hsound : self.Sound) {label : Label} {next : Watched} (hguarded : self.Guarded label)
    (hstep : self.step label = some next) : next.Sound := by
  simp only [Watched.step, Option.map_eq_some_iff] at hstep
  obtain ⟨system, hstep, rfl⟩ := hstep
  cases label with
  | task step =>
    simp only [System.step, Option.map_eq_some_iff] at hstep
    obtain ⟨socket, hstep, rfl⟩ := hstep
    exact hsound.task hguarded hstep
  | connect =>
    obtain rfl := Option.some.inj hstep
    exact hsound.settles _ (.of_eq rfl rfl) (.inl fun _ => id)
  | disconnect =>
    obtain rfl := Option.some.inj hstep
    exact hsound.settles _ (MercurySocket.disconnect_settles _) (.inl (MercurySocket.disconnect_quiet _).1.ws)
  | call call ok has_session =>
    simp only [System.step, Option.map_eq_some_iff, Option.bind_eq_some_iff] at hstep
    obtain ⟨resumed, ⟨pc, hpc, hresume⟩, rfl⟩ := hstep
    refine hsound.settles _ (MercurySocket.resume_settles hresume) ?_
    obtain ⟨hquiet, -⟩ | ⟨rfl, rfl, rfl⟩ | ⟨rfl, rfl⟩ := MercurySocket.resume_quiet hresume
    · exact .inl hquiet.ws
    · exact .inr (hguarded.attached (by simp [System.opens, hpc]))
    · exact .inl fun _ => id

end Watched

theorem init_sound (max_reconnect_attempts : Nat) : (watched max_reconnect_attempts).init.Sound where
  known := nofun
  distinct := List.nodup_nil
  armed := nofun
  aligned := rfl
  awaited callback ping hawaits := by
    cases callback with
    | sending loop => cases hawaits.1
    | timer timer => cases hawaits.1
    | task pong => cases hawaits.1
  justified := nofun

/-- In every run whose steps all meet the condition, every close that a pong timeout
    has begun was that of the socket its ping was sent on, with the pong missing. -/
theorem closings_justified {max_reconnect_attempts : Nat} {s : Watched}
    (hreach : (watched max_reconnect_attempts).Reachable Watched.Guarded s) :
    ∀ closing ∈ s.closings, closing.Justified := by
  have hsound : s.Sound := by
    refine hreach.invariant (init_sound max_reconnect_attempts) ?_
    intro s label next _ hsound hguarded hstep
    exact hsound.step hguarded hstep
  exact hsound.justified

/-- A connection becomes ready and its ping loop sends a ping, whose timer is armed. -/
def pinged : List Label :=
  [.connect, .call 0 true false, .call 0 true false, .task (.read 0 (.message .other .ready) none),
    .call 0 true false, .task (.ping_wake 0), .task (.ping_sent 0 true)]

/-- A step that attaches no socket and reads no pong, as a test. -/
def Watched.plain (self : Watched) (label : Label) : Bool :=
  !self.system.opens label && match label with
    | .task (.read _ (.message (.pong _) _) _) => false
    | _ => true

theorem Watched.guarded_of_plain {self : Watched} {label : Label} (hplain : self.plain label = true) :
    self.Guarded label := by
  simp only [plain, Bool.and_eq_true, Bool.not_eq_true'] at hplain
  obtain ⟨hopens, hlabel⟩ := hplain
  constructor
  case attached =>
    intro hattached
    cases hopens.symm.trans hattached
  case answered =>
    rintro read id event_type close_code rfl
    cases hlabel

/-- The timer expires before anything else happens. -/
def expired : List Label := pinged ++ [.task (.pong_timer 1), .task (.run_pong_timeout 0)]

/-- The first socket finds nothing awaited, and no pong is read. -/
theorem expired_guarded : (watched 10).Meets Watched.Guarded (watched 10).init expired := by
  refine .cons (Watched.guarded_of_plain rfl) rfl (.cons ?_ rfl ?_)
  · constructor
    case attached =>
      rintro - callback ping hawaits
      cases callback with
      | sending loop => cases hawaits.1
      | timer timer => cases hawaits.1
      | task pong => cases hawaits.1
    case answered => nofun
  · exact .mono (fun _ _ => Watched.guarded_of_plain) (.of_meets (by decide))

/-- The ping of a connection is not answered, and its timer closes that connection. -/
theorem unanswered_ping_closes :
    ∃ s, (watched 10).run (watched 10).init expired = some s ∧
      s.closings = [{ ping := { id := 0, ws := 0 }, ws := 0, answered := false }] ∧
      ∀ closing ∈ s.closings, closing.Justified := by
  refine ⟨_, rfl, rfl, ?_⟩
  have hreach : (watched 10).Reachable Watched.Guarded _ := Machine.Reachable.run .init expired expired_guarded rfl
  exact closings_justified hreach

/-- The server shuts the connection down before it answers the ping. The `_reconnect`
    loop opens the next socket, and the old ping's timer closes that one. -/
theorem shutdown_closes_next_socket :
    ∃ s, (watched 10).run (watched 10).init (pinged ++
      [.task (.read 0 (.message .shutdown .absent) none), .task .run_reconnect, .task .wake,
        .task (.opened true false), .task (.pong_timer 1), .task (.run_pong_timeout 0)]) = some s ∧
      ∃ closing ∈ s.closings, ¬ closing.Justified := by
  refine ⟨_, rfl, { ping := { id := 0, ws := 0 }, ws := 1, answered := false }, List.mem_singleton.mpr rfl, ?_⟩
  rintro ⟨hsame, -⟩
  cases hsame

end webex.python.mercury_socket
