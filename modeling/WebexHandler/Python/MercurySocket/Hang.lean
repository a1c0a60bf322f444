import WebexHandler.Python.MercurySocket.Steps

open transition

namespace webex.python.mercury_socket

namespace MercurySocket

/-- The current socket is being read. -/
def Alive (self : MercurySocket) : Prop :=
  ∃ ws read, self.ws = some ws ∧ (self.reads read).pc = .reading ∧ (self.reads read).owned_ws = some ws

/-- The running `_reconnect` loop has been told that its connection is ready but
    has not resumed: it will return without looking at the connection again. -/
def Signalled (self : MercurySocket) : Prop :=
  ∃ read, self.loop = some (.awaiting_ready read) ∧ (self.reads read).ready = true ∧
    (self.reads read).connect_error = false

/-- The state after a successful `connect()`: as `ready_event` is set, before the
    read loop runs again. -/
structure Established (socket : MercurySocket) : Prop where
  should_reconnect : socket.should_reconnect = true
  reconnecting : socket.reconnecting = false
  loop : socket.loop = none
  alive : socket.Alive

/-- Reconnection is wanted, the connection is lost, and nothing that would restore
    it is running or scheduled. -/
structure Silent (socket : MercurySocket) : Prop where
  should_reconnect : socket.should_reconnect = true
  reconnecting : socket.reconnecting = false
  scheduled : socket.scheduled = 0
  pongs : socket.pongs = []
  armed : socket.heartbeat.armed = []
  lost : ¬ socket.Alive

/-- No task of the socket is left. -/
structure Quiescent (socket : MercurySocket) : Prop where
  loop : socket.loop = none
  scheduled : socket.scheduled = 0
  pongs : socket.pongs = []
  armed : socket.heartbeat.armed = []
  reads : ∀ read, (socket.reads read).pc = .done
  pings : ∀ ping, socket.heartbeat.pings ping = .done

/-- A pong-timeout task reaches the end of `_close_websocket` with a socket to
    forget. -/
def clears_ws (self : MercurySocket) : Step → Bool
  | .run_pong_timeout _ => match self.ws with
    | some ws => !self.session_open ws && self.ws_closed ws
    | none => false
  | .pong_resumed pong ok => ok && match self.pongs[pong]?, self.ws with
    | some (.closing (.socket _)), some _ => true
    | some (.closing (.session _)), some ws => self.ws_closed ws
    | _, _ => false
  | _ => false

/-- A loop that is about to return is not relied on: neither by the last scheduled
    `_reconnect`, unless the connection is alive, nor by a pong timeout that
    forgets the socket. -/
def Unswallowed (self : MercurySocket) (step : Step) : Prop :=
  self.Signalled →
    (step = .run_reconnect → self.Alive ∨ 1 < self.scheduled) ∧
    (self.clears_ws step = true → 0 < self.scheduled)

/-- A wish to reconnect is always backed by a loop that has yet to look at its
    connection, by a scheduled `_reconnect`, or by a live connection; and it is
    given up only with a `disconnected` event. -/
structure Backed (socket : MercurySocket) : Prop where
  guard : socket.reconnecting = socket.loop.isSome
  backed : socket.should_reconnect = true →
    (socket.loop.isSome = true ∧ ¬ socket.Signalled) ∨ 0 < socket.scheduled ∨ socket.Alive
  reported : socket.should_reconnect = false → ∃ reason, .disconnected reason ∈ socket.events


section preservation

variable {self : MercurySocket}

theorem Alive.set_read (halive : self.Alive) {read : Nat} {task : ReadTask}
    (hkeep : (self.reads read).owned_ws = self.ws → (self.reads read).pc = .reading →
      task.owned_ws = (self.reads read).owned_ws ∧ task.pc = .reading) :
    (self.set_read read task).Alive := by
  obtain ⟨ws, reader, hws, hreading, howned⟩ := halive
  refine ⟨ws, reader, hws, ?_⟩
  by_cases heq : reader = read
  · subst heq
    obtain ⟨htask_owned, htask_pc⟩ := hkeep (howned.trans hws.symm) hreading
    simp [MercurySocket.set_read, htask_owned, htask_pc, howned]
  · simp [MercurySocket.set_read, heq, hreading, howned]

theorem Signalled.of_set_read {read : Nat} {task : ReadTask} (hsignalled : (self.set_read read task).Signalled)
    (hkeep : task.ready = true → task.connect_error = false →
      (self.reads read).ready = true ∧ (self.reads read).connect_error = false) :
    self.Signalled := by
  obtain ⟨reader, hloop, hready, herror⟩ := hsignalled
  refine ⟨reader, hloop, ?_⟩
  by_cases heq : reader = read
  · subst heq
    simp only [MercurySocket.set_read, if_true] at hready herror
    exact hkeep hready herror
  · simpa [MercurySocket.set_read, heq] using And.intro hready herror

/-- A read loop's task may change freely as long as a reader of the current socket
    stays one and no success is signalled. -/
theorem Backed.set_read (hbacked : self.Backed) {read : Nat} {task : ReadTask}
    (halive : (self.reads read).owned_ws = self.ws → (self.reads read).pc = .reading →
      task.owned_ws = (self.reads read).owned_ws ∧ task.pc = .reading)
    (hsignal : task.ready = true → task.connect_error = false →
      (self.reads read).ready = true ∧ (self.reads read).connect_error = false) :
    (self.set_read read task).Backed where
  guard := hbacked.guard
  backed := by
    intro hshould
    obtain ⟨hloop, hquiet⟩ | hscheduled | hlive := hbacked.backed hshould
    · exact .inl ⟨hloop, fun h => hquiet (h.of_set_read hsignal)⟩
    · exact .inr (.inl hscheduled)
    · exact .inr (.inr (hlive.set_read halive))
  reported := hbacked.reported

theorem Backed.emit (hbacked : self.Backed) (event : Event) : (self.emit event).Backed where
  guard := hbacked.guard
  backed := hbacked.backed
  reported := by
    intro hshould
    obtain ⟨reason, hmem⟩ := hbacked.reported hshould
    exact ⟨reason, List.mem_append_left _ hmem⟩

/-- The ping bookkeeping takes no part in the invariant. -/
theorem Backed.heartbeat (hbacked : self.Backed) (heartbeat : Heartbeat) :
    { self with heartbeat := heartbeat }.Backed :=
  ⟨hbacked.guard, hbacked.backed, hbacked.reported⟩

/-- Nor do the ACKs. -/
theorem Backed.acks (hbacked : self.Backed) (acks : Nat) : { self with acks := acks }.Backed :=
  ⟨hbacked.guard, hbacked.backed, hbacked.reported⟩

theorem Backed.ensure_reconnect (hbacked : self.Backed) : self.ensure_reconnect.Backed where
  guard := hbacked.guard
  backed := fun _ => .inr (.inl (Nat.succ_pos _))
  reported := hbacked.reported

/-- `_handle_close` schedules a `_reconnect` or reports the end, whatever backed the
    wish to reconnect before. -/
theorem handle_close_backed (hguard : self.reconnecting = self.loop.isSome) (code : Nat) :
    (self.handle_close code).Backed := by
  simp only [handle_close]
  split
  · exact ⟨hguard, by simp [MercurySocket.emit], fun _ => ⟨"auth-failed", by simp [MercurySocket.emit]⟩⟩
  split
  · exact ⟨hguard, by simp [MercurySocket.emit], fun _ => ⟨"permanent-failure", by simp [MercurySocket.emit]⟩⟩
  split
  · rename_i hshould
    refine ⟨hguard, fun _ => .inr (.inl (Nat.succ_pos _)), fun hstopped => ?_⟩
    exact absurd hstopped (by simpa [MercurySocket.ensure_reconnect] using hshould)
  · rename_i hstopped
    exact ⟨hguard, fun hshould => absurd hshould hstopped, fun _ => ⟨"manual", by simp [MercurySocket.emit]⟩⟩

/-- A read loop that ends either was rotated out, and the current socket has
    another reader, or goes through `_handle_close`. -/
theorem Backed.read_tail (hbacked : self.Backed) (read : Nat) (close_code : Option Nat) :
    (self.read_tail read close_code).Backed := by
  simp only [MercurySocket.read_tail]
  split
  · rename_i hrotated
    split
    · exact hbacked.set_read (fun howned => absurd howned hrotated) (fun hready herror => ⟨hready, herror⟩)
    · exact hbacked.set_read (fun howned => absurd howned hrotated) (fun hready herror => ⟨hready, herror⟩)
  · have hguard : (self.set_read read { self.reads read with pc := .done }).reconnecting =
        (self.set_read read { self.reads read with pc := .done }).loop.isSome := hbacked.guard
    exact handle_close_backed hguard _

theorem Backed.read_failed (hbacked : self.Backed) (read : Nat) : (self.read_failed read).Backed := by
  simp only [MercurySocket.read_failed]
  split
  · exact hbacked.emit _
  · exact hbacked.set_read (fun _ hreading => ⟨rfl, hreading⟩) (by simp)

theorem Backed.handle_message (hbacked : self.Backed) (type : MessageType) (event_type : EventType) :
    (self.handle_message type event_type).Backed := by
  obtain ⟨acks, ⟨pong_id, heq⟩ | heq | heq | heq⟩ := self.handle_message_cases type event_type
  · exact heq ▸ (hbacked.acks acks).heartbeat _
  · exact heq ▸ (hbacked.acks acks).emit _
  · exact heq ▸ (hbacked.acks acks).ensure_reconnect
  · exact heq ▸ hbacked.acks acks

/-- Readiness is signalled by a reader of the current socket, so the connection is
    alive at that moment. -/
theorem Backed.read_ready (hbacked : self.Backed) {read : Nat} {ws : Nat} (hws : self.ws = some ws)
    (hreading : (self.reads read).pc = .reading) (howned : (self.reads read).owned_ws = some ws)
    (event_type : EventType) (close_code : Option Nat) :
    (self.read_ready read event_type close_code).Backed := by
  unfold MercurySocket.read_ready
  split
  · exact hbacked
  split
  · refine ⟨hbacked.guard, fun _ => .inr (.inr ⟨ws, read, hws, ?_⟩), hbacked.reported⟩
    simp [MercurySocket.set_read, hreading, howned]
  · exact hbacked
  · exact (hbacked.read_failed read).read_tail read close_code

theorem handle_message_ws (type : MessageType) (event_type : EventType) :
    (self.handle_message type event_type).ws = self.ws := by
  obtain ⟨acks, ⟨pong_id, heq⟩ | heq | heq | heq⟩ := self.handle_message_cases type event_type <;>
    exact heq ▸ rfl

theorem handle_message_reads (type : MessageType) (event_type : EventType) :
    (self.handle_message type event_type).reads = self.reads := by
  obtain ⟨acks, ⟨pong_id, heq⟩ | heq | heq | heq⟩ := self.handle_message_cases type event_type <;>
    exact heq ▸ rfl

theorem Backed.read_item (hbacked : self.Backed) {read : Nat} (hreading : (self.reads read).pc = .reading)
    (item : Item) (close_code : Option Nat) : (self.read_item read item close_code).Backed := by
  unfold MercurySocket.read_item
  split
  · rename_i hnone
    -- a read loop that never had a socket is not the reader of any
    refine ⟨hbacked.guard, fun hshould => ?_, hbacked.reported⟩
    obtain ⟨hloop, hquiet⟩ | hscheduled | ⟨ws, reader, hws, hreader, howned⟩ := hbacked.backed hshould
    · exact .inl ⟨hloop, fun h => hquiet (h.of_set_read fun hready herror => ⟨hready, herror⟩)⟩
    · exact .inr (.inl hscheduled)
    · have hne : reader ≠ read := by
        rintro rfl
        simp [hnone] at howned
      exact .inr (.inr ⟨ws, reader, hws, by simp [MercurySocket.set_read, hne, hreader, howned]⟩)
  · rename_i ws howned
    cases item with
    | raised => exact (hbacked.read_failed read).read_tail read close_code
    | ended => exact hbacked.read_tail read close_code
    | closed => exact hbacked.read_tail read close_code
    | error =>
      simp only
      split
      · exact hbacked.read_tail read close_code
      · exact (hbacked.read_failed read).read_tail read close_code
    | message type event_type =>
      simp only
      split
      · exact hbacked.read_tail read close_code
      · rename_i hcurrent
        have hws : self.ws = some ws := (not_not.mp hcurrent).symm
        exact (hbacked.handle_message type event_type).read_ready
          (by rw [handle_message_ws, hws]) (by rw [handle_message_reads, hreading])
          (by rw [handle_message_reads, howned]) event_type close_code
    | other =>
      simp only
      split
      · exact hbacked.read_tail read close_code
      · exact hbacked

/-- A loop at an await before its `ready_event` backs the wish to reconnect. -/
theorem Backed.of_loop (hbacked : self.Backed) {other : MercurySocket} {pc : LoopPc}
    (hloop : other.loop = some pc) (hreconnecting : other.reconnecting = true)
    (hshould : other.should_reconnect = self.should_reconnect) (hevents : other.events = self.events)
    (hready : ∀ read, pc = .awaiting_ready read → (other.reads read).ready = false) : other.Backed := by
  refine ⟨by rw [hreconnecting, hloop, Option.isSome_some], fun _ => .inl ⟨?_, ?_⟩, ?_⟩
  · rw [hloop, Option.isSome_some]
  · rintro ⟨read, hread, htrue, -⟩
    rw [hloop, Option.some.injEq] at hread
    simp [hready read hread] at htrue
  · rw [hshould, hevents]
    exact hbacked.reported

/-- The head of the loop goes to sleep, gives up with a report, or returns because
    the wish to reconnect was given up before. -/
theorem reconnect_head_backed (hreconnecting : self.reconnecting = true)
    (hreported : self.should_reconnect = false → ∃ reason, .disconnected reason ∈ self.events) :
    self.reconnect_head.Backed := by
  unfold reconnect_head
  split
  · rename_i hstopped
    have hstopped : self.should_reconnect = false := by simpa using hstopped
    refine ⟨rfl, fun hshould => ?_, hreported⟩
    simp [reconnect_return, hstopped] at hshould
  split
  · refine ⟨rfl, by simp [reconnect_return, MercurySocket.emit], fun _ => ⟨"max-attempts-exceeded", ?_⟩⟩
    simp [reconnect_return, MercurySocket.emit]
  · rename_i hshould _
    refine ⟨hreconnecting, fun _ => .inl ⟨rfl, ?_⟩, fun hstopped => ?_⟩
    · rintro ⟨read, hloop, -⟩
      simp at hloop
    · simp only [MercurySocket.emit] at hstopped
      simp [hstopped] at hshould

/-- A call of `_reconnect` backs the wish by itself unless the guard swallows it. -/
theorem reconnect_backed
    (hreported : self.should_reconnect = false → ∃ reason, .disconnected reason ∈ self.events)
    (hswallowed : self.reconnecting = true → self.Backed) : self.reconnect.Backed := by
  unfold reconnect
  split
  · rename_i hreconnecting
    exact hswallowed hreconnecting
  · exact reconnect_head_backed rfl hreported

/-- What a segment of `_close_websocket` may do to the socket: nothing the invariant
    sees, except that one which finishes may forget `_ws`. -/
def Closes (self : MercurySocket) (cleared : Bool) (out : MercurySocket × CloseStatus) : Prop :=
  ∃ session_open ws_closed ws,
    out.1 = { self with session_open := session_open, ws_closed := ws_closed, ws := ws } ∧
    (ws = self.ws ∨ (ws = none ∧ out.2 = .finished ∧ cleared = true))

theorem close_socket_closes {cleared : Bool}
    (hcleared : ∀ ws, self.ws = some ws → self.ws_closed ws = true → cleared = true) :
    self.Closes cleared self.close_socket := by
  unfold close_socket
  split
  · exact ⟨_, _, _, rfl, .inl rfl⟩
  · rename_i ws hws
    split
    · rename_i hclosed
      exact ⟨_, _, _, rfl, .inr ⟨rfl, rfl, hcleared ws hws hclosed⟩⟩
    · exact ⟨_, _, _, rfl, .inl rfl⟩

theorem close_websocket_closes {cleared : Bool}
    (hcleared : ∀ ws, self.ws = some ws → self.session_open ws = false → self.ws_closed ws = true →
      cleared = true) :
    self.Closes cleared self.close_websocket := by
  unfold close_websocket
  split
  · exact ⟨_, _, _, rfl, .inl rfl⟩
  · rename_i ws hws
    split
    · exact ⟨_, _, _, rfl, .inl rfl⟩
    · rename_i hsession
      refine close_socket_closes fun other hother hclosed => ?_
      obtain rfl : ws = other := by simpa [hws] using hother
      exact hcleared ws hws (by simpa using hsession) hclosed

theorem close_websocket_resume_closes {cleared ok : Bool} {pc : ClosePc}
    (hsession : ∀ closing ws, ok = true → pc = .session closing → self.ws = some ws →
      self.ws_closed ws = true → cleared = true)
    (hsocket : ∀ closing ws, ok = true → pc = .socket closing → self.ws = some ws → cleared = true) :
    self.Closes cleared (self.close_websocket_resume pc ok) := by
  cases ok with
  | false => exact ⟨_, _, _, rfl, .inl rfl⟩
  | true =>
    cases pc with
    | session closing =>
      have hcloses : MercurySocket.Closes { self with
          session_open := fun other => if other = closing then false else self.session_open other } cleared _ :=
        close_socket_closes fun ws hws hclosed => hsession closing ws rfl rfl hws hclosed
      obtain ⟨session_open, ws_closed, ws, hout, hws⟩ := hcloses
      exact ⟨session_open, ws_closed, ws, hout, hws⟩
    | socket closing =>
      refine ⟨_, _, none, rfl, ?_⟩
      cases hws : self.ws with
      | none => exact .inl rfl
      | some ws => exact .inr ⟨rfl, rfl, hsocket closing ws rfl rfl hws⟩

/-- The loop stays with its failed attempt while it cleans up. -/
theorem cleanup_continue_backed {cleared : Bool} {out : MercurySocket × CloseStatus}
    (hbacked : self.Backed) (hreconnecting : self.reconnecting = true) (hcloses : self.Closes cleared out) :
    (cleanup_continue out).Backed := by
  obtain ⟨next, status⟩ := out
  obtain ⟨session_open, ws_closed, ws, rfl, -⟩ := hcloses
  cases status with
  | suspended pc => exact hbacked.of_loop rfl hreconnecting rfl rfl (by simp)
  | finished => exact reconnect_head_backed hreconnecting hbacked.reported
  | raised => exact reconnect_head_backed hreconnecting hbacked.reported

theorem Backed.cleanup_ws (hbacked : self.Backed) (hreconnecting : self.reconnecting = true) :
    self.cleanup_ws.Backed := by
  have hstop : self.stop_ping_loop.Backed := hbacked.heartbeat _
  have hclose : (cleanup_continue self.stop_ping_loop.close_websocket).Backed :=
    cleanup_continue_backed hstop hreconnecting (close_websocket_closes (fun _ _ _ _ => rfl))
  simp only [MercurySocket.cleanup_ws]
  split
  · split
    · exact hclose
    · exact hbacked.of_loop rfl hreconnecting rfl rfl (by simp)
  · exact hclose

/-- A pong timeout that forgets the socket calls `_reconnect`, which is swallowed
    only by a loop that is running. -/
theorem Backed.pong_continue (hbacked : self.Backed) {cleared : Bool} (pong : Nat)
    {out : MercurySocket × CloseStatus} (hcloses : self.Closes cleared out)
    (hcleared : self.Signalled → cleared = true → 0 < self.scheduled) :
    (pong_continue pong out).Backed := by
  obtain ⟨next, status⟩ := out
  obtain ⟨session_open, ws_closed, ws, rfl, hws⟩ := hcloses
  obtain rfl | ⟨rfl, hfinished, hclears⟩ := hws
  · cases status with
    | suspended pc => exact ⟨hbacked.guard, hbacked.backed, hbacked.reported⟩
    | finished =>
      exact reconnect_backed hbacked.reported fun _ => ⟨hbacked.guard, hbacked.backed, hbacked.reported⟩
    | raised => exact ⟨hbacked.guard, hbacked.backed, hbacked.reported⟩
  · simp only at hfinished
    subst hfinished
    refine reconnect_backed hbacked.reported fun hreconnecting => ⟨hbacked.guard, fun _ => ?_, hbacked.reported⟩
    have hloop : self.loop.isSome = true := by rw [← hbacked.guard, ← hreconnecting]
    by_cases hsignalled : self.Signalled
    · exact .inr (.inl (hcleared hsignalled hclears))
    · exact .inl ⟨hloop, hsignalled⟩

end preservation

/-- Every step keeps the invariant, provided no request to reconnect is swallowed by
    a loop that is about to return. -/
theorem Backed.step {self next : MercurySocket} (hbacked : self.Backed) {step : Step}
    (hunswallowed : self.Unswallowed step) (hstep : self.step step = some next) : next.Backed := by
  have hrunning : ∀ {pc : LoopPc}, self.loop = some pc → self.reconnecting = true := by
    intro pc hloop
    rw [hbacked.guard, hloop, Option.isSome_some]
  cases step with
  | read read item close_code =>
    simp only [MercurySocket.step, Option.ite_none_right_eq_some, Option.some.injEq] at hstep
    obtain ⟨hreading, rfl⟩ := hstep
    exact hbacked.read_item hreading item close_code
  | read_session_closed read =>
    simp only [MercurySocket.step, Option.ite_none_right_eq_some, Option.some.injEq] at hstep
    obtain ⟨hclosing, rfl⟩ := hstep
    exact hbacked.set_read (by simp [hclosing]) (fun hready herror => ⟨hready, herror⟩)
  | socket_closed ws =>
    simp only [MercurySocket.step, Option.some.injEq] at hstep
    subst hstep
    exact ⟨hbacked.guard, hbacked.backed, hbacked.reported⟩
  | run_reconnect =>
    simp only [MercurySocket.step, Option.ite_none_right_eq_some, Option.some.injEq] at hstep
    obtain ⟨hscheduled, rfl⟩ := hstep
    refine reconnect_backed hbacked.reported fun hreconnecting => ⟨hbacked.guard, fun _ => ?_, hbacked.reported⟩
    have hloop : self.loop.isSome = true := by rw [← hbacked.guard, ← hreconnecting]
    by_cases hsignalled : self.Signalled
    · obtain halive | hmore := (hunswallowed hsignalled).1 rfl
      · exact .inr (.inr halive)
      · exact .inr (.inl (Nat.sub_pos_of_lt hmore))
    · exact .inl ⟨hloop, hsignalled⟩
  | wake =>
    simp only [MercurySocket.step, Option.ite_none_right_eq_some] at hstep
    obtain ⟨hloop, hstep⟩ := hstep
    split at hstep
    · simp only [Option.some.injEq] at hstep
      subst hstep
      exact hbacked.of_loop rfl (hrunning hloop) rfl rfl (by simp)
    · rename_i hstopped
      simp only [Option.some.injEq] at hstep
      subst hstep
      exact ⟨rfl, fun hshould => absurd hshould hstopped, hbacked.reported⟩
  | opened ok has_session =>
    simp only [MercurySocket.step, Option.ite_none_right_eq_some, Option.some.injEq] at hstep
    obtain ⟨hloop, rfl⟩ := hstep
    cases ok with
    | true => exact hbacked.of_loop rfl (hrunning hloop) rfl rfl (by simp)
    | false => exact reconnect_head_backed (hrunning hloop) hbacked.reported
  | authorized ok =>
    simp only [MercurySocket.step, Option.ite_none_right_eq_some, Option.some.injEq] at hstep
    obtain ⟨hloop, rfl⟩ := hstep
    cases ok with
    | true =>
      refine hbacked.of_loop rfl (hrunning hloop) rfl rfl ?_
      intro read hread
      obtain rfl : self.next_read = read := by simpa using hread
      simp [MercurySocket.authorized, MercurySocket.set_read]
    | false => exact reconnect_head_backed (hrunning hloop) hbacked.reported
  | resumed =>
    simp only [MercurySocket.step] at hstep
    split at hstep
    · rename_i read hloop
      simp only [Option.ite_none_right_eq_some, Option.some.injEq] at hstep
      obtain ⟨hready, rfl⟩ := hstep
      unfold MercurySocket.resumed
      split
      · exact hbacked.cleanup_ws (hrunning hloop)
      · rename_i herror
        -- the loop returns: by the invariant something else backs the wish by now
        refine ⟨rfl, fun hshould => ?_, (hbacked.emit .connected).reported⟩
        obtain ⟨-, hquiet⟩ | hbacking := hbacked.backed hshould
        · exact absurd ⟨read, hloop, hready, by simpa using herror⟩ hquiet
        · exact .inr hbacking
    · simp at hstep
  | ready_timeout =>
    simp only [MercurySocket.step] at hstep
    split at hstep
    · rename_i read hloop
      simp only [Option.some.injEq] at hstep
      subst hstep
      exact hbacked.cleanup_ws (hrunning hloop)
    · simp at hstep
  | read_cancelled =>
    simp only [MercurySocket.step, Option.ite_none_right_eq_some, Option.some.injEq] at hstep
    obtain ⟨hloop, rfl⟩ := hstep
    exact cleanup_continue_backed hbacked (hrunning hloop) (close_websocket_closes (fun _ _ _ _ => rfl))
  | cleanup_resumed ok =>
    simp only [MercurySocket.step] at hstep
    split at hstep
    · rename_i pc hloop
      simp only [Option.some.injEq] at hstep
      subst hstep
      exact cleanup_continue_backed hbacked (hrunning hloop)
        (close_websocket_resume_closes (fun _ _ _ _ _ _ => rfl) (fun _ _ _ _ _ => rfl))
    · simp at hstep
  | ping_wake ping =>
    simp only [MercurySocket.step, Option.ite_none_right_eq_some, Option.some.injEq] at hstep
    obtain ⟨-, rfl⟩ := hstep
    unfold MercurySocket.ping_wake
    split
    · split
      · exact hbacked
      · exact hbacked.heartbeat _
    · exact hbacked
  | ping_sent ping ok =>
    simp only [MercurySocket.step, Option.ite_none_right_eq_some, Option.some.injEq] at hstep
    obtain ⟨-, rfl⟩ := hstep
    exact hbacked.heartbeat _
  | pong_timer timer =>
    simp only [MercurySocket.step, Option.ite_none_right_eq_some, Option.some.injEq] at hstep
    obtain ⟨-, rfl⟩ := hstep
    exact ⟨hbacked.guard, hbacked.backed, hbacked.reported⟩
  | run_pong_timeout pong =>
    simp only [MercurySocket.step, Option.ite_none_right_eq_some, Option.some.injEq] at hstep
    obtain ⟨-, rfl⟩ := hstep
    refine (hbacked.heartbeat _).pong_continue pong (close_websocket_closes ?_)
      (fun hsignalled => (hunswallowed hsignalled).2)
    intro ws hws hsession hclosed
    simp only at hws hsession hclosed
    simp [clears_ws, hws, hsession, hclosed]
  | pong_resumed pong ok =>
    simp only [MercurySocket.step] at hstep
    split at hstep
    · rename_i pc hpong
      simp only [Option.some.injEq] at hstep
      subst hstep
      refine hbacked.pong_continue pong (close_websocket_resume_closes ?_ ?_)
        (fun hsignalled => (hunswallowed hsignalled).2)
      · rintro closing ws rfl rfl hws hclosed
        simp [clears_ws, hpong, hws, hclosed]
      · rintro closing ws rfl rfl hws
        simp [clears_ws, hpong, hws]
    · simp at hstep
  | stability_timer =>
    simp only [MercurySocket.step, Option.ite_none_right_eq_some, Option.some.injEq] at hstep
    obtain ⟨-, rfl⟩ := hstep
    exact ⟨hbacked.guard, hbacked.backed, hbacked.reported⟩

end MercurySocket

/-- One `MercurySocket` after its `connect()`, scheduled at its await points. -/
def machine (start : MercurySocket) : Machine MercurySocket Step where
  init := start
  step := MercurySocket.step

theorem backed_of_reachable {start : MercurySocket} (hstart : start.Established) {self : MercurySocket}
    (hreach : (machine start).Reachable MercurySocket.Unswallowed self) : self.Backed := by
  refine hreach.invariant ?_ ?_
  · refine ⟨?_, fun _ => .inr (.inr hstart.alive), fun hstopped => ?_⟩
    · rw [show (machine start).init = start from rfl, hstart.reconnecting, hstart.loop, Option.isSome_none]
    · exact absurd hstart.should_reconnect (by simpa [machine] using hstopped)
  · intro s step next _ hbacked hunswallowed hstep
    exact hbacked.step hunswallowed hstep

/-- Unless a loop that is about to return is relied on, no lost connection is left
    alone: reconnection is running or scheduled, or the loss was reported. -/
theorem no_silent_hang_of_unswallowed {start : MercurySocket} (hstart : start.Established)
    {self : MercurySocket} (hreach : (machine start).Reachable MercurySocket.Unswallowed self) :
    ¬ self.Silent ∧
    (¬ self.Alive → self.loop.isSome = true ∨ 0 < self.scheduled ∨
      ∃ reason, .disconnected reason ∈ self.events) := by
  have hbacked := backed_of_reachable hstart hreach
  constructor
  · intro hsilent
    obtain ⟨hloop, -⟩ | hscheduled | halive := hbacked.backed hsilent.should_reconnect
    · rw [← hbacked.guard, hsilent.reconnecting] at hloop
      exact Bool.false_ne_true hloop
    · rw [hsilent.scheduled] at hscheduled
      exact Nat.lt_irrefl 0 hscheduled
    · exact hsilent.lost halive
  · intro hlost
    cases hshould : self.should_reconnect with
    | false => exact .inr (.inr (hbacked.reported hshould))
    | true =>
      obtain ⟨hloop, -⟩ | hscheduled | halive := hbacked.backed hshould
      · exact .inl hloop
      · exact .inr (.inl hscheduled)
      · exact absurd halive hlost

/-- A new `MercurySocket` after its first `connect()`. -/
def connected (max_reconnect_attempts : Nat) : MercurySocket where
  max_reconnect_attempts := max_reconnect_attempts
  ws := some 0
  connection_ready := true
  heartbeat := Heartbeat.start_ping_loop {}
  read_task := some 0
  session_open := fun ws => ws = 0
  next_ws := 1
  reads := fun read => if read = 0 then { owned_ws := some 0, pc := .reading, ready := true } else {}
  next_read := 1

theorem connected_established (max_reconnect_attempts : Nat) : (connected max_reconnect_attempts).Established :=
  ⟨rfl, rfl, rfl, 0, 0, rfl, rfl, rfl⟩

/-- The server closes the connection and the loop brings a new one to the point
    where its `ready_event` is set. -/
def ready_again : List Step :=
  [.read 0 .closed (some 1001), .run_reconnect, .wake, .opened true true, .authorized true,
    .read 1 (.message .other .ready) none]

/-- A close of the new connection after the loop has returned is followed up. -/
theorem close_after_return_reconnects :
    (connected 10).Established ∧
    ∃ last, (machine (connected 10)).run (connected 10) (ready_again ++ [.resumed, .read 1 .closed (some 1001)])
        = some last ∧ ¬ last.Silent ∧ last.scheduled = 1 := by
  have hother : ∀ (self : MercurySocket) (step : Step), step ≠ .run_reconnect → self.clears_ws step = false →
      self.Unswallowed step := by
    intro self step hne hkeeps _
    exact ⟨fun heq => absurd heq hne, fun hclears => absurd hclears (by simp [hkeeps])⟩
  refine ⟨connected_established 10, _, rfl, ?_, rfl⟩
  refine (no_silent_hang_of_unswallowed (connected_established 10) (Machine.Reachable.run .init
    (ready_again ++ [.resumed, .read 1 .closed (some 1001)]) ?_ rfl)).1
  refine .cons (hother _ _ nofun rfl) rfl (.cons ?_ rfl ?_)
  · rintro ⟨read, hloop, -⟩
    cases hloop
  · exact .cons (hother _ _ nofun rfl) rfl <| .cons (hother _ _ nofun rfl) rfl <|
      .cons (hother _ _ nofun rfl) rfl <| .cons (hother _ _ nofun rfl) rfl <|
      .cons (hother _ _ nofun rfl) rfl <| .cons (hother _ _ nofun rfl) rfl trivial

/-- The new connection is closed between its readiness message and the moment the
    reconnect loop resumes. The `_reconnect` scheduled for that close meets the
    guard, the loop then returns, and no task is left. -/
theorem close_before_return_hangs :
    ∃ last, (machine (connected 10)).Reachable Machine.Always last ∧ last.Silent ∧ last.Quiescent := by
  refine ⟨_, Machine.Reachable.run .init (ready_again ++ [.read 1 .closed (some 1001), .run_reconnect, .resumed])
    (Machine.meets_always _ _) rfl, ?_⟩
  generalize hlast : MercurySocket.resumed _ _ = last
  have hreads : ∀ read, (last.reads read).pc = .done := by
    subst hlast
    intro read
    match read with
    | 0 => rfl
    | 1 => rfl
    | _ + 2 => rfl
  have hpings : ∀ ping, last.heartbeat.pings ping = .done := by
    subst hlast
    intro ping
    match ping with
    | 0 => rfl
    | 1 => rfl
    | _ + 2 => rfl
  have hlost : ¬ last.Alive := by
    rintro ⟨ws, read, -, hreading, -⟩
    rw [hreads] at hreading
    cases hreading
  subst hlast
  exact ⟨⟨rfl, rfl, rfl, rfl, rfl, hlost⟩, rfl, rfl, rfl, rfl, hreads, hpings⟩

end webex.python.mercury_socket
