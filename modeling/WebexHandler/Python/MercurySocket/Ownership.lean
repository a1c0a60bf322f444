import WebexHandler.Interaction.Pool
import WebexHandler.Python.MercurySocket.Calls

open transition interaction

namespace webex.python.mercury_socket

/-- The read loop that takes a step. -/
def Step.reader : Step → Option Nat
  | .read reader _ _ => some reader
  | .read_session_closed reader => some reader
  | _ => none

namespace MercurySocket

/-- A step of a read loop changes nothing but the loop's own task, and the only
    event it may report is an error. -/
def Inert (read : Nat) (before after : MercurySocket) : Prop :=
  ∃ task errors, (∀ event ∈ errors, event = .connection_error) ∧
    after = { before.set_read read task with events := before.events ++ errors }

/-- A read loop has a step that does more than that. -/
def CanAffect (self : MercurySocket) (read : Nat) : Prop :=
  ∃ step next, step.reader = some read ∧ self.step step = some next ∧ ¬ Inert read self next

/-- A running read loop and the socket it owns. -/
def Reads (self : MercurySocket) (read ws : Nat) : Prop :=
  (self.reads read).pc = .reading ∧ (self.reads read).owned_ws = some ws

section inert

variable {self next : MercurySocket} {read : Nat}

theorem inert_set_read (task : ReadTask) : Inert read self (self.set_read read task) := by
  refine ⟨task, [], nofun, ?_⟩
  simp [set_read]

theorem inert_connection_error (task : ReadTask) :
    Inert read self ((self.emit .connection_error).set_read read task) := by
  refine ⟨task, [.connection_error], ?_, rfl⟩
  intro event hmem
  exact List.mem_singleton.mp hmem

theorem set_read_set_read (first second : ReadTask) :
    (self.set_read read first).set_read read second = self.set_read read second := by
  simp only [set_read, MercurySocket.mk.injEq, true_and, and_true]
  funext other
  by_cases heq : other = read <;> simp [heq]

/-- After the loop of a rotated-out read loop, only its session is closed. -/
theorem read_tail_rotated (self : MercurySocket) (hrotated : (self.reads read).owned_ws ≠ self.ws)
    (close_code : Option Nat) :
    ∃ task, self.read_tail read close_code = self.set_read read task := by
  simp only [read_tail, if_pos hrotated]
  cases (self.reads read).owned_ws with
  | none => exact ⟨_, rfl⟩
  | some ws => exact ⟨_, rfl⟩

theorem read_failed_rotated (hrotated : (self.reads read).owned_ws ≠ self.ws) (close_code : Option Nat) :
    Inert read self ((self.read_failed read).read_tail read close_code) := by
  by_cases hready : self.connection_ready = true
  · simp only [read_failed, if_pos hready]
    obtain ⟨task, htail⟩ := read_tail_rotated (self.emit .connection_error) hrotated close_code
    rw [htail]
    exact inert_connection_error task
  · simp only [read_failed, if_neg hready]
    have hrotated : ((self.set_read read { self.reads read with connect_error := true, ready := true }).reads
        read).owned_ws ≠ self.ws := by simpa [set_read] using hrotated
    obtain ⟨task, htail⟩ := read_tail_rotated _ hrotated close_code
    rw [htail, set_read_set_read]
    exact inert_set_read task

/-- A read loop without a socket, or with another one than `_ws`, has no effect on
    the socket whatever it receives. -/
theorem read_item_rotated (hrotated : ∀ ws, (self.reads read).owned_ws = some ws → some ws ≠ self.ws)
    (item : Item) (close_code : Option Nat) : Inert read self (self.read_item read item close_code) := by
  cases howned : (self.reads read).owned_ws with
  | none =>
    simp only [read_item, howned]
    exact inert_set_read _
  | some ws =>
    have hne : some ws ≠ self.ws := hrotated ws howned
    obtain ⟨task, htail⟩ := read_tail_rotated self (howned ▸ hne) close_code
    have hinert : Inert read self (self.read_tail read close_code) := htail ▸ inert_set_read task
    cases item with
    | raised =>
      simp only [read_item, howned]
      exact read_failed_rotated (howned ▸ hne) close_code
    | message | other | closed | error | ended => simpa only [read_item, howned, if_pos hne] using hinert

theorem step_rotated (hrotated : ∀ ws, (self.reads read).owned_ws = some ws → some ws ≠ self.ws) {step : Step}
    (hreader : step.reader = some read) (hstep : self.step step = some next) : Inert read self next := by
  cases step with
  | read other item close_code =>
    obtain rfl : other = read := Option.some.inj hreader
    simp only [MercurySocket.step, Option.ite_none_right_eq_some, Option.some.injEq] at hstep
    obtain ⟨-, rfl⟩ := hstep
    exact read_item_rotated hrotated item close_code
  | read_session_closed other =>
    obtain rfl : other = read := Option.some.inj hreader
    simp only [MercurySocket.step, Option.ite_none_right_eq_some, Option.some.injEq] at hstep
    obtain ⟨-, rfl⟩ := hstep
    exact inert_set_read _
  | _ => cases hreader

/-- Only a running loop on the current socket can affect it. -/
theorem CanAffect.reads (haffect : self.CanAffect read) : ∃ ws, self.ws = some ws ∧ self.Reads read ws := by
  obtain ⟨step, next, hreader, hstep, hactive⟩ := haffect
  by_contra hnone
  have hreading : (self.reads read).pc = .reading := by
    by_contra hidle
    cases step with
    | read other item close_code =>
      obtain rfl : other = read := Option.some.inj hreader
      simp [MercurySocket.step, hidle] at hstep
    | read_session_closed other =>
      obtain rfl : other = read := Option.some.inj hreader
      simp only [MercurySocket.step, Option.ite_none_right_eq_some, Option.some.injEq] at hstep
      exact hactive (hstep.2 ▸ inert_set_read _)
    | _ => cases hreader
  refine hactive (step_rotated ?_ hreader hstep)
  intro ws howned hws
  exact hnone ⟨ws, hws.symm, hreading, howned⟩

end inert

/-- A segment opens no socket, starts no read loop and begins no authorization. -/
structure Quiet (before after : MercurySocket) : Prop where
  ws : ∀ ws, after.ws = some ws → before.ws = some ws
  next_ws : after.next_ws = before.next_ws
  next_read : after.next_read = before.next_read
  reads : ∀ read ws, after.Reads read ws → before.Reads read ws
  loop : after.loop = some .authorizing → before.loop = some .authorizing

section quiet

variable {self before after : MercurySocket}

theorem Quiet.refl (self : MercurySocket) : Quiet self self where
  ws _ := id
  next_ws := rfl
  next_read := rfl
  reads _ _ := id
  loop := id

theorem Quiet.trans {mid : MercurySocket} (hfirst : Quiet before mid) (hsecond : Quiet mid after) :
    Quiet before after where
  ws ws hws := hfirst.ws ws (hsecond.ws ws hws)
  next_ws := hsecond.next_ws.trans hfirst.next_ws
  next_read := hsecond.next_read.trans hfirst.next_read
  reads read ws hreads := hfirst.reads read ws (hsecond.reads read ws hreads)
  loop hloop := hfirst.loop (hsecond.loop hloop)

/-- Fields outside the five play no part. -/
theorem Quiet.of_eq (hws : after.ws = self.ws) (hnext_ws : after.next_ws = self.next_ws)
    (hnext_read : after.next_read = self.next_read) (hreads : after.reads = self.reads)
    (hloop : after.loop = some .authorizing → self.loop = some .authorizing) : Quiet self after where
  ws ws h := hws ▸ h
  next_ws := hnext_ws
  next_read := hnext_read
  reads read ws h := by simpa only [Reads, hreads] using h
  loop := hloop

theorem Quiet.set_read {read : Nat} {task : ReadTask}
    (htask : ∀ ws, task.pc = .reading → task.owned_ws = some ws → self.Reads read ws) :
    Quiet self (self.set_read read task) where
  ws _ := id
  next_ws := rfl
  next_read := rfl
  reads other ws hreads := by
    by_cases heq : other = read
    · subst heq
      simp only [Reads, MercurySocket.set_read, if_true] at hreads
      exact htask ws hreads.1 hreads.2
    · simpa [Reads, MercurySocket.set_read, heq] using hreads
  loop := id

theorem Quiet.stop_read {read : Nat} {task : ReadTask} (hpc : task.pc ≠ .reading) :
    Quiet self (self.set_read read task) :=
  .set_read fun _ hreading => absurd hreading hpc

theorem Quiet.clear_ws (hquiet : Quiet before self) : Quiet before { self with ws := none } :=
  ⟨nofun, hquiet.next_ws, hquiet.next_read, hquiet.reads, hquiet.loop⟩

theorem Quiet.set_loop (hquiet : Quiet before self) {loop : Option LoopPc} (hloop : loop ≠ some .authorizing) :
    Quiet before { self with loop := loop } :=
  ⟨hquiet.ws, hquiet.next_ws, hquiet.next_read, hquiet.reads, fun h => absurd h hloop⟩

theorem handle_message_quiet (type : MessageType) (event_type : EventType) :
    Quiet self (self.handle_message type event_type) := by
  obtain ⟨acks, ⟨pong_id, heq⟩ | heq | heq | heq⟩ := self.handle_message_cases type event_type <;>
    exact heq ▸ .of_eq rfl rfl rfl rfl id

theorem handle_close_quiet (code : Nat) : Quiet self (self.handle_close code) := by
  simp only [handle_close]
  split
  · exact .of_eq rfl rfl rfl rfl id
  · split
    · exact .of_eq rfl rfl rfl rfl id
    · split
      · exact .of_eq rfl rfl rfl rfl id
      · exact .of_eq rfl rfl rfl rfl id

theorem read_tail_quiet (read : Nat) (close_code : Option Nat) : Quiet self (self.read_tail read close_code) := by
  by_cases hrotated : (self.reads read).owned_ws ≠ self.ws
  · simp only [read_tail, if_pos hrotated]
    cases (self.reads read).owned_ws with
    | none => exact .stop_read nofun
    | some ws =>
      refine .stop_read ?_
      split <;> simp
  · simp only [read_tail, if_neg hrotated]
    exact .trans (.stop_read (by simp)) (handle_close_quiet _)

theorem read_failed_quiet (self : MercurySocket) (read : Nat) : Quiet self (self.read_failed read) := by
  simp only [read_failed]
  split
  · exact .of_eq rfl rfl rfl rfl id
  · exact .set_read fun ws hreading howned => ⟨hreading, howned⟩

theorem read_ready_quiet (read : Nat) (event_type : EventType) (close_code : Option Nat) :
    Quiet self (self.read_ready read event_type close_code) := by
  simp only [read_ready]
  split
  · exact .refl self
  · split
    · have hstarted : Quiet self ({ self with connection_ready := true }.start_ping_loop) :=
        .of_eq rfl rfl rfl rfl id
      exact hstarted.trans (.set_read fun ws hreading howned => ⟨hreading, howned⟩)
    · exact .refl self
    · exact (read_failed_quiet self read).trans (read_tail_quiet read close_code)

theorem read_item_quiet (read : Nat) (item : Item) (close_code : Option Nat) :
    Quiet self (self.read_item read item close_code) := by
  have hfailed := (read_failed_quiet self read).trans (read_tail_quiet read close_code)
  simp only [read_item]
  cases (self.reads read).owned_ws with
  | none => exact .stop_read nofun
  | some ws =>
    cases item with
    | raised => exact hfailed
    | ended | closed => exact read_tail_quiet read close_code
    | error =>
      dsimp only
      split
      · exact read_tail_quiet read close_code
      · exact hfailed
    | message type event_type =>
      dsimp only
      split
      · exact read_tail_quiet read close_code
      · exact (handle_message_quiet type event_type).trans (read_ready_quiet read event_type close_code)
    | other =>
      dsimp only
      split
      · exact read_tail_quiet read close_code
      · exact .refl self

theorem close_socket_quiet (self : MercurySocket) : Quiet self self.close_socket.1 := by
  simp only [close_socket]
  cases self.ws with
  | none => exact .refl self
  | some ws =>
    dsimp only
    split
    · exact (Quiet.refl self).clear_ws
    · exact .refl self

theorem close_websocket_quiet (self : MercurySocket) : Quiet self self.close_websocket.1 := by
  simp only [close_websocket]
  cases self.ws with
  | none => exact .refl self
  | some ws =>
    dsimp only
    split
    · exact .refl self
    · exact close_socket_quiet self

theorem close_websocket_resume_quiet (self : MercurySocket) (pc : ClosePc) (ok : Bool) :
    Quiet self (self.close_websocket_resume pc ok).1 := by
  simp only [close_websocket_resume]
  split
  · exact .refl self
  · cases pc with
    | session ws =>
      refine .trans ?_ (close_socket_quiet _)
      exact .of_eq rfl rfl rfl rfl id
    | socket ws => exact ⟨nofun, rfl, rfl, fun _ _ => id, id⟩

theorem reconnect_return_quiet (self : MercurySocket) : Quiet self self.reconnect_return :=
  .of_eq rfl rfl rfl rfl nofun

theorem reconnect_head_quiet (self : MercurySocket) : Quiet self self.reconnect_head := by
  simp only [reconnect_head]
  split
  · exact reconnect_return_quiet self
  · split
    · exact .of_eq rfl rfl rfl rfl nofun
    · exact .of_eq rfl rfl rfl rfl nofun

theorem reconnect_quiet (self : MercurySocket) : Quiet self self.reconnect := by
  simp only [reconnect]
  split
  · exact .refl self
  · refine .trans ?_ (reconnect_head_quiet _)
    exact .of_eq rfl rfl rfl rfl id

theorem cleanup_continue_quiet {closed : MercurySocket × CloseStatus} (hclosed : Quiet before closed.1) :
    Quiet before (cleanup_continue closed) := by
  obtain ⟨closed, status⟩ := closed
  cases status with
  | suspended pc => exact hclosed.set_loop nofun
  | finished => exact hclosed.clear_ws.trans (reconnect_head_quiet _)
  | raised => exact hclosed.trans (reconnect_head_quiet closed)

theorem cleanup_ws_quiet (self : MercurySocket) : Quiet self self.cleanup_ws := by
  have hstopped : Quiet self self.stop_ping_loop := .of_eq rfl rfl rfl rfl id
  have hclosed := hstopped.trans (close_websocket_quiet self.stop_ping_loop)
  simp only [cleanup_ws]
  split
  · split
    · exact cleanup_continue_quiet hclosed
    · exact .set_loop (hstopped.trans (.stop_read (by simp))) nofun
  · exact cleanup_continue_quiet hclosed

theorem pong_continue_quiet {closed : MercurySocket × CloseStatus} (hclosed : Quiet before closed.1) (pong : Nat) :
    Quiet before (pong_continue pong closed) := by
  obtain ⟨closed, status⟩ := closed
  cases status with
  | suspended pc => exact hclosed.trans (.of_eq rfl rfl rfl rfl id)
  | finished =>
    refine .trans ?_ (reconnect_quiet _)
    exact hclosed.trans (.of_eq rfl rfl rfl rfl id)
  | raised => exact hclosed.trans (.of_eq rfl rfl rfl rfl id)

theorem resumed_quiet (self : MercurySocket) (read : Nat) : Quiet self (self.resumed read) := by
  simp only [resumed]
  split
  · exact cleanup_ws_quiet self
  · exact .of_eq rfl rfl rfl rfl nofun

theorem ping_wake_quiet (self : MercurySocket) (ping : Nat) : Quiet self (self.ping_wake ping) := by
  simp only [ping_wake]
  split
  · split
    · exact .refl self
    · exact .of_eq rfl rfl rfl rfl id
  · exact .refl self

/-- Of the tasks' steps only two of the `_reconnect` loop are not quiet. -/
theorem step_quiet {step : Step} {next : MercurySocket} (hstep : self.step step = some next) :
    Quiet self next ∨
    (∃ has_session, step = .opened true has_session ∧
      next = { self.attach has_session with loop := some .authorizing }) ∨
    (self.loop = some .authorizing ∧ step = .authorized true ∧
      next = { self.start_read_loop with loop := some (.awaiting_ready self.next_read) }) := by
  cases step with
  | read read item close_code =>
    simp only [MercurySocket.step, Option.ite_none_right_eq_some, Option.some.injEq] at hstep
    exact .inl (hstep.2 ▸ read_item_quiet read item close_code)
  | read_session_closed read =>
    simp only [MercurySocket.step, Option.ite_none_right_eq_some, Option.some.injEq] at hstep
    exact .inl (hstep.2 ▸ .stop_read nofun)
  | socket_closed ws =>
    obtain rfl := Option.some.inj hstep
    exact .inl (.of_eq rfl rfl rfl rfl id)
  | run_reconnect =>
    simp only [MercurySocket.step, Option.ite_none_right_eq_some, Option.some.injEq] at hstep
    refine .inl (hstep.2 ▸ .trans ?_ (reconnect_quiet _))
    exact .of_eq rfl rfl rfl rfl id
  | wake =>
    simp only [MercurySocket.step, Option.ite_none_right_eq_some] at hstep
    obtain ⟨-, hstep⟩ := hstep
    split at hstep
    · obtain rfl := Option.some.inj hstep
      exact .inl (.of_eq rfl rfl rfl rfl nofun)
    · obtain rfl := Option.some.inj hstep
      exact .inl (reconnect_return_quiet self)
  | opened ok has_session =>
    simp only [MercurySocket.step, Option.ite_none_right_eq_some, Option.some.injEq, opened_eq] at hstep
    obtain ⟨-, rfl⟩ := hstep
    cases ok with
    | true => exact .inr (.inl ⟨has_session, rfl, rfl⟩)
    | false => exact .inl (reconnect_head_quiet self)
  | authorized ok =>
    simp only [MercurySocket.step, Option.ite_none_right_eq_some, Option.some.injEq, authorized_eq] at hstep
    obtain ⟨hloop, rfl⟩ := hstep
    cases ok with
    | true => exact .inr (.inr ⟨hloop, rfl, rfl⟩)
    | false => exact .inl (reconnect_head_quiet self)
  | resumed =>
    simp only [MercurySocket.step] at hstep
    split at hstep
    · simp only [Option.ite_none_right_eq_some, Option.some.injEq] at hstep
      exact .inl (hstep.2 ▸ resumed_quiet self _)
    · cases hstep
  | ready_timeout =>
    simp only [MercurySocket.step] at hstep
    split at hstep
    · exact .inl (Option.some.inj hstep ▸ cleanup_ws_quiet self)
    · cases hstep
  | read_cancelled =>
    simp only [MercurySocket.step, Option.ite_none_right_eq_some, Option.some.injEq] at hstep
    exact .inl (hstep.2 ▸ cleanup_continue_quiet (close_websocket_quiet self))
  | cleanup_resumed ok =>
    simp only [MercurySocket.step] at hstep
    split at hstep
    · exact .inl (Option.some.inj hstep ▸ cleanup_continue_quiet (close_websocket_resume_quiet self _ ok))
    · cases hstep
  | ping_wake ping =>
    simp only [MercurySocket.step, Option.ite_none_right_eq_some, Option.some.injEq] at hstep
    exact .inl (hstep.2 ▸ ping_wake_quiet self ping)
  | ping_sent ping ok =>
    simp only [MercurySocket.step, Option.ite_none_right_eq_some, Option.some.injEq] at hstep
    obtain ⟨-, rfl⟩ := hstep
    exact .inl (.of_eq rfl rfl rfl rfl id)
  | pong_timer timer =>
    simp only [MercurySocket.step, Option.ite_none_right_eq_some, Option.some.injEq] at hstep
    obtain ⟨-, rfl⟩ := hstep
    exact .inl (.of_eq rfl rfl rfl rfl id)
  | run_pong_timeout pong =>
    simp only [MercurySocket.step, Option.ite_none_right_eq_some, Option.some.injEq] at hstep
    refine .inl (hstep.2 ▸ pong_continue_quiet (.trans ?_ (close_websocket_quiet _)) pong)
    exact .of_eq rfl rfl rfl rfl id
  | pong_resumed pong ok =>
    simp only [MercurySocket.step] at hstep
    split at hstep
    · exact .inl (Option.some.inj hstep ▸ pong_continue_quiet (close_websocket_resume_quiet self _ ok) pong)
    · cases hstep
  | stability_timer =>
    simp only [MercurySocket.step, Option.ite_none_right_eq_some, Option.some.injEq] at hstep
    obtain ⟨-, rfl⟩ := hstep
    exact .inl (.of_eq rfl rfl rfl rfl id)

theorem connect_continue_quiet {closed : MercurySocket × CloseStatus} (hclosed : Quiet before closed.1) :
    Quiet before (connect_continue closed).1 ∧ (connect_continue closed).2 ≠ .authorizing := by
  obtain ⟨closed, status⟩ := closed
  cases status with
  | suspended pc => exact ⟨hclosed, nofun⟩
  | finished => exact ⟨hclosed.clear_ws, nofun⟩
  | raised => exact ⟨hclosed, nofun⟩

theorem connect_cleanup_quiet (self : MercurySocket) :
    Quiet self self.connect_cleanup.1 ∧ self.connect_cleanup.2 ≠ .authorizing := by
  have hstopped : Quiet self self.stop_ping_loop := .of_eq rfl rfl rfl rfl id
  have hclosed := hstopped.trans (close_websocket_quiet self.stop_ping_loop)
  simp only [connect_cleanup]
  split
  · split
    · exact connect_continue_quiet hclosed
    · exact ⟨hstopped.trans (.stop_read nofun), nofun⟩
  · exact connect_continue_quiet hclosed

theorem disconnect_continue_quiet {closed : MercurySocket × CloseStatus} (hclosed : Quiet before closed.1) :
    Quiet before (disconnect_continue closed).1 ∧ (disconnect_continue closed).2 ≠ .authorizing := by
  obtain ⟨closed, status⟩ := closed
  cases status with
  | suspended pc => exact ⟨hclosed, nofun⟩
  | finished => exact ⟨hclosed.clear_ws.trans (.of_eq rfl rfl rfl rfl id), nofun⟩
  | raised => exact ⟨hclosed, nofun⟩

theorem disconnect_quiet (self : MercurySocket) :
    Quiet self self.disconnect.1 ∧ self.disconnect.2 ≠ .authorizing := by
  have hstopped : Quiet self { self with should_reconnect := false }.stop_ping_loop.cancel_stability_timer :=
    .of_eq rfl rfl rfl rfl id
  have hclosed := hstopped.trans (close_websocket_quiet _)
  simp only [disconnect]
  split
  · split
    · exact disconnect_continue_quiet hclosed
    · exact ⟨hstopped.trans (.stop_read nofun), nofun⟩
  · exact disconnect_continue_quiet hclosed

/-- A suspended call goes on quietly, unless its socket or its read loop is created. -/
theorem resume_quiet {pc : CallPc} {ok has_session : Bool} {resumed : MercurySocket × CallPc}
    (hresume : self.resume pc ok has_session = some resumed) :
    (Quiet self resumed.1 ∧ resumed.2 ≠ .authorizing) ∨
    (pc = .opening ∧ ok = true ∧ resumed = (self.attach has_session, .authorizing)) ∨
    (pc = .authorizing ∧ resumed = (self.start_read_loop, .awaiting_ready self.next_read)) := by
  cases pc with
  | opening =>
    obtain rfl := Option.some.inj hresume
    cases ok with
    | true => exact .inr (.inl ⟨rfl, rfl, rfl⟩)
    | false => exact .inl ⟨.refl self, nofun⟩
  | authorizing =>
    obtain rfl := Option.some.inj hresume
    cases ok with
    | true => exact .inr (.inr ⟨rfl, rfl⟩)
    | false => exact .inl ⟨.refl self, nofun⟩
  | awaiting_ready read =>
    simp only [resume] at hresume
    split at hresume
    · exact .inl (Option.some.inj hresume ▸ connect_cleanup_quiet self)
    · simp only [Option.ite_none_right_eq_some, Option.some.injEq, connect_resumed] at hresume
      obtain ⟨-, rfl⟩ := hresume
      split
      · exact .inl (connect_cleanup_quiet self)
      · exact .inl ⟨.refl self, nofun⟩
  | cleanup_read => exact .inl (Option.some.inj hresume ▸ connect_continue_quiet (close_websocket_quiet self))
  | cleanup_close pc =>
    exact .inl (Option.some.inj hresume ▸ connect_continue_quiet (close_websocket_resume_quiet self pc ok))
  | disconnect_read => exact .inl (Option.some.inj hresume ▸ disconnect_continue_quiet (close_websocket_quiet self))
  | disconnect_close pc =>
    exact .inl (Option.some.inj hresume ▸ disconnect_continue_quiet (close_websocket_resume_quiet self pc ok))
  | done => cases hresume

end quiet

end MercurySocket

namespace System

/-- A `_connect_internal` is between its new socket and its read loop: that of the
    `_reconnect` loop, or that of a `connect()` call. -/
def Authorizing (self : System) : Option Nat → Prop
  | none => self.socket.loop = some .authorizing
  | some call => self.calls[call]? = some .authorizing

/-- The step that puts a new socket into `_ws`. -/
def opens (self : System) : Label → Bool
  | .task (.opened ok _) => ok
  | .call call ok _ => ok && self.calls[call]? == some .opening
  | _ => false

/-- No new socket takes the place of one whose read loop is still to be created. -/
def Separate (self : System) (label : Label) : Prop :=
  self.opens label = true → ∀ party, ¬ self.Authorizing party

/-- Running read loops own different sockets, and the current socket has none while
    it is being authorized. -/
structure Owned (s : System) : Prop where
  ws_bound : ∀ ws, s.socket.ws = some ws → ws < s.socket.next_ws
  read_bound : ∀ read ws, s.socket.Reads read ws → read < s.socket.next_read ∧ ws < s.socket.next_ws
  distinct : ∀ first second ws, s.socket.Reads first ws → s.socket.Reads second ws → first = second
  single : ∀ first second, s.Authorizing first → s.Authorizing second → first = second
  unread : ∀ party, s.Authorizing party → ∀ read ws, s.socket.ws = some ws → ¬ s.socket.Reads read ws

variable {self : System} {socket : MercurySocket} {calls : List CallPc}

theorem Owned.quiet (howned : self.Owned) (hquiet : self.socket.Quiet socket)
    (hcalls : ∀ call : Nat, calls[call]? = some .authorizing → self.calls[call]? = some .authorizing) :
    Owned { socket, calls } := by
  have hauthorizing : ∀ party, Authorizing { socket, calls } party → self.Authorizing party := by
    intro party hparty
    cases party with
    | none => exact hquiet.loop hparty
    | some call => exact hcalls call hparty
  constructor
  case ws_bound =>
    intro ws hws
    exact hquiet.next_ws ▸ howned.ws_bound ws (hquiet.ws ws hws)
  case read_bound =>
    intro read ws hreads
    exact hquiet.next_read ▸ hquiet.next_ws ▸ howned.read_bound read ws (hquiet.reads read ws hreads)
  case distinct =>
    intro first second ws hfirst hsecond
    exact howned.distinct first second ws (hquiet.reads first ws hfirst) (hquiet.reads second ws hsecond)
  case single =>
    intro first second hfirst hsecond
    exact howned.single first second (hauthorizing first hfirst) (hauthorizing second hsecond)
  case unread =>
    intro party hparty read ws hws hreads
    exact howned.unread party (hauthorizing party hparty) read ws (hquiet.ws ws hws) (hquiet.reads read ws hreads)

/-- A new socket is nobody's yet. -/
theorem Owned.attach (howned : self.Owned) {has_session : Bool} (loop : Option LoopPc) (party : Option Nat)
    (hparty : ∀ other, Authorizing { socket := { self.socket.attach has_session with loop := loop }, calls } other →
      other = party) :
    Owned { socket := { self.socket.attach has_session with loop := loop }, calls } where
  ws_bound ws hws := by
    obtain rfl := Option.some.inj hws
    exact Nat.lt_succ_self _
  read_bound read ws hreads := by
    obtain ⟨hread, hws⟩ := howned.read_bound read ws hreads
    exact ⟨hread, Nat.lt_succ_of_lt hws⟩
  distinct := howned.distinct
  single first second hfirst hsecond := (hparty first hfirst).trans (hparty second hsecond).symm
  unread _ _ read ws hws hreads := by
    obtain rfl := Option.some.inj hws
    exact Nat.lt_irrefl _ (howned.read_bound read _ hreads).2

/-- The read loop that an authorization ends with is the first on its socket. -/
theorem Owned.start_read_loop (howned : self.Owned) (loop : Option LoopPc) (party : Option Nat)
    (hauthorizing : self.Authorizing party)
    (hparty : ∀ other, Authorizing { socket := { self.socket.start_read_loop with loop := loop }, calls } other →
      other ≠ party ∧ self.Authorizing other) :
    Owned { socket := { self.socket.start_read_loop with loop := loop }, calls } := by
  have hreads : ∀ read ws, self.socket.start_read_loop.Reads read ws →
      (read = self.socket.next_read ∧ self.socket.ws = some ws) ∨ self.socket.Reads read ws := by
    intro read ws h
    by_cases heq : read = self.socket.next_read
    · subst heq
      simp only [MercurySocket.Reads, MercurySocket.start_read_loop, MercurySocket.set_read, if_true, true_and] at h
      exact .inl ⟨rfl, h⟩
    · simp only [MercurySocket.Reads, MercurySocket.start_read_loop, MercurySocket.set_read, if_neg heq] at h
      exact .inr h
  have hnone : ∀ other, ¬ Authorizing { socket := { self.socket.start_read_loop with loop := loop }, calls } other := by
    intro other hother
    obtain ⟨hne, hstill⟩ := hparty other hother
    exact hne (howned.single other party hstill hauthorizing)
  constructor
  case ws_bound => exact howned.ws_bound
  case read_bound =>
    intro read ws h
    show read < self.socket.next_read + 1 ∧ ws < self.socket.next_ws
    obtain ⟨rfl, hws⟩ | hold := hreads read ws h
    · exact ⟨Nat.lt_succ_self _, howned.ws_bound ws hws⟩
    · obtain ⟨hread, hws⟩ := howned.read_bound read ws hold
      exact ⟨Nat.lt_succ_of_lt hread, hws⟩
  case distinct =>
    intro first second ws hfirst hsecond
    obtain ⟨rfl, hws⟩ | hfirst := hreads first ws hfirst
    · obtain ⟨rfl, -⟩ | hsecond := hreads second ws hsecond
      · rfl
      · exact absurd hsecond (howned.unread party hauthorizing second ws hws)
    · obtain ⟨rfl, hws⟩ | hsecond := hreads second ws hsecond
      · exact absurd hfirst (howned.unread party hauthorizing first ws hws)
      · exact howned.distinct first second ws hfirst hsecond
  case single =>
    intro first second hfirst _
    exact absurd hfirst (hnone first)
  case unread =>
    intro other hother
    exact absurd hother (hnone other)

theorem Owned.step (howned : self.Owned) {label : Label} {next : System} (hseparate : self.Separate label)
    (hstep : self.step label = some next) : next.Owned := by
  cases label with
  | task step =>
    simp only [System.step, Option.map_eq_some_iff] at hstep
    obtain ⟨socket, hstep, rfl⟩ := hstep
    obtain hquiet | ⟨has_session, rfl, rfl⟩ | ⟨hloop, rfl, rfl⟩ := MercurySocket.step_quiet hstep
    · exact howned.quiet hquiet fun _ => id
    · refine howned.attach _ none ?_
      intro other hother
      cases other with
      | none => rfl
      | some call => exact absurd hother (hseparate rfl (some call))
    · refine howned.start_read_loop _ none hloop ?_
      intro other hother
      cases other with
      | none => cases hother
      | some call => exact ⟨nofun, hother⟩
  | connect =>
    obtain rfl := Option.some.inj hstep
    refine howned.quiet (.of_eq rfl rfl rfl rfl id) ?_
    intro call hcall
    obtain hold | ⟨-, heq⟩ := getElem?_concat_cases hcall
    · exact hold
    · cases heq
  | disconnect =>
    obtain rfl := Option.some.inj hstep
    obtain ⟨hquiet, hpc⟩ := MercurySocket.disconnect_quiet self.socket
    refine howned.quiet hquiet ?_
    intro call hcall
    obtain hold | ⟨-, heq⟩ := getElem?_concat_cases hcall
    · exact hold
    · exact absurd heq.symm hpc
  | call call ok has_session =>
    simp only [System.step, Option.map_eq_some_iff, Option.bind_eq_some_iff] at hstep
    obtain ⟨resumed, ⟨pc, hpc, hresume⟩, rfl⟩ := hstep
    obtain ⟨hquiet, hidle⟩ | ⟨rfl, rfl, rfl⟩ | ⟨rfl, rfl⟩ := MercurySocket.resume_quiet hresume
    · refine howned.quiet hquiet ?_
      intro other hother
      obtain ⟨-, heq⟩ | ⟨-, hold⟩ := getElem?_set_cases hother
      · exact absurd heq.symm hidle
      · exact hold
    · refine howned.attach self.socket.loop (some call) ?_
      have hnone := hseparate (by simp [opens, hpc])
      intro other hother
      cases other with
      | none => exact absurd hother (hnone none)
      | some other =>
        obtain ⟨rfl, -⟩ | ⟨-, hold⟩ := getElem?_set_cases hother
        · rfl
        · exact absurd hold (hnone (some other))
    · refine howned.start_read_loop self.socket.loop (some call) hpc ?_
      intro other hother
      cases other with
      | none => exact ⟨nofun, hother⟩
      | some other =>
        obtain ⟨-, heq⟩ | ⟨hne, hold⟩ := getElem?_set_cases hother
        · cases heq
        · exact ⟨fun heq => hne (Option.some.inj heq), hold⟩

end System

theorem init_owned (max_reconnect_attempts : Nat) : (system max_reconnect_attempts).init.Owned where
  ws_bound := nofun
  read_bound _ _ hreads := nomatch hreads.1
  distinct _ _ _ hfirst := nomatch hfirst.1
  single first _ hfirst := by cases first <;> cases hfirst
  unread party hparty := by cases party <;> cases hparty

theorem owned_of_separate {max_reconnect_attempts : Nat} {s : System}
    (hreach : (system max_reconnect_attempts).Reachable System.Separate s) : s.Owned := by
  refine hreach.invariant (init_owned max_reconnect_attempts) ?_
  intro s label next _ howned hseparate hstep
  exact howned.step hseparate hstep

/-- A read loop whose socket is no longer the one in `_ws` is inert in any state. If
    no socket is replaced while it is being authorized, then at most one read loop
    can affect the socket at any time. -/
theorem single_read_loop_of_separate {max_reconnect_attempts : Nat} {s : System}
    (hreach : (system max_reconnect_attempts).Reachable System.Separate s) :
    (∀ (read : Nat) (step : Step) (next : MercurySocket), step.reader = some read →
      (s.socket.reads read).owned_ws ≠ s.socket.ws → s.socket.step step = some next →
      MercurySocket.Inert read s.socket next) ∧
    ∀ first second, s.socket.CanAffect first → s.socket.CanAffect second → first = second := by
  constructor
  · intro read step next hreader hrotated hstep
    refine MercurySocket.step_rotated ?_ hreader hstep
    intro ws howned hws
    exact hrotated (howned.trans hws)
  · intro first second hfirst hsecond
    obtain ⟨ws, hws, hfirst⟩ := hfirst.reads
    obtain ⟨other, hother, hsecond⟩ := hsecond.reads
    obtain rfl : ws = other := Option.some.inj (hws.symm.trans hother)
    exact (owned_of_separate hreach).distinct first second ws hfirst hsecond

/-- A message with an event type that a read loop acts on is passed on. -/
theorem can_affect_of_envelope {self next : MercurySocket} {read : Nat}
    (hstep : self.step (.read read (.message .other .other) none) = some next)
    (hevents : next.events = self.events ++ [.envelope]) : self.CanAffect read := by
  refine ⟨_, next, rfl, hstep, ?_⟩
  rintro ⟨task, errors, herrors, rfl⟩
  have heq : errors = [.envelope] := List.append_cancel_left hevents
  have herror : Event.envelope = .connection_error := herrors _ (heq ▸ List.mem_singleton.mpr rfl)
  cases herror

/-- A connection is made, and the server shuts it down; the `_reconnect` loop opens
    and authorizes the next socket while the first one is still being read. -/
def rotation : List Label :=
  [.connect, .call 0 true true, .call 0 true true, .task (.read 0 (.message .other .ready) none), .call 0 true true,
    .task (.read 0 (.message .shutdown .absent) none), .task .run_reconnect, .task .wake,
    .task (.opened true true), .task (.authorized true)]

/-- `Separate` as a test on the calls made so far. -/
def System.separate (self : System) (label : Label) : Bool :=
  !self.opens label || (self.socket.loop != some .authorizing && !self.calls.contains .authorizing)

theorem System.separate_iff {self : System} {label : Label} (htest : self.separate label = true) :
    self.Separate label := by
  intro hopens party hparty
  simp only [System.separate, hopens, Bool.not_true, Bool.false_or, Bool.and_eq_true, bne_iff_ne, ne_eq,
    Bool.not_eq_true', List.contains_eq_mem, decide_eq_false_iff_not] at htest
  cases party with
  | none => exact htest.1 hparty
  | some call => exact htest.2 (List.mem_of_getElem? hparty)

/-- Both read loops are running after the rotation; only the new one has an effect. -/
theorem rotated_out_inert :
    ∃ s, (system 10).run (system 10).init rotation = some s ∧
      (s.socket.reads 0).pc = .reading ∧ s.socket.CanAffect 1 ∧ ¬ s.socket.CanAffect 0 := by
  refine ⟨_, rfl, rfl, can_affect_of_envelope rfl rfl, ?_⟩
  intro hstale
  have hreach : (system 10).Reachable System.Separate _ := Machine.Reachable.run .init rotation
    (.mono (fun _ _ => System.separate_iff) (.of_meets (by decide))) rfl
  have heq := (single_read_loop_of_separate hreach).2 0 1 hstale (can_affect_of_envelope rfl rfl)
  cases heq

/-- During the backoff sleep of the `_reconnect` loop the owner disconnects and
    connects again. The loop wakes up and both open a socket; each authorization ends
    with a read loop on the socket opened last. -/
theorem overlapping_connects_share_socket :
    ∃ s, (system 10).Reachable Machine.Always s ∧
      ∃ first second, first ≠ second ∧ s.socket.CanAffect first ∧ s.socket.CanAffect second := by
  refine ⟨_, Machine.Reachable.run .init
    [.connect, .call 0 true false, .call 0 true true, .task (.read 0 (.message .other .ready) none),
      .call 0 true true, .task (.socket_closed 0), .task (.read 0 .closed (some 1006)), .task .run_reconnect,
      .disconnect, .connect, .task .wake, .call 2 true false, .task (.opened true false),
      .call 2 true true, .task (.authorized true)]
    (Machine.meets_always _ _) rfl, 1, 2, by decide, ?_, ?_⟩
  · exact can_affect_of_envelope rfl rfl
  · exact can_affect_of_envelope rfl rfl

end webex.python.mercury_socket
