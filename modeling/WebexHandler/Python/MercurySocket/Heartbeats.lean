import WebexHandler.Python.MercurySocket.Calls
import WebexHandler.Python.MercurySocket.Hang

open transition

namespace webex.python.mercury_socket

/-- No ping is sent and no pong timer armed. -/
structure Heartbeat.Settles (before after : Heartbeat) : Prop where
  pings : ∀ ping, after.pings ping = .sending → before.pings ping = .sending
  armed : after.armed.Sublist before.armed
  next_pong : after.next_pong = before.next_pong

namespace Heartbeat

variable {self before after : Heartbeat}

theorem Settles.refl (self : Heartbeat) : Settles self self := ⟨fun _ => id, .refl _, rfl⟩

theorem Settles.trans {mid : Heartbeat} (hfirst : Settles before mid) (hsecond : Settles mid after) :
    Settles before after where
  pings ping hsending := hfirst.pings ping (hsecond.pings ping hsending)
  armed := hsecond.armed.trans hfirst.armed
  next_pong := hsecond.next_pong.trans hfirst.next_pong

theorem set_ping_settles {ping : Nat} {pc : PingPc} (hpc : pc ≠ .sending) : Settles self (self.set_ping ping pc) where
  pings other hsending := by
    by_cases heq : other = ping
    · simp only [set_ping, if_pos heq] at hsending
      exact absurd hsending hpc
    · simpa only [set_ping, if_neg heq] using hsending
  armed := .refl _
  next_pong := rfl

theorem cancel_pong_timeout_settles (self : Heartbeat) : Settles self self.cancel_pong_timeout := by
  simp only [cancel_pong_timeout]
  split
  · exact .refl self
  · exact ⟨fun _ => id, List.erase_sublist, rfl⟩

/-- The stored handle and the pending id may change. -/
theorem Settles.of_eq (hpings : after.pings = before.pings) (harmed : after.armed = before.armed)
    (hnext_pong : after.next_pong = before.next_pong) : Settles before after where
  pings _ hsending := hpings ▸ hsending
  armed := harmed ▸ .refl _
  next_pong := hnext_pong

theorem stop_ping_loop_settles (self : Heartbeat) : Settles self self.stop_ping_loop := by
  have hcancelled : ∀ stopped : Heartbeat, Settles self stopped →
      Settles self { stopped.cancel_pong_timeout with pending_pong_id := none } := by
    intro stopped hstopped
    have hcancel := hstopped.trans (cancel_pong_timeout_settles stopped)
    exact hcancel.trans (.of_eq rfl rfl rfl)
  simp only [stop_ping_loop]
  apply hcancelled
  split
  · split
    · exact .refl self
    · rename_i ping _ _
      have hset : Settles self (self.set_ping ping .done) := set_ping_settles nofun
      exact hset.trans (.of_eq rfl rfl rfl)
  · exact .refl self

theorem start_ping_loop_settles (self : Heartbeat) : Settles self self.start_ping_loop := by
  have hset : Settles self (self.set_ping self.next_ping .sleeping) := set_ping_settles nofun
  exact hset.trans (.of_eq rfl rfl rfl)

theorem handle_pong_settles (self : Heartbeat) (id : Nat) : Settles self (self.handle_pong id) := by
  simp only [handle_pong]
  split
  · have hcleared : Settles self { self with pending_pong_id := none } := .of_eq rfl rfl rfl
    exact hcleared.trans (cancel_pong_timeout_settles _)
  · exact .refl self

/-- The pong of the pending ping cancels the timer whose handle is stored. -/
theorem handle_pong_cancels {id timer : Nat} (hpending : self.pending_pong_id = some id)
    (hhandle : self.pong_timeout_handle = some timer) (hdistinct : self.armed.Nodup) :
    timer ∉ (self.handle_pong id).armed := by
  simp only [handle_pong, if_pos hpending, cancel_pong_timeout, hhandle]
  exact hdistinct.not_mem_erase

end Heartbeat

namespace MercurySocket

/-- Nor does a pong-timeout task come or go. -/
structure Settles (before after : MercurySocket) : Prop where
  heartbeat : before.heartbeat.Settles after.heartbeat
  pongs : after.pongs = before.pongs

variable {self before after : MercurySocket}

theorem Settles.refl (self : MercurySocket) : Settles self self := ⟨.refl _, rfl⟩

theorem Settles.trans {mid : MercurySocket} (hfirst : Settles before mid) (hsecond : Settles mid after) :
    Settles before after :=
  ⟨hfirst.heartbeat.trans hsecond.heartbeat, hsecond.pongs.trans hfirst.pongs⟩

/-- Fields outside the two play no part. -/
theorem Settles.of_eq (hheartbeat : after.heartbeat = before.heartbeat) (hpongs : after.pongs = before.pongs) :
    Settles before after :=
  ⟨hheartbeat ▸ .refl _, hpongs⟩

theorem stop_ping_loop_settles (self : MercurySocket) : Settles self self.stop_ping_loop :=
  ⟨self.heartbeat.stop_ping_loop_settles, rfl⟩

theorem handle_message_settles (type : MessageType) (event_type : EventType) :
    Settles self (self.handle_message type event_type) := by
  obtain ⟨acks, ⟨pong_id, heq⟩ | heq | heq | heq⟩ := self.handle_message_cases type event_type
  · exact heq ▸ ⟨self.heartbeat.handle_pong_settles _, rfl⟩
  all_goals exact heq ▸ .of_eq rfl rfl

theorem handle_close_settles (code : Nat) : Settles self (self.handle_close code) := by
  refine self.stop_ping_loop_settles.trans ?_
  simp only [handle_close]
  split
  · exact .of_eq rfl rfl
  · split
    · exact .of_eq rfl rfl
    · split <;> exact .of_eq rfl rfl

theorem read_tail_settles (read : Nat) (close_code : Option Nat) : Settles self (self.read_tail read close_code) := by
  simp only [read_tail]
  split
  · split <;> exact .of_eq rfl rfl
  · have hended : Settles self (self.set_read read { self.reads read with pc := .done }) := .of_eq rfl rfl
    exact hended.trans (handle_close_settles _)

theorem read_failed_settles (read : Nat) : Settles self (self.read_failed read) := by
  simp only [read_failed]
  split <;> exact .of_eq rfl rfl

theorem read_ready_settles (read : Nat) (event_type : EventType) (close_code : Option Nat) :
    Settles self (self.read_ready read event_type close_code) := by
  simp only [read_ready]
  split
  · exact .refl self
  · split
    · exact ⟨self.heartbeat.start_ping_loop_settles, rfl⟩
    · exact .refl self
    · exact (read_failed_settles read).trans (read_tail_settles read close_code)

theorem read_item_settles (read : Nat) (item : Item) (close_code : Option Nat) :
    Settles self (self.read_item read item close_code) := by
  have hfailed : Settles self ((self.read_failed read).read_tail read close_code) :=
    (read_failed_settles read).trans (read_tail_settles read close_code)
  simp only [read_item]
  cases (self.reads read).owned_ws with
  | none => exact .of_eq rfl rfl
  | some ws =>
    cases item with
    | raised => exact hfailed
    | ended | closed => exact read_tail_settles read close_code
    | error =>
      dsimp only
      split
      · exact read_tail_settles read close_code
      · exact hfailed
    | message type event_type =>
      dsimp only
      split
      · exact read_tail_settles read close_code
      · exact (handle_message_settles type event_type).trans (read_ready_settles read event_type close_code)
    | other =>
      dsimp only
      split
      · exact read_tail_settles read close_code
      · exact .refl self

/-- A pong that the current socket's loop reads is handled before anything else happens. -/
theorem read_pong_settles {read : Nat} (howned : (self.reads read).owned_ws.isSome = true)
    (hcurrent : (self.reads read).owned_ws = self.ws) (id : Nat) (event_type : EventType) (close_code : Option Nat) :
    Settles (self.handle_pong id) (self.read_item read (.message (.pong id) event_type) close_code) := by
  obtain ⟨ws, hws⟩ := Option.isSome_iff_exists.mp howned
  have hsame : ¬ some ws ≠ self.ws := not_not.mpr (hws.symm.trans hcurrent)
  simp only [read_item, hws, if_neg hsame]
  exact read_ready_settles read event_type close_code

theorem Closes.settles {cleared : Bool} {closed : MercurySocket × CloseStatus} (hcloses : self.Closes cleared closed) :
    Settles self closed.1 := by
  obtain ⟨session_open, ws_closed, ws, heq, -⟩ := hcloses
  rw [heq]
  exact .of_eq rfl rfl

theorem close_websocket_settles (self : MercurySocket) : Settles self self.close_websocket.1 := by
  have hcloses : self.Closes true self.close_websocket := close_websocket_closes fun _ _ _ _ => rfl
  exact hcloses.settles

theorem close_websocket_resume_settles (self : MercurySocket) (pc : ClosePc) (ok : Bool) :
    Settles self (self.close_websocket_resume pc ok).1 := by
  have hcloses : self.Closes true (self.close_websocket_resume pc ok) :=
    close_websocket_resume_closes (fun _ _ _ _ _ _ => rfl) (fun _ _ _ _ _ => rfl)
  exact hcloses.settles

theorem reconnect_head_settles (self : MercurySocket) : Settles self self.reconnect_head := by
  simp only [reconnect_head]
  split
  · exact .of_eq rfl rfl
  · split <;> exact .of_eq rfl rfl

theorem reconnect_settles (self : MercurySocket) : Settles self self.reconnect := by
  simp only [reconnect]
  split
  · exact .refl self
  · have hguarded : Settles self { self with reconnecting := true } := .of_eq rfl rfl
    exact hguarded.trans (reconnect_head_settles _)

theorem cleanup_continue_settles {closed : MercurySocket × CloseStatus} (hclosed : Settles before closed.1) :
    Settles before (cleanup_continue closed) := by
  obtain ⟨closed, status⟩ := closed
  cases status with
  | suspended pc => exact hclosed.trans (.of_eq rfl rfl)
  | finished =>
    have hcleared : Settles closed { closed with ws := none } := .of_eq rfl rfl
    exact hclosed.trans (hcleared.trans (reconnect_head_settles _))
  | raised => exact hclosed.trans (reconnect_head_settles closed)

theorem cleanup_ws_settles (self : MercurySocket) : Settles self self.cleanup_ws := by
  have hclosed := self.stop_ping_loop_settles.trans (close_websocket_settles self.stop_ping_loop)
  simp only [cleanup_ws]
  split
  · split
    · exact cleanup_continue_settles hclosed
    · exact self.stop_ping_loop_settles.trans (.of_eq rfl rfl)
  · exact cleanup_continue_settles hclosed

theorem connect_continue_settles {closed : MercurySocket × CloseStatus} (hclosed : Settles before closed.1) :
    Settles before (connect_continue closed).1 := by
  obtain ⟨closed, status⟩ := closed
  cases status with
  | suspended pc => exact hclosed
  | finished => exact hclosed.trans (.of_eq rfl rfl)
  | raised => exact hclosed

theorem connect_cleanup_settles (self : MercurySocket) : Settles self self.connect_cleanup.1 := by
  have hclosed := self.stop_ping_loop_settles.trans (close_websocket_settles self.stop_ping_loop)
  simp only [connect_cleanup]
  split
  · split
    · exact connect_continue_settles hclosed
    · exact self.stop_ping_loop_settles.trans (.of_eq rfl rfl)
  · exact connect_continue_settles hclosed

theorem disconnect_continue_settles {closed : MercurySocket × CloseStatus} (hclosed : Settles before closed.1) :
    Settles before (disconnect_continue closed).1 := by
  obtain ⟨closed, status⟩ := closed
  cases status with
  | suspended pc => exact hclosed
  | finished => exact hclosed.trans (.of_eq rfl rfl)
  | raised => exact hclosed

theorem disconnect_settles (self : MercurySocket) : Settles self self.disconnect.1 := by
  have hstopped : Settles self { self with should_reconnect := false }.stop_ping_loop.cancel_stability_timer :=
    ⟨self.heartbeat.stop_ping_loop_settles, rfl⟩
  have hclosed := hstopped.trans (close_websocket_settles _)
  simp only [disconnect]
  split
  · split
    · exact disconnect_continue_settles hclosed
    · exact hstopped.trans (.of_eq rfl rfl)
  · exact disconnect_continue_settles hclosed

theorem resume_settles {pc : CallPc} {ok has_session : Bool} {resumed : MercurySocket × CallPc}
    (hresume : self.resume pc ok has_session = some resumed) : Settles self resumed.1 := by
  cases pc with
  | opening =>
    obtain rfl := Option.some.inj hresume
    cases ok with
    | true => exact .of_eq rfl rfl
    | false => exact .refl self
  | authorizing =>
    obtain rfl := Option.some.inj hresume
    cases ok with
    | true => exact .of_eq rfl rfl
    | false => exact .refl self
  | awaiting_ready read =>
    simp only [resume] at hresume
    split at hresume
    · exact Option.some.inj hresume ▸ connect_cleanup_settles self
    · simp only [Option.ite_none_right_eq_some, Option.some.injEq, connect_resumed] at hresume
      obtain ⟨-, rfl⟩ := hresume
      split
      · exact connect_cleanup_settles self
      · exact .refl self
  | cleanup_read => exact Option.some.inj hresume ▸ connect_continue_settles (close_websocket_settles self)
  | cleanup_close pc =>
    exact Option.some.inj hresume ▸ connect_continue_settles (close_websocket_resume_settles self pc ok)
  | disconnect_read => exact Option.some.inj hresume ▸ disconnect_continue_settles (close_websocket_settles self)
  | disconnect_close pc =>
    exact Option.some.inj hresume ▸ disconnect_continue_settles (close_websocket_resume_settles self pc ok)
  | done => cases hresume

/-- The steps that send no ping, arm no timer and run no pong-timeout task. -/
def calm : Step → Bool
  | .ping_wake _ | .ping_sent _ true | .pong_timer _ | .run_pong_timeout _ | .pong_resumed _ _ => false
  | _ => true

theorem step_settles {step : Step} {next : MercurySocket} (hcalm : calm step = true)
    (hstep : self.step step = some next) : Settles self next := by
  cases step with
  | read read item close_code =>
    simp only [MercurySocket.step, Option.ite_none_right_eq_some, Option.some.injEq] at hstep
    exact hstep.2 ▸ read_item_settles read item close_code
  | read_session_closed read =>
    simp only [MercurySocket.step, Option.ite_none_right_eq_some, Option.some.injEq] at hstep
    exact hstep.2 ▸ .of_eq rfl rfl
  | socket_closed ws => exact Option.some.inj hstep ▸ .of_eq rfl rfl
  | run_reconnect =>
    simp only [MercurySocket.step, Option.ite_none_right_eq_some, Option.some.injEq] at hstep
    have hstarted : Settles self { self with scheduled := self.scheduled - 1 } := .of_eq rfl rfl
    exact hstep.2 ▸ hstarted.trans (reconnect_settles _)
  | wake =>
    simp only [MercurySocket.step, Option.ite_none_right_eq_some] at hstep
    obtain ⟨-, hstep⟩ := hstep
    split at hstep
    · exact Option.some.inj hstep ▸ .of_eq rfl rfl
    · exact Option.some.inj hstep ▸ .of_eq rfl rfl
  | opened ok has_session =>
    simp only [MercurySocket.step, Option.ite_none_right_eq_some, Option.some.injEq, opened_eq] at hstep
    obtain ⟨-, rfl⟩ := hstep
    cases ok with
    | true => exact .of_eq rfl rfl
    | false => exact reconnect_head_settles self
  | authorized ok =>
    simp only [MercurySocket.step, Option.ite_none_right_eq_some, Option.some.injEq, authorized_eq] at hstep
    obtain ⟨-, rfl⟩ := hstep
    cases ok with
    | true => exact .of_eq rfl rfl
    | false => exact reconnect_head_settles self
  | resumed =>
    simp only [MercurySocket.step] at hstep
    split at hstep
    · simp only [Option.ite_none_right_eq_some, Option.some.injEq, MercurySocket.resumed] at hstep
      obtain ⟨-, rfl⟩ := hstep
      split
      · exact cleanup_ws_settles self
      · exact .of_eq rfl rfl
    · cases hstep
  | ready_timeout =>
    simp only [MercurySocket.step] at hstep
    split at hstep
    · exact Option.some.inj hstep ▸ cleanup_ws_settles self
    · cases hstep
  | read_cancelled =>
    simp only [MercurySocket.step, Option.ite_none_right_eq_some, Option.some.injEq] at hstep
    exact hstep.2 ▸ cleanup_continue_settles (close_websocket_settles self)
  | cleanup_resumed ok =>
    simp only [MercurySocket.step] at hstep
    split at hstep
    · exact Option.some.inj hstep ▸ cleanup_continue_settles (close_websocket_resume_settles self _ ok)
    · cases hstep
  | ping_sent ping ok =>
    cases ok with
    | true => cases hcalm
    | false =>
      simp only [MercurySocket.step, Option.ite_none_right_eq_some, Option.some.injEq] at hstep
      obtain ⟨-, rfl⟩ := hstep
      exact ⟨Heartbeat.set_ping_settles (by simp), rfl⟩
  | stability_timer =>
    simp only [MercurySocket.step, Option.ite_none_right_eq_some, Option.some.injEq] at hstep
    obtain ⟨-, rfl⟩ := hstep
    exact .of_eq rfl rfl
  | ping_wake | pong_timer | run_pong_timeout | pong_resumed => cases hcalm

end MercurySocket

end webex.python.mercury_socket
