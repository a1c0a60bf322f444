import WebexHandler.Node.MercurySocket.Socket

open json

namespace webex.node.mercury_socket

def Timer.is_reconnect (timer : Timer) : Bool := timer.task == .reconnect

def Event.is_reconnecting : Event → Bool
  | .reconnecting _ => true
  | _ => false

namespace MercurySocket

/-- The number of pending reconnect timers. -/
def reconnect_timers (self : MercurySocket) : Nat := self.timers.countP Timer.is_reconnect

/-- How often the socket has counted an attempt, which it announces each time. -/
def increments (self : MercurySocket) : Nat := self.emitted.countP Event.is_reconnecting

/-- A part of a step that concerns neither the sockets nor a reconnect. -/
structure Calm (before after : MercurySocket) : Prop where
  ws : after.ws = before.ws
  connection_ready : after.connection_ready = before.connection_ready
  should_reconnect : after.should_reconnect = before.should_reconnect
  reconnect_attempts : after.reconnect_attempts = before.reconnect_attempts
  max_reconnect_attempts : after.max_reconnect_attempts = before.max_reconnect_attempts
  base_url : after.base_url = before.base_url
  attempts : after.attempts = before.attempts
  reactions : after.reactions = before.reactions
  reconnect_timers : after.reconnect_timers ≤ before.reconnect_timers
  increments : after.increments = before.increments
  emitted : before.emitted ⊆ after.emitted

theorem Calm.refl (self : MercurySocket) : Calm self self :=
  ⟨rfl, rfl, rfl, rfl, rfl, rfl, rfl, rfl, Nat.le_refl _, rfl, List.Subset.refl _⟩

theorem Calm.trans {self self' self'' : MercurySocket} (h : Calm self self') (h' : Calm self' self'') : Calm self self'' where
  ws := h'.ws.trans h.ws
  connection_ready := h'.connection_ready.trans h.connection_ready
  should_reconnect := h'.should_reconnect.trans h.should_reconnect
  reconnect_attempts := h'.reconnect_attempts.trans h.reconnect_attempts
  max_reconnect_attempts := h'.max_reconnect_attempts.trans h.max_reconnect_attempts
  base_url := h'.base_url.trans h.base_url
  attempts := h'.attempts.trans h.attempts
  reactions := h'.reactions.trans h.reactions
  reconnect_timers := Nat.le_trans h'.reconnect_timers h.reconnect_timers
  increments := h'.increments.trans h.increments
  emitted := List.Subset.trans h.emitted h'.emitted

section calm

variable (self : MercurySocket)

theorem calm_emit {event : Event} (hevent : event.is_reconnecting = false) : Calm self (self.emit event) where
  ws := rfl
  connection_ready := rfl
  should_reconnect := rfl
  reconnect_attempts := rfl
  max_reconnect_attempts := rfl
  base_url := rfl
  attempts := rfl
  reactions := rfl
  reconnect_timers := Nat.le_refl _
  increments := by simp [MercurySocket.increments, emit, hevent]
  emitted := List.subset_append_left _ _

theorem calm_clear_timer (handle : Option Nat) : Calm self (self.clear_timer handle) where
  ws := rfl
  connection_ready := rfl
  should_reconnect := rfl
  reconnect_attempts := rfl
  max_reconnect_attempts := rfl
  base_url := rfl
  attempts := rfl
  reactions := rfl
  reconnect_timers := List.Sublist.countP_le List.filter_sublist
  increments := rfl
  emitted := List.Subset.refl _

theorem calm_set_timer (task : TimerTask) (htask : task ≠ .reconnect) (delay : Nat) :
    Calm self (self.set_timer task delay) where
  ws := rfl
  connection_ready := rfl
  should_reconnect := rfl
  reconnect_attempts := rfl
  max_reconnect_attempts := rfl
  base_url := rfl
  attempts := rfl
  reactions := rfl
  reconnect_timers := by simp [MercurySocket.reconnect_timers, set_timer, Timer.is_reconnect, htask]
  increments := rfl
  emitted := List.Subset.refl _

theorem calm_cancel_stability_timer : Calm self self.cancel_stability_timer :=
  { calm_clear_timer self self.stability_timer_handle with }

theorem calm_stop_ping_loop : Calm self self.stop_ping_loop :=
  { (calm_clear_timer self self.ping_interval_handle).trans (calm_clear_timer _ self.pong_timeout_handle) with }

theorem calm_start_ping_loop : Calm self self.start_ping_loop :=
  { calm_set_timer self .ping nofun self.ping_interval with }

theorem calm_schedule_attempts_reset : Calm self self.schedule_attempts_reset :=
  { (calm_cancel_stability_timer self).trans
      (calm_set_timer _ .stability nofun self.reconnect_stability_window) with }

theorem calm_handle_pong (message : Value) : Calm self (self.handle_pong message) := by
  unfold handle_pong
  split
  · split
    · exact { calm_clear_timer self self.pong_timeout_handle with }
    · exact Calm.refl self
  · exact Calm.refl self

theorem calm_send (socket : Nat) (frame : Frame) : Calm self (self.send socket frame) :=
  { Calm.refl self with }

theorem calm_handle_activity_envelope (message data event_type : Value) :
    Calm self (self.handle_activity_envelope message data event_type) := by
  unfold handle_activity_envelope
  extract_lets acked
  have hacked : Calm self acked := by
    simp only [acked]
    split
    · exact calm_send self _ _
    · exact Calm.refl self
  split
  · split
    · exact hacked.trans (calm_emit _ rfl)
    · split
      · split
        · exact hacked.trans (calm_emit _ rfl)
        · exact hacked
      · exact hacked
  · exact hacked

end calm

/-- A reconnect is scheduled: the attempt is counted and announced, and its timer set. -/
structure Schedules (before after : MercurySocket) : Prop where
  ws : after.ws = before.ws
  connection_ready : after.connection_ready = before.connection_ready
  should_reconnect : after.should_reconnect = before.should_reconnect
  max_reconnect_attempts : after.max_reconnect_attempts = before.max_reconnect_attempts
  attempts : after.attempts = before.attempts
  reactions : after.reactions = before.reactions
  reconnect_timers : after.reconnect_timers = before.reconnect_timers + 1
  increments : after.increments = before.increments + 1
  reconnect_attempts : after.reconnect_attempts = before.reconnect_attempts + 1
  emitted : before.emitted ⊆ after.emitted

/-- The socket wants to reconnect and has an attempt left. -/
def CanReconnect (self : MercurySocket) : Prop :=
  self.should_reconnect = true ∧ self.reconnect_attempts < self.max_reconnect_attempts

theorem reconnect_schedules {self : MercurySocket} (hcan : self.CanReconnect) : Schedules self self.reconnect := by
  unfold reconnect
  rw [if_neg (by simp [hcan.1]), if_neg (Nat.not_le_of_lt hcan.2)]
  exact {
    ws := rfl
    connection_ready := rfl
    should_reconnect := rfl
    max_reconnect_attempts := rfl
    attempts := rfl
    reactions := rfl
    reconnect_timers := by simp [reconnect_timers, set_timer, emit, Timer.is_reconnect]
    increments := by simp [increments, set_timer, emit, Event.is_reconnecting]
    reconnect_attempts := rfl
    emitted := List.subset_append_left _ _ }

theorem reconnect_of_stopped {self : MercurySocket} (hstopped : self.should_reconnect = false) : self.reconnect = self :=
  if_pos hstopped

/-- What no `_reconnect` changes, whether it schedules one or gives up. -/
structure SameSockets (before after : MercurySocket) : Prop where
  ws : after.ws = before.ws
  connection_ready : after.connection_ready = before.connection_ready
  attempts : after.attempts = before.attempts
  reactions : after.reactions = before.reactions
  emitted : before.emitted ⊆ after.emitted

theorem Calm.same_sockets {self self' : MercurySocket} (hcalm : Calm self self') : SameSockets self self' :=
  ⟨hcalm.ws, hcalm.connection_ready, hcalm.attempts, hcalm.reactions, hcalm.emitted⟩

theorem SameSockets.trans {self self' self'' : MercurySocket} (h : SameSockets self self') (h' : SameSockets self' self'') :
    SameSockets self self'' :=
  ⟨h'.ws.trans h.ws, h'.connection_ready.trans h.connection_ready, h'.attempts.trans h.attempts,
    h'.reactions.trans h.reactions, List.Subset.trans h.emitted h'.emitted⟩

theorem reconnect_same_sockets (self : MercurySocket) : SameSockets self self.reconnect := by
  unfold reconnect
  split
  · exact (Calm.refl self).same_sockets
  · split
    · exact ⟨rfl, rfl, rfl, rfl, List.subset_append_left _ _⟩
    · exact ⟨rfl, rfl, rfl, rfl, List.subset_append_left _ _⟩

/-- Messages other than a shutdown are calm. -/
def announces_shutdown (message : Value) : Bool :=
  (message.get "type").bind Value.as_str == some "shutdown" &&
    ((((message.get "data").getD .null).get "eventType").filter kms_client.truthy).isNone

theorem handle_message_calm {self : MercurySocket} {message : Value} (hmessage : announces_shutdown message = false) :
    Calm self (self.handle_message message) := by
  unfold handle_message
  dsimp only
  split
  · exact calm_handle_pong self message
  · split
    · exact calm_handle_activity_envelope self _ _ _
    · rename_i hnone
      split
      · rename_i hshutdown
        simp [announces_shutdown, hshutdown, hnone] at hmessage
      · exact Calm.refl self

theorem handle_message_shutdown {self : MercurySocket} {message : Value} (hmessage : announces_shutdown message = true) :
    self.handle_message message = self.reconnect := by
  simp only [announces_shutdown, Bool.and_eq_true, beq_iff_eq, Option.isNone_iff_eq_none] at hmessage
  unfold handle_message
  dsimp only
  rw [if_neg (by rw [hmessage.1]; simp), hmessage.2]
  simp only [hmessage.1, if_true]
  rfl

theorem handle_message_same_sockets (self : MercurySocket) (message : Value) :
    SameSockets self (self.handle_message message) := by
  cases hmessage : announces_shutdown message with
  | false => exact (handle_message_calm hmessage).same_sockets
  | true =>
    rw [handle_message_shutdown hmessage]
    exact reconnect_same_sockets self

theorem settle_of_pending {self : MercurySocket} {i : Nat} {attempt : Attempt} (hattempt : self.attempts[i]? = some attempt)
    (hpending : attempt.promise = .pending) (outcome : Promise) :
    self.settle i outcome = { self with
      attempts := self.attempts.modify i fun attempt => { attempt with promise := outcome }
      reactions := if attempt.origin = .reconnect then self.reactions ++ [i] else self.reactions } := by
  obtain ⟨origin, ready_state, settled, promise, delivered_ready⟩ := attempt
  obtain rfl : promise = .pending := hpending
  unfold settle
  rw [hattempt]
  cases origin with
  | connect => rfl
  | reconnect => rfl

theorem settle_of_settled {self : MercurySocket} {i : Nat}
    (hsettled : ∀ attempt, self.attempts[i]? = some attempt → attempt.promise ≠ .pending) (outcome : Promise) :
    self.settle i outcome = self := by
  unfold settle
  split
  · rename_i hattempt
    exact absurd rfl (hsettled _ hattempt)
  · rfl

/-- An attempt after one of them was changed. -/
theorem getElem?_modify_cases {attempts : List Attempt} {f : Attempt → Attempt} {i j : Nat} {attempt : Attempt}
    (hget : (attempts.modify i f)[j]? = some attempt) :
    ∃ before, attempts[j]? = some before ∧ attempt = if i = j then f before else before := by
  rw [List.getElem?_modify, Option.map_eq_map, Option.map_eq_some_iff] at hget
  obtain ⟨before, hbefore, rfl⟩ := hget
  exact ⟨before, hbefore, rfl⟩

theorem close_websocket_eq (self : MercurySocket) :
    self.close_websocket = self ∨ ∃ i, self.close_websocket =
      self.update_attempt i fun attempt => { attempt with ready_state := .closing } := by
  unfold close_websocket
  split
  · rename_i socket _
    exact .inr ⟨socket, rfl⟩
  · exact .inl rfl

end MercurySocket

end webex.node.mercury_socket
