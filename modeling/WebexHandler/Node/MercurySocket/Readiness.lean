import WebexHandler.Interaction.Pool
import WebexHandler.Node.MercurySocket.Steps

open json transition

namespace webex.node.mercury_socket

/-- Readiness belongs to the socket in `ws`. The promise of an attempt is resolved as soon
    as its socket has delivered a message that signals readiness, and then `connected` is
    emitted for a reconnect, or will be by its queued reaction. -/
structure Attuned (s : MercurySocket) : Prop where
  ready : s.connection_ready = true →
    ∃ (i : Nat) (attempt : Attempt), s.ws = some i ∧ s.attempts[i]? = some attempt ∧ attempt.delivered_ready = true
  resolved : ∀ (i : Nat) (attempt : Attempt), s.attempts[i]? = some attempt → attempt.delivered_ready = true →
    attempt.promise = .resolved
  announced : ∀ (i : Nat) (attempt : Attempt), s.attempts[i]? = some attempt → attempt.origin = .reconnect →
    attempt.promise = .resolved → i ∈ s.reactions ∨ .connected i ∈ s.emitted

/-- The message in a frame, unless the frame is dropped. -/
def received (builtins : Builtins) (raw_data : String) : Option Value :=
  if MAX_MESSAGE_LENGTH < length raw_data then none else builtins.parse_json raw_data

/-- A socket is created only while none is ready, and readiness is signalled by the socket
    in `ws`, whose attempt has not failed, or again by one whose attempt has succeeded. -/
def Uncrossed (builtins : Builtins) (self : MercurySocket) : Label → Prop
  | .connect url _ now factory =>
    MercurySocket.create_socket builtins url now factory = .ok () → self.connection_ready = false
  | .timer id now factory => ∀ timer, self.timers.find? (·.id == id) = some timer → timer.task = .reconnect →
      self.should_reconnect = true → MercurySocket.create_socket builtins self.base_url now factory = .ok () →
      self.connection_ready = false
  | .message i raw_data => ∀ message, received builtins raw_data = some message → is_connection_ready message = true →
      ∃ attempt, self.attempts[i]? = some attempt ∧ ((self.ws = some i ∧ ∀ reason, attempt.promise ≠ .rejected reason) ∨
        (self.connection_ready = true ∧ attempt.promise = .resolved))
  | _ => True

namespace Attuned

variable {self self' : MercurySocket} {builtins : Builtins} {i : Nat}

theorem same_sockets (hattuned : Attuned self) (hsame : MercurySocket.SameSockets self self') : Attuned self' where
  ready := by
    rw [hsame.connection_ready, hsame.ws, hsame.attempts]
    exact hattuned.ready
  resolved := by
    rw [hsame.attempts]
    exact hattuned.resolved
  announced := by
    rw [hsame.attempts, hsame.reactions]
    intro i attempt hattempt horigin hresolved
    exact (hattuned.announced i attempt hattempt horigin hresolved).imp_right fun hmem => hsame.emitted hmem

theorem unready (hattuned : Attuned self) (ws : Option Nat) : Attuned { self with ws := ws, connection_ready := false } :=
  ⟨nofun, hattuned.resolved, hattuned.announced⟩

/-- A change of an attempt that concerns neither its promise nor what its socket has
    delivered. -/
theorem update_attempt (hattuned : Attuned self) {f : Attempt → Attempt}
    (hf : ∀ attempt, (f attempt).origin = attempt.origin ∧ (f attempt).promise = attempt.promise ∧
      (f attempt).delivered_ready = attempt.delivered_ready) : Attuned (self.update_attempt i f) where
  ready := by
    intro hready
    obtain ⟨j, attempt, hws, hattempt, hdelivered⟩ := hattuned.ready hready
    refine ⟨j, if i = j then f attempt else attempt, hws, ?_, ?_⟩
    · simp [MercurySocket.update_attempt, List.getElem?_modify, hattempt]
    · split
      · rw [(hf attempt).2.2, hdelivered]
      · exact hdelivered
  resolved := by
    intro j after hafter hdelivered
    obtain ⟨attempt, hattempt, rfl⟩ := MercurySocket.getElem?_modify_cases hafter
    split at hdelivered
    · rename_i heq
      rw [if_pos heq, (hf attempt).2.1]
      exact hattuned.resolved j attempt hattempt ((hf attempt).2.2 ▸ hdelivered)
    · rename_i hne
      rw [if_neg hne]
      exact hattuned.resolved j attempt hattempt hdelivered
  announced := by
    intro j after hafter horigin hresolved
    obtain ⟨attempt, hattempt, rfl⟩ := MercurySocket.getElem?_modify_cases hafter
    split at horigin
    · rename_i heq
      rw [if_pos heq, (hf attempt).2.1] at hresolved
      exact hattuned.announced j attempt hattempt ((hf attempt).1 ▸ horigin) hresolved
    · rename_i hne
      rw [if_neg hne] at hresolved
      exact hattuned.announced j attempt hattempt horigin hresolved

theorem close_websocket (hattuned : Attuned self) : Attuned self.close_websocket := by
  obtain heq | ⟨i, heq⟩ := self.close_websocket_eq
  · rw [heq]
    exact hattuned
  · rw [heq]
    exact hattuned.update_attempt fun _ => ⟨rfl, rfl, rfl⟩

/-- The socket of a pending attempt has not delivered a message that signals readiness. -/
theorem settle (hattuned : Attuned self) (i : Nat) (outcome : Promise) : Attuned (self.settle i outcome) := by
  by_cases hpending : ∃ attempt, self.attempts[i]? = some attempt ∧ attempt.promise = .pending
  · obtain ⟨attempt, hattempt, hpending⟩ := hpending
    have hundelivered : ¬ attempt.delivered_ready = true := by
      intro hdelivered
      have hresolved := hattuned.resolved i attempt hattempt hdelivered
      rw [hpending] at hresolved
      cases hresolved
    rw [MercurySocket.settle_of_pending hattempt hpending]
    refine ⟨?_, ?_, ?_⟩
    · intro hready
      obtain ⟨j, other, hws, hother, hdelivered⟩ := hattuned.ready hready
      have hne : i ≠ j := by
        rintro rfl
        rw [hattempt, Option.some.injEq] at hother
        exact hundelivered (hother ▸ hdelivered)
      refine ⟨j, other, hws, ?_, hdelivered⟩
      simp [hother, hne]
    · intro j after hafter hdelivered
      obtain ⟨other, hother, rfl⟩ := MercurySocket.getElem?_modify_cases hafter
      by_cases heq : i = j
      · subst heq
        rw [hattempt, Option.some.injEq] at hother
        subst hother
        rw [if_pos rfl] at hdelivered
        exact absurd hdelivered hundelivered
      · rw [if_neg heq] at hdelivered ⊢
        exact hattuned.resolved j other hother hdelivered
    · intro j after hafter horigin hresolved
      obtain ⟨other, hother, rfl⟩ := MercurySocket.getElem?_modify_cases hafter
      by_cases heq : i = j
      · subst heq
        rw [hattempt, Option.some.injEq] at hother
        subst hother
        rw [if_pos rfl] at horigin
        left
        simp [show attempt.origin = .reconnect from horigin]
      · rw [if_neg heq] at horigin hresolved
        refine (hattuned.announced j other hother horigin hresolved).imp_left fun hmem => ?_
        dsimp only
        split
        · exact List.mem_append_left _ hmem
        · exact hmem
  · have hsettled : ∀ attempt, self.attempts[i]? = some attempt → attempt.promise ≠ .pending := by
      intro attempt hattempt heq
      exact hpending ⟨attempt, hattempt, heq⟩
    rw [MercurySocket.settle_of_settled hsettled]
    exact hattuned

/-- The socket of a successful attempt delivers a message that signals readiness. -/
theorem mark_delivered (hattuned : Attuned self) {attempt : Attempt} (hattempt : self.attempts[i]? = some attempt)
    (hresolved : attempt.promise = .resolved) :
    Attuned (self.update_attempt i fun attempt => { attempt with delivered_ready := true }) where
  ready := by
    intro hready
    obtain ⟨j, other, hws, hother, hdelivered⟩ := hattuned.ready hready
    refine ⟨j, if i = j then { other with delivered_ready := true } else other, hws, ?_, ?_⟩
    · simp [MercurySocket.update_attempt, List.getElem?_modify, hother]
    · split
      · rfl
      · exact hdelivered
  resolved := by
    intro j after hafter hdelivered
    obtain ⟨other, hother, rfl⟩ := MercurySocket.getElem?_modify_cases hafter
    by_cases heq : i = j
    · subst heq
      rw [hattempt, Option.some.injEq] at hother
      subst hother
      rw [if_pos rfl]
      exact hresolved
    · rw [if_neg heq] at hdelivered ⊢
      exact hattuned.resolved j other hother hdelivered
  announced := by
    intro j after hafter horigin hresolved
    obtain ⟨other, hother, rfl⟩ := MercurySocket.getElem?_modify_cases hafter
    apply hattuned.announced j other hother
    · split at horigin
      · exact horigin
      · exact horigin
    · split at hresolved
      · exact hresolved
      · exact hresolved

theorem push_attempt (hattuned : Attuned self) (origin : Origin) (ready_state : ReadyState) (ws : Option Nat)
    (hws : ws ≠ self.ws → self.connection_ready = false) :
    Attuned (self.push_attempt { origin := origin, ready_state := ready_state } ws) where
  ready := by
    intro hready
    by_cases hsame : ws = self.ws
    · obtain ⟨j, attempt, hcurrent, hattempt, hdelivered⟩ := hattuned.ready hready
      refine ⟨j, attempt, hsame.trans hcurrent, ?_, hdelivered⟩
      obtain ⟨hlt, -⟩ := List.getElem?_eq_some_iff.mp hattempt
      exact (List.getElem?_append_left hlt).trans hattempt
    · have hunready := hws hsame
      rw [show self.connection_ready = true from hready] at hunready
      cases hunready
  resolved := by
    intro j attempt hattempt hdelivered
    obtain hattempt | ⟨-, rfl⟩ := interaction.getElem?_concat_cases hattempt
    · exact hattuned.resolved j attempt hattempt hdelivered
    · cases hdelivered
  announced := by
    intro j attempt hattempt horigin hresolved
    obtain hattempt | ⟨-, rfl⟩ := interaction.getElem?_concat_cases hattempt
    · exact hattuned.announced j attempt hattempt horigin hresolved
    · cases hresolved

theorem connect_internal (hattuned : Attuned self) (origin : Origin) (now : Nat) (factory : Except String Unit)
    (hunready : MercurySocket.create_socket builtins self.base_url now factory = .ok () → self.connection_ready = false) :
    Attuned (MercurySocket.connect_internal builtins self origin now factory) := by
  unfold MercurySocket.connect_internal
  split
  · rename_i hcreated
    exact hattuned.push_attempt origin .connecting _ fun _ => hunready hcreated
  · apply settle
    exact hattuned.push_attempt origin .closed _ fun hne => absurd rfl hne

theorem handle_close (hattuned : Attuned self) (code : Nat) : Attuned (self.handle_close code) := by
  have hclosed : Attuned { self.stop_ping_loop.cancel_stability_timer with connection_ready := false } := by
    have hcalm := (MercurySocket.calm_stop_ping_loop self).trans (MercurySocket.calm_cancel_stability_timer _)
    exact (hattuned.same_sockets hcalm.same_sockets).unready _
  unfold MercurySocket.handle_close
  dsimp only
  split
  · exact hclosed.same_sockets ⟨rfl, rfl, rfl, rfl, fun _ hmem => by simp [MercurySocket.emit, hmem]⟩
  · split
    · exact hclosed.same_sockets ⟨rfl, rfl, rfl, rfl, fun _ hmem => by simp [MercurySocket.emit, hmem]⟩
    · split
      · exact hclosed.same_sockets (MercurySocket.reconnect_same_sockets _)
      · exact hclosed.same_sockets (MercurySocket.calm_emit _ rfl).same_sockets

theorem on_close (hattuned : Attuned self) (i code : Nat) : Attuned (self.on_close i code) := by
  have hclosed : Attuned (self.update_attempt i fun attempt => { attempt with ready_state := .closed }) :=
    hattuned.update_attempt fun _ => ⟨rfl, rfl, rfl⟩
  unfold MercurySocket.on_close
  dsimp only
  split
  · exact hclosed
  · split
    · exact hclosed.handle_close code
    · apply handle_close
      apply settle
      exact hclosed.update_attempt fun _ => ⟨rfl, rfl, rfl⟩

theorem on_error (hattuned : Attuned self) (i : Nat) (message : String) : Attuned (self.on_error i message) := by
  unfold MercurySocket.on_error
  split
  · exact hattuned
  · split
    · exact hattuned.same_sockets (MercurySocket.calm_emit self rfl).same_sockets
    · apply settle
      exact hattuned.update_attempt fun _ => ⟨rfl, rfl, rfl⟩

/-- The promise of an attempt that has not failed is resolved when it is settled so. -/
theorem settle_resolved {attempt : Attempt} (hattempt : self.attempts[i]? = some attempt)
    (hnotrejected : ∀ reason, attempt.promise ≠ .rejected reason) :
    (self.settle i .resolved).attempts[i]? = some { attempt with promise := .resolved } := by
  cases hpromise : attempt.promise with
  | pending =>
    rw [MercurySocket.settle_of_pending hattempt hpromise]
    simp [hattempt]
  | resolved =>
    have hsettled : ∀ other, self.attempts[i]? = some other → other.promise ≠ .pending := by
      intro other hother
      rw [hattempt, Option.some.injEq] at hother
      rw [← hother, hpromise]
      exact nofun
    rw [MercurySocket.settle_of_settled hsettled, hattempt, ← hpromise]
  | rejected reason => exact absurd hpromise (hnotrejected reason)

/-- Settling a promise and noting what its socket has delivered are independent. -/
theorem settle_update (f : Attempt → Attempt)
    (hf : ∀ attempt outcome, f { attempt with promise := outcome } = { f attempt with promise := outcome } ∧
      (f attempt).origin = attempt.origin ∧ (f attempt).promise = attempt.promise) (outcome : Promise) :
    (self.update_attempt i f).settle i outcome = (self.settle i outcome).update_attempt i f := by
  cases hattempt : self.attempts[i]? with
  | none =>
    have hsettled : ∀ attempt, self.attempts[i]? = some attempt → attempt.promise ≠ .pending := by
      rw [hattempt]
      exact nofun
    have hsettled' : ∀ attempt, (self.update_attempt i f).attempts[i]? = some attempt → attempt.promise ≠ .pending := by
      simp [MercurySocket.update_attempt, hattempt]
    rw [MercurySocket.settle_of_settled hsettled, MercurySocket.settle_of_settled hsettled']
  | some attempt =>
    have hafter : (self.update_attempt i f).attempts[i]? = some (f attempt) := by
      simp [MercurySocket.update_attempt, hattempt]
    by_cases hpending : attempt.promise = .pending
    · rw [MercurySocket.settle_of_pending hattempt hpending,
        MercurySocket.settle_of_pending hafter ((hf attempt .pending).2.2.trans hpending), (hf attempt .pending).2.1]
      simp only [MercurySocket.update_attempt, MercurySocket.mk.injEq, true_and, and_true]
      apply List.ext_getElem?
      intro j
      simp only [List.getElem?_modify, Option.map_eq_map, Option.map_map]
      congr 1
      funext other
      by_cases heq : i = j
      · simp [heq, (hf other outcome).1]
      · simp [heq]
    · have hsettled : ∀ other, self.attempts[i]? = some other → other.promise ≠ .pending := by
        intro other hother
        rw [hattempt, Option.some.injEq] at hother
        exact hother ▸ hpending
      have hsettled' : ∀ other, (self.update_attempt i f).attempts[i]? = some other → other.promise ≠ .pending := by
        intro other hother
        rw [hafter, Option.some.injEq] at hother
        rw [← hother, (hf attempt .pending).2.2]
        exact hpending
      rw [MercurySocket.settle_of_settled hsettled, MercurySocket.settle_of_settled hsettled']

/-- Settling a promise depends on the attempts and the queued reactions only. -/
theorem settle_same_sockets (hsame : MercurySocket.SameSockets self self') (outcome : Promise) :
    MercurySocket.SameSockets (self.settle i outcome) (self'.settle i outcome) := by
  unfold MercurySocket.settle
  rw [hsame.attempts]
  split
  · split
    · exact ⟨hsame.ws, hsame.connection_ready, by simp only [MercurySocket.update_attempt, hsame.attempts],
        hsame.reactions, hsame.emitted⟩
    · exact ⟨hsame.ws, hsame.connection_ready, by simp only [MercurySocket.update_attempt, hsame.attempts],
        by simp only [MercurySocket.update_attempt, hsame.reactions], hsame.emitted⟩
  · exact hsame

theorem settle_ready (self : MercurySocket) (outcome : Promise) :
    MercurySocket.settle { self with connection_ready := true } i outcome =
      { self.settle i outcome with connection_ready := true } := by
  unfold MercurySocket.settle
  dsimp only
  split
  · split
    · rfl
    · rfl
  · rfl

/-- The socket in `ws` is the first to signal readiness, and its attempt succeeds. -/
theorem becomes_ready (hattuned : Attuned self) {attempt : Attempt} (hws : self.ws = some i)
    (hattempt : self.attempts[i]? = some attempt) (hnotrejected : ∀ reason, attempt.promise ≠ .rejected reason) :
    Attuned ((({ self.update_attempt i fun attempt => { attempt with delivered_ready := true } with
      connection_ready := true }.start_ping_loop).update_attempt i
        fun attempt => { attempt with settled := true }).settle i .resolved) := by
  have hresolved := settle_resolved hattempt hnotrejected
  have hmarked := (hattuned.settle i .resolved).mark_delivered hresolved rfl
  rw [settle_update (fun attempt => { attempt with settled := true }) (fun _ _ => ⟨rfl, rfl, rfl⟩)]
  refine update_attempt ?_ fun _ => ⟨rfl, rfl, rfl⟩
  apply same_sockets _ (settle_same_sockets (MercurySocket.calm_start_ping_loop _).same_sockets .resolved)
  rw [settle_ready, settle_update (fun attempt => { attempt with delivered_ready := true }) (fun _ _ => ⟨rfl, rfl, rfl⟩)]
  refine ⟨fun _ => ⟨i, { attempt with promise := .resolved, delivered_ready := true }, ?_, ?_, rfl⟩, hmarked.resolved,
    hmarked.announced⟩
  · unfold MercurySocket.settle
    split
    · split
      · exact hws
      · exact hws
    · exact hws
  · simp [MercurySocket.update_attempt, hresolved]

theorem on_message (hattuned : Attuned self) {raw_data : String} (huncrossed : Uncrossed builtins self (.message i raw_data)) :
    Attuned (self.on_message builtins i raw_data) := by
  unfold MercurySocket.on_message
  split
  · exact hattuned
  · rename_i hlength
    split
    · exact hattuned
    · rename_i message hparsed
      have hsame := MercurySocket.handle_message_same_sockets self message
      have hhandled := hattuned.same_sockets hsame
      dsimp only
      split
      · rename_i hsignal
        have hreceived : received builtins raw_data = some message := by
          rw [received, if_neg hlength, hparsed]
        obtain ⟨attempt, hattempt, hcurrent⟩ := huncrossed message hreceived hsignal
        rw [← hsame.attempts] at hattempt
        rw [← hsame.ws, ← hsame.connection_ready] at hcurrent
        split
        · rename_i hready
          -- The flag is up, so the socket in `ws` has succeeded before.
          apply hhandled.mark_delivered hattempt
          obtain ⟨hws, -⟩ | ⟨-, hresolved⟩ := hcurrent
          · obtain ⟨j, other, hws', hother, hdelivered⟩ := hhandled.ready hready
            obtain rfl : i = j := Option.some.inj (hws.symm.trans hws')
            rw [hattempt, Option.some.injEq] at hother
            subst hother
            exact hhandled.resolved i attempt hattempt hdelivered
          · exact hresolved
        · rename_i hunready
          obtain ⟨hws, hnotrejected⟩ | ⟨hready, -⟩ := hcurrent
          · exact hhandled.becomes_ready hws hattempt hnotrejected
          · exact absurd hready hunready
      · exact hhandled

theorem on_open (hattuned : Attuned self) (i : Nat) : Attuned (self.on_open builtins i) := by
  have hopened : Attuned (self.update_attempt i fun attempt => { attempt with ready_state := .open }) :=
    hattuned.update_attempt fun _ => ⟨rfl, rfl, rfl⟩
  unfold MercurySocket.on_open
  dsimp only
  split
  · exact hopened.same_sockets ⟨rfl, rfl, rfl, rfl, fun _ hmem => hmem⟩
  · exact hopened.same_sockets ⟨rfl, rfl, rfl, rfl, fun _ hmem => hmem⟩

theorem on_timer (hattuned : Attuned self) {timer : Timer} {now : Nat} {factory : Except String Unit}
    (hunready : timer.task = .reconnect → self.should_reconnect = true →
      MercurySocket.create_socket builtins self.base_url now factory = .ok () → self.connection_ready = false) :
    Attuned (self.on_timer builtins timer now factory) := by
  unfold MercurySocket.on_timer
  split
  · split
    · exact hattuned
    · exact hattuned.same_sockets ⟨rfl, rfl, rfl, rfl, fun _ hmem => hmem⟩
  · apply same_sockets _ (MercurySocket.reconnect_same_sockets _)
    apply close_websocket
    exact hattuned.same_sockets ⟨rfl, rfl, rfl, rfl, fun _ hmem => hmem⟩
  · exact hattuned.same_sockets ⟨rfl, rfl, rfl, rfl, fun _ hmem => hmem⟩
  · rename_i htask
    have hcalm := MercurySocket.calm_clear_timer self (some timer.id)
    have hcleared := hattuned.same_sockets hcalm.same_sockets
    dsimp only
    split
    · rename_i hshould
      exact hcleared.connect_internal .reconnect now factory fun hcreated => hunready htask hshould hcreated
    · exact hcleared

/-- A reaction leaves the queue: `connected` is still to be emitted if it was for a
    successful attempt. -/
theorem pop (hattuned : Attuned self) {rest : List Nat} (hreactions : self.reactions = i :: rest)
    (hother : ∀ attempt, self.attempts[i]? = some attempt → attempt.promise ≠ .resolved) :
    Attuned { self with reactions := rest } := by
  refine ⟨hattuned.ready, hattuned.resolved, ?_⟩
  intro j attempt hattempt horigin hresolved
  refine (hattuned.announced j attempt hattempt horigin hresolved).imp_left fun hmem => ?_
  rw [hreactions] at hmem
  obtain rfl | hmem := List.mem_cons.mp hmem
  · exact absurd hresolved (hother attempt hattempt)
  · exact hmem

theorem react (hattuned : Attuned self) {rest : List Nat} (hreactions : self.reactions = i :: rest) :
    Attuned (MercurySocket.react { self with reactions := rest } i) := by
  unfold MercurySocket.react
  split
  · have hcalm := (MercurySocket.calm_schedule_attempts_reset { self with reactions := rest }).trans
      (MercurySocket.calm_emit _ (show (Event.connected i).is_reconnecting = false from rfl))
    refine ⟨?_, ?_, ?_⟩
    · rw [hcalm.connection_ready, hcalm.ws, hcalm.attempts]
      exact hattuned.ready
    · rw [hcalm.attempts]
      exact hattuned.resolved
    · rw [hcalm.attempts, hcalm.reactions]
      intro j attempt hattempt horigin hresolved
      obtain hmem | hmem := hattuned.announced j attempt hattempt horigin hresolved
      · rw [hreactions] at hmem
        obtain rfl | hmem := List.mem_cons.mp hmem
        · exact .inr (List.mem_append_right _ List.mem_cons_self)
        · exact .inl hmem
      · exact .inr (hcalm.emitted hmem)
  · rename_i reason hrejected
    have hpopped : Attuned { self with reactions := rest } := by
      apply hattuned.pop hreactions
      intro attempt hattempt hresolved
      simp only [hattempt, Option.map_some, hresolved, Option.some.injEq, reduceCtorEq] at hrejected
    split
    · exact hpopped.same_sockets (MercurySocket.reconnect_same_sockets _)
    · exact hpopped
  · rename_i hother _
    apply hattuned.pop hreactions
    intro attempt hattempt hresolved
    exact hother (by rw [hattempt, Option.map_some, hresolved])

theorem connect (hattuned : Attuned self) {url token : String} {now : Nat} {factory : Except String Unit}
    (hunready : MercurySocket.create_socket builtins url now factory = .ok () → self.connection_ready = false) :
    Attuned (self.connect builtins url token now factory) := by
  unfold MercurySocket.connect
  dsimp only
  apply connect_internal _ .connect now factory hunready
  exact hattuned.same_sockets ⟨rfl, rfl, rfl, rfl, fun _ hmem => hmem⟩

theorem disconnect (hattuned : Attuned self) : Attuned self.disconnect := by
  unfold MercurySocket.disconnect
  dsimp only
  apply same_sockets _ (MercurySocket.calm_emit _ rfl).same_sockets
  apply unready
  apply close_websocket
  have hcalm := (MercurySocket.calm_stop_ping_loop { self with should_reconnect := false }).trans
    (MercurySocket.calm_cancel_stability_timer _)
  apply same_sockets _ hcalm.same_sockets
  exact hattuned.same_sockets ⟨rfl, rfl, rfl, rfl, fun _ hmem => hmem⟩

theorem step {label : Label} (hattuned : Attuned self) (huncrossed : Uncrossed builtins self label)
    (hstep : self.step builtins label = some self') : Attuned self' := by
  cases label with
  | connect url token now factory =>
    cases hstep
    exact hattuned.connect huncrossed
  | disconnect =>
    cases hstep
    exact hattuned.disconnect
  | «open» i =>
    simp only [MercurySocket.step, Option.ite_none_right_eq_some, Option.some.injEq] at hstep
    exact hstep.2 ▸ hattuned.on_open i
  | message i raw_data =>
    simp only [MercurySocket.step, Option.ite_none_right_eq_some, Option.some.injEq] at hstep
    exact hstep.2 ▸ hattuned.on_message huncrossed
  | error i message =>
    simp only [MercurySocket.step, Option.ite_none_right_eq_some, Option.some.injEq] at hstep
    exact hstep.2 ▸ hattuned.on_error i message
  | close i code =>
    simp only [MercurySocket.step, Option.ite_none_right_eq_some, Option.some.injEq] at hstep
    exact hstep.2 ▸ hattuned.on_close i code
  | timer id now factory =>
    simp only [MercurySocket.step] at hstep
    split at hstep
    · rename_i timer _ hfound
      cases hstep
      exact hattuned.on_timer fun htask hshould hcreated => huncrossed timer hfound htask hshould hcreated
    · cases hstep
  | react =>
    simp only [MercurySocket.step] at hstep
    split at hstep
    · cases hstep
    · rename_i i rest hreactions
      cases hstep
      exact hattuned.react hreactions

end Attuned

/-- In every run in which no socket is created while another is ready, and readiness is
    signalled by the socket in `ws` only, readiness belongs to that socket. -/
theorem readiness_of_uncrossed (builtins : Builtins)
    (ping_interval pong_timeout reconnect_backoff_max max_reconnect_attempts reconnect_stability_window : Option Nat)
    {s : MercurySocket} (hreach : (socket builtins (new ping_interval pong_timeout reconnect_backoff_max
      max_reconnect_attempts reconnect_stability_window)).Reachable (Uncrossed builtins) s) : Attuned s := by
  apply hreach.invariant
  · exact ⟨nofun, (fun _ _ hattempt => nomatch hattempt), fun _ _ hattempt => nomatch hattempt⟩
  · intro s label next _ hattuned huncrossed hstep
    exact hattuned.step huncrossed hstep

section sample

/-- `Uncrossed` as a test. -/
def uncrossed (builtins : Builtins) (self : MercurySocket) : Label → Bool
  | .connect _ _ _ _ => !self.connection_ready
  | .timer id _ _ => !self.connection_ready || (self.timers.find? (·.id == id)).all fun timer => timer.task != .reconnect
  | .message i raw_data => (received builtins raw_data).all fun message => !is_connection_ready message ||
      (self.ws == some i && (self.attempts[i]?).any fun attempt => attempt.promise == .pending)
  | _ => true

theorem Uncrossed.of_test {builtins : Builtins} {self : MercurySocket} {label : Label}
    (htest : uncrossed builtins self label = true) : Uncrossed builtins self label := by
  cases label with
  | connect url token now factory =>
    intro _
    simpa [uncrossed] using htest
  | timer id now factory =>
    intro timer hfound htask _ _
    simpa [uncrossed, hfound, htask] using htest
  | message i raw_data =>
    intro message hreceived hsignal
    simp only [uncrossed, hreceived, hsignal, Option.all_some, Bool.not_true, Bool.false_or, Bool.and_eq_true,
      beq_iff_eq, Option.any_eq_true] at htest
    obtain ⟨hws, attempt, hattempt, hpending⟩ := htest
    refine ⟨attempt, hattempt, .inl ⟨hws, ?_⟩⟩
    rw [hpending]
    exact fun _ => nofun
  | _ => trivial

def ready_text : String := "\x7b\"data\":\x7b\"eventType\":\"mercury.buffer_state\"\x7d\x7d"
def shutdown_text : String := "\x7b\"type\":\"shutdown\"\x7d"

/-- The built-in functions on the inputs of the runs below. -/
def sample_builtins : Builtins where
  parse_json text :=
    if text = ready_text then some (.object [("data", .object [("eventType", .string "mercury.buffer_state")])])
    else if text = shutdown_text then some (.object [("type", .string "shutdown")])
    else none
  set_search_params url params := some (url ++ "?" ++ String.intercalate "&" (params.map fun param => param.1 ++ "=" ++ param.2))
  random_uuid drawn := "00000000-0000-4000-8000-00000000000" ++ toString drawn

def sample_socket : MercurySocket := new none none none none none

/-- A connection that is ready. -/
def ready_labels : List Label :=
  [.connect "wss://mercury-a.wbx2.com/v1" "token" 1700000000000 (.ok ()), .open 0, .message 0 ready_text]

/-- The connection is lost, and the reconnect succeeds. -/
def restored_labels : List Label :=
  ready_labels ++ ([.close 0 1006, .timer 1 1700000001000 (.ok ()), .open 1, .message 1 ready_text, .react] : List Label)

/-- After a lost connection the new socket signals readiness itself, and the reconnect is
    announced. -/
theorem restored_attuned : ∃ s, (socket sample_builtins sample_socket).Reachable (Uncrossed sample_builtins) s ∧
    s.connection_ready = true ∧ s.ws = some 1 ∧ Attuned s := by
  have hobserve : ((socket sample_builtins sample_socket).run sample_socket restored_labels).map
      (fun s => (s.connection_ready, s.ws)) = some (true, some 1) := by
    decide
  simp only [Option.map_eq_some_iff, Prod.mk.injEq] at hobserve
  obtain ⟨s, hrun, hready, hws⟩ := hobserve
  have htest : (socket sample_builtins sample_socket).meets (uncrossed sample_builtins) sample_socket restored_labels = true := by
    decide
  have hmeets := (Machine.Meets.of_meets htest).mono fun _ _ => Uncrossed.of_test
  have hreach := Machine.Reachable.run .init restored_labels hmeets hrun
  exact ⟨s, hreach, hready, hws, readiness_of_uncrossed sample_builtins none none none none none hreach⟩

/-- Mercury announces a shutdown, and the reconnect opens a new socket before the old one
    has closed. -/
def shutdown_labels : List Label :=
  ready_labels ++ [.message 0 shutdown_text, .timer 1 1700000001000 (.ok ())]

/-- The socket in `ws` has delivered nothing, yet the connection counts as ready. When the
    socket does signal readiness, its attempt stays pending and `connected` is not
    emitted. -/
theorem shutdown_leaves_stale_readiness : ∃ s s' : MercurySocket,
    (socket sample_builtins sample_socket).Reachable Machine.Always s ∧
    s.connection_ready = true ∧ s.ws = some 1 ∧
    s.attempts[1]? = some { origin := .reconnect } ∧
    (socket sample_builtins sample_socket).run s [.open 1, .message 1 ready_text] = some s' ∧
    s'.attempts[1]? = some { origin := .reconnect, ready_state := .open, delivered_ready := true } ∧
    s'.reactions = [] ∧ Event.connected 1 ∉ s'.emitted := by
  have hobserve : ((socket sample_builtins sample_socket).run sample_socket shutdown_labels).map
      (fun s => (s.connection_ready, s.ws, s.attempts[1]?)) = some (true, some 1, some { origin := .reconnect }) := by
    decide
  have hlater : ((socket sample_builtins sample_socket).run sample_socket
      (shutdown_labels ++ [.open 1, .message 1 ready_text])).map
      (fun s => (s.attempts[1]?, s.reactions, s.emitted.all fun event => !(event matches .connected 1))) =
        some (some { origin := .reconnect, ready_state := .open, delivered_ready := true }, [], true) := by
    decide
  simp only [Option.map_eq_some_iff, Prod.mk.injEq] at hobserve hlater
  obtain ⟨s, hrun, hready, hws, hattempt⟩ := hobserve
  obtain ⟨s', hrun', hattempt', hreactions, hemitted⟩ := hlater
  rw [Machine.run_append, hrun, Option.bind_some] at hrun'
  refine ⟨s, s', Machine.reachable_of_run hrun, hready, hws, hattempt, hrun', hattempt', hreactions, ?_⟩
  intro hmem
  have hother := List.all_eq_true.mp hemitted _ hmem
  simp at hother

end sample

end webex.node.mercury_socket
