import WebexHandler.Node.MercurySocket.Settlements

open json transition

namespace webex.node.mercury_socket

namespace Ledger

variable {s : Ledger} {self' : MercurySocket}

section steps

variable {builtins : Builtins} {i : Nat}

/-- The client changes its mind about the connection while no attempt is active. -/
theorem Held.toggle (hheld : Held s) (hquiet : Quiet s.self self') (hnone : s.Quiescent)
    (hpending : self'.should_reconnect = true → ∀ i origin, s.self.key i ≠ some (origin, .pending))
    (hreacting : ∀ i ∈ s.self.reactions, s.self.has_failed i = true →
      (self'.should_reconnect = true ↔ s.abandoned ≤ i)) : Held { s with self := self' } := by
  have hkey := key_congr hquiet.keys
  constructor
  all_goals dsimp only
  · rw [hkey]
    exact fun i origin promise hother hactive => absurd hactive (hnone i origin promise hother)
  · rw [hkey]
    exact fun i origin promise hother hactive => absurd hactive (hnone i origin promise hother)
  · rw [hkey]
    exact fun i origin hother hactive => absurd hactive (hnone i origin .resolved hother)
  · rw [hkey]
    exact fun i hother habandoned => absurd ⟨habandoned, .inl rfl⟩ (hnone i .connect .pending hother)
  · rw [hkey]
    exact fun _ i origin promise hother hactive => hnone i origin promise hother hactive
  · rw [hkey]
    exact hheld.accounted
  · rw [hquiet.has_failed]
    exact hheld.fresh
  · rw [hkey]
    exact hheld.unended
  · rw [attempts_length_congr hquiet.keys]
    exact hheld.bounded
  · rw [hkey]
    intro i origin hother _
    by_contra hwanted
    exact hpending (Bool.not_eq_false _ ▸ hwanted) i origin hother
  · rw [hquiet.reactions, hquiet.has_failed]
    exact hreacting
  · rw [hkey]
    exact hheld.latest

/-- Nothing that may end is a loss any more once the client has stopped. -/
theorem Held.spent (hheld : Held s) (hstopped : s.self.should_reconnect = false) (i : Nat) : s.Spent i := by
  by_cases habandoned : i < s.abandoned
  · exact .inr (.inl habandoned)
  · cases hcounts : s.self.counts i with
    | false => exact .inr (.inr hcounts)
    | true =>
      left
      obtain ⟨attempt, hattempt, hcounted⟩ := (Option.any_eq_true _ _).mp hcounts
      simp only [Bool.or_eq_true, beq_iff_eq] at hcounted
      have hkey := key_of_attempt hattempt
      exact hheld.accounted i _ _ hkey (Nat.le_of_not_lt habandoned) hcounted (hheld.stopped hstopped i _ _ hkey)

/-- The end of a `connect` that has not succeeded is no loss. -/
theorem Held.spent_of_failing (hheld : Held s) (hfailing : s.Failing i) : s.Spent i := by
  obtain ⟨hlatest, attempt, hattempt, hfails⟩ := hfailing
  have horigin : attempt.origin = .connect := hheld.latest i _ _ hlatest (key_of_attempt hattempt)
  right
  right
  obtain hrejected | ⟨hpending, -⟩ := hfails
  · cases hpromise : attempt.promise with
    | rejected reason => simp [MercurySocket.counts, hattempt, horigin, hpromise]
    | _ => simp [hpromise, Promise.is_rejected] at hrejected
  · simp [MercurySocket.counts, hattempt, horigin, hpending]

/-- While a connection is up, nothing else is under way. -/
theorem Held.may_start (hheld : Held s) (hshould : s.self.should_reconnect = true) (hlive : s.Live i)
    (hleft : s.AttemptLeft) : s.MayStart := by
  obtain ⟨⟨attempt, hattempt, hresolved⟩, hup, habandoned⟩ := hlive
  have hkey : s.self.key i = some (attempt.origin, .resolved) := hresolved ▸ key_of_attempt hattempt
  have hactive : s.Active i .resolved := ⟨habandoned, .inr ⟨rfl, hup⟩⟩
  exact ⟨⟨hshould, hleft⟩, hheld.idle i _ _ hkey hactive nofun, hheld.connected i _ hkey hactive⟩

theorem Balanced.end_stopped (hbalanced : Balanced s) (hstopped : s.self.should_reconnect = false)
    (hbound : i < s.self.attempts.length) : Balanced { s with ended := s.ended ++ [i] } := by
  have hheld := hbalanced.held
  refine { hbalanced with held := hheld.end_socket hbound ?_ }
  intro origin promise hkey habandoned
  have hinactive := hheld.stopped hstopped i origin promise hkey
  refine ⟨fun hpending => hinactive ⟨habandoned, .inl hpending⟩, ?_⟩
  intro hresolved
  exact hheld.accounted i origin promise hkey habandoned (.inl hresolved) hinactive

theorem pending_reconnects_pos {j : Nat} (hkey : s.self.key j = some (.reconnect, .pending)) : 0 < s.self.pending_reconnects := by
  obtain ⟨attempt, hattempt, horigin, hpending⟩ := attempt_of_key hkey
  apply List.countP_pos_iff.mpr
  exact ⟨attempt, List.mem_of_getElem? hattempt, by simp [Attempt.is_pending_reconnect, horigin, hpending]⟩

/-- Nothing is active while a reconnect waits for its timer. -/
theorem Balanced.quiescent_of_timer (hbalanced : Balanced s) (htimer : 0 < s.self.reconnect_timers) : s.Quiescent := by
  intro j origin promise hkey hactive
  have hsingle := hbalanced.single
  by_cases hwaits : origin = .reconnect ∧ promise = .pending
  · obtain ⟨rfl, rfl⟩ := hwaits
    have hpending := pending_reconnects_pos hkey
    unfold MercurySocket.under_way at hsingle
    omega
  · have hnone := hbalanced.held.idle j origin promise hkey hactive hwaits
    unfold MercurySocket.under_way at hnone
    omega

/-- Nothing is active, and no reconnect under way, once the last `connect` has failed. -/
theorem Balanced.failed_connect (hbalanced : Balanced s) (hlatest : s.latest = some i) (hfailed : s.self.has_failed i = true) :
    s.Quiescent ∧ s.self.under_way = 0 := by
  have hheld := hbalanced.held
  have hnot : ¬ s.Connected := by
    rintro ⟨j, attempt, hlatest', hattempt, hresolved⟩
    obtain rfl : i = j := Option.some.inj (hlatest.symm.trans hlatest')
    simp [MercurySocket.has_failed, hattempt, hresolved, Promise.is_rejected] at hfailed
  have hunder : s.self.under_way = 0 := by
    by_contra hsome
    exact hnot (hbalanced.connected (Nat.pos_of_ne_zero hsome))
  refine ⟨?_, hunder⟩
  rintro j origin promise hkey ⟨habandoned, rfl | ⟨rfl, hup⟩⟩
  · obtain ⟨attempt, hattempt, rfl, hpending⟩ := attempt_of_key hkey
    cases horigin : attempt.origin with
    | connect =>
      have hsame := hheld.awaited j (horigin ▸ hkey) habandoned
      obtain rfl : i = j := Option.some.inj (hlatest.symm.trans hsame)
      simp [MercurySocket.has_failed, hattempt, hpending, Promise.is_rejected] at hfailed
    | reconnect =>
      have hcounted := pending_reconnects_pos (horigin ▸ hkey)
      unfold MercurySocket.under_way at hunder
      omega
  · exact hnot (hheld.connected j origin hkey ⟨habandoned, .inr ⟨rfl, hup⟩⟩)

theorem Balanced.connect (hbalanced : Balanced s) (url token : String) (now : Nat) (factory : Except String Unit)
    (honce : s.Orderly builtins (.connect url token now factory)) :
    Balanced { s with
      self := s.self.connect builtins url token now factory
      latest := some s.self.attempts.length } := by
  obtain ⟨hunder, hpending, hlive⟩ := honce
  let fresh : MercurySocket := { s.self with token := token, base_url := url, should_reconnect := true }
  have hcalm := MercurySocket.calm_cancel_stability_timer fresh
  have hquiet : Quiet s.self { fresh.cancel_stability_timer with reconnect_attempts := 0 } :=
    ⟨rfl, rfl, rfl, hcalm.reconnect_timers⟩
  have hsettled : ∀ j origin, s.self.key j ≠ some (origin, .pending) := by
    intro j origin hkey
    obtain ⟨attempt, hattempt, -, hbad⟩ := attempt_of_key hkey
    exact hpending attempt (List.mem_of_getElem? hattempt) hbad
  have hnone : s.Quiescent := by
    rintro j origin promise hkey ⟨habandoned, rfl | ⟨rfl, hup⟩⟩
    · exact hsettled j origin hkey
    · obtain ⟨attempt, hattempt, -, hresolved⟩ := attempt_of_key hkey
      exact hlive j ⟨⟨attempt, hattempt, hresolved⟩, hup, habandoned⟩
  have hfresh := hbalanced.of_held hquiet (hbalanced.held.toggle hquiet hnone (fun _ => hsettled) fun j hmem hfailed => by
    have hzero : s.self.reactions.countP s.self.has_failed = 0 := by
      unfold MercurySocket.under_way at hunder
      omega
    exact absurd hfailed (List.countP_eq_zero.mp hzero j hmem))
  exact hfresh.connect_internal builtins .connect now factory (some s.self.attempts.length)
    (Nat.le_zero.mp (hunder ▸ hquiet.under_way_le)) hnone rfl (.inr ⟨rfl, rfl⟩)

theorem quiet_disconnect (self : MercurySocket) : Quiet self self.disconnect := by
  let stopping : MercurySocket := { self with should_reconnect := false }
  have hcalm := (MercurySocket.calm_stop_ping_loop stopping).trans (MercurySocket.calm_cancel_stability_timer _)
  have hclosed := (Quiet.of_calm hcalm).trans (Quiet.close_websocket _)
  have hemitted := MercurySocket.calm_emit
    { stopping.stop_ping_loop.cancel_stability_timer.close_websocket with ws := none, connection_ready := false }
    (show (Event.disconnected .client).is_reconnecting = false from rfl)
  exact ⟨hclosed.keys, hclosed.reactions, hemitted.increments.trans hclosed.increments, hclosed.reconnect_timers⟩

theorem disconnect_stops (self : MercurySocket) : self.disconnect.should_reconnect = false := by
  have hclosed (self : MercurySocket) : self.close_websocket.should_reconnect = self.should_reconnect := by
    obtain heq | ⟨j, heq⟩ := self.close_websocket_eq
    · rw [heq]
    · rw [heq]
      rfl
  exact hclosed _

/-- Every attempt is abandoned. -/
theorem Held.disconnect (hheld : Held s) (hquiet : Quiet s.self self') (hstopped : self'.should_reconnect = false)
    (hfailed : ∀ j ∈ s.self.reactions, s.self.has_failed j = false) :
    Held { s with self := self', abandoned := s.self.attempts.length } := by
  have hkey := key_congr hquiet.keys
  have hgone : ∀ i pair, s.self.key i = some pair → ¬ s.self.attempts.length ≤ i := by
    intro i pair hpair
    obtain ⟨attempt, hattempt, -⟩ := Option.map_eq_some_iff.mp hpair
    exact Nat.not_le_of_lt (List.getElem?_eq_some_iff.mp hattempt).1
  constructor
  all_goals dsimp only
  · rw [hkey]
    exact fun i origin promise hother hactive => absurd hactive.1 (hgone i _ hother)
  · rw [hkey]
    exact fun i origin promise hother hactive => absurd hactive.1 (hgone i _ hother)
  · rw [hkey]
    exact fun i origin hother hactive => absurd hactive.1 (hgone i _ hother)
  · rw [hkey]
    exact fun i hother habandoned => absurd habandoned (hgone i _ hother)
  · rw [hkey]
    exact fun _ i origin promise hother hactive => hgone i _ hother hactive.1
  · rw [hkey]
    exact fun i origin promise hother habandoned => absurd habandoned (hgone i _ hother)
  · rw [hquiet.has_failed]
    exact hheld.fresh
  · rw [hkey]
    exact fun i origin hother habandoned => absurd habandoned (hgone i _ hother)
  · rw [attempts_length_congr hquiet.keys]
    exact hheld.bounded
  · exact fun _ _ _ _ => hstopped
  · rw [hquiet.reactions, hquiet.has_failed]
    intro i hmem hbad
    rw [hfailed i hmem] at hbad
    cases hbad
  · rw [hkey]
    exact hheld.latest

theorem Balanced.disconnect (hbalanced : Balanced s) (hfailed : s.self.reactions.countP s.self.has_failed = 0) :
    Balanced { s with self := s.self.disconnect, abandoned := s.self.attempts.length } := by
  have hquiet := quiet_disconnect s.self
  have hnone : ∀ j ∈ s.self.reactions, s.self.has_failed j = false := by
    simpa [List.countP_eq_zero] using hfailed
  refine ⟨hbalanced.held.disconnect hquiet (disconnect_stops s.self) hnone,
    Nat.le_trans hquiet.under_way_le hbalanced.single, ?_, ?_, ?_, fun j hmem => settled_quiet hquiet (hbalanced.lost j hmem), ?_⟩
  · have hcounted := hbalanced.counted
    rw [List.countP_eq_zero.mpr (by intro j hmem; simp [hnone j hmem])] at hcounted
    dsimp only
    rw [hquiet.increments, hquiet.reactions, hquiet.has_failed,
      List.countP_eq_zero.mpr (by intro j hmem; simp [hnone j hmem])]
    exact hcounted
  · intro hunder
    exact (hbalanced.connected (Nat.lt_of_lt_of_le hunder hquiet.under_way_le)).of_keys hquiet.keys
  · dsimp only
    rw [hquiet.reactions]
    exact fun j hmem => settled_quiet hquiet (hbalanced.queued j hmem)
  · exact Nat.le_of_eq (attempts_length_congr hquiet.keys).symm

/-- Everything that a socket does when its code or its state lets it give up. -/
theorem quiet_handle_close {self : MercurySocket} {code : Nat}
    (hstops : permanent code = true ∨ self.should_reconnect = false) : Quiet self (self.handle_close code) := by
  have hcalm := (MercurySocket.calm_stop_ping_loop self).trans (MercurySocket.calm_cancel_stability_timer _)
  have hquiet : Quiet self { self.stop_ping_loop.cancel_stability_timer with connection_ready := false } :=
    ⟨(Quiet.of_calm hcalm).keys, hcalm.reactions, hcalm.increments, hcalm.reconnect_timers⟩
  unfold MercurySocket.handle_close
  dsimp only
  split
  · refine hquiet.trans ⟨rfl, rfl, ?_, Nat.le_refl _⟩
    simp [MercurySocket.increments, MercurySocket.emit, Event.is_reconnecting]
  · split
    · refine hquiet.trans ⟨rfl, rfl, ?_, Nat.le_refl _⟩
      simp [MercurySocket.increments, MercurySocket.emit, Event.is_reconnecting]
    · rename_i hauth hpermanent
      have hshould : self.should_reconnect = false := by
        refine hstops.resolve_left ?_
        simpa [permanent, hauth, not_or] using hpermanent
      rw [if_neg (by rw [hcalm.should_reconnect, hshould]; simp)]
      exact hquiet.trans (Quiet.of_calm (MercurySocket.calm_emit _ rfl))

theorem handle_close_stops {self : MercurySocket} {code : Nat}
    (hstops : permanent code = true ∨ self.should_reconnect = false) :
    (self.handle_close code).should_reconnect = false := by
  have hcalm := (MercurySocket.calm_stop_ping_loop self).trans (MercurySocket.calm_cancel_stability_timer _)
  unfold MercurySocket.handle_close
  dsimp only
  split
  · rfl
  · split
    · rfl
    · rename_i hauth hpermanent
      have hshould : self.should_reconnect = false := by
        refine hstops.resolve_left ?_
        simpa [permanent, hauth, not_or] using hpermanent
      rw [if_neg (by rw [hcalm.should_reconnect, hshould]; simp)]
      exact hcalm.should_reconnect.trans hshould

theorem handle_close_reconnects {self : MercurySocket} {code : Nat} (hcode : permanent code = false)
    (hshould : self.should_reconnect = true) :
    self.handle_close code =
      MercurySocket.reconnect { self.stop_ping_loop.cancel_stability_timer with connection_ready := false } := by
  simp only [permanent, Bool.or_eq_false_iff, beq_eq_false_iff_ne] at hcode
  unfold MercurySocket.handle_close
  dsimp only
  rw [if_neg hcode.1.1, if_neg (not_or.mpr ⟨hcode.1.2, hcode.2⟩)]
  have hcalm := (MercurySocket.calm_stop_ping_loop self).trans (MercurySocket.calm_cancel_stability_timer _)
  exact if_pos (hcalm.should_reconnect.trans hshould)

/-- A pending attempt fails, and what is accounted for is what `reported` says. -/
theorem Balanced.fail (hbalanced : Balanced s) {attempt : Attempt} (hattempt : s.self.attempts[i]? = some attempt)
    (hpending : attempt.promise = .pending) (reason : Thrown) :
    Balanced { s with
      self := s.self.settle i (.rejected reason)
      lost := if attempt.origin = .reconnect then s.account i else s.lost } := by
  have hsettled := hbalanced.settle hattempt hpending (show Promise.rejected reason ≠ .pending from nofun)
  have hfresh : i ∉ s.lost := by
    intro hmem
    obtain ⟨other, hother, hother'⟩ := hbalanced.lost i hmem
    rw [hattempt, Option.some.injEq] at hother
    exact hother' (hother ▸ hpending)
  have hlost : (if attempt.origin = .reconnect then s.account i else s.lost) =
      if attempt.origin = .reconnect ∧ (Promise.rejected reason).is_rejected = true ∧ s.abandoned ≤ i then s.lost ++ [i]
      else s.lost := by
    by_cases horigin : attempt.origin = .reconnect
    · by_cases habandoned : s.abandoned ≤ i
      · simp [horigin, account, hfresh, habandoned, Promise.is_rejected, Nat.not_lt_of_le habandoned]
      · simp [horigin, account, hfresh, habandoned, Nat.lt_of_not_le habandoned]
    · simp [horigin]
  rw [hlost]
  exact hsettled

theorem Balanced.on_error (hbalanced : Balanced s) (i : Nat) (message : String) :
    Balanced { s with
      self := s.self.on_error i message
      lost := (s.reported builtins (.error i message)).elim s.lost s.account } := by
  unfold MercurySocket.on_error
  cases hattempt : s.self.attempts[i]? with
  | none => simpa [reported, Option.filter, hattempt] using hbalanced
  | some attempt =>
    dsimp only
    cases hsettled : attempt.settled with
    | true =>
      have hemitted := hbalanced.quiet (Quiet.of_calm (MercurySocket.calm_emit s.self
        (show (Event.error (.error message)).is_reconnecting = false from rfl))) rfl
      simpa [reported, Option.filter, hattempt, hsettled] using hemitted
    | false =>
      have hmarked := hbalanced.quiet (Quiet.update_attempt i
        (f := fun attempt => { attempt with settled := true }) fun _ => rfl) rfl
      have hafter : (s.self.update_attempt i fun attempt => { attempt with settled := true }).attempts[i]? =
          some { attempt with settled := true } := by simp [MercurySocket.update_attempt, hattempt]
      by_cases hpending : attempt.promise = .pending
      · have hfailed := hmarked.fail hafter hpending (.mercury_connection_error "Failed to connect to Mercury socket" none)
        by_cases horigin : attempt.origin = .reconnect
        · simpa [reported, Option.filter, hattempt, hsettled, Attempt.is_pending_reconnect, hpending, horigin, account]
            using hfailed
        · simpa [reported, Option.filter, hattempt, Attempt.is_pending_reconnect, horigin] using hfailed
      · have hnotpending : ∀ other,
            (s.self.update_attempt i fun attempt => { attempt with settled := true }).attempts[i]? = some other →
            other.promise ≠ .pending := by
          intro other hother
          rw [hafter, Option.some.injEq] at hother
          rw [← hother]
          exact hpending
        simpa [reported, Option.filter, hattempt, Attempt.is_pending_reconnect, hpending,
          MercurySocket.settle_of_settled hnotpending] using hmarked

/-- The part of `on_close` before `_handleClose`, for a socket whose end is no loss. -/
theorem Balanced.closed (hbalanced : Balanced s) (hspent : s.Spent i) {attempt : Attempt}
    (hattempt : s.self.attempts[i]? = some attempt) (reason : Thrown) :
    Balanced { s with
      self := (s.self.update_attempt i fun attempt => { attempt with settled := true }).settle i (.rejected reason) } := by
  have hmarked := hbalanced.quiet (Quiet.update_attempt i
    (f := fun attempt => { attempt with settled := true }) fun _ => rfl) rfl
  have hafter : (s.self.update_attempt i fun attempt => { attempt with settled := true }).attempts[i]? =
      some { attempt with settled := true } := by simp [MercurySocket.update_attempt, hattempt]
  by_cases hpending : attempt.promise = .pending
  · have hfailed := hmarked.fail hafter hpending reason
    have hlost : (if attempt.origin = .reconnect then s.account i else s.lost) = s.lost := by
      split
      · rename_i horigin
        obtain hlost | habandoned | hcounts := hspent
        · simp [account, hlost]
        · simp [account, habandoned]
        · simp [MercurySocket.counts, hattempt, horigin] at hcounts
      · rfl
    simp only [account] at hfailed hlost
    rw [hlost] at hfailed
    exact hfailed
  · have hnotpending : ∀ other,
        (s.self.update_attempt i fun attempt => { attempt with settled := true }).attempts[i]? = some other →
        other.promise ≠ .pending := by
      intro other hother
      rw [hafter, Option.some.injEq] at hother
      rw [← hother]
      exact hpending
    rw [MercurySocket.settle_of_settled hnotpending]
    exact hmarked

/-- What a socket that closes does before `_handleClose`: its promise fails unless it has
    settled. -/
theorem Balanced.closing (hbalanced : Balanced s) (hspent : s.Spent i) {attempt : Attempt}
    (hattempt : s.self.attempts[i]? = some attempt) (code : Nat) :
    ∃ self', s.self.on_close i code = self'.handle_close code ∧ Balanced { s with self := self' } ∧
      self'.should_reconnect = s.self.should_reconnect ∧
      (attempt.promise.is_rejected = true ∨ (attempt.promise = .pending ∧ attempt.settled = false) →
        self'.has_failed i = true) := by
  have hclosed := hbalanced.quiet (Quiet.update_attempt i (f := fun attempt => { attempt with ready_state := .closed })
    fun _ => rfl) rfl
  have hafter : (s.self.update_attempt i fun attempt => { attempt with ready_state := .closed }).attempts[i]? =
      some { attempt with ready_state := .closed } := by simp [MercurySocket.update_attempt, hattempt]
  unfold MercurySocket.on_close
  dsimp only
  rw [hafter]
  dsimp only
  split
  · rename_i hsettled
    refine ⟨_, rfl, hclosed, rfl, ?_⟩
    rintro (hrejected | ⟨-, hunsettled⟩)
    · simp [MercurySocket.has_failed, hafter, hrejected]
    · cases hsettled.symm.trans hunsettled
  · have hspent' : Spent { s with
        self := s.self.update_attempt i fun attempt => { attempt with ready_state := .closed } } i := by
      refine hspent.imp_right (Or.imp_right fun hcounts => ?_)
      simpa [MercurySocket.counts, MercurySocket.update_attempt, Option.any_map, Function.comp_def] using hcounts
    refine ⟨_, rfl, hclosed.closed hspent' hafter _, settle_should_reconnect _ _ _, ?_⟩
    have hmarked : ((s.self.update_attempt i fun attempt => { attempt with ready_state := .closed }).update_attempt i
        fun attempt => { attempt with settled := true }).attempts[i]? =
        some { attempt with ready_state := .closed, settled := true } := by
      simp [MercurySocket.update_attempt, hattempt]
    rintro (hrejected | ⟨hpending, -⟩)
    · rw [MercurySocket.settle_of_settled]
      · simp [MercurySocket.has_failed, hmarked, hrejected]
      · intro other hother hbad
        rw [hmarked, Option.some.injEq] at hother
        rw [← hother] at hbad
        rw [show attempt.promise = .pending from hbad] at hrejected
        cases hrejected
    · rw [MercurySocket.settle_of_pending hmarked hpending]
      simp [MercurySocket.has_failed, hmarked, Promise.is_rejected]

theorem Balanced.on_close_stopped (hbalanced : Balanced s) (hstopped : s.self.should_reconnect = false) (i code : Nat) :
    Balanced { s with self := s.self.on_close i code } := by
  cases hattempt : s.self.attempts[i]? with
  | none =>
    have hsame : s.self.on_close i code =
        s.self.update_attempt i fun attempt => { attempt with ready_state := .closed } := by
      unfold MercurySocket.on_close
      simp [MercurySocket.update_attempt, hattempt]
    rw [hsame]
    exact hbalanced.quiet (Quiet.update_attempt i fun _ => rfl) rfl
  | some attempt =>
    obtain ⟨self', hclose, hclosing, hsame, -⟩ := hbalanced.closing (hbalanced.held.spent hstopped i) hattempt code
    have hstops : permanent code = true ∨ self'.should_reconnect = false := .inr (hsame.trans hstopped)
    rw [hclose]
    exact hclosing.quiet (quiet_handle_close hstops) ((handle_close_stops hstops).trans (hsame.trans hstopped).symm)

/-- The socket of a failed `connect` is closed for good, and nothing was under way. -/
theorem Balanced.on_close_failing (hbalanced : Balanced s) {code : Nat} (hcode : permanent code = true)
    (hfailing : s.Failing i) : Balanced { s with self := s.self.on_close i code, ended := s.ended ++ [i] } := by
  have hspent := hbalanced.held.spent_of_failing hfailing
  obtain ⟨hlatest, attempt, hattempt, hfails⟩ := hfailing
  obtain ⟨self', hclose, hclosing, -, hfailed⟩ := hbalanced.closing hspent hattempt code
  obtain ⟨hnone, hunder⟩ := hclosing.failed_connect hlatest (hfailed hfails)
  have hquiet : Quiet self' (self'.handle_close code) := quiet_handle_close (.inl hcode)
  have hstops : (self'.handle_close code).should_reconnect = false := handle_close_stops (.inl hcode)
  rw [hclose]
  have hgiven := hclosing.of_held hquiet (hclosing.held.toggle hquiet hnone
    (fun hwanted => absurd (hstops.symm.trans hwanted) nofun) fun j hmem hbad => by
      have hzero : self'.reactions.countP self'.has_failed = 0 := by
        unfold MercurySocket.under_way at hunder
        dsimp only at hunder
        omega
      exact absurd hbad (List.countP_eq_zero.mp hzero j hmem))
  refine hgiven.end_stopped hstops ?_
  obtain ⟨other, hother, -⟩ := (Option.any_eq_true _ _).mp (hfailed hfails)
  dsimp only
  rw [attempts_length_congr hquiet.keys]
  exact (List.getElem?_eq_some_iff.mp hother).1

theorem Balanced.on_close_live (hbalanced : Balanced s) {code : Nat} (hcode : permanent code = false) (hlive : s.Live i)
    (hstart : s.MayStart) :
    Balanced { s with self := s.self.on_close i code, lost := s.lost ++ [i], ended := s.ended ++ [i] } := by
  obtain ⟨attempt, hattempt, hresolved⟩ := hlive.1
  let closed := s.self.update_attempt i fun attempt => { attempt with ready_state := .closed }
  have hafter : closed.attempts[i]? = some { attempt with ready_state := .closed } := by
    simp [closed, MercurySocket.update_attempt, hattempt]
  -- The promise has been resolved, so that rejecting it has no effect.
  have hnotpending : ∀ other, (closed.update_attempt i fun attempt => { attempt with settled := true }).attempts[i]? =
      some other → other.promise ≠ .pending := by
    intro other hother
    simp only [MercurySocket.update_attempt, List.getElem?_modify_eq, hafter, Option.map_eq_map, Option.map_some,
      Option.some.injEq] at hother
    rw [← hother, hresolved]
    simp
  have hclosing (self' : MercurySocket) (hquiet : Quiet s.self self')
      (hshould : self'.should_reconnect = s.self.should_reconnect)
      (hattempts : self'.reconnect_attempts = s.self.reconnect_attempts)
      (hmax : self'.max_reconnect_attempts = s.self.max_reconnect_attempts) :
      Balanced { s with self := self'.handle_close code, lost := s.lost ++ [i], ended := s.ended ++ [i] } := by
    rw [handle_close_reconnects hcode (hshould.trans hstart.1.1)]
    have hcalm := (MercurySocket.calm_stop_ping_loop self').trans (MercurySocket.calm_cancel_stability_timer _)
    have hstopped : Quiet self' { self'.stop_ping_loop.cancel_stability_timer with connection_ready := false } :=
      ⟨(Quiet.of_calm hcalm).keys, hcalm.reactions, hcalm.increments, hcalm.reconnect_timers⟩
    exact hbalanced.report hlive hstart (hquiet.trans hstopped) (hcalm.should_reconnect.trans hshould)
      (hcalm.reconnect_attempts.trans hattempts) (hcalm.max_reconnect_attempts.trans hmax)
  have hclosed : Quiet s.self closed := Quiet.update_attempt i fun _ => rfl
  unfold MercurySocket.on_close
  dsimp only
  rw [hafter]
  dsimp only
  split
  · exact hclosing closed hclosed rfl rfl rfl
  · rw [MercurySocket.settle_of_settled hnotpending]
    exact hclosing _ (hclosed.trans (Quiet.update_attempt i fun _ => rfl)) rfl rfl rfl

/-- The part of the `message` listener after `_handleMessage`. -/
theorem Balanced.signal (hbalanced : Balanced s) (i : Nat) :
    Balanced { s with self :=
      let self := s.self.update_attempt i fun attempt => { attempt with delivered_ready := true }
      if self.connection_ready then self
      else
        let self := { self with connection_ready := true }.start_ping_loop
        (self.update_attempt i fun attempt => { attempt with settled := true }).settle i .resolved } := by
  have hdelivered : Quiet s.self (s.self.update_attempt i fun attempt => { attempt with delivered_ready := true }) :=
    Quiet.update_attempt i fun _ => rfl
  dsimp only
  split
  · exact hbalanced.quiet hdelivered rfl
  · let ready : MercurySocket := { s.self.update_attempt i fun attempt => { attempt with delivered_ready := true } with
      connection_ready := true }
    have hready : Quiet s.self ready := hdelivered.trans ⟨rfl, rfl, rfl, Nat.le_refl _⟩
    have hstarted := hready.trans (Quiet.of_calm (MercurySocket.calm_start_ping_loop ready))
    have hmarked := hstarted.trans (Quiet.update_attempt i (f := fun attempt => { attempt with settled := true }) fun _ => rfl)
    have hbefore := hbalanced.quiet hmarked rfl
    by_cases hpending : ∃ attempt : Attempt, (ready.start_ping_loop.update_attempt i
        fun attempt => { attempt with settled := true }).attempts[i]? = some attempt ∧ attempt.promise = .pending
    · obtain ⟨attempt, hattempt, hpending⟩ := hpending
      simpa [Promise.is_rejected] using hbefore.settle hattempt hpending (by decide : Promise.resolved ≠ .pending)
    · have hnotpending : ∀ attempt, (ready.start_ping_loop.update_attempt i
          fun attempt => { attempt with settled := true }).attempts[i]? = some attempt → attempt.promise ≠ .pending := by
        intro attempt hattempt heq
        exact hpending ⟨attempt, hattempt, heq⟩
      have hsame := MercurySocket.settle_of_settled hnotpending .resolved
      simp only [ready] at hsame hbefore
      rw [hsame]
      exact hbefore

theorem Balanced.on_message (hbalanced : Balanced s) {raw_data : String} {attempt : Attempt}
    (hattempt : s.self.attempts[i]? = some attempt) (honce : s.Orderly builtins (.message i raw_data)) :
    Balanced { s with
      self := s.self.on_message builtins i raw_data
      lost := (s.reported builtins (.message i raw_data)).elim s.lost s.account
      ended := (s.ending builtins (.message i raw_data)).elim s.ended fun i => s.ended ++ [i] } := by
  unfold MercurySocket.on_message
  by_cases hlength : MAX_MESSAGE_LENGTH < length raw_data
  · have hreceived : received builtins raw_data = none := if_pos hlength
    rw [if_pos hlength]
    simpa [reported, ending, Option.filter, hreceived] using hbalanced
  · have hreceived : received builtins raw_data = builtins.parse_json raw_data := if_neg hlength
    rw [if_neg hlength]
    cases hparsed : builtins.parse_json raw_data with
    | none => simpa [reported, ending, Option.filter, hreceived, hparsed] using hbalanced
    | some message =>
      have hhandled : Balanced { s with
          self := s.self.handle_message message
          lost := (s.reported builtins (.message i raw_data)).elim s.lost s.account
          ended := (s.ending builtins (.message i raw_data)).elim s.ended fun i => s.ended ++ [i] } := by
        cases hshutdown : MercurySocket.announces_shutdown message with
        | false =>
          have hcalm : MercurySocket.Calm s.self (s.self.handle_message message) :=
            MercurySocket.handle_message_calm hshutdown
          have hquiet := hbalanced.quiet (Quiet.of_calm hcalm) hcalm.should_reconnect
          simpa [reported, ending, Option.filter, hreceived, hparsed, hshutdown] using hquiet
        | true =>
          have hreported : s.reported builtins (.message i raw_data) = (some i).filter s.self.counts := by
            simp [reported, Option.filter, hreceived, hparsed, hshutdown]
          have hending : s.ending builtins (.message i raw_data) = some i := by
            simp [ending, hreceived, hparsed, hshutdown]
          have hannounced : (received builtins raw_data).any MercurySocket.announces_shutdown = true := by
            rw [hreceived, hparsed]
            exact hshutdown
          rw [hreported, hending, MercurySocket.handle_message_shutdown hshutdown]
          cases hshould : s.self.should_reconnect with
          | true =>
            obtain ⟨hlive, hleft⟩ := honce hannounced hshould
            rw [account_live hlive hbalanced.held]
            exact hbalanced.schedule (hbalanced.held.may_start hshould hlive hleft) hlive
          | false =>
            rw [account_spent (hbalanced.held.spent hshould i), MercurySocket.reconnect_of_stopped hshould]
            exact hbalanced.end_stopped hshould (List.getElem?_eq_some_iff.mp hattempt).1
      dsimp only
      split
      · exact hhandled.signal i
      · exact hhandled

/-- A reconnect timer that fires is no longer pending. -/
theorem clear_reconnect_timer {self : MercurySocket} {timer : Timer} {id : Nat}
    (hfound : self.timers.find? (·.id == id) = some timer) (htask : timer.task = .reconnect) :
    (self.clear_timer (some timer.id)).reconnect_timers + 1 ≤ self.reconnect_timers := by
  have hmem := List.mem_of_find?_eq_some hfound
  have hremoved : 0 < (self.timers.filter fun timer' => !(some timer'.id != some timer.id)).countP Timer.is_reconnect := by
    rw [List.countP_pos_iff]
    exact ⟨timer, List.mem_filter.mpr ⟨hmem, by simp⟩, by simp [Timer.is_reconnect, htask]⟩
  have hsplit := List.countP_eq_countP_filter_add self.timers Timer.is_reconnect fun timer' => some timer'.id != some timer.id
  unfold MercurySocket.reconnect_timers MercurySocket.clear_timer
  dsimp only at hsplit hremoved ⊢
  omega

/-- A ping was not answered in time. -/
theorem Balanced.on_pong_timeout (hbalanced : Balanced s) {timer_id delay : Nat} {id now : Nat} {factory : Except String Unit}
    (hfound : s.self.timers.find? (·.id == id) = some ⟨timer_id, .pong, delay⟩)
    (honce : s.Orderly builtins (.timer id now factory)) :
    Balanced { s with
      self := { s.self.clear_timer (some timer_id) with pending_pong_id := none }.close_websocket.reconnect
      lost := (s.self.ws.filter s.self.counts).elim s.lost s.account
      ended := (s.self.ws.filter fun i => (s.self.attempts[i]?).isSome).elim s.ended fun i => s.ended ++ [i] } := by
  let expired : MercurySocket := { s.self.clear_timer (some timer_id) with pending_pong_id := none }
  have hcalm := MercurySocket.calm_clear_timer s.self (some timer_id)
  have hexpired : Quiet s.self expired := ⟨rfl, rfl, rfl, hcalm.reconnect_timers⟩
  have hclosed := hexpired.trans (Quiet.close_websocket expired)
  have hsame : expired.close_websocket.should_reconnect = s.self.should_reconnect ∧
      expired.close_websocket.reconnect_attempts = s.self.reconnect_attempts ∧
      expired.close_websocket.max_reconnect_attempts = s.self.max_reconnect_attempts := by
    obtain heq | ⟨j, heq⟩ := expired.close_websocket_eq
    · rw [heq]
      exact ⟨rfl, rfl, rfl⟩
    · rw [heq]
      exact ⟨rfl, rfl, rfl⟩
  cases hshould : s.self.should_reconnect with
  | true =>
    obtain ⟨i, hws, hlive, hleft⟩ := honce _ hfound rfl hshould
    obtain ⟨attempt, hattempt, -⟩ := hlive.1
    have hending : ((some i).filter fun i => (s.self.attempts[i]?).isSome) = some i := by
      simp [Option.filter, hattempt]
    rw [hws, account_live hlive hbalanced.held, hending]
    exact hbalanced.report hlive (hbalanced.held.may_start hshould hlive hleft) hclosed hsame.1 hsame.2.1 hsame.2.2
  | false =>
    have hstopped : expired.close_websocket.should_reconnect = false := hsame.1.trans hshould
    have hlost : (s.self.ws.filter s.self.counts).elim s.lost s.account = s.lost := by
      cases s.self.ws with
      | none => rfl
      | some i => exact account_spent (hbalanced.held.spent hshould i)
    have hquiet := hbalanced.quiet hclosed (hstopped.trans hshould.symm)
    change Balanced { s with self := expired.close_websocket.reconnect, lost := _, ended := _ }
    rw [hlost, MercurySocket.reconnect_of_stopped hstopped]
    cases hending : s.self.ws.filter fun i => (s.self.attempts[i]?).isSome with
    | none => exact hquiet
    | some i =>
      obtain ⟨-, hsome⟩ := Option.filter_eq_some_iff.mp hending
      obtain ⟨attempt, hattempt⟩ := Option.isSome_iff_exists.mp hsome
      refine hquiet.end_stopped hstopped ?_
      dsimp only
      rw [attempts_length_congr hclosed.keys]
      exact (List.getElem?_eq_some_iff.mp hattempt).1

theorem Balanced.on_timer (hbalanced : Balanced s) {timer : Timer} {id now : Nat} {factory : Except String Unit}
    (hfound : s.self.timers.find? (·.id == id) = some timer) (honce : s.Orderly builtins (.timer id now factory)) :
    Balanced { s with
      self := s.self.on_timer builtins timer now factory
      lost := (s.reported builtins (.timer id now factory)).elim s.lost s.account
      ended := (s.ending builtins (.timer id now factory)).elim s.ended fun i => s.ended ++ [i] } := by
  obtain ⟨timer_id, task, delay⟩ := timer
  unfold MercurySocket.on_timer
  cases task with
  | ping =>
    simp only [reported, ending, hfound, Option.elim_none]
    split
    · exact hbalanced
    · rename_i socket _
      let pinging : MercurySocket := { s.self with
        drawn := s.self.drawn + 1, pending_pong_id := some (builtins.random_uuid s.self.drawn) }
      have hcleared := MercurySocket.calm_clear_timer (pinging.send socket (.ping (builtins.random_uuid s.self.drawn)))
        s.self.pong_timeout_handle
      have hset := hcleared.trans (MercurySocket.calm_set_timer _ .pong nofun s.self.pong_timeout)
      exact hbalanced.quiet ⟨rfl, rfl, rfl, hset.reconnect_timers⟩ rfl
  | pong =>
    simp only [reported, ending, hfound]
    exact hbalanced.on_pong_timeout hfound honce
  | stability =>
    have hcalm := MercurySocket.calm_clear_timer s.self (some timer_id)
    simp only [reported, ending, hfound, Option.elim_none]
    exact hbalanced.quiet ⟨rfl, rfl, rfl, hcalm.reconnect_timers⟩ rfl
  | reconnect =>
    have hcalm := MercurySocket.calm_clear_timer s.self (some timer_id)
    have hcleared := hbalanced.quiet (Quiet.of_calm hcalm) rfl
    have hfewer : (s.self.clear_timer (some timer_id)).reconnect_timers + 1 ≤ s.self.reconnect_timers :=
      clear_reconnect_timer hfound rfl
    have hsingle := hbalanced.single
    have hother : (s.self.clear_timer (some timer_id)).under_way = 0 := by
      have hpending := (Quiet.of_calm hcalm).pending_reconnects
      have hfailed := (Quiet.of_calm hcalm).has_failed
      unfold MercurySocket.under_way at hsingle ⊢
      rw [hpending, hfailed, hcalm.reactions]
      omega
    have hconnected : s.Connected := by
      apply hbalanced.connected
      unfold MercurySocket.under_way
      omega
    dsimp only
    cases hshould : s.self.should_reconnect with
    | false =>
      have hstays : (s.self.clear_timer (some timer_id)).should_reconnect = false := hshould
      simp only [reported, ending, hfound, hshould, Option.elim_none, hstays, Bool.false_eq_true, if_false]
      exact hcleared
    | true =>
      have hwants : (s.self.clear_timer (some timer_id)).should_reconnect = true := hshould
      have hattempted := hcleared.connect_internal builtins .reconnect now factory s.latest hother
        (hbalanced.quiescent_of_timer (by omega)) hwants (.inl ⟨rfl, rfl, hconnected.of_keys (Quiet.of_calm hcalm).keys⟩)
      rw [if_pos hwants]
      simp only [reported, ending, hfound, hshould, Option.elim_none]
      cases hcreated : MercurySocket.create_socket builtins s.self.base_url now factory with
      | ok _ =>
        have hcreated' : MercurySocket.create_socket builtins (s.self.clear_timer (some timer_id)).base_url now factory = .ok () :=
          hcreated
        simp only [hcreated'] at hattempted
        exact hattempted
      | error message =>
        have hcreated' : MercurySocket.create_socket builtins (s.self.clear_timer (some timer_id)).base_url now factory =
          .error message := hcreated
        simp only [hcreated'] at hattempted
        exact hattempted

theorem Balanced.react (hbalanced : Balanced s) {rest : List Nat} (hreactions : s.self.reactions = i :: rest)
    (honce : s.Orderly builtins .react) :
    Balanced { s with self := MercurySocket.react { s.self with reactions := rest } i } := by
  unfold MercurySocket.react
  dsimp only
  split
  · rename_i hresolved
    have hnotfailed : ¬ (s.self.has_failed i = true ∧ s.abandoned ≤ i) := by
      rintro ⟨hfailed, -⟩
      obtain ⟨attempt, hattempt, hpromise⟩ := Option.map_eq_some_iff.mp hresolved
      simp [MercurySocket.has_failed, hattempt, hpromise, Promise.is_rejected] at hfailed
    have hcalm := (MercurySocket.calm_schedule_attempts_reset { s.self with reactions := rest }).trans
      (MercurySocket.calm_emit _ (show (Event.connected i).is_reconnecting = false from rfl))
    exact (hbalanced.pop hreactions hnotfailed).quiet (Quiet.of_calm hcalm) hcalm.should_reconnect
  · rename_i reason hrejected
    have hfailed : s.self.has_failed i = true := by
      obtain ⟨attempt, hattempt, hpromise⟩ := Option.map_eq_some_iff.mp hrejected
      simp [MercurySocket.has_failed, hattempt, hpromise, Promise.is_rejected]
    have hwanted : s.self.should_reconnect = true ↔ s.abandoned ≤ i :=
      hbalanced.held.reacting i (hreactions ▸ List.mem_cons_self) hfailed
    split
    · rename_i hshould
      have habandoned := hwanted.mp hshould
      exact hbalanced.pop_failed hreactions hfailed habandoned ⟨hshould, honce i rest hreactions hfailed habandoned⟩
    · rename_i hstopped
      exact hbalanced.pop hreactions fun h => hstopped (hwanted.mpr h.2)
  · rename_i _ hnotrejected
    apply hbalanced.pop hreactions
    rintro ⟨hfailed, -⟩
    cases hattempt : s.self.attempts[i]? with
    | none => simp [MercurySocket.has_failed, hattempt] at hfailed
    | some attempt =>
      cases hpromise : attempt.promise with
      | rejected reason => exact hnotrejected reason (by rw [hattempt, Option.map_some, hpromise])
      | _ => simp [MercurySocket.has_failed, hattempt, hpromise, Promise.is_rejected] at hfailed

theorem Balanced.on_close (hbalanced : Balanced s) {code : Nat} {attempt : Attempt}
    (hattempt : s.self.attempts[i]? = some attempt) (honce : s.Orderly builtins (.close i code)) :
    Balanced { s with
      self := s.self.on_close i code
      lost := ((some i).filter s.self.counts).elim s.lost s.account
      ended := s.ended ++ [i] } := by
  have hheld := hbalanced.held
  cases hshould : s.self.should_reconnect with
  | false =>
    rw [account_spent (hheld.spent hshould i)]
    exact (hbalanced.end_stopped hshould (List.getElem?_eq_some_iff.mp hattempt).1).on_close_stopped hshould i code
  | true =>
    have hallowed := honce hshould
    cases hcode : permanent code with
    | true =>
      rw [hcode, if_pos rfl] at hallowed
      rw [account_spent (hheld.spent_of_failing hallowed)]
      exact hbalanced.on_close_failing hcode hallowed
    | false =>
      rw [hcode, if_neg nofun] at hallowed
      obtain ⟨hlive, hleft⟩ := hallowed
      rw [account_live hlive hheld]
      exact hbalanced.on_close_live hcode hlive (hheld.may_start hshould hlive hleft)

theorem attempt_of_in_state {self : MercurySocket} {states : List ReadyState} (hstate : self.in_state i states = true) :
    ∃ attempt, self.attempts[i]? = some attempt := by
  obtain ⟨attempt, hattempt, -⟩ := (Option.any_eq_true _ _).mp hstate
  exact ⟨attempt, hattempt⟩

theorem Balanced.step {next : Ledger} {label : Label} (hbalanced : Balanced s) (honce : s.Orderly builtins label)
    (hstep : s.step builtins label = some next) : Balanced next := by
  simp only [Ledger.step, Option.map_eq_some_iff] at hstep
  obtain ⟨self', hself, rfl⟩ := hstep
  cases label with
  | connect url token now factory =>
    cases hself
    exact hbalanced.connect url token now factory honce
  | disconnect =>
    cases hself
    exact hbalanced.disconnect honce
  | «open» i =>
    simp only [MercurySocket.step, Option.ite_none_right_eq_some, Option.some.injEq] at hself
    obtain ⟨-, rfl⟩ := hself
    have hopened : Quiet s.self (s.self.update_attempt i fun attempt => { attempt with ready_state := .open }) :=
      Quiet.update_attempt i fun _ => rfl
    unfold MercurySocket.on_open
    dsimp only
    split
    · exact hbalanced.quiet (hopened.trans ⟨rfl, rfl, rfl, Nat.le_refl _⟩) rfl
    · exact hbalanced.quiet (hopened.trans ⟨rfl, rfl, rfl, Nat.le_refl _⟩) rfl
  | message i raw_data =>
    simp only [MercurySocket.step, Option.ite_none_right_eq_some, Option.some.injEq] at hself
    obtain ⟨hstate, rfl⟩ := hself
    obtain ⟨attempt, hattempt⟩ := attempt_of_in_state hstate
    exact hbalanced.on_message hattempt honce
  | error i message =>
    simp only [MercurySocket.step, Option.ite_none_right_eq_some, Option.some.injEq] at hself
    obtain ⟨-, rfl⟩ := hself
    exact hbalanced.on_error i message
  | close i code =>
    simp only [MercurySocket.step, Option.ite_none_right_eq_some, Option.some.injEq] at hself
    obtain ⟨hstate, rfl⟩ := hself
    obtain ⟨attempt, hattempt⟩ := attempt_of_in_state hstate
    exact hbalanced.on_close hattempt honce
  | timer id now factory =>
    simp only [MercurySocket.step] at hself
    split at hself
    · rename_i timer _ hfound
      cases hself
      exact hbalanced.on_timer hfound honce
    · cases hself
  | react =>
    simp only [MercurySocket.step] at hself
    split at hself
    · cases hself
    · rename_i i rest hreactions
      cases hself
      exact hbalanced.react hreactions honce

end steps

end Ledger

section sample

/-- `Orderly` as a test, for the steps of the run below. -/
def Ledger.orderly (builtins : Builtins) (s : Ledger) : Label → Bool
  | .connect _ _ _ _ => s.self.under_way == 0 && s.self.attempts.isEmpty
  | .disconnect => s.self.reactions.isEmpty
  | .message _ raw_data => !(received builtins raw_data).any MercurySocket.announces_shutdown
  | .close i code => !permanent code && (s.self.attempts[i]?).any (·.promise == .resolved) && !s.ended.contains i &&
      decide (s.abandoned ≤ i) && decide (s.self.reconnect_attempts < s.self.max_reconnect_attempts)
  | .timer id _ _ => (s.self.timers.find? (·.id == id)).all (·.task != .pong)
  | .react => decide (s.self.reconnect_attempts < s.self.max_reconnect_attempts)
  | _ => true

theorem Ledger.Orderly.of_test {builtins : Builtins} {s : Ledger} {label : Label} (htest : s.orderly builtins label = true) :
    s.Orderly builtins label := by
  cases label with
  | connect url token now factory =>
    simp only [orderly, Bool.and_eq_true, beq_iff_eq, List.isEmpty_iff] at htest
    obtain ⟨hunder, hnone⟩ := htest
    refine ⟨hunder, by simp [hnone], ?_⟩
    rintro i ⟨⟨attempt, hattempt, -⟩, -⟩
    simp [hnone] at hattempt
  | disconnect =>
    have hnone : s.self.reactions = [] := List.isEmpty_iff.mp htest
    simp [Orderly, hnone]
  | message i raw_data =>
    intro hshutdown
    simp [orderly, hshutdown] at htest
  | close i code =>
    simp only [orderly, Bool.and_eq_true, Bool.not_eq_true', Option.any_eq_true, beq_iff_eq, List.contains_eq_mem,
      decide_eq_false_iff_not, decide_eq_true_eq] at htest
    obtain ⟨⟨⟨⟨hcode, hup⟩, hended⟩, habandoned⟩, hleft⟩ := htest
    intro _
    rw [hcode, if_neg Bool.false_ne_true]
    exact ⟨⟨hup, hended, habandoned⟩, hleft⟩
  | timer id now factory =>
    intro timer hfound htask
    simp [orderly, hfound, htask] at htest
  | react =>
    intro i rest _ _ _
    simpa [orderly, AttemptLeft] using htest
  | _ => trivial

end sample

end webex.node.mercury_socket
