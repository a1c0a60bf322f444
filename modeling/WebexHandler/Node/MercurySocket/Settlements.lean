import WebexHandler.Node.MercurySocket.Losses

open json transition

namespace webex.node.mercury_socket

namespace Ledger

variable {s : Ledger} {self' : MercurySocket}

/-- A count after one element was changed. -/
theorem countP_modify {p : Attempt → Bool} {f : Attempt → Attempt} {attempts : List Attempt} {i : Nat} {attempt : Attempt}
    (hattempt : attempts[i]? = some attempt) :
    (attempts.modify i f).countP p + (if p attempt then 1 else 0) = attempts.countP p + if p (f attempt) then 1 else 0 := by
  induction attempts generalizing i with
  | nil => cases hattempt
  | cons first rest ih =>
    cases i with
    | zero =>
      obtain rfl : first = attempt := by simpa using hattempt
      simp only [List.modify_zero_cons, List.countP_cons]
      omega
    | succ i =>
      have hrest := ih (i := i) (by simpa using hattempt)
      simp only [List.modify_succ_cons, List.countP_cons]
      omega

section settle

variable {i : Nat} {attempt : Attempt} {outcome : Promise}

theorem settle_has_failed (hattempt : s.self.attempts[i]? = some attempt) (hpending : attempt.promise = .pending)
    (outcome : Promise) (j : Nat) :
    (s.self.settle i outcome).has_failed j = if i = j then outcome.is_rejected else s.self.has_failed j := by
  rw [MercurySocket.settle_of_pending hattempt hpending]
  simp only [MercurySocket.has_failed, List.getElem?_modify, Option.map_eq_map]
  by_cases heq : i = j
  · subst heq
    simp [hattempt]
  · simp [heq]

theorem settle_pending_reconnects (hattempt : s.self.attempts[i]? = some attempt) (hpending : attempt.promise = .pending)
    (houtcome : outcome ≠ .pending) :
    (s.self.settle i outcome).pending_reconnects + (if attempt.origin = .reconnect then 1 else 0) =
      s.self.pending_reconnects := by
  rw [MercurySocket.settle_of_pending hattempt hpending]
  have hcount := countP_modify (p := Attempt.is_pending_reconnect)
    (f := fun attempt => { attempt with promise := outcome }) hattempt
  simpa [MercurySocket.pending_reconnects, Attempt.is_pending_reconnect, hpending, houtcome] using hcount

/-- The reactions that were queued before are not those of a pending promise. -/
theorem settle_failed_before (hbalanced : Balanced s) (hattempt : s.self.attempts[i]? = some attempt)
    (hpending : attempt.promise = .pending) (outcome : Promise) (p : Nat → Bool) :
    s.self.reactions.countP (fun j => (s.self.settle i outcome).has_failed j && p j) =
      s.self.reactions.countP fun j => s.self.has_failed j && p j := by
  apply List.countP_congr
  intro j hmem
  obtain ⟨other, hother, hsettled⟩ := hbalanced.queued j hmem
  have hne : i ≠ j := by
    rintro rfl
    rw [hattempt, Option.some.injEq] at hother
    exact hsettled (hother ▸ hpending)
  rw [settle_has_failed hattempt hpending outcome, if_neg hne]

/-- A settled attempt stays where it is. -/
theorem settle_keeps (hattempt : s.self.attempts[i]? = some attempt) (hpending : attempt.promise = .pending)
    {j : Nat} {other : Attempt} (hother : s.self.attempts[j]? = some other) (hsettled : other.promise ≠ .pending) :
    (s.self.settle i outcome).attempts[j]? = some other := by
  have hne : i ≠ j := by
    rintro rfl
    rw [hattempt, Option.some.injEq] at hother
    exact hsettled (hother ▸ hpending)
  rw [MercurySocket.settle_of_pending hattempt hpending]
  simp [hother, hne]

/-- The attempts after one of them has settled. -/
theorem settle_key_cases (hattempt : s.self.attempts[i]? = some attempt) (hpending : attempt.promise = .pending)
    {j : Nat} {origin : Origin} {promise : Promise} (hkey : (s.self.settle i outcome).key j = some (origin, promise)) :
    (j = i ∧ origin = attempt.origin ∧ promise = outcome) ∨ (j ≠ i ∧ s.self.key j = some (origin, promise)) := by
  rw [MercurySocket.settle_of_pending hattempt hpending] at hkey
  obtain ⟨after, hafter, hpair⟩ := Option.map_eq_some_iff.mp hkey
  obtain ⟨before, hbefore, rfl⟩ := MercurySocket.getElem?_modify_cases hafter
  by_cases hsame : i = j
  · subst hsame
    rw [hattempt, Option.some.injEq] at hbefore
    subst hbefore
    rw [if_pos rfl, Attempt.key, Prod.mk.injEq] at hpair
    exact .inl ⟨rfl, hpair.1.symm, hpair.2.symm⟩
  · rw [if_neg hsame] at hpair
    exact .inr ⟨fun heq => hsame heq.symm, by rw [MercurySocket.key, hbefore, Option.map_some, hpair]⟩

theorem settle_should_reconnect (self : MercurySocket) (i : Nat) (outcome : Promise) :
    (self.settle i outcome).should_reconnect = self.should_reconnect := by
  unfold MercurySocket.settle
  split
  · split
    · rfl
    · rfl
  · rfl

/-- A pending attempt succeeds, which makes it a connection that is up, or fails. -/
theorem Balanced.held_settle (hbalanced : Balanced s) (hattempt : s.self.attempts[i]? = some attempt)
    (hpending : attempt.promise = .pending) (houtcome : outcome ≠ .pending)
    (hunder : (s.self.settle i outcome).under_way ≤ s.self.under_way)
    (hreconnect : attempt.origin = .reconnect → 0 < s.self.under_way ∧
      (outcome.is_rejected = false → (s.self.settle i outcome).under_way = 0)) :
    Held { s with
      self := s.self.settle i outcome
      lost := if attempt.origin = .reconnect ∧ outcome.is_rejected = true ∧ s.abandoned ≤ i then s.lost ++ [i] else s.lost } := by
  have hheld := hbalanced.held
  have hkey : s.self.key i = some (attempt.origin, .pending) := hpending ▸ key_of_attempt hattempt
  have hshould := settle_should_reconnect s.self i outcome
  have hlength : (s.self.settle i outcome).attempts.length = s.self.attempts.length := by
    rw [MercurySocket.settle_of_pending hattempt hpending]
    simp
  have hkept : s.lost ⊆ if attempt.origin = .reconnect ∧ outcome.is_rejected = true ∧ s.abandoned ≤ i then s.lost ++ [i]
      else s.lost := by
    split
    · exact List.subset_append_left _ _
    · exact List.Subset.refl _
  have hstays (hconnected : s.Connected) : Connected { s with
      self := s.self.settle i outcome
      lost := if attempt.origin = .reconnect ∧ outcome.is_rejected = true ∧ s.abandoned ≤ i then s.lost ++ [i] else s.lost } := by
    obtain ⟨j, other, hlatest, hother, hresolved⟩ := hconnected
    exact ⟨j, other, hlatest, settle_keeps hattempt hpending hother (by rw [hresolved]; exact nofun), hresolved⟩
  constructor
  all_goals dsimp only
  · rw [hlength]
    intro j origin promise hother hactive
    obtain ⟨rfl, -, -⟩ | ⟨-, hold⟩ := settle_key_cases hattempt hpending hother
    · exact hheld.last j _ _ hkey ⟨hactive.1, .inl rfl⟩
    · exact hheld.last j origin promise hold hactive
  · intro j origin promise hother hactive hwaits
    obtain ⟨rfl, rfl, rfl⟩ | ⟨-, hold⟩ := settle_key_cases hattempt hpending hother
    · cases horigin : attempt.origin with
      | connect =>
        rw [horigin] at hkey
        have hnone := hheld.idle j _ _ hkey ⟨hactive.1, .inl rfl⟩ nofun
        omega
      | reconnect =>
        apply (hreconnect horigin).2
        obtain ⟨-, hbad | ⟨rfl, -⟩⟩ := hactive
        · exact absurd hbad houtcome
        · rfl
    · have hnone := hheld.idle j origin promise hold hactive hwaits
      omega
  · intro j origin hother hactive
    obtain ⟨rfl, rfl, rfl⟩ | ⟨-, hold⟩ := settle_key_cases hattempt hpending hother
    · cases horigin : attempt.origin with
      | connect =>
        rw [horigin] at hkey
        refine ⟨j, { attempt with promise := .resolved }, hheld.awaited j hkey hactive.1, ?_, rfl⟩
        rw [MercurySocket.settle_of_pending hattempt hpending]
        simp [hattempt]
      | reconnect => exact hstays (hbalanced.connected (hreconnect horigin).1)
    · exact hstays (hheld.connected j origin hold hactive)
  · intro j hother habandoned
    obtain ⟨-, -, rfl⟩ | ⟨-, hold⟩ := settle_key_cases hattempt hpending hother
    · exact absurd rfl houtcome
    · exact hheld.awaited j hold habandoned
  · rw [hshould]
    intro hstopped j origin promise hother hactive
    obtain ⟨rfl, -, -⟩ | ⟨-, hold⟩ := settle_key_cases hattempt hpending hother
    · exact hheld.stopped hstopped j _ _ hkey ⟨hactive.1, .inl rfl⟩
    · exact hheld.stopped hstopped j origin promise hold hactive
  · intro j origin promise hother habandoned hcounts hinactive
    obtain ⟨rfl, rfl, rfl⟩ | ⟨-, hold⟩ := settle_key_cases hattempt hpending hother
    · cases promise with
      | pending => exact absurd rfl houtcome
      | resolved => exact absurd ⟨habandoned, .inr ⟨rfl, hheld.unended j _ hkey habandoned⟩⟩ hinactive
      | rejected reason =>
        rw [if_pos ⟨hcounts.resolve_left nofun, rfl, habandoned⟩]
        exact List.mem_append_right _ (List.mem_singleton_self j)
    · exact hkept (hheld.accounted j origin promise hold habandoned hcounts hinactive)
  · intro j hmem
    have hold (hmem : j ∈ s.lost) : j ∈ s.ended ∨ (s.self.settle i outcome).has_failed j = true := by
      obtain hended | hfailed := hheld.fresh j hmem
      · exact .inl hended
      · have hne : i ≠ j := by
          rintro rfl
          simp [MercurySocket.has_failed, hattempt, hpending, Promise.is_rejected] at hfailed
        rw [settle_has_failed hattempt hpending, if_neg hne]
        exact .inr hfailed
    split at hmem
    · rename_i hnew
      obtain hmem | hmem := List.mem_append.mp hmem
      · exact hold hmem
      · rw [List.mem_singleton.mp hmem, settle_has_failed hattempt hpending, if_pos rfl]
        exact .inr hnew.2.1
    · exact hold hmem
  · intro j origin hother habandoned
    obtain ⟨-, -, rfl⟩ | ⟨-, hold⟩ := settle_key_cases hattempt hpending hother
    · exact absurd rfl houtcome
    · exact hheld.unended j origin hold habandoned
  · rw [hlength]
    exact hheld.bounded
  · rw [hshould]
    intro j origin hother habandoned
    obtain ⟨-, -, rfl⟩ | ⟨-, hold⟩ := settle_key_cases hattempt hpending hother
    · exact absurd rfl houtcome
    · exact hheld.stale j origin hold habandoned
  · rw [hshould]
    intro j hmem hfailed
    by_cases hsame : i = j
    · subst hsame
      constructor
      · intro hwanted
        by_contra habandoned
        rw [hheld.stale i _ hkey (Nat.lt_of_not_le habandoned)] at hwanted
        cases hwanted
      · intro habandoned
        by_contra hstopped
        exact hheld.stopped (Bool.not_eq_true _ ▸ hstopped) i _ _ hkey ⟨habandoned, .inl rfl⟩
    · rw [settle_has_failed hattempt hpending, if_neg hsame] at hfailed
      apply hheld.reacting j _ hfailed
      rw [MercurySocket.settle_of_pending hattempt hpending] at hmem
      dsimp only at hmem
      split at hmem
      · exact (List.mem_append.mp hmem).resolve_right fun h => hsame (List.mem_singleton.mp h).symm
      · exact hmem
  · intro j origin promise hlatest hother
    obtain ⟨rfl, rfl, -⟩ | ⟨-, hold⟩ := settle_key_cases hattempt hpending hother
    · exact hheld.latest j _ _ hlatest hkey
    · exact hheld.latest j origin promise hlatest hold

/-- A pending attempt succeeds or fails. The failure of a reconnect is accounted for now,
    and counted by the reaction to it. -/
theorem Balanced.settle (hbalanced : Balanced s) (hattempt : s.self.attempts[i]? = some attempt)
    (hpending : attempt.promise = .pending) (houtcome : outcome ≠ .pending) :
    Balanced { s with
      self := s.self.settle i outcome
      lost := if attempt.origin = .reconnect ∧ outcome.is_rejected = true ∧ s.abandoned ≤ i then s.lost ++ [i] else s.lost } := by
  have hsettle := MercurySocket.settle_of_pending hattempt hpending outcome
  have hlast : (s.self.settle i outcome).attempts[i]? = some { attempt with promise := outcome } := by
    simp [hsettle, hattempt]
  have htimers : (s.self.settle i outcome).reconnect_timers = s.self.reconnect_timers := by
    rw [hsettle]
    rfl
  have hincrements : (s.self.settle i outcome).increments = s.self.increments := by
    rw [hsettle]
    rfl
  have hreactions : (s.self.settle i outcome).reactions =
      if attempt.origin = .reconnect then s.self.reactions ++ [i] else s.self.reactions := by
    rw [hsettle]
  have hpendings := settle_pending_reconnects hattempt hpending houtcome
  have hfailed (p : Nat → Bool) : (s.self.settle i outcome).reactions.countP
      (fun j => (s.self.settle i outcome).has_failed j && p j) = s.self.reactions.countP (fun j => s.self.has_failed j && p j) +
        if attempt.origin = .reconnect ∧ outcome.is_rejected = true ∧ p i = true then 1 else 0 := by
    have hbefore := settle_failed_before hbalanced hattempt hpending outcome p
    have hself := settle_has_failed hattempt hpending outcome i
    rw [if_pos rfl] at hself
    rw [hreactions]
    split
    · rename_i horigin
      simp only [List.countP_append, hbefore, List.countP_singleton, hself, horigin, true_and, Bool.and_eq_true]
    · rename_i horigin
      simp only [hbefore, horigin, false_and, if_false, Nat.add_zero]
  have hall : (s.self.settle i outcome).reactions.countP (s.self.settle i outcome).has_failed =
      s.self.reactions.countP s.self.has_failed +
        if attempt.origin = .reconnect ∧ outcome.is_rejected = true then 1 else 0 := by
    have hcount := hfailed fun _ => true
    simp only [Bool.and_true, and_true] at hcount
    exact hcount
  have hunder : (s.self.settle i outcome).under_way ≤ s.self.under_way := by
    unfold MercurySocket.under_way
    rw [htimers, hall]
    split at hpendings
    · split
      · omega
      · omega
    · rename_i horigin
      rw [if_neg fun h => horigin h.1]
      omega
  have hreconnect (horigin : attempt.origin = .reconnect) : 0 < s.self.under_way ∧
      (outcome.is_rejected = false → (s.self.settle i outcome).under_way = 0) := by
    have hsingle := hbalanced.single
    rw [if_pos horigin] at hpendings
    constructor
    · unfold MercurySocket.under_way
      omega
    · intro hresolved
      rw [MercurySocket.under_way] at hsingle ⊢
      rw [htimers, hall, if_neg (by rw [hresolved]; exact fun h => nomatch h.2)]
      omega
  refine ⟨hbalanced.held_settle hattempt hpending houtcome hunder hreconnect, Nat.le_trans hunder hbalanced.single,
    ?_, ?_, ?_, ?_, ?_⟩
  · have hlive := hfailed fun j => decide (s.abandoned ≤ j)
    simp only [decide_eq_true_eq] at hlive
    dsimp only
    rw [hincrements, hlive]
    have hcounted := hbalanced.counted
    split
    · rw [List.length_append, List.length_singleton]
      omega
    · omega
  · intro hsome
    obtain ⟨j, other, hlatest, hother, hresolved⟩ := hbalanced.connected (Nat.lt_of_lt_of_le hsome hunder)
    exact ⟨j, other, hlatest, settle_keeps hattempt hpending hother (by rw [hresolved]; exact nofun), hresolved⟩
  · intro j hmem
    rw [hreactions] at hmem
    have hold : j ∈ s.self.reactions ∨ j = i := by
      split at hmem
      · exact (List.mem_append.mp hmem).imp_right List.mem_singleton.mp
      · exact .inl hmem
    obtain hmem | rfl := hold
    · obtain ⟨other, hother, hsettled⟩ := hbalanced.queued j hmem
      exact ⟨other, settle_keeps hattempt hpending hother hsettled, hsettled⟩
    · exact ⟨_, hlast, houtcome⟩
  · intro j hmem
    have hold : j ∈ s.lost ∨ j = i := by
      dsimp only at hmem
      split at hmem
      · exact (List.mem_append.mp hmem).imp_right List.mem_singleton.mp
      · exact .inl hmem
    obtain hmem | rfl := hold
    · obtain ⟨other, hother, hsettled⟩ := hbalanced.lost j hmem
      exact ⟨other, settle_keeps hattempt hpending hother hsettled, hsettled⟩
    · exact ⟨_, hlast, houtcome⟩
  · rw [hsettle]
    simp only [List.length_modify]
    exact hbalanced.abandoned

end settle

section parts

variable {builtins : Builtins} {i : Nat}

/-- The loss of a connection that is up has not been accounted for. -/
theorem Live.not_lost (hlive : s.Live i) (hheld : s.Held) : i ∉ s.lost := by
  obtain ⟨⟨attempt, hattempt, hresolved⟩, hup, -⟩ := hlive
  intro hmem
  obtain hended | hfailed := hheld.fresh i hmem
  · exact hup hended
  · simp [MercurySocket.has_failed, hattempt, hresolved, Promise.is_rejected] at hfailed

theorem account_live (hlive : s.Live i) (hheld : s.Held) :
    ((some i).filter s.self.counts).elim s.lost s.account = s.lost ++ [i] := by
  have hfresh := hlive.not_lost hheld
  obtain ⟨⟨attempt, hattempt, hresolved⟩, -, habandoned⟩ := hlive
  have hcounts : s.self.counts i = true := by simp [MercurySocket.counts, hattempt, hresolved]
  have hnew : ¬ (i ∈ s.lost ∨ i < s.abandoned) := not_or.mpr ⟨hfresh, by omega⟩
  simp [Option.filter, hcounts, account, hnew]

theorem account_spent (hspent : s.Spent i) : ((some i).filter s.self.counts).elim s.lost s.account = s.lost := by
  obtain hlost | habandoned | hcounts := hspent
  · cases hcounts : s.self.counts i with
    | true => simp [Option.filter, hcounts, account, hlost]
    | false => simp [Option.filter, hcounts]
  · cases hcounts : s.self.counts i with
    | true => simp [Option.filter, hcounts, account, habandoned]
    | false => simp [Option.filter, hcounts]
  · simp [Option.filter, hcounts]

theorem MayStart.quiet (hstart : s.MayStart) (hquiet : Quiet s.self self')
    (hshould : self'.should_reconnect = s.self.should_reconnect)
    (hattempts : self'.reconnect_attempts = s.self.reconnect_attempts)
    (hmax : self'.max_reconnect_attempts = s.self.max_reconnect_attempts) : MayStart { s with self := self' } := by
  obtain ⟨⟨hwants, hleft⟩, hunder, hconnected⟩ := hstart
  have hle := hquiet.under_way_le
  refine ⟨⟨hshould.trans hwants, ?_⟩, ?_, hconnected.of_keys hquiet.keys⟩
  · rw [hattempts, hmax]
    exact hleft
  · dsimp only
    omega

/-- The loss of a live connection is the first report of it, whatever else the step does
    before it schedules the reconnect. -/
theorem Balanced.report (hbalanced : Balanced s) (hlive : s.Live i) (hstart : s.MayStart) (hquiet : Quiet s.self self')
    (hshould : self'.should_reconnect = s.self.should_reconnect)
    (hattempts : self'.reconnect_attempts = s.self.reconnect_attempts)
    (hmax : self'.max_reconnect_attempts = s.self.max_reconnect_attempts) :
    Balanced { s with self := self'.reconnect, lost := s.lost ++ [i], ended := s.ended ++ [i] } := by
  obtain ⟨⟨attempt, hattempt, hresolved⟩, hup, habandoned⟩ := hlive
  obtain ⟨other, hother, -, hpromise⟩ := hquiet.attempt hattempt
  have hlive : Live { s with self := self' } i := ⟨⟨other, hother, hpromise.trans hresolved⟩, hup, habandoned⟩
  exact (hbalanced.quiet hquiet hshould).schedule (hstart.quiet hquiet hshould hattempts hmax) hlive

/-- No attempt is active. -/
def Quiescent (s : Ledger) : Prop :=
  ∀ i origin promise, s.self.key i = some (origin, promise) → ¬ s.Active i promise

/-- The attempts after another one was started. -/
theorem push_key {origin : Origin} {ready_state : ReadyState} {ws : Option Nat} {j : Nat} {pair : Origin × Promise}
    (hkey : (s.self.push_attempt { origin := origin, ready_state := ready_state } ws).key j = some pair) :
    s.self.key j = some pair ∨ (j = s.self.attempts.length ∧ pair = (origin, .pending)) := by
  obtain ⟨attempt, hattempt, rfl⟩ := Option.map_eq_some_iff.mp hkey
  obtain hold | ⟨rfl, rfl⟩ := interaction.getElem?_concat_cases hattempt
  · exact .inl (by rw [MercurySocket.key, hold]; rfl)
  · exact .inr ⟨rfl, rfl⟩

/-- The attempt that is started while none is active becomes the active one. -/
theorem Balanced.held_push (hbalanced : Balanced s) (origin : Origin) (ready_state : ReadyState) (ws latest : Option Nat)
    (hafter : (s.self.push_attempt { origin := origin, ready_state := ready_state } ws).under_way =
      if origin = .reconnect then 1 else 0)
    (hfailed : ∀ j ∈ s.self.reactions,
      (s.self.push_attempt { origin := origin, ready_state := ready_state } ws).has_failed j = s.self.has_failed j)
    (hnone : s.Quiescent) (hshould : s.self.should_reconnect = true)
    (hlatest : (origin = .reconnect ∧ latest = s.latest ∧ s.Connected) ∨
      (origin = .connect ∧ latest = some s.self.attempts.length)) :
    Held { s with
      self := s.self.push_attempt { origin := origin, ready_state := ready_state } ws
      latest := latest } := by
  have hheld := hbalanced.held
  have hlength : (s.self.push_attempt { origin := origin, ready_state := ready_state } ws).attempts.length =
      s.self.attempts.length + 1 := by simp [MercurySocket.push_attempt]
  -- An active attempt is the new one.
  have hactive : ∀ j origin' promise,
      (s.self.push_attempt { origin := origin, ready_state := ready_state } ws).key j = some (origin', promise) →
      s.Active j promise → j = s.self.attempts.length ∧ origin' = origin ∧ promise = .pending := by
    intro j origin' promise hkey hactive
    obtain hold | ⟨rfl, hpair⟩ := push_key hkey
    · exact absurd hactive (hnone j origin' promise hold)
    · rw [Prod.mk.injEq] at hpair
      exact ⟨rfl, hpair⟩
  constructor
  all_goals dsimp only
  · intro j origin' promise hkey hup
    rw [hlength, (hactive j origin' promise hkey hup).1]
  · intro j origin' promise hkey hup hwaits
    obtain ⟨-, rfl, rfl⟩ := hactive j origin' promise hkey hup
    rw [hafter, if_neg fun heq => hwaits ⟨heq, rfl⟩]
  · intro j origin' hkey hup
    cases (hactive j origin' .resolved hkey hup).2.2
  · intro j hkey habandoned
    obtain ⟨rfl, rfl, -⟩ := hactive j .connect .pending hkey ⟨habandoned, .inl rfl⟩
    obtain ⟨hbad, -⟩ | ⟨-, hnew⟩ := hlatest
    · cases hbad
    · exact hnew
  · intro hstopped
    rw [show s.self.should_reconnect = false from hstopped] at hshould
    cases hshould
  · intro j origin' promise hkey habandoned hcounts hinactive
    obtain hold | ⟨rfl, hpair⟩ := push_key hkey
    · exact hheld.accounted j origin' promise hold habandoned hcounts hinactive
    · rw [Prod.mk.injEq] at hpair
      exact absurd ⟨habandoned, .inl hpair.2⟩ hinactive
  · intro j hmem
    obtain hended | hfailed := hheld.fresh j hmem
    · exact .inl hended
    · right
      obtain ⟨attempt, hattempt, hrejected⟩ := (Option.any_eq_true _ _).mp hfailed
      obtain ⟨hlt, -⟩ := List.getElem?_eq_some_iff.mp hattempt
      have hold : (s.self.attempts ++ [{ origin := origin, ready_state := ready_state }])[j]? = some attempt :=
        (List.getElem?_append_left hlt).trans hattempt
      simp [MercurySocket.has_failed, MercurySocket.push_attempt, hold, hrejected]
  · intro j origin' hkey habandoned hmem
    obtain ⟨rfl, -, -⟩ := hactive j origin' .pending hkey ⟨habandoned, .inl rfl⟩
    exact absurd (hheld.bounded _ hmem) (Nat.lt_irrefl _)
  · intro j hmem
    have hlt := hheld.bounded j hmem
    omega
  · intro j origin' hkey habandoned
    obtain hold | ⟨rfl, -⟩ := push_key hkey
    · exact hheld.stale j origin' hold habandoned
    · exact absurd hbalanced.abandoned (Nat.not_le_of_lt habandoned)
  · intro j hmem hrejected
    have hold := hfailed j hmem
    exact hheld.reacting j hmem (hold ▸ hrejected)
  · intro j origin' promise hcurrent hkey
    obtain ⟨rfl, rfl, i, attempt, hconnected, hattempt, -⟩ | ⟨rfl, rfl⟩ := hlatest
    · obtain rfl : i = j := Option.some.inj (hconnected.symm.trans hcurrent)
      obtain hold | ⟨rfl, -⟩ := push_key hkey
      · exact hheld.latest i origin' promise hcurrent hold
      · obtain ⟨hlt, -⟩ := List.getElem?_eq_some_iff.mp hattempt
        exact absurd hlt (Nat.lt_irrefl _)
    · obtain rfl : s.self.attempts.length = j := Option.some.inj hcurrent
      obtain hold | ⟨-, hpair⟩ := push_key hkey
      · obtain ⟨attempt, hattempt, -⟩ := attempt_of_key hold
        obtain ⟨hlt, -⟩ := List.getElem?_eq_some_iff.mp hattempt
        exact absurd hlt (Nat.lt_irrefl _)
      · exact (Prod.mk.inj hpair).1

theorem Balanced.push (hbalanced : Balanced s) (origin : Origin) (ready_state : ReadyState) (ws latest : Option Nat)
    (hunder : s.self.under_way = 0) (hnone : s.Quiescent) (hshould : s.self.should_reconnect = true)
    (hlatest : (origin = .reconnect ∧ latest = s.latest ∧ s.Connected) ∨
      (origin = .connect ∧ latest = some s.self.attempts.length)) :
    Balanced { s with
      self := s.self.push_attempt { origin := origin, ready_state := ready_state } ws
      latest := latest } := by
  have hold {j : Nat} {attempt : Attempt} (hattempt : s.self.attempts[j]? = some attempt) :
      (s.self.attempts ++ [{ origin := origin, ready_state := ready_state }])[j]? = some attempt := by
    obtain ⟨hlt, -⟩ := List.getElem?_eq_some_iff.mp hattempt
    exact (List.getElem?_append_left hlt).trans hattempt
  have hfailed : ∀ j ∈ s.self.reactions,
      (s.self.push_attempt { origin := origin, ready_state := ready_state } ws).has_failed j = s.self.has_failed j := by
    intro j hmem
    obtain ⟨attempt, hattempt, -⟩ := hbalanced.queued j hmem
    simp [MercurySocket.has_failed, MercurySocket.push_attempt, hold hattempt, hattempt]
  have hcountp (p : Nat → Bool) : s.self.reactions.countP (fun j =>
      (s.self.push_attempt { origin := origin, ready_state := ready_state } ws).has_failed j && p j) =
      s.self.reactions.countP fun j => s.self.has_failed j && p j := by
    apply List.countP_congr
    intro j hmem
    rw [hfailed j hmem]
  have hafter : (s.self.push_attempt { origin := origin, ready_state := ready_state } ws).under_way =
      if origin = .reconnect then 1 else 0 := by
    have hall : s.self.reactions.countP
        (s.self.push_attempt { origin := origin, ready_state := ready_state } ws).has_failed =
        s.self.reactions.countP s.self.has_failed := by
      have hcount := hcountp fun _ => true
      simp only [Bool.and_true] at hcount
      exact hcount
    simp only [MercurySocket.under_way, MercurySocket.push_attempt, MercurySocket.pending_reconnects,
      List.countP_append, List.countP_singleton, MercurySocket.reconnect_timers, Attempt.is_pending_reconnect,
      beq_self_eq_true, Bool.and_true, beq_iff_eq] at hunder hall ⊢
    rw [hall]
    omega
  refine ⟨hbalanced.held_push origin ready_state ws latest hafter hfailed hnone hshould hlatest, ?_,
    (hcountp _).symm ▸ hbalanced.counted, ?_, ?_, ?_, ?_⟩
  · dsimp only
    rw [hafter]
    split
    · exact Nat.le_refl _
    · exact Nat.zero_le _
  · intro hsome
    obtain ⟨-, rfl, j, attempt, hlatest, hattempt, hresolved⟩ | ⟨rfl, -⟩ := hlatest
    · exact ⟨j, attempt, hlatest, hold hattempt, hresolved⟩
    · dsimp only at hsome
      rw [hafter, if_neg (by decide)] at hsome
      exact absurd hsome (Nat.lt_irrefl 0)
  · intro j hmem
    obtain ⟨attempt, hattempt, hsettled⟩ := hbalanced.queued j hmem
    exact ⟨attempt, hold hattempt, hsettled⟩
  · intro j hmem
    obtain ⟨attempt, hattempt, hsettled⟩ := hbalanced.lost j hmem
    exact ⟨attempt, hold hattempt, hsettled⟩
  · have hle := hbalanced.abandoned
    simp only [MercurySocket.push_attempt, List.length_append]
    omega

/-- `_connectInternal`: a reconnect that fails at once is accounted for. -/
theorem Balanced.connect_internal (builtins : Builtins) (hbalanced : Balanced s) (origin : Origin) (now : Nat) (factory : Except String Unit)
    (latest : Option Nat) (hunder : s.self.under_way = 0) (hnone : s.Quiescent) (hshould : s.self.should_reconnect = true)
    (hlatest : (origin = .reconnect ∧ latest = s.latest ∧ s.Connected) ∨
      (origin = .connect ∧ latest = some s.self.attempts.length)) :
    Balanced { s with
      self := MercurySocket.connect_internal builtins s.self origin now factory
      lost := match origin, MercurySocket.create_socket builtins s.self.base_url now factory with
        | .reconnect, .error _ => s.account s.self.attempts.length
        | _, _ => s.lost
      latest := latest } := by
  unfold MercurySocket.connect_internal
  cases hcreated : MercurySocket.create_socket builtins s.self.base_url now factory with
  | ok _ =>
    have hlost : (match origin, (Except.ok PUnit.unit : Except String Unit) with
        | .reconnect, .error _ => s.account s.self.attempts.length
        | _, _ => s.lost) = s.lost := by cases origin <;> rfl
    rw [hlost]
    exact hbalanced.push origin .connecting _ latest hunder hnone hshould hlatest
  | error message =>
    have hpushed := hbalanced.push origin .closed s.self.ws latest hunder hnone hshould hlatest
    have hnew : (s.self.push_attempt { origin := origin, ready_state := .closed } s.self.ws).attempts[s.self.attempts.length]? =
        some { origin := origin, ready_state := .closed } := by
      simp [MercurySocket.push_attempt]
    have hsettled := hpushed.settle hnew rfl (show Promise.rejected (.error message) ≠ .pending from nofun)
    have hfresh : s.self.attempts.length ∉ s.lost := by
      intro hmem
      obtain ⟨attempt, hattempt, -⟩ := hbalanced.lost _ hmem
      obtain ⟨hlt, -⟩ := List.getElem?_eq_some_iff.mp hattempt
      exact absurd hlt (Nat.lt_irrefl _)
    have habandoned := hbalanced.abandoned
    cases origin with
    | connect => simpa using hsettled
    | reconnect => simpa [Promise.is_rejected, account, hfresh, Nat.not_lt_of_le habandoned, habandoned] using hsettled

/-- The reaction to a promise leaves the queue and does nothing that counts, unless it is to
    the failure of an attempt that was not abandoned. -/
theorem Balanced.pop (hbalanced : Balanced s) {rest : List Nat} (hreactions : s.self.reactions = i :: rest)
    (hother : ¬ (s.self.has_failed i = true ∧ s.abandoned ≤ i)) :
    Balanced { s with self := { s.self with reactions := rest } } := by
  have hcounted := hbalanced.counted
  have hqueued := hbalanced.queued
  rw [hreactions] at hcounted hqueued
  have hunder : ({ s.self with reactions := rest } : MercurySocket).under_way ≤ s.self.under_way := by
    simp only [MercurySocket.under_way, hreactions, List.countP_cons]
    exact Nat.add_le_add_left (Nat.le_add_right _ _) _
  have hsame : Unsettling s.self { s.self with reactions := rest } :=
    ⟨rfl, rfl, hunder, hreactions ▸ List.subset_cons_self i rest⟩
  refine ⟨hbalanced.held.unsettling hsame, Nat.le_trans hunder hbalanced.single, ?_, ?_, ?_, hbalanced.lost, hbalanced.abandoned⟩
  · rw [List.countP_cons, if_neg (by simpa using hother), Nat.add_zero] at hcounted
    exact hcounted
  · intro hsome
    exact hbalanced.connected (Nat.lt_of_lt_of_le hsome hunder)
  · intro j hmem
    exact hqueued j (List.mem_cons_of_mem i hmem)

/-- The reaction to a failure counts it, and schedules the next attempt. -/
theorem Balanced.pop_failed (hbalanced : Balanced s) {rest : List Nat} (hreactions : s.self.reactions = i :: rest)
    (hfailed : s.self.has_failed i = true) (habandoned : s.abandoned ≤ i) (hcan : s.self.CanReconnect) :
    Balanced { s with self := MercurySocket.reconnect { s.self with reactions := rest } } := by
  have hschedules : MercurySocket.Schedules { s.self with reactions := rest }
      (MercurySocket.reconnect { s.self with reactions := rest }) := MercurySocket.reconnect_schedules hcan
  generalize MercurySocket.reconnect { s.self with reactions := rest } = self' at hschedules
  have hcounted := hbalanced.counted
  have hqueued := hbalanced.queued
  have hsingle := hbalanced.single
  rw [hreactions] at hcounted hqueued
  have hsame : self'.has_failed = s.self.has_failed := by
    unfold MercurySocket.has_failed
    rw [hschedules.attempts]
  have hpending : self'.pending_reconnects = s.self.pending_reconnects := by
    unfold MercurySocket.pending_reconnects
    rw [hschedules.attempts]
  have htimers : self'.reconnect_timers = s.self.reconnect_timers + 1 := hschedules.reconnect_timers
  have hincrements : self'.increments = s.self.increments + 1 := hschedules.increments
  have hrest : self'.reactions = rest := hschedules.reactions
  have hunder : self'.under_way = s.self.under_way := by
    simp only [MercurySocket.under_way, hschedules.reactions, hreactions, List.countP_cons, hfailed, if_true, hsame,
      hpending, htimers]
    omega
  have hkept : Unsettling s.self self' :=
    ⟨by rw [hschedules.attempts], hschedules.should_reconnect, Nat.le_of_eq hunder,
      hrest ▸ hreactions ▸ List.subset_cons_self i rest⟩
  refine ⟨hbalanced.held.unsettling hkept, ?_, ?_, ?_, ?_, ?_, ?_⟩
  · dsimp only
    omega
  · rw [List.countP_cons, if_pos (by simpa using ⟨hfailed, habandoned⟩)] at hcounted
    dsimp only
    rw [hincrements, hrest, hsame]
    omega
  · intro hsome
    dsimp only at hsome
    obtain ⟨j, other, hlatest, hother, hresolved⟩ := hbalanced.connected (hunder ▸ hsome)
    exact ⟨j, other, hlatest, by rw [hschedules.attempts]; exact hother, hresolved⟩
  · dsimp only
    rw [hschedules.reactions, hschedules.attempts]
    intro j hmem
    exact hqueued j (List.mem_cons_of_mem i hmem)
  · dsimp only
    rw [hschedules.attempts]
    exact hbalanced.lost
  · dsimp only
    rw [hschedules.attempts]
    exact hbalanced.abandoned

end parts

end Ledger

end webex.node.mercury_socket
