import WebexHandler.Go.MercurySocket.Goroutines

open transition

namespace webex.go.mercury_socket

/-- A read goroutine that may come to handle a readiness message although its `readyCh`
    is, or is about to be, closed. -/
def Conn.may_repeat (conn : Conn) : Bool :=
  match conn.read with
  | .reading => conn.ready_closes != 0 && !conn.down
  | .handling message => conn.ready_closes != 0 && (!conn.down || message.is_connection_ready)
  | .testing ready => conn.ready_closes != 0 && (!conn.down || ready)
  | .signalling => !conn.down
  | _ => false

namespace Process

/-- The read goroutine of a connection has been started and has not ended. -/
def Running (p : Process) (c : Nat) : Prop := (p.conns c).read ≠ .idle ∧ (p.conns c).read ≠ .done

/-- A read goroutine that can change `connectionReady`, start a reconnect or deliver
    events: any but one that waits for the error that ends it while nothing is ready. -/
def CanAct (p : Process) (c : Nat) : Prop :=
  p.Running c ∧ ¬ ((p.conns c).down = true ∧ (p.conns c).read = .reading ∧ p.ms.connection_ready = false)

/-- A read goroutine that changes `connectionReady`, starts a reconnect or delivers an
    event is one that can act. -/
theorem canAct_of_changes {p p' : Process} {c : Nat} {label : Label}
    (hreader : label = .read_next c ∨ ∃ received, label = .read c received) (hstep : p.step label = some p')
    (hchanges : p'.ms.connection_ready ≠ p.ms.connection_ready ∨ p'.triggers ≠ p.triggers ∨
      p'.deliveries ≠ p.deliveries) : p.CanAct c := by
  unfold Process.step at hstep
  split at hstep
  · cases hstep
  obtain rfl | ⟨received, rfl⟩ := hreader
  · have hpc : (p.conns c).read ≠ .idle ∧ (p.conns c).read ≠ .done ∧ (p.conns c).read ≠ .reading := by
      refine ⟨?_, ?_, ?_⟩
      all_goals
        intro hread
        simp [Process.read_next, hread] at hstep
    exact ⟨⟨hpc.1, hpc.2.1⟩, fun hwaits => hpc.2.2 hwaits.2.1⟩
  · simp only [Option.ite_none_right_eq_some] at hstep
    have hquiet : p'.ms.connection_ready = p.ms.connection_ready ∧ p'.triggers = p.triggers ∧
        p'.deliveries = p.deliveries := by
      cases received with
      | error =>
        simp only [Process.read] at hstep
        split at hstep
        · cases hstep.2
          exact ⟨rfl, rfl, rfl⟩
        · cases hstep.2
          exact ⟨rfl, rfl, rfl⟩
      | text =>
        simp only [Process.read, Option.ite_none_left_eq_some] at hstep
        cases hstep.2.2
        exact ⟨rfl, rfl, rfl⟩
      | message message =>
        simp only [Process.read, Option.ite_none_left_eq_some] at hstep
        cases hstep.2.2
        exact ⟨rfl, rfl, rfl⟩
    obtain hready | htriggers | hdeliveries := hchanges
    · exact absurd hquiet.1 hready
    · exact absurd hquiet.2.1 htriggers
    · exact absurd hquiet.2.2 hdeliveries

/-- The operation of a `connectInternal` that a step performs. -/
def attempting (p : Process) : Label → Option (AttemptPc × Outcome)
  | .call index outcome => match p.calls[index]? with
    | some (.connecting pc) => some (pc, outcome)
    | _ => none
  | .loop outcome => match p.loop with
    | some (.connecting pc) => some (pc, outcome)
    | _ => none
  | _ => none

/-- A new connection waits for the old read goroutines: a `connectInternal` begins only
    while those still running wait for the error that ends them, it starts its own only
    while none of them can act, readiness is set only when the others have ended, and
    `Disconnect` clears it only when no readiness message is under way. -/
structure Awaited (p : Process) (label : Label) : Prop where
  start : ∀ outcome, p.attempting label = some (.start, outcome) →
    ∀ c, p.Running c → (p.conns c).down = true ∧ (p.conns c).read = .reading
  spawn : ∀ c, p.attempting label = some (.authorize c, .proceeds) → ∀ other, ¬ p.CanAct other
  ready : ∀ c, label = .read_next c → (p.conns c).read = .readying → ∀ other, p.Running other → other = c
  clear : ∀ index outcome, label = .call index outcome → p.calls[index]? = some .disconnect_ready →
    ∀ c, (p.conns c).may_repeat = false

/-- At most one read goroutine can act, and no `readyCh` is or will be closed twice. -/
structure Exclusive (p : Process) : Prop where
  acts : ∀ c other, p.CanAct c → p.CanAct other → c = other
  unready : p.ms.connection_ready = false → ∀ c, (p.conns c).may_repeat = false
  signalling : ∀ c, (p.conns c).read = .readying ∨ (p.conns c).read = .signalling → (p.conns c).ready_closes = 0
  panicked : p.panicked = false

section preservation

variable {p p' : Process}

/-- What the invariant looks at, when connections at most go down. -/
structure Fades (p p' : Process) : Prop where
  read : ∀ c, (p'.conns c).read = (p.conns c).read
  ready_closes : ∀ c, (p'.conns c).ready_closes = (p.conns c).ready_closes
  down : ∀ c, (p.conns c).down = true → (p'.conns c).down = true
  connection_ready : p'.ms.connection_ready = p.ms.connection_ready
  panicked : p'.panicked = p.panicked

theorem Fades.trans {q : Process} (hfirst : p.Fades p') (hthen : p'.Fades q) : p.Fades q where
  read c := (hthen.read c).trans (hfirst.read c)
  ready_closes c := (hthen.ready_closes c).trans (hfirst.ready_closes c)
  down c hdown := hthen.down c (hfirst.down c hdown)
  connection_ready := hthen.connection_ready.trans hfirst.connection_ready
  panicked := hthen.panicked.trans hfirst.panicked

/-- A step that touches neither the connections nor the readiness. -/
theorem fades_of_eq (hconns : p'.conns = p.conns) (hready : p'.ms.connection_ready = p.ms.connection_ready)
    (hpanicked : p'.panicked = p.panicked) : p.Fades p' where
  read c := by rw [hconns]
  ready_closes c := by rw [hconns]
  down c hdown := by rwa [hconns]
  connection_ready := hready
  panicked := hpanicked

theorem CanAct.of_fades (hfades : p.Fades p') {c : Nat} (hact : p'.CanAct c) : p.CanAct c := by
  obtain ⟨⟨hidle, hdone⟩, hwaits⟩ := hact
  rw [hfades.read] at hidle hdone
  refine ⟨⟨hidle, hdone⟩, ?_⟩
  rintro ⟨hdown, hreading, hready⟩
  exact hwaits ⟨hfades.down c hdown, (hfades.read c).trans hreading, hfades.connection_ready.trans hready⟩

theorem may_repeat_of_down {conn conn' : Conn} (hread : conn'.read = conn.read)
    (hcloses : conn'.ready_closes = conn.ready_closes) (hdown : conn.down = true → conn'.down = true)
    (hnever : conn.may_repeat = false) : conn'.may_repeat = false := by
  unfold Conn.may_repeat at *
  rw [hread, hcloses]
  cases hold : conn.down with
  | true =>
    rw [hdown hold]
    rw [hold] at hnever
    exact hnever
  | false =>
    rw [hold] at hnever
    split
    all_goals simp_all

theorem Exclusive.of_fades (hexclusive : p.Exclusive) (hfades : p.Fades p') : p'.Exclusive where
  acts c other hact hother := hexclusive.acts c other (hact.of_fades hfades) (hother.of_fades hfades)
  unready hready c := by
    rw [hfades.connection_ready] at hready
    exact may_repeat_of_down (hfades.read c) (hfades.ready_closes c) (hfades.down c) (hexclusive.unready hready c)
  signalling c hread := by
    rw [hfades.read] at hread
    rw [hfades.ready_closes]
    exact hexclusive.signalling c hread
  panicked := hfades.panicked.trans hexclusive.panicked

theorem fades_set_conn {c : Nat} {conn : Conn} (hread : conn.read = (p.conns c).read)
    (hcloses : conn.ready_closes = (p.conns c).ready_closes) (hdown : (p.conns c).down = true → conn.down = true) :
    p.Fades (p.set_conn c conn) where
  read other := by
    by_cases heq : other = c
    · subst heq
      simpa [set_conn] using hread
    · simp [set_conn, heq]
  ready_closes other := by
    by_cases heq : other = c
    · subst heq
      simpa [set_conn] using hcloses
    · simp [set_conn, heq]
  down other hother := by
    by_cases heq : other = c
    · subst heq
      simpa [set_conn] using hdown hother
    · simpa [set_conn, heq] using hother
  connection_ready := rfl
  panicked := rfl

theorem fades_cancel (c : Nat) : p.Fades (p.cancel c) :=
  fades_set_conn rfl rfl fun _ => rfl

theorem fades_close_conn (c : Nat) : p.Fades (p.close_conn c) :=
  fades_set_conn rfl rfl fun _ => Bool.or_true _

theorem fades_close_web_socket : p.Fades p.close_web_socket := by
  have hcancelled : p.Fades (p.ms.cancel_fn.elim p p.cancel) := by
    cases p.ms.cancel_fn with
    | none => exact fades_of_eq rfl rfl rfl
    | some c => exact fades_cancel c
  have hclosed : p.Fades (p.ms.conn.elim (p.ms.cancel_fn.elim p p.cancel) (p.ms.cancel_fn.elim p p.cancel).close_conn) := by
    cases p.ms.conn with
    | none => exact hcancelled
    | some c => exact hcancelled.trans (fades_close_conn c)
  exact ⟨hclosed.read, hclosed.ready_closes, hclosed.down, rfl, hclosed.panicked⟩

theorem canAct_of_ne {c : Nat} {conn : Conn} (hconns : p'.conns = (p.set_conn c conn).conns)
    (hready : p'.ms.connection_ready = p.ms.connection_ready) {other : Nat} (hne : other ≠ c) :
    p'.CanAct other ↔ p.CanAct other := by
  unfold CanAct Running
  rw [hconns, hready]
  simp [set_conn, hne]

/-- The read goroutine of one connection moves on, and the others do not. -/
theorem Exclusive.of_conn (hexclusive : p.Exclusive) (c : Nat) (conn : Conn)
    (hconns : p'.conns = (p.set_conn c conn).conns) (hready : p'.ms.connection_ready = p.ms.connection_ready)
    (hpanicked : p'.panicked = p.panicked) (hact : p'.CanAct c → p.CanAct c ∨ ∀ other, ¬ p.CanAct other)
    (hrepeat : p.ms.connection_ready = false → conn.may_repeat = false)
    (hsignal : conn.read = .readying ∨ conn.read = .signalling → conn.ready_closes = 0) : p'.Exclusive where
  acts := by
    have halone : ∀ other, other ≠ c → p'.CanAct c → ¬ p'.CanAct other := by
      intro other hne hc hother
      rw [canAct_of_ne hconns hready hne] at hother
      obtain hbefore | hnone := hact hc
      · exact hne (hexclusive.acts other c hother hbefore)
      · exact hnone other hother
    intro a b ha hb
    by_cases hac : a = c
    · subst hac
      by_contra hne
      exact halone b (Ne.symm hne) ha hb
    · by_cases hbc : b = c
      · subst hbc
        exact absurd ha (halone a hac hb)
      · rw [canAct_of_ne hconns hready hac] at ha
        rw [canAct_of_ne hconns hready hbc] at hb
        exact hexclusive.acts a b ha hb
  unready := by
    intro hfalse other
    rw [hready] at hfalse
    rw [hconns]
    by_cases heq : other = c
    · subst heq
      simpa [set_conn] using hrepeat hfalse
    · simpa [set_conn, heq] using hexclusive.unready hfalse other
  signalling := by
    intro other
    rw [hconns]
    by_cases heq : other = c
    · subst heq
      simpa [set_conn] using hsignal
    · simpa [set_conn, heq] using hexclusive.signalling other
  panicked := hpanicked.trans hexclusive.panicked

/-- Readiness is cleared, and the goroutines stay where they are. -/
theorem Exclusive.clear (hexclusive : p.Exclusive) (hconns : p'.conns = p.conns)
    (hready : p'.ms.connection_ready = false) (hpanicked : p'.panicked = p.panicked)
    (hrepeat : ∀ c, (p.conns c).may_repeat = false) : p'.Exclusive where
  acts := by
    have hact : ∀ c, p'.CanAct c → p.CanAct c := by
      rintro c ⟨hrunning, hwaits⟩
      unfold Running at hrunning
      rw [hconns] at hrunning hwaits
      refine ⟨hrunning, ?_⟩
      rintro ⟨hdown, hreading, -⟩
      exact hwaits ⟨hdown, hreading, hready⟩
    intro c other hc hother
    exact hexclusive.acts c other (hact c hc) (hact other hother)
  unready := by
    intro _ c
    rw [hconns]
    exact hrepeat c
  signalling := by
    rw [hconns]
    exact hexclusive.signalling
  panicked := hpanicked.trans hexclusive.panicked

/-- Only a read goroutine that is past its errors can act beside one that acts. -/
theorem Exclusive.waits (hexclusive : p.Exclusive) {c other : Nat} (hc : p.CanAct c) (hne : other ≠ c)
    (hrunning : p.Running other) : (p.conns other).down = true ∧ (p.conns other).read = .reading := by
  by_contra hwaits
  refine hne (hexclusive.acts other c ⟨hrunning, ?_⟩ hc)
  rintro ⟨hdown, hreading, -⟩
  exact hwaits ⟨hdown, hreading⟩

theorem may_repeat_of_waits {conn : Conn} (hdown : conn.down = true) (hreading : conn.read = .reading) :
    conn.may_repeat = false := by
  simp [Conn.may_repeat, hreading, hdown]

theorem may_repeat_of_not_running {c : Nat} (hnot : ¬ p.Running c) : (p.conns c).may_repeat = false := by
  unfold Running at hnot
  unfold Conn.may_repeat
  split
  all_goals simp_all

/-- `connectInternal` keeps to the invariant if it waits for the old read goroutines. -/
theorem Exclusive.attempt (hexclusive : p.Exclusive) {pc : AttemptPc} {outcome : Outcome} {status : AttemptStatus}
    (hstart : pc = .start → ∀ c, p.Running c → (p.conns c).down = true ∧ (p.conns c).read = .reading)
    (hspawn : ∀ c, pc = .authorize c → outcome = .proceeds → ∀ other, ¬ p.CanAct other)
    (hattempt : p.attempt pc outcome = some (p', status)) : p'.Exclusive := by
  unfold Process.attempt at hattempt
  split at hattempt
  · simp only [Option.some.injEq, Prod.mk.injEq] at hattempt
    obtain ⟨rfl, -⟩ := hattempt
    refine hexclusive.clear ?_ ?_ ?_ ?_
    · rfl
    · rfl
    · rfl
    intro c
    by_cases hrunning : p.Running c
    · exact may_repeat_of_waits (hstart rfl c hrunning).1 (hstart rfl c hrunning).2
    · exact may_repeat_of_not_running hrunning
  · simp only [Option.some.injEq, Prod.mk.injEq] at hattempt
    obtain ⟨rfl, -⟩ := hattempt
    exact hexclusive.of_fades (fades_of_eq rfl rfl rfl)
  · simp only [Option.ite_none_left_eq_some, Option.some.injEq, Prod.mk.injEq] at hattempt
    obtain ⟨-, rfl, -⟩ := hattempt
    exact hexclusive
  · simp only [Option.some.injEq, Prod.mk.injEq] at hattempt
    obtain ⟨rfl, -⟩ := hattempt
    exact hexclusive.of_fades (fades_cancel _)
  · simp only [Option.some.injEq, Prod.mk.injEq] at hattempt
    obtain ⟨rfl, -⟩ := hattempt
    exact hexclusive.of_fades (fades_of_eq rfl rfl rfl)
  · rename_i c
    simp only [Option.ite_none_left_eq_some, Option.some.injEq, Prod.mk.injEq] at hattempt
    obtain ⟨-, rfl, -⟩ := hattempt
    refine hexclusive.of_conn c _ rfl rfl rfl ?_ ?_ ?_
    · intro _
      exact .inr (hspawn c rfl rfl)
    · intro _
      simp [Conn.may_repeat]
    · simp
  · simp only [Option.some.injEq, Prod.mk.injEq] at hattempt
    obtain ⟨rfl, -⟩ := hattempt
    exact hexclusive.of_fades (fades_cancel _)
  · simp only [Option.ite_none_right_eq_some, Option.some.injEq, Prod.mk.injEq] at hattempt
    obtain ⟨-, rfl, -⟩ := hattempt
    exact hexclusive
  · simp only [Option.ite_none_right_eq_some, Option.some.injEq, Prod.mk.injEq] at hattempt
    obtain ⟨-, rfl, -⟩ := hattempt
    exact hexclusive.of_fades (fades_cancel _)
  · simp only [Option.some.injEq, Prod.mk.injEq] at hattempt
    obtain ⟨rfl, -⟩ := hattempt
    exact hexclusive.of_fades (fades_cancel _)
  · simp at hattempt

/-- A read that returns, in a goroutine that waits for it. -/
theorem Exclusive.read (hexclusive : p.Exclusive) {c : Nat} {received : Received}
    (hreading : (p.conns c).read = .reading) (hread : p.read c received = some p') : p'.Exclusive := by
  have hrunning : p.Running c := by simp [Running, hreading]
  cases received with
  | error =>
    simp only [Process.read] at hread
    split at hread
    · rename_i hready
      rw [Option.some.injEq] at hread
      subst hread
      refine hexclusive.of_conn c _ rfl rfl rfl ?_ ?_ ?_
      · intro _
        exact .inl ⟨hrunning, fun hwaits => by simp [hready] at hwaits⟩
      · intro _
        simp [Conn.may_repeat]
      · simp
    · rw [Option.some.injEq] at hread
      subst hread
      refine hexclusive.of_conn c _ rfl rfl rfl ?_ ?_ ?_
      · rintro ⟨⟨-, hdone⟩, -⟩
        simp [set_conn] at hdone
      · intro _
        simp [Conn.may_repeat]
      · simp
  | text =>
    simp only [Process.read, Option.ite_none_left_eq_some, Option.some.injEq] at hread
    obtain ⟨-, rfl⟩ := hread
    exact hexclusive
  | message message =>
    simp only [Process.read, Option.ite_none_left_eq_some, Option.some.injEq] at hread
    obtain ⟨hup, rfl⟩ := hread
    refine hexclusive.of_conn c _ rfl rfl rfl ?_ ?_ ?_
    · intro _
      exact .inl ⟨hrunning, fun hwaits => hup hwaits.1⟩
    · intro hready
      have hnever := hexclusive.unready hready c
      simp only [Conn.may_repeat, hreading, hup] at hnever
      simp_all [Conn.may_repeat, Conn.down]
    · simp

theorem handle_message_frame (c : Nat) (message : Message) :
    (p.handle_message c message).conns = p.conns ∧
      (p.handle_message c message).ms.connection_ready = p.ms.connection_ready ∧
      (p.handle_message c message).panicked = p.panicked := by
  unfold handle_message
  split
  · unfold handle_pong
    split
    · exact ⟨rfl, rfl, rfl⟩
    · exact ⟨rfl, rfl, rfl⟩
  all_goals exact ⟨rfl, rfl, rfl⟩

/-- The read goroutine between two reads. -/
theorem Exclusive.read_next (hexclusive : p.Exclusive) {c : Nat}
    (halone : (p.conns c).read = .readying → ∀ other, p.Running other → other = c)
    (hnext : p.read_next c = some p') : p'.Exclusive := by
  have hcan : (p.conns c).read ≠ .idle → (p.conns c).read ≠ .done → (p.conns c).read ≠ .reading → p.CanAct c := by
    intro hidle hdone hreading
    exact ⟨⟨hidle, hdone⟩, fun hwaits => hreading hwaits.2.1⟩
  unfold Process.read_next at hnext
  split at hnext
  · rename_i message hpc
    rw [Option.some.injEq] at hnext
    subst hnext
    obtain ⟨hconns, hready, hpanicked⟩ := @handle_message_frame p c message
    refine hexclusive.of_conn c { p.conns c with read := .testing message.is_connection_ready } ?_ hready hpanicked
      ?_ ?_ ?_
    · simp [set_read, set_conn, hconns]
    · intro _
      exact .inl (hcan (by simp [hpc]) (by simp [hpc]) (by simp [hpc]))
    · intro hunready
      have hnever := hexclusive.unready hunready c
      simpa [Conn.may_repeat, hpc, Conn.down] using hnever
    · simp
  · rename_i ready hpc
    rw [Option.some.injEq] at hnext
    subst hnext
    have hnever : p.ms.connection_ready = false → (p.conns c).may_repeat = false := fun hfalse =>
      hexclusive.unready hfalse c
    refine hexclusive.of_conn c _ rfl rfl rfl ?_ ?_ ?_
    · intro _
      exact .inl (hcan (by simp [hpc]) (by simp [hpc]) (by simp [hpc]))
    · intro hfalse
      have hnever := hnever hfalse
      simp only [Conn.may_repeat, hpc] at hnever
      split
      · simp [Conn.may_repeat]
      · simp_all [Conn.may_repeat, Conn.down]
    · split
      · rename_i htested
        intro _
        simp only [Bool.and_eq_true, Bool.not_eq_true'] at htested
        have hnever := hnever htested.1
        simpa [Conn.may_repeat, hpc, htested.2] using hnever
      · simp
  · rename_i hpc
    rw [Option.some.injEq] at hnext
    subst hnext
    have hclosed := hexclusive.signalling c (.inl hpc)
    have hother := halone hpc
    refine ⟨?_, ?_, ?_, hexclusive.panicked⟩
    · have hsame : ∀ other, Running { p.set_read c .signalling with
          ms := p.ms.set_connection_ready true
          pings := p.pings ++ [{ ctx := c }] } other → other = c := by
        intro other hrunning
        by_contra hne
        apply hne
        apply hother
        simpa [Running, set_read, set_conn, hne] using hrunning
      intro a b ha hb
      rw [hsame a ha.1, hsame b hb.1]
    · intro hfalse
      cases hfalse
    · intro other
      by_cases heq : other = c
      · subst heq
        simp [set_read, set_conn, hclosed]
      · simpa [set_read, set_conn, heq] using hexclusive.signalling other
  · rename_i hpc
    rw [Option.some.injEq] at hnext
    subst hnext
    have hopen := hexclusive.signalling c (.inr hpc)
    unfold close_ready
    rw [if_pos hopen]
    refine hexclusive.of_conn c _ rfl rfl rfl ?_ ?_ ?_
    · intro _
      exact .inl (hcan (by simp [hpc]) (by simp [hpc]) (by simp [hpc]))
    · intro hfalse
      have hnever := hexclusive.unready hfalse c
      simpa [Conn.may_repeat, hpc, Conn.down] using hnever
    · simp
  · rename_i hpc
    rw [Option.some.injEq] at hnext
    subst hnext
    refine hexclusive.of_conn c _ rfl rfl rfl ?_ ?_ ?_
    · intro _
      exact .inl (hcan (by simp [hpc]) (by simp [hpc]) (by simp [hpc]))
    · intro _
      simp [Conn.may_repeat]
    · simp
  · rename_i hpc
    rw [Option.some.injEq] at hnext
    subst hnext
    have hact := hcan (by simp [hpc]) (by simp [hpc]) (by simp [hpc])
    have hmoved : (p.set_read c .closing_check).Exclusive := by
      refine hexclusive.of_conn c _ rfl rfl rfl (fun _ => .inl hact) ?_ ?_
      · intro _
        simp [Conn.may_repeat]
      · simp
    refine hmoved.clear rfl rfl rfl ?_
    intro other
    by_cases heq : other = c
    · subst heq
      simp [set_read, set_conn, Conn.may_repeat]
    · have hsame : (p.set_read c .closing_check).conns other = p.conns other := by
        simp [set_read, set_conn, heq]
      rw [hsame]
      by_cases hrunning : p.Running other
      · obtain ⟨hdown, hreading⟩ := hexclusive.waits hact heq hrunning
        exact may_repeat_of_waits hdown hreading
      · exact may_repeat_of_not_running hrunning
  · rename_i hpc
    have hended : (p.set_read c .done).Exclusive := by
      refine hexclusive.of_conn c _ rfl rfl rfl ?_ ?_ ?_
      · rintro ⟨⟨-, hdone⟩, -⟩
        simp [set_read, set_conn] at hdone
      · intro _
        simp [Conn.may_repeat]
      · simp
    split at hnext
    · rw [Option.some.injEq] at hnext
      subst hnext
      exact hended.of_fades (fades_of_eq rfl rfl rfl)
    · rw [Option.some.injEq] at hnext
      subst hnext
      exact hended.of_fades (fades_of_eq rfl rfl rfl)
  · cases hnext

theorem Exclusive.loop_next (hexclusive : p.Exclusive) {outcome : Outcome} {pc : LoopPc}
    (hattempt : ∀ attempt status q, pc = .connecting attempt → p.attempt attempt outcome = some (q, status) →
      q.Exclusive) (hnext : p.loop_next outcome pc = some p') : p'.Exclusive := by
  cases pc with
  | closing =>
    simp only [Process.loop_next, Option.some.injEq] at hnext
    subst hnext
    exact (hexclusive.of_fades fades_close_web_socket).of_fades (fades_of_eq rfl rfl rfl)
  | head =>
    simp only [Process.loop_next] at hnext
    split at hnext
    · cases hnext
      exact hexclusive.of_fades (fades_of_eq rfl rfl rfl)
    split at hnext
    · cases hnext
      exact hexclusive.of_fades (fades_of_eq rfl rfl rfl)
    · cases hnext
      exact hexclusive.of_fades (fades_of_eq rfl rfl rfl)
  | connecting attempt =>
    simp only [Process.loop_next, Option.map_eq_some_iff] at hnext
    obtain ⟨⟨q, status⟩, hq, rfl⟩ := hnext
    have hkept := hattempt attempt status q rfl hq
    cases status with
    | continues pc => exact hkept.of_fades (fades_of_eq rfl rfl rfl)
    | succeeded => exact hkept.of_fades (fades_of_eq rfl rfl rfl)
    | failed => exact hkept.of_fades (fades_of_eq rfl rfl rfl)
  | _ =>
    simp only [Process.loop_next, Option.some.injEq] at hnext
    subst hnext
    exact hexclusive.of_fades (fades_of_eq rfl rfl rfl)

theorem Exclusive.call_next (hexclusive : p.Exclusive) {index : Nat} {outcome : Outcome} {pc : CallPc}
    (hattempt : ∀ attempt status q, pc = .connecting attempt → p.attempt attempt outcome = some (q, status) →
      q.Exclusive)
    (hclear : pc = .disconnect_ready → ∀ c, (p.conns c).may_repeat = false)
    (hnext : p.call_next index outcome pc = some p') : p'.Exclusive := by
  cases pc with
  | connecting attempt =>
    simp only [Process.call_next, Option.map_eq_some_iff] at hnext
    obtain ⟨⟨q, status⟩, hq, rfl⟩ := hnext
    have hkept := hattempt attempt status q rfl hq
    cases status with
    | continues pc => exact hkept.of_fades (fades_of_eq rfl rfl rfl)
    | succeeded => exact hkept.of_fades (fades_of_eq rfl rfl rfl)
    | failed => exact hkept.of_fades (fades_of_eq rfl rfl rfl)
  | connected ok => simp [Process.call_next] at hnext
  | disconnected => simp [Process.call_next] at hnext
  | disconnect_close =>
    simp only [Process.call_next, Option.some.injEq] at hnext
    subst hnext
    exact (hexclusive.of_fades fades_close_web_socket).of_fades (fades_of_eq rfl rfl rfl)
  | disconnect_ready =>
    simp only [Process.call_next, Option.some.injEq] at hnext
    subst hnext
    refine hexclusive.clear ?_ ?_ ?_ (hclear rfl)
    · rfl
    · rfl
    · rfl
  | _ =>
    simp only [Process.call_next, Option.some.injEq] at hnext
    subst hnext
    exact hexclusive.of_fades (fades_of_eq rfl rfl rfl)

theorem fades_trigger (htrigger : p.trigger = some p') : p.Fades p' := by
  unfold Process.trigger at htrigger
  split at htrigger
  · cases htrigger
  split at htrigger
  · cases htrigger
    exact fades_of_eq rfl rfl rfl
  · cases htrigger
    exact fades_of_eq rfl rfl rfl

theorem fades_ping_next {index : Nat} {ping : Ping} {id : String} {ok : Bool}
    (hnext : p.ping_next index ping id ok = some p') : p.Fades p' := by
  unfold Process.ping_next at hnext
  split at hnext
  · cases hnext
    exact fades_of_eq rfl rfl rfl
  · cases hnext
    exact fades_of_eq rfl rfl rfl
  · split at hnext
    · simp only [Option.ite_none_left_eq_some, Option.some.injEq] at hnext
      obtain ⟨-, rfl⟩ := hnext
      exact fades_of_eq rfl rfl rfl
    · cases hnext
      exact fades_of_eq rfl rfl rfl
  · cases hnext

theorem fades_pong_next {index : Nat} {pong : Pong} {timeout : Bool}
    (hnext : p.pong_next index pong timeout = some p') : p.Fades p' := by
  unfold Process.pong_next at hnext
  dsimp only at hnext
  split at hnext
  · cases hnext
  split at hnext
  · simp only [Option.ite_none_right_eq_some, Option.some.injEq] at hnext
    obtain ⟨-, rfl⟩ := hnext
    exact fades_of_eq rfl rfl rfl
  split at hnext
  · cases hnext
    exact fades_of_eq rfl rfl rfl
  · cases hnext
    exact fades_of_eq rfl rfl rfl

theorem Exclusive.step (hexclusive : p.Exclusive) {label : Label} (hawaited : p.Awaited label)
    (hstep : p.step label = some p') : p'.Exclusive := by
  unfold Process.step at hstep
  split at hstep
  · cases hstep
  cases label with
  | connect =>
    cases hstep
    exact hexclusive.of_fades (fades_of_eq rfl rfl rfl)
  | disconnect =>
    cases hstep
    exact hexclusive.of_fades (fades_of_eq rfl rfl rfl)
  | call index outcome =>
    simp only [Option.bind_eq_some_iff] at hstep
    obtain ⟨pc, hpc, hnext⟩ := hstep
    refine hexclusive.call_next ?_ ?_ hnext
    · rintro attempt status q rfl hq
      have hattempting : p.attempting (.call index outcome) = some (attempt, outcome) := by
        simp [attempting, hpc]
      refine hexclusive.attempt ?_ ?_ hq
      · rintro rfl
        exact hawaited.start outcome hattempting
      · rintro c rfl rfl
        exact hawaited.spawn c hattempting
    · rintro rfl
      exact hawaited.clear index outcome rfl hpc
  | read c received =>
    simp only [Option.ite_none_right_eq_some] at hstep
    exact hexclusive.read hstep.1 hstep.2
  | read_next c => exact hexclusive.read_next (hawaited.ready c rfl) hstep
  | trigger => exact hexclusive.of_fades (fades_trigger hstep)
  | loop outcome =>
    simp only [Option.bind_eq_some_iff] at hstep
    obtain ⟨pc, hpc, hnext⟩ := hstep
    refine hexclusive.loop_next ?_ hnext
    rintro attempt status q rfl hq
    have hattempting : p.attempting (.loop outcome) = some (attempt, outcome) := by
      simp [attempting, hpc]
    refine hexclusive.attempt ?_ ?_ hq
    · rintro rfl
      exact hawaited.start outcome hattempting
    · rintro c rfl rfl
      exact hawaited.spawn c hattempting
  | ping index id ok =>
    simp only [Option.bind_eq_some_iff] at hstep
    obtain ⟨ping, -, hnext⟩ := hstep
    exact hexclusive.of_fades (fades_ping_next hnext)
  | pong index timeout =>
    simp only [Option.bind_eq_some_iff] at hstep
    obtain ⟨pong, -, hnext⟩ := hstep
    exact hexclusive.of_fades (fades_pong_next hnext)
  | stability_timer =>
    simp only [Option.ite_none_right_eq_some, Option.some.injEq] at hstep
    obtain ⟨-, rfl⟩ := hstep
    exact hexclusive.of_fades (fades_of_eq rfl rfl rfl)

end preservation

end Process

/-- As long as every new connection waits for the old read goroutines, at most one read
    goroutine can act, and no `readyCh` is closed twice. -/
theorem one_live_connection_of_awaited (max_reconnect_attempts : Nat) {p : Process}
    (hreach : (interleavings max_reconnect_attempts).Reachable Process.Awaited p) :
    (∀ c other, p.CanAct c → p.CanAct other → c = other) ∧ p.panicked = false := by
  have hexclusive : p.Exclusive := by
    refine hreach.invariant ?_ ?_
    · refine ⟨?_, fun _ _ => rfl, ?_, rfl⟩
      · rintro c other ⟨⟨hidle, -⟩, -⟩
        exact absurd rfl hidle
      · rintro c (hread | hread)
        · cases hread
        · cases hread
    · intro q label next _ hexclusive hawaited hstep
      exact hexclusive.step hawaited hstep
  exact ⟨hexclusive.acts, hexclusive.panicked⟩

/-- While no read goroutine runs there is none to wait for. -/
theorem awaited_of_idle {p : Process} (hidle : ∀ c, (p.conns c).read = .idle) (label : Label) : p.Awaited label := by
  have hnot : ∀ c, ¬ p.Running c := fun c hrunning => hrunning.1 (hidle c)
  refine ⟨?_, ?_, ?_, ?_⟩
  · intro _ _ c hrunning
    exact absurd hrunning (hnot c)
  · rintro c _ other ⟨hrunning, -⟩
    exact hnot other hrunning
  · intro c _ hready
    rw [hidle c] at hready
    cases hready
  · intro _ _ _ _ c
    exact Process.may_repeat_of_not_running (hnot c)

/-- A `Connect` starts its read goroutine, which is the only one that can act. -/
theorem connecting_awaited :
    ∃ p, (interleavings 10).run (new_process 10) (.connect :: List.replicate 3 (.call 0 .proceeds) ++
        dialled (.call 0 .proceeds)) = some p ∧ p.CanAct 0 ∧
      (∀ c other, p.CanAct c → p.CanAct other → c = other) ∧ p.panicked = false := by
  have hidle : ∀ {p : Process} {label : Label}, (p.conns = fun _ => {}) → p.Awaited label := by
    intro p label hconns
    apply awaited_of_idle
    intro c
    rw [hconns]
  have hrun : ((interleavings 10).run (new_process 10) (.connect :: List.replicate 3 (.call 0 .proceeds) ++
      dialled (.call 0 .proceeds))).map (fun p => p.conns 0) = some { read := .reading } := by decide
  rw [Option.map_eq_some_iff] at hrun
  obtain ⟨p, hp, hconn⟩ := hrun
  refine ⟨p, hp, ?_, one_live_connection_of_awaited 10 (Machine.Reachable.run .init _ ?_ hp)⟩
  · simp [Process.CanAct, Process.Running, hconn, Conn.down]
  · exact .cons (hidle rfl) rfl <| .cons (hidle rfl) rfl <| .cons (hidle rfl) rfl <| .cons (hidle rfl) rfl <|
      .cons (hidle rfl) rfl <| .cons (hidle rfl) rfl <| .cons (hidle rfl) rfl <| .cons (hidle rfl) rfl <|
      .cons (hidle rfl) rfl trivial

/-- A ping goes unanswered, and the loop brings up another connection. -/
def reconnect_labels : List Label :=
  ([.ping 0 "" true, .ping 0 "ping-1" true, .ping 0 "" true, .pong 0 true, .trigger] : List Label) ++
    List.replicate 5 (.loop .proceeds) ++ dialled (.loop .proceeds) ++ ready_labels 1 ++
    List.replicate 4 (.loop .proceeds)

/-- The read goroutine of the old connection is slow. When it sees its error, it clears
    the readiness of the new connection, whose next readiness message closes `readyCh`
    again. -/
theorem slow_read_goroutine_panics :
    (∃ p, (interleavings 10).Reachable Machine.Always p ∧ p.CanAct 0 ∧ p.CanAct 1) ∧
    ∃ p, (interleavings 10).Reachable Machine.Always p ∧ p.panicked = true := by
  have hlive : ((interleavings 10).run (new_process 10) (connect_labels ++ reconnect_labels)).map (fun p =>
      ((p.conns 0).read, (p.conns 1).read, p.ms.connection_ready)) = some (.reading, .reading, true) := by
    decide
  have hpanic : ((interleavings 10).run (new_process 10) (connect_labels ++ reconnect_labels ++
      [.read 0 .error, .read_next 0, .read_next 0] ++ ready_labels 1)).map Process.panicked = some true := by
    decide
  rw [Option.map_eq_some_iff] at hlive hpanic
  obtain ⟨p, hp, hreads⟩ := hlive
  obtain ⟨q, hq, hpanicked⟩ := hpanic
  simp only [Prod.mk.injEq] at hreads
  obtain ⟨hold, hnew, hready⟩ := hreads
  refine ⟨⟨p, Machine.reachable_of_run hp, ?_, ?_⟩, q, Machine.reachable_of_run hq, hpanicked⟩
  · simp [Process.CanAct, Process.Running, hold, hready]
  · simp [Process.CanAct, Process.Running, hnew, hready]

end webex.go.mercury_socket
