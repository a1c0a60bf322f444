import WebexHandler.Go.MercurySocket.Goroutines

open transition

namespace webex.go.mercury_socket

/-- The read goroutine is in `handleClose`, on its way to a reconnect. -/
def Conn.closing (conn : Conn) : Bool :=
  match conn.read with
  | .closing_timer | .closing_flag | .closing_check => true
  | _ => false

/-- The read goroutine reads, or handles what it has read. -/
def Conn.serving (conn : Conn) : Bool :=
  match conn.read with
  | .reading | .handling _ | .testing _ | .readying | .signalling => true
  | _ => false

namespace Process

/-- A `reconnect` that will return without looking at its connection again: it has been
    told that its connection is ready, or is on its way out. -/
def finishing (p : Process) : LoopPc → Bool
  | .connecting (.waiting c) => (p.conns c).ready_closes != 0
  | .reporting | .scheduling | .notifying | .returning => true
  | _ => false

/-- A `reconnect` is running that is not finishing. -/
def Busy (p : Process) : Prop := ∃ pc, p.loop = some pc ∧ p.finishing pc = false

/-- A `triggerReconnect` is started or will be. -/
def Pending (p : Process) : Prop := 0 < p.triggers ∨ ∃ c, (p.conns c).closing = true

/-- A connection is served whose loss will be noticed. -/
def Healthy (p : Process) : Prop := p.ms.connection_ready = true ∧ ∃ c, (p.conns c).serving = true

/-- The `Connect` has been told that its connection is ready. -/
def ConnectReady (p : Process) : Prop :=
  p.calls = [.connected true] ∨ ∃ c, p.calls = [.connecting (.waiting c)] ∧ (p.conns c).ready_closes ≠ 0

/-- A `reconnect` that is finishing is not relied on: neither by the last
    `triggerReconnect`, unless a connection is served, nor by a read goroutine that reports
    a readiness which has been cleared in the meantime. -/
structure Unswallowed (p : Process) (label : Label) : Prop where
  trigger : label = .trigger → p.ms.reconnecting = true → ¬ p.Busy →
    1 < p.triggers ∨ (∃ c, (p.conns c).closing = true) ∨ p.Healthy
  ready : ∀ c, label = .read_next c → (p.conns c).read = .signalling →
    p.ms.connection_ready = true ∨ p.Pending ∨
      ∃ pc, p.loop = some pc ∧ p.finishing pc = false ∧ pc ≠ .connecting (.waiting c)

/-- Once the `Connect` has succeeded, a wish to reconnect is backed by a
    `triggerReconnect`, by a `reconnect` that has yet to look at its connection, or by a
    connection that is served. -/
structure Backed (p : Process) : Prop where
  guard : p.ms.reconnecting = p.loop.isSome
  backed : p.ConnectReady → p.ms.should_reconnect = true → p.panicked = false → p.Pending ∨ p.Busy ∨ p.Healthy

/-- Nothing is left to be done although reconnection is wanted: the `Connect` has
    succeeded and no goroutine of the socket has a further step. -/
structure Stalled (p : Process) : Prop where
  connected : p.calls = [.connected true]
  running : p.panicked = false
  should_reconnect : p.ms.should_reconnect = true
  reconnecting : p.ms.reconnecting = false
  triggers : p.triggers = 0
  loop : p.loop = none
  reads : ∀ c, (p.conns c).read = .idle ∨ (p.conns c).read = .done
  pings : ∀ ping ∈ p.pings, ping.pc = .done
  pongs : ∀ pong ∈ p.pongs, pong.done = true

theorem Backed.not_stalled {p : Process} (hbacked : p.Backed) : ¬ p.Stalled := by
  intro hstalled
  obtain (htriggers | ⟨c, hclosing⟩) | ⟨pc, hloop, -⟩ | ⟨-, c, hserving⟩ :=
    hbacked.backed (.inl hstalled.connected) hstalled.should_reconnect hstalled.running
  · rw [hstalled.triggers] at htriggers
    exact Nat.lt_irrefl 0 htriggers
  · obtain hread | hread := hstalled.reads c
    · simp [Conn.closing, hread] at hclosing
    · simp [Conn.closing, hread] at hclosing
  · rw [hstalled.loop] at hloop
    cases hloop
  · obtain hread | hread := hstalled.reads c
    · simp [Conn.serving, hread] at hserving
    · simp [Conn.serving, hread] at hserving

section preservation

variable {p p' : Process}

/-- A step that leaves what the invariant looks at alone, up to further triggers. -/
structure Same (p p' : Process) : Prop where
  conns : p'.conns = p.conns
  connection_ready : p'.ms.connection_ready = p.ms.connection_ready
  should_reconnect : p'.ms.should_reconnect = p.ms.should_reconnect
  reconnecting : p'.ms.reconnecting = p.ms.reconnecting
  triggers : p.triggers ≤ p'.triggers
  loop : p'.loop = p.loop
  calls : p'.calls = p.calls
  panicked : p'.panicked = p.panicked

theorem Backed.of_same (hbacked : p.Backed) (hsame : p.Same p') : p'.Backed := by
  refine ⟨by rw [hsame.reconnecting, hsame.loop]; exact hbacked.guard, ?_⟩
  intro hready hshould hpanicked
  unfold ConnectReady at hready
  rw [hsame.calls, hsame.conns] at hready
  rw [hsame.should_reconnect] at hshould
  rw [hsame.panicked] at hpanicked
  obtain (htriggers | ⟨c, hclosing⟩) | ⟨pc, hloop, hfinishing⟩ | ⟨hserved, c, hserving⟩ :=
    hbacked.backed hready hshould hpanicked
  · exact .inl (.inl (Nat.lt_of_lt_of_le htriggers hsame.triggers))
  · exact .inl (.inr ⟨c, by rwa [hsame.conns]⟩)
  · refine .inr (.inl ⟨pc, hsame.loop.trans hloop, ?_⟩)
    unfold finishing at hfinishing ⊢
    rwa [hsame.conns]
  · exact .inr (.inr ⟨hsame.connection_ready.trans hserved, c, by rwa [hsame.conns]⟩)

theorem backed_of_busy (hguard : p.ms.reconnecting = p.loop.isSome) (hbusy : p.Busy) : p.Backed :=
  ⟨hguard, fun _ _ _ => .inr (.inl hbusy)⟩

theorem backed_of_pending (hguard : p.ms.reconnecting = p.loop.isSome) (hpending : p.Pending) : p.Backed :=
  ⟨hguard, fun _ _ _ => .inl hpending⟩

theorem backed_of_healthy (hguard : p.ms.reconnecting = p.loop.isSome) (hhealthy : p.Healthy) : p.Backed :=
  ⟨hguard, fun _ _ _ => .inr (.inr hhealthy)⟩

theorem backed_of_stopped (hguard : p.ms.reconnecting = p.loop.isSome) (hstopped : p.ms.should_reconnect = false) :
    p.Backed := by
  refine ⟨hguard, fun _ hshould _ => ?_⟩
  rw [hstopped] at hshould
  cases hshould

/-- Until the `Connect` is told that its connection is ready, nothing is promised. -/
theorem backed_of_connecting (hguard : p.ms.reconnecting = p.loop.isSome) (hready : ¬ p.ConnectReady) : p.Backed :=
  ⟨hguard, fun h _ _ => absurd h hready⟩

theorem finishing_set_conn {c : Nat} {conn : Conn} (hcloses : conn.ready_closes = (p.conns c).ready_closes)
    (pc : LoopPc) : (p.set_conn c conn).finishing pc = p.finishing pc := by
  cases pc with
  | connecting attempt =>
    cases attempt with
    | waiting other =>
      by_cases heq : other = c
      · subst heq
        simp [finishing, set_conn, hcloses]
      · simp [finishing, set_conn, heq]
    | _ => rfl
  | _ => rfl

/-- One read goroutine moves on, and backs what it backed before. -/
theorem Backed.set_conn (hbacked : p.Backed) {c : Nat} {conn : Conn}
    (hcloses : conn.ready_closes = (p.conns c).ready_closes)
    (hclosing : (p.conns c).closing = true → conn.closing = true)
    (hserving : p.ms.connection_ready = true → (p.conns c).serving = true → conn.serving = true) :
    (p.set_conn c conn).Backed := by
  have hother : ∀ other, other ≠ c → (p.set_conn c conn).conns other = p.conns other := by
    intro other hne
    simp [Process.set_conn, hne]
  have hsame : (p.set_conn c conn).conns c = conn := by simp [Process.set_conn]
  refine ⟨hbacked.guard, ?_⟩
  intro hready hshould hpanicked
  have hbefore : p.ConnectReady := by
    obtain hconnected | ⟨waited, hwaiting, hsignalled⟩ := hready
    · exact .inl hconnected
    · refine .inr ⟨waited, hwaiting, ?_⟩
      by_cases heq : waited = c
      · subst heq
        rwa [hsame, hcloses] at hsignalled
      · rwa [hother waited heq] at hsignalled
  obtain (htriggers | ⟨a, hclosed⟩) | ⟨pc, hloop, hfinishing⟩ | ⟨hserved, a, hserves⟩ :=
    hbacked.backed hbefore hshould hpanicked
  · exact .inl (.inl htriggers)
  · refine .inl (.inr ⟨a, ?_⟩)
    by_cases heq : a = c
    · subst heq
      rw [hsame]
      exact hclosing hclosed
    · rwa [hother a heq]
  · exact .inr (.inl ⟨pc, hloop, (finishing_set_conn hcloses pc).trans hfinishing⟩)
  · refine .inr (.inr ⟨hserved, a, ?_⟩)
    by_cases heq : a = c
    · subst heq
      rw [hsame]
      exact hserving hserved hserves
    · rwa [hother a heq]

theorem Backed.read (hbacked : p.Backed) {c : Nat} {received : Received}
    (hreading : (p.conns c).read = .reading) (hread : p.read c received = some p') : p'.Backed := by
  cases received with
  | error =>
    simp only [Process.read] at hread
    split at hread
    · rw [Option.some.injEq] at hread
      subst hread
      exact backed_of_pending hbacked.guard (.inr ⟨c, by simp [set_read, Process.set_conn, Conn.closing]⟩)
    · rename_i hunready
      rw [Option.some.injEq] at hread
      subst hread
      refine hbacked.set_conn rfl ?_ fun hready => absurd hready hunready
      simp [Conn.closing, hreading]
  | text =>
    simp only [Process.read, Option.ite_none_left_eq_some, Option.some.injEq] at hread
    obtain ⟨-, rfl⟩ := hread
    exact hbacked
  | message message =>
    simp only [Process.read, Option.ite_none_left_eq_some, Option.some.injEq] at hread
    obtain ⟨-, rfl⟩ := hread
    refine hbacked.set_conn rfl ?_ ?_
    · simp [Conn.closing, hreading]
    · simp [Conn.serving]

/-- `handleMessage` starts at most another `triggerReconnect`. -/
theorem same_handle_message (c : Nat) (message : Message) : p.Same (p.handle_message c message) := by
  unfold handle_message
  split
  · unfold handle_pong
    split
    · exact ⟨rfl, rfl, rfl, rfl, Nat.le_refl _, rfl, rfl, rfl⟩
    · exact ⟨rfl, rfl, rfl, rfl, Nat.le_refl _, rfl, rfl, rfl⟩
  · exact ⟨rfl, rfl, rfl, rfl, Nat.le_refl _, rfl, rfl, rfl⟩
  · exact ⟨rfl, rfl, rfl, rfl, Nat.le_refl _, rfl, rfl, rfl⟩
  · exact ⟨rfl, rfl, rfl, rfl, Nat.le_succ _, rfl, rfl, rfl⟩
  · exact ⟨rfl, rfl, rfl, rfl, Nat.le_refl _, rfl, rfl, rfl⟩

/-- A readiness that is reported while it is current, or while something else backs the
    wish to reconnect. -/
theorem Backed.close_ready (hbacked : p.Backed) {c : Nat} (hpc : (p.conns c).read = .signalling)
    (hready : p.ms.connection_ready = true ∨ p.Pending ∨
      ∃ pc, p.loop = some pc ∧ p.finishing pc = false ∧ pc ≠ .connecting (.waiting c)) :
    (p.close_ready c).Backed := by
  unfold Process.close_ready
  split
  · obtain hserved | (htriggers | ⟨a, hclosing⟩) | ⟨pc, hloop, hfinishing, hother⟩ := hready
    · refine backed_of_healthy hbacked.guard ⟨hserved, c, ?_⟩
      simp [Process.set_conn, Conn.serving]
    · exact backed_of_pending hbacked.guard (.inl htriggers)
    · refine backed_of_pending hbacked.guard (.inr ⟨a, ?_⟩)
      have hne : a ≠ c := by
        rintro rfl
        simp [Conn.closing, hpc] at hclosing
      simpa [Process.set_conn, hne] using hclosing
    · refine backed_of_busy hbacked.guard ⟨pc, hloop, ?_⟩
      unfold finishing at hfinishing ⊢
      split
      · rename_i waited
        have hne : waited ≠ c := by
          rintro rfl
          exact hother rfl
        simpa [Process.set_conn, hne] using hfinishing
      all_goals simp_all
  · refine ⟨hbacked.guard, ?_⟩
    intro _ _ hpanicked
    cases hpanicked

theorem Backed.read_next (hbacked : p.Backed) {c : Nat}
    (hready : (p.conns c).read = .signalling → p.ms.connection_ready = true ∨ p.Pending ∨
      ∃ pc, p.loop = some pc ∧ p.finishing pc = false ∧ pc ≠ .connecting (.waiting c))
    (hnext : p.read_next c = some p') : p'.Backed := by
  unfold Process.read_next at hnext
  split at hnext
  · rename_i message hpc
    rw [Option.some.injEq] at hnext
    subst hnext
    have hsame : p.Same (p.handle_message c message) := same_handle_message c message
    refine (hbacked.of_same hsame).set_conn rfl ?_ ?_
    · simp [Conn.closing, hsame.conns, hpc]
    · simp [Conn.serving]
  · rename_i ready hpc
    rw [Option.some.injEq] at hnext
    subst hnext
    refine hbacked.set_conn rfl ?_ ?_
    · simp [Conn.closing, hpc]
    · intro hserved _
      simp [Conn.serving, hserved]
  · rw [Option.some.injEq] at hnext
    subst hnext
    refine backed_of_healthy hbacked.guard ⟨rfl, c, ?_⟩
    simp [set_read, Process.set_conn, Conn.serving]
  · rename_i hpc
    rw [Option.some.injEq] at hnext
    subst hnext
    exact hbacked.close_ready hpc (hready hpc)
  · rw [Option.some.injEq] at hnext
    subst hnext
    exact backed_of_pending hbacked.guard (.inr ⟨c, by simp [set_read, Process.set_conn, Conn.closing]⟩)
  · rw [Option.some.injEq] at hnext
    subst hnext
    exact backed_of_pending hbacked.guard (.inr ⟨c, by simp [set_read, Process.set_conn, Conn.closing]⟩)
  · split at hnext
    · rw [Option.some.injEq] at hnext
      subst hnext
      exact backed_of_pending hbacked.guard (.inl (Nat.succ_pos _))
    · rename_i hstopped
      rw [Option.some.injEq] at hnext
      subst hnext
      exact backed_of_stopped hbacked.guard (by simpa [MercurySocket.act] using hstopped)
  · cases hnext

/-- The fields that `connectInternal` leaves alone. -/
theorem attempt_frame {pc : AttemptPc} {outcome : Outcome} {status : AttemptStatus}
    (hattempt : p.attempt pc outcome = some (p', status)) :
    p'.ms.reconnecting = p.ms.reconnecting ∧ p'.loop = p.loop ∧ p'.calls = p.calls := by
  unfold Process.attempt at hattempt
  split at hattempt
  all_goals
    simp only [Option.ite_none_left_eq_some, Option.ite_none_right_eq_some, Option.some.injEq, Prod.mk.injEq,
      reduceCtorEq] at hattempt
  all_goals
    first
    | obtain ⟨rfl, -⟩ := hattempt
    | obtain ⟨-, rfl, -⟩ := hattempt
  all_goals exact ⟨rfl, rfl, rfl⟩

/-- A call of `connectInternal` goes on to wait only for a connection that is not ready. -/
theorem attempt_continues {pc next : AttemptPc} {outcome : Outcome}
    (hattempt : p.attempt pc outcome = some (p', .continues next)) :
    ∀ c, next = .waiting c → (p'.conns c).ready_closes = 0 := by
  unfold Process.attempt at hattempt
  split at hattempt
  all_goals
    simp only [Option.ite_none_left_eq_some, Option.ite_none_right_eq_some, Option.some.injEq, Prod.mk.injEq,
      reduceCtorEq, AttemptStatus.continues.injEq, and_false] at hattempt
  · obtain ⟨-, rfl⟩ := hattempt
    exact nofun
  · obtain ⟨-, rfl⟩ := hattempt
    exact nofun
  · obtain ⟨-, -, rfl⟩ := hattempt
    exact nofun
  · obtain ⟨-, rfl⟩ := hattempt
    exact nofun
  · obtain ⟨-, rfl, rfl⟩ := hattempt
    rintro c ⟨⟩
    simp [Process.set_conn]

theorem attempt_succeeded {pc : AttemptPc} {outcome : Outcome}
    (hattempt : p.attempt pc outcome = some (p', .succeeded)) :
    p' = p ∧ ∃ c, pc = .waiting c ∧ (p.conns c).ready_closes ≠ 0 := by
  unfold Process.attempt at hattempt
  split at hattempt
  all_goals
    simp only [Option.ite_none_left_eq_some, Option.ite_none_right_eq_some, Option.some.injEq, Prod.mk.injEq,
      reduceCtorEq, and_false, and_true] at hattempt
  obtain ⟨hready, rfl⟩ := hattempt
  exact ⟨rfl, _, rfl, by omega⟩

/-- What backs the wish to reconnect beside a finishing `reconnect` still does when that
    goes on or returns. -/
theorem Backed.of_finishing (hbacked : p.Backed) {pc : LoopPc} (hloop : p.loop = some pc)
    (hfinishing : p.finishing pc = true) (hguard : p'.ms.reconnecting = p'.loop.isSome) (hconns : p'.conns = p.conns)
    (hready : p'.ms.connection_ready = p.ms.connection_ready)
    (hshould : p'.ms.should_reconnect = p.ms.should_reconnect) (htriggers : p'.triggers = p.triggers)
    (hcalls : p'.calls = p.calls) (hpanicked : p'.panicked = p.panicked) : p'.Backed := by
  refine ⟨hguard, ?_⟩
  intro hconnect
  unfold ConnectReady at hconnect
  rw [hcalls, hconns] at hconnect
  rw [hshould, hpanicked]
  intro hwanted hrunning
  obtain (htrigger | ⟨c, hclosing⟩) | ⟨other, hother, hbusy⟩ | ⟨hserved, c, hserving⟩ :=
    hbacked.backed hconnect hwanted hrunning
  · exact .inl (.inl (htriggers ▸ htrigger))
  · exact .inl (.inr ⟨c, by rwa [hconns]⟩)
  · rw [hloop, Option.some.injEq] at hother
    rw [← hother, hfinishing] at hbusy
    cases hbusy
  · exact .inr (.inr ⟨hready.trans hserved, c, by rwa [hconns]⟩)

theorem Backed.loop_next (hbacked : p.Backed) {pc : LoopPc} {outcome : Outcome} (hloop : p.loop = some pc)
    (hnext : p.loop_next outcome pc = some p') : p'.Backed := by
  have hreconnecting : p.ms.reconnecting = true := by rw [hbacked.guard, hloop, Option.isSome_some]
  cases pc with
  | closing =>
    simp only [Process.loop_next, Option.some.injEq] at hnext
    subst hnext
    exact backed_of_busy hreconnecting ⟨_, rfl, rfl⟩
  | head =>
    simp only [Process.loop_next] at hnext
    split at hnext
    · rename_i hstopped
      cases hnext
      exact backed_of_stopped hreconnecting (by simpa [at_loop] using hstopped)
    split at hnext
    · cases hnext
      exact backed_of_busy hreconnecting ⟨_, rfl, rfl⟩
    · cases hnext
      exact backed_of_busy hreconnecting ⟨_, rfl, rfl⟩
  | giving_up =>
    simp only [Process.loop_next, Option.some.injEq] at hnext
    subst hnext
    exact backed_of_stopped hreconnecting rfl
  | reporting =>
    simp only [Process.loop_next, Option.some.injEq] at hnext
    subst hnext
    exact hbacked.of_finishing hloop rfl hreconnecting rfl rfl rfl rfl rfl rfl
  | counting =>
    simp only [Process.loop_next, Option.some.injEq] at hnext
    subst hnext
    exact backed_of_busy hreconnecting ⟨_, rfl, rfl⟩
  | announcing attempt =>
    simp only [Process.loop_next, Option.some.injEq] at hnext
    subst hnext
    exact backed_of_busy hreconnecting ⟨_, rfl, rfl⟩
  | sleeping =>
    simp only [Process.loop_next, Option.some.injEq] at hnext
    subst hnext
    split
    · exact backed_of_busy hreconnecting ⟨_, rfl, rfl⟩
    · rename_i hstopped
      exact backed_of_stopped hreconnecting (by simpa [at_loop] using hstopped)
  | connecting attempt =>
    simp only [Process.loop_next, Option.map_eq_some_iff] at hnext
    obtain ⟨⟨q, status⟩, hq, rfl⟩ := hnext
    obtain ⟨hflag, -, -⟩ := attempt_frame hq
    cases status with
    | continues next =>
      refine backed_of_busy (hflag.trans hreconnecting) ⟨.connecting next, rfl, ?_⟩
      cases next with
      | waiting c => simp [finishing, at_loop, attempt_continues hq c rfl]
      | _ => rfl
    | failed => exact backed_of_busy (hflag.trans hreconnecting) ⟨_, rfl, rfl⟩
    | succeeded =>
      obtain ⟨rfl, c, rfl, hready⟩ := attempt_succeeded hq
      refine hbacked.of_finishing hloop ?_ hreconnecting rfl rfl rfl rfl rfl rfl
      simp [finishing, hready]
  | scheduling =>
    simp only [Process.loop_next, Option.some.injEq] at hnext
    subst hnext
    exact hbacked.of_finishing hloop rfl hreconnecting rfl rfl rfl rfl rfl rfl
  | notifying =>
    simp only [Process.loop_next, Option.some.injEq] at hnext
    subst hnext
    exact hbacked.of_finishing hloop rfl hreconnecting rfl rfl rfl rfl rfl rfl
  | returning =>
    simp only [Process.loop_next, Option.some.injEq] at hnext
    subst hnext
    exact hbacked.of_finishing hloop rfl rfl rfl rfl rfl rfl rfl rfl

theorem Backed.trigger (hbacked : p.Backed)
    (hunswallowed : p.ms.reconnecting = true → ¬ p.Busy →
      1 < p.triggers ∨ (∃ c, (p.conns c).closing = true) ∨ p.Healthy)
    (htrigger : p.trigger = some p') : p'.Backed := by
  unfold Process.trigger at htrigger
  split at htrigger
  · cases htrigger
  split at htrigger
  · rename_i hdropped
    cases htrigger
    cases hshould : p.ms.should_reconnect with
    | false => exact backed_of_stopped hbacked.guard hshould
    | true =>
      have hreconnecting : p.ms.reconnecting = true := by simpa [hshould] using hdropped
      by_cases hbusy : p.Busy
      · exact backed_of_busy hbacked.guard hbusy
      · obtain hmore | hclosing | hhealthy := hunswallowed hreconnecting hbusy
        · exact backed_of_pending hbacked.guard (.inl (Nat.sub_pos_of_lt hmore))
        · exact backed_of_pending hbacked.guard (.inr hclosing)
        · exact backed_of_healthy hbacked.guard hhealthy
  · cases htrigger
    exact backed_of_busy rfl ⟨_, rfl, rfl⟩

theorem set_eq_singleton {calls : List CallPc} {index : Nat} {pc next last : CallPc}
    (hpc : calls[index]? = some pc) (hset : calls.set index next = [last]) : calls = [pc] ∧ next = last := by
  have hlength := congrArg List.length hset
  rw [List.length_set] at hlength
  obtain ⟨only, rfl⟩ := List.length_eq_one_iff.mp hlength
  cases index with
  | zero =>
    cases hpc
    cases hset
    exact ⟨rfl, rfl⟩
  | succ index => simp at hpc

theorem eq_of_append_eq_singleton {calls : List CallPc} {pc last : CallPc} (hcalls : calls ++ [pc] = [last]) :
    pc = last := by
  obtain ⟨-, hpc⟩ | ⟨-, hpc⟩ := List.append_eq_singleton_iff.mp hcalls
  · exact List.singleton_inj.mp hpc
  · cases hpc

/-- A call that has not been told of its readiness, after one of its steps. -/
theorem not_connectReady_at_call {index : Nat} {pc next : CallPc} (hpc : p.calls[index]? = some pc)
    (hconnected : next ≠ .connected true)
    (hwaiting : ∀ c, next = .connecting (.waiting c) → (p'.conns c).ready_closes = 0)
    (hcalls : p'.calls = p.calls.set index next) : ¬ p'.ConnectReady := by
  unfold ConnectReady
  rw [hcalls]
  rintro (hset | ⟨c, hset, hready⟩)
  · exact hconnected (set_eq_singleton hpc hset).2
  · exact hready (hwaiting c (set_eq_singleton hpc hset).2)

theorem Backed.call_next (hbacked : p.Backed) {index : Nat} {pc : CallPc} {outcome : Outcome}
    (hpc : p.calls[index]? = some pc) (hnext : p.call_next index outcome pc = some p') : p'.Backed := by
  cases pc with
  | connecting attempt =>
    simp only [Process.call_next, Option.map_eq_some_iff] at hnext
    obtain ⟨⟨q, status⟩, hq, rfl⟩ := hnext
    obtain ⟨hflag, hloop, hcalls⟩ := attempt_frame hq
    have hguard : q.ms.reconnecting = q.loop.isSome := by
      rw [hflag, hloop]
      exact hbacked.guard
    rw [← hcalls] at hpc
    cases status with
    | continues next =>
      refine backed_of_connecting hguard (not_connectReady_at_call hpc ?_ ?_ rfl)
      · exact nofun
      · rintro c ⟨⟩
        exact attempt_continues hq c rfl
    | failed =>
      refine backed_of_connecting hguard (not_connectReady_at_call hpc ?_ ?_ rfl)
      · exact nofun
      · exact nofun
    | succeeded =>
      obtain ⟨rfl, c, rfl, hready⟩ := attempt_succeeded hq
      refine ⟨hguard, ?_⟩
      intro hconnect hshould hpanicked
      have hcalls : q.calls = [.connecting (.waiting c)] := by
        obtain hset | ⟨_, hset, -⟩ := hconnect
        · exact (set_eq_singleton hpc hset).1
        · exact (set_eq_singleton hpc hset).1
      exact hbacked.backed (.inr ⟨c, hcalls, hready⟩) hshould hpanicked
  | connected ok => simp [Process.call_next] at hnext
  | disconnected => simp [Process.call_next] at hnext
  | disconnect_close =>
    simp only [Process.call_next, Option.some.injEq] at hnext
    subst hnext
    have hframe : p.close_web_socket.ms.reconnecting = p.ms.reconnecting ∧ p.close_web_socket.loop = p.loop ∧
        p.close_web_socket.calls = p.calls := by
      unfold Process.close_web_socket
      cases p.ms.cancel_fn <;> cases p.ms.conn <;> exact ⟨rfl, rfl, rfl⟩
    refine backed_of_connecting ?_ (not_connectReady_at_call hpc ?_ ?_ (congrArg (List.set · index _) hframe.2.2))
    · exact hframe.1.trans (hbacked.guard.trans (congrArg Option.isSome hframe.2.1.symm))
    · exact nofun
    · exact nofun
  | _ =>
    simp only [Process.call_next, Option.some.injEq] at hnext
    subst hnext
    refine backed_of_connecting hbacked.guard (not_connectReady_at_call hpc ?_ ?_ rfl)
    · exact nofun
    · exact nofun

theorem same_ping_next {index : Nat} {ping : Ping} {id : String} {ok : Bool}
    (hnext : p.ping_next index ping id ok = some p') : p.Same p' := by
  unfold Process.ping_next at hnext
  split at hnext
  · cases hnext
    exact ⟨rfl, rfl, rfl, rfl, Nat.le_refl _, rfl, rfl, rfl⟩
  · cases hnext
    exact ⟨rfl, rfl, rfl, rfl, Nat.le_refl _, rfl, rfl, rfl⟩
  · split at hnext
    · simp only [Option.ite_none_left_eq_some, Option.some.injEq] at hnext
      obtain ⟨-, rfl⟩ := hnext
      exact ⟨rfl, rfl, rfl, rfl, Nat.le_refl _, rfl, rfl, rfl⟩
    · cases hnext
      exact ⟨rfl, rfl, rfl, rfl, Nat.le_refl _, rfl, rfl, rfl⟩
  · cases hnext

theorem same_pong_next {index : Nat} {pong : Pong} {timeout : Bool}
    (hnext : p.pong_next index pong timeout = some p') : p.Same p' := by
  unfold Process.pong_next at hnext
  dsimp only at hnext
  split at hnext
  · cases hnext
  split at hnext
  · simp only [Option.ite_none_right_eq_some, Option.some.injEq] at hnext
    obtain ⟨-, rfl⟩ := hnext
    exact ⟨rfl, rfl, rfl, rfl, Nat.le_refl _, rfl, rfl, rfl⟩
  split at hnext
  · cases hnext
    exact ⟨rfl, rfl, rfl, rfl, Nat.le_refl _, rfl, rfl, rfl⟩
  · cases hnext
    exact ⟨rfl, rfl, rfl, rfl, Nat.le_succ _, rfl, rfl, rfl⟩

theorem Backed.step (hbacked : p.Backed) {label : Label} (hunswallowed : p.Unswallowed label)
    (hstep : p.step label = some p') : p'.Backed := by
  unfold Process.step at hstep
  split at hstep
  · cases hstep
  have hnew : ∀ {pc : CallPc}, pc ≠ .connected true → (∀ c, pc ≠ .connecting (.waiting c)) →
      ¬ ConnectReady { p with calls := p.calls ++ [pc] } := by
    rintro pc hconnected hwaiting (hcalls | ⟨c, hcalls, -⟩)
    · exact hconnected (eq_of_append_eq_singleton hcalls)
    · exact hwaiting c (eq_of_append_eq_singleton hcalls)
  cases label with
  | connect =>
    cases hstep
    exact backed_of_connecting hbacked.guard (hnew nofun nofun)
  | disconnect =>
    cases hstep
    exact backed_of_connecting hbacked.guard (hnew nofun nofun)
  | call index outcome =>
    simp only [Option.bind_eq_some_iff] at hstep
    obtain ⟨pc, hpc, hnext⟩ := hstep
    exact hbacked.call_next hpc hnext
  | read c received =>
    simp only [Option.ite_none_right_eq_some] at hstep
    exact hbacked.read hstep.1 hstep.2
  | read_next c => exact hbacked.read_next (hunswallowed.ready c rfl) hstep
  | trigger => exact hbacked.trigger (hunswallowed.trigger rfl) hstep
  | loop outcome =>
    simp only [Option.bind_eq_some_iff] at hstep
    obtain ⟨pc, hpc, hnext⟩ := hstep
    exact hbacked.loop_next hpc hnext
  | ping index id ok =>
    simp only [Option.bind_eq_some_iff] at hstep
    obtain ⟨ping, -, hnext⟩ := hstep
    exact hbacked.of_same (same_ping_next hnext)
  | pong index timeout =>
    simp only [Option.bind_eq_some_iff] at hstep
    obtain ⟨pong, -, hnext⟩ := hstep
    exact hbacked.of_same (same_pong_next hnext)
  | stability_timer =>
    simp only [Option.ite_none_right_eq_some, Option.some.injEq] at hstep
    obtain ⟨-, rfl⟩ := hstep
    exact hbacked.of_same ⟨rfl, rfl, rfl, rfl, Nat.le_refl _, rfl, rfl, rfl⟩

end preservation

end Process

theorem backed_of_reachable {max_reconnect_attempts : Nat} {p : Process}
    (hreach : (interleavings max_reconnect_attempts).Reachable Process.Unswallowed p) : p.Backed := by
  refine hreach.invariant ?_ ?_
  · refine ⟨rfl, ?_⟩
    rintro (hcalls | ⟨c, hcalls, -⟩)
    · cases hcalls
    · cases hcalls
  · intro q label next _ hbacked hunswallowed hstep
    exact hbacked.step hunswallowed hstep

/-- Unless a `reconnect` that is finishing is relied on, a socket whose `Connect` has
    succeeded never comes to rest while it still wants to reconnect. -/
theorem not_stalled_of_unswallowed (max_reconnect_attempts : Nat) {p : Process}
    (hreach : (interleavings max_reconnect_attempts).Reachable Process.Unswallowed p) : ¬ p.Stalled :=
  (backed_of_reachable hreach).not_stalled

/-- A step that relies on no `reconnect`: a `triggerReconnect` finds none running, and a
    readiness is reported while it is current. -/
def Process.relies_on_none (p : Process) : Label → Bool
  | .trigger => !p.ms.reconnecting
  | .read_next c => (p.conns c).read != .signalling || p.ms.connection_ready
  | _ => true

theorem unswallowed_of_relies_on_none {p : Process} {label : Label} (hnone : p.relies_on_none label = true) :
    p.Unswallowed label := by
  constructor
  · rintro rfl hreconnecting
    simp [Process.relies_on_none, hreconnecting] at hnone
  · rintro c rfl hpc
    exact .inl (by simpa [Process.relies_on_none, hpc] using hnone)

/-- The server drops the connection, and the loop brings up another one. -/
def redial_labels : List Label :=
  ([.read 0 .error, .read_next 0, .read_next 0, .read_next 0, .trigger] : List Label) ++ List.replicate 5 (.loop .proceeds) ++
    dialled (.loop .proceeds) ++ ready_labels 1 ++ ([.loop .proceeds] : List Label)

/-- The new connection is lost. -/
def loss_labels : List Label := [.read 1 .error, .read_next 1, .read_next 1, .read_next 1, .trigger]

/-- A loss after the `reconnect` has returned starts another. -/
theorem loss_after_return_reconnects :
    ∃ p, (interleavings 10).run (new_process 10) (connect_labels ++ redial_labels ++
        List.replicate 3 (.loop .proceeds) ++ loss_labels) = some p ∧ p.loop = some .closing ∧ ¬ p.Stalled := by
  have hmeets : (interleavings 10).meets Process.relies_on_none (new_process 10) (connect_labels ++ redial_labels ++
      List.replicate 3 (.loop .proceeds) ++ loss_labels) = true := by decide
  refine ⟨_, rfl, rfl, not_stalled_of_unswallowed 10 (Machine.Reachable.run .init (connect_labels ++ redial_labels ++
    List.replicate 3 (.loop .proceeds) ++ loss_labels) ?_ rfl)⟩
  exact (Machine.Meets.of_meets hmeets).mono fun _ _ => unswallowed_of_relies_on_none

/-- The loss comes before the `reconnect` has returned: the `triggerReconnect` for it is
    dropped, the `reconnect` returns, the ping loops end when they find nothing to write
    to, and no goroutine is left. -/
theorem loss_before_return_stalls :
    ∃ p, (interleavings 10).Reachable Machine.Always p ∧ p.Stalled ∧ p.ms.conn = some 1 ∧
      (p.conns 1).read = .done ∧ p.ms.actions = [.on_reconnecting 1, .on_connected] := by
  refine ⟨_, Machine.Reachable.run .init (connect_labels ++ redial_labels ++ loss_labels ++
    List.replicate 3 (.loop .proceeds) ++ [.ping 0 "" false, .ping 1 "" true, .ping 1 "ping-1" true, .ping 1 "" false])
    (Machine.meets_always _ _) rfl, ⟨rfl, rfl, rfl, rfl, rfl, rfl, ?_, ?_, ?_⟩, rfl, rfl, rfl⟩
  · intro c
    match c with
    | 0 => exact .inr rfl
    | 1 => exact .inr rfl
    | _ + 2 => exact .inl rfl
  · decide
  · decide

end webex.go.mercury_socket
