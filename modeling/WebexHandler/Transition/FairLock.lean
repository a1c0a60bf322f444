import Mathlib.Data.List.Basic
import Mathlib.Data.List.Count
import Mathlib.Data.List.Induction
import WebexHandler.Transition.Machine

namespace transition

/-- What happens to a lock, with the party that does it. -/
inductive LockEvent (ι : Type)
  | queued (party : ι)
  | started (party : ι)
  | released (party : ι)
  deriving DecidableEq, Repr

/-- A lock that is handed on in the order in which it was asked for. -/
structure FairLock (ι : Type) where
  queue : List ι := []
  holder : Option ι := none

variable {ι : Type}

section logs

/-- The parties that asked for the lock, in order. -/
def requests (log : List (LockEvent ι)) : List ι := log.filterMap fun
  | .queued party => some party
  | _ => none

/-- The parties that got the lock, in order. -/
def starts (log : List (LockEvent ι)) : List ι := log.filterMap fun
  | .started party => some party
  | _ => none

variable [DecidableEq ι]

/-- A party has the lock: it has started more often than it has released. -/
def Running (log : List (LockEvent ι)) (party : ι) : Prop := log.count (.released party) < log.count (.started party)

/-- A log of a fair lock: at any time at most one party has it, the parties start in the
    order in which they asked, only the party that has it releases it, and no party asks
    for it before it has released it as often as it asked. -/
structure Fair (log : List (LockEvent ι)) : Prop where
  exclusive : ∀ past, past <+: log → ∀ p q, Running past p → Running past q → p = q
  in_order : ∀ past, past <+: log → starts past <+: requests past
  released_once : ∀ past p, past ++ [.released p] <+: log → past.count (.started p) = past.count (.released p) + 1
  not_reentered : ∀ past p, past ++ [.queued p] <+: log → past.count (.released p) = past.count (.queued p)

end logs

variable [DecidableEq ι]

/-- A party asks for the lock when it neither waits for it nor has it, the first of the
    queue starts when the lock is free, and the holder releases it. -/
def fair_lock : Machine (FairLock ι) (LockEvent ι) where
  init := {}
  step lock
    | .queued party =>
      if party ∈ lock.queue ∨ lock.holder = some party then none
      else some { lock with queue := lock.queue ++ [party] }
    | .started party =>
      if lock.holder = none ∧ lock.queue.head? = some party then
        some { queue := lock.queue.tail, holder := some party }
      else none
    | .released party => if lock.holder = some party then some { lock with holder := none } else none

namespace FairLock

variable {log : List (LockEvent ι)} {lock next : FairLock ι} {party : ι}

theorem step_queued (hstep : fair_lock.step lock (.queued party) = some next) :
    party ∉ lock.queue ∧ lock.holder ≠ some party ∧ next = { lock with queue := lock.queue ++ [party] } := by
  simp only [fair_lock, Option.ite_none_left_eq_some, not_or, Option.some.injEq] at hstep
  exact ⟨hstep.1.1, hstep.1.2, hstep.2.symm⟩

theorem step_started (hstep : fair_lock.step lock (.started party) = some next) :
    lock.holder = none ∧ ∃ rest, lock.queue = party :: rest ∧ next = { queue := rest, holder := some party } := by
  simp only [fair_lock, Option.ite_none_right_eq_some, Option.some.injEq] at hstep
  obtain ⟨⟨hfree, hhead⟩, rfl⟩ := hstep
  obtain ⟨rest, hqueue⟩ := List.head?_eq_some_iff.mp hhead
  exact ⟨hfree, rest, hqueue, by rw [hqueue, List.tail_cons]⟩

theorem step_released (hstep : fair_lock.step lock (.released party) = some next) :
    lock.holder = some party ∧ next = { lock with holder := none } := by
  simp only [fair_lock, Option.ite_none_right_eq_some, Option.some.injEq] at hstep
  exact ⟨hstep.1, hstep.2.symm⟩

/-- What the events of a log add up to, in terms of the lock after them. -/
structure Accounts (log : List (LockEvent ι)) (lock : FairLock ι) : Prop where
  asked : requests log = starts log ++ lock.queue
  queued : ∀ p, log.count (.queued p) = log.count (.started p) + lock.queue.count p
  started : ∀ p, log.count (.started p) = log.count (.released p) + if lock.holder = some p then 1 else 0

theorem Accounts.step {event : LockEvent ι} (haccounts : Accounts log lock)
    (hstep : fair_lock.step lock event = some next) : Accounts (log ++ [event]) next := by
  obtain ⟨hasked, hqueued, hstarted⟩ := haccounts
  cases event with
  | queued party =>
    obtain ⟨-, -, rfl⟩ := step_queued hstep
    refine ⟨?_, ?_, ?_⟩
    · simp only [requests, starts, List.filterMap_append] at hasked ⊢
      simp [hasked]
    · intro p
      have hp := hqueued p
      simp only [List.count_append, List.count_singleton] at hp ⊢
      by_cases heq : party = p
      · subst heq
        simp only [beq_self_eq_true, if_true, reduceCtorEq, beq_iff_eq, if_false]
        omega
      · simp only [beq_iff_eq, LockEvent.queued.injEq, heq, if_false, reduceCtorEq]
        omega
    · intro p
      simpa [List.count_append, List.count_singleton] using hstarted p
  | started party =>
    obtain ⟨hfree, rest, hqueue, rfl⟩ := step_started hstep
    rw [hqueue] at hasked hqueued
    refine ⟨?_, ?_, ?_⟩
    · simp only [requests, starts, List.filterMap_append] at hasked ⊢
      simp [hasked]
    · intro p
      have hp := hqueued p
      simp only [List.count_append, List.count_cons, List.count_nil, beq_iff_eq, reduceCtorEq,
        if_false, LockEvent.started.injEq] at hp ⊢
      omega
    · intro p
      have hp := hstarted p
      simp only [List.count_append, List.count_singleton, beq_iff_eq, reduceCtorEq, if_false, hfree,
        LockEvent.started.injEq, Option.some.injEq] at hp ⊢
      omega
  | released party =>
    obtain ⟨hholder, rfl⟩ := step_released hstep
    refine ⟨?_, ?_, ?_⟩
    · simp only [requests, starts, List.filterMap_append] at hasked ⊢
      simp [hasked]
    · intro p
      simpa [List.count_append, List.count_singleton] using hqueued p
    · intro p
      have hp := hstarted p
      simp only [List.count_append, List.count_singleton, beq_iff_eq, reduceCtorEq, if_false, hholder,
        LockEvent.released.injEq, Option.some.injEq] at hp ⊢
      omega

theorem accounts_of_run (hrun : fair_lock.run fair_lock.init log = some lock) : Accounts log lock := by
  induction log using List.reverseRecOn generalizing lock with
  | nil =>
    simp only [Machine.run, Option.some.injEq] at hrun
    subst hrun
    exact ⟨rfl, fun _ => rfl, fun _ => rfl⟩
  | append_singleton past event ih =>
    rw [Machine.run_append, Option.bind_eq_some_iff] at hrun
    obtain ⟨before, hpast, hlast⟩ := hrun
    rw [Machine.run_singleton] at hlast
    exact (ih hpast).step hlast

theorem run_of_prefix {past : List (LockEvent ι)} (hrun : fair_lock.run fair_lock.init log = some lock)
    (hearlier : past <+: log) : ∃ before, fair_lock.run fair_lock.init past = some before := by
  obtain ⟨rest, rfl⟩ := hearlier
  rw [Machine.run_append, Option.bind_eq_some_iff] at hrun
  obtain ⟨before, hpast, -⟩ := hrun
  exact ⟨before, hpast⟩

theorem Accounts.running_iff (haccounts : Accounts log lock) (p : ι) : Running log p ↔ lock.holder = some p := by
  unfold Running
  rw [haccounts.started p]
  split
  · rename_i hholder
    exact iff_of_true (by omega) hholder
  · rename_i hholder
    exact iff_of_false (by omega) hholder

/-- Every log that the lock accepts is a fair one. -/
theorem fair_of_run (hrun : fair_lock.run fair_lock.init log = some lock) : Fair log := by
  refine ⟨?_, ?_, ?_, ?_⟩
  · intro past hearlier p q hp hq
    obtain ⟨before, hpast⟩ := run_of_prefix hrun hearlier
    rw [(accounts_of_run hpast).running_iff] at hp hq
    exact Option.some.inj (hp.symm.trans hq)
  · intro past hearlier
    obtain ⟨before, hpast⟩ := run_of_prefix hrun hearlier
    exact ⟨before.queue, (accounts_of_run hpast).asked.symm⟩
  · intro past p hearlier
    obtain ⟨after, hafter⟩ := run_of_prefix hrun hearlier
    rw [Machine.run_append, Option.bind_eq_some_iff] at hafter
    obtain ⟨before, hpast, hlast⟩ := hafter
    rw [Machine.run_singleton] at hlast
    rw [(accounts_of_run hpast).started p, if_pos (step_released hlast).1]
  · intro past p hearlier
    obtain ⟨after, hafter⟩ := run_of_prefix hrun hearlier
    rw [Machine.run_append, Option.bind_eq_some_iff] at hafter
    obtain ⟨before, hpast, hlast⟩ := hafter
    rw [Machine.run_singleton] at hlast
    obtain ⟨hqueue, hholder, -⟩ := step_queued hlast
    have hstarted := (accounts_of_run hpast).started p
    have hqueued := (accounts_of_run hpast).queued p
    rw [if_neg hholder] at hstarted
    rw [List.count_eq_zero_of_not_mem hqueue] at hqueued
    omega

end FairLock

end transition
