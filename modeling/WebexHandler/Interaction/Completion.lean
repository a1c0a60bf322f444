import Mathlib.Logic.Relation
import WebexHandler.Interaction.Pool

namespace interaction

section lists

variable {α : Type} {rel : α → α → Prop}

/-- One element of a list is replaced by a smaller one. -/
def Lowered (rel : α → α → Prop) (after before : List α) : Prop :=
  ∃ (i : Nat) (a b : α), before[i]? = some a ∧ rel b a ∧ after = before.set i b

theorem acc_lowered_cons {a : α} {l : List α} (ha : Acc rel a) (hl : Acc (Lowered rel) l) : Acc (Lowered rel) (a :: l) := by
  induction ha generalizing l with
  | intro a _ iha =>
    induction hl with
    | intro l hlower ihl =>
      refine Acc.intro _ ?_
      rintro _ ⟨i, x, b, hget, hrel, rfl⟩
      cases i with
      | zero =>
        obtain rfl : a = x := by simpa using hget
        exact iha b hrel (Acc.intro l hlower)
      | succ i => exact ihl _ ⟨i, x, b, hget, hrel, rfl⟩

/-- A list cannot be lowered for ever when none of its elements can. -/
theorem acc_lowered {l : List α} (hl : ∀ a ∈ l, Acc rel a) : Acc (Lowered rel) l := by
  induction l with
  | nil =>
    refine Acc.intro _ ?_
    rintro _ ⟨i, a, b, hget, -, -⟩
    simp at hget
  | cons a l ih =>
    rw [List.forall_mem_cons] at hl
    exact acc_lowered_cons hl.1 (ih hl.2)

end lists

variable {Op : Type} {Res : Op → Type} {Env Choice : Type}

/-- A task that is no loop has gone one operation further. -/
def Task.Next (after before : Task Op Res) : Prop :=
  before.body = none ∧ after.body = none ∧ ∃ op next r, before.rest = .ask op next ∧ after.rest = next r

theorem Task.acc_next (task : Task Op Res) : Acc Task.Next task := by
  obtain ⟨rest, body⟩ := task
  induction rest generalizing body with
  | ret value =>
    refine Acc.intro _ ?_
    rintro after ⟨-, -, op, next, r, heq, -⟩
    cases heq
  | ask op next ih =>
    refine Acc.intro _ ?_
    rintro ⟨rest, body'⟩ ⟨-, -, op', next', r, heq, hrest⟩
    cases heq
    obtain rfl : rest = next r := hrest
    exact ih r body'

namespace Pool

/-- No task is a loop. -/
def Finite (pool : Pool Op Res Env) : Prop := ∀ task ∈ pool.tasks, task.body = none

/-- Operations start no tasks. -/
def Spawnless (perform : Perform Op Res Env Choice) : Prop :=
  ∀ tid op choice env r env' spawned, perform tid op choice env = some (r, env', spawned) → spawned = []

def Advances (perform : Perform Op Res Env Choice) (before after : Pool Op Res Env) : Prop :=
  ∃ tid choice, before.advance perform tid choice = some after

/-- No task has anything left to do. -/
def Ended (pool : Pool Op Res Env) : Prop := ∀ tid, pool.head tid = none

variable {perform : Perform Op Res Env Choice}

theorem advance_tasks (hspawn : Spawnless perform) {pool next : Pool Op Res Env} (hfinite : pool.Finite)
    (hadvance : Advances perform pool next) : Lowered Task.Next next.tasks pool.tasks := by
  obtain ⟨tid, choice, hadvance⟩ := hadvance
  unfold Pool.advance at hadvance
  split at hadvance
  · cases hadvance
  · rename_i task htask
    split at hadvance
    · cases hadvance
    · rename_i op rest hrest
      simp only [Option.map_eq_some_iff] at hadvance
      obtain ⟨⟨r, env', spawned⟩, hperform, rfl⟩ := hadvance
      obtain rfl := hspawn _ _ _ _ _ _ _ hperform
      have hbody := hfinite task (List.mem_of_getElem? htask)
      have hresume : task.resume (rest r) = { task with rest := rest r } := by
        unfold Task.resume
        rw [hbody]
        split
        · contradiction
        · rfl
      refine ⟨tid, task, { task with rest := rest r }, htask, ⟨hbody, hbody, op, rest, r, hrest, rfl⟩, ?_⟩
      simp [hresume]

theorem Finite.advance (hspawn : Spawnless perform) {pool next : Pool Op Res Env} (hfinite : pool.Finite)
    (hadvance : Advances perform pool next) : next.Finite := by
  obtain ⟨i, before, after, -, hnext, htasks⟩ := advance_tasks hspawn hfinite hadvance
  intro task hmem
  rw [htasks] at hmem
  obtain hold | rfl := List.mem_or_eq_of_mem_set hmem
  · exact hfinite task hold
  · exact hnext.2.1

/-- Tasks that are no loops and never all wait come to their end, whichever of them go on. -/
theorem completes (hspawn : Spawnless perform) {inv : Pool Op Res Env → Prop}
    (hkeep : ∀ pool next, inv pool → Advances perform pool next → inv next)
    (hprogress : ∀ pool, inv pool → ¬ pool.Ended → ∃ next, Advances perform pool next)
    {pool : Pool Op Res Env} (hinv : inv pool) (hfinite : pool.Finite) :
    ∃ last, Relation.ReflTransGen (Advances perform) pool last ∧ inv last ∧ last.Ended := by
  have hacc : Acc (Lowered Task.Next) pool.tasks := acc_lowered fun task _ => task.acc_next
  generalize htasks : pool.tasks = tasks at hacc
  induction hacc generalizing pool with
  | intro tasks _ ih =>
    subst htasks
    by_cases hended : pool.Ended
    · exact ⟨pool, .refl, hinv, hended⟩
    · obtain ⟨next, hadvance⟩ := hprogress pool hinv hended
      obtain ⟨last, hrun, hlast⟩ := ih next.tasks (advance_tasks hspawn hfinite hadvance) (hkeep pool next hinv hadvance)
        (hfinite.advance hspawn hadvance) rfl
      exact ⟨last, hrun.head hadvance, hlast⟩

end Pool

end interaction
