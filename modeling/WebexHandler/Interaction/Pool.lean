import Mathlib.Data.List.Basic
import Mathlib.Data.List.Forall2
import WebexHandler.Interaction.Obeys

namespace interaction

variable {Op : Type} {Res : Op → Type} {Env Choice γ : Type}

/-- An element after one of them was replaced. -/
theorem getElem?_set_cases {α : Type} {l : List α} {i j : Nat} {a b : α} (hget : (l.set i a)[j]? = some b) :
    (j = i ∧ b = a) ∨ (j ≠ i ∧ l[j]? = some b) := by
  rw [List.getElem?_set] at hget
  split at hget
  · rename_i heq
    simp only [Option.ite_none_right_eq_some, Option.some.injEq] at hget
    exact .inl ⟨heq.symm, hget.2.symm⟩
  · rename_i hne
    exact .inr ⟨Ne.symm hne, hget⟩

/-- An element after one was added at the end. -/
theorem getElem?_concat_cases {α : Type} {l : List α} {j : Nat} {a b : α} (hget : (l ++ [a])[j]? = some b) :
    l[j]? = some b ∨ (j = l.length ∧ b = a) := by
  rw [List.getElem?_append] at hget
  split at hget
  · exact .inl hget
  · obtain ⟨hlt, hlast⟩ := List.getElem?_eq_some_iff.mp hget
    rw [List.length_singleton] at hlt
    exact .inr ⟨by omega, by simpa [eq_comm] using hlast⟩

/-- A task: what is left of its program, and the body it starts over with when it is
    an endless loop. -/
structure Task (Op : Type) (Res : Op → Type) where
  rest : Program Op Res Unit
  body : Option (Program Op Res Unit) := none

namespace Task

def resume (task : Task Op Res) (rest : Program Op Res Unit) : Task Op Res :=
  match rest, task.body with
  | .ret _, some body => { task with rest := body }
  | rest, _ => { task with rest := rest }

def loop (body : Program Op Res Unit) : Task Op Res := { rest := body, body := some body }

/-- A task obeys a monitor for ever: a loop, which always has something to do, by an
    invariant of its iterations, any other task up to its end. -/
def Obeys (mon : Monitor Op Res γ) (final : γ → Prop) (task : Task Op Res) (g : γ) : Prop :=
  match task.body with
  | none => task.rest.Obeys mon (fun _ => final) g
  | some body => task.rest.head.isSome ∧ body.head.isSome ∧ ∃ inv : γ → Prop,
      (∀ g, inv g → body.Obeys mon (fun _ => inv) g) ∧ task.rest.Obeys mon (fun _ => inv) g

theorem obeys_loop {mon : Monitor Op Res γ} {final inv : γ → Prop} {body : Program Op Res Unit} {g : γ}
    (hhead : body.head.isSome) (hbody : ∀ g, inv g → body.Obeys mon (fun _ => inv) g) (hinv : inv g) :
    (loop body).Obeys mon final g :=
  ⟨hhead, hhead, inv, hbody, hbody g hinv⟩

theorem Obeys.resume {mon : Monitor Op Res γ} {final : γ → Prop} {task : Task Op Res} {op : Op}
    {next : Res op → Program Op Res Unit} {g g' : γ} {r : Res op} (hobeys : task.Obeys mon final g)
    (hrest : task.rest = .ask op next) (hmoves : mon.moves g op r g') :
    (task.resume (next r)).Obeys mon final g' := by
  obtain ⟨rest, body⟩ := task
  simp only at hrest
  subst hrest
  cases body with
  | none =>
    have hnext := hobeys.2 r g' hmoves
    cases h : next r with
    | ret value => simpa [Task.resume, Obeys, h] using hnext
    | ask op' next' => simpa [Task.resume, Obeys, h] using hnext
  | some body =>
    obtain ⟨-, hhead, inv, hbody, hask⟩ := hobeys
    have hnext := hask.2 r g' hmoves
    cases h : next r with
    | ret value =>
      rw [h] at hnext
      exact ⟨hhead, hhead, inv, hbody, hbody g' hnext⟩
    | ask op' next' =>
      rw [h] at hnext
      exact ⟨rfl, hhead, inv, hbody, hnext⟩

/-- The next operation of an obedient task is a permitted one. -/
theorem Obeys.allowed {mon : Monitor Op Res γ} {final : γ → Prop} {task : Task Op Res} {op : Op}
    {next : Res op → Program Op Res Unit} {g : γ} (hobeys : task.Obeys mon final g)
    (hrest : task.rest = .ask op next) : mon.allowed g op := by
  obtain ⟨rest, body⟩ := task
  simp only at hrest
  subst hrest
  cases body with
  | none => exact hobeys.1
  | some body =>
    obtain ⟨-, -, inv, hbody, hask⟩ := hobeys
    exact hask.1

/-- A task with nothing left to do has ended as it should. -/
theorem Obeys.ended {mon : Monitor Op Res γ} {final : γ → Prop} {task : Task Op Res} {g : γ}
    (hobeys : task.Obeys mon final g) (hhead : task.rest.head = none) : final g := by
  obtain ⟨rest, body⟩ := task
  cases body with
  | none =>
    cases rest with
    | ret value => exact hobeys
    | ask op next => simp [Program.head] at hhead
  | some body =>
    have hsome := hobeys.1
    simp only at hhead hsome
    simp [hhead] at hsome

end Task

/-- Tasks that take turns at their operations in a shared environment. -/
structure Pool (Op : Type) (Res : Op → Type) (Env : Type) where
  env : Env
  tasks : List (Task Op Res)

/-- An operation of one task, resolved by a choice: its result, the environment
    after it, and the tasks it starts. -/
abbrev Perform (Op : Type) (Res : Op → Type) (Env Choice : Type) : Type :=
  (tid : Nat) → (op : Op) → Choice → Env → Option (Res op × Env × List (Task Op Res))

namespace Pool

/-- The operation a task asks for next. -/
def head (pool : Pool Op Res Env) (tid : Nat) : Option Op := (pool.tasks[tid]?).bind fun task => task.rest.head

def advance (perform : Perform Op Res Env Choice) (pool : Pool Op Res Env) (tid : Nat) (choice : Choice) :
    Option (Pool Op Res Env) :=
  match pool.tasks[tid]? with
  | none => none
  | some task => match task.rest with
    | .ret _ => none
    | .ask op next => (perform tid op choice pool.env).map fun (r, env, spawned) =>
        { env := env, tasks := pool.tasks.set tid (task.resume (next r)) ++ spawned }

/-- Each task obeys the monitor from its own view, and the views together fit the
    environment. -/
structure Obeyed (mon : Monitor Op Res γ) (final : γ → Prop) (view : Env → List γ → Prop)
    (pool : Pool Op Res Env) (views : List γ) : Prop where
  view : view pool.env views
  tasks : List.Forall₂ (fun task g => task.Obeys mon final g) pool.tasks views

/-- Every permitted operation that meets `cond` moves the views as the monitor says
    and starts obedient tasks only. -/
def Sound (mon : Monitor Op Res γ) (final : γ → Prop) (view : Env → List γ → Prop)
    (cond : Env → Nat → Op → Choice → Prop) (perform : Perform Op Res Env Choice) : Prop :=
  ∀ tid op choice env r env' spawned views g, view env views → views[tid]? = some g → mon.allowed g op →
    cond env tid op choice → perform tid op choice env = some (r, env', spawned) →
    ∃ g' fresh, mon.moves g op r g' ∧ view env' (views.set tid g' ++ fresh) ∧
      List.Forall₂ (fun task g => task.Obeys mon final g) spawned fresh

theorem forall₂_set {α β : Type} {R : α → β → Prop} {as : List α} {bs : List β} (h : List.Forall₂ R as bs)
    {a : α} {b : β} (hab : R a b) (i : Nat) : List.Forall₂ R (as.set i a) (bs.set i b) := by
  induction h generalizing i with
  | nil => exact .nil
  | cons hhead htail ih =>
    cases i with
    | zero => exact .cons hab htail
    | succ i => exact .cons hhead (ih i)

theorem Obeyed.task {mon : Monitor Op Res γ} {final : γ → Prop} {view : Env → List γ → Prop}
    {pool : Pool Op Res Env} {views : List γ} (hobeyed : pool.Obeyed mon final view views) {tid : Nat}
    {task : Task Op Res} (htask : pool.tasks[tid]? = some task) :
    ∃ g, views[tid]? = some g ∧ task.Obeys mon final g := by
  have hforall := List.forall₂_iff_get.mp hobeyed.tasks
  obtain ⟨hlt, hget⟩ := List.getElem?_eq_some_iff.mp htask
  have hlt' : tid < views.length := hforall.1 ▸ hlt
  refine ⟨views[tid], List.getElem?_eq_getElem hlt', ?_⟩
  have hobeys := hforall.2 tid hlt hlt'
  simp only [List.get_eq_getElem, hget] at hobeys
  exact hobeys

theorem Obeyed.allowed {mon : Monitor Op Res γ} {final : γ → Prop} {view : Env → List γ → Prop}
    {pool : Pool Op Res Env} {views : List γ} (hobeyed : pool.Obeyed mon final view views) {tid : Nat} {op : Op}
    (hhead : pool.head tid = some op) : ∃ g, views[tid]? = some g ∧ mon.allowed g op := by
  simp only [head, Option.bind_eq_some_iff] at hhead
  obtain ⟨task, htask, hop⟩ := hhead
  obtain ⟨g, hg, hobeys⟩ := hobeyed.task htask
  cases hrest : task.rest with
  | ret value => simp [hrest, Program.head] at hop
  | ask op' next =>
    simp only [hrest, Program.head, Option.some.injEq] at hop
    exact ⟨g, hg, hop ▸ hobeys.allowed hrest⟩

theorem Obeyed.allowed_of_view {mon : Monitor Op Res γ} {final : γ → Prop} {view : Env → List γ → Prop}
    {pool : Pool Op Res Env} {views : List γ} (hobeyed : pool.Obeyed mon final view views) {tid : Nat} {g : γ}
    (hg : views[tid]? = some g) {op : Op} (hhead : pool.head tid = some op) : mon.allowed g op := by
  obtain ⟨g', hg', hallowed⟩ := hobeyed.allowed hhead
  rw [hg, Option.some.injEq] at hg'
  exact hg' ▸ hallowed

/-- A task whose view is not a final one has something left to do. -/
theorem Obeyed.head_of_not_final {mon : Monitor Op Res γ} {final : γ → Prop} {view : Env → List γ → Prop}
    {pool : Pool Op Res Env} {views : List γ} (hobeyed : pool.Obeyed mon final view views) {tid : Nat} {g : γ}
    (hg : views[tid]? = some g) (hfinal : ¬ final g) : ∃ op, pool.head tid = some op := by
  have hlength := hobeyed.tasks.length_eq
  obtain ⟨hlt, -⟩ := List.getElem?_eq_some_iff.mp hg
  have htask : pool.tasks[tid]? = some pool.tasks[tid] := List.getElem?_eq_getElem (by omega)
  obtain ⟨g', hg', hobeys⟩ := hobeyed.task htask
  rw [hg, Option.some.injEq] at hg'
  subst hg'
  cases hhead : (pool.tasks[tid]).rest.head with
  | none => exact absurd (hobeys.ended hhead) hfinal
  | some op => exact ⟨op, by simp [head, htask, hhead]⟩

theorem perform_of_advance {perform : Perform Op Res Env Choice} {pool next : Pool Op Res Env} {tid : Nat} {op : Op}
    {choice : Choice} (hhead : pool.head tid = some op) (hadvance : pool.advance perform tid choice = some next) :
    (perform tid op choice pool.env).isSome := by
  simp only [head, Option.bind_eq_some_iff] at hhead
  obtain ⟨task, htask, hop⟩ := hhead
  cases hrest : task.rest with
  | ret value => simp [hrest, Program.head] at hop
  | ask op' next =>
    obtain rfl : op' = op := by simpa [hrest, Program.head] using hop
    simp only [advance, htask, hrest, Option.map_eq_some_iff] at hadvance
    obtain ⟨result, hperform, -⟩ := hadvance
    simp [hperform]

theorem advance_isSome {perform : Perform Op Res Env Choice} {pool : Pool Op Res Env} {tid : Nat} {op : Op}
    {choice : Choice} (hhead : pool.head tid = some op) (hperform : (perform tid op choice pool.env).isSome) :
    ∃ next, pool.advance perform tid choice = some next := by
  simp only [head, Option.bind_eq_some_iff] at hhead
  obtain ⟨task, htask, hop⟩ := hhead
  cases hrest : task.rest with
  | ret value => simp [hrest, Program.head] at hop
  | ask op' next =>
    obtain rfl : op' = op := by simpa [hrest, Program.head] using hop
    obtain ⟨⟨r, env, spawned⟩, hsome⟩ := Option.isSome_iff_exists.mp hperform
    refine ⟨{ env := env, tasks := pool.tasks.set tid (task.resume (next r)) ++ spawned }, ?_⟩
    simp [advance, htask, hrest, hsome]

theorem advance_env {perform : Perform Op Res Env Choice} {pool : Pool Op Res Env} {tid : Nat} {choice : Choice} {op : Op}
    (hhead : pool.head tid = some op) {r : Res op} {env : Env} {spawned : List (Task Op Res)}
    (hperform : perform tid op choice pool.env = some (r, env, spawned)) :
    ∃ next, pool.advance perform tid choice = some next ∧ next.env = env := by
  simp only [head, Option.bind_eq_some_iff] at hhead
  obtain ⟨task, htask, hop⟩ := hhead
  cases hrest : task.rest with
  | ret value => simp [hrest, Program.head] at hop
  | ask op' next =>
    obtain rfl : op' = op := by simpa [hrest, Program.head] using hop
    refine ⟨{ env := env, tasks := pool.tasks.set tid (task.resume (next r)) ++ spawned }, ?_, rfl⟩
    simp [advance, htask, hrest, hperform]

/-- The task that was added last performs an operation. -/
theorem advance_last {perform : Perform Op Res Env Choice} {env : Env} (done : List (Task Op Res)) {op : Op}
    {next : Res op → Program Op Res Unit} (choice : Choice) :
    advance perform { env, tasks := done ++ [{ rest := .ask op next }] } done.length choice =
      (perform done.length op choice env).map fun (r, env, spawned) =>
        { env, tasks := done ++ [{ rest := next r }] ++ spawned } := by
  have hlast : (done ++ [({ rest := .ask op next } : Task Op Res)])[done.length]? = some { rest := .ask op next } := by
    simp
  have hset : ∀ task, (done ++ [({ rest := .ask op next } : Task Op Res)]).set done.length task = done ++ [task] := by
    intro task
    simp
  simp only [advance, hlast, hset]
  congr 1
  funext out
  cases hnext : next out.1 <;> simp [Task.resume]

/-- One step of the pool keeps all its tasks obedient. -/
theorem Obeyed.advance {mon : Monitor Op Res γ} {final : γ → Prop} {view : Env → List γ → Prop}
    {cond : Env → Nat → Op → Choice → Prop} {perform : Perform Op Res Env Choice}
    (hsound : Sound mon final view cond perform) {pool next : Pool Op Res Env} {views : List γ}
    (hobeyed : pool.Obeyed mon final view views) {tid : Nat} {choice : Choice}
    (hcond : ∀ op, pool.head tid = some op → cond pool.env tid op choice)
    (hadvance : pool.advance perform tid choice = some next) :
    ∃ views', next.Obeyed mon final view views' := by
  unfold Pool.advance at hadvance
  split at hadvance
  · simp at hadvance
  · rename_i task htask
    obtain ⟨g, hg, hobeys⟩ := hobeyed.task htask
    split at hadvance
    · simp at hadvance
    · rename_i op k hrest
      simp only [Option.map_eq_some_iff] at hadvance
      obtain ⟨⟨r, env', spawned⟩, hperform, rfl⟩ := hadvance
      obtain ⟨g', fresh, hmoves, hview, hfresh⟩ := hsound tid op choice pool.env r env' spawned views g
        hobeyed.view hg (hobeys.allowed hrest) (hcond op (by simp [head, htask, hrest, Program.head])) hperform
      exact ⟨_, hview, List.rel_append (forall₂_set hobeyed.tasks (hobeys.resume hrest hmoves) tid) hfresh⟩

end Pool

end interaction
