import Mathlib.Data.List.Basic
import Mathlib.Logic.Relation

namespace transition

/-- An executable transition system. A label resolves every choice of the
    environment, so `step` is a partial function and a concrete schedule can be
    evaluated. -/
structure Machine (σ : Type) (ι : Type) where
  init : σ
  step : σ → ι → Option σ

namespace Machine

variable {σ ι : Type} (m : Machine σ ι)

/-- The state after a schedule, when every one of its steps is enabled. -/
def run : σ → List ι → Option σ
  | s, [] => some s
  | s, label :: rest => (m.step s label).bind (fun next => run next rest)

/-- Reachability by steps that all meet `cond`, a condition on the state before
    the step and on its label. -/
inductive Reachable (cond : σ → ι → Prop) : σ → Prop
  | init : Reachable cond m.init
  | step {s next : σ} {label : ι} (hreach : Reachable cond s) (hcond : cond s label)
      (hstep : m.step s label = some next) : Reachable cond next

theorem run_append (s : σ) (labels rest : List ι) :
    m.run s (labels ++ rest) = (m.run s labels).bind fun mid => m.run mid rest := by
  induction labels generalizing s with
  | nil => rfl
  | cons label labels ih => simp only [List.cons_append, run, ih, Option.bind_assoc]

theorem run_singleton (s : σ) (label : ι) : m.run s [label] = m.step s label := by
  simp [run]

/-- The condition every step meets. -/
def Always : σ → ι → Prop := fun _ _ => True

variable {m}

/-- Induction over a conditioned run: an invariant needs to survive only the
    steps that meet the condition, from states that are themselves reached. -/
theorem Reachable.invariant {cond : σ → ι → Prop} {inv : σ → Prop} (hinit : inv m.init)
    (hstep : ∀ s label next, m.Reachable cond s → inv s → cond s label →
      m.step s label = some next → inv next)
    {s : σ} (hreach : m.Reachable cond s) : inv s := by
  induction hreach with
  | init => exact hinit
  | step hprev hcond hnext ih => exact hstep _ _ _ hprev ih hcond hnext

theorem Reachable.mono {weak strong : σ → ι → Prop} (himp : ∀ s label, strong s label → weak s label)
    {s : σ} (hreach : m.Reachable strong s) : m.Reachable weak s := by
  induction hreach with
  | init => exact .init
  | step _ hcond hnext ih => exact .step ih (himp _ _ hcond) hnext

/-- Every step of a schedule meets the condition. -/
def Meets (m : Machine σ ι) (cond : σ → ι → Prop) : σ → List ι → Prop
  | _, [] => True
  | s, label :: rest => cond s label ∧ ∀ next, m.step s label = some next → Meets m cond next rest

theorem Meets.cons {cond : σ → ι → Prop} {s next : σ} {label : ι} {rest : List ι} (hcond : cond s label)
    (hstep : m.step s label = some next) (hrest : m.Meets cond next rest) : m.Meets cond s (label :: rest) := by
  refine ⟨hcond, fun other hother => ?_⟩
  rw [hstep, Option.some.injEq] at hother
  exact hother ▸ hrest

/-- Steps that meet one condition meet another that follows from it under an invariant
    of such steps. -/
theorem Meets.of_invariant {strong weak : σ → ι → Prop} {inv : σ → Prop}
    (hstep : ∀ s label next, inv s → strong s label → m.step s label = some next → inv next)
    (himp : ∀ s label, inv s → strong s label → weak s label) {s : σ} {labels : List ι} (hinv : inv s)
    (hmeets : m.Meets strong s labels) : m.Meets weak s labels := by
  induction labels generalizing s with
  | nil => trivial
  | cons label rest ih =>
    obtain ⟨hstrong, hrest⟩ := hmeets
    refine ⟨himp s label hinv hstrong, ?_⟩
    intro next hnext
    exact ih (hstep s label next hinv hstrong hnext) (hrest next hnext)

theorem Meets.mono {strong weak : σ → ι → Prop} (himp : ∀ s label, strong s label → weak s label) {s : σ}
    {labels : List ι} (hmeets : m.Meets strong s labels) : m.Meets weak s labels :=
  Meets.of_invariant (fun _ _ _ _ _ _ => trivial) (fun s label _ => himp s label) trivial hmeets

/-- `Meets` as a test, for a decidable condition. -/
def meets (m : Machine σ ι) (cond : σ → ι → Bool) : σ → List ι → Bool
  | _, [] => true
  | s, label :: rest => cond s label && ((m.step s label).elim true fun next => meets m cond next rest)

theorem Meets.of_meets {cond : σ → ι → Bool} {s : σ} {labels : List ι} (hmeets : m.meets cond s labels = true) :
    m.Meets (fun s label => cond s label = true) s labels := by
  induction labels generalizing s with
  | nil => trivial
  | cons label rest ih =>
    simp only [meets, Bool.and_eq_true] at hmeets
    refine ⟨hmeets.1, fun next hnext => ih ?_⟩
    simpa [hnext] using hmeets.2

/-- A property holds in every state a schedule passes through, its first and
    last state included. -/
def Throughout (m : Machine σ ι) (prop : σ → Prop) : σ → List ι → Prop
  | s, [] => prop s
  | s, label :: rest => prop s ∧ ∀ next, m.step s label = some next → Throughout m prop next rest

theorem Throughout.head {prop : σ → Prop} {s : σ} {labels : List ι} (hthroughout : m.Throughout prop s labels) : prop s := by
  cases labels with
  | nil => exact hthroughout
  | cons label rest => exact hthroughout.1

theorem Throughout.of_run {prop : σ → Prop} {s last : σ} {labels : List ι} (hthroughout : m.Throughout prop s labels)
    (hrun : m.run s labels = some last) : prop last := by
  induction labels generalizing s with
  | nil =>
    simp only [Machine.run, Option.some.injEq] at hrun
    exact hrun ▸ hthroughout
  | cons label rest ih =>
    simp only [Machine.run, Option.bind_eq_some_iff] at hrun
    obtain ⟨next, hnext, hrun⟩ := hrun
    exact ih (hthroughout.2 next hnext) hrun

/-- The exact condition for a property, from an invariant that implies it: steps that meet
    the condition keep the invariant, and one that does not meet it can be taken and ends
    the property. -/
theorem throughout_iff_meets {inv prop : σ → Prop} {cond : σ → ι → Prop} (hprop : ∀ s, inv s → prop s)
    (hkeep : ∀ s label next, inv s → cond s label → m.step s label = some next → inv next)
    (hbreak : ∀ s label, inv s → ¬ cond s label → ∃ next, m.step s label = some next ∧ ¬ prop next)
    {s : σ} (hinv : inv s) (labels : List ι) : m.Throughout prop s labels ↔ m.Meets cond s labels := by
  induction labels generalizing s with
  | nil => exact iff_of_true (hprop s hinv) trivial
  | cons label rest ih =>
    constructor
    · rintro ⟨-, hrest⟩
      have hcond : cond s label := by
        by_contra hnot
        obtain ⟨next, hstep, hbroken⟩ := hbreak s label hinv hnot
        exact hbroken (hrest next hstep).head
      exact ⟨hcond, fun next hstep => (ih (hkeep s label next hinv hcond hstep)).mp (hrest next hstep)⟩
    · rintro ⟨hcond, hrest⟩
      exact ⟨hprop s hinv, fun next hstep => (ih (hkeep s label next hinv hcond hstep)).mpr (hrest next hstep)⟩

theorem Reachable.run {cond : σ → ι → Prop} {s : σ} (hreach : m.Reachable cond s)
    (labels : List ι) (hmeets : m.Meets cond s labels) {last : σ} (hrun : m.run s labels = some last) :
    m.Reachable cond last := by
  induction labels generalizing s with
  | nil =>
    simp only [Machine.run, Option.some.injEq] at hrun
    exact hrun ▸ hreach
  | cons label rest ih =>
    obtain ⟨hcond, hrest⟩ := hmeets
    simp only [Machine.run, Option.bind_eq_some_iff] at hrun
    obtain ⟨next, hnext, hrun⟩ := hrun
    exact ih (.step hreach hcond hnext) (hrest next hnext) hrun

theorem meets_always (s : σ) (labels : List ι) : m.Meets Always s labels := by
  induction labels generalizing s with
  | nil => trivial
  | cons label rest ih => exact ⟨trivial, fun next _ => ih next⟩

/-- The last state of a schedule that runs from the initial state is reachable. -/
theorem reachable_of_run {labels : List ι} {last : σ} (hrun : m.run m.init labels = some last) :
    m.Reachable Always last :=
  Reachable.run .init labels (meets_always _ _) hrun

end Machine

/-- Numbers give different names to what a schedule brings in. -/
theorem toString_ne {m n : Nat} (hne : m ≠ n) : toString m ≠ toString n := by
  intro heq
  have hdigits : Nat.toDigits 10 m = Nat.toDigits 10 n := String.ofList_inj.mp heq
  have hm : Nat.ofDigitChars 10 (Nat.toDigits 10 m) 0 = m := Nat.ofDigitChars_toDigits (by decide) (by decide)
  rw [hdigits, Nat.ofDigitChars_toDigits (by decide) (by decide)] at hm
  exact hne hm.symm

end transition
