import WebexHandler.Interaction.Run

namespace interaction

variable {Op : Type} {Res : Op → Type} {Env α : Type}

/-- An operation with its answer. -/
abbrev Exchange (Res : Op → Type) : Type := (op : Op) × Res op

/-- What a run to its end asks and is answered, in order. -/
def Program.exchanges (answer : (op : Op) → Env → Res op × Env) : Program Op Res α → Env → List (Exchange Res)
  | .ret _, _ => []
  | .ask op next, env => ⟨op, (answer op env).1⟩ :: (next (answer op env).1).exchanges answer (answer op env).2

/-- The view is the history of the run. -/
def recording : Monitor Op Res (List (Exchange Res)) where
  allowed _ _ := True
  moves g op r g' := g' = g ++ [⟨op, r⟩]

/-- What a program ensures of its history, it ensures of every run to its end. -/
theorem Program.Obeys.exchanges {answer : (op : Op) → Env → Res op × Env} {post : α → List (Exchange Res) → Prop}
    {p : Program Op Res α} {g : List (Exchange Res)} {env : Env} (hobeys : p.Obeys recording post g) :
    post (p.exec answer env).1 (g ++ p.exchanges answer env) := by
  induction p generalizing g env with
  | ret value =>
    rw [Program.exchanges, List.append_nil]
    exact hobeys
  | ask op next ih =>
    let r := (answer op env).1
    have hnext : (next r).Obeys recording post (g ++ [⟨op, r⟩]) := hobeys.2 r _ rfl
    have hrest := @ih r (g ++ [⟨op, r⟩]) (answer op env).2 hnext
    rw [List.append_assoc] at hrest
    exact hrest

theorem Program.exchanges_bind (answer : (op : Op) → Env → Res op × Env) {β : Type} (p : Program Op Res α)
    (f : α → Program Op Res β) (env : Env) : (p.bind f).exchanges answer env =
      p.exchanges answer env ++ (f (p.exec answer env).1).exchanges answer (p.exec answer env).2 := by
  induction p generalizing env with
  | ret value => rfl
  | ask op next ih =>
    simp only [Program.bind, Program.exchanges, Program.exec, List.cons_append]
    rw [ih]

theorem Program.answered_of_mem {answer : (op : Op) → Env → Res op × Env} {p : Program Op Res α} {env : Env}
    {exchange : Exchange Res} (hmem : exchange ∈ p.exchanges answer env) :
    ∃ env', exchange.2 = (answer exchange.1 env').1 := by
  induction p generalizing env with
  | ret value => cases hmem
  | ask op next ih =>
    obtain rfl | hrest := List.mem_cons.mp hmem
    · exact ⟨env, rfl⟩
    · exact ih _ hrest

section along

variable {β : Type} (step : List β → β → Prop)

/-- Every element of a list is in a relation to what comes before it. -/
def Along : List β → List β → Prop
  | _, [] => True
  | before, b :: rest => step before b ∧ Along (before ++ [b]) rest

variable {step}

theorem along_append {before first second : List β} :
    Along step before (first ++ second) ↔ Along step before first ∧ Along step (before ++ first) second := by
  induction first generalizing before with
  | nil => simp [Along]
  | cons b rest ih =>
    simp only [List.cons_append, Along, ih, and_assoc, List.append_assoc, List.nil_append]

theorem Along.split {before list earlier later : List β} {b : β} (halong : Along step before list)
    (hlist : list = earlier ++ b :: later) : step (before ++ earlier) b := by
  rw [hlist, along_append] at halong
  exact halong.2.1

theorem along_iff_split {before list : List β} :
    Along step before list ↔ ∀ earlier b later, list = earlier ++ b :: later → step (before ++ earlier) b := by
  refine ⟨fun halong earlier b later hlist => halong.split hlist, fun hsplit => ?_⟩
  induction list generalizing before with
  | nil => trivial
  | cons b rest ih =>
    refine ⟨?_, ih fun earlier c later hrest => ?_⟩
    · have hfirst := hsplit [] b rest rfl
      rwa [List.append_nil] at hfirst
    · have hnext := hsplit (b :: earlier) c later (by rw [hrest, List.cons_append])
      rwa [List.append_cons] at hnext

end along

end interaction
