import Mathlib.Algebra.GroupWithZero.Nat
import WebexHandler.Interaction.History

namespace interaction

variable {Op : Type} {Res : Op → Type} {Env α : Type}

/-- The exchanges of a run to its end, with the time that each takes on the
    environment's clock. -/
def Program.timed (answer : (op : Op) → Env → Res op × Env) (clock : Env → Nat) :
    Program Op Res α → Env → List (Exchange Res × Nat)
  | .ret _, _ => []
  | .ask op next, env =>
    (⟨op, (answer op env).1⟩, clock (answer op env).2 - clock env) ::
      (next (answer op env).1).timed answer clock (answer op env).2

/-- The time that a part of a run takes. -/
def elapsed (history : List (Exchange Res × Nat)) : Nat := (history.map Prod.snd).sum

@[simp]
theorem elapsed_append (history more : List (Exchange Res × Nat)) :
    elapsed (history ++ more) = elapsed history + elapsed more := by
  simp [elapsed]

@[simp]
theorem elapsed_cons (entry : Exchange Res × Nat) (history : List (Exchange Res × Nat)) :
    elapsed (entry :: history) = entry.2 + elapsed history := by
  simp [elapsed]

@[simp]
theorem elapsed_nil : elapsed ([] : List (Exchange Res × Nat)) = 0 := rfl

theorem elapsed_le_of_sublist {history more : List (Exchange Res × Nat)} (hsublist : history.Sublist more) :
    elapsed history ≤ elapsed more := by
  induction hsublist with
  | slnil => exact Nat.le_refl _
  | cons entry _ ih =>
    rw [elapsed_cons]
    omega
  | cons_cons entry _ ih =>
    rw [elapsed_cons, elapsed_cons]
    omega

theorem Program.map_timed (answer : (op : Op) → Env → Res op × Env) (clock : Env → Nat) (p : Program Op Res α) (env : Env) :
    (p.timed answer clock env).map Prod.fst = p.exchanges answer env := by
  induction p generalizing env with
  | ret value => rfl
  | ask op next ih =>
    simp only [Program.timed, Program.exchanges, List.map_cons]
    rw [ih]

theorem Program.timed_bind (answer : (op : Op) → Env → Res op × Env) (clock : Env → Nat) {β : Type}
    (p : Program Op Res α) (f : α → Program Op Res β) (env : Env) : (p.bind f).timed answer clock env =
      p.timed answer clock env ++ (f (p.exec answer env).1).timed answer clock (p.exec answer env).2 := by
  induction p generalizing env with
  | ret value => rfl
  | ask op next ih =>
    simp only [Program.bind, Program.timed, Program.exec, List.cons_append]
    rw [ih]

theorem Method.timed_bind (answer : (op : Op) → Env → Res op × Env) (clock : Env → Nat) {σ ε β : Type}
    (m : Method Op Res σ ε α) (f : α → Method Op Res σ ε β) (s : σ) (env : Env) : ((m >>= f) s).timed answer clock env =
      (m s).timed answer clock env ++ match (m s).exec answer env with
        | ((.ok value, s'), env') => (f value s').timed answer clock env'
        | ((.error _, _), _) => [] := by
  refine (Program.timed_bind answer clock (m s) _ env).trans ?_
  obtain ⟨⟨_ | value, s'⟩, env'⟩ := (m s).exec answer env
  · rfl
  · rfl

section answered

variable {answer : (op : Op) → Env → Res op × Env} {op : Op} {r : Res op} {env env' : Env} (next : Res op → Program Op Res α)

theorem Program.exec_ask (hanswer : answer op env = (r, env')) :
    (Program.ask op next).exec answer env = (next r).exec answer env' := by
  rw [Program.exec, hanswer]

theorem Program.timed_ask (clock : Env → Nat) (hanswer : answer op env = (r, env')) :
    (Program.ask op next).timed answer clock env = (⟨op, r⟩, clock env' - clock env) :: (next r).timed answer clock env' := by
  rw [Program.timed, hanswer]

end answered

/-- The view is the environment itself. -/
def following (answer : (op : Op) → Env → Res op × Env) : Monitor Op Res Env where
  allowed _ _ := True
  moves env op r env' := r = (answer op env).1 ∧ env' = (answer op env).2

theorem Program.obeys_following {answer : (op : Op) → Env → Res op × Env} {post : α → Env → Prop} {p : Program Op Res α}
    {env : Env} (hobeys : p.Obeys (following answer) post env) : post (p.exec answer env).1 (p.exec answer env).2 := by
  have hanswer : ∀ op env, (following answer).moves env op (answer op env).1 (answer op env).2 := fun _ _ => ⟨rfl, rfl⟩
  exact hobeys.exec hanswer

theorem Program.follows {answer : (op : Op) → Env → Res op × Env} (p : Program Op Res α) (env : Env) :
    p.Obeys (following answer) (fun _ _ => True) env := by
  induction p generalizing env with
  | ret value => trivial
  | ask op next ih => exact ⟨trivial, fun r env' _ => ih r env'⟩

section before_last

variable {β : Type} (found : β → Bool)

/-- What comes before the last element that is sought, and nothing without one. -/
def before_last : List β → List β
  | [] => []
  | b :: rest => if rest.any found then b :: before_last rest else []

variable {found}

theorem prefix_before_last {earlier later : List β} {b : β} (hfound : found b = true) :
    earlier <+: before_last found (earlier ++ b :: later) := by
  induction earlier with
  | nil => exact List.nil_prefix
  | cons a rest ih =>
    have hany : (rest ++ b :: later).any found = true := by simp [hfound]
    simp only [List.cons_append, before_last, hany, if_true]
    exact List.cons_prefix_cons.mpr ⟨rfl, ih⟩

theorem before_last_split {list : List β} (hany : list.any found = true) :
    ∃ b later, list = before_last found list ++ b :: later ∧ found b = true := by
  induction list with
  | nil => simp at hany
  | cons a rest ih =>
    cases hrest : rest.any found with
    | true =>
      obtain ⟨b, later, hsplit, hfound⟩ := ih hrest
      refine ⟨b, later, ?_, hfound⟩
      simp only [before_last, hrest, if_true, List.cons_append]
      rw [← hsplit]
    | false =>
      rw [List.any_cons, hrest, Bool.or_false] at hany
      exact ⟨a, rest, by simp [before_last, hrest], hany⟩

theorem before_last_eq_nil {list : List β} (hnone : list.any found = false) : before_last found list = [] := by
  cases list with
  | nil => rfl
  | cons a rest =>
    rw [List.any_cons, Bool.or_eq_false_iff] at hnone
    simp [before_last, hnone.2]

end before_last

end interaction
