import WebexHandler.Interaction.Obeys

namespace interaction

variable {Op : Type} {Res : Op → Type} {Env Choice γ α : Type}

/-- One operation of a program against an executable environment, whose choices
    are resolved by `choice`. -/
def Program.advance (perform : (op : Op) → Choice → Env → Option (Res op × Env)) (choice : Choice) (env : Env) :
    Program Op Res α → Option (Program Op Res α × Env)
  | .ret _ => none
  | .ask op next => (perform op choice env).map fun (r, env') => (next r, env')

/-- An environment moves as the monitor says, as long as the operations it is asked
    for are permitted and meet `cond`. -/
def Monitor.Sound (mon : Monitor Op Res γ) (view : Env → γ → Prop) (cond : Env → Op → Prop)
    (perform : (op : Op) → Choice → Env → Option (Res op × Env)) : Prop :=
  ∀ op choice env env' r g, view env g → mon.allowed g op → cond env op →
    perform op choice env = some (r, env') → ∃ g', mon.moves g op r g' ∧ view env' g'

/-- A program that obeys a monitor still does after one operation in an environment
    the monitor describes. -/
theorem Program.Obeys.advance {mon : Monitor Op Res γ} {view : Env → γ → Prop} {cond : Env → Op → Prop}
    {perform : (op : Op) → Choice → Env → Option (Res op × Env)} (hsound : mon.Sound view cond perform)
    {post : α → γ → Prop} {p p' : Program Op Res α} {env env' : Env} {g : γ} {choice : Choice}
    (hobeys : p.Obeys mon post g) (hview : view env g) (hcond : ∀ op, p.head = some op → cond env op)
    (hadvance : p.advance perform choice env = some (p', env')) :
    ∃ g', view env' g' ∧ p'.Obeys mon post g' := by
  cases p with
  | ret value => simp [Program.advance] at hadvance
  | ask op next =>
    simp only [Program.advance, Option.map_eq_some_iff, Prod.mk.injEq] at hadvance
    obtain ⟨⟨r, after⟩, hperform, rfl, rfl⟩ := hadvance
    obtain ⟨g', hmoves, hview'⟩ := hsound op choice env after r g hview hobeys.1 (hcond op rfl) hperform
    exact ⟨g', hview', hobeys.2 r g' hmoves⟩

/-- A program run to its end without interruption, its choices resolved by a list. -/
def Program.finish (perform : (op : Op) → Choice → Env → Option (Res op × Env)) :
    Program Op Res α → List Choice → Env → Option (α × Env)
  | .ret value, [], env => some (value, env)
  | .ask op next, choice :: rest, env =>
    (perform op choice env).bind fun (r, env') => (next r).finish perform rest env'
  | _, _, _ => none

theorem Program.Obeys.finish {mon : Monitor Op Res γ} {view : Env → γ → Prop} {cond : Env → Op → Prop}
    {perform : (op : Op) → Choice → Env → Option (Res op × Env)} (hsound : mon.Sound view cond perform)
    (hcond : ∀ env op, cond env op) {post : α → γ → Prop} {p : Program Op Res α} {env env' : Env} {g : γ}
    {choices : List Choice} {value : α} (hobeys : p.Obeys mon post g) (hview : view env g)
    (hfinish : p.finish perform choices env = some (value, env')) : ∃ g', view env' g' ∧ post value g' := by
  induction p generalizing env g choices with
  | ret result =>
    cases choices with
    | nil =>
      simp only [Program.finish, Option.some.injEq, Prod.mk.injEq] at hfinish
      obtain ⟨rfl, rfl⟩ := hfinish
      exact ⟨g, hview, hobeys⟩
    | cons choice rest => simp [Program.finish] at hfinish
  | ask op next ih =>
    cases choices with
    | nil => simp [Program.finish] at hfinish
    | cons choice rest =>
      simp only [Program.finish, Option.bind_eq_some_iff] at hfinish
      obtain ⟨⟨r, after⟩, hperform, hrest⟩ := hfinish
      obtain ⟨g', hmoves, hview'⟩ := hsound op choice env after r g hview hobeys.1 (hcond env op) hperform
      exact ih r (hobeys.2 r g' hmoves) hview' hrest

/-- A program run alone to its end, against an environment that answers every
    operation at once. -/
def Program.exec (answer : (op : Op) → Env → Res op × Env) : Program Op Res α → Env → α × Env
  | .ret value, env => (value, env)
  | .ask op next, env => (next (answer op env).1).exec answer (answer op env).2

@[simp]
theorem Program.exec_pure (answer : (op : Op) → Env → Res op × Env) (value : α) (env : Env) :
    (pure value : Program Op Res α).exec answer env = (value, env) := rfl

@[simp]
theorem Program.exec_request (answer : (op : Op) → Env → Res op × Env) (op : Op) (env : Env) :
    (Program.request op : Program Op Res (Res op)).exec answer env = answer op env := rfl

@[simp]
theorem Program.exec_bind (answer : (op : Op) → Env → Res op × Env) {β : Type} (p : Program Op Res α)
    (f : α → Program Op Res β) (env : Env) :
    (p >>= f).exec answer env = (f (p.exec answer env).1).exec answer (p.exec answer env).2 := by
  show (p.bind f).exec answer env = _
  induction p generalizing env with
  | ret value => rfl
  | ask op next ih => exact ih (answer op env).1 (answer op env).2

theorem Method.exec_bind (answer : (op : Op) → Env → Res op × Env) {σ ε β : Type} (m : Method Op Res σ ε α)
    (f : α → Method Op Res σ ε β) (s : σ) (env : Env) :
    ((m >>= f) s).exec answer env =
      match (m s).exec answer env with
      | ((.ok value, s'), env') => (f value s').exec answer env'
      | ((.error e, s'), env') => ((.error e, s'), env') := by
  refine (Program.exec_bind answer (m s) _ env).trans ?_
  obtain ⟨⟨_ | value, s'⟩, env'⟩ := (m s).exec answer env
  · rfl
  · rfl

/-- The operations of a run to its end, in order. -/
def Program.trace (answer : (op : Op) → Env → Res op × Env) : Program Op Res α → Env → List Op
  | .ret _, _ => []
  | .ask op next, env => op :: (next (answer op env).1).trace answer (answer op env).2

theorem Program.trace_bind (answer : (op : Op) → Env → Res op × Env) {β : Type} (p : Program Op Res α)
    (f : α → Program Op Res β) (env : Env) :
    (p >>= f).trace answer env = p.trace answer env ++ (f (p.exec answer env).1).trace answer (p.exec answer env).2 := by
  show (p.bind f).trace answer env = _
  induction p generalizing env with
  | ret value => rfl
  | ask op next ih =>
    simp only [Program.bind, Program.trace, Program.exec, List.cons_append]
    rw [ih]

section outcomes

variable {σ ε β : Type} {answer : (op : Op) → Env → Res op × Env} {m : Method Op Res σ ε α} {s s' : σ} {env env' : Env}
  {value : α}

theorem Method.exec_bind_ok (hm : (m s).exec answer env = ((.ok value, s'), env')) (f : α → Method Op Res σ ε β) :
    ((m >>= f) s).exec answer env = (f value s').exec answer env' := by
  rw [Method.exec_bind, hm]

theorem Method.trace_bind_ok (hm : (m s).exec answer env = ((.ok value, s'), env')) (f : α → Method Op Res σ ε β) :
    ((m >>= f) s).trace answer env = (m s).trace answer env ++ (f value s').trace answer env' := by
  refine (Program.trace_bind answer (m s) _ env).trans ?_
  rw [hm]

theorem Method.exec_attempt {outcome : Except ε α} (hm : (m s).exec answer env = ((outcome, s'), env')) :
    (m.attempt s).exec answer env = ((.ok outcome, s'), env') := by
  refine (Program.exec_bind answer (m s) _ env).trans ?_
  rw [hm]
  rfl

theorem Method.trace_attempt : (m.attempt s).trace answer env = (m s).trace answer env := by
  refine (Program.trace_bind answer (m s) _ env).trans ?_
  exact List.append_nil _

end outcomes

section lift

variable {Op' : Type} {Res' : Op' → Type} (inject : Op → Op') (project : ∀ op, Res' (inject op) → Res op)
  (answer : (op : Op') → Env → Res' op × Env) (p : Program Op Res α) (env : Env)

/-- The answers to a part of the operations. -/
def lifted_answer (op : Op) (env : Env) : Res op × Env := (project op (answer (inject op) env).1, (answer (inject op) env).2)

theorem Program.exec_lift : (p.lift inject project).exec answer env = p.exec (lifted_answer inject project answer) env := by
  induction p generalizing env with
  | ret value => rfl
  | ask op next ih => exact ih _ _

theorem Program.trace_lift :
    (p.lift inject project).trace answer env = (p.trace (lifted_answer inject project answer) env).map inject := by
  induction p generalizing env with
  | ret value => rfl
  | ask op next ih =>
    simp only [Program.lift, Program.trace, List.map_cons]
    rw [ih]
    rfl

end lift

/-- What a program ensures against a monitor, it ensures of a run to its end in an
    environment that answers as the monitor says. -/
theorem Program.Obeys.exec {mon : Monitor Op Res γ} {answer : (op : Op) → γ → Res op × γ}
    (hanswer : ∀ op g, mon.moves g op (answer op g).1 (answer op g).2) {post : α → γ → Prop} {p : Program Op Res α}
    {g : γ} (hobeys : p.Obeys mon post g) : post (p.exec answer g).1 (p.exec answer g).2 := by
  induction p generalizing g with
  | ret value => exact hobeys
  | ask op next ih => exact ih _ (hobeys.2 _ _ (hanswer op g))

/-- A run to its end preserves what every answer preserves. -/
theorem Program.exec_invariant {answer : (op : Op) → Env → Res op × Env} {inv : Env → Prop}
    (hanswer : ∀ op env, inv env → inv (answer op env).2) (p : Program Op Res α) {env : Env} (hinv : inv env) :
    inv (p.exec answer env).2 := by
  induction p generalizing env with
  | ret value => exact hinv
  | ask op next ih => exact ih _ (hanswer op env hinv)

/-- A program has the same result against environments that stay related and answer alike. -/
theorem Program.exec_related {Env' : Type} {answer : (op : Op) → Env → Res op × Env}
    {answer' : (op : Op) → Env' → Res op × Env'} {rel : Env → Env' → Prop}
    (hanswer : ∀ op env env', rel env env' →
      (answer op env).1 = (answer' op env').1 ∧ rel (answer op env).2 (answer' op env').2)
    (p : Program Op Res α) {env : Env} {env' : Env'} (hrel : rel env env') :
    (p.exec answer env).1 = (p.exec answer' env').1 ∧ rel (p.exec answer env).2 (p.exec answer' env').2 := by
  induction p generalizing env env' with
  | ret value => exact ⟨rfl, hrel⟩
  | ask op next ih =>
    obtain ⟨hresult, hrest⟩ := hanswer op env env' hrel
    simp only [Program.exec]
    rw [hresult]
    exact ih _ hrest

/-- A program run up to the first operation that is not answered at once. -/
def Program.settle (sync : (op : Op) → Env → Option (Res op × Env)) :
    Program Op Res α → Env → Program Op Res α × Env
  | .ret value, env => (.ret value, env)
  | .ask op next, env =>
    match sync op env with
    | some (r, env') => (next r).settle sync env'
    | none => (.ask op next, env)

theorem Program.settle_bind_ret {sync : (op : Op) → Env → Option (Res op × Env)} {β : Type} {p : Program Op Res α}
    {env env' : Env} {value : α} (hsettle : p.settle sync env = (.ret value, env')) (f : α → Program Op Res β) :
    (p.bind f).settle sync env = (f value).settle sync env' := by
  induction p generalizing env with
  | ret value =>
    cases hsettle
    rfl
  | ask op next ih =>
    cases hsync : sync op env with
    | none => simp [Program.settle, hsync] at hsettle
    | some answer =>
      simp only [Program.settle, hsync] at hsettle
      simp only [Program.bind, Program.settle, hsync]
      exact ih answer.1 hsettle

theorem Program.settle_bind_ask {sync : (op : Op) → Env → Option (Res op × Env)} {β : Type} {p : Program Op Res α}
    {env env' : Env} {op : Op} {next : Res op → Program Op Res α}
    (hsettle : p.settle sync env = (.ask op next, env')) (f : α → Program Op Res β) :
    (p.bind f).settle sync env = (.ask op fun r => (next r).bind f, env') := by
  induction p generalizing env with
  | ret value => cases hsettle
  | ask first rest ih =>
    cases hsync : sync first env with
    | none =>
      simp only [Program.settle, hsync] at hsettle
      cases hsettle
      simp only [Program.bind, Program.settle, hsync]
    | some answer =>
      simp only [Program.settle, hsync] at hsettle
      simp only [Program.bind, Program.settle, hsync]
      exact ih answer.1 hsettle

/-- A program that obeys a monitor still does at the operation it stops at. -/
theorem Program.Obeys.settle {mon : Monitor Op Res γ} {view : Env → γ → Prop}
    {sync : (op : Op) → Env → Option (Res op × Env)}
    (hsound : ∀ op env env' r g, view env g → mon.allowed g op → sync op env = some (r, env') →
      ∃ g', mon.moves g op r g' ∧ view env' g')
    {post : α → γ → Prop} {p : Program Op Res α} {env : Env} {g : γ} (hobeys : p.Obeys mon post g)
    (hview : view env g) :
    ∃ g', (p.settle sync env).1.Obeys mon post g' ∧ view (p.settle sync env).2 g' := by
  induction p generalizing env g with
  | ret value => exact ⟨g, hobeys, hview⟩
  | ask op next ih =>
    cases hsync : sync op env with
    | none =>
      simp only [Program.settle, hsync]
      exact ⟨g, hobeys, hview⟩
    | some answer =>
      obtain ⟨g', hmoves, hview'⟩ := hsound op env answer.2 answer.1 g hview hobeys.1 hsync
      simp only [Program.settle, hsync]
      exact ih answer.1 (hobeys.2 answer.1 g' hmoves) hview'

/-- A program run to its end on the head of a list of answers, one for each
    operation. The answers it did not need are left. -/
def Program.take (reply : (op : Op) → Choice → Option (Res op)) :
    Program Op Res α → List Choice → Option (α × List Choice)
  | .ret value, choices => some (value, choices)
  | .ask _ _, [] => none
  | .ask op next, choice :: rest => (reply op choice).bind fun r => (next r).take reply rest

theorem Program.take_bind (reply : (op : Op) → Choice → Option (Res op)) {β : Type} (p : Program Op Res α)
    (f : α → Program Op Res β) (choices : List Choice) :
    (p.bind f).take reply choices = (p.take reply choices).bind fun out => (f out.1).take reply out.2 := by
  induction p generalizing choices with
  | ret value => rfl
  | ask op next ih =>
    cases choices with
    | nil => rfl
    | cons choice rest =>
      simp only [Program.bind, Program.take, Option.bind_assoc]
      congr 1
      funext r
      exact ih r rest

theorem Program.take_suffix {reply : (op : Op) → Choice → Option (Res op)} {p : Program Op Res α}
    {choices rest : List Choice} {value : α} (htake : p.take reply choices = some (value, rest)) :
    rest <:+ choices := by
  induction p generalizing choices with
  | ret value =>
    simp only [Program.take, Option.some.injEq, Prod.mk.injEq] at htake
    exact htake.2 ▸ List.suffix_refl _
  | ask op next ih =>
    cases choices with
    | nil => simp [Program.take] at htake
    | cons choice choices =>
      simp only [Program.take, Option.bind_eq_some_iff] at htake
      obtain ⟨r, -, htake⟩ := htake
      exact (ih r htake).trans (List.suffix_cons choice choices)

/-- Every answer comes from a list, and the view is what `after` makes of the answers
    so far. -/
def answered (reply : (op : Op) → Choice → Option (Res op)) (after : γ → Choice → γ) (choices : List Choice) :
    Monitor Op Res γ where
  allowed _ _ := True
  moves g op r g' := ∃ choice ∈ choices, reply op choice = some r ∧ g' = after g choice

/-- What a program ensures against the answers of a list, it ensures of a run on them. -/
theorem Program.Obeys.take {reply : (op : Op) → Choice → Option (Res op)} {after : γ → Choice → γ}
    {choices : List Choice} {post : α → γ → Prop} {p : Program Op Res α} {g : γ} {script rest : List Choice}
    {value : α} (hobeys : p.Obeys (answered reply after choices) post g) (hsubset : script ⊆ choices)
    (htake : p.take reply script = some (value, rest)) :
    ∃ used, script = used ++ rest ∧ post value (used.foldl after g) := by
  induction p generalizing g script with
  | ret value =>
    simp only [Program.take, Option.some.injEq, Prod.mk.injEq] at htake
    obtain ⟨rfl, rfl⟩ := htake
    exact ⟨[], rfl, hobeys⟩
  | ask op next ih =>
    cases script with
    | nil => simp [Program.take] at htake
    | cons choice script =>
      simp only [Program.take, Option.bind_eq_some_iff] at htake
      obtain ⟨r, hreply, htake⟩ := htake
      have hmem : choice ∈ choices := hsubset List.mem_cons_self
      have hnext := hobeys.2 r (after g choice) ⟨choice, hmem, hreply, rfl⟩
      obtain ⟨used, rfl, hpost⟩ := ih r hnext (fun c hc => hsubset (List.mem_cons_of_mem _ hc)) htake
      exact ⟨choice :: used, rfl, hpost⟩

end interaction
