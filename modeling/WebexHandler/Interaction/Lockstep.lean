import WebexHandler.Interaction.Program

namespace interaction

/-- How two environments go together: the operations that correspond, and the results that
    they may have in step. -/
structure Sync (Op : Type) (Res : Op → Type) (Op' : Type) (Res' : Op' → Type) where
  ops : Op → Op' → Prop
  results : (op : Op) → Res op → (op' : Op') → Res' op' → Prop

variable {Op Op' Op'' : Type} {Res : Op → Type} {Res' : Op' → Type} {Res'' : Op'' → Type}
  {α α' α'' β β' σ σ' σ'' ε ε' ε'' : Type}

/-- Two programs that ask corresponding operations in the same order, as long as the results
    are in step, and end with values in a relation. -/
def Program.Lockstep (sync : Sync Op Res Op' Res') (post : α → α' → Prop) :
    Program Op Res α → Program Op' Res' α' → Prop
  | .ret value, .ret value' => post value value'
  | .ask op next, .ask op' next' =>
    sync.ops op op' ∧ ∀ r r', sync.results op r op' r' → Lockstep sync post (next r) (next' r')
  | _, _ => False

namespace Program

theorem bind_ret (p : Program Op Res α) : p.bind .ret = p := by
  induction p with
  | ret value => rfl
  | ask op next ih => simp only [bind, ih]

variable {sync : Sync Op Res Op' Res'}

theorem Lockstep.mono {post weaker : α → α' → Prop} (himp : ∀ value value', post value value' → weaker value value')
    {p : Program Op Res α} {p' : Program Op' Res' α'} (hstep : p.Lockstep sync post p') : p.Lockstep sync weaker p' := by
  induction p generalizing p' with
  | ret value =>
    cases p' with
    | ret value' => exact himp value value' hstep
    | ask op' next' => exact hstep.elim
  | ask op next ih =>
    cases p' with
    | ret value' => exact hstep.elim
    | ask op' next' => exact ⟨hstep.1, fun r r' hresults => ih r (hstep.2 r r' hresults)⟩

theorem Lockstep.bind {mid : α → α' → Prop} {post : β → β' → Prop} {p : Program Op Res α} {p' : Program Op' Res' α'}
    {f : α → Program Op Res β} {f' : α' → Program Op' Res' β'} (hp : p.Lockstep sync mid p')
    (hf : ∀ value value', mid value value' → (f value).Lockstep sync post (f' value')) :
    (p.bind f).Lockstep sync post (p'.bind f') := by
  induction p generalizing p' with
  | ret value =>
    cases p' with
    | ret value' => exact hf value value' hp
    | ask op' next' => exact hp.elim
  | ask op next ih =>
    cases p' with
    | ret value' => exact hp.elim
    | ask op' next' => exact ⟨hp.1, fun r r' hresults => ih r (hp.2 r r' hresults)⟩

end Program

/-- Operations that correspond through one in the middle. -/
def Sync.comp (sync : Sync Op Res Op' Res') (sync' : Sync Op' Res' Op'' Res'') : Sync Op Res Op'' Res'' where
  ops op op'' := ∃ op', sync.ops op op' ∧ sync'.ops op' op''
  results op r op'' r'' := ∀ op', sync.ops op op' → sync'.ops op' op'' →
    ∃ r', sync.results op r op' r' ∧ sync'.results op' r' op'' r''

theorem Program.Lockstep.trans {sync : Sync Op Res Op' Res'} {sync' : Sync Op' Res' Op'' Res''}
    {post : α → α' → Prop} {post' : α' → α'' → Prop} {p : Program Op Res α} {p' : Program Op' Res' α'}
    {p'' : Program Op'' Res'' α''} (hfirst : p.Lockstep sync post p') (hsecond : p'.Lockstep sync' post' p'') :
    p.Lockstep (sync.comp sync') (fun value value'' => ∃ value', post value value' ∧ post' value' value'') p'' := by
  induction p generalizing p' p'' with
  | ret value =>
    cases p' with
    | ret value' =>
      cases p'' with
      | ret value'' => exact ⟨value', hfirst, hsecond⟩
      | ask op'' next'' => exact hsecond.elim
    | ask op' next' => exact hfirst.elim
  | ask op next ih =>
    cases p' with
    | ret value' => exact hfirst.elim
    | ask op' next' =>
      cases p'' with
      | ret value'' => exact hsecond.elim
      | ask op'' next'' =>
        refine ⟨⟨op', hfirst.1, hsecond.1⟩, fun r r'' hresults => ?_⟩
        obtain ⟨r', hr, hr'⟩ := hresults op' hfirst.1 hsecond.1
        exact ih r (hfirst.2 r r' hr) (hsecond.2 r' r'' hr')

def Sync.symm (sync : Sync Op Res Op' Res') : Sync Op' Res' Op Res where
  ops op' op := sync.ops op op'
  results op' r' op r := sync.results op r op' r'

theorem Program.Lockstep.symm {sync : Sync Op Res Op' Res'} {post : α → α' → Prop} {p : Program Op Res α}
    {p' : Program Op' Res' α'} (hstep : p.Lockstep sync post p') :
    p'.Lockstep sync.symm (fun value' value => post value value') p := by
  induction p generalizing p' with
  | ret value =>
    cases p' with
    | ret value' => exact hstep
    | ask op' next' => exact hstep.elim
  | ask op next ih =>
    cases p' with
    | ret value' => exact hstep.elim
    | ask op' next' => exact ⟨hstep.1, fun r' r hresults => ih r (hstep.2 r r' hresults)⟩

/-- More operations may correspond, and fewer results be in step. -/
theorem Program.Lockstep.loosen {sync loose : Sync Op Res Op' Res'} (hops : ∀ op op', sync.ops op op' → loose.ops op op')
    (hresults : ∀ op r op' r', sync.ops op op' → loose.results op r op' r' → sync.results op r op' r')
    {post : α → α' → Prop} {p : Program Op Res α} {p' : Program Op' Res' α'} (hstep : p.Lockstep sync post p') :
    p.Lockstep loose post p' := by
  induction p generalizing p' with
  | ret value =>
    cases p' with
    | ret value' => exact hstep
    | ask op' next' => exact hstep.elim
  | ask op next ih =>
    cases p' with
    | ret value' => exact hstep.elim
    | ask op' next' =>
      exact ⟨hops op op' hstep.1, fun r r' hr => ih r (hstep.2 r r' (hresults op r op' r' hstep.1 hr))⟩

/-- `Program.Lockstep` for methods called in two states. -/
def Method.Lockstep (sync : Sync Op Res Op' Res') (m : Method Op Res σ ε α) (m' : Method Op' Res' σ' ε' α') (s : σ)
    (s' : σ') (post : Except ε α → σ → Except ε' α' → σ' → Prop) : Prop :=
  (m s).Lockstep sync (fun out out' => post out.1 out.2 out'.1 out'.2) (m' s')

/-- Outcomes of the same kind, with values or errors in a relation. -/
inductive SameOutcome (values : α → α' → Prop) (errors : ε → ε' → Prop) : Except ε α → Except ε' α' → Prop
  | ok {value : α} {value' : α'} (hvalues : values value value') : SameOutcome values errors (.ok value) (.ok value')
  | error {e : ε} {e' : ε'} (herrors : errors e e') : SameOutcome values errors (.error e) (.error e')

/-- Methods that stay in step from states in a relation, and end in states in the relation
    with outcomes in another one. -/
def Method.InStep (sync : Sync Op Res Op' Res') (states : σ → σ' → Prop) (outcomes : Except ε α → Except ε' α' → Prop)
    (m : Method Op Res σ ε α) (m' : Method Op' Res' σ' ε' α') : Prop :=
  ∀ s s', states s s' → m.Lockstep sync m' s s' fun r t r' t' => outcomes r r' ∧ states t t'

namespace Method

variable {sync : Sync Op Res Op' Res'} {states : σ → σ' → Prop} {errors : ε → ε' → Prop} {values mid : α → α' → Prop}
  {outcomes weaker : Except ε α → Except ε' α' → Prop}

theorem InStep.mono {m : Method Op Res σ ε α} {m' : Method Op' Res' σ' ε' α'} (hm : m.InStep sync states outcomes m')
    (himp : ∀ r r', outcomes r r' → weaker r r') : m.InStep sync states weaker m' :=
  fun s s' hstates => Program.Lockstep.mono (fun _ _ hout => ⟨himp _ _ hout.1, hout.2⟩) (hm s s' hstates)

theorem InStep.loosen {loose : Sync Op Res Op' Res'} {m : Method Op Res σ ε α} {m' : Method Op' Res' σ' ε' α'}
    (hm : m.InStep sync states outcomes m') (hops : ∀ op op', sync.ops op op' → loose.ops op op')
    (hresults : ∀ op r op' r', sync.ops op op' → loose.results op r op' r' → sync.results op r op' r') :
    m.InStep loose states outcomes m' :=
  fun s s' hstates => Program.Lockstep.loosen hops hresults (hm s s' hstates)

theorem InStep.symm {m : Method Op Res σ ε α} {m' : Method Op' Res' σ' ε' α'} (hm : m.InStep sync states outcomes m') :
    m'.InStep sync.symm (fun s' s => states s s') (fun r' r => outcomes r r') m :=
  fun s' s hstates => Program.Lockstep.symm (hm s s' hstates)

theorem InStep.trans {sync' : Sync Op' Res' Op'' Res''} {states' : σ' → σ'' → Prop}
    {outcomes' : Except ε' α' → Except ε'' α'' → Prop} {m : Method Op Res σ ε α} {m' : Method Op' Res' σ' ε' α'}
    {m'' : Method Op'' Res'' σ'' ε'' α''} (hm : m.InStep sync states outcomes m')
    (hm' : m'.InStep sync' states' outcomes' m'') :
    m.InStep (sync.comp sync') (fun s s'' => ∃ s', states s s' ∧ states' s' s'')
      (fun r r'' => ∃ r', outcomes r r' ∧ outcomes' r' r'') m'' := by
  rintro s s'' ⟨s', hstates, hstates'⟩
  refine Program.Lockstep.mono ?_ (Program.Lockstep.trans (hm s s' hstates) (hm' s' s'' hstates'))
  rintro out out'' ⟨out', hout, hout'⟩
  exact ⟨⟨out'.1, hout.1, hout'.1⟩, out'.2, hout.2, hout'.2⟩

theorem inStep_ofExcept {outcome : Except ε α} {outcome' : Except ε' α'} (houtcomes : outcomes outcome outcome') :
    (ofExcept outcome : Method Op Res σ ε α).InStep sync states outcomes (ofExcept outcome' : Method Op' Res' σ' ε' α') :=
  fun _ _ hstates => ⟨houtcomes, hstates⟩

theorem inStep_pure {value : α} {value' : α'} (houtcomes : outcomes (.ok value) (.ok value')) :
    (Pure.pure value : Method Op Res σ ε α).InStep sync states outcomes (Pure.pure value' : Method Op' Res' σ' ε' α') :=
  inStep_ofExcept houtcomes

theorem inStep_throw {e : ε} {e' : ε'} (houtcomes : outcomes (.error e) (.error e')) :
    (throw e : Method Op Res σ ε α).InStep sync states outcomes (throw e' : Method Op' Res' σ' ε' α') :=
  inStep_ofExcept houtcomes

theorem inStep_bind {outcomes : Except ε β → Except ε' β' → Prop} {m : Method Op Res σ ε α}
    {m' : Method Op' Res' σ' ε' α'} {f : α → Method Op Res σ ε β} {f' : α' → Method Op' Res' σ' ε' β'}
    (hm : m.InStep sync states (SameOutcome mid errors) m')
    (hf : ∀ value value', mid value value' → (f value).InStep sync states outcomes (f' value'))
    (herror : ∀ e e', errors e e' → outcomes (.error e) (.error e')) :
    (m >>= f).InStep sync states outcomes (m' >>= f') := by
  intro s s' hstates
  refine Program.Lockstep.bind (hm s s' hstates) ?_
  rintro ⟨r, t⟩ ⟨r', t'⟩ ⟨hsame, hstates'⟩
  cases hsame with
  | ok hvalues => exact hf _ _ hvalues t t' hstates'
  | error herrors => exact ⟨herror _ _ herrors, hstates'⟩

/-- What follows a read of the states may rely on states in the relation. -/
theorem inStep_bind_get {f : σ → Method Op Res σ ε α} {f' : σ' → Method Op' Res' σ' ε' α'}
    (hf : ∀ s s', states s s' → (f s).InStep sync states outcomes (f' s')) :
    (get >>= f).InStep sync states outcomes (get >>= f') :=
  fun s s' hstates => hf s s' hstates s s' hstates

theorem inStep_bind_modify {g : σ → σ} {g' : σ' → σ'} {f : PUnit → Method Op Res σ ε α}
    {f' : PUnit → Method Op' Res' σ' ε' α'} (hg : ∀ s s', states s s' → states (g s) (g' s'))
    (hf : (f ⟨⟩).InStep sync states outcomes (f' ⟨⟩)) :
    (modify g >>= f).InStep sync states outcomes (modify g' >>= f') :=
  fun s s' hstates => hf _ _ (hg s s' hstates)

theorem inStep_bind_request {op : Op} {op' : Op'} {f : Res op → Method Op Res σ ε α}
    {f' : Res' op' → Method Op' Res' σ' ε' α'} (hops : sync.ops op op')
    (hf : ∀ r r', sync.results op r op' r' → (f r).InStep sync states outcomes (f' r')) :
    (request op >>= f).InStep sync states outcomes (request op' >>= f') :=
  fun s s' hstates => ⟨hops, fun r r' hresults => hf r r' hresults s s' hstates⟩

/-- A request and what follows it, in step with a request alone. -/
theorem inStep_request {op : Op} {op' : Op'} {outcomes : Except ε α → Except ε' (Res' op') → Prop}
    {f : Res op → Method Op Res σ ε α} (hops : sync.ops op op')
    (hf : ∀ r r', sync.results op r op' r' →
      (f r).InStep sync states outcomes (Pure.pure r' : Method Op' Res' σ' ε' (Res' op'))) :
    (request op >>= f).InStep sync states outcomes (request op' : Method Op' Res' σ' ε' (Res' op')) :=
  inStep_bind_request hops hf

/-- The outcome of a method as a value, in step with a method that has it already. -/
theorem inStep_attempt {outcomes : Except ε (Except ε α) → Except ε' α' → Prop} {m : Method Op Res σ ε α}
    {m' : Method Op' Res' σ' ε' α'} (hm : m.InStep sync states (fun r r' => outcomes (.ok r) r') m') :
    m.attempt.InStep sync states outcomes m' := by
  intro s s' hstates
  have hret : m' s' = (m' s').bind Program.ret := (Program.bind_ret _).symm
  unfold Method.Lockstep
  rw [hret]
  refine Program.Lockstep.bind (hm s s' hstates) ?_
  rintro ⟨r, t⟩ ⟨r', t'⟩ hout
  exact hout

theorem inStep_attempt_both {m : Method Op Res σ ε α} {m' : Method Op' Res' σ' ε' α'}
    (hm : m.InStep sync states outcomes m') :
    m.attempt.InStep sync states (SameOutcome outcomes errors) m'.attempt := by
  intro s s' hstates
  refine Program.Lockstep.bind (hm s s' hstates) ?_
  rintro ⟨r, t⟩ ⟨r', t'⟩ ⟨houtcomes, hstates'⟩
  exact ⟨.ok houtcomes, hstates'⟩

/-- A handler that throws again an error in the same relation. -/
theorem inStep_rethrow {handle : ε → Method Op Res σ ε α} {m : Method Op Res σ ε α} {m' : Method Op' Res' σ' ε' α'}
    (hm : m.InStep sync states (SameOutcome values errors) m')
    (hhandle : ∀ e e', errors e e' → ∃ thrown, handle e = throw thrown ∧ errors thrown e') :
    (tryCatch m handle).InStep sync states (SameOutcome values errors) m' := by
  intro s s' hstates
  have hret : m' s' = (m' s').bind Program.ret := (Program.bind_ret _).symm
  unfold Method.Lockstep
  rw [hret]
  refine Program.Lockstep.bind (hm s s' hstates) ?_
  rintro ⟨r, t⟩ ⟨r', t'⟩ ⟨hsame, hstates'⟩
  cases hsame with
  | ok hvalues => exact ⟨.ok hvalues, hstates'⟩
  | error herrors =>
    obtain ⟨thrown, hthrow, hthrown⟩ := hhandle _ _ herrors
    show (handle _ t).Lockstep sync _ _
    rw [hthrow]
    exact ⟨.error hthrown, hstates'⟩

end Method

end interaction
