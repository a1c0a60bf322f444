import Mathlib.Data.List.Basic
import WebexHandler.Interaction.Program

namespace interaction

/-- What may be assumed about an environment, over an abstract view `γ` of it: the
    operations it permits and how each of them, with its result, moves the view. -/
structure Monitor (Op : Type) (Res : Op → Type) (γ : Type) where
  allowed : γ → Op → Prop
  moves : γ → (op : Op) → Res op → γ → Prop

variable {Op : Type} {Res : Op → Type} {γ α β σ ε : Type}

/-- A monitor seen by a component that uses a part of the operations. -/
def Monitor.restrict (mon : Monitor Op Res γ) {Op' : Type} {Res' : Op' → Type} (inject : Op' → Op)
    (project : ∀ op, Res (inject op) → Res' op) : Monitor Op' Res' γ where
  allowed g op := mon.allowed g (inject op)
  moves g op r g' := ∃ r', project op r' = r ∧ mon.moves g (inject op) r' g'

/-- Against every environment the monitor admits, the program performs permitted
    operations only, and its result satisfies `post`. -/
def Program.Obeys (mon : Monitor Op Res γ) (post : α → γ → Prop) : Program Op Res α → γ → Prop
  | .ret value, g => post value g
  | .ask op next, g => mon.allowed g op ∧ ∀ r g', mon.moves g op r g' → Obeys mon post (next r) g'

namespace Program

variable {mon : Monitor Op Res γ}

theorem Obeys.mono {post weaker : α → γ → Prop} (himp : ∀ value g, post value g → weaker value g)
    {p : Program Op Res α} {g : γ} (hobeys : p.Obeys mon post g) : p.Obeys mon weaker g := by
  induction p generalizing g with
  | ret value => exact himp value g hobeys
  | ask op next ih => exact ⟨hobeys.1, fun r g' hmoves => ih r (hobeys.2 r g' hmoves)⟩

/-- A program keeps to a second monitor whose views are related to those of the first. -/
theorem Obeys.transfer {δ : Type} {mon' : Monitor Op Res δ} (rel : γ → δ → Prop) {post : α → γ → Prop}
    {post' : α → δ → Prop} (hallowed : ∀ g g' op, rel g g' → mon.allowed g op → mon'.allowed g' op)
    (hmoves : ∀ g g' op r next', rel g g' → mon.allowed g op → mon'.moves g' op r next' →
      ∃ next, mon.moves g op r next ∧ rel next next')
    (hpost : ∀ value g g', rel g g' → post value g → post' value g') {p : Program Op Res α} {g : γ} {g' : δ}
    (hrel : rel g g') (hobeys : p.Obeys mon post g) : p.Obeys mon' post' g' := by
  induction p generalizing g g' with
  | ret value => exact hpost value g g' hrel hobeys
  | ask op next ih =>
    refine ⟨hallowed g g' op hrel hobeys.1, ?_⟩
    intro r next' hmove
    obtain ⟨after, hafter, hrel'⟩ := hmoves g g' op r next' hrel hobeys.1 hmove
    exact ih r hrel' (hobeys.2 r after hafter)

theorem obeys_bind {post : β → γ → Prop} (p : Program Op Res α) (f : α → Program Op Res β) (g : γ) :
    (p.bind f).Obeys mon post g ↔ p.Obeys mon (fun value g' => (f value).Obeys mon post g') g := by
  induction p generalizing g with
  | ret value => exact Iff.rfl
  | ask op next ih =>
    simp only [bind, Obeys, ih]

theorem obeys_of_allowed (hallowed : ∀ g op, mon.allowed g op) (p : Program Op Res α) (g : γ) :
    p.Obeys mon (fun _ _ => True) g := by
  induction p generalizing g with
  | ret value => trivial
  | ask op next ih => exact ⟨hallowed g op, fun r g' _ => ih r g'⟩

/-- A program whose operations are permitted wherever they preserve the property of the view. -/
theorem obeys_of_kept {inv : γ → Prop} (hallowed : ∀ g op, inv g → mon.allowed g op)
    (hmoves : ∀ g op r g', inv g → mon.moves g op r g' → inv g') (p : Program Op Res α) {g : γ} (hinv : inv g) :
    p.Obeys mon (fun _ g' => inv g') g := by
  induction p generalizing g with
  | ret value => exact hinv
  | ask op next ih => exact ⟨hallowed g op hinv, fun r g' hmove => ih r (hmoves g op r g' hinv hmove)⟩

/-- A program all of whose operations are permitted and leave the view alone. -/
theorem obeys_of_inert {g : γ} (hallowed : ∀ op, mon.allowed g op)
    (hmoves : ∀ op r g', mon.moves g op r g' → g' = g) (p : Program Op Res α) :
    p.Obeys mon (fun _ g' => g' = g) g := by
  apply @obeys_of_kept _ _ _ _ mon (· = g) _ _ p g rfl
  · rintro _ op rfl
    exact hallowed op
  · rintro _ op r g' rfl hmove
    exact hmoves op r g' hmove

/-- A program that obeys the monitor and leaves the view as it found it. -/
def Stays (mon : Monitor Op Res γ) (g : γ) (p : Program Op Res α) : Prop := p.Obeys mon (fun _ g' => g' = g) g

theorem stays_pure {g : γ} (value : α) : Stays mon g (Pure.pure value : Program Op Res α) := rfl

theorem stays_request {g : γ} {op : Op} (hallowed : mon.allowed g op)
    (hmoves : ∀ r g', mon.moves g op r g' → g' = g) : Stays mon g (request op : Program Op Res (Res op)) :=
  ⟨hallowed, hmoves⟩

theorem stays_bind {g : γ} {p : Program Op Res α} {f : α → Program Op Res β} (hp : Stays mon g p)
    (hf : ∀ value, Stays mon g (f value)) : Stays mon g (p >>= f) := by
  apply (obeys_bind p f g).mpr
  apply Obeys.mono _ hp
  rintro value _ rfl
  exact hf value

theorem Stays.obeys {g : γ} {p : Program Op Res α} (hstays : Stays mon g p) : p.Obeys mon (fun _ _ => True) g :=
  hstays.mono fun _ _ _ => trivial

theorem obeys_lift {Op' : Type} {Res' : Op' → Type} (inject : Op' → Op)
    (project : ∀ op, Res (inject op) → Res' op) {post : α → γ → Prop} (p : Program Op' Res' α) (g : γ) :
    (p.lift inject project).Obeys mon post g ↔ p.Obeys (mon.restrict inject project) post g := by
  induction p generalizing g with
  | ret value => exact Iff.rfl
  | ask op next ih =>
    simp only [lift, Obeys, ih, Monitor.restrict]
    refine and_congr_right fun _ => ⟨?_, ?_⟩
    · rintro h r g' ⟨r', rfl, hmoves⟩
      exact h r' g' hmoves
    · exact fun h r' g' hmoves => h _ g' ⟨r', rfl, hmoves⟩

end Program

/-- `Program.Obeys` for a method called in state `s`. -/
def Method.Obeys (mon : Monitor Op Res γ) (m : Method Op Res σ ε α) (s : σ) (g : γ)
    (post : Except ε α → σ → γ → Prop) : Prop :=
  (m s).Obeys mon (fun out g' => post out.1 out.2 g') g

namespace Method

variable {mon : Monitor Op Res γ} {s : σ} {g : γ}

theorem Obeys.mono {m : Method Op Res σ ε α} {post weaker : Except ε α → σ → γ → Prop}
    (hobeys : m.Obeys mon s g post) (himp : ∀ r s g, post r s g → weaker r s g) : m.Obeys mon s g weaker := by
  unfold Method.Obeys at hobeys ⊢
  exact hobeys.mono fun out g' hout => himp out.1 out.2 g' hout

@[simp]
theorem obeys_pure {post : Except ε α → σ → γ → Prop} (value : α) :
    (Pure.pure value : Method Op Res σ ε α).Obeys mon s g post ↔ post (.ok value) s g := Iff.rfl

@[simp]
theorem obeys_throw {post : Except ε α → σ → γ → Prop} (e : ε) :
    (throw e : Method Op Res σ ε α).Obeys mon s g post ↔ post (.error e) s g := Iff.rfl

@[simp]
theorem obeys_get {post : Except ε σ → σ → γ → Prop} :
    (get : Method Op Res σ ε σ).Obeys mon s g post ↔ post (.ok s) s g := Iff.rfl

@[simp]
theorem obeys_modify {post : Except ε PUnit → σ → γ → Prop} (f : σ → σ) :
    (modify f : Method Op Res σ ε PUnit).Obeys mon s g post ↔ post (.ok ()) (f s) g := Iff.rfl

@[simp]
theorem obeys_request {op : Op} {post : Except ε (Res op) → σ → γ → Prop} :
    (request op : Method Op Res σ ε (Res op)).Obeys mon s g post ↔
      mon.allowed g op ∧ ∀ r g', mon.moves g op r g' → post (.ok r) s g' := Iff.rfl

@[simp]
theorem obeys_ofExcept {post : Except ε α → σ → γ → Prop} (value : Except ε α) :
    (ofExcept value : Method Op Res σ ε α).Obeys mon s g post ↔ post value s g := Iff.rfl

theorem obeys_reject {post : Except ε Unit → σ → γ → Prop} (failed : Bool) (e : ε) :
    (reject failed e : Method Op Res σ ε Unit).Obeys mon s g post ↔
      (failed = true → post (.error e) s g) ∧ (failed = false → post (.ok ()) s g) := by
  cases failed with
  | true => simp [reject]
  | false => simp [reject]

theorem obeys_bind {m : Method Op Res σ ε α} {f : α → Method Op Res σ ε β} {post : Except ε β → σ → γ → Prop} :
    (m >>= f).Obeys mon s g post ↔ m.Obeys mon s g (fun r s' g' =>
      match r with
      | .ok value => (f value).Obeys mon s' g' post
      | .error e => post (.error e) s' g') := by
  show ((m s).bind _).Obeys mon _ g ↔ _
  rw [Program.obeys_bind]
  constructor
  · refine Program.Obeys.mono fun out g' hout => ?_
    obtain ⟨_ | value, s'⟩ := out
    · exact hout
    · exact hout
  · refine Program.Obeys.mono fun out g' hout => ?_
    obtain ⟨_ | value, s'⟩ := out
    · exact hout
    · exact hout

theorem obeys_bind_request {op : Op} {f : Res op → Method Op Res σ ε β} {post : Except ε β → σ → γ → Prop} :
    (request op >>= f).Obeys mon s g post ↔
      mon.allowed g op ∧ ∀ r g', mon.moves g op r g' → (f r).Obeys mon s g' post := Iff.rfl

/-- Sequential composition through an intermediate assertion. -/
theorem Obeys.bind {m : Method Op Res σ ε α} {f : α → Method Op Res σ ε β} {mid : Except ε α → σ → γ → Prop}
    {post : Except ε β → σ → γ → Prop} (hm : m.Obeys mon s g mid)
    (hok : ∀ value s' g', mid (.ok value) s' g' → (f value).Obeys mon s' g' post)
    (herror : ∀ e s' g', mid (.error e) s' g' → post (.error e) s' g') : (m >>= f).Obeys mon s g post := by
  rw [obeys_bind]
  refine hm.mono fun r s' g' hmid => ?_
  cases r with
  | error e => exact herror e s' g' hmid
  | ok value => exact hok value s' g' hmid

theorem obeys_attempt {m : Method Op Res σ ε α} {post : Except ε (Except ε α) → σ → γ → Prop} :
    m.attempt.Obeys mon s g post ↔ m.Obeys mon s g (fun r s' g' => post (.ok r) s' g') := by
  show ((m s).bind _).Obeys mon _ g ↔ _
  rw [Program.obeys_bind]
  exact Iff.rfl

theorem obeys_tryCatch {m : Method Op Res σ ε α} {handle : ε → Method Op Res σ ε α}
    {post : Except ε α → σ → γ → Prop} :
    (tryCatch m handle).Obeys mon s g post ↔ m.Obeys mon s g (fun r s' g' =>
      match r with
      | .ok value => post (.ok value) s' g'
      | .error e => (handle e).Obeys mon s' g' post) := by
  show ((m s).bind _).Obeys mon _ g ↔ _
  rw [Program.obeys_bind]
  constructor
  · refine Program.Obeys.mono fun out g' hout => ?_
    obtain ⟨_ | value, s'⟩ := out
    · exact hout
    · exact hout
  · refine Program.Obeys.mono fun out g' hout => ?_
    obtain ⟨_ | value, s'⟩ := out
    · exact hout
    · exact hout

theorem obeys_call {Op' : Type} {Res' : Op' → Type} {τ δ : Type} {inject : Op' → Op}
    {project : ∀ op, Res (inject op) → Res' op} {m : Method Op' Res' τ δ α} {t : τ}
    {post : Except ε (Except δ α × τ) → σ → γ → Prop} :
    (m.call inject project t).Obeys mon s g post ↔
      m.Obeys (mon.restrict inject project) t g fun r t' g' => post (.ok (r, t')) s g' := by
  show (((m t).lift inject project).bind _).Obeys mon _ g ↔ _
  rw [Program.obeys_bind, Program.obeys_lift]
  exact Iff.rfl

/-- A method that preserves `inv`, a relation between its state and the view,
    however it ends. -/
def Keeps (mon : Monitor Op Res γ) (inv : σ → γ → Prop) (m : Method Op Res σ ε α) : Prop :=
  ∀ s g, inv s g → m.Obeys mon s g fun _ s' g' => inv s' g'

section keeps

variable {inv : σ → γ → Prop}

theorem keeps_pure (value : α) : Keeps mon inv (Pure.pure value : Method Op Res σ ε α) :=
  fun _ _ hinv => hinv

theorem keeps_throw (e : ε) : Keeps mon inv (throw e : Method Op Res σ ε α) := fun _ _ hinv => hinv

theorem keeps_get : Keeps mon inv (get : Method Op Res σ ε σ) := fun _ _ hinv => hinv

theorem keeps_ofExcept (value : Except ε α) : Keeps mon inv (ofExcept value : Method Op Res σ ε α) :=
  fun _ _ hinv => hinv

theorem keeps_reject (failed : Bool) (e : ε) : Keeps mon inv (reject failed e : Method Op Res σ ε Unit) :=
  keeps_ofExcept _

theorem keeps_when {condition : Bool} {m : Method Op Res σ ε Unit} (hm : condition = true → Keeps mon inv m) :
    Keeps mon inv (m.when condition) := by
  cases condition with
  | true => exact hm rfl
  | false => exact keeps_pure ()

theorem keeps_modify {f : σ → σ} (hf : ∀ s g, inv s g → inv (f s) g) :
    Keeps mon inv (modify f : Method Op Res σ ε PUnit) := fun s g hinv => hf s g hinv

theorem keeps_request {op : Op}
    (hop : ∀ s g, inv s g → mon.allowed g op ∧ ∀ r g', mon.moves g op r g' → inv s g') :
    Keeps mon inv (request op : Method Op Res σ ε (Res op)) := fun s g hinv => hop s g hinv

theorem keeps_bind {m : Method Op Res σ ε α} {f : α → Method Op Res σ ε β} (hm : Keeps mon inv m)
    (hf : ∀ value, Keeps mon inv (f value)) : Keeps mon inv (m >>= f) := by
  intro s g hinv
  rw [obeys_bind]
  refine (hm s g hinv).mono fun r s' g' hinv' => ?_
  cases r with
  | error e => exact hinv'
  | ok value => exact hf value s' g' hinv'

/-- What follows a read of the state may rely on a state that meets the invariant. -/
theorem keeps_bind_get {f : σ → Method Op Res σ ε α} (hf : ∀ self, (∃ g, inv self g) → Keeps mon inv (f self)) :
    Keeps mon inv (get >>= f) := by
  intro s g hinv
  rw [obeys_bind, obeys_get]
  exact hf s ⟨g, hinv⟩ s g hinv

theorem keeps_bind_ofExcept {value : Except ε α} {f : α → Method Op Res σ ε β}
    (hf : ∀ v, value = .ok v → Keeps mon inv (f v)) : Keeps mon inv (ofExcept value >>= f) := by
  intro s g hinv
  rw [obeys_bind, obeys_ofExcept]
  cases value with
  | error e => exact hinv
  | ok v => exact hf v rfl s g hinv

theorem keeps_attempt {m : Method Op Res σ ε α} (hm : Keeps mon inv m) : Keeps mon inv m.attempt := by
  intro s g hinv
  rw [obeys_attempt]
  exact hm s g hinv

theorem keeps_tryCatch {m : Method Op Res σ ε α} {handle : ε → Method Op Res σ ε α} (hm : Keeps mon inv m)
    (hhandle : ∀ e, Keeps mon inv (handle e)) : Keeps mon inv (tryCatch m handle) := by
  intro s g hinv
  rw [obeys_tryCatch]
  refine (hm s g hinv).mono fun r s' g' hinv' => ?_
  cases r with
  | error e => exact hhandle e s' g' hinv'
  | ok value => exact hinv'

/-- Sequential composition after a method that leaves the state as it is. -/
theorem Keeps.obeys_bind {start : σ} {m : Method Op Res σ ε α} {f : α → Method Op Res σ ε β}
    {post : Except ε β → σ → γ → Prop} (hm : Keeps mon (fun s _ => s = start) m)
    (hok : ∀ value g', (f value).Obeys mon start g' post) (herror : ∀ e g', post (.error e) start g') :
    (m >>= f).Obeys mon start g post := by
  refine (hm start g rfl).bind ?_ ?_
  · rintro value s' g' rfl
    exact hok value g'
  · rintro e s' g' rfl
    exact herror e g'

end keeps

theorem mapError_eq_ok {δ : Type} {f : ε → δ} {value : Except ε α} {v : α} :
    value.mapError f = .ok v ↔ value = .ok v := by
  cases value with
  | error e => simp [Except.mapError]
  | ok w => simp [Except.mapError]

/-- A method that keeps `inv` of its state however it ends, and returns only values
    that satisfy `post`. -/
def Ensures (mon : Monitor Op Res γ) (inv : σ → Prop) (post : α → Prop) (m : Method Op Res σ ε α) : Prop :=
  ∀ s g, inv s → m.Obeys mon s g fun r s' _ => inv s' ∧ ∀ value, r = .ok value → post value

section ensures

variable {inv : σ → Prop} {post mid : α → Prop}

theorem Ensures.mono {m : Method Op Res σ ε α} (hm : Ensures mon inv mid m) (himp : ∀ value, mid value → post value) :
    Ensures mon inv post m :=
  fun s g hinv => (hm s g hinv).mono fun _ _ _ h => ⟨h.1, fun value hvalue => himp value (h.2 value hvalue)⟩

theorem Ensures.keeps {m : Method Op Res σ ε α} (hm : Ensures mon inv post m) : Keeps mon (fun s _ => inv s) m :=
  fun s g hinv => (hm s g hinv).mono fun _ _ _ h => h.1

theorem Keeps.ensures {m : Method Op Res σ ε α} (hm : Keeps mon (fun s _ => inv s) m) :
    Ensures mon inv (fun _ => True) m :=
  fun s g hinv => (hm s g hinv).mono fun _ _ _ h => ⟨h, fun _ _ => trivial⟩

theorem ensures_ofExcept {value : Except ε α} (hvalue : ∀ v, value = .ok v → post v) :
    Ensures mon inv post (ofExcept value : Method Op Res σ ε α) := fun _ _ hinv => ⟨hinv, hvalue⟩

theorem ensures_pure {value : α} (hvalue : post value) :
    Ensures mon inv post (Pure.pure value : Method Op Res σ ε α) :=
  ensures_ofExcept fun _ heq => Except.ok.inj heq ▸ hvalue

theorem ensures_throw (e : ε) : Ensures mon inv post (throw e : Method Op Res σ ε α) :=
  ensures_ofExcept fun _ heq => nomatch heq

theorem ensures_get : Ensures mon inv inv (get : Method Op Res σ ε σ) :=
  fun _ _ hinv => ⟨hinv, fun _ heq => Except.ok.inj heq ▸ hinv⟩

theorem ensures_modify {f : σ → σ} (hf : ∀ s, inv s → inv (f s)) :
    Ensures mon inv (fun _ => True) (modify f : Method Op Res σ ε PUnit) :=
  fun s _ hinv => ⟨hf s hinv, fun _ _ => trivial⟩

theorem ensures_request {op : Op} {post : Res op → Prop} (hallowed : ∀ g, mon.allowed g op)
    (hmoves : ∀ g r g', mon.moves g op r g' → post r) :
    Ensures mon inv post (request op : Method Op Res σ ε (Res op)) :=
  fun _ g hinv => ⟨hallowed g, fun r g' hmove =>
    ⟨hinv, fun _ heq => Except.ok.inj heq ▸ hmoves g r g' hmove⟩⟩

theorem ensures_bind {post : β → Prop} {m : Method Op Res σ ε α} {f : α → Method Op Res σ ε β}
    (hm : Ensures mon inv mid m) (hf : ∀ value, mid value → Ensures mon inv post (f value)) :
    Ensures mon inv post (m >>= f) := by
  intro s g hinv
  refine (hm s g hinv).bind ?_ ?_
  · intro value s' g' hmid
    exact hf value (hmid.2 value rfl) s' g' hmid.1
  · intro e s' g' hmid
    exact ⟨hmid.1, fun _ heq => nomatch heq⟩

/-- After an early return, the rest may rely on the value that was there. -/
theorem ensures_bind_ofExcept {post : β → Prop} {value : Except ε α} {f : α → Method Op Res σ ε β}
    (hf : ∀ v, value = .ok v → Ensures mon inv post (f v)) : Ensures mon inv post (ofExcept value >>= f) :=
  ensures_bind (ensures_ofExcept fun _ heq => heq) hf

theorem ensures_bind_reject {post : β → Prop} {failed : Bool} {e : ε} {f : Unit → Method Op Res σ ε β}
    (hf : failed = false → Ensures mon inv post (f ())) : Ensures mon inv post (reject failed e >>= f) := by
  refine ensures_bind_ofExcept fun _ heq => hf ?_
  cases failed with
  | true => simp at heq
  | false => rfl

theorem ensures_when {condition : Bool} {m : Method Op Res σ ε Unit}
    (hm : condition = true → Ensures mon inv (fun _ => True) m) :
    Ensures mon inv (fun _ => True) (m.when condition) := by
  cases condition with
  | true => exact hm rfl
  | false => exact ensures_pure trivial

theorem ensures_attempt {m : Method Op Res σ ε α} (hm : Ensures mon inv post m) :
    Ensures mon inv (fun r => ∀ value, r = .ok value → post value) m.attempt := by
  intro s g hinv
  rw [obeys_attempt]
  exact (hm s g hinv).mono fun r _ _ h => ⟨h.1, fun _ heq => Except.ok.inj heq ▸ h.2⟩

theorem ensures_call {Op' : Type} {Res' : Op' → Type} {τ δ : Type} {inject : Op' → Op}
    {project : ∀ op, Res (inject op) → Res' op} {m : Method Op' Res' τ δ α} {t : τ} {inv' : τ → Prop}
    (hm : Ensures (mon.restrict inject project) inv' post m) (ht : inv' t) :
    Ensures mon inv (fun out => inv' out.2 ∧ ∀ value, out.1 = .ok value → post value)
      (m.call inject project t : Method Op Res σ ε (Except δ α × τ)) := by
  intro s g hinv
  rw [obeys_call]
  exact (hm t g ht).mono fun r t' _ h => ⟨hinv, fun _ heq => Except.ok.inj heq ▸ h⟩

end ensures

/-- A method that keeps to the monitor and, whenever it succeeds, leaves a value, a state
    and a view that satisfy `post`. -/
def Yields (mon : Monitor Op Res γ) (m : Method Op Res σ ε α) (s : σ) (g : γ) (post : α → σ → γ → Prop) : Prop :=
  m.Obeys mon s g fun r s' g' => ∀ value, r = .ok value → post value s' g'

section yields

variable {post : β → σ → γ → Prop}

theorem yields_pure {post : α → σ → γ → Prop} {value : α} (hvalue : post value s g) :
    Yields mon (Pure.pure value : Method Op Res σ ε α) s g post :=
  fun _ heq => Except.ok.inj heq ▸ hvalue

/-- `Program.obeys_of_allowed` for a method. -/
theorem yields_of_allowed (hallowed : ∀ g op, mon.allowed g op) (m : Method Op Res σ ε α) :
    Yields mon m s g fun _ _ _ => True :=
  (Program.obeys_of_allowed hallowed (m s) g).mono fun _ _ _ _ _ => trivial

theorem yields_request {op : Op} {post : Res op → σ → γ → Prop} (hallowed : mon.allowed g op)
    (hpost : ∀ r g', mon.moves g op r g' → post r s g') :
    Yields mon (request op : Method Op Res σ ε (Res op)) s g post :=
  ⟨hallowed, fun r g' hmove _ heq => Except.ok.inj heq ▸ hpost r g' hmove⟩

theorem yields_bind {mid : α → σ → γ → Prop} {m : Method Op Res σ ε α} {f : α → Method Op Res σ ε β}
    (hm : Yields mon m s g mid) (hf : ∀ value s' g', mid value s' g' → Yields mon (f value) s' g' post) :
    Yields mon (m >>= f) s g post := by
  refine Obeys.bind hm ?_ ?_
  · intro value s' g' hmid
    exact hf value s' g' (hmid value rfl)
  · intro e s' g' _ value heq
    exact nomatch heq

theorem yields_attempt {post : α → σ → γ → Prop} {m : Method Op Res σ ε α} (hm : Yields mon m s g post) :
    Yields mon m.attempt s g fun r s' g' => ∀ value, r = .ok value → post value s' g' := by
  unfold Yields
  rw [obeys_attempt]
  refine Obeys.mono hm fun r s' g' hpost outcome heq => ?_
  exact Except.ok.inj heq ▸ hpost

theorem yields_call {Op' : Type} {Res' : Op' → Type} {τ δ : Type} {inject : Op' → Op}
    {project : ∀ op, Res (inject op) → Res' op} {m : Method Op' Res' τ δ α} {t : τ}
    {post : Except δ α × τ → σ → γ → Prop}
    (hm : m.Obeys (mon.restrict inject project) t g fun r t' g' => post (r, t') s g') :
    Yields mon (m.call inject project t : Method Op Res σ ε (Except δ α × τ)) s g post := by
  unfold Yields
  rw [obeys_call]
  exact hm.mono fun r t' g' hpost _ heq => Except.ok.inj heq ▸ hpost

theorem yields_bind_request {op : Op} {f : Res op → Method Op Res σ ε β} (hallowed : mon.allowed g op)
    (hf : ∀ r g', mon.moves g op r g' → Yields mon (f r) s g' post) : Yields mon (request op >>= f) s g post := by
  unfold Yields
  rw [obeys_bind, obeys_request]
  exact ⟨hallowed, hf⟩

theorem yields_bind_ofExcept {value : Except ε α} {f : α → Method Op Res σ ε β}
    (hf : ∀ v, value = .ok v → Yields mon (f v) s g post) : Yields mon (ofExcept value >>= f) s g post := by
  unfold Yields
  rw [obeys_bind, obeys_ofExcept]
  cases value with
  | error e => exact fun _ heq => nomatch heq
  | ok v => exact hf v rfl

theorem yields_bind_reject {failed : Bool} {e : ε} {f : Unit → Method Op Res σ ε β}
    (hf : failed = false → Yields mon (f ()) s g post) : Yields mon (reject failed e >>= f) s g post := by
  refine yields_bind_ofExcept fun _ heq => hf ?_
  cases failed with
  | true => simp at heq
  | false => rfl

end yields

end Method

end interaction
