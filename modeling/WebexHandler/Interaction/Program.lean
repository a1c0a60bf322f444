import Mathlib.Logic.Basic

namespace interaction

/-- A sequential program that asks its environment for the result of one
    operation at a time. -/
inductive Program (Op : Type) (Res : Op → Type) (α : Type) : Type
  | ret (value : α) : Program Op Res α
  | ask (op : Op) (next : Res op → Program Op Res α) : Program Op Res α

namespace Program

variable {Op : Type} {Res : Op → Type} {α β : Type}

def bind : Program Op Res α → (α → Program Op Res β) → Program Op Res β
  | .ret value, f => f value
  | .ask op next, f => .ask op fun r => (next r).bind f

instance : Monad (Program Op Res) where
  pure := .ret
  bind := bind

theorem bind_assoc {δ : Type} (p : Program Op Res α) (f : α → Program Op Res β) (k : β → Program Op Res δ) :
    (p.bind f).bind k = p.bind fun value => (f value).bind k := by
  induction p with
  | ret value => rfl
  | ask op next ih =>
    simp only [bind, ih]

def request (op : Op) : Program Op Res (Res op) := .ask op .ret

/-- The operation a program asks for next. -/
def head : Program Op Res α → Option Op
  | .ret _ => none
  | .ask op _ => some op

/-- The same program over a larger set of operations. -/
def lift {Op' : Type} {Res' : Op' → Type} (inject : Op → Op') (project : ∀ op, Res' (inject op) → Res op) :
    Program Op Res α → Program Op' Res' α
  | .ret value => .ret value
  | .ask op next => .ask (inject op) fun r => (next (project op r)).lift inject project

end Program

/-- A program with state of its own that may fail. The state survives a failure. -/
def Method (Op : Type) (Res : Op → Type) (σ ε α : Type) : Type := σ → Program Op Res (Except ε α × σ)

namespace Method

variable {Op : Type} {Res : Op → Type} {σ ε α β : Type}

def pure (value : α) : Method Op Res σ ε α := fun s => .ret (.ok value, s)

def bind (m : Method Op Res σ ε α) (f : α → Method Op Res σ ε β) : Method Op Res σ ε β := fun s =>
  (m s).bind fun
    | (.ok value, s') => f value s'
    | (.error e, s') => .ret (.error e, s')

instance : Monad (Method Op Res σ ε) where
  pure := pure
  bind := bind

theorem bind_assoc {δ : Type} (m : Method Op Res σ ε α) (f : α → Method Op Res σ ε β)
    (k : β → Method Op Res σ ε δ) : m >>= f >>= k = m >>= fun value => f value >>= k := by
  funext s
  show ((m s).bind _).bind _ = (m s).bind _
  rw [Program.bind_assoc]
  congr 1
  funext out
  obtain ⟨_ | value, s'⟩ := out
  · rfl
  · rfl

instance : MonadStateOf σ (Method Op Res σ ε) where
  get := fun s => .ret (.ok s, s)
  set s' := fun _ => .ret (.ok (), s')
  modifyGet f := fun s => .ret (.ok (f s).1, (f s).2)

instance : MonadExceptOf ε (Method Op Res σ ε) where
  throw e := fun s => .ret (.error e, s)
  tryCatch m handle := fun s => (m s).bind fun
    | (.ok value, s') => .ret (.ok value, s')
    | (.error e, s') => handle e s'

theorem get_bind (f : σ → Method Op Res σ ε α) (s : σ) : (get >>= f : Method Op Res σ ε α) s = f s s := rfl

def request (op : Op) : Method Op Res σ ε (Res op) := fun s => .ask op fun r => .ret (.ok r, s)

/-- A value that may be an error, returned early as `?` does. -/
def ofExcept (value : Except ε α) : Method Op Res σ ε α := fun s => .ret (value, s)

/-- An early return with an error. -/
def reject (failed : Bool) (e : ε) : Method Op Res σ ε Unit :=
  ofExcept (if failed then .error e else .ok ())

/-- A call made under a condition only. -/
def when (condition : Bool) (m : Method Op Res σ ε Unit) : Method Op Res σ ε Unit :=
  if condition then m else pure ()

/-- The outcome of a call as a value, where the caller matches on it. -/
def attempt (m : Method Op Res σ ε α) : Method Op Res σ ε (Except ε α) := fun s =>
  (m s).bind fun (outcome, s') => .ret (.ok outcome, s')

/-- A method of another component, over a part of the operations, called on a state
    the caller holds. The caller gets the outcome and the state back. -/
def call {Op' : Type} {Res' : Op' → Type} {τ δ : Type} (inject : Op' → Op)
    (project : ∀ op, Res (inject op) → Res' op) (m : Method Op' Res' τ δ α) (t : τ) :
    Method Op Res σ ε (Except δ α × τ) :=
  fun s => ((m t).lift inject project).bind fun out => .ret (.ok out, s)

end Method

end interaction
