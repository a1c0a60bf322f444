import Mathlib.Data.Option.Basic
import WebexHandler.Json

open json

namespace serde

/-- What a type's `Deserialize` makes of a JSON value, and nothing where it fails. -/
abbrev Deserialize (α : Type) : Type := Value → Option α

variable {α β : Type}

def string : Deserialize String := Value.as_str

def value : Deserialize Value := some

def option (de : Deserialize α) : Deserialize (Option α)
  | .null => some none
  | found => (de found).map some

def vec (de : Deserialize α) : Deserialize (List α)
  | .array items => items.mapM de
  | _ => none

/-- A struct is read from an object, or from an array that has no more elements than
    the struct has fields on the wire. -/
def is_struct (arity : Nat) : Value → Bool
  | .object _ => true
  | .array items => items.length ≤ arity
  | _ => false

/-- Where the field of a struct is found: under its name, or at its place. -/
def locate (place : Nat) (name : String) : Value → Option Value
  | .array items => items[place]?
  | found => found.get name

/-- A field with `#[serde(default)]`, read from where it is found. -/
def read_or (default : α) (de : Deserialize α) : Option Value → Option α
  | none => some default
  | some value => de value

def field (place : Nat) (name : String) (default : α) (de : Deserialize α) (found : Value) : Option α :=
  read_or default de (locate place name found)

/-- A reading that succeeds with a value in a relation to another one. -/
def Reads (outcome : Option α) (rel : α → β → Prop) (expected : β) : Prop :=
  ∃ value, outcome = some value ∧ rel value expected

variable {rel : α → β → Prop} {expected : β}

@[simp]
theorem reads_none : ¬Reads none rel expected := by
  rintro ⟨_, houtcome, _⟩
  exact absurd houtcome nofun

@[simp]
theorem reads_some {value : α} : Reads (some value) rel expected ↔ rel value expected := by
  constructor
  · rintro ⟨_, houtcome, hrel⟩
    cases houtcome
    exact hrel
  · intro hrel
    exact ⟨value, rfl, hrel⟩

theorem reads_map {γ : Type} {outcome : Option γ} {f : γ → α} :
    Reads (outcome.map f) rel expected ↔ Reads outcome (fun value => rel (f value)) expected := by
  cases outcome with
  | none => simp
  | some value => simp

theorem reads_map_some {outcome : Option α} :
    Reads (outcome.map some) (Option.Rel rel) (some expected) ↔ Reads outcome rel expected := by
  cases outcome with
  | none => simp
  | some value => simp

theorem not_reads_map_some {outcome : Option α} : ¬Reads (outcome.map some) (Option.Rel rel) none := by
  cases outcome with
  | none => simp
  | some value => simp

/-- Any value but null is read as one that is there. -/
theorem read_option {de : Deserialize α} {value : Value} (hnull : value ≠ .null) :
    read_or none (option de) (some value) = (de value).map some := by
  cases value with
  | null => exact absurd rfl hnull
  | _ => rfl

theorem reads_bind {γ : Type} {outcome : Option γ} {f : γ → Option α} :
    Reads (outcome >>= f) rel expected ↔ ∃ value, outcome = some value ∧ Reads (f value) rel expected := by
  cases outcome with
  | none => simp
  | some value => simp

/-- A struct is read from a value that has the shape of one. -/
theorem reads_struct {arity : Nat} {found : Value} {fields : Option α} :
    Reads (do guard (is_struct arity found); fields) rel expected ↔
      is_struct arity found = true ∧ Reads fields rel expected := by
  cases is_struct arity found with
  | false =>
    simp only [Bool.false_eq_true, false_and, iff_false]
    exact reads_none
  | true => simp

theorem mapM_as_str_eq_some {items : List Value} {texts : List String} :
    items.mapM Value.as_str = some texts ↔ items = texts.map Value.string := by
  induction items generalizing texts with
  | nil =>
    cases texts with
    | nil => simp
    | cons _ _ => simp
  | cons item rest ih =>
    have hitem (s : String) : item.as_str = some s ↔ item = .string s := by
      cases item with
      | string t => simp [Value.as_str]
      | _ => simp [Value.as_str]
    simp only [List.mapM_cons, Option.bind_eq_bind, Option.bind_eq_some_iff, Option.pure_def, Option.some.injEq, ih, hitem]
    constructor
    · rintro ⟨s, rfl, more, rfl, rfl⟩
      rfl
    · intro hitems
      cases texts with
      | nil => exact absurd hitems nofun
      | cons s more =>
        simp only [List.map_cons, List.cons.injEq] at hitems
        exact ⟨s, hitems.1, more, hitems.2, rfl⟩

end serde
