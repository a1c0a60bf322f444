import Mathlib.Algebra.Order.Ring.Rat
import WebexHandler.Json

namespace json

/-- A JSON document as a program holds it, with values for its numbers. Integers and
    doubles are rational numbers here, and negative zero is zero. -/
inductive Datum
  | null
  | bool (b : Bool)
  | number (n : ℚ)
  | string (s : String)
  | array (items : List Datum)
  | object (members : List (String × Datum))

section documents

variable (number : String → ℚ) (test : String → Bool)

mutual

/-- A document with its literals read. -/
def Value.read : Value → Datum
  | .null => .null
  | .bool b => .bool b
  | .number literal => .number (number literal)
  | .string s => .string s
  | .array items => .array (read_items items)
  | .object members => .object (read_members members)

def read_items : List Value → List Datum
  | [] => []
  | item :: rest => item.read :: read_items rest

def read_members : List (String × Value) → List (String × Datum)
  | [] => []
  | (name, value) :: rest => (name, value.read) :: read_members rest

end

mutual

/-- All literals of a document pass a test. -/
def Value.all_numbers : Value → Bool
  | .number literal => test literal
  | .array items => all_numbers_of_items items
  | .object members => all_numbers_of_members members
  | _ => true

def all_numbers_of_items : List Value → Bool
  | [] => true
  | item :: rest => item.all_numbers && all_numbers_of_items rest

def all_numbers_of_members : List (String × Value) → Bool
  | [] => true
  | (_, value) :: rest => value.all_numbers && all_numbers_of_members rest

end

end documents

/-- A document is read as the same one exactly if each of its literals is read as the same
    number. -/
theorem read_eq_read_iff (f g : String → ℚ) (value : Value) :
    value.read f = value.read g ↔ value.all_numbers (fun literal => f literal = g literal) = true := by
  refine @Value.rec
    (fun value => value.read f = value.read g ↔ value.all_numbers (fun literal => f literal = g literal) = true)
    (fun items => read_items f items = read_items g items ↔
      all_numbers_of_items (fun literal => f literal = g literal) items = true)
    (fun members => read_members f members = read_members g members ↔
      all_numbers_of_members (fun literal => f literal = g literal) members = true)
    (fun member => member.2.read f = member.2.read g ↔
      member.2.all_numbers (fun literal => f literal = g literal) = true)
    ?_ ?_ ?_ ?_ ?_ ?_ ?_ ?_ ?_ ?_ ?_ value
  · exact iff_of_true rfl rfl
  · exact fun _ => iff_of_true rfl rfl
  · intro literal
    simp [Value.read, Value.all_numbers]
  · exact fun _ => iff_of_true rfl rfl
  · intro items ih
    simp [Value.read, Value.all_numbers, ih]
  · intro members ih
    simp [Value.read, Value.all_numbers, ih]
  · exact iff_of_true rfl rfl
  · intro item rest ih_item ih_rest
    simp [read_items, all_numbers_of_items, ih_item, ih_rest]
  · exact iff_of_true rfl rfl
  · intro member rest ih_member ih_rest
    simp [read_members, all_numbers_of_members, ih_member, ih_rest]
  · exact fun _ _ ih => ih

/-- The same document but for its numbers. -/
def Value.Alike (left right : Value) : Prop := left.read (fun _ => 0) = right.read (fun _ => 0)

section alike

variable {left right : Value}

theorem Value.Alike.as_str (halike : left.Alike right) : left.as_str = right.as_str := by
  cases left with
  | string s =>
    cases right with
    | string _ => exact congrArg some (Datum.string.inj halike)
    | _ => cases halike
  | _ =>
    cases right with
    | string _ => cases halike
    | _ => rfl

theorem Value.Alike.is_object (halike : left.Alike right) : left.is_object = right.is_object := by
  cases left with
  | object _ =>
    cases right with
    | object _ => rfl
    | _ => cases halike
  | _ =>
    cases right with
    | object _ => cases halike
    | _ => rfl

theorem find?_alike {members members' : List (String × Value)}
    (halike : read_members (fun _ => 0) members = read_members (fun _ => 0) members') (key : String) :
    Option.Rel Value.Alike ((members.find? (·.1 == key)).map Prod.snd) ((members'.find? (·.1 == key)).map Prod.snd) := by
  induction members generalizing members' with
  | nil =>
    cases members' with
    | nil => exact .none
    | cons _ _ => cases halike
  | cons member rest ih =>
    cases members' with
    | nil => cases halike
    | cons member' rest' =>
      obtain ⟨hmember, hrest⟩ := List.cons.inj halike
      obtain ⟨hname, hvalue⟩ := Prod.mk.inj hmember
      rw [List.find?_cons, List.find?_cons, hname]
      cases member'.1 == key with
      | true => exact .some hvalue
      | false => exact ih hrest

theorem Value.Alike.get (halike : left.Alike right) (key : String) : Option.Rel Value.Alike (left.get key) (right.get key) := by
  cases left with
  | object members =>
    cases right with
    | object members' => exact find?_alike (Datum.object.inj halike) key
    | _ => cases halike
  | _ =>
    cases right with
    | object _ => cases halike
    | _ => exact .none

end alike

/-- The double that is nearest to an integer, and of two the even one. -/
def nearest_double (n : Int) : Int :=
  let quantum := 2 ^ (n.natAbs.log2 - 52)
  let units := n.natAbs / quantum
  let rest := n.natAbs % quantum
  let rounded := if quantum < 2 * rest ∨ (2 * rest = quantum ∧ units % 2 = 1) then units + 1 else units
  n.sign * (rounded * quantum : Nat)

/-- An integer that is a double. -/
def is_double (n : Int) : Bool := 2 ^ (n.natAbs.log2 - 52) ∣ n.natAbs

theorem sign_mul_eq_iff {n : Int} (hn : n ≠ 0) (m : Nat) : n.sign * (m : Int) = n ↔ m = n.natAbs := by
  obtain hneg | hpos := lt_or_gt_of_ne hn
  · rw [Int.sign_eq_neg_one_of_neg hneg]
    omega
  · rw [Int.sign_eq_one_of_pos hpos]
    omega

/-- Rounding moves whatever is not a multiple of the quantum. -/
theorem nearest_double_eq_iff (n : Int) : nearest_double n = n ↔ is_double n = true := by
  by_cases hn : n = 0
  · subst hn
    exact iff_of_true rfl rfl
  have hquantum : 0 < 2 ^ (n.natAbs.log2 - 52) := Nat.two_pow_pos _
  have hsplit := Nat.div_add_mod n.natAbs (2 ^ (n.natAbs.log2 - 52))
  have hrest := Nat.mod_lt n.natAbs hquantum
  rw [nearest_double, is_double, sign_mul_eq_iff hn, decide_eq_true_eq, Nat.dvd_iff_mod_eq_zero]
  generalize 2 ^ (n.natAbs.log2 - 52) = quantum at *
  generalize n.natAbs / quantum = units at *
  generalize n.natAbs % quantum = rest at *
  rw [← hsplit, Nat.mul_comm quantum units]
  split
  · rename_i hup
    rw [Nat.succ_mul]
    omega
  · omega

example : is_double 9007199254740993 = false := by decide

/-- An integer that fits an `i64` or a `u64`. -/
def is_kept (n : Int) : Bool := -2 ^ 63 ≤ n ∧ n < 2 ^ 64

/-- How the two JSON libraries read the literal of a number. -/
structure Numbers where
  /-- The `f64` that serde_json makes of a literal that it does not keep as an integer. -/
  f64 : String → ℚ
  /-- The `float64` of encoding/json. -/
  float64 : String → ℚ
  rounds : ∀ literal n, literal.toInt? = some n → is_kept n = true → float64 literal = nearest_double n

namespace Numbers

variable (numbers : Numbers)

/-- A `serde_json::Number`, which is an integer where it can be. -/
def serde_json (literal : String) : ℚ :=
  match literal.toInt? with
  | some n => if is_kept n then n else numbers.f64 literal
  | none => numbers.f64 literal

/-- Both libraries read the same number. -/
def alike (literal : String) : Bool :=
  match literal.toInt? with
  | some n => if is_kept n then is_double n else numbers.f64 literal = numbers.float64 literal
  | none => numbers.f64 literal = numbers.float64 literal

theorem alike_iff (literal : String) : numbers.alike literal = true ↔ numbers.serde_json literal = numbers.float64 literal := by
  unfold alike serde_json
  cases hliteral : literal.toInt? with
  | none => simp
  | some n =>
    dsimp only
    split
    · rename_i hkept
      rw [numbers.rounds literal n hliteral hkept, ← nearest_double_eq_iff]
      constructor
      · intro hdouble
        rw [hdouble]
      · intro heq
        exact (Rat.intCast_inj.mp heq).symm
    · simp

theorem read_alike (value : Value) :
    value.read numbers.serde_json = value.read numbers.float64 ↔ value.all_numbers numbers.alike = true := by
  have halike : numbers.alike = fun literal => decide (numbers.serde_json literal = numbers.float64 literal) := by
    funext literal
    rw [Bool.eq_iff_iff, alike_iff, decide_eq_true_eq]
  rw [halike]
  exact read_eq_read_iff _ _ value

end Numbers

end json
