import Mathlib.Algebra.GroupWithZero.Nat
import Mathlib.Data.List.Basic

namespace key_derivation

section counter_mode

variable {α : Type}

/-- The blocks of the counters from 1 to `n`, one after the other. -/
def blocks (block : Nat → List α) (n : Nat) : List α := (List.range n).flatMap fun i => block (i + 1)

theorem blocks_succ (block : Nat → List α) (n : Nat) : blocks block (n + 1) = blocks block n ++ block (n + 1) := by
  simp [blocks, List.range_succ]

variable {block : Nat → List α} {size : Nat}

theorem length_blocks (hsize : ∀ counter, (block counter).length = size) (n : Nat) :
    (blocks block n).length = n * size := by
  induction n with
  | zero => simp [blocks]
  | succ n ih => rw [blocks_succ, List.length_append, ih, hsize, Nat.add_mul, Nat.one_mul]

/-- The leading symbols do not depend on how many blocks there are, if there are enough. -/
theorem take_blocks (hsize : ∀ counter, (block counter).length = size) {len n m : Nat} (henough : len ≤ n * size)
    (hle : n ≤ m) : (blocks block m).take len = (blocks block n).take len := by
  obtain ⟨more, rfl⟩ := Nat.exists_eq_add_of_le hle
  clear hle
  induction more with
  | zero => rfl
  | succ more ih =>
    have hlength := length_blocks hsize (n + more)
    have hmore : n * size ≤ (n + more) * size := Nat.mul_le_mul_right size (Nat.le_add_right n more)
    rw [← Nat.add_assoc, blocks_succ, List.take_append_of_le_length (by omega), ih]

end counter_mode

section length_prefixed

variable {α : Type}

/-- A code of fixed width for the lengths below a bound. -/
structure LengthCode (α : Type) where
  encode : Nat → List α
  width : Nat
  bound : Nat
  length_encode : ∀ n, (encode n).length = width
  encode_inj : ∀ {m n}, m < bound → n < bound → encode m = encode n → m = n

variable (code : LengthCode α)

/-- Some data after its length. -/
def LengthCode.counted (data : List α) : List α := code.encode data.length ++ data

/-- Fields one after the other, each with its length. -/
def LengthCode.fields (fields : List (List α)) : List α := fields.flatMap code.counted

variable {code}

theorem LengthCode.encode_append_inj {m n : Nat} {rest rest' : List α} (hm : m < code.bound) (hn : n < code.bound)
    (hsame : code.encode m ++ rest = code.encode n ++ rest') : m = n ∧ rest = rest' := by
  have hwidth : (code.encode m).length = (code.encode n).length := by rw [code.length_encode, code.length_encode]
  obtain ⟨hencoded, hrest⟩ := List.append_inj hsame hwidth
  exact ⟨code.encode_inj hm hn hencoded, hrest⟩

/-- The length in front tells where the data ends. -/
theorem LengthCode.counted_append_inj {data data' rest rest' : List α} (hdata : data.length < code.bound)
    (hdata' : data'.length < code.bound) (hsame : code.counted data ++ rest = code.counted data' ++ rest') :
    data = data' ∧ rest = rest' := by
  simp only [counted, List.append_assoc] at hsame
  obtain ⟨hlength, hsame⟩ := encode_append_inj hdata hdata' hsame
  exact List.append_inj hsame hlength

theorem LengthCode.fields_append_inj {fields fields' : List (List α)} {rest rest' : List α}
    (hcount : fields.length = fields'.length) (hfields : ∀ data ∈ fields, data.length < code.bound)
    (hfields' : ∀ data ∈ fields', data.length < code.bound)
    (hsame : code.fields fields ++ rest = code.fields fields' ++ rest') : fields = fields' ∧ rest = rest' := by
  induction fields generalizing fields' with
  | nil =>
    obtain rfl := List.length_eq_zero_iff.mp hcount.symm
    exact ⟨rfl, hsame⟩
  | cons data fields ih =>
    obtain ⟨data', fields', rfl⟩ := List.exists_cons_of_length_eq_add_one hcount.symm
    simp only [LengthCode.fields, List.flatMap_cons, List.append_assoc] at hsame
    simp only [List.mem_cons, forall_eq_or_imp] at hfields hfields'
    obtain ⟨rfl, htail⟩ := counted_append_inj hfields.1 hfields'.1 hsame
    simp only [List.length_cons, Nat.add_right_cancel_iff] at hcount
    obtain ⟨rfl, hrest⟩ := ih hcount hfields.2 hfields'.2 htail
    exact ⟨rfl, hrest⟩

end length_prefixed

end key_derivation
