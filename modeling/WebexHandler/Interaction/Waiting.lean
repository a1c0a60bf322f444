import Mathlib.Logic.Relation

namespace interaction

/-- Whoever waits only for others of a greater rank waits, at the end, for someone
    who does not wait. -/
theorem exists_not_waiting {α : Type} {waits_for : α → α → Prop} (rank : α → Nat) (bound : Nat)
    (hrank : ∀ a b, waits_for a b → rank a < rank b) (hbound : ∀ a, rank a ≤ bound) (a : α) :
    ∃ b, Relation.ReflTransGen waits_for a b ∧ ∀ c, ¬ waits_for b c := by
  induction hleft : bound - rank a using Nat.strongRecOn generalizing a with
  | ind left ih =>
    by_cases hwaits : ∃ b, waits_for a b
    · obtain ⟨b, hb⟩ := hwaits
      have hlt := hrank a b hb
      have hle := hbound b
      obtain ⟨c, hc, hfree⟩ := ih (bound - rank b) (by omega) b rfl
      exact ⟨c, .head hb hc, hfree⟩
    · exact ⟨a, .refl, fun b hb => hwaits ⟨b, hb⟩⟩

end interaction
