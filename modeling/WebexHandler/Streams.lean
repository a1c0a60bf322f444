import Mathlib.Data.List.Basic

namespace streams

variable {β : Type}

/-- Streams that are the same after each piece have the same pieces. -/
theorem eq_of_flatten_take {xs ys : List (List β)} (hlength : xs.length = ys.length)
    (hsame : ∀ count, (xs.take count).flatten = (ys.take count).flatten) : xs = ys := by
  apply List.ext_getElem hlength
  intro i hx hy
  have hnext := hsame (i + 1)
  rw [List.take_succ_eq_append_getElem hx, List.take_succ_eq_append_getElem hy, List.flatten_append, List.flatten_append, hsame i,
    List.append_cancel_left_eq] at hnext
  simpa using hnext

end streams
