import Mathlib.Data.List.Infix

namespace regex

/-- The pieces of a pattern: a literal text, a greedy `[^c]*`, or a captured one. -/
inductive Piece
  | literal (text : List Char)
  | skip (stop : Char)
  | capture (stop : Char)

abbrev Pattern : Type := List Piece

/-- A match with its text, its captures and what follows it. -/
structure Match where
  text : List Char
  groups : List (List Char)
  rest : List Char
  deriving DecidableEq

/-- The text of a capture. -/
def Match.group (found : Match) (n : Nat) : List Char := found.groups.getD (n - 1) []

/-- The ways to split off a prefix without `stop`, in the order in which a greedy
    engine tries them: the longest first. -/
def splits (stop : Char) : List Char → List (List Char × List Char)
  | [] => [([], [])]
  | x :: s =>
    if x = stop then [([], x :: s)]
    else (splits stop s).map (fun split => (x :: split.1, split.2)) ++ [([], x :: s)]

section engine

-- Two characters are equal to an engine that ignores case when they have the same
-- canonical form.
variable (canonical : Char → Char)

/-- What follows a literal at the head of the text. -/
def strip : List Char → List Char → Option (List Char)
  | [], s => some s
  | _ :: _, [] => none
  | c :: text, x :: s => if canonical x = canonical c then strip text s else none

/-- The first way to match a pattern at the head of the text, as its captures and what
    follows it. -/
def exec : Pattern → List Char → Option (List (List Char) × List Char)
  | [], s => some ([], s)
  | .literal text :: pattern, s => (strip canonical text s).bind (exec pattern)
  | .skip stop :: pattern, s => (splits stop s).findSome? fun split => exec pattern split.2
  | .capture stop :: pattern, s => (splits stop s).findSome? fun split =>
      (exec pattern split.2).map fun found => (split.1 :: found.1, found.2)

section pieces

variable {canonical} {pattern : Pattern} {s text : List Char} {stop : Char}

@[simp]
theorem exec_nil : exec canonical [] s = some ([], s) := rfl

theorem exec_literal : exec canonical (.literal text :: pattern) s = (strip canonical text s).bind (exec canonical pattern) :=
  rfl

theorem exec_skip : exec canonical (.skip stop :: pattern) s =
    (splits stop s).findSome? fun split => exec canonical pattern split.2 := rfl

theorem exec_capture : exec canonical (.capture stop :: pattern) s = (splits stop s).findSome? fun split =>
    (exec canonical pattern split.2).map fun found => (split.1 :: found.1, found.2) := rfl

end pieces

def match_at (pattern : Pattern) (s : List Char) : Option Match :=
  (exec canonical pattern s).map fun found => ⟨s.take (s.length - found.2.length), found.1, found.2⟩

/-- The leftmost match. -/
def search (pattern : Pattern) : List Char → Option Match
  | [] => match_at canonical pattern []
  | x :: s => (match_at canonical pattern (x :: s)).or (search pattern s)

/-- All matches from left to right, none overlapping another, of a pattern that matches
    no empty text. The first `n` characters belong to a match before. -/
def find_all (pattern : Pattern) : (n : Nat) → List Char → List Match
  | _, [] => []
  | 0, x :: s => match match_at canonical pattern (x :: s) with
    | some found => found :: find_all pattern (found.text.length - 1) s
    | none => find_all pattern 0 s
  | n + 1, _ :: s => find_all pattern n s

end engine

section splitting

theorem findSome_congr {α β : Type} {f g : α → Option β} {l : List α} (hfg : ∀ x ∈ l, f x = g x) :
    l.findSome? f = l.findSome? g := by
  induction l with
  | nil => rfl
  | cons x l ih =>
    rw [List.findSome?_cons, List.findSome?_cons, hfg x List.mem_cons_self, ih fun y hy => hfg y (List.mem_cons_of_mem _ hy)]

variable {stop : Char} {s : List Char} {α : Type} {f : List Char × List Char → Option α}

theorem append_of_mem_splits {split : List Char × List Char} (hsplit : split ∈ splits stop s) : split.1 ++ split.2 = s := by
  induction s generalizing split with
  | nil =>
    simp only [splits, List.mem_singleton] at hsplit
    rw [hsplit]
    rfl
  | cons x s ih =>
    unfold splits at hsplit
    split at hsplit
    · rw [List.mem_singleton] at hsplit
      rw [hsplit]
      rfl
    · rw [List.mem_append, List.mem_map, List.mem_singleton] at hsplit
      obtain ⟨shorter, hshorter, rfl⟩ | rfl := hsplit
      · rw [List.cons_append, ih hshorter]
      · rfl

theorem dropWhile_stop (hs : stop ∈ s) : ∃ rest, s.dropWhile (· != stop) = stop :: rest := by
  induction s with
  | nil => exact absurd hs nofun
  | cons x s ih =>
    by_cases hx : x = stop
    · exact ⟨s, by simp [hx]⟩
    · rw [List.dropWhile_cons_of_pos (by simpa using hx)]
      exact ih ((List.mem_cons.mp hs).resolve_left fun hsame => hx hsame.symm)

theorem takeWhile_append_stop {rest : List Char} (hrest : s.dropWhile (· != stop) = stop :: rest) :
    s.takeWhile (· != stop) ++ stop :: rest = s := by
  rw [← hrest, List.takeWhile_append_dropWhile]

theorem takeWhile_append_of_mem {t : List Char} (hs : stop ∈ s) :
    (s ++ t).takeWhile (· != stop) = s.takeWhile (· != stop) := by
  induction s with
  | nil => exact absurd hs nofun
  | cons x s ih =>
    by_cases hx : x = stop
    · simp [hx]
    · have hmem := (List.mem_cons.mp hs).resolve_left fun hsame => hx hsame.symm
      rw [List.cons_append, List.takeWhile_cons_of_pos (by simpa using hx), List.takeWhile_cons_of_pos (by simpa using hx),
        ih hmem]

theorem stop_not_mem_takeWhile : stop ∉ s.takeWhile (· != stop) := by
  intro hstop
  have hne := List.all_eq_true.mp List.all_takeWhile stop hstop
  simp at hne

/-- A greedy piece that must be followed by `stop` goes up to the first `stop`. -/
theorem findSome_splits_stop {before rest : List Char} (hbefore : stop ∉ before)
    (hf : ∀ u v, (∀ w, v ≠ stop :: w) → f (u, v) = none) :
    (splits stop (before ++ stop :: rest)).findSome? f = f (before, stop :: rest) := by
  induction before generalizing f with
  | nil => simp [splits]
  | cons x before ih =>
    rw [List.mem_cons, not_or] at hbefore
    have hx : x ≠ stop := fun hsame => hbefore.1 hsame.symm
    have hlast : f ([], x :: (before ++ stop :: rest)) = none := by
      apply hf
      rintro w hw
      exact hx (List.cons.inj hw).1
    rw [List.cons_append, splits, if_neg hx, List.findSome?_append, List.findSome?_map, ih hbefore.2]
    · simp [hlast]
    · intro u v hv
      exact hf _ _ hv

theorem findSome_splits_none (hs : stop ∉ s) (hf : ∀ u v, (∀ w, v ≠ stop :: w) → f (u, v) = none) :
    (splits stop s).findSome? f = none := by
  rw [List.findSome?_eq_none_iff]
  rintro ⟨u, v⟩ hsplit
  apply hf
  rintro w rfl
  apply hs
  rw [← append_of_mem_splits hsplit]
  exact List.mem_append_right _ List.mem_cons_self

/-- The ways to split, seen by what they leave, go through the tails from the end. -/
theorem findSome_splits_tails {before rest : List Char} {g : List Char → Option α} (hbefore : stop ∉ before) :
    (splits stop (before ++ stop :: rest)).findSome? (fun split => g split.2) =
      before.tails.reverse.findSome? fun v => g (v ++ stop :: rest) := by
  induction before with
  | nil => simp [splits]
  | cons x before ih =>
    rw [List.mem_cons, not_or] at hbefore
    have hx : x ≠ stop := fun hsame => hbefore.1 hsame.symm
    rw [List.cons_append, splits, if_neg hx, List.findSome?_append, List.findSome?_map]
    have hcomp : (fun split : List Char × List Char => g split.2) ∘
        (fun split : List Char × List Char => (x :: split.1, split.2)) = fun split => g split.2 := rfl
    rw [hcomp, ih hbefore.2]
    simp [List.tails]

end splitting

section literals

variable {canonical : Char → Char} {text s rest : List Char}

theorem strip_eq_some (hstrip : strip canonical text s = some rest) : ∃ found, s = found ++ rest ∧ found.length = text.length ∧
    found.map canonical = text.map canonical := by
  induction text generalizing s with
  | nil =>
    simp only [strip, Option.some.injEq] at hstrip
    exact ⟨[], hstrip, rfl, rfl⟩
  | cons c text ih =>
    cases s with
    | nil => exact absurd hstrip nofun
    | cons x s =>
      unfold strip at hstrip
      split at hstrip
      · rename_i hx
        obtain ⟨found, rfl, hlength, hmap⟩ := ih hstrip
        exact ⟨x :: found, rfl, by simp [hlength], by simp [hx, hmap]⟩
      · exact absurd hstrip nofun

theorem strip_drop (hstrip : strip canonical text s = some rest) : rest = s.drop text.length := by
  obtain ⟨found, rfl, hlength, -⟩ := strip_eq_some hstrip
  rw [← hlength, List.drop_left]

/-- A character that is in no literal, in no spelling, ends the text as far as the
    literal is concerned. -/
theorem strip_append_stop {stop : Char} (hstop : ∀ c ∈ text, canonical stop ≠ canonical c) :
    strip canonical text (s ++ stop :: rest) = (strip canonical text s).map (· ++ stop :: rest) := by
  induction text generalizing s with
  | nil => rfl
  | cons c text ih =>
    cases s with
    | nil => simp [strip, hstop c List.mem_cons_self]
    | cons x s =>
      rw [List.cons_append, strip, strip, ih fun c hc => hstop c (List.mem_cons_of_mem _ hc)]
      split
      · rfl
      · rfl

end literals

section matching

variable {canonical : Char → Char} {pattern : Pattern} {s : List Char}

/-- No other character is equal to this one for the engine. -/
def Uncased (canonical : Char → Char) (c : Char) : Prop := ∀ x, canonical x = canonical c ↔ x = c

theorem exec_suffix {found : List (List Char) × List Char} (hexec : exec canonical pattern s = some found) :
    found.2 <:+ s := by
  induction pattern generalizing s found with
  | nil =>
    simp only [exec_nil, Option.some.injEq] at hexec
    exact hexec ▸ List.suffix_refl _
  | cons piece pattern ih =>
    cases piece with
    | literal text =>
      simp only [exec_literal, Option.bind_eq_some_iff] at hexec
      obtain ⟨rest, hstrip, hexec⟩ := hexec
      obtain ⟨before, rfl, -, -⟩ := strip_eq_some hstrip
      exact (ih hexec).trans (List.suffix_append _ _)
    | skip stop =>
      obtain ⟨split, hsplit, hexec⟩ := List.exists_of_findSome?_eq_some hexec
      rw [← append_of_mem_splits hsplit]
      exact (ih hexec).trans (List.suffix_append _ _)
    | capture stop =>
      obtain ⟨split, hsplit, hexec⟩ := List.exists_of_findSome?_eq_some hexec
      obtain ⟨later, hlater, rfl⟩ := Option.map_eq_some_iff.mp hexec
      rw [← append_of_mem_splits hsplit]
      exact (ih hlater).trans (List.suffix_append _ _)

theorem match_at_append {found : Match} (hmatch : match_at canonical pattern s = some found) : found.text ++ found.rest = s := by
  obtain ⟨later, hexec, rfl⟩ := Option.map_eq_some_iff.mp hmatch
  obtain ⟨before, hbefore⟩ := exec_suffix hexec
  have hlength : s.length - later.2.length = before.length := by
    rw [← hbefore, List.length_append]
    omega
  show s.take _ ++ later.2 = s
  rw [hlength, ← hbefore, List.take_left]

theorem exec_literal_none {stop : Char} (hstop : Uncased canonical stop) {v : List Char} (hv : ∀ w, v ≠ stop :: w) :
    exec canonical (.literal [stop] :: pattern) v = none := by
  cases v with
  | nil => rfl
  | cons x w =>
    have hx : canonical x ≠ canonical stop := by
      intro hsame
      exact hv w (by rw [(hstop x).mp hsame])
    rw [exec_literal, strip, if_neg hx]
    rfl

theorem exec_literal_stop {stop : Char} {rest : List Char} :
    exec canonical (.literal [stop] :: pattern) (stop :: rest) = exec canonical pattern rest := by
  simp [exec_literal, strip]

variable {stop : Char} {before rest : List Char}

/-- A greedy piece and the character that ends it go up to the first one. -/
theorem exec_skip_stop (hstop : Uncased canonical stop) (hbefore : stop ∉ before) :
    exec canonical (.skip stop :: .literal [stop] :: pattern) (before ++ stop :: rest) = exec canonical pattern rest := by
  rw [exec_skip, findSome_splits_stop hbefore, exec_literal_stop]
  intro u v hv
  exact exec_literal_none hstop hv

theorem exec_skip_none (hstop : Uncased canonical stop) (hs : stop ∉ s) :
    exec canonical (.skip stop :: .literal [stop] :: pattern) s = none := by
  rw [exec_skip, findSome_splits_none hs]
  intro u v hv
  exact exec_literal_none hstop hv

theorem exec_capture_stop (hstop : Uncased canonical stop) (hbefore : stop ∉ before) :
    exec canonical (.capture stop :: .literal [stop] :: pattern) (before ++ stop :: rest) =
      (exec canonical pattern rest).map fun found => (before :: found.1, found.2) := by
  rw [exec_capture, findSome_splits_stop hbefore, exec_literal_stop]
  intro u v hv
  rw [exec_literal_none hstop hv]
  rfl

theorem exec_capture_none (hstop : Uncased canonical stop) (hs : stop ∉ s) :
    exec canonical (.capture stop :: .literal [stop] :: pattern) s = none := by
  rw [exec_capture, findSome_splits_none hs]
  intro u v hv
  rw [exec_literal_none hstop hv]
  rfl

/-- A pattern does not match without the characters it must end at. -/
theorem exec_none_of_literal (hstop : Uncased canonical stop) (hliteral : .literal [stop] ∈ pattern) (hs : stop ∉ s) :
    exec canonical pattern s = none := by
  induction pattern generalizing s with
  | nil => exact absurd hliteral nofun
  | cons piece pattern ih =>
    have hlater {split : List Char × List Char} (c : Char) (hmem : split ∈ splits c s) (hrest : .literal [stop] ∈ pattern) :
        exec canonical pattern split.2 = none := by
      apply ih hrest
      intro hstop
      apply hs
      rw [← append_of_mem_splits hmem]
      exact List.mem_append_right _ hstop
    cases piece with
    | literal text =>
      obtain hhere | hrest := List.mem_cons.mp hliteral
      · rw [← hhere]
        apply exec_literal_none hstop
        rintro w rfl
        exact hs List.mem_cons_self
      · rw [exec_literal]
        cases hstrip : strip canonical text s with
        | none => rfl
        | some rest =>
          obtain ⟨found, rfl, -, -⟩ := strip_eq_some hstrip
          exact ih hrest fun hmem => hs (List.mem_append_right _ hmem)
    | skip c =>
      rw [exec_skip, List.findSome?_eq_none_iff]
      intro split hmem
      exact hlater c hmem ((List.mem_cons.mp hliteral).resolve_left nofun)
    | capture c =>
      rw [exec_capture, List.findSome?_eq_none_iff]
      intro split hmem
      rw [hlater c hmem ((List.mem_cons.mp hliteral).resolve_left nofun)]
      rfl

/-- A match that leaves `rest` has the text before it. -/
theorem match_at_of_exec {text : List Char} {groups : List (List Char)}
    (hexec : exec canonical pattern (text ++ rest) = some (groups, rest)) :
    match_at canonical pattern (text ++ rest) = some ⟨text, groups, rest⟩ := by
  rw [match_at, hexec, Option.map_some]
  simp

theorem search_eq : search canonical pattern s = s.tails.findSome? (match_at canonical pattern) := by
  induction s with
  | nil => simp [search]
  | cons x s ih =>
    rw [search, ih, List.tails_cons, List.findSome?_cons]
    cases match_at canonical pattern (x :: s) with
    | none => rfl
    | some found => rfl

theorem find_all_drop (n : Nat) : find_all canonical pattern n s = find_all canonical pattern 0 (s.drop n) := by
  induction s generalizing n with
  | nil => simp [find_all]
  | cons x s ih =>
    cases n with
    | zero => rfl
    | succ n => exact ih n

/-- The search goes on behind a match. -/
theorem find_all_match {found : Match} (hmatch : match_at canonical pattern s = some found) (hsome : found.text ≠ []) :
    find_all canonical pattern 0 s = found :: find_all canonical pattern 0 found.rest := by
  have happend := match_at_append hmatch
  cases s with
  | nil => exact absurd (List.append_eq_nil_iff.mp happend).1 hsome
  | cons x s =>
    rw [find_all, hmatch]
    simp only [List.cons.injEq, true_and]
    rw [find_all_drop]
    congr 1
    cases htext : found.text with
    | nil => exact absurd htext hsome
    | cons y text =>
      rw [htext, List.cons_append, List.cons.injEq] at happend
      simp [← happend.2]

theorem find_all_next {x : Char} (hmatch : match_at canonical pattern (x :: s) = none) :
    find_all canonical pattern 0 (x :: s) = find_all canonical pattern 0 s := by
  rw [find_all, hmatch]

end matching

section agreement

variable {canonical other : Char → Char} {pattern : Pattern} {s : List Char}

theorem strip_congr {text : List Char} (htext : ∀ c ∈ text, ∀ x, canonical x = canonical c ↔ other x = other c) :
    strip canonical text s = strip other text s := by
  induction text generalizing s with
  | nil => rfl
  | cons c text ih =>
    cases s with
    | nil => rfl
    | cons x s =>
      rw [strip, strip, ih fun c hc => htext c (List.mem_cons_of_mem _ hc)]
      simp only [htext c List.mem_cons_self x]

/-- Two engines that spell the literals of a pattern alike match alike. -/
theorem exec_congr (hliterals : ∀ text, .literal text ∈ pattern → ∀ v, v <:+ s → strip canonical text v = strip other text v) :
    exec canonical pattern s = exec other pattern s := by
  induction pattern generalizing s with
  | nil => rfl
  | cons piece pattern ih =>
    have hsuffix {v : List Char} (hv : v <:+ s) : exec canonical pattern v = exec other pattern v :=
      ih fun text htext u hu => hliterals text (List.mem_cons_of_mem _ htext) u (hu.trans hv)
    have hsplit {stop : Char} {split : List Char × List Char} (hmem : split ∈ splits stop s) :
        exec canonical pattern split.2 = exec other pattern split.2 := by
      apply hsuffix
      rw [← append_of_mem_splits hmem]
      exact List.suffix_append _ _
    cases piece with
    | literal text =>
      rw [exec_literal, exec_literal, ← hliterals text List.mem_cons_self s (List.suffix_refl s)]
      cases hstrip : strip canonical text s with
      | none => rfl
      | some rest =>
        obtain ⟨before, rfl, -, -⟩ := strip_eq_some hstrip
        exact hsuffix (List.suffix_append _ _)
    | skip stop =>
      rw [exec_skip, exec_skip]
      exact findSome_congr fun split hmem => hsplit hmem
    | capture stop =>
      rw [exec_capture, exec_capture]
      exact findSome_congr fun split hmem => by rw [hsplit hmem]

theorem search_congr (hexec : ∀ v, v <:+ s → exec canonical pattern v = exec other pattern v) :
    search canonical pattern s = search other pattern s := by
  rw [search_eq, search_eq]
  apply findSome_congr
  intro v hv
  rw [match_at, match_at, hexec v ((List.mem_tails v s).mp hv)]

theorem find_all_congr (n : Nat) (hexec : ∀ v, v <:+ s → exec canonical pattern v = exec other pattern v) :
    find_all canonical pattern n s = find_all other pattern n s := by
  induction s generalizing n with
  | nil =>
    cases n with
    | zero => rfl
    | succ n => rfl
  | cons x s ih =>
    have hrest (m : Nat) := ih m fun v hv => hexec v (hv.trans (List.suffix_cons x s))
    cases n with
    | zero =>
      have hmatch : match_at canonical pattern (x :: s) = match_at other pattern (x :: s) := by
        rw [match_at, match_at, hexec _ (List.suffix_refl _)]
      rw [find_all, find_all, hmatch, hrest]
      cases match_at other pattern (x :: s) with
      | none => rfl
      | some found => simp only [hrest]
    | succ n => exact hrest n

end agreement

end regex
