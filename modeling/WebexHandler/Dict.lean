import Mathlib.Data.List.Induction
import Mathlib.Data.List.Nodup

namespace dict

variable {α β : Type} [DecidableEq α]

/-- Assignment to a key, which keeps its place if it has one and comes last otherwise. -/
def set_entry (key : α) (value : β) : List (α × β) → List (α × β)
  | [] => [(key, value)]
  | entry :: rest => if entry.1 = key then (key, value) :: rest else entry :: set_entry key value rest

theorem keys_set_entry (key : α) (value : β) (entries : List (α × β)) :
    (set_entry key value entries).map Prod.fst =
      if key ∈ entries.map Prod.fst then entries.map Prod.fst else entries.map Prod.fst ++ [key] := by
  induction entries with
  | nil => rfl
  | cons entry rest ih =>
    by_cases hkey : entry.1 = key
    · simp [set_entry, hkey]
    · have hne : key ≠ entry.1 := fun h => hkey h.symm
      simp only [set_entry, if_neg hkey, List.map_cons, ih, List.mem_cons, hne, false_or]
      split <;> rfl

/-- A dictionary, its entries in the order in which their keys came in. -/
@[ext]
structure Dict (α β : Type) where
  entries : List (α × β)
  nodup : (entries.map Prod.fst).Nodup

namespace Dict

def empty : Dict α β := ⟨[], .nil⟩

def get (self : Dict α β) (key : α) : Option β := (self.entries.find? fun entry => entry.1 = key).map Prod.snd

def set (self : Dict α β) (key : α) (value : β) : Dict α β where
  entries := set_entry key value self.entries
  nodup := by
    rw [keys_set_entry]
    split
    · exact self.nodup
    · rename_i hnot
      exact self.nodup.append (List.nodup_singleton key) (by simpa using hnot)

/-- The dictionary of a function on the values. -/
def map_values {γ : Type} (self : Dict α β) (f : β → γ) : Dict α γ where
  entries := self.entries.map fun entry => (entry.1, f entry.2)
  nodup := by
    rw [List.map_map]
    exact self.nodup

/-- The values of a list of pairs, collected under their keys. -/
def group (pairs : List (α × β)) : Dict α (List β) :=
  pairs.foldl (fun groups pair => groups.set pair.1 ((groups.get pair.1).getD [] ++ [pair.2])) empty

/-- The entries under some of the keys. -/
def restrict (p : α → Bool) (self : Dict α β) : Dict α β where
  entries := self.entries.filter fun entry => p entry.1
  nodup := self.nodup.sublist (List.filter_sublist.map _)

variable {self : Dict α β} {key : α} {value : β} {p : α → Bool}

theorem restrict_set_of_neg (hkey : p key = false) : (self.set key value).restrict p = self.restrict p := by
  obtain ⟨entries, hnodup⟩ := self
  ext1
  simp only [restrict, set]
  clear hnodup
  induction entries with
  | nil => simp [set_entry, hkey]
  | cons entry rest ih =>
    unfold set_entry
    split
    · rename_i hsame
      simp [hsame, hkey]
    · simp only [List.filter_cons, ih]

theorem restrict_set_of_pos (hkey : p key = true) :
    (self.set key value).restrict p = (self.restrict p).set key value := by
  obtain ⟨entries, hnodup⟩ := self
  ext1
  simp only [restrict, set]
  clear hnodup
  induction entries with
  | nil => simp [set_entry, hkey]
  | cons entry rest ih =>
    by_cases hsame : entry.1 = key
    · simp [set_entry, hsame, hkey]
    · by_cases hentry : p entry.1 = true
      · simp [set_entry, hsame, hentry, ih]
      · simp [set_entry, hsame, hentry, ih]

theorem get_restrict (hkey : p key = true) : (self.restrict p).get key = self.get key := by
  obtain ⟨entries, hnodup⟩ := self
  simp only [get, restrict]
  clear hnodup
  congr 1
  induction entries with
  | nil => rfl
  | cons entry rest ih =>
    by_cases hsame : entry.1 = key
    · simp [hsame, hkey]
    · by_cases hentry : p entry.1 = true
      · simp [hsame, hentry, ih]
      · simp [hsame, hentry, ih]

theorem group_concat (pairs : List (α × β)) (pair : α × β) :
    group (pairs ++ [pair]) = (group pairs).set pair.1 (((group pairs).get pair.1).getD [] ++ [pair.2]) := by
  rw [group, List.foldl_append]
  rfl

/-- The values under some keys come from the pairs with these keys. -/
theorem restrict_group (p : α → Bool) (pairs : List (α × β)) :
    (group pairs).restrict p = group (pairs.filter fun pair => p pair.1) := by
  induction pairs using List.reverseRecOn with
  | nil => rfl
  | append_singleton pairs pair ih =>
    rw [group_concat, List.filter_append]
    by_cases hkey : p pair.1 = true
    · have hlast : [pair].filter (fun pair => p pair.1) = [pair] := by simp [hkey]
      rw [restrict_set_of_pos hkey, hlast, group_concat, ← ih, get_restrict hkey]
    · rw [Bool.not_eq_true] at hkey
      have hlast : [pair].filter (fun pair => p pair.1) = [] := by simp [hkey]
      rw [restrict_set_of_neg hkey, hlast, List.append_nil, ih]

theorem set_entry_of_not_mem {entries : List (α × β)} (hnot : key ∉ entries.map Prod.fst) :
    set_entry key value entries = entries ++ [(key, value)] := by
  induction entries with
  | nil => rfl
  | cons entry rest ih =>
    rw [List.map_cons, List.mem_cons, not_or] at hnot
    rw [set_entry, if_neg (Ne.symm hnot.1), ih hnot.2, List.cons_append]

theorem get_of_not_mem (hnot : key ∉ self.entries.map Prod.fst) : self.get key = none := by
  unfold get
  rw [Option.map_eq_none_iff, List.find?_eq_none]
  intro entry hmem hkey
  rw [decide_eq_true_eq] at hkey
  exact hnot (hkey ▸ List.mem_map_of_mem hmem)

/-- Pairs with different keys keep their order, each value on its own. -/
theorem group_of_nodup {pairs : List (α × β)} (hnodup : (pairs.map Prod.fst).Nodup) :
    (group pairs).entries = pairs.map fun pair => (pair.1, [pair.2]) := by
  induction pairs using List.reverseRecOn with
  | nil => rfl
  | append_singleton pairs pair ih =>
    rw [List.map_append, List.nodup_append'] at hnodup
    obtain ⟨hpairs, -, hdisjoint⟩ := hnodup
    have hentries := ih hpairs
    have hnot : pair.1 ∉ (group pairs).entries.map Prod.fst := by
      intro hmem
      rw [hentries, List.map_map] at hmem
      exact hdisjoint hmem (List.mem_singleton_self _)
    rw [group_concat, get_of_not_mem hnot]
    refine (set_entry_of_not_mem hnot).trans ?_
    rw [hentries, List.map_append]
    rfl

theorem mem_set_entry {entry : α × β} {entries : List (α × β)} (hmem : entry ∈ set_entry key value entries) :
    entry = (key, value) ∨ entry ∈ entries := by
  induction entries with
  | nil => exact .inl (List.mem_singleton.mp hmem)
  | cons first rest ih =>
    unfold set_entry at hmem
    split at hmem
    · exact (List.mem_cons.mp hmem).imp id (List.mem_cons_of_mem _)
    · obtain rfl | hmem := List.mem_cons.mp hmem
      · exact .inr List.mem_cons_self
      · exact (ih hmem).imp id (List.mem_cons_of_mem _)

theorem mem_of_get (hget : self.get key = some value) : (key, value) ∈ self.entries := by
  obtain ⟨entry, hfound, rfl⟩ := Option.map_eq_some_iff.mp hget
  have hkey : entry.1 = key := by simpa using List.find?_some hfound
  rw [← hkey]
  exact List.mem_of_find?_eq_some hfound

/-- The values under a key are those of pairs with the key. -/
theorem mem_of_mem_group {pairs : List (α × β)} {values : List β} (hentry : (key, values) ∈ (group pairs).entries)
    (hvalue : value ∈ values) : (key, value) ∈ pairs := by
  induction pairs using List.reverseRecOn generalizing key values with
  | nil => exact absurd hentry nofun
  | append_singleton pairs pair ih =>
    rw [group_concat] at hentry
    rw [List.mem_append]
    obtain heq | hold := mem_set_entry hentry
    · obtain ⟨rfl, rfl⟩ := Prod.mk.inj heq
      obtain hvalue | hvalue := List.mem_append.mp hvalue
      · cases hget : (group pairs).get pair.1 with
        | none =>
          rw [hget] at hvalue
          exact absurd hvalue nofun
        | some before =>
          rw [hget] at hvalue
          exact .inl (ih (mem_of_get hget) hvalue)
      · rw [List.mem_singleton.mp hvalue]
        exact .inr (List.mem_singleton_self pair)
    · exact .inl (ih hold hvalue)

theorem map_values_set {γ : Type} (f : β → γ) : (self.set key value).map_values f = (self.map_values f).set key (f value) := by
  obtain ⟨entries, hnodup⟩ := self
  ext1
  simp only [map_values, set]
  clear hnodup
  induction entries with
  | nil => rfl
  | cons entry rest ih =>
    by_cases hkey : entry.1 = key
    · simp [set_entry, hkey]
    · simp [set_entry, hkey, ih]

omit [DecidableEq α] in
theorem restrict_map_values {γ : Type} (f : β → γ) (p : α → Bool) :
    (self.map_values f).restrict p = (self.restrict p).map_values f := by
  ext1
  exact List.filter_map

theorem filter_set_self (value : β) : (self.set key value).entries.filter (fun entry => entry.1 = key) = [(key, value)] := by
  obtain ⟨entries, hnodup⟩ := self
  simp only [set]
  induction entries with
  | nil => simp [set_entry]
  | cons entry rest ih =>
    rw [List.map_cons, List.nodup_cons] at hnodup
    unfold set_entry
    split
    · rename_i hsame
      have hrest : rest.filter (fun entry => entry.1 = key) = [] := by
        rw [List.filter_eq_nil_iff]
        intro other hmem hother
        have hother : other.1 = entry.1 := (of_decide_eq_true hother).trans hsame.symm
        exact hnodup.1 (hother ▸ List.mem_map_of_mem hmem)
      simp [hrest]
    · rename_i hne
      simp [hne, ih hnodup.2]

/-- Assignment to one key after another. -/
def set_all (self : Dict α β) (entries : List (α × β)) : Dict α β :=
  entries.foldl (fun filled entry => filled.set entry.1 entry.2) self

theorem restrict_set_all {entries : List (α × β)} (hentries : ∀ entry ∈ entries, p entry.1 = false) :
    (self.set_all entries).restrict p = self.restrict p := by
  induction entries generalizing self with
  | nil => rfl
  | cons entry rest ih =>
    rw [List.forall_mem_cons] at hentries
    exact (ih hentries.2).trans (restrict_set_of_neg hentries.1)

/-- Of different keys each has the value that it was assigned. -/
theorem filter_set_all {entries : List (α × β)} (hnodup : (entries.map Prod.fst).Nodup) {entry : α × β}
    (hmem : entry ∈ entries) : (self.set_all entries).entries.filter (fun other => other.1 = entry.1) = [entry] := by
  induction entries generalizing self with
  | nil => exact absurd hmem nofun
  | cons first rest ih =>
    rw [List.map_cons, List.nodup_cons] at hnodup
    obtain rfl | hmem := List.mem_cons.mp hmem
    · have hothers : ∀ other ∈ rest, decide (other.1 = entry.1) = false := by
        intro other hother
        rw [decide_eq_false_iff_not]
        intro heq
        exact hnodup.1 (heq ▸ List.mem_map_of_mem hother)
      have hrest : ((self.set entry.1 entry.2).set_all rest).restrict (fun key => key = entry.1) =
          (self.set entry.1 entry.2).restrict fun key => key = entry.1 := restrict_set_all hothers
      exact (congrArg Dict.entries hrest).trans (filter_set_self entry.2)
    · exact ih hnodup.2 hmem

end Dict

end dict
