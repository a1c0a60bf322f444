import Mathlib.Data.List.Basic

namespace domain_name

/-- The host is the domain itself or one of its subdomains. -/
def Within (domain host : List Char) : Prop := host = domain ∨ '.' :: domain <:+ host

instance (domain host : List Char) : Decidable (Within domain host) :=
  inferInstanceAs (Decidable (_ ∨ _))

/-- The host belongs to a domain of the list. -/
def Listed (domains : List (List Char)) (host : List Char) : Prop := ∃ domain ∈ domains, Within domain host

instance (domains : List (List Char)) (host : List Char) : Decidable (Listed domains host) :=
  inferInstanceAs (Decidable (∃ domain ∈ domains, Within domain host))

@[simp]
theorem listed_nil {host : List Char} : ¬ Listed [] host := by
  simp [Listed]

@[simp]
theorem listed_cons {domain : List Char} {domains : List (List Char)} {host : List Char} :
    Listed (domain :: domains) host ↔ Within domain host ∨ Listed domains host := by
  simp [Listed]

theorem listed_append {domains others : List (List Char)} {host : List Char} :
    Listed (domains ++ others) host ↔ Listed domains host ∨ Listed others host := by
  simp [Listed, or_and_right, exists_or]

theorem within_iff {domain host : List Char} : Within domain host ↔ '.' :: domain <:+ '.' :: host := by
  rw [List.suffix_cons_iff, List.cons.injEq]
  simp [Within, eq_comm]

/-- A host belongs to two domains only if one of them belongs to the other. -/
theorem Within.nested {domain other host : List Char} (hwithin : Within domain host) (hother : Within other host) :
    Within domain other ∨ Within other domain := by
  rw [within_iff] at hwithin hother ⊢
  rw [within_iff]
  exact List.suffix_or_suffix_of_suffix hwithin hother

/-- Nothing is left of a separator that a domain does not contain. -/
theorem Within.after {domain front host : List Char} {separator : Char} (hwithin : Within domain (front ++ separator :: host))
    (hdot : separator ≠ '.') (hnot : separator ∉ domain) : Within domain host := by
  have hsuffix : '.' :: domain <:+ front ++ separator :: host := by
    obtain heq | hsuffix := hwithin
    · exact absurd (heq ▸ List.mem_append_right front List.mem_cons_self) hnot
    · exact hsuffix
  obtain hsuffix | ⟨back, hback⟩ := List.suffix_or_suffix_of_suffix hsuffix (List.suffix_append front (separator :: host))
  · obtain heq | hsuffix := List.suffix_cons_iff.mp hsuffix
    · exact absurd (List.cons.inj heq).1.symm hdot
    · exact .inr hsuffix
  · have hmem : separator ∈ '.' :: domain := by
      rw [← hback]
      simp
    obtain heq | hmem := List.mem_cons.mp hmem
    · exact absurd heq hdot
    · exact absurd hmem hnot

theorem Listed.after {domains : List (List Char)} {front host : List Char} {separator : Char}
    (hlisted : Listed domains (front ++ separator :: host)) (hdot : separator ≠ '.')
    (hnot : ∀ domain ∈ domains, separator ∉ domain) : Listed domains host := by
  obtain ⟨domain, hmem, hwithin⟩ := hlisted
  exact ⟨domain, hmem, hwithin.after hdot (hnot domain hmem)⟩

/-- No host belongs to two domains that are apart. -/
theorem Within.not_listed {domains : List (List Char)} {domain host : List Char} (hwithin : Within domain host)
    (hapart : ∀ other ∈ domains, ¬ Within domain other ∧ ¬ Within other domain) : ¬ Listed domains host := by
  rintro ⟨other, hmem, hother⟩
  obtain hdomain | hnested := hwithin.nested hother
  · exact (hapart other hmem).1 hdomain
  · exact (hapart other hmem).2 hnested

/-- A further domain, apart from the listed ones, makes a difference to its own hosts. -/
theorem listed_or_within_iff {domains : List (List Char)} {domain host : List Char}
    (hapart : ∀ other ∈ domains, ¬ Within domain other ∧ ¬ Within other domain) :
    (Listed domains host ∨ Within domain host ↔ Listed domains host) ↔ ¬ Within domain host := by
  constructor
  · intro hsame hwithin
    exact hwithin.not_listed hapart (hsame.mp (.inr hwithin))
  · intro hnot
    simp [hnot]

/-- A character by character translation of the host that makes no dots of other
    characters. -/
theorem within_map_iff {f : Char → Char} (hdot : ∀ c, f c = '.' ↔ c = '.') {domain host : List Char} :
    Within domain (host.map f) ↔ ∃ source, source.map f = domain ∧ Within source host := by
  constructor
  · rintro (heq | hsuffix)
    · exact ⟨host, heq, .inl rfl⟩
    · obtain ⟨source, hsource, heq⟩ := List.suffix_map_iff.mp hsuffix
      cases source with
      | nil => simp at heq
      | cons dot source =>
        simp only [List.map_cons, List.cons.injEq] at heq
        obtain rfl := (hdot dot).mp heq.1.symm
        exact ⟨source, heq.2.symm, .inr hsource⟩
  · rintro ⟨source, rfl, rfl | hsuffix⟩
    · exact .inl rfl
    · refine .inr ?_
      have hmap := hsuffix.map f
      rwa [List.map_cons, (hdot '.').mpr rfl] at hmap

theorem map_eq_iff_of_fixed {f : Char → Char} {source domain : List Char}
    (hfixed : ∀ c, ∀ d ∈ domain, f c = d ↔ c = d) : source.map f = domain ↔ source = domain := by
  induction source generalizing domain with
  | nil => simp
  | cons c source ih =>
    cases domain with
    | nil => simp
    | cons d domain =>
      have hrest : source.map f = domain ↔ source = domain := ih fun c d hd => hfixed c d (List.mem_cons_of_mem _ hd)
      simp only [List.map_cons, List.cons.injEq, hrest, hfixed c d List.mem_cons_self]

/-- A translation that keeps the characters of the domain, and makes none of them of
    others, does not matter. -/
theorem within_map_of_fixed {f : Char → Char} {domain host : List Char}
    (hfixed : ∀ c, ∀ d ∈ '.' :: domain, f c = d ↔ c = d) : Within domain (host.map f) ↔ Within domain host := by
  rw [within_map_iff fun c => hfixed c '.' List.mem_cons_self]
  have hsource : ∀ source : List Char, source.map f = domain ↔ source = domain := fun source =>
    map_eq_iff_of_fixed fun c d hd => hfixed c d (List.mem_cons_of_mem _ hd)
  simp [hsource]

/-- A list of suffixes that begin with a dot, each tested as it is and without the dot. -/
theorem suffix_tests_iff {suffixes : List String} (hdots : ∀ suffix ∈ suffixes, suffix.toList.head? = some '.')
    {host : List Char} :
    (suffixes.any fun suffix => suffix.toList.isSuffixOf host || host == suffix.toList.tail) = true ↔
      Listed (suffixes.map fun suffix => suffix.toList.tail) host := by
  simp only [List.any_eq_true, Bool.or_eq_true, List.isSuffixOf_iff_suffix, beq_iff_eq, Listed, List.mem_map,
    exists_exists_and_eq_and]
  refine exists_congr fun suffix => and_congr_right fun hmem => ?_
  obtain ⟨domain, hdomain⟩ := List.head?_eq_some_iff.mp (hdots suffix hmem)
  rw [hdomain, List.tail_cons, Within, or_comm]

end domain_name
