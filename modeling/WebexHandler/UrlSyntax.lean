import Mathlib.Data.List.DropRight

namespace url_syntax

def is_scheme : List Char → Bool
  | [] => false
  | c :: rest => c.isAlpha && rest.all fun d => d.isAlphanum || d == '+' || d == '-' || d == '.'

/-- A URL's scheme. -/
structure Scheme where
  name : String
  well_formed : is_scheme name.toList = true

/-- RFC 3986 ends the authority at a slash, a question mark or a hash sign. The WHATWG
    parser of the special schemes takes a backslash for a slash. -/
def ends_authority (special : Bool) (c : Char) : Bool := c == '/' || c == '?' || c == '#' || special && c == '\\'

/-- The text that begins with the authority, of what follows the scheme's colon. The
    special schemes need no slashes in front of it, and may have more than two. -/
def hier_part : Bool → List Char → Option (List Char)
  | false, '/' :: '/' :: text => some text
  | false, _ => none
  | true, text => some (text.dropWhile fun c => c == '/' || c == '\\')

def authority (special : Bool) (text : List Char) : List Char := text.takeWhile fun c => !ends_authority special c

/-- The rest of the authority, behind the userinfo. -/
def behind_userinfo (authority : List Char) : List Char := authority.rtakeWhile (· != '@')

def is_port : List Char → Bool
  | [] => true
  | c :: digits => c == ':' && digits.all Char.isDigit

/-- The host of a host and port. A host in brackets may contain colons. The characters of
    a host are not looked at. -/
def host_of : List Char → Option (List Char)
  | '[' :: address =>
    match address.dropWhile (· != ']') with
    | ']' :: port => if is_port port then some ('[' :: address.takeWhile (· != ']') ++ [']']) else none
    | _ => none
  | text => if is_port (text.dropWhile (· != ':')) then some (text.takeWhile (· != ':')) else none

/-- The host component of a URL, if it has one. -/
def host (special : Bool) (url : List Char) : Option (List Char) :=
  match url.dropWhile (· != ':') with
  | ':' :: rest =>
    if is_scheme (url.takeWhile (· != ':')) then
      (hier_part special rest).bind fun text => host_of (behind_userinfo (authority special text))
    else none
  | _ => none

/-- The text that begins with the authority, behind two slashes. -/
def skip_slashes (special : Bool) (text : List Char) : List Char :=
  if special then text.dropWhile fun c => c == '/' || c == '\\' else text

theorem Scheme.no_colon (scheme : Scheme) : ∀ c ∈ scheme.name.toList, (c != ':') = true := by
  obtain ⟨name, well_formed⟩ := scheme
  intro c hmem
  rw [bne_iff_ne]
  rintro rfl
  cases htext : name.toList with
  | nil => simp [htext] at hmem
  | cons c rest =>
    rw [htext] at hmem well_formed
    simp only [is_scheme, Bool.and_eq_true, List.all_eq_true] at well_formed
    obtain rfl | hmem := List.mem_cons.mp hmem
    · exact absurd well_formed.1 (by decide)
    · exact absurd (well_formed.2 ':' hmem) (by decide)

theorem host_eq (special : Bool) (scheme : Scheme) (text : List Char) :
    host special (scheme.name.toList ++ "://".toList ++ text) =
      host_of (behind_userinfo (authority special (skip_slashes special text))) := by
  have htake : (scheme.name.toList ++ "://".toList ++ text).takeWhile (· != ':') = scheme.name.toList := by
    rw [List.append_assoc, List.takeWhile_append_of_pos scheme.no_colon]
    simp
  have hdrop : (scheme.name.toList ++ "://".toList ++ text).dropWhile (· != ':') = ':' :: '/' :: '/' :: text := by
    rw [List.append_assoc, List.dropWhile_append_of_pos scheme.no_colon]
    simp
  rw [host, hdrop, htake]
  simp only [scheme.well_formed, if_true]
  cases special with
  | false => simp [hier_part, skip_slashes]
  | true => simp [hier_part, skip_slashes]

theorem takeWhile_ne_append {c : Char} {text rest : List Char} (hnot : c ∉ text) :
    (text ++ rest).takeWhile (· != c) = text ++ rest.takeWhile (· != c) := by
  refine List.takeWhile_append_of_pos fun d hmem => ?_
  rw [bne_iff_ne]
  rintro rfl
  exact hnot hmem

section userinfo

variable {front back : List Char}

theorem behind_userinfo_append (hback : '@' ∉ back) : behind_userinfo (front ++ '@' :: back) = back := by
  have hreverse : (front ++ '@' :: back).reverse = back.reverse ++ '@' :: front.reverse := by
    simp
  rw [behind_userinfo, List.rtakeWhile, hreverse, takeWhile_ne_append (by simpa using hback)]
  simp

theorem behind_userinfo_of_not_mem {authority : List Char} (hnot : '@' ∉ authority) :
    behind_userinfo authority = authority := by
  rw [behind_userinfo, List.rtakeWhile_eq_self_iff]
  intro c hmem
  rw [bne_iff_ne]
  rintro rfl
  exact hnot hmem

/-- An authority has userinfo up to its last `@`. -/
theorem userinfo_cases (authority : List Char) :
    '@' ∉ authority ∨ ∃ front back, authority = front ++ '@' :: back ∧ '@' ∉ back := by
  by_cases hmem : '@' ∈ authority
  · obtain ⟨back, front, heq, hback⟩ := List.eq_append_cons_of_mem (List.mem_reverse.mpr hmem)
    refine .inr ⟨front.reverse, back.reverse, ?_, by simpa using hback⟩
    rw [← List.reverse_reverse authority, heq]
    simp
  · exact .inl hmem

end userinfo

/-- The authority ends with the text, or in front of the first character that ends it. -/
theorem authority_eq {special : Bool} {front back : List Char} (hfront : ∀ c ∈ front, ends_authority special c = false)
    (hback : ∀ c, back.head? = some c → ends_authority special c = true) : authority special (front ++ back) = front := by
  rw [authority, List.takeWhile_append_of_pos (by simpa using hfront)]
  cases back with
  | nil => simp
  | cons c back => simp [hback c rfl]

/-- A host that begins with no bracket is what is in front of the port. -/
theorem host_of_name {text host : List Char} (hname : text.head? ≠ some '[') (hhost : host_of text = some host) :
    host = text.takeWhile (· != ':') := by
  unfold host_of at hhost
  split at hhost
  · simp at hname
  · simp only [Option.ite_none_right_eq_some, Option.some.injEq] at hhost
    exact hhost.2.symm

/-- A host in brackets is followed by nothing but a port. -/
theorem host_of_literal {address host : List Char} (hhost : host_of ('[' :: address) = some host) :
    ∃ inside port, address = inside ++ ']' :: port ∧ ']' ∉ inside ∧ is_port port = true ∧ host = '[' :: inside ++ [']'] := by
  simp only [host_of] at hhost
  split at hhost
  · rename_i port hport
    simp only [Option.ite_none_right_eq_some, Option.some.injEq] at hhost
    refine ⟨address.takeWhile (· != ']'), port, ?_, fun hmem => ?_, hhost.1, hhost.2.symm⟩
    · rw [← hport, List.takeWhile_append_dropWhile]
    · simpa using List.mem_takeWhile_imp hmem
  · contradiction

section parts

/-- The text up to the first `c`, and what follows it. -/
def cut (c : Char) (text : List Char) : List Char × Option (List Char) :=
  match text.dropWhile (· != c) with
  | [] => (text, none)
  | _ :: rest => (text.takeWhile (· != c), some rest)

theorem cut_of_not_mem {c : Char} {text : List Char} (hnot : c ∉ text) : cut c text = (text, none) := by
  have hall : ∀ d ∈ text, (d != c) = true := by
    intro d hmem
    rw [bne_iff_ne]
    rintro rfl
    exact hnot hmem
  have hdrop : text.dropWhile (· != c) = [] := by simpa using hall
  rw [cut, hdrop]

theorem cut_append {c : Char} {text : List Char} (hnot : c ∉ text) (rest : List Char) :
    cut c (text ++ c :: rest) = (text, some rest) := by
  have hall : ∀ d ∈ text, (d != c) = true := by
    intro d hmem
    rw [bne_iff_ne]
    rintro rfl
    exact hnot hmem
  have hdrop : (text ++ c :: rest).dropWhile (· != c) = c :: rest := by
    rw [List.dropWhile_append_of_pos hall]
    simp
  rw [cut, hdrop, takeWhile_ne_append hnot]
  simp

theorem cut_print (c : Char) (text : List Char) : (cut c text).1 ++ (cut c text).2.elim [] (c :: ·) = text := by
  by_cases hmem : c ∈ text
  · obtain ⟨front, rest, rfl, hfront⟩ := List.eq_append_cons_of_mem hmem
    rw [cut_append hfront]
    rfl
  · rw [cut_of_not_mem hmem]
    exact List.append_nil text

theorem not_mem_cut (c : Char) (text : List Char) : c ∉ (cut c text).1 := by
  by_cases hmem : c ∈ text
  · obtain ⟨front, rest, rfl, hfront⟩ := List.eq_append_cons_of_mem hmem
    rwa [cut_append hfront]
  · rwa [cut_of_not_mem hmem]

theorem mem_of_mem_cut {c d : Char} {text : List Char} (hmem : d ∈ (cut c text).1) : d ∈ text := by
  rw [← cut_print c text]
  exact List.mem_append_left _ hmem

theorem mem_of_mem_rest {c d : Char} {text rest : List Char} (hrest : (cut c text).2 = some rest) (hmem : d ∈ rest) :
    d ∈ text := by
  rw [← cut_print c text, hrest]
  exact List.mem_append_right _ (List.mem_cons_of_mem _ hmem)

/-- What stands in front of the query, the query and the fragment of a URL. -/
@[ext]
structure Parts where
  front : List Char
  query : Option (List Char)
  fragment : Option (List Char)
  front_free : '?' ∉ front ∧ '#' ∉ front
  query_free : ∀ text, query = some text → '#' ∉ text

namespace Parts

def print (self : Parts) : List Char :=
  self.front ++ (self.query.elim [] ('?' :: ·) ++ self.fragment.elim [] ('#' :: ·))

def with_query (self : Parts) (query : List Char) (hfree : '#' ∉ query) : Parts :=
  { self with query := some query, query_free := fun _ heq => Option.some.inj heq ▸ hfree }

end Parts

def parts (url : List Char) : Parts where
  front := (cut '?' (cut '#' url).1).1
  query := (cut '?' (cut '#' url).1).2
  fragment := (cut '#' url).2
  front_free := ⟨not_mem_cut _ _, fun hmem => not_mem_cut '#' url (mem_of_mem_cut hmem)⟩
  query_free := fun _ hquery hmem => not_mem_cut '#' url (mem_of_mem_rest hquery hmem)

theorem print_parts (url : List Char) : (parts url).print = url := by
  have hrest := cut_print '?' (cut '#' url).1
  have hurl := cut_print '#' url
  rw [← hrest, List.append_assoc] at hurl
  exact hurl

theorem parts_print (self : Parts) : parts self.print = self := by
  obtain ⟨front, query, fragment, ⟨hmark, hhash⟩, hquery⟩ := self
  have hrest : '#' ∉ front ++ query.elim [] ('?' :: ·) := by
    cases query with
    | none => simpa using hhash
    | some text => simpa using ⟨hhash, hquery text rfl⟩
  have hcut : cut '#' (Parts.print ⟨front, query, fragment, ⟨hmark, hhash⟩, hquery⟩) =
      (front ++ query.elim [] ('?' :: ·), fragment) := by
    unfold Parts.print
    rw [← List.append_assoc]
    cases fragment with
    | none =>
      dsimp only [Option.elim_none]
      rw [List.append_nil, cut_of_not_mem hrest]
    | some fragment => exact cut_append hrest fragment
  have hfront : cut '?' (front ++ query.elim [] ('?' :: ·)) = (front, query) := by
    cases query with
    | none =>
      dsimp only [Option.elim_none]
      rw [List.append_nil, cut_of_not_mem hmark]
    | some text => exact cut_append hmark text
  ext1
  · simp only [parts, hcut, hfront]
  · simp only [parts, hcut, hfront]
  · simp only [parts, hcut]

end parts

end url_syntax
