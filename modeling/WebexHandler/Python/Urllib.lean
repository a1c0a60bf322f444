import Mathlib
import WebexHandler.Dict
import WebexHandler.FormUrlencoded
import WebexHandler.UrlSyntax

open dict form_urlencoded person_id url_syntax

namespace webex.python.urllib

/-- The tables of `urllib.parse`, its test of a network location, and `repr` of a string. -/
structure Urllib where
  uses_netloc : List Char → Bool
  uses_params : List Char → Bool
  netloc_accepted : List Char → Bool
  repr : String → String

structure SplitResult where
  scheme : List Char
  netloc : List Char
  path : List Char
  query : List Char
  fragment : List Char

structure ParseResult extends SplitResult where
  params : List Char

/-- What `urlsplit` removes wherever it stands. -/
def is_removed (c : Char) : Bool := c == '\t' || c == '\r' || c == '\n'

def is_control_or_space (c : Char) : Bool := c.toNat ≤ 32

def split_scheme (url : List Char) : List Char × List Char :=
  match cut ':' url with
  | (front, some rest) => if is_scheme front then (front.map Char.toLower, rest) else ([], url)
  | (_, none) => ([], url)

def in_netloc (c : Char) : Bool := !(c == '/' || c == '?' || c == '#')

def split_netloc : List Char → List Char × List Char
  | '/' :: '/' :: url => (url.takeWhile in_netloc, url.dropWhile in_netloc)
  | url => ([], url)

/-- The components of a URL in front of which no character is removed. -/
def split_clean (url : List Char) : SplitResult :=
  let (scheme, rest) := split_scheme url
  let (netloc, rest) := split_netloc rest
  let parts := url_syntax.parts rest
  ⟨scheme, netloc, parts.front, parts.query.getD [], parts.fragment.getD []⟩

/-- The path without its parameters, which its last segment has behind a semicolon, and
    the parameters. -/
def split_params (path : List Char) : List Char × List Char :=
  let (front, params) := cut ';' (path.rtakeWhile (· != '/'))
  (path.rdropWhile (· != '/') ++ front, params.getD [])

namespace Urllib

variable (urllib : Urllib)

/-- `urlsplit`, with nothing where it raises a `ValueError`. -/
def urlsplit (url : List Char) : Option SplitResult :=
  let split := split_clean ((url.dropWhile is_control_or_space).filter (!is_removed ·))
  if urllib.netloc_accepted split.netloc then some split else none

def urlparse (url : List Char) : Option ParseResult :=
  (urllib.urlsplit url).map fun split =>
    if urllib.uses_params split.scheme && split.path.contains ';' then
      let (path, params) := split_params split.path
      { split with path := path, params := params }
    else { split with params := [] }

def urlunsplit (split : SplitResult) : List Char :=
  let url :=
    if split.netloc ≠ [] then
      '/' :: '/' :: split.netloc ++
        (if split.path ≠ [] ∧ split.path.head? ≠ some '/' then '/' :: split.path else split.path)
    else if ['/', '/'].isPrefixOf split.path then '/' :: '/' :: split.path
    else if split.scheme ≠ [] ∧ urllib.uses_netloc split.scheme ∧ (split.path = [] ∨ split.path.head? = some '/') then
      '/' :: '/' :: split.path
    else split.path
  let url := if split.scheme ≠ [] then split.scheme ++ ':' :: url else url
  let url := if split.query ≠ [] then url ++ '?' :: split.query else url
  if split.fragment ≠ [] then url ++ '#' :: split.fragment else url

def urlunparse (parsed : ParseResult) : List Char :=
  urllib.urlunsplit { parsed.toSplitResult with
    path := if parsed.params ≠ [] then parsed.path ++ ';' :: parsed.params else parsed.path }

end Urllib

/-- The characters that `quote_plus` leaves as they are. -/
def quote_plus_keeps (b : UInt8) : Bool :=
  (48 ≤ b.toNat && b.toNat ≤ 57) || (65 ≤ b.toNat && b.toNat ≤ 90) || (97 ≤ b.toNat && b.toNat ≤ 122) ||
    b == 95 || b == 46 || b == 45 || b == 126

theorem quote_plus_plain (b : UInt8) (hkeeps : quote_plus_keeps b = true) :
    query_byte b = true ∧ b ≠ ampersand ∧ b ≠ equals ∧ b ≠ percent ∧ b ≠ plus := by
  simp only [quote_plus_keeps, Bool.or_eq_true, Bool.and_eq_true, decide_eq_true_eq, beq_iff_eq, ← UInt8.toNat_inj,
    UInt8.reduceToNat] at hkeeps
  simp only [query_byte, ampersand, equals, percent, plus, Bool.and_eq_true, decide_eq_true_eq, bne_iff_ne, ne_eq,
    ← UInt8.toNat_inj, UInt8.reduceToNat]
  omega

def quote_plus : Charset := ⟨quote_plus_keeps, quote_plus_plain⟩

/-- A text as the bytes that the codec works on. -/
def query_bytes (query : List Char) : Bytes := utf8 (String.ofList query)

def parse_qsl (query : List Char) (keep_blank_values : Bool) : List (String × String) :=
  ((pieces (query_bytes query)).filter fun piece => keep_blank_values || !(value_of piece).isEmpty).map decode_pair

def parse_qs (query : List Char) : Dict String (List String) := Dict.group (parse_qsl query false)

/-- A value of the parameters: a string, or a list of strings. -/
inductive Param
  | text (s : String)
  | list (items : List String)

def Urllib.str (urllib : Urllib) : Param → String
  | .text s => s
  | .list items => "[" ++ ", ".intercalate (items.map urllib.repr) ++ "]"

/-- `urlencode` without `doseq`, which takes a list for its `str`. -/
def Urllib.urlencode (urllib : Urllib) (params : Dict String Param) : List Char :=
  (ascii_text (serialize quote_plus (params.map_values urllib.str).entries)).toList

section queries

theorem parse_qsl_eq (query : List Char) (keep_blank_values : Bool) :
    parse_qsl query keep_blank_values =
      (parse (query_bytes query)).filter fun pair => keep_blank_values || pair.2 != "" := by
  rw [parse_qsl, parse, List.filter_map]
  congr 2
  funext piece
  rw [Function.comp_apply]
  cases hvalue : (value_of piece).isEmpty with
  | true =>
    have hempty : (decode_pair piece).2 = "" := value_eq_empty.mpr (List.isEmpty_iff.mp hvalue)
    simp [hempty]
  | false =>
    have hne : (decode_pair piece).2 ≠ "" := fun h => by
      rw [value_eq_empty.mp h] at hvalue
      exact absurd hvalue (by simp)
    simp [hne]

theorem query_bytes_urlencode (urllib : Urllib) (params : Dict String Param) :
    query_bytes (urllib.urlencode params) = serialize quote_plus (params.map_values urllib.str).entries := by
  rw [query_bytes, Urllib.urlencode, String.ofList_toList, utf8_ascii_text]
  exact (visible_of_query_bytes (serialize_query_bytes quote_plus _)).1

/-- What is encoded is read again. -/
theorem parse_qsl_urlencode (urllib : Urllib) (params : Dict String Param) :
    parse_qsl (urllib.urlencode params) true = (params.map_values urllib.str).entries := by
  rw [parse_qsl_eq, query_bytes_urlencode, parse_serialize]
  exact List.filter_eq_self.mpr fun _ _ => rfl

/-- The characters of an encoded query. -/
theorem urlencode_chars {urllib : Urllib} {params : Dict String Param} :
    ∀ c ∈ urllib.urlencode params, 32 < c.toNat ∧ c ≠ '#' :=
  (visible_of_query_bytes (serialize_query_bytes quote_plus _)).2

end queries

section schemes

def scheme_char (c : Char) : Bool := c.isAlphanum || c == '+' || c == '-' || c == '.'

theorem scheme_char_lt {c : Char} (hc : scheme_char c = true) : c.toNat < 128 := by
  simp only [scheme_char, Char.isAlphanum, Char.isAlpha, Char.isUpper, Char.isLower, Char.isDigit, Bool.or_eq_true,
    Bool.and_eq_true, decide_eq_true_eq, beq_iff_eq, ge_iff_le, UInt32.le_iff_toNat_le] at hc
  have hnat : c.toNat = c.val.toNat := rfl
  obtain (((((⟨-, h⟩ | ⟨-, h⟩) | ⟨-, h⟩) | rfl) | rfl) | rfl) := hc
  · exact lt_of_le_of_lt h (by decide)
  · exact lt_of_le_of_lt h (by decide)
  · exact lt_of_le_of_lt h (by decide)
  all_goals decide

/-- What holds of all ASCII characters holds of those of a scheme. -/
theorem scheme_char_induction {p : Char → Prop} (hall : ∀ n < 128, scheme_char (Char.ofNat n) = true → p (Char.ofNat n))
    {c : Char} (hc : scheme_char c = true) : p c := by
  have hp := hall c.toNat (scheme_char_lt hc)
  rw [Char.ofNat_toNat] at hp
  exact hp hc

theorem is_scheme_eq (text : List Char) :
    is_scheme text = (text.head?.any Char.isAlpha && text.all scheme_char) := by
  cases text with
  | nil => rfl
  | cons c rest =>
    have hc : c.isAlpha = true → scheme_char c = true := by
      intro halpha
      simp [scheme_char, Char.isAlphanum, halpha]
    simp only [is_scheme, List.head?_cons, Option.any_some, List.all_cons]
    cases halpha : c.isAlpha with
    | true =>
      simp only [hc halpha, Bool.true_and]
      rfl
    | false => rfl

theorem is_scheme_lower {text : List Char} (hscheme : is_scheme text = true) :
    is_scheme (text.map Char.toLower) = true ∧ (text.map Char.toLower).map Char.toLower = text.map Char.toLower := by
  rw [is_scheme_eq, Bool.and_eq_true, List.all_eq_true] at hscheme
  obtain ⟨hhead, hall⟩ := hscheme
  constructor
  · rw [is_scheme_eq, Bool.and_eq_true, List.all_eq_true]
    constructor
    · cases text with
      | nil => exact absurd hhead nofun
      | cons c rest =>
        have halpha : ∀ n < 128, scheme_char (Char.ofNat n) = true →
            ((Char.ofNat n).isAlpha = true → (Char.ofNat n).toLower.isAlpha = true) := by decide
        exact scheme_char_induction (p := fun c => c.isAlpha = true → c.toLower.isAlpha = true) halpha
          (hall c List.mem_cons_self) hhead
    · intro c hmem
      obtain ⟨d, hd, rfl⟩ := List.mem_map.mp hmem
      exact scheme_char_induction (p := fun d => scheme_char d.toLower = true) (by decide) (hall d hd)
  · rw [List.map_map]
    refine List.map_congr_left fun c hmem => ?_
    exact scheme_char_induction (p := fun d => d.toLower.toLower = d.toLower) (by decide) (hall c hmem)

theorem not_mem_scheme {c : Char} (hc : scheme_char c = false) {text : List Char} (hscheme : is_scheme text = true) :
    c ∉ text := by
  rw [is_scheme_eq, Bool.and_eq_true, List.all_eq_true] at hscheme
  intro hmem
  rw [hscheme.2 c hmem] at hc
  exact absurd hc nofun

/-- A URL has a scheme, or none of its colons ends one. -/
theorem split_scheme_cases (url : List Char) :
    (∃ front rest, is_scheme front = true ∧ url = front ++ ':' :: rest ∧ split_scheme url = (front.map Char.toLower, rest)) ∨
      (split_scheme url = ([], url) ∧ ∀ front rest, url = front ++ ':' :: rest → is_scheme front = false) := by
  by_cases hmem : ':' ∈ url
  · obtain ⟨front, rest, rfl, hfront⟩ := List.eq_append_cons_of_mem hmem
    have hsplit : split_scheme (front ++ ':' :: rest) =
        if is_scheme front then (front.map Char.toLower, rest) else ([], front ++ ':' :: rest) := by
      rw [split_scheme, cut_append hfront]
    by_cases hscheme : is_scheme front = true
    · exact .inl ⟨front, rest, hscheme, rfl, by rw [hsplit, if_pos hscheme]⟩
    · refine .inr ⟨by rw [hsplit, if_neg hscheme], ?_⟩
      intro other after heq
      by_contra hother
      rw [Bool.not_eq_false] at hother
      have hcolon : ':' ∉ other := not_mem_scheme (by decide) hother
      have hcut := cut_append hcolon after
      rw [← heq, cut_append hfront] at hcut
      obtain ⟨rfl, -⟩ := Prod.mk.inj hcut
      exact hscheme hother
  · refine .inr ⟨by rw [split_scheme, cut_of_not_mem hmem], ?_⟩
    rintro front rest rfl
    exact absurd (List.mem_append_right _ List.mem_cons_self) hmem

end schemes

section urls

variable {url : List Char}

/-- What the components of a URL satisfy, so that the URL they are put together to is
    taken apart the same. -/
structure WellFormed (split : SplitResult) : Prop where
  scheme : split.scheme = [] ∨ (is_scheme split.scheme = true ∧ split.scheme.map Char.toLower = split.scheme)
  netloc : ∀ c ∈ split.netloc, in_netloc c = true
  path_free : '?' ∉ split.path ∧ '#' ∉ split.path
  path_behind : split.netloc ≠ [] → split.path = [] ∨ split.path.head? = some '/'
  no_scheme : split.scheme = [] → split.netloc = [] → ∀ front rest, split.path = front ++ ':' :: rest → is_scheme front = false
  head : split.scheme = [] → split.netloc = [] → ∀ c, split.path.head? = some c → is_control_or_space c = false
  safe : ∀ c ∈ split.netloc ++ split.path ++ split.fragment, is_removed c = false

/-- A network location stands behind two slashes, and ends where no character of one
    follows. -/
theorem split_netloc_cases (url : List Char) :
    (∃ netloc rest, url = '/' :: '/' :: (netloc ++ rest) ∧ (∀ c ∈ netloc, in_netloc c = true) ∧
      (∀ c, rest.head? = some c → in_netloc c = false) ∧ split_netloc url = (netloc, rest)) ∨
    (split_netloc url = ([], url) ∧ ['/', '/'].isPrefixOf url = false) := by
  by_cases hslashes : ['/', '/'].isPrefixOf url = true
  · obtain ⟨text, rfl⟩ := List.isPrefixOf_iff_prefix.mp hslashes
    refine .inl ⟨text.takeWhile in_netloc, text.dropWhile in_netloc, by rw [List.takeWhile_append_dropWhile]; rfl,
      fun c hmem => List.mem_takeWhile_imp hmem, ?_, rfl⟩
    intro c hhead
    have hnot := List.head?_dropWhile_not in_netloc text
    rw [hhead] at hnot
    simpa using hnot
  · rw [Bool.not_eq_true] at hslashes
    refine .inr ⟨?_, hslashes⟩
    unfold split_netloc
    split
    · exact absurd hslashes nofun
    · rfl

/-- In front of the query and the fragment is a path that begins where the text does. -/
theorem front_head {text : List Char} (hhead : ∀ c, text.head? = some c → in_netloc c = false) :
    (parts text).front = [] ∨ (parts text).front.head? = some '/' := by
  have hprint := print_parts text
  obtain ⟨hmark, hhash⟩ := (parts text).front_free
  cases hfront : (parts text).front with
  | nil => exact .inl rfl
  | cons c rest =>
    rw [Parts.print, hfront] at hprint
    rw [hfront] at hmark hhash
    have hc := hhead c (by rw [← hprint]; rfl)
    right
    simp only [in_netloc, Bool.not_eq_false', Bool.or_eq_true, beq_iff_eq] at hc
    obtain (rfl | rfl) | rfl := hc
    · rfl
    · exact absurd List.mem_cons_self hmark
    · exact absurd List.mem_cons_self hhash

theorem mem_of_mem_front {text : List Char} {c : Char} (hmem : c ∈ (parts text).front) : c ∈ text := by
  rw [← print_parts text]
  exact List.mem_append_left _ hmem

theorem mem_of_mem_fragment {text : List Char} {c : Char} (hmem : c ∈ (parts text).fragment.getD []) : c ∈ text := by
  rw [← print_parts text, Parts.print]
  cases hfragment : (parts text).fragment with
  | none =>
    rw [hfragment] at hmem
    exact absurd hmem nofun
  | some fragment =>
    rw [hfragment] at hmem
    exact List.mem_append_right _ (List.mem_append_right _ (List.mem_cons_of_mem _ hmem))

/-- What `split_clean` leaves for the path, the query and the fragment, behind a scheme
    and a network location. -/
theorem split_clean_well_formed (hsafe : ∀ c ∈ url, is_removed c = false)
    (hhead : ∀ c, url.head? = some c → is_control_or_space c = false) : WellFormed (split_clean url) := by
  obtain ⟨scheme, rest, hscheme, hrest, hplain⟩ : ∃ scheme rest, split_scheme url = (scheme, rest) ∧
      (∀ c ∈ rest, c ∈ url) ∧
      ((is_scheme scheme = true ∧ scheme.map Char.toLower = scheme) ∨
        (scheme = [] ∧ rest = url ∧ ∀ front back, url = front ++ ':' :: back → is_scheme front = false)) := by
    obtain ⟨front, rest, hfront, rfl, hsplit⟩ | ⟨hsplit, hnone⟩ := split_scheme_cases url
    · refine ⟨_, rest, hsplit, ?_, .inl (is_scheme_lower hfront)⟩
      intro c hmem
      exact List.mem_append_right _ (List.mem_cons_of_mem _ hmem)
    · exact ⟨[], url, hsplit, fun _ hmem => hmem, .inr ⟨rfl, rfl, hnone⟩⟩
  obtain ⟨netloc, back, hnetloc, hchars, hback, hlocation⟩ : ∃ netloc back, split_netloc rest = (netloc, back) ∧
      (∀ c ∈ netloc, in_netloc c = true ∧ c ∈ rest) ∧ (∀ c ∈ back, c ∈ rest) ∧
      ((∀ c, back.head? = some c → in_netloc c = false) ∨ (netloc = [] ∧ back = rest)) := by
    obtain ⟨netloc, back, rfl, hchars, hends, hsplit⟩ | ⟨hsplit, -⟩ := split_netloc_cases rest
    · refine ⟨netloc, back, hsplit, fun c hmem => ⟨hchars c hmem, ?_⟩, fun c hmem => ?_, .inl hends⟩
      · simp [hmem]
      · simp [hmem]
    · exact ⟨[], rest, hsplit, nofun, fun _ hmem => hmem, .inr ⟨rfl, rfl⟩⟩
  have hsplit : split_clean url =
      ⟨scheme, netloc, (parts back).front, (parts back).query.getD [], (parts back).fragment.getD []⟩ := by
    simp only [split_clean, hscheme, hnetloc]
  rw [hsplit]
  refine ⟨?_, ?_, ?_, ?_, ?_, ?_, ?_⟩
  · obtain h | ⟨h, -⟩ := hplain
    · exact .inr h
    · exact .inl h
  · exact fun c hmem => (hchars c hmem).1
  · exact (parts back).front_free
  · intro hne
    obtain hends | ⟨rfl, -⟩ := hlocation
    · exact front_head hends
    · exact absurd rfl hne
  · rintro rfl - front after hpath
    dsimp only at hpath
    obtain ⟨h, -⟩ | ⟨-, rfl, hnone⟩ := hplain
    · exact absurd h nofun
    obtain hends | ⟨-, rfl⟩ := hlocation
    · obtain hempty | hslash := front_head hends
      · simp [hempty] at hpath
      · rw [hpath] at hslash
        cases front with
        | nil => rfl
        | cons c front =>
          rw [List.cons_append, List.head?_cons, Option.some.injEq] at hslash
          rw [hslash]
          rfl
    · have hprint := print_parts back
      rw [Parts.print, hpath, List.append_assoc] at hprint
      exact hnone front _ hprint.symm
  · rintro rfl - c hc
    dsimp only at hc
    obtain ⟨h, -⟩ | ⟨-, rfl, -⟩ := hplain
    · exact absurd h nofun
    obtain hends | ⟨-, rfl⟩ := hlocation
    · obtain hempty | hslash := front_head hends
      · simp [hempty] at hc
      · rw [hslash, Option.some.injEq] at hc
        rw [← hc]
        rfl
    · refine hhead c ?_
      rw [← print_parts back, Parts.print, List.head?_append, hc]
      rfl
  · intro c hmem
    rw [List.mem_append, List.mem_append] at hmem
    obtain (hmem | hmem) | hmem := hmem
    · exact hsafe c (hrest c (hchars c hmem).2)
    · exact hsafe c (hrest c (hback c (mem_of_mem_front hmem)))
    · exact hsafe c (hrest c (hback c (mem_of_mem_fragment hmem)))

/-- What follows the path of a URL that is put together. -/
def tail (split : SplitResult) : List Char :=
  (if split.query ≠ [] then '?' :: split.query else []) ++ (if split.fragment ≠ [] then '#' :: split.fragment else [])

/-- What stands between the scheme and the path. -/
def slashes (urllib : Urllib) (split : SplitResult) : List Char :=
  if split.netloc ≠ [] then '/' :: '/' :: split.netloc
  else if ['/', '/'].isPrefixOf split.path then ['/', '/']
  else if split.scheme ≠ [] ∧ urllib.uses_netloc split.scheme ∧ (split.path = [] ∨ split.path.head? = some '/') then ['/', '/']
  else []

variable {urllib : Urllib} {split : SplitResult}

theorem urlunsplit_eq (hwf : WellFormed split) : urllib.urlunsplit split =
    (if split.scheme ≠ [] then split.scheme ++ [':'] else []) ++ (slashes urllib split ++ (split.path ++ tail split)) := by
  have htail : ∀ text : List Char, (if split.fragment ≠ [] then
      (if split.query ≠ [] then text ++ '?' :: split.query else text) ++ '#' :: split.fragment
      else if split.query ≠ [] then text ++ '?' :: split.query else text) = text ++ tail split := by
    intro text
    unfold tail
    by_cases hquery : split.query = [] <;> by_cases hfragment : split.fragment = [] <;> simp [hquery, hfragment]
  have hfront : (if split.netloc ≠ [] then
      '/' :: '/' :: split.netloc ++
        (if split.path ≠ [] ∧ split.path.head? ≠ some '/' then '/' :: split.path else split.path)
      else if ['/', '/'].isPrefixOf split.path then '/' :: '/' :: split.path
      else if split.scheme ≠ [] ∧ urllib.uses_netloc split.scheme ∧ (split.path = [] ∨ split.path.head? = some '/') then
        '/' :: '/' :: split.path
      else split.path) = slashes urllib split ++ split.path := by
    unfold slashes
    by_cases hnetloc : split.netloc ≠ []
    · have hpath : ¬ (split.path ≠ [] ∧ split.path.head? ≠ some '/') := by
        rintro ⟨hpath, hhead⟩
        exact (hwf.path_behind hnetloc).elim hpath hhead
      rw [if_pos hnetloc, if_pos hnetloc, if_neg hpath]
    · rw [if_neg hnetloc, if_neg hnetloc]
      split
      · rfl
      split <;> rfl
  unfold Urllib.urlunsplit
  simp only
  rw [hfront, htail]
  by_cases hscheme : split.scheme = [] <;> simp [hscheme]

theorem tail_head {c : Char} (hhead : (tail split).head? = some c) : c = '?' ∨ c = '#' := by
  unfold tail at hhead
  split at hhead
  · exact .inl (Option.some.inj hhead).symm
  split at hhead
  · exact .inr (Option.some.inj hhead).symm
  · exact absurd hhead nofun

/-- The path, the query and the fragment are read as they were written. -/
theorem parts_path_tail (hwf : WellFormed split) (hquery : '#' ∉ split.query) :
    (parts (split.path ++ tail split)).front = split.path ∧
      (parts (split.path ++ tail split)).query.getD [] = split.query ∧
      (parts (split.path ++ tail split)).fragment.getD [] = split.fragment := by
  have hfree : ∀ text, (if split.query ≠ [] then some split.query else none) = some text → '#' ∉ text := by
    intro text htext
    rw [Option.ite_none_right_eq_some] at htext
    obtain ⟨-, heq⟩ := htext
    exact Option.some.inj heq ▸ hquery
  let written : Parts := ⟨split.path, if split.query ≠ [] then some split.query else none,
    if split.fragment ≠ [] then some split.fragment else none, hwf.path_free, hfree⟩
  have hprint : split.path ++ tail split = written.print := by
    simp only [written, Parts.print, tail]
    congr 2
    · split <;> rfl
    · split <;> rfl
  rw [hprint, parts_print]
  refine ⟨rfl, ?_, ?_⟩
  · by_cases h : split.query = [] <;> simp [written, h]
  · by_cases h : split.fragment = [] <;> simp [written, h]

theorem not_in_netloc_tail {c : Char} (hhead : (tail split).head? = some c) : in_netloc c = false := by
  obtain rfl | rfl := tail_head hhead <;> rfl

/-- A network location ends where a path that it may stand in front of begins. -/
theorem split_netloc_append {netloc path : List Char} (hnetloc : ∀ c ∈ netloc, in_netloc c = true)
    (hpath : path = [] ∨ path.head? = some '/') :
    split_netloc ('/' :: '/' :: netloc ++ (path ++ tail split)) = (netloc, path ++ tail split) := by
  have hends : ∀ c, (path ++ tail split).head? = some c → in_netloc c = false := by
    intro c hhead
    obtain rfl | hslash := hpath
    · exact not_in_netloc_tail hhead
    · rw [List.head?_append, hslash, Option.some_or, Option.some.injEq] at hhead
      rw [← hhead]
      rfl
  have hsplit : split_netloc ('/' :: '/' :: netloc ++ (path ++ tail split)) =
      ((netloc ++ (path ++ tail split)).takeWhile in_netloc, (netloc ++ (path ++ tail split)).dropWhile in_netloc) := rfl
  rw [hsplit, List.takeWhile_append_of_pos hnetloc, List.dropWhile_append_of_pos hnetloc]
  cases hrest : path ++ tail split with
  | nil => simp
  | cons c rest =>
    have hc : in_netloc c = false := hends c (by rw [hrest]; rfl)
    simp [hc]

theorem split_netloc_path (hslashes : ['/', '/'].isPrefixOf split.path = false) :
    split_netloc (split.path ++ tail split) = ([], split.path ++ tail split) := by
  obtain ⟨netloc, rest, hurl, -⟩ | ⟨hsplit, -⟩ := split_netloc_cases (split.path ++ tail split)
  · have hnot : ∀ text, tail split ≠ '/' :: text := by
      intro text htail
      obtain h | h := tail_head (by rw [htail]; rfl) <;> exact absurd h (by decide)
    cases hpath : split.path with
    | nil =>
      rw [hpath] at hurl
      exact absurd hurl (hnot _)
    | cons c path =>
      rw [hpath, List.cons_append, List.cons.injEq] at hurl
      obtain ⟨rfl, hurl⟩ := hurl
      cases path with
      | nil => exact absurd hurl (hnot _)
      | cons d path =>
        rw [List.cons_append, List.cons.injEq] at hurl
        obtain ⟨rfl, -⟩ := hurl
        rw [hpath] at hslashes
        exact absurd hslashes nofun
  · exact hsplit

theorem split_netloc_slashes (hwf : WellFormed split) :
    split_netloc (slashes urllib split ++ (split.path ++ tail split)) = (split.netloc, split.path ++ tail split) := by
  unfold slashes
  by_cases hnetloc : split.netloc = []
  · rw [if_neg (not_not.mpr hnetloc), hnetloc]
    split
    · rename_i hslashes
      obtain ⟨rest, hrest⟩ := List.isPrefixOf_iff_prefix.mp hslashes
      have hhead : split.path.head? = some '/' := by rw [← hrest]; rfl
      exact split_netloc_append (List.forall_mem_nil _) (.inr hhead)
    rename_i hslashes
    split
    · rename_i hscheme
      exact split_netloc_append (List.forall_mem_nil _) hscheme.2.2
    · exact split_netloc_path (Bool.eq_false_iff.mpr hslashes)
  · rw [if_pos hnetloc]
    exact split_netloc_append hwf.netloc (hwf.path_behind hnetloc)

theorem is_scheme_slash (text : List Char) : is_scheme ('/' :: text) = false := rfl

/-- Without slashes there is no network location either. -/
theorem slashes_cases (urllib : Urllib) (split : SplitResult) :
    (slashes urllib split = [] ∧ split.netloc = []) ∨ (slashes urllib split).head? = some '/' := by
  unfold slashes
  split
  · exact .inr rfl
  rename_i hnetloc
  split
  · exact .inr rfl
  split
  · exact .inr rfl
  · exact .inl ⟨rfl, not_not.mp hnetloc⟩

/-- No scheme is read where none was written. -/
theorem no_scheme_urlunsplit (hwf : WellFormed split) (hscheme : split.scheme = []) {front rest : List Char}
    (hurl : slashes urllib split ++ (split.path ++ tail split) = front ++ ':' :: rest) : is_scheme front = false := by
  obtain ⟨hnone, hnetloc⟩ | hslash := slashes_cases urllib split
  · rw [hnone, List.nil_append] at hurl
    obtain ⟨mid, hpath, hrest⟩ | ⟨mid, hfront, htail⟩ := List.append_eq_append_iff.mp hurl
    · cases mid with
      | nil => exact absurd (tail_head (by rw [hrest]; rfl)) (by decide)
      | cons c mid =>
        by_contra hfront
        rw [Bool.not_eq_false] at hfront
        have hmem : c ∈ front := by simp [hpath]
        obtain rfl | rfl := tail_head (c := c) (by rw [hrest]; rfl)
        · exact not_mem_scheme (by decide) hfront hmem
        · exact not_mem_scheme (by decide) hfront hmem
    · cases mid with
      | nil =>
        have hcolon : (tail split).head? = some ':' := by
          rw [← List.nil_append (tail split), ← htail]
          rfl
        exact absurd (tail_head hcolon) (by decide)
      | cons c mid =>
        rw [List.cons_append, List.cons.injEq] at htail
        obtain ⟨rfl, -⟩ := htail
        exact hwf.no_scheme hscheme hnetloc front mid hfront
  · cases front with
    | nil => rfl
    | cons c front =>
      have hc := congrArg List.head? hurl
      rw [List.head?_append, hslash, Option.some_or, List.cons_append, List.head?_cons, Option.some.injEq] at hc
      rw [← hc]
      exact is_scheme_slash front

theorem split_scheme_urlunsplit (hwf : WellFormed split) :
    split_scheme (urllib.urlunsplit split) = (split.scheme, slashes urllib split ++ (split.path ++ tail split)) := by
  rw [urlunsplit_eq hwf]
  obtain hscheme | ⟨hscheme, hlower⟩ := hwf.scheme
  · rw [hscheme, if_neg (not_not.mpr rfl), List.nil_append]
    obtain ⟨front, rest, hfront, hurl, -⟩ | ⟨hsplit, -⟩ := split_scheme_cases (slashes urllib split ++ (split.path ++ tail split))
    · rw [no_scheme_urlunsplit hwf hscheme hurl] at hfront
      exact absurd hfront nofun
    · exact hsplit
  · have hne : split.scheme ≠ [] := by
      rintro h
      rw [h] at hscheme
      exact absurd hscheme nofun
    have hcolon : ':' ∉ split.scheme := not_mem_scheme (by decide) hscheme
    rw [if_pos hne, List.append_assoc, List.singleton_append, split_scheme, cut_append hcolon]
    dsimp only
    rw [if_pos hscheme, hlower]

theorem split_clean_urlunsplit (hwf : WellFormed split) (hquery : '#' ∉ split.query) :
    split_clean (urllib.urlunsplit split) = split := by
  obtain ⟨hpath, hread, hfragment⟩ := parts_path_tail hwf hquery
  simp only [split_clean, split_scheme_urlunsplit hwf, split_netloc_slashes hwf, hpath, hread, hfragment]

theorem mem_slashes {c : Char} (hmem : c ∈ slashes urllib split) : c = '/' ∨ c ∈ split.netloc := by
  unfold slashes at hmem
  split at hmem
  · simp only [List.mem_cons] at hmem
    exact (or_assoc.mpr hmem).imp (fun h => h.elim id id) id
  split at hmem
  · exact .inl (by simpa using hmem)
  split at hmem
  · exact .inl (by simpa using hmem)
  · exact absurd hmem nofun

theorem mem_tail {c : Char} (hmem : c ∈ tail split) : c = '?' ∨ c = '#' ∨ c ∈ split.query ∨ c ∈ split.fragment := by
  unfold tail at hmem
  rw [List.mem_append] at hmem
  obtain hmem | hmem := hmem
  · split at hmem
    · obtain h | h := List.mem_cons.mp hmem
      · exact .inl h
      · exact .inr (.inr (.inl h))
    · exact absurd hmem nofun
  · split at hmem
    · obtain h | h := List.mem_cons.mp hmem
      · exact .inr (.inl h)
      · exact .inr (.inr (.inr h))
    · exact absurd hmem nofun

/-- Nothing is removed from a URL that is put together. -/
theorem clean_urlunsplit (hwf : WellFormed split) (hvisible : ∀ c ∈ split.query, 32 < c.toNat) :
    ((urllib.urlunsplit split).dropWhile is_control_or_space).filter (!is_removed ·) = urllib.urlunsplit split := by
  have hhead : ∀ c, (urllib.urlunsplit split).head? = some c → is_control_or_space c = false := by
    intro c hc
    rw [urlunsplit_eq hwf] at hc
    by_cases hscheme : split.scheme = []
    · rw [if_neg (not_not.mpr hscheme), List.nil_append] at hc
      obtain ⟨hnone, hnetloc⟩ | hslash := slashes_cases urllib split
      · rw [hnone, List.nil_append] at hc
        cases hpath : split.path with
        | nil =>
          rw [hpath] at hc
          obtain rfl | rfl := tail_head hc <;> rfl
        | cons d path =>
          rw [hpath, List.cons_append, List.head?_cons, Option.some.injEq] at hc
          exact hwf.head hscheme hnetloc c (by rw [hpath, hc]; rfl)
      · rw [List.head?_append, hslash, Option.some_or, Option.some.injEq] at hc
        rw [← hc]
        rfl
    · have hvalid := (hwf.scheme.resolve_left hscheme).1
      cases hname : split.scheme with
      | nil => exact absurd hname hscheme
      | cons d rest =>
        rw [hname, if_pos (List.cons_ne_nil d rest), List.cons_append, List.cons_append, List.head?_cons,
          Option.some.injEq] at hc
        have hd : scheme_char c = true := by
          by_contra hnot
          exact not_mem_scheme (Bool.eq_false_iff.mpr hnot) hvalid (by rw [hname, hc]; exact List.mem_cons_self)
        exact scheme_char_induction (p := fun c => is_control_or_space c = false) (by decide) hd
  have hchars : ∀ c ∈ urllib.urlunsplit split, is_removed c = false := by
    intro c hc
    rw [urlunsplit_eq hwf, List.mem_append, List.mem_append, List.mem_append] at hc
    have hsafe : c ∈ split.netloc ∨ c ∈ split.path ∨ c ∈ split.fragment → is_removed c = false := by
      intro hmem
      exact hwf.safe c (by simpa [or_assoc] using hmem)
    obtain hc | hc | hc | hc := hc
    · split at hc
      · rename_i hscheme
        obtain hc | hc := List.mem_append.mp hc
        · have hd : scheme_char c = true := by
            by_contra hnot
            exact not_mem_scheme (Bool.eq_false_iff.mpr hnot) (hwf.scheme.resolve_left hscheme).1 hc
          exact scheme_char_induction (p := fun c => is_removed c = false) (by decide) hd
        · rw [List.mem_singleton.mp hc]
          rfl
      · exact absurd hc nofun
    · obtain rfl | hc := mem_slashes hc
      · rfl
      · exact hsafe (.inl hc)
    · exact hsafe (.inr (.inl hc))
    · obtain rfl | rfl | hc | hc := mem_tail hc
      · rfl
      · rfl
      · have hgt := hvisible c hc
        by_contra hremoved
        simp only [is_removed, Bool.not_eq_false, Bool.or_eq_true, beq_iff_eq] at hremoved
        obtain (rfl | rfl) | rfl := hremoved <;> exact absurd hgt (by decide)
      · exact hsafe (.inr (.inr hc))
  have hdrop : (urllib.urlunsplit split).dropWhile is_control_or_space = urllib.urlunsplit split := by
    cases hurl : urllib.urlunsplit split with
    | nil => rfl
    | cons c rest =>
      have hc := hhead c (by rw [hurl]; rfl)
      rw [List.dropWhile_cons, hc]
      rfl
  rw [hdrop, List.filter_eq_self]
  intro c hmem
  rw [hchars c hmem]
  rfl

theorem urlsplit_urlunsplit (hwf : WellFormed split) (haccepted : urllib.netloc_accepted split.netloc = true)
    (hvisible : ∀ c ∈ split.query, 32 < c.toNat ∧ c ≠ '#') :
    urllib.urlsplit (urllib.urlunsplit split) = some split := by
  have hquery : '#' ∉ split.query := fun hmem => (hvisible '#' hmem).2 rfl
  simp only [Urllib.urlsplit, clean_urlunsplit hwf fun c hmem => (hvisible c hmem).1, split_clean_urlunsplit hwf hquery,
    haccepted, if_true]

theorem control_of_removed {c : Char} (hremoved : is_removed c = true) : is_control_or_space c = true := by
  simp only [is_removed, Bool.or_eq_true, beq_iff_eq] at hremoved
  obtain (rfl | rfl) | rfl := hremoved <;> rfl

/-- What `urlsplit` returns is well formed, and its network location accepted. -/
theorem urlsplit_well_formed (hsplit : urllib.urlsplit url = some split) :
    WellFormed split ∧ urllib.netloc_accepted split.netloc = true := by
  simp only [Urllib.urlsplit, Option.ite_none_right_eq_some, Option.some.injEq] at hsplit
  obtain ⟨haccepted, rfl⟩ := hsplit
  refine ⟨split_clean_well_formed ?_ ?_, haccepted⟩
  · intro c hmem
    simpa using (List.mem_filter.mp hmem).2
  · intro c hc
    have hnot := List.head?_dropWhile_not is_control_or_space url
    cases hclean : url.dropWhile is_control_or_space with
    | nil =>
      rw [hclean] at hc
      exact absurd hc nofun
    | cons d rest =>
      rw [hclean, List.head?_cons] at hnot
      have hd : is_control_or_space d = false := by simpa using hnot
      have hsafe : is_removed d = false := by
        by_contra hremoved
        rw [control_of_removed (Bool.not_eq_false _ ▸ hremoved)] at hd
        exact absurd hd nofun
      rw [hclean, List.filter_cons_of_pos (by simp [hsafe]), List.head?_cons, Option.some.injEq] at hc
      rw [← hc]
      exact hd

end urls

section params

/-- What is dropped at the end of a text and what is put there may be different. -/
theorem rdropWhile_append {p : Char → Bool} (text : List Char) {last : List Char} (hlast : ∀ c ∈ last, p c = true) :
    (text.rdropWhile p ++ last).rdropWhile p = text.rdropWhile p ∧ (text.rdropWhile p ++ last).rtakeWhile p = last := by
  induction last using List.reverseRecOn with
  | nil =>
    rw [List.append_nil]
    refine ⟨List.rdropWhile_idempotent _ _, ?_⟩
    rw [List.rtakeWhile_eq_nil_iff]
    exact fun hne => List.rdropWhile_last_not _ _ hne
  | append_singleton last c ih =>
    obtain ⟨hdrop, htake⟩ := ih fun d hmem => hlast d (List.mem_append_left _ hmem)
    have hc : p c = true := hlast c (List.mem_append_right _ (List.mem_singleton_self c))
    rw [← List.append_assoc, List.rdropWhile_concat_pos _ _ _ hc, List.rtakeWhile_concat_pos _ _ _ hc, hdrop, htake]
    exact ⟨rfl, rfl⟩

/-- A path with its parameters. -/
def join_params (path params : List Char) : List Char := if params ≠ [] then path ++ ';' :: params else path

/-- The directory of a path, and the last segment in front of its first semicolon. -/
theorem split_params_cases (path : List Char) :
    (split_params path = (path, []) ∧ ';' ∉ path.rtakeWhile (· != '/')) ∨
      ∃ front params, split_params path = (path.rdropWhile (· != '/') ++ front, params) ∧ ';' ∉ front ∧
        path.rtakeWhile (· != '/') = front ++ ';' :: params := by
  unfold split_params
  by_cases hmem : ';' ∈ path.rtakeWhile (· != '/')
  · obtain ⟨front, params, heq, hfront⟩ := List.eq_append_cons_of_mem hmem
    exact .inr ⟨front, params, by rw [heq, cut_append hfront]; rfl, hfront, heq⟩
  · refine .inl ⟨?_, hmem⟩
    rw [cut_of_not_mem hmem]
    exact Prod.ext List.rdropWhile_append_rtakeWhile rfl

/-- A path with its parameters is the path they were taken from, or lacks the semicolon
    at its end. -/
theorem join_split_params (path : List Char) :
    join_params (split_params path).1 (split_params path).2 = path ∨
      (path = (split_params path).1 ++ [';'] ∧ (split_params path).2 = [] ∧ split_params (split_params path).1 = ((split_params path).1, [])) := by
  obtain ⟨hsplit, -⟩ | ⟨front, params, hsplit, hfront, hsegment⟩ := split_params_cases path
  · exact .inl (by rw [hsplit]; rfl)
  · have hpath : path = path.rdropWhile (· != '/') ++ (front ++ ';' :: params) := by
      rw [← hsegment, List.rdropWhile_append_rtakeWhile]
    rw [hsplit]
    by_cases hparams : params = []
    · right
      subst hparams
      have hall : ∀ c ∈ front, (c != '/') = true := by
        intro c hmem
        have hlast : c ∈ path.rtakeWhile (· != '/') := by
          rw [hsegment]
          exact List.mem_append_left _ hmem
        exact List.mem_rtakeWhile_imp (p := (· != '/')) hlast
      obtain ⟨hdrop, htake⟩ := rdropWhile_append path hall
      refine ⟨by rw [List.append_assoc]; exact hpath, rfl, ?_⟩
      rw [split_params, hdrop, htake, cut_of_not_mem hfront]
      rfl
    · left
      rw [join_params, if_pos hparams, List.append_assoc]
      exact hpath.symm

/-- A path that lacks a semicolon at its end serves as well. -/
theorem WellFormed.of_path {split : SplitResult} (hwf : WellFormed split) {path : List Char}
    (hpath : path = split.path ∨ split.path = path ++ [';']) (query : List Char) :
    WellFormed { split with path := path, query := query } := by
  obtain rfl | hpath := hpath
  · exact ⟨hwf.scheme, hwf.netloc, hwf.path_free, hwf.path_behind, hwf.no_scheme, hwf.head, hwf.safe⟩
  · have hmem : ∀ c ∈ path, c ∈ split.path := fun c hmem => by rw [hpath]; exact List.mem_append_left _ hmem
    have hhead : ∀ c, path.head? = some c → split.path.head? = some c := by
      intro c hc
      rw [hpath, List.head?_append, hc]
      rfl
    refine ⟨hwf.scheme, hwf.netloc, ⟨fun h => hwf.path_free.1 (hmem _ h), fun h => hwf.path_free.2 (hmem _ h)⟩, ?_, ?_,
      fun hscheme hnetloc c hc => hwf.head hscheme hnetloc c (hhead c hc), ?_⟩
    · intro hnetloc
      obtain h | h := hwf.path_behind hnetloc
      · simp [hpath] at h
      · cases path with
        | nil => exact .inl rfl
        | cons c path =>
          rw [hhead c rfl] at h
          exact .inr h
    · intro hscheme hnetloc front rest hfront
      refine hwf.no_scheme hscheme hnetloc front (rest ++ [';']) ?_
      dsimp only at hfront
      rw [hpath, hfront, List.append_assoc]
      rfl
    · intro c hc
      refine hwf.safe c ?_
      simp only [List.mem_append] at hc ⊢
      exact hc.imp (Or.imp id (hmem c)) id

/-- A URL with another query is taken apart to what it was put together from. -/
theorem urlparse_urlunparse {urllib : Urllib} {url : List Char} {parsed : ParseResult}
    (hparsed : urllib.urlparse url = some parsed) {query : List Char}
    (hvisible : ∀ c ∈ query, 32 < c.toNat ∧ c ≠ '#') :
    urllib.urlparse (urllib.urlunparse { parsed with query := query }) = some { parsed with query := query } := by
  obtain ⟨split, hsplit, rfl⟩ := Option.map_eq_some_iff.mp hparsed
  obtain ⟨hwf, haccepted⟩ := urlsplit_well_formed hsplit
  have hread : ∀ path, path = split.path ∨ split.path = path ++ [';'] →
      urllib.urlsplit (urllib.urlunsplit { split with path := path, query := query }) =
        some { split with path := path, query := query } := by
    intro path hpath
    exact urlsplit_urlunsplit (hwf.of_path hpath query) haccepted hvisible
  by_cases hparams : (urllib.uses_params split.scheme && split.path.contains ';') = true
  · simp only [hparams, if_true]
    obtain hjoin | ⟨hpath, hnone, hagain⟩ := join_split_params split.path
    · have hunparse : urllib.urlunparse ⟨⟨split.scheme, split.netloc, (split_params split.path).1, query, split.fragment⟩,
          (split_params split.path).2⟩ = urllib.urlunsplit { split with path := split.path, query := query } :=
        congrArg (fun path => urllib.urlunsplit { split with path := path, query := query }) hjoin
      rw [hunparse, Urllib.urlparse, hread split.path (.inl rfl), Option.map_some, if_pos hparams]
    · have hunparse : urllib.urlunparse ⟨⟨split.scheme, split.netloc, (split_params split.path).1, query, split.fragment⟩,
          (split_params split.path).2⟩ =
            urllib.urlunsplit { split with path := (split_params split.path).1, query := query } := by
        rw [hnone]
        rfl
      rw [hunparse, Urllib.urlparse, hread _ (.inr hpath), Option.map_some, hagain, hnone]
      split <;> rfl
  · simp only [hparams, if_false, Bool.false_eq_true]
    have hunparse : urllib.urlunparse ⟨⟨split.scheme, split.netloc, split.path, query, split.fragment⟩, []⟩ =
        urllib.urlunsplit { split with path := split.path, query := query } := rfl
    rw [hunparse, Urllib.urlparse, hread split.path (.inl rfl), Option.map_some, if_neg hparams]

end params

end webex.python.urllib
