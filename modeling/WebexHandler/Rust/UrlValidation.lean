import Mathlib.Data.List.DropRight
import WebexHandler.DomainNames
import WebexHandler.Rust.Types

open domain_name

namespace webex.rust.url_validation

def ALLOWED_DOMAIN_SUFFIXES : List String := [".webex.com", ".wbx2.com", ".ciscospark.com"]

/-- The text before and after the first `://`. -/
def split_scheme : List Char → Option (List Char × List Char)
  | [] => none
  | c :: rest =>
    if ['/', '/'] <+: rest ∧ c = ':' then some ([], rest.drop 2)
    else (split_scheme rest).map fun (scheme, after) => (c :: scheme, after)

def host_of (after_scheme : List Char) : List Char :=
  (to_lowercase (after_scheme.takeWhile (· != '/'))).takeWhile (· != ':')

def is_allowed (host_without_port : List Char) : Bool :=
  ALLOWED_DOMAIN_SUFFIXES.any fun suffix =>
    suffix.toList.isSuffixOf host_without_port || host_without_port == suffix.toList.tail

def validate_webex_url (raw_url required_scheme : String) : Except String Unit :=
  match split_scheme raw_url.toList with
  | none => .error "URL missing scheme"
  | some (scheme, after_scheme) =>
    if scheme ≠ required_scheme.toList then
      .error ("URL scheme must be " ++ required_scheme ++ ", got " ++ String.ofList scheme)
    else if !is_allowed (host_of after_scheme) then
      .error ("URL host " ++ String.ofList (host_of after_scheme) ++ " is not a recognized Webex domain")
    else .ok ()

section host_test

def WEBEX_DOMAINS : List (List Char) := ["webex.com".toList, "wbx2.com".toList, "ciscospark.com".toList]

/-- The text that `host_of` lower-cases. -/
def tested (after_scheme : List Char) : List Char := after_scheme.takeWhile fun c => c != ':' && c != '/'

theorem takeWhile_to_lowercase (text : List Char) :
    (to_lowercase text).takeWhile (· != ':') = to_lowercase (text.takeWhile (· != ':')) := by
  induction text with
  | nil => rfl
  | cons c rest ih =>
    have hlower : to_lowercase (c :: rest) = char_to_lowercase c ++ to_lowercase rest := List.flatMap_cons
    by_cases hcolon : c = ':'
    · simp [to_lowercase, char_to_lowercase, hcolon]
    · have hkept : ∀ d ∈ char_to_lowercase c, (d != ':') = true := by
        intro d hmem
        rw [bne_iff_ne]
        rintro rfl
        unfold char_to_lowercase at hmem
        split at hmem
        · simp at hmem
        · split at hmem
          · simp at hmem
          · exact hcolon (eq_of_toLower_eq (List.mem_singleton.mp hmem).symm (by decide))
      rw [hlower, List.takeWhile_append_of_pos hkept, ih, List.takeWhile_cons_of_pos (by simpa using hcolon)]
      exact (List.flatMap_cons ..).symm

theorem host_of_eq {after_scheme : List Char} : host_of after_scheme = to_lowercase (tested after_scheme) := by
  rw [host_of, tested, takeWhile_to_lowercase, List.takeWhile_takeWhile]
  simp only [← Bool.and_eq_true, Bool.decide_eq_true]

theorem is_allowed_iff {host : List Char} : is_allowed host = true ↔ Listed WEBEX_DOMAINS host :=
  suffix_tests_iff (by decide)

end host_test

/-- `validate_webex_url` accepts the URL. -/
def Accepted (required_scheme raw_url : String) : Prop := validate_webex_url raw_url required_scheme = .ok ()

theorem accepted_iff {required_scheme raw_url : String} :
    Accepted required_scheme raw_url ↔
      ∃ after_scheme, split_scheme raw_url.toList = some (required_scheme.toList, after_scheme) ∧
        is_allowed (host_of after_scheme) = true := by
  unfold Accepted validate_webex_url
  cases hsplit : split_scheme raw_url.toList with
  | none => simp
  | some parts =>
    obtain ⟨scheme, after_scheme⟩ := parts
    by_cases hscheme : scheme = required_scheme.toList
    · cases hallowed : is_allowed (host_of after_scheme) with
      | true => simp [hscheme, hallowed]
      | false => simp [hscheme, hallowed]
    · simp [hscheme]

theorem split_scheme_eq {url scheme after_scheme : List Char} (hsplit : split_scheme url = some (scheme, after_scheme)) :
    url = scheme ++ ':' :: '/' :: '/' :: after_scheme := by
  induction url generalizing scheme with
  | nil => simp [split_scheme] at hsplit
  | cons c rest ih =>
    unfold split_scheme at hsplit
    split at hsplit
    · rename_i hslashes
      obtain ⟨⟨after, rfl⟩, rfl⟩ := hslashes
      simp only [Option.some.injEq, Prod.mk.injEq] at hsplit
      obtain ⟨rfl, rfl⟩ := hsplit
      simp
    · simp only [Option.map_eq_some_iff, Prod.mk.injEq] at hsplit
      obtain ⟨⟨scheme', after⟩, hrest, rfl, rfl⟩ := hsplit
      rw [ih hrest]
      simp

theorem split_scheme_append {scheme after_scheme : List Char} (hcolon : ∀ c ∈ scheme, (c != ':') = true) :
    split_scheme (scheme ++ ("://".toList ++ after_scheme)) = some (scheme, after_scheme) := by
  induction scheme with
  | nil => simp [split_scheme]
  | cons c scheme ih =>
    have hne : c ≠ ':' := bne_iff_ne.mp (hcolon c List.mem_cons_self)
    rw [List.cons_append, split_scheme, if_neg fun hslashes => hne hslashes.2,
      ih fun d hmem => hcolon d (List.mem_cons_of_mem _ hmem)]
    rfl

/-- Only the text up to the first `://` decides where a URL is split. -/
theorem split_scheme_congr {scheme after_scheme : List Char}
    (hsplit : split_scheme (scheme ++ ':' :: '/' :: '/' :: after_scheme) = some (scheme, after_scheme))
    (other : List Char) :
    split_scheme (scheme ++ ':' :: '/' :: '/' :: other) = some (scheme, other) := by
  induction scheme with
  | nil => simp [split_scheme]
  | cons c scheme ih =>
    have hslashes : ['/', '/'] <+: scheme ++ ':' :: '/' :: '/' :: other ↔
        ['/', '/'] <+: scheme ++ ':' :: '/' :: '/' :: after_scheme := by
      match scheme with
      | [] => simp
      | [a] => simp
      | a :: b :: scheme => simp
    simp only [List.cons_append, split_scheme, hslashes] at hsplit ⊢
    split at hsplit
    · simp at hsplit
    · rename_i hnot
      simp only [Option.map_eq_some_iff, Prod.mk.injEq, List.cons.injEq, true_and] at hsplit
      obtain ⟨parts, hrest, hscheme, hafter⟩ := hsplit
      rw [if_neg hnot, ih (by rw [hrest, ← hscheme, ← hafter])]
      rfl

/-- An accepted URL stays accepted while its scheme and the text up to the first
    slash after it stay the same. -/
theorem Accepted.of_host {required_scheme url url' : String} (haccepted : Accepted required_scheme url)
    (hhost : ∀ after_scheme, url.toList = required_scheme.toList ++ ':' :: '/' :: '/' :: after_scheme →
      after_scheme.takeWhile (· != '/') ≠ [] →
      ∃ other, url'.toList = required_scheme.toList ++ ':' :: '/' :: '/' :: other ∧
        other.takeWhile (· != '/') = after_scheme.takeWhile (· != '/')) :
    Accepted required_scheme url' := by
  rw [accepted_iff] at haccepted ⊢
  obtain ⟨after_scheme, hsplit, hallowed⟩ := haccepted
  have hurl := split_scheme_eq hsplit
  have hne : after_scheme.takeWhile (· != '/') ≠ [] := by
    intro hempty
    rw [host_of, hempty] at hallowed
    exact absurd hallowed (by decide)
  obtain ⟨other, hother, hsame⟩ := hhost after_scheme hurl hne
  refine ⟨other, ?_, ?_⟩
  · rw [hother]
    rw [hurl] at hsplit
    exact split_scheme_congr hsplit other
  · rw [host_of, hsame]
    exact hallowed

theorem takeWhile_append_slash (text path : List Char) :
    (text ++ '/' :: path).takeWhile (· != '/') = text.takeWhile (· != '/') := by
  induction text with
  | nil => simp
  | cons c rest ih =>
    by_cases hc : c = '/'
    · simp [hc]
    · simp [hc, ih]

/-- A path may be appended to an accepted URL. -/
theorem Accepted.append_path {required_scheme url path : String} (haccepted : Accepted required_scheme url)
    (hpath : path.toList.head? = some '/') : Accepted required_scheme (url ++ path) := by
  obtain ⟨rest, hrest⟩ := List.head?_eq_some_iff.mp hpath
  refine haccepted.of_host fun after_scheme hurl _ => ⟨after_scheme ++ '/' :: rest, ?_, ?_⟩
  · rw [String.toList_append, hurl, hrest]
    simp
  · exact takeWhile_append_slash after_scheme rest

theorem prefix_rdropWhile {p : Char → Bool} {last : Char} (hlast : p last = false) (front back : List Char) :
    front ++ [last] <+: (front ++ [last] ++ back).rdropWhile p := by
  induction back using List.reverseRecOn with
  | nil =>
    have hkept : (front ++ [last]).rdropWhile p = front ++ [last] :=
      List.rdropWhile_concat_neg _ _ _ (by simp [hlast])
    simp only [List.append_nil, hkept, List.prefix_rfl]
  | append_singleton back c ih =>
    rw [← List.append_assoc, List.rdropWhile_concat]
    split
    · exact ih
    · exact ⟨back ++ [c], by simp⟩

theorem takeWhile_append_of_prefix {p : Char → Bool} {text rest : List Char} (hrest : rest <+: text.dropWhile p) :
    (text.takeWhile p ++ rest).takeWhile p = text.takeWhile p := by
  rw [List.takeWhile_append_of_pos fun c hc => List.mem_takeWhile_imp hc]
  cases rest with
  | nil => simp
  | cons c rest =>
    obtain ⟨tail, htail⟩ := hrest
    have hhead : ¬ p c = true := by
      intro hc
      have hnot := List.head_dropWhile_not p (l := text) (by rw [← htail]; simp)
      simp [← htail, hc] at hnot
    simp [hhead]

/-- The slashes at the end of an accepted URL may be dropped. -/
theorem Accepted.rdropWhile {required_scheme url : String} (haccepted : Accepted required_scheme url) :
    Accepted required_scheme (String.ofList (url.toList.rdropWhile (· == '/'))) := by
  refine haccepted.of_host fun after_scheme hurl hhost => ?_
  obtain ⟨front, last, hlast⟩ : ∃ front last, after_scheme.takeWhile (· != '/') = front ++ [last] :=
    ⟨_, _, (List.dropLast_append_getLast hhost).symm⟩
  have hslash : (last == '/') = false := by
    have hmem : last ∈ after_scheme.takeWhile (· != '/') := by
      rw [hlast]
      simp
    simpa using List.mem_takeWhile_imp hmem
  have hsplit : url.toList = required_scheme.toList ++ ':' :: '/' :: '/' :: front ++ [last] ++
      after_scheme.dropWhile (· != '/') := by
    rw [hurl]
    conv_lhs => rw [← List.takeWhile_append_dropWhile (p := (· != '/')) (l := after_scheme), hlast]
    simp
  obtain ⟨rest, hrest⟩ := prefix_rdropWhile (p := (· == '/')) hslash
    (required_scheme.toList ++ ':' :: '/' :: '/' :: front) (after_scheme.dropWhile (· != '/'))
  have hprefix : rest <+: after_scheme.dropWhile (· != '/') := by
    have htrimmed := List.rdropWhile_prefix (· == '/') url.toList
    rw [hsplit, ← hrest] at htrimmed
    exact (List.prefix_append_right_inj _).mp htrimmed
  refine ⟨after_scheme.takeWhile (· != '/') ++ rest, ?_, takeWhile_append_of_prefix hprefix⟩
  rw [String.toList_ofList, hsplit, ← hrest, hlast]
  simp

end webex.rust.url_validation
