import WebexHandler.DomainNames
import WebexHandler.Node.KmsClient.Client
import WebexHandler.Rust.UrlValidation

open domain_name

namespace webex.go.url_validation

/-- `unicode.ToLower`, which maps a rune to one rune. Of the runes outside ASCII only the
    two listed have a lower case in ASCII. -/
def to_lower_rune (c : Char) : Char :=
  if c = '\u212A' then 'k' else if c = '\u0130' then 'i' else c.toLower

/-- `strings.ToLower`. -/
def to_lower (s : String) : String := String.ofList (s.toList.map to_lower_rune)

/-- What the validator reads of a `url.URL`. -/
structure URL where
  scheme : String
  hostname : String

def allowed_domain_suffixes : List String := [".webex.com", ".wbx2.com", ".ciscospark.com"]

def host_allowed (host : String) : Bool :=
  allowed_domain_suffixes.any fun suffix => suffix.toList.isSuffixOf host.toList || host.toList == suffix.toList.tail

/-- `validateWebexURL`, over `url.Parse`. -/
def validate_webex_url (parse : String → Except String URL) (raw_url required_scheme : String) : Except String Unit :=
  match parse raw_url with
  | .error err => .error ("invalid URL: " ++ err)
  | .ok parsed =>
    let host := to_lower parsed.hostname
    if parsed.scheme ≠ required_scheme then
      .error ("URL scheme must be " ++ required_scheme ++ ", got " ++ parsed.scheme)
    else if host_allowed host then .ok ()
    else .error ("URL host " ++ host ++ " is not a recognized Webex domain")

end webex.go.url_validation

namespace webex.node.url_validation

/-- `String.prototype.toLowerCase`. -/
def to_lower_case (text : String) : String := String.ofList (text.toList.flatMap rust.char_to_lowercase)

end webex.node.url_validation

namespace webex.python.url_validation

def ALLOWED_WEBEX_DOMAINS : List String := ["webex.com", "wbx2.com", "ciscospark.com", "example.com"]

/-- `str.lower`. -/
def lower (text : String) : String := String.ofList (text.toList.flatMap rust.char_to_lowercase)

/-- What the validator reads of the result of `urlparse`. -/
structure ParseResult where
  scheme : String
  hostname : Option String

def host_allowed (host : String) : Bool :=
  ALLOWED_WEBEX_DOMAINS.any fun domain => host.toList == domain.toList || ('.' :: domain.toList).isSuffixOf host.toList

/-- `validate_webex_url`, with the message of the `ValueError` it raises. -/
def validate_webex_url (urlparse : String → ParseResult) (raw_url required_scheme : String) : Except String Unit :=
  let parsed := urlparse raw_url
  if parsed.scheme ≠ required_scheme then
    .error ("URL scheme must be " ++ required_scheme ++ ", got " ++ parsed.scheme)
  else
    let host := lower (parsed.hostname.getD "")
    if host_allowed host then .ok ()
    else .error ("URL host " ++ host ++ " is not a recognized Webex domain")

end webex.python.url_validation

namespace webex.host_tests

open rust (to_lowercase char_to_lowercase eq_of_toLower_eq)
open rust.url_validation (WEBEX_DOMAINS tested is_allowed_iff host_of_eq)
open go.url_validation (to_lower_rune)

/-- What every host test is to decide of a host name. -/
def Recognized (hostname : String) : Prop := Listed WEBEX_DOMAINS (to_lowercase hostname.toList)

/-- The validators' verdict on a URL that a parser takes apart into a scheme, which is the
    required one, and a host name. Rust's host test is given the host name as the text
    that follows the scheme. -/
structure Verdict (scheme hostname : String) (allowed : Prop) : Prop where
  rust : rust.url_validation.is_allowed (rust.url_validation.host_of hostname.toList) = true ↔ allowed
  go : ∀ raw_url, go.url_validation.validate_webex_url (fun _ => .ok ⟨scheme, hostname⟩) raw_url scheme = .ok () ↔ allowed
  node : ∀ builtins : node.kms_client.Builtins, (∀ raw_url, builtins.parse_url raw_url = some (scheme, hostname)) →
    builtins.to_lower_case = node.url_validation.to_lower_case →
    ∀ raw_url, node.kms_client.validate_webex_url builtins raw_url scheme = .ok () ↔ allowed
  python : ∀ raw_url, python.url_validation.validate_webex_url (fun _ => ⟨scheme, some hostname⟩) raw_url scheme = .ok () ↔
    allowed

/-- Lower-casing that leaves the dotted capital I alone. -/
def lower_undotted (c : Char) : Char := if c = '\u0130' then c else to_lower_rune c

/-- The host names of which the validators may not differ: not the ones of the example
    domain, of Webex's with a dotted capital I, or with a colon or a slash that changes
    what they name. -/
structure Unambiguous (hostname : String) : Prop where
  example_domain : ¬ Within "example.com".toList (to_lowercase hostname.toList)
  dotted_capital : ¬ Within "c\u0130scospark.com".toList (hostname.toList.map lower_undotted)
  cut : ':' ∈ hostname.toList ∨ '/' ∈ hostname.toList →
    (Listed WEBEX_DOMAINS (to_lowercase (tested hostname.toList)) ↔ Recognized hostname)

section lower_case

/-- The last character of a lower-cased one. -/
def last_lower (c : Char) : Char := if c = '\u0130' then '\u0307' else to_lower_rune c

/-- Where the dotted capital I is the last character that counts, it matches no character
    of a domain. -/
theorem suffix_to_lowercase_iff {text host : List Char} (hplain : '\u0307' ∉ text) :
    text <:+ to_lowercase host ↔ text <:+ host.map last_lower := by
  induction host using List.reverseRecOn generalizing text with
  | nil => simp [to_lowercase]
  | append_singleton host c ih =>
    have hfront : ∀ front, text = front ++ [last_lower c] → (front <:+ to_lowercase host ↔ front <:+ host.map last_lower) := by
      rintro front rfl
      exact ih fun hmem => hplain (List.mem_append_left _ hmem)
    by_cases hdotted : c = '\u0130'
    · subst hdotted
      have hlower : to_lowercase (host ++ ['\u0130']) = (to_lowercase host ++ ['i']) ++ ['\u0307'] := by
        simp [to_lowercase, char_to_lowercase]
      have hnot : ∀ (other : List Char), text <:+ other ++ ['\u0307'] ↔ text = [] := by
        intro other
        rw [List.suffix_concat_iff]
        refine ⟨?_, Or.inl⟩
        rintro (hempty | ⟨front, rfl, -⟩)
        · exact hempty
        · simp at hplain
      rw [hlower, hnot, List.map_append, List.map_singleton]
      exact (hnot _).symm
    · have hlower : to_lowercase (host ++ [c]) = to_lowercase host ++ [last_lower c] := by
        by_cases hkelvin : c = '\u212A'
        · simp [to_lowercase, char_to_lowercase, last_lower, to_lower_rune, hkelvin]
        · simp [to_lowercase, char_to_lowercase, last_lower, to_lower_rune, hdotted, hkelvin]
      rw [hlower, List.map_append, List.map_singleton, List.suffix_concat_iff, List.suffix_concat_iff]
      refine or_congr_right (exists_congr fun front => and_congr_right fun heq => hfront front heq)

theorem within_to_lowercase_iff {domain host : List Char} (hplain : '\u0307' ∉ domain) :
    Within domain (to_lowercase host) ↔ Within domain (host.map last_lower) := by
  have hlower : to_lowercase ('.' :: host) = '.' :: to_lowercase host := by
    simp [to_lowercase, char_to_lowercase]
  rw [within_iff, within_iff, ← hlower, suffix_to_lowercase_iff (by simp [hplain])]
  simp [last_lower, to_lower_rune]

theorem lower_undotted_eq_iff {c : Char} : lower_undotted c = '\u0130' ↔ c = '\u0130' := by
  constructor
  · intro hlower
    unfold lower_undotted to_lower_rune at hlower
    split at hlower
    · exact hlower
    · split at hlower
      · simp at hlower
      · exact eq_of_toLower_eq (by simp [*]) (by decide)
  · rintro rfl
    rfl

theorem last_lower_eq (c : Char) : last_lower c = if lower_undotted c = '\u0130' then '\u0307' else lower_undotted c := by
  by_cases hdotted : c = '\u0130'
  · simp [last_lower, lower_undotted, hdotted]
  · simp [last_lower, lower_undotted_eq_iff, hdotted]
    simp [lower_undotted, hdotted]

theorem to_lower_rune_eq (c : Char) : to_lower_rune c = if lower_undotted c = '\u0130' then 'i' else lower_undotted c := by
  by_cases hdotted : c = '\u0130'
  · simp [to_lower_rune, lower_undotted, hdotted]
  · simp [lower_undotted_eq_iff, hdotted]
    simp [lower_undotted, hdotted]

/-- The full lower case of a host name and the one that leaves the dotted capital I alone
    belong to the same domains. -/
theorem within_lower_undotted_iff {domain host : List Char} (hplain : '\u0307' ∉ domain ∧ '\u0130' ∉ domain) :
    Within domain (to_lowercase host) ↔ Within domain (host.map lower_undotted) := by
  have hmap : host.map last_lower = (host.map lower_undotted).map fun c => if c = '\u0130' then '\u0307' else c := by
    simp [last_lower_eq]
  rw [within_to_lowercase_iff hplain.1, hmap]
  refine within_map_of_fixed fun c d hmem => ?_
  have hneither : d ≠ '\u0307' ∧ d ≠ '\u0130' := by
    obtain rfl | hmem := List.mem_cons.mp hmem
    · decide
    · exact ⟨fun heq => hplain.1 (heq ▸ hmem), fun heq => hplain.2 (heq ▸ hmem)⟩
  split
  · rename_i hdotted
    exact iff_of_false hneither.1.symm (hdotted ▸ hneither.2.symm)
  · exact Iff.rfl

theorem listed_lower_undotted_iff {domains : List (List Char)} {host : List Char}
    (hplain : ∀ domain ∈ domains, '\u0307' ∉ domain ∧ '\u0130' ∉ domain) :
    Listed domains (to_lowercase host) ↔ Listed domains (host.map lower_undotted) :=
  exists_congr fun domain => and_congr_right fun hmem => within_lower_undotted_iff (hplain domain hmem)

/-- Go's lower case belongs to a domain without an `i` as the one that leaves the dotted
    capital I alone does. -/
theorem within_to_lower_rune_iff {domain host : List Char} (hplain : 'i' ∉ domain ∧ '\u0130' ∉ domain) :
    Within domain (host.map to_lower_rune) ↔ Within domain (host.map lower_undotted) := by
  have hmap : host.map to_lower_rune = (host.map lower_undotted).map fun c => if c = '\u0130' then 'i' else c := by
    simp [to_lower_rune_eq]
  rw [hmap]
  refine within_map_of_fixed fun c d hmem => ?_
  have hneither : d ≠ 'i' ∧ d ≠ '\u0130' := by
    obtain rfl | hmem := List.mem_cons.mp hmem
    · decide
    · exact ⟨fun heq => hplain.1 (heq ▸ hmem), fun heq => hplain.2 (heq ▸ hmem)⟩
  split
  · rename_i hdotted
    exact iff_of_false hneither.1.symm (hdotted ▸ hneither.2.symm)
  · exact Iff.rfl

/-- A domain with one `i` has a second spelling under Go's lower case. -/
theorem within_to_lower_rune_i_iff {front back host : List Char}
    (hplain : ('i' ∉ front ∧ '\u0130' ∉ front) ∧ ('i' ∉ back ∧ '\u0130' ∉ back)) :
    Within (front ++ 'i' :: back) (host.map to_lower_rune) ↔
      Within (front ++ 'i' :: back) (host.map lower_undotted) ∨ Within (front ++ '\u0130' :: back) (host.map lower_undotted) := by
  have hmap : host.map to_lower_rune = (host.map lower_undotted).map fun c => if c = '\u0130' then 'i' else c := by
    simp [to_lower_rune_eq]
  have hdot : ∀ c : Char, (if c = '\u0130' then 'i' else c) = '.' ↔ c = '.' := by
    intro c
    split
    · rename_i hdotted
      subst hdotted
      decide
    · exact Iff.rfl
  have hfixed : ∀ {text : List Char}, 'i' ∉ text ∧ '\u0130' ∉ text → ∀ source : List Char,
      source.map (fun c => if c = '\u0130' then 'i' else c) = text ↔ source = text := by
    intro text htext source
    refine map_eq_iff_of_fixed fun c d hmem => ?_
    split
    · rename_i hdotted
      exact iff_of_false (fun heq => htext.1 (heq ▸ hmem)) (fun heq => htext.2 (hdotted ▸ heq ▸ hmem))
    · exact Iff.rfl
  rw [hmap, within_map_iff hdot]
  have hsource : ∀ source : List Char, source.map (fun c => if c = '\u0130' then 'i' else c) = front ++ 'i' :: back ↔
      source = front ++ 'i' :: back ∨ source = front ++ '\u0130' :: back := by
    intro source
    simp only [List.map_eq_append_iff, List.map_eq_cons_iff]
    constructor
    · rintro ⟨front', rest, rfl, hfront, c, back', rfl, hc, hback⟩
      obtain rfl := (hfixed hplain.1 front').mp hfront
      obtain rfl := (hfixed hplain.2 back').mp hback
      by_cases hdotted : c = '\u0130'
      · exact .inr (by rw [hdotted])
      · rw [if_neg hdotted] at hc
        exact .inl (by rw [hc])
    · rintro (rfl | rfl)
      · exact ⟨front, _, rfl, (hfixed hplain.1 front).mpr rfl, 'i', back, rfl, rfl, (hfixed hplain.2 back).mpr rfl⟩
      · exact ⟨front, _, rfl, (hfixed hplain.1 front).mpr rfl, '\u0130', back, rfl, rfl, (hfixed hplain.2 back).mpr rfl⟩
  simp only [hsource, or_and_right, exists_or, exists_eq_left]

end lower_case

section ports

variable {scheme hostname : String}

theorem rust_test_iff : rust.url_validation.is_allowed (rust.url_validation.host_of hostname.toList) = true ↔
    Listed WEBEX_DOMAINS (to_lowercase (tested hostname.toList)) := by
  rw [is_allowed_iff, host_of_eq, tested]

theorem apart_of_webex_domains {domain : List Char}
    (hapart : (WEBEX_DOMAINS.all fun other => ¬ Within domain other ∧ ¬ Within other domain) = true) :
    ∀ other ∈ WEBEX_DOMAINS, ¬ Within domain other ∧ ¬ Within other domain := by
  simpa using hapart

theorem go_test_iff (raw_url : String) :
    go.url_validation.validate_webex_url (fun _ => .ok ⟨scheme, hostname⟩) raw_url scheme = .ok () ↔
      Recognized hostname ∨ Within "c\u0130scospark.com".toList (hostname.toList.map lower_undotted) := by
  have htests : go.url_validation.host_allowed (go.url_validation.to_lower hostname) = true ↔
      Listed WEBEX_DOMAINS (hostname.toList.map to_lower_rune) := by
    rw [go.url_validation.host_allowed, go.url_validation.to_lower, String.toList_ofList]
    exact suffix_tests_iff (by decide)
  have hwebex : Within "webex.com".toList (hostname.toList.map to_lower_rune) ↔
      Within "webex.com".toList (hostname.toList.map lower_undotted) := within_to_lower_rune_iff (by decide)
  have hwbx2 : Within "wbx2.com".toList (hostname.toList.map to_lower_rune) ↔
      Within "wbx2.com".toList (hostname.toList.map lower_undotted) := within_to_lower_rune_iff (by decide)
  have hciscospark : Within "ciscospark.com".toList (hostname.toList.map to_lower_rune) ↔
      Within "ciscospark.com".toList (hostname.toList.map lower_undotted) ∨
        Within "c\u0130scospark.com".toList (hostname.toList.map lower_undotted) :=
    @within_to_lower_rune_i_iff ['c'] "scospark.com".toList _ (by decide)
  have hgo : Listed WEBEX_DOMAINS (hostname.toList.map to_lower_rune) ↔
      Recognized hostname ∨ Within "c\u0130scospark.com".toList (hostname.toList.map lower_undotted) := by
    rw [Recognized, listed_lower_undotted_iff (by decide)]
    simp only [WEBEX_DOMAINS, listed_cons, listed_nil, or_false, hwebex, hwbx2, hciscospark, or_assoc]
  rw [← hgo, ← htests, go.url_validation.validate_webex_url]
  simp

theorem node_test_iff {builtins : node.kms_client.Builtins}
    (hparse : ∀ raw_url, builtins.parse_url raw_url = some (scheme, hostname))
    (hlower : builtins.to_lower_case = node.url_validation.to_lower_case) (raw_url : String) :
    node.kms_client.validate_webex_url builtins raw_url scheme = .ok () ↔ Recognized hostname := by
  have htests : (node.kms_client.ALLOWED_DOMAIN_SUFFIXES.any fun suffix =>
      suffix.toList.isSuffixOf (to_lowercase hostname.toList) || to_lowercase hostname.toList == suffix.toList.tail) = true ↔
        Recognized hostname := suffix_tests_iff (by decide)
  have hhost : (builtins.to_lower_case hostname).toList = to_lowercase hostname.toList := by
    rw [hlower, node.url_validation.to_lower_case, String.toList_ofList, to_lowercase]
  rw [← htests, node.kms_client.validate_webex_url, hparse]
  simp only [hhost, ne_eq, not_true_eq_false, if_false]
  split
  · simp [*]
  · simp [*]

theorem python_test_iff (raw_url : String) :
    python.url_validation.validate_webex_url (fun _ => ⟨scheme, some hostname⟩) raw_url scheme = .ok () ↔
      Recognized hostname ∨ Within "example.com".toList (to_lowercase hostname.toList) := by
  have htests : python.url_validation.host_allowed (python.url_validation.lower hostname) = true ↔
      Listed (WEBEX_DOMAINS ++ ["example.com".toList]) (to_lowercase hostname.toList) := by
    rw [python.url_validation.host_allowed, python.url_validation.lower, String.toList_ofList]
    simp [python.url_validation.ALLOWED_WEBEX_DOMAINS, WEBEX_DOMAINS, to_lowercase, Within]
  rw [listed_append, listed_cons] at htests
  simp only [listed_nil, or_false] at htests
  rw [Recognized, ← htests, python.url_validation.validate_webex_url]
  simp

end ports

/-- The validators agree on the rule for exactly the unambiguous host names. -/
theorem host_tests_agree_iff (scheme hostname : String) :
    Verdict scheme hostname (Recognized hostname) ↔ Unambiguous hostname := by
  have hexample : (Recognized hostname ∨ Within "example.com".toList (to_lowercase hostname.toList) ↔
      Recognized hostname) ↔ ¬ Within "example.com".toList (to_lowercase hostname.toList) :=
    listed_or_within_iff (apart_of_webex_domains (by decide))
  have hdotted : (Recognized hostname ∨ Within "c\u0130scospark.com".toList (hostname.toList.map lower_undotted) ↔
      Recognized hostname) ↔ ¬ Within "c\u0130scospark.com".toList (hostname.toList.map lower_undotted) := by
    rw [Recognized, listed_lower_undotted_iff (by decide)]
    exact listed_or_within_iff (apart_of_webex_domains (by decide))
  have hwhole : ¬ (':' ∈ hostname.toList ∨ '/' ∈ hostname.toList) →
      tested hostname.toList = hostname.toList := by
    intro hneither
    rw [tested, List.takeWhile_eq_self_iff]
    intro c hmem
    rw [Bool.and_eq_true, bne_iff_ne, bne_iff_ne]
    exact ⟨fun heq => hneither (.inl (heq ▸ hmem)), fun heq => hneither (.inr (heq ▸ hmem))⟩
  constructor
  · intro hverdict
    refine ⟨hexample.mp ?_, hdotted.mp ?_, fun _ => ?_⟩
    · exact (python_test_iff "").symm.trans (hverdict.python "")
    · exact (go_test_iff "").symm.trans (hverdict.go "")
    · exact rust_test_iff.symm.trans hverdict.rust
  · intro hunambiguous
    refine ⟨rust_test_iff.trans ?_, fun raw_url => ?_, fun builtins hparse hlower raw_url => ?_, fun raw_url => ?_⟩
    · by_cases hcut : ':' ∈ hostname.toList ∨ '/' ∈ hostname.toList
      · exact hunambiguous.cut hcut
      · rw [hwhole hcut, Recognized]
    · exact (go_test_iff raw_url).trans (hdotted.mpr hunambiguous.dotted_capital)
    · exact node_test_iff hparse hlower raw_url
    · exact (python_test_iff raw_url).trans (hexample.mpr hunambiguous.example_domain)

/-- Python's list has a domain that is not Webex's. -/
theorem example_domain_allowed_in_python : ¬ ∀ scheme hostname, Verdict scheme hostname (Recognized hostname) := by
  intro hagree
  have hpython := (hagree "https" "api.example.com").python ""
  have haccepted : python.url_validation.validate_webex_url (fun _ => ⟨"https", some "api.example.com"⟩) "" "https" = .ok () := by
    decide
  exact absurd (hpython.mp haccepted) (by unfold Recognized; decide)

end webex.host_tests
