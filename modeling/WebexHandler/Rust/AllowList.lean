import WebexHandler.Rust.UrlValidation
import WebexHandler.UrlSyntax

open domain_name url_syntax

namespace webex.rust.url_validation

/-- No host is read from the text, or one of a Webex domain. -/
def Webex (text : List Char) : Prop := ∀ host, url_syntax.host_of text = some host → Listed WEBEX_DOMAINS (to_lowercase host)

/-- An accepted URL has no other host component than one of a Webex domain. -/
def Sound (special : Bool) (scheme : Scheme) (raw_url : String) : Prop :=
  Accepted scheme.name raw_url → ∀ host, url_syntax.host special raw_url.toList = some host →
    Listed WEBEX_DOMAINS (to_lowercase host)

/-- The host and port of a URL whose tested text is not its host: the authority ends within
    the tested text, or the tested text is part of the userinfo or of a host in brackets. -/
inductive Misread (special : Bool) (text : List Char) : List Char → Prop
  | cut (front back : List Char) (c : Char) (htested : tested text = front ++ c :: back)
      (hends : ends_authority special c = true) (hfront : ∀ d ∈ front, ends_authority special d = false) :
      Misread special text (behind_userinfo front)
  | userinfo (front back : List Char) (hauthority : authority special text = front ++ '@' :: back) (hcolon : ':' ∈ front)
      (hback : '@' ∉ back) : Misread special text back
  | bracket (address : List Char) (hauthority : behind_userinfo (authority special text) = '[' :: address)
      (hcolon : ':' ∈ address.takeWhile (· != ']')) : Misread special text ('[' :: address)

theorem tested_prefix (text : List Char) : tested text <+: text := List.takeWhile_prefix _

theorem not_mem_tested {text : List Char} : ':' ∉ tested text := by
  intro hmem
  simpa using List.mem_takeWhile_imp hmem

/-- An authority that does not end within the tested text goes on with a colon, if at
    all. -/
theorem authority_extends_tested {special : Bool} {text : List Char}
    (huncut : ∀ c ∈ tested text, ends_authority special c = false) :
    ∃ rest, authority special text = tested text ++ rest ∧ ∀ c, rest.head? = some c → c = ':' := by
  refine ⟨authority special (text.dropWhile fun c => c != ':' && c != '/'), ?_, fun c hc => ?_⟩
  · conv_lhs => rw [← @List.takeWhile_append_dropWhile _ (fun c => c != ':' && c != '/') text]
    rw [authority, List.takeWhile_append_of_pos (by simpa [tested] using huncut), tested, authority]
  · obtain ⟨rest, hrest⟩ := List.head?_eq_some_iff.mp hc
    have hmem : c ∈ authority special (text.dropWhile fun c => c != ':' && c != '/') := hrest ▸ List.mem_cons_self
    have hopen : ends_authority special c = false := by simpa using List.mem_takeWhile_imp hmem
    obtain ⟨back, hback⟩ : authority special (text.dropWhile fun c => c != ':' && c != '/') <+:
        text.dropWhile fun c => c != ':' && c != '/' := List.takeWhile_prefix _
    rw [hrest, List.cons_append] at hback
    have hstop := List.head_dropWhile_not (fun c => c != ':' && c != '/') (l := text) (by rw [← hback]; simp)
    simp only [← hback, List.head_cons, Bool.and_eq_false_iff, bne_eq_false_iff_eq] at hstop
    obtain hcolon | hslash := hstop
    · exact hcolon
    · rw [hslash] at hopen
      simp [ends_authority] at hopen

/-- What is misread is the host and port. -/
theorem Misread.host_part {special : Bool} {text part : List Char} (hmisread : Misread special text part) :
    behind_userinfo (authority special text) = part := by
  cases hmisread with
  | cut front back c htested hends hfront =>
    obtain ⟨rest, hrest⟩ := tested_prefix text
    have hauthority : authority special text = front := by
      rw [← hrest, htested, List.append_assoc]
      refine authority_eq hfront fun d hd => ?_
      simp only [List.cons_append, List.head?_cons, Option.some.injEq] at hd
      rw [← hd, hends]
    rw [hauthority]
  | userinfo front _ hauthority hcolon hback => rw [hauthority, behind_userinfo_append hback]
  | bracket address hauthority hcolon => exact hauthority

theorem Listed.getLast_eq {host : List Char} (hlisted : Listed WEBEX_DOMAINS host) : host.getLast? = some 'm' := by
  obtain ⟨domain, hmem, hwithin⟩ := hlisted
  have hlast : ∀ domain ∈ WEBEX_DOMAINS, domain.getLast? = some 'm' := by
    decide
  obtain rfl | ⟨front, rfl⟩ := hwithin
  · exact hlast _ hmem
  · rw [List.getLast?_append, List.getLast?_cons, hlast domain hmem]
    rfl

/-- A text that belongs to a Webex domain is the host, if nothing but a colon follows it. -/
theorem webex_of_listed {name rest : List Char} (hname : ':' ∉ name) (hlisted : Listed WEBEX_DOMAINS (to_lowercase name))
    (hrest : ∀ c, rest.head? = some c → c = ':')
    (hbracket : ∀ address, name ++ rest = '[' :: address → ':' ∈ address.takeWhile (· != ']') → Webex ('[' :: address)) :
    Webex (name ++ rest) := by
  have htake : (name ++ rest).takeWhile (· != ':') = name := by
    rw [takeWhile_ne_append hname]
    cases rest with
    | nil => simp
    | cons c rest => simp [hrest c rfl]
  intro host hhost
  by_cases hopens : (name ++ rest).head? = some '['
  · obtain ⟨address, haddress⟩ := List.head?_eq_some_iff.mp hopens
    rw [haddress] at hhost
    obtain ⟨inside, port, heq, hinside, hport, -⟩ := host_of_literal hhost
    have hclosed : address.takeWhile (· != ']') = inside := by
      rw [heq, takeWhile_ne_append hinside]
      simp
    by_cases hcolon : ':' ∈ inside
    · exact hbracket address haddress (hclosed ▸ hcolon) host hhost
    · -- the brackets are all of the name, which ends as no Webex domain does
      have hwhole : name = '[' :: inside ++ [']'] := by
        rw [← htake, haddress, heq, List.takeWhile_cons_of_pos (by decide), takeWhile_ne_append hcolon]
        cases port with
        | nil => simp
        | cons c digits =>
          simp only [is_port, Bool.and_eq_true, beq_iff_eq] at hport
          simp [hport.1]
      have hlower : to_lowercase name = '[' :: to_lowercase inside ++ [']'] := by
        simp [hwhole, to_lowercase, char_to_lowercase]
      have hlast := Listed.getLast_eq hlisted
      rw [hlower, List.getLast?_concat] at hlast
      simp at hlast
  · rw [host_of_name hopens hhost, htake]
    exact hlisted

/-- Userinfo without a colon is part of the tested text. -/
theorem tested_of_userinfo {text front rest back : List Char} (hcolon : ':' ∉ front)
    (hrest : ∀ c, rest.head? = some c → c = ':') (heq : text ++ rest = front ++ '@' :: back) :
    ∃ kept, text = front ++ '@' :: kept ∧ back = kept ++ rest := by
  obtain ⟨more, hmore, hback⟩ | ⟨more, hmore, hback⟩ := List.append_eq_append_iff.mp heq
  · cases more with
    | nil => simpa using hrest '@' (by rw [hback]; rfl)
    | cons c more =>
      obtain rfl := hrest c (by rw [hback]; rfl)
      exact absurd (hmore ▸ by simp) hcolon
  · cases more with
    | nil => simpa using hrest '@' (by rw [← List.nil_append rest, ← hback]; rfl)
    | cons c more =>
      obtain ⟨rfl, rfl⟩ := List.cons.inj hback
      exact ⟨more, hmore, rfl⟩

/-- The host and port of a URL whose tested text belongs to a Webex domain, unless it is
    misread. -/
theorem webex_of_tested {special : Bool} {text : List Char} (hlisted : Listed WEBEX_DOMAINS (to_lowercase (tested text)))
    (hmisread : ∀ part, Misread special text part → Webex part) : Webex (behind_userinfo (authority special text)) := by
  by_cases hcut : ∀ c ∈ tested text, ends_authority special c = false
  · obtain ⟨rest, hauthority, hrest⟩ := authority_extends_tested hcut
    have hbracket : ∀ address, behind_userinfo (authority special text) = '[' :: address →
        ':' ∈ address.takeWhile (· != ']') → Webex ('[' :: address) :=
      fun address heq hcolon => hmisread _ (.bracket address heq hcolon)
    obtain hnone | ⟨front, back, hsplit, hback⟩ := userinfo_cases (authority special text)
    · rw [behind_userinfo_of_not_mem hnone, hauthority] at hbracket ⊢
      exact webex_of_listed not_mem_tested hlisted hrest hbracket
    · by_cases hcolon : ':' ∈ front
      · rw [hsplit, behind_userinfo_append hback]
        exact hmisread back (.userinfo front back hsplit hcolon hback)
      · obtain ⟨kept, htested, hkept⟩ := tested_of_userinfo hcolon hrest (hauthority.symm.trans hsplit)
        have hlower : to_lowercase (tested text) = to_lowercase front ++ '@' :: to_lowercase kept := by
          simp [htested, to_lowercase, char_to_lowercase]
        have hlisted' : Listed WEBEX_DOMAINS (to_lowercase kept) := (hlower ▸ hlisted).after (by decide) (by decide)
        have hcolon' : ':' ∉ kept := by
          intro hmem
          apply @not_mem_tested text
          rw [htested]
          simp [hmem]
        rw [hsplit, behind_userinfo_append hback, hkept] at hbracket ⊢
        exact webex_of_listed hcolon' hlisted' hrest hbracket
  · have hfront : ∀ c ∈ (tested text).takeWhile fun c => !ends_authority special c, ends_authority special c = false := by
      intro c hmem
      simpa using List.mem_takeWhile_imp hmem
    cases hback : (tested text).dropWhile fun c => !ends_authority special c with
    | nil =>
      refine absurd (fun c hmem => ?_) hcut
      simpa using List.dropWhile_eq_nil_iff.mp hback c hmem
    | cons c back =>
      have hends : ends_authority special c = true := by
        have hstop := List.head_dropWhile_not (fun c => !ends_authority special c) (l := tested text) (by rw [hback]; simp)
        simpa [hback] using hstop
      have hpart : Misread special text _ :=
        .cut _ back c (by rw [← hback, List.takeWhile_append_dropWhile]) hends hfront
      rw [hpart.host_part]
      exact hmisread _ hpart

/-- Slashes in front of the authority are not tested. -/
theorem listed_tested_skip {special : Bool} {text : List Char} (hlisted : Listed WEBEX_DOMAINS (to_lowercase (tested text))) :
    Listed WEBEX_DOMAINS (to_lowercase (tested (skip_slashes special text))) := by
  cases special with
  | false => exact hlisted
  | true =>
    induction text with
    | nil => exact hlisted
    | cons c rest ih =>
      by_cases hslash : c = '/' ∨ c = '\\'
      · have hskip : skip_slashes true (c :: rest) = skip_slashes true rest := by
          simp [skip_slashes, hslash]
        rw [hskip]
        obtain rfl | rfl := hslash
        · simp [tested, to_lowercase, WEBEX_DOMAINS, Within] at hlisted
        · have hlower : to_lowercase (tested ('\\' :: rest)) = [] ++ '\\' :: to_lowercase (tested rest) := by
            simp [tested, to_lowercase, char_to_lowercase]
          exact ih ((hlower ▸ hlisted).after (by decide) (by decide))
      · have hskip : skip_slashes true (c :: rest) = c :: rest := by
          simp only [not_or] at hslash
          simp [skip_slashes, hslash]
        rwa [hskip]

theorem accepted_scheme_iff {scheme : Scheme} {raw_url : String} :
    Accepted scheme.name raw_url ↔ ∃ text, raw_url.toList = scheme.name.toList ++ "://".toList ++ text ∧
      Listed WEBEX_DOMAINS (to_lowercase (tested text)) := by
  simp only [accepted_iff, is_allowed_iff, host_of_eq]
  constructor
  · rintro ⟨text, hsplit, hlisted⟩
    refine ⟨text, ?_, hlisted⟩
    rw [split_scheme_eq hsplit]
    simp
  · rintro ⟨text, hurl, hlisted⟩
    refine ⟨text, ?_, hlisted⟩
    rw [hurl, List.append_assoc]
    exact split_scheme_append scheme.no_colon

theorem webex_authority_iff {special : Bool} {scheme : Scheme} {raw_url : String} {text : List Char}
    (hurl : raw_url.toList = scheme.name.toList ++ "://".toList ++ text) :
    Webex (behind_userinfo (authority special (skip_slashes special text))) ↔
      ∀ host, url_syntax.host special raw_url.toList = some host → Listed WEBEX_DOMAINS (to_lowercase host) := by
  rw [hurl, host_eq, Webex]

/-- What is misread apart, the host of an accepted URL belongs to a Webex domain. -/
theorem sound_of_misread {special : Bool} {scheme : Scheme} {raw_url : String}
    (hmisread : ∀ text, raw_url.toList = scheme.name.toList ++ "://".toList ++ text →
      Listed WEBEX_DOMAINS (to_lowercase (tested text)) →
      ∀ part, Misread special (skip_slashes special text) part → Webex part) : Sound special scheme raw_url := by
  intro haccepted
  obtain ⟨text, hurl, hlisted⟩ := accepted_scheme_iff.mp haccepted
  exact (webex_authority_iff hurl).mp (webex_of_tested (listed_tested_skip hlisted) (hmisread text hurl hlisted))

/-- What is tested of the URL is its host. -/
def ReadAsHost (special : Bool) (scheme : Scheme) (raw_url : String) : Prop :=
  ∀ text part, raw_url.toList = scheme.name.toList ++ "://".toList ++ text → ¬Misread special (skip_slashes special text) part

theorem ReadAsHost.sound {special : Bool} {scheme : Scheme} {raw_url : String} (hread : ReadAsHost special scheme raw_url) :
    Sound special scheme raw_url :=
  sound_of_misread fun text hurl _ part hpart => absurd hpart (hread text part hurl)

/-- The host component of an accepted URL belongs to a Webex domain exactly if that of a
    misread one does. -/
theorem allow_list_sound_iff (special : Bool) (scheme : Scheme) (raw_url : String) :
    Sound special scheme raw_url ↔ ∀ text, raw_url.toList = scheme.name.toList ++ "://".toList ++ text →
      Listed WEBEX_DOMAINS (to_lowercase (tested text)) →
      ∀ part, Misread special (skip_slashes special text) part → Webex part := by
  constructor
  · intro hsound text hurl hlisted part hpart
    rw [← hpart.host_part]
    exact (webex_authority_iff hurl).mpr (hsound (accepted_scheme_iff.mpr ⟨text, hurl, hlisted⟩))
  · exact sound_of_misread

/-- The query of a URL is tested as if it were its host. -/
theorem query_accepted_as_host : ¬ ∀ special scheme raw_url, Sound special scheme raw_url := by
  intro hsound
  have haccepted : Accepted "https" "https://evil.com?x=.webex.com" := by
    unfold Accepted
    decide
  have hhost : url_syntax.host false "https://evil.com?x=.webex.com".toList = some "evil.com".toList := by
    decide
  exact absurd (hsound false ⟨"https", by decide⟩ _ haccepted _ hhost) (by decide)

end webex.rust.url_validation
