import WebexHandler.Registration.Ports

open interaction json domain_name
open webex.host_tests (Unambiguous Recognized)

namespace webex.registration

/-- What the four device managers use of their languages and libraries. -/
structure Toolchains where
  crates : rust.device_manager.Crates
  pkg : go.device_manager.Packages
  builtins : node.kms_client.Builtins
  parse_json : rust.Bytes → Except String Value
  lib : python.device_manager.Library

namespace Toolchains

variable (t : Toolchains)

def implementations : List Implementation := [.rust t.crates, .go t.pkg, .node t.builtins t.parse_json, .python t.lib]

/-- A URL whose scheme and host name are where every parser looks for them. -/
structure Plain (url scheme hostname : String) : Prop where
  rust : ∃ rest, rust.url_validation.split_scheme url.toList = some (scheme.toList, hostname.toList ++ rest) ∧
    ∀ c ∈ rest.head?, c = ':' ∨ c = '/'
  cut : ∀ c ∈ hostname.toList, c ≠ ':' ∧ c ≠ '/'
  go : t.pkg.parse_url url = .ok ⟨scheme, hostname⟩
  node : t.builtins.parse_url url = some (scheme ++ ":", hostname)
  python : t.lib.urlparse url = ⟨scheme, some hostname⟩
  unambiguous : Unambiguous hostname

/-- What JavaScript makes of strings. -/
structure Strings (builtins : node.kms_client.Builtins) : Prop where
  string : ∀ text, builtins.string (some (.string text)) = text
  to_lower_case : builtins.to_lower_case = node.url_validation.to_lower_case

/-- The verdict of every validator on a URL. -/
structure Verdict (url required : String) (allowed : Prop) : Prop where
  rust : rust.url_validation.validate_webex_url url required = .ok () ↔ allowed
  go : go.device_manager.validate_webex_url t.pkg url required = .ok () ↔ allowed
  node : node.device_manager.validate_value t.builtins (some (.string url)) (required ++ ":") = .ok () ↔ allowed
  python : python.device_manager.validate_value t.lib (.string url) required = .ok () ↔ allowed

section verdict

variable {t} {url scheme hostname required : String}

theorem tested_of_cut {rest : List Char} (hcut : ∀ c ∈ hostname.toList, c ≠ ':' ∧ c ≠ '/')
    (hrest : ∀ c ∈ rest.head?, c = ':' ∨ c = '/') :
    rust.url_validation.tested (hostname.toList ++ rest) = rust.url_validation.tested hostname.toList := by
  have hkept : ∀ c ∈ hostname.toList, (c != ':' && c != '/') = true := by
    intro c hmem
    simp [hcut c hmem]
  have hhost : rust.url_validation.tested hostname.toList = hostname.toList := List.takeWhile_eq_self_iff.mpr hkept
  have hstop : rest.takeWhile (fun c => c != ':' && c != '/') = [] := by
    cases rest with
    | nil => rfl
    | cons c more =>
      obtain rfl | rfl := hrest c rfl
      · rfl
      · rfl
  rw [hhost, rust.url_validation.tested, List.takeWhile_append_of_pos hkept, hstop, List.append_nil]

theorem Plain.rust_verdict (hplain : t.Plain url scheme hostname) :
    rust.url_validation.validate_webex_url url required = .ok () ↔ scheme = required ∧ Recognized hostname := by
  obtain ⟨rest, hsplit, hrest⟩ := hplain.rust
  have hrecognized : Listed rust.url_validation.WEBEX_DOMAINS (rust.to_lowercase (rust.url_validation.tested hostname.toList)) ↔
      Recognized hostname := by
    have htested : rust.url_validation.tested hostname.toList = hostname.toList := by
      refine List.takeWhile_eq_self_iff.mpr fun c hmem => ?_
      simp [hplain.cut c hmem]
    rw [htested, Recognized]
  have hhost : rust.url_validation.is_allowed (rust.url_validation.host_of (hostname.toList ++ rest)) = true ↔
      Recognized hostname := by
    rw [rust.url_validation.is_allowed_iff, rust.url_validation.host_of_eq, tested_of_cut hplain.cut hrest, hrecognized]
  have haccepted := @rust.url_validation.accepted_iff required url
  unfold rust.url_validation.Accepted at haccepted
  rw [haccepted, hsplit]
  constructor
  · rintro ⟨after, heq, hallowed⟩
    simp only [Option.some.injEq, Prod.mk.injEq, String.toList_inj] at heq
    obtain ⟨rfl, rfl⟩ := heq
    exact ⟨rfl, hhost.mp hallowed⟩
  · rintro ⟨rfl, hallowed⟩
    exact ⟨_, rfl, hhost.mpr hallowed⟩

theorem Plain.go_verdict (hplain : t.Plain url scheme hostname) :
    go.device_manager.validate_webex_url t.pkg url required = .ok () ↔ scheme = required ∧ Recognized hostname := by
  by_cases hscheme : scheme = required
  · subst hscheme
    have htest := @host_tests.go_test_iff scheme hostname url
    rw [or_iff_left hplain.unambiguous.dotted_capital] at htest
    rw [← htest, go.device_manager.validate_webex_url, go.url_validation.validate_webex_url, hplain.go]
    simp [go.url_validation.validate_webex_url]
  · rw [go.device_manager.validate_webex_url, go.url_validation.validate_webex_url, hplain.go]
    simp [hscheme]

theorem Plain.node_verdict (hstrings : Strings t.builtins) (hplain : t.Plain url scheme hostname) :
    node.device_manager.validate_value t.builtins (some (.string url)) (required ++ ":") = .ok () ↔
      scheme = required ∧ Recognized hostname := by
  rw [node.device_manager.validate_value, Method.mapError_eq_ok, hstrings.string]
  by_cases hscheme : scheme = required
  · subst hscheme
    have htest := @host_tests.node_test_iff (scheme ++ ":") hostname
      { t.builtins with parse_url := fun _ => some (scheme ++ ":", hostname) } (fun _ => rfl) hstrings.to_lower_case url
    rw [eq_self, true_and, ← htest, node.kms_client.validate_webex_url, hplain.node]
    rfl
  · have hprotocol : scheme ++ ":" ≠ required ++ ":" := by
      intro heq
      rw [String.append_left_inj] at heq
      exact hscheme heq
    rw [node.kms_client.validate_webex_url, hplain.node]
    simp [hscheme, hprotocol]

theorem Plain.python_verdict (hplain : t.Plain url scheme hostname) :
    python.device_manager.validate_value t.lib (.string url) required = .ok () ↔ scheme = required ∧ Recognized hostname := by
  rw [python.device_manager.validate_value, Method.mapError_eq_ok]
  by_cases hscheme : scheme = required
  · subst hscheme
    have htest := @host_tests.python_test_iff scheme hostname url
    rw [or_iff_left hplain.unambiguous.example_domain] at htest
    rw [← htest, python.url_validation.validate_webex_url, hplain.python]
    simp [python.url_validation.validate_webex_url]
  · rw [python.url_validation.validate_webex_url, hplain.python]
    simp [hscheme]

/-- The validators do not differ on a plain URL. -/
theorem Plain.verdict (hstrings : Strings t.builtins) (hplain : t.Plain url scheme hostname) :
    t.Verdict url required (scheme = required ∧ Recognized hostname) :=
  ⟨hplain.rust_verdict, hplain.go_verdict, hplain.node_verdict hstrings, hplain.python_verdict⟩

end verdict

end Toolchains

end webex.registration
