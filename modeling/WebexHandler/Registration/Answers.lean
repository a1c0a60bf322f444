import WebexHandler.Registration.Documents

open interaction json

namespace webex.registration

open rust.device_manager (DeviceRegistration with_encryption_service_url)
open rust.url_validation (Accepted)

/-- The link to the encryption service, or an empty text. -/
def link (reg : DeviceRegistration) : String := (reg.services.lookup "encryptionServiceUrl").getD ""

/-- The URLs of a registration pass the checks. -/
def Trusted (reg : DeviceRegistration) : Prop :=
  Accepted "wss" reg.web_socket_url ∧ (link reg = "" ∨ Accepted "https" (link reg))

instance (reg : DeviceRegistration) : Decidable (Trusted reg) :=
  inferInstanceAs (Decidable (rust.url_validation.validate_webex_url _ _ = _ ∧ (_ ∨ rust.url_validation.validate_webex_url _ _ = _)))

/-- What every port makes of a registration. -/
def registered (reg : DeviceRegistration) : Except Rejection Registration :=
  if Trusted reg then .ok (rust.device_manager.describe (with_encryption_service_url reg)) else .error (.refused none)

namespace Toolchains

variable (t : Toolchains)

/-- A body that is the same document in every language. -/
structure Reads (body : rust.Bytes) (document : Value) : Prop where
  rust : t.crates.from_slice body = .ok document
  go : t.pkg.decode body = .ok document
  node : t.parse_json body = .ok document
  python : t.lib.parse_json body = .ok document

/-- A body that is no document in any language. -/
structure Garbled (body : rust.Bytes) : Prop where
  rust : ∃ e, t.crates.from_slice body = .error e
  go : ∃ e, t.pkg.decode body = .error e
  node : ∃ e, t.parse_json body = .error e
  python : ∃ e, t.lib.parse_json body = .error e

/-- The deserialisers read a type from the documents that describe one of its values. -/
structure Standard : Prop where
  strings : Strings t.builtins
  registration_from_slice : ∀ body members reg, t.crates.from_slice body = .ok (.object members) → Describes members reg →
    t.crates.registration_from_slice body = .ok reg
  registration_from_value : ∀ members reg, Describes members reg → t.crates.registration_from_value (.object members) = .ok reg
  device_list_from_slice : ∀ body members items, t.crates.from_slice body = .ok (.object members) →
    (members.map Prod.fst).Nodup → (Value.object members).get "devices" = some (.array items) →
    t.crates.device_list_from_slice body = .ok items
  device_list_missing : ∀ body members, t.crates.from_slice body = .ok (.object members) →
    (Value.object members).get "devices" = none → ∃ e, t.crates.device_list_from_slice body = .error e
  garbled : ∀ body e, t.crates.from_slice body = .error e →
    (∃ e', t.crates.registration_from_slice body = .error e') ∧ ∃ e', t.crates.device_list_from_slice body = .error e'

/-- A registration whose URLs the validators judge alike. -/
structure PlainUrls (reg : DeviceRegistration) : Prop where
  socket : ∃ scheme hostname, t.Plain reg.web_socket_url scheme hostname
  encryption : link reg = "" ∨ ∃ scheme hostname, t.Plain (link reg) scheme hostname

end Toolchains

section registrations

variable {t : Toolchains} {reg : DeviceRegistration} {members : List (String × Value)}

theorem Toolchains.Plain.judged {url scheme hostname required : String} (hstrings : Strings t.builtins)
    (hplain : t.Plain url scheme hostname) : t.Verdict url required (Accepted required url) := by
  have hverdict := @Toolchains.Plain.verdict t url scheme hostname required hstrings hplain
  exact ⟨Iff.rfl, hverdict.go.trans hverdict.rust.symm, hverdict.node.trans hverdict.rust.symm,
    hverdict.python.trans hverdict.rust.symm⟩

theorem Toolchains.Plain.ne_empty {url scheme hostname : String} (hplain : t.Plain url scheme hostname) : url ≠ "" := by
  rintro rfl
  obtain ⟨rest, hsplit, -⟩ := hplain.rust
  cases hsplit

theorem registered_of_trusted (htrusted : Trusted reg) :
    registered reg = .ok (rust.device_manager.describe (with_encryption_service_url reg)) := if_pos htrusted

theorem registered_of_untrusted (huntrusted : ¬Trusted reg) : registered reg = .error (.refused none) := if_neg huntrusted

/-- How the checks of a registration go: on an untrusted socket, without a link, and with a trusted
    or an untrusted one. -/
theorem Toolchains.PlainUrls.cases (hstrings : Strings t.builtins) (hurls : t.PlainUrls reg) {goal : Prop}
    (hsocket : registered reg = .error (.refused none) → t.Verdict reg.web_socket_url "wss" False → goal)
    (hnone : registered reg = .ok (rust.device_manager.describe (with_encryption_service_url reg)) →
      t.Verdict reg.web_socket_url "wss" True → link reg = "" → goal)
    (hlink : t.Verdict reg.web_socket_url "wss" True → link reg ≠ "" → t.Verdict (link reg) "https" (Trusted reg) → goal) :
    goal := by
  obtain ⟨scheme, hostname, hplain⟩ := hurls.socket
  have hjudged : t.Verdict reg.web_socket_url "wss" (Accepted "wss" reg.web_socket_url) := hplain.judged hstrings
  by_cases haccepted : Accepted "wss" reg.web_socket_url
  · simp only [haccepted] at hjudged
    by_cases hempty : link reg = ""
    · exact hnone (registered_of_trusted ⟨haccepted, .inl hempty⟩) hjudged hempty
    · obtain hnot | ⟨scheme', hostname', hplain'⟩ := hurls.encryption
      · exact absurd hnot hempty
      · have hiff : Trusted reg ↔ Accepted "https" (link reg) := by simp [Trusted, haccepted, hempty]
        have hjudged' : t.Verdict (link reg) "https" (Accepted "https" (link reg)) := hplain'.judged hstrings
        rw [← propext hiff] at hjudged'
        exact hlink hjudged hempty hjudged'
  · simp only [haccepted] at hjudged
    exact hsocket (registered_of_untrusted fun htrusted => haccepted htrusted.1) hjudged

theorem verdict_true {url required : String} (hverdict : t.Verdict url required True) :
    rust.url_validation.validate_webex_url url required = .ok () ∧
      go.device_manager.validate_webex_url t.pkg url required = .ok () ∧
        node.device_manager.validate_value t.builtins (some (.string url)) (required ++ ":") = .ok () ∧
          python.device_manager.validate_value t.lib (.string url) required = .ok () :=
  ⟨hverdict.rust.mpr trivial, hverdict.go.mpr trivial, hverdict.node.mpr trivial, hverdict.python.mpr trivial⟩

theorem not_ok {ε : Type} {outcome : Except ε Unit} (hnot : outcome = .ok () ↔ False) : ∃ e, outcome = .error e := by
  cases outcome with
  | ok _ => exact (hnot.mp rfl).elim
  | error e => exact ⟨e, rfl⟩

theorem rust_registered (hstandard : t.Standard) {body : rust.Bytes} (hreads : t.crates.from_slice body = .ok (.object members))
    (hdescribes : Describes members reg) (hurls : t.PlainUrls reg) :
    ((rust.device_manager.checked_registration t.crates body).mapError rust.device_manager.rejection).map
      rust.device_manager.describe = registered reg := by
  obtain ⟨scheme, hostname, hplain⟩ := hurls.socket
  have hsocket : rust.device_manager.checked_url "web_socket_url" reg.web_socket_url "wss" =
      (rust.url_validation.validate_webex_url reg.web_socket_url "wss").mapError fun e =>
        .device_registration ("Invalid " ++ "web_socket_url" ++ ": " ++ e) none := if_neg hplain.ne_empty
  rw [rust.device_manager.checked_registration, hstandard.registration_from_slice body members reg hreads hdescribes]
  show Except.map _ (Except.mapError _ (rust.device_manager.checked_url "web_socket_url" reg.web_socket_url "wss" >>= fun _ =>
    rust.device_manager.checked_url "encryption_service_url" (link reg) "https" >>= fun _ =>
      Except.ok (with_encryption_service_url reg))) = _
  rw [hsocket]
  refine hurls.cases hstandard.strings ?_ ?_ ?_
  · intro hrejected hverdict
    obtain ⟨e, he⟩ := not_ok hverdict.rust
    rw [he, hrejected]
    rfl
  · intro haccepted hverdict hempty
    rw [(verdict_true hverdict).1, hempty, haccepted]
    rfl
  · intro hverdict hlink hlinked
    rw [(verdict_true hverdict).1, rust.device_manager.checked_url, if_neg hlink, registered]
    by_cases htrusted : Trusted reg
    · rw [if_pos htrusted, hlinked.rust.mpr htrusted]
      rfl
    · simp only [htrusted] at hlinked
      obtain ⟨e, he⟩ := not_ok hlinked.rust
      rw [if_neg htrusted, he]
      rfl

theorem go_registered (hstandard : t.Standard) (hurls : t.PlainUrls reg) :
    go.device_manager.parsed t.pkg (go_device reg) = registered reg := by
  rw [go.device_manager.parsed, go.device_manager.parse_device_response]
  show Except.map _ (Except.mapError _ (Except.mapError _
    (go.device_manager.validate_webex_url t.pkg reg.web_socket_url "wss") >>= _)) = _
  refine hurls.cases hstandard.strings ?_ ?_ ?_
  · intro hrejected hverdict
    obtain ⟨e, he⟩ := not_ok hverdict.go
    rw [he, hrejected]
    rfl
  · intro haccepted hverdict hempty
    have hlink : ((go_device reg).services.lookup "encryptionServiceUrl").getD "" = "" := hempty
    rw [(verdict_true hverdict).2.1, haccepted, if_neg (not_not.mpr hlink)]
    rfl
  · intro hverdict hlink hlinked
    have hlink' : ((go_device reg).services.lookup "encryptionServiceUrl").getD "" ≠ "" := hlink
    rw [(verdict_true hverdict).2.1, registered, if_pos hlink']
    show Except.map _ (Except.mapError _ (Except.mapError _
      (go.device_manager.validate_webex_url t.pkg (link reg) "https") >>= _)) = _
    by_cases htrusted : Trusted reg
    · rw [if_pos htrusted, hlinked.go.mpr htrusted]
      rfl
    · simp only [htrusted] at hlinked
      obtain ⟨e, he⟩ := not_ok hlinked.go
      rw [if_neg htrusted, he]
      rfl

theorem Links.services_node {found : Option Value} {links : List (String × String)} (hlinks : Links found links) :
    node.device_manager.services_of found = object_of links := by
  cases hlinks with
  | absent => rfl
  | present links hnodup => rfl

theorem Links.services_python {found : Option Value} {links : List (String × String)} (hlinks : Links found links) :
    python.device_manager.services_of found = links.map fun link => (link.1, .string link.2) := by
  cases hlinks with
  | absent => rfl
  | present links hnodup => rfl

theorem ok_bind {ε α β : Type} (value : α) (f : α → Except ε β) : (Except.ok value >>= f) = f value := rfl

/-- The link as an untyped port reads it. -/
theorem get_link (reg : DeviceRegistration) :
    (((object_of reg.services).get "encryptionServiceUrl").filter node.kms_client.truthy).getD (.string "") = .string (link reg) ∧
      ((object_of reg.services).get "encryptionServiceUrl").getD (.string "") = .string (link reg) := by
  rw [get_object_of, link]
  cases reg.services.lookup "encryptionServiceUrl" with
  | none => exact ⟨rfl, rfl⟩
  | some text =>
    by_cases hempty : text = ""
    · rw [hempty]
      exact ⟨rfl, rfl⟩
    · have htruthy : node.kms_client.truthy (.string text) = true := bne_iff_ne.mpr hempty
      exact ⟨by simp [Option.filter_some, htruthy], rfl⟩

theorem node_registered (hstandard : t.Standard) (hdescribes : Describes members reg) (hurls : t.PlainUrls reg) :
    untyped.parsed (node.device_manager.client t.builtins t.parse_json) describe_node (.object members) = registered reg := by
  have hproperty : node.device_manager.property (.object members) "services" = .ok ((Value.object members).get "services") := rfl
  show ((node.device_manager.parse_device_response t.builtins (.object members)).mapError _).map _ = _
  rw [node.device_manager.parse_device_response, hproperty, ok_bind, hdescribes.services.services_node]
  dsimp only
  rw [(get_link reg).1, hdescribes.web_socket_url, hdescribes.device_url, hdescribes.user_id]
  refine hurls.cases hstandard.strings ?_ ?_ ?_
  · intro hrejected hverdict
    obtain ⟨e, he⟩ := not_ok hverdict.node
    rw [hrejected]
    show Except.map _ (Except.mapError _ (Except.mapError _
      (node.device_manager.validate_value t.builtins (some (.string reg.web_socket_url)) ("wss" ++ ":")) >>= _)) = _
    rw [he]
    rfl
  · intro haccepted hverdict hempty
    have hfalsy : ¬(node.kms_client.truthy (.string (link reg)) = true) := by
      rw [hempty]
      decide
    rw [haccepted]
    show Except.map _ (Except.mapError _ (Except.mapError _
      (node.device_manager.validate_value t.builtins (some (.string reg.web_socket_url)) ("wss" ++ ":")) >>= _)) = _
    rw [(verdict_true hverdict).2.2.1, if_neg hfalsy]
    rfl
  · intro hverdict hlink hlinked
    have htruthy : node.kms_client.truthy (.string (link reg)) = true := bne_iff_ne.mpr hlink
    rw [registered]
    show Except.map _ (Except.mapError _ (Except.mapError _
      (node.device_manager.validate_value t.builtins (some (.string reg.web_socket_url)) ("wss" ++ ":")) >>= _)) = _
    rw [(verdict_true hverdict).2.2.1, if_pos htruthy]
    show Except.map _ (Except.mapError _ (Except.mapError _
      (node.device_manager.validate_value t.builtins (some (.string (link reg))) ("https" ++ ":")) >>= _)) = _
    by_cases htrusted : Trusted reg
    · rw [if_pos htrusted, hlinked.node.mpr htrusted]
      rfl
    · simp only [htrusted] at hlinked
      obtain ⟨e, he⟩ := not_ok hlinked.node
      rw [if_neg htrusted, he]
      rfl

theorem python_rejection {url required : String} (hnot : python.device_manager.validate_value t.lib (.string url) required = .ok () ↔ False) :
    ∃ message, python.device_manager.validate_value t.lib (.string url) required = .error (.other message) := by
  rw [python.device_manager.validate_value] at hnot ⊢
  cases houtcome : python.url_validation.validate_webex_url t.lib.urlparse url required with
  | ok _ =>
    rw [houtcome] at hnot
    exact (hnot.mp rfl).elim
  | error message => exact ⟨message, rfl⟩

theorem python_registered (hstandard : t.Standard) (hdescribes : Describes members reg) (hurls : t.PlainUrls reg) :
    untyped.parsed (python.device_manager.client t.lib) describe_python (.object members) = registered reg := by
  have hget : python.device_manager.get (.object members) "services" = .ok ((Value.object members).get "services") := rfl
  have hitem : ∀ {key : String} {text : String}, (Value.object members).get key = some (.string text) →
      python.device_manager.item (.object members) key = .ok (.string text) := by
    intro key text hfound
    rw [python.device_manager.item, hfound]
    rfl
  have hlink : ((Value.object (reg.services.map fun link => (link.1, .string link.2))).get "encryptionServiceUrl").getD
      (.string "") = .string (link reg) := (get_link reg).2
  show ((python.device_manager.parse_device_response t.lib (.object members)).mapError _).map _ = _
  rw [python.device_manager.parse_device_response, hget, ok_bind]
  dsimp only
  rw [hdescribes.services.services_python, hlink, hitem hdescribes.web_socket_url, hitem hdescribes.device_url,
    hitem hdescribes.user_id]
  show Except.map _ (Except.mapError _ (python.device_manager.validate_value t.lib (.string reg.web_socket_url) "wss" >>= _)) = _
  refine hurls.cases hstandard.strings ?_ ?_ ?_
  · intro hrejected hverdict
    obtain ⟨message, hmessage⟩ := python_rejection hverdict.python
    rw [hmessage, hrejected]
    rfl
  · intro haccepted hverdict hempty
    have hfalsy : ¬(python.key_retrieval.truthy (.string (link reg)) = true) := by
      rw [hempty]
      decide
    rw [(verdict_true hverdict).2.2.2, ok_bind, if_neg hfalsy, haccepted]
    rfl
  · intro hverdict hlink hlinked
    have htruthy : python.key_retrieval.truthy (.string (link reg)) = true := bne_iff_ne.mpr hlink
    rw [(verdict_true hverdict).2.2.2, ok_bind, if_pos htruthy, registered]
    by_cases htrusted : Trusted reg
    · rw [if_pos htrusted, hlinked.python.mpr htrusted]
      rfl
    · simp only [htrusted] at hlinked
      obtain ⟨message, hmessage⟩ := python_rejection hlinked.python
      rw [if_neg htrusted, hmessage]
      rfl

end registrations

section catalogs

/-- The link to the device manager's service, or an empty text. -/
def wdm_link (links : List (String × String)) : String := (links.lookup "wdm").getD ""

/-- The endpoint that a catalog leads to. -/
def endpoint (links : List (String × String)) : String :=
  if wdm_link links = "" then rust.device_manager.WDM_API_BASE
  else if rust.url_validation.validate_webex_url (wdm_link links) "https" = .ok () then
    rust.device_manager.trim_end_slashes (wdm_link links) ++ "/devices"
  else rust.device_manager.WDM_API_BASE

/-- A link that every port judges and shortens alike. -/
structure PlainLink (t : Toolchains) (wdm : String) : Prop where
  plain : ∃ scheme hostname, t.Plain wdm scheme hostname
  slash : ¬['/', '/'] <:+ wdm.toList

variable {t : Toolchains} {members : List (String × Value)} {links : List (String × String)} {body : rust.Bytes}
  {response : FetchResponse}

theorem strip_slash_eq {text : String} (hslash : ¬['/', '/'] <:+ text.toList) :
    node.device_manager.strip_slash text = rust.device_manager.trim_end_slashes text := by
  rw [node.device_manager.strip_slash, rust.device_manager.trim_end_slashes]
  obtain hnil | ⟨front, c, hlast⟩ := List.eq_nil_or_concat text.toList
  · obtain rfl := String.toList_eq_nil_iff.mp hnil
    rfl
  · rw [hlast]
    simp only [List.concat_eq_append, List.getLast?_append, List.getLast?_singleton, Option.some_or, Option.some.injEq,
      List.reverse_append, List.reverse_cons, List.reverse_nil, List.nil_append, List.singleton_append]
    by_cases hc : c = '/'
    · subst hc
      have hfront : front.reverse.head? ≠ some '/' := by
        intro hhead
        obtain ⟨rest, hrest⟩ := List.head?_eq_some_iff.mp hhead
        apply hslash
        rw [hlast, ← List.reverse_prefix]
        simp [hrest]
      have hdrop : front.reverse.dropWhile (· == '/') = front.reverse := by
        cases hreverse : front.reverse with
        | nil => rfl
        | cons d rest =>
          rw [hreverse] at hfront
          have hd : d ≠ '/' := fun heq => hfront (by rw [heq]; rfl)
          exact List.dropWhile_cons_of_neg (by simpa using hd)
      rw [if_pos rfl, List.dropWhile_cons_of_pos (by decide), hdrop, List.reverse_reverse]
      simp
    · rw [if_neg hc, List.dropWhile_cons_of_neg (by simpa using hc), ← String.ofList_toList (s := text), hlast]
      simp

theorem Links.wdm {found : Option Value} (hlinks : Links found links) :
    (found.bind (·.get "wdm")) = (links.lookup "wdm").map .string := by
  cases hlinks with
  | absent => rfl
  | present links hnodup => exact get_object_of links "wdm"

/-- A response that is a catalog with these links. -/
structure Catalog (t : Toolchains) (response : FetchResponse) (links : List (String × String)) : Prop where
  ok : response.ok = true
  document : ∃ members, t.Reads response.body (.object members) ∧ Exact ["serviceLinks"] members ∧
    Links ((Value.object members).get "serviceLinks") links
  link : wdm_link links = "" ∨ PlainLink t (wdm_link links)

/-- The three ways in which a link is judged. -/
theorem endpoint_cases (hstrings : Toolchains.Strings t.builtins) (hlink : wdm_link links = "" ∨ PlainLink t (wdm_link links)) {goal : Prop}
    (hnone : wdm_link links = "" → endpoint links = rust.device_manager.WDM_API_BASE → goal)
    (huntrusted : wdm_link links ≠ "" → t.Verdict (wdm_link links) "https" False →
      endpoint links = rust.device_manager.WDM_API_BASE → goal)
    (htrusted : wdm_link links ≠ "" → t.Verdict (wdm_link links) "https" True →
      node.device_manager.strip_slash (wdm_link links) = rust.device_manager.trim_end_slashes (wdm_link links) →
      endpoint links = rust.device_manager.trim_end_slashes (wdm_link links) ++ "/devices" → goal) : goal := by
  by_cases hempty : wdm_link links = ""
  · exact hnone hempty (if_pos hempty)
  · obtain hnot | ⟨⟨scheme, hostname, hplain⟩, hslash⟩ := hlink
    · exact absurd hnot hempty
    · have hjudged : t.Verdict (wdm_link links) "https" (Accepted "https" (wdm_link links)) := hplain.judged hstrings
      by_cases haccepted : Accepted "https" (wdm_link links)
      · have hendpoint : endpoint links = rust.device_manager.trim_end_slashes (wdm_link links) ++ "/devices" :=
          (if_neg hempty).trans (if_pos haccepted)
        simp only [haccepted] at hjudged
        exact htrusted hempty hjudged (strip_slash_eq hslash) hendpoint
      · have hendpoint : endpoint links = rust.device_manager.WDM_API_BASE := (if_neg hempty).trans (if_neg haccepted)
        simp only [haccepted] at hjudged
        exact huntrusted hempty hjudged hendpoint

theorem Catalog.rust (hstrings : Toolchains.Strings t.builtins) (hcatalog : Catalog t response links) :
    rust.device_manager.wdm_base_of t.crates (.ok response) = endpoint links := by
  obtain ⟨members, hreads, -, hlinks⟩ := hcatalog.document
  have hfound : (((Value.object members).get "serviceLinks").bind (·.get "wdm")).bind Value.as_str = links.lookup "wdm" := by
    rw [hlinks.wdm]
    cases links.lookup "wdm" with
    | none => rfl
    | some wdm => rfl
  simp only [rust.device_manager.wdm_base_of, hcatalog.ok, Bool.true_eq_false, if_false, hreads.rust, hfound]
  cases hlookup : links.lookup "wdm" with
  | none =>
    have hempty : wdm_link links = "" := by rw [wdm_link, hlookup, Option.getD_none]
    exact (if_pos hempty).symm
  | some wdm =>
    have hwdm : wdm_link links = wdm := by rw [wdm_link, hlookup, Option.getD_some]
    rw [← hwdm]
    refine endpoint_cases hstrings hcatalog.link ?_ ?_ ?_
    · intro hempty hendpoint
      rw [hendpoint]
      exact if_pos hempty
    · intro hempty hverdict hendpoint
      obtain ⟨e, he⟩ := not_ok hverdict.rust
      simp only [hendpoint, hempty, if_false, he]
    · intro hempty hverdict hstrip hendpoint
      simp only [hendpoint, hempty, if_false, (verdict_true hverdict).1]

theorem Catalog.go (hstrings : Toolchains.Strings t.builtins) (hcatalog : Catalog t response links) :
    go.device_manager.wdm_base_of t.pkg (.ok response) = endpoint links := by
  obtain ⟨members, hreads, hexact, hlinks⟩ := hcatalog.document
  have hbody : go.device_manager.unmarshal_body t.pkg response.body
      (go.device_manager.unmarshal [] go.device_manager.set_catalog) = .ok links := by
    rw [go.device_manager.unmarshal_body, hreads.go, ok_bind]
    exact hlinks.unmarshal hexact
  simp only [go.device_manager.wdm_base_of, hcatalog.ok, Bool.true_eq_false, if_false, hbody]
  refine endpoint_cases hstrings hcatalog.link ?_ ?_ ?_
  · intro hempty hendpoint
    rw [hendpoint]
    exact if_pos hempty
  · intro hempty hverdict hendpoint
    obtain ⟨e, he⟩ := not_ok hverdict.go
    rw [wdm_link] at hempty he
    simp only [hendpoint, hempty, if_false, he]
    rfl
  · intro hempty hverdict hstrip hendpoint
    have haccepted := (verdict_true hverdict).2.1
    rw [wdm_link] at hempty haccepted
    simp only [hendpoint, hempty, if_false, haccepted]
    rfl

/-- The link as an untyped port finds it, which may be missing. -/
theorem wdm_link_cases (links : List (String × String)) : links.lookup "wdm" = none ∧ wdm_link links = "" ∨
    links.lookup "wdm" = some (wdm_link links) := by
  rw [wdm_link]
  cases links.lookup "wdm" with
  | none => exact .inl ⟨rfl, rfl⟩
  | some wdm => exact .inr rfl

theorem Links.wdm_of_node (hlinks : Links ((Value.object members).get "serviceLinks") links) :
    node.device_manager.wdm_of (.object members) = .ok ((links.lookup "wdm").map .string) := by
  have hproperty : node.device_manager.property (.object members) "serviceLinks" =
      .ok ((Value.object members).get "serviceLinks") := rfl
  rw [node.device_manager.wdm_of, hproperty, ok_bind]
  generalize (Value.object members).get "serviceLinks" = found at hlinks
  cases hlinks with
  | absent => rfl
  | present links hnodup => exact congrArg Except.ok (get_object_of links "wdm")

theorem Links.wdm_of_python (hlinks : Links ((Value.object members).get "serviceLinks") links) :
    python.device_manager.wdm_of (.object members) = .ok ((links.lookup "wdm").map .string) := by
  have hget : python.device_manager.get (.object members) "serviceLinks" = .ok ((Value.object members).get "serviceLinks") := rfl
  rw [python.device_manager.wdm_of, hget, ok_bind]
  generalize (Value.object members).get "serviceLinks" = found at hlinks
  cases hlinks with
  | absent => rfl
  | present links hnodup => exact congrArg Except.ok (get_object_of links "wdm")

theorem Catalog.node (hstrings : Toolchains.Strings t.builtins) (hcatalog : Catalog t response links) :
    node.device_manager.wdm_base_of t.builtins t.parse_json (.ok response) = endpoint links := by
  obtain ⟨members, hreads, -, hlinks⟩ := hcatalog.document
  have hbody : node.device_manager.json_of t.parse_json response.body >>= node.device_manager.wdm_of =
      .ok ((links.lookup "wdm").map .string) := by
    rw [node.device_manager.json_of, hreads.node]
    exact hlinks.wdm_of_node
  simp only [node.device_manager.wdm_base_of, hcatalog.ok, Bool.true_eq_false, if_false, hbody]
  obtain ⟨hnone, hempty⟩ | hsome := wdm_link_cases links
  · rw [hnone]
    exact (if_pos hempty).symm
  · rw [hsome]
    refine endpoint_cases hstrings hcatalog.link ?_ ?_ ?_
    · intro hempty hendpoint
      rw [hendpoint, hempty]
      rfl
    · intro hempty hverdict hendpoint
      have htruthy : node.device_manager.truthy_or_undefined (some (.string (wdm_link links))) = true := bne_iff_ne.mpr hempty
      obtain ⟨e, he⟩ := not_ok hverdict.node
      rw [hendpoint, Option.map_some, htruthy]
      simp only [Bool.true_eq_false, if_false]
      have hrejected : node.device_manager.validate_value t.builtins (some (.string (wdm_link links))) "https:" = .error e := he
      rw [hrejected]
      rfl
    · intro hempty hverdict hstrip hendpoint
      have htruthy : node.device_manager.truthy_or_undefined (some (.string (wdm_link links))) = true := bne_iff_ne.mpr hempty
      have haccepted : node.device_manager.validate_value t.builtins (some (.string (wdm_link links))) "https:" = .ok () :=
        (verdict_true hverdict).2.2.1
      rw [hendpoint, Option.map_some, htruthy]
      simp only [Bool.true_eq_false, if_false]
      rw [haccepted, ← hstrip]

theorem Catalog.python (hstrings : Toolchains.Strings t.builtins) (hcatalog : Catalog t response links) :
    python.device_manager.wdm_base_of t.lib (.ok response) = endpoint links := by
  obtain ⟨members, hreads, -, hlinks⟩ := hcatalog.document
  have hbody : python.device_manager.json_of t.lib response.body >>= python.device_manager.wdm_of =
      .ok ((links.lookup "wdm").map .string) := by
    rw [python.device_manager.json_of, hreads.python]
    exact hlinks.wdm_of_python
  simp only [python.device_manager.wdm_base_of, hcatalog.ok, Bool.true_eq_false, if_false, hbody]
  obtain ⟨hnone, hempty⟩ | hsome := wdm_link_cases links
  · rw [hnone]
    exact (if_pos hempty).symm
  · rw [hsome, Option.map_some]
    refine endpoint_cases hstrings hcatalog.link ?_ ?_ ?_
    · intro hempty hendpoint
      rw [hendpoint]
      exact if_pos hempty
    · intro hempty hverdict hendpoint
      obtain ⟨e, he⟩ := not_ok hverdict.python
      simp only [hendpoint, hempty, if_false, he]
      rfl
    · intro hempty hverdict hstrip hendpoint
      simp only [hendpoint, hempty, if_false, (verdict_true hverdict).2.2.2]
      rfl

end catalogs

section answers

/-- A request that the server does not carry out. -/
inductive Fails : Except String FetchResponse → Rejection → Prop
  | unreachable (e : String) : Fails (.error e) (.refused none)
  | unauthorized {response : FetchResponse} (hstatus : response.status = 401) : Fails (.ok response) .unauthorized
  | refused {response : FetchResponse} (hok : response.ok = false) (hstatus : response.status ≠ 401)
    (hzero : response.status ≠ 0) : Fails (.ok response) (.refused (some response.status))

/-- A request that the server has carried out. -/
structure Succeeds (response : FetchResponse) : Prop where
  ok : response.ok = true
  status : response.status ≠ 401

theorem Fails.judge {code : Nat → Option Nat} (hcode : ∀ status, status ≠ 0 → code status = some status)
    {answer : Except String FetchResponse} {e : Rejection} (hfails : Fails answer e) :
    registration.judge code answer = .error e := by
  cases hfails with
  | unreachable e => rfl
  | unauthorized hstatus => exact if_pos hstatus
  | refused hok hstatus hzero =>
    rw [registration.judge, if_neg hstatus, if_pos hok, hcode _ hzero]

theorem Succeeds.judge {code : Nat → Option Nat} {response : FetchResponse} (hsucceeds : Succeeds response) :
    registration.judge code (.ok response) = .ok response.body := by
  rw [registration.judge, if_neg hsucceeds.status, if_neg (by simp [hsucceeds.ok])]

/-- A response that is a listing of these devices. -/
structure Listing (t : Toolchains) (response : FetchResponse) (regs : List DeviceRegistration) : Prop where
  succeeds : Succeeds response
  document : ∃ members, t.Reads response.body (.object members) ∧ Exact ["devices"] members ∧
    Devices ((Value.object members).get "devices") regs

/-- A response that is this registration. -/
structure Registered (t : Toolchains) (response : FetchResponse) (reg : DeviceRegistration) : Prop where
  succeeds : Succeeds response
  document : ∃ members, t.Reads response.body (.object members) ∧ Describes members reg
  urls : t.PlainUrls reg

/-- What an answer says in every language. The response to a creation names a device, and its URLs
    have to pass the checks. -/
inductive Says (t : Toolchains) : (req : Request) → Except String FetchResponse → Answer req → Prop
  | no_catalog {token : String} {answer : Except String FetchResponse}
    (hfailed : ∀ response, answer = .ok response → response.ok = true → t.Garbled response.body) :
    Says t (.catalog token) answer rust.device_manager.WDM_API_BASE
  | catalog {token : String} {response : FetchResponse} {links : List (String × String)} (hcatalog : Catalog t response links) :
    Says t (.catalog token) (.ok response) (endpoint links)
  | no_listing {base token : String} {answer : Except String FetchResponse} {e : Rejection} (hfails : Fails answer e) :
    Says t (.list base token) answer []
  | garbled_listing {base token : String} {response : FetchResponse} (hsucceeds : Succeeds response)
    (hgarbled : t.Garbled response.body) : Says t (.list base token) (.ok response) []
  | listing {base token : String} {response : FetchResponse} {regs : List DeviceRegistration}
    (hlisting : Listing t response regs) : Says t (.list base token) (.ok response) (own_urls regs)
  | not_created {base token : String} {answer : Except String FetchResponse} {e : Rejection} (hfails : Fails answer e) :
    Says t (.create base token) answer { outcome := .error e }
  | garbled_creation {base token : String} {response : FetchResponse} (hsucceeds : Succeeds response)
    (hgarbled : t.Garbled response.body) : Says t (.create base token) (.ok response) { outcome := .error (.refused none) }
  | created {base token : String} {response : FetchResponse} {reg : DeviceRegistration} (hregistered : Registered t response reg)
    (htrusted : Trusted reg) (hurl : reg.device_url ≠ "") : Says t (.create base token) (.ok response)
      { outcome := registered reg, device := some (some (.string reg.device_url)) }
  | not_refreshed {device : Value} {token : String} {answer : Except String FetchResponse} {e : Rejection}
    (hfails : Fails answer e) : Says t (.refresh device token) answer (.error e)
  | garbled_refresh {device : Value} {token : String} {response : FetchResponse} (hsucceeds : Succeeds response)
    (hgarbled : t.Garbled response.body) : Says t (.refresh device token) (.ok response) (.error (.refused none))
  | refreshed {device : Value} {token : String} {response : FetchResponse} {reg : DeviceRegistration}
    (hregistered : Registered t response reg) : Says t (.refresh device token) (.ok response) (registered reg)
  | reaped {device : Value} {token : String} {answer : Except String FetchResponse} : Says t (.reap device token) answer ()
  | not_unregistered {device : Value} {token : String} {answer : Except String FetchResponse} {e : Rejection}
    (hfails : Fails answer e) (hgone : e ≠ .refused (some 404)) : Says t (.unregister device token) answer (.error e)
  | unregistered {device : Value} {token : String} {response : FetchResponse} (hsucceeds : Succeeds response) :
    Says t (.unregister device token) (.ok response) (.ok ())

variable {t : Toolchains} {req : Request} {answer : Except String FetchResponse} {reading : Answer req}

theorem filterMap_registrations (hstandard : t.Standard) {items : List Value} {regs : List DeviceRegistration}
    (hitems : List.Forall₂ (fun item reg => ∃ members, item = .object members ∧ Describes members reg) items regs) :
    (items.filterMap fun device_json =>
      (t.crates.registration_from_value device_json).toOption.map with_encryption_service_url) =
        regs.map with_encryption_service_url := by
  induction hitems with
  | nil => rfl
  | cons hitem hrest ih =>
    obtain ⟨members, rfl, hdescribes⟩ := hitem
    rw [List.filterMap_cons, hstandard.registration_from_value members _ hdescribes, ih]
    rfl

theorem Listing.rust (hstandard : t.Standard) {response : FetchResponse} {regs : List DeviceRegistration}
    (hlisting : Listing t response regs) :
    (rust.device_manager.own_devices t.crates (.ok response.body)).map (fun device => Value.string device.device_url) =
      own_urls regs := by
  obtain ⟨members, hreads, hexact, hdevices⟩ := hlisting.document
  rw [rust.device_manager.own_devices]
  generalize hfound : (Value.object members).get "devices" = found at hdevices
  cases hdevices with
  | absent =>
    obtain ⟨e, he⟩ := hstandard.device_list_missing _ _ hreads.rust hfound
    rw [he]
    rfl
  | present hitems =>
    rw [hstandard.device_list_from_slice _ _ _ hreads.rust hexact.nodup hfound]
    dsimp only
    rw [filterMap_registrations hstandard hitems, List.filter_map, List.map_map]
    rfl

theorem Registered.rust (hstandard : t.Standard) {response : FetchResponse} {reg : DeviceRegistration}
    (hregistered : Registered t response reg) : rust.device_manager.refreshed t.crates response.body = registered reg := by
  obtain ⟨members, hreads, hdescribes⟩ := hregistered.document
  exact rust_registered hstandard hreads.rust hdescribes hregistered.urls

theorem Registered.created_rust (hstandard : t.Standard) {response : FetchResponse} {reg : DeviceRegistration}
    (hregistered : Registered t response reg) (htrusted : Trusted reg) :
    rust.device_manager.created t.crates response.body =
      { outcome := registered reg, device := some (some (.string reg.device_url)) } := by
  have hrefreshed := hregistered.rust hstandard
  rw [rust.device_manager.refreshed, registered_of_trusted htrusted] at hrefreshed
  rw [rust.device_manager.created, registered_of_trusted htrusted]
  cases hchecked : rust.device_manager.checked_registration t.crates response.body with
  | error e =>
    rw [hchecked] at hrefreshed
    cases hrefreshed
  | ok checked =>
    rw [hchecked] at hrefreshed
    have hdescribed : rust.device_manager.describe checked = rust.device_manager.describe (with_encryption_service_url reg) :=
      Except.ok.inj hrefreshed
    have hurl : some (Value.string checked.device_url) = some (Value.string reg.device_url) :=
      congrArg Registration.device_url hdescribed
    dsimp only
    rw [hdescribed, hurl]

theorem garbled_checked (hstandard : t.Standard) {body : rust.Bytes} (hgarbled : t.Garbled body) :
    ∃ message, rust.device_manager.checked_registration t.crates body = .error (.device_registration message none) := by
  obtain ⟨e, he⟩ := hgarbled.rust
  obtain ⟨⟨e', he'⟩, -⟩ := hstandard.garbled _ _ he
  rw [rust.device_manager.checked_registration, he']
  exact ⟨_, rfl⟩

theorem Says.rust (hstandard : t.Standard) (hsaid : Says t req answer reading) :
    (rust_port t.crates).dialect.read req answer = reading := by
  have hcode : ∀ status, status ≠ 0 → some status = some status := fun _ _ => rfl
  show rust.device_manager.read t.crates req answer = reading
  cases hsaid with
  | no_catalog hfailed =>
    show rust.device_manager.wdm_base_of t.crates answer = _
    cases answer with
    | error e => rfl
    | ok response =>
      rw [rust.device_manager.wdm_base_of]
      cases hok : response.ok with
      | false => rfl
      | true =>
        obtain ⟨e, he⟩ := (hfailed response rfl hok).rust
        simp only [he]
        rfl
  | catalog hcatalog => exact hcatalog.rust hstandard.strings
  | no_listing hfails =>
    rw [rust.device_manager.read, hfails.judge hcode]
    rfl
  | garbled_listing hsucceeds hgarbled =>
    obtain ⟨e, he⟩ := hgarbled.rust
    obtain ⟨-, e', he'⟩ := hstandard.garbled _ _ he
    rw [rust.device_manager.read, hsucceeds.judge, rust.device_manager.own_devices]
    simp only [he']
    rfl
  | listing hlisting =>
    rw [rust.device_manager.read, hlisting.succeeds.judge]
    exact hlisting.rust hstandard
  | not_created hfails =>
    rw [rust.device_manager.read, hfails.judge hcode]
    rfl
  | garbled_creation hsucceeds hgarbled =>
    obtain ⟨message, hmessage⟩ := garbled_checked hstandard hgarbled
    rw [rust.device_manager.read, hsucceeds.judge, Created.of, rust.device_manager.created, hmessage]
    rfl
  | created hregistered htrusted hurl =>
    rw [rust.device_manager.read, hregistered.succeeds.judge]
    exact hregistered.created_rust hstandard htrusted
  | not_refreshed hfails =>
    rw [rust.device_manager.read, hfails.judge hcode]
    rfl
  | garbled_refresh hsucceeds hgarbled =>
    obtain ⟨message, hmessage⟩ := garbled_checked hstandard hgarbled
    rw [rust.device_manager.read, hsucceeds.judge, ok_bind, rust.device_manager.refreshed, hmessage]
    rfl
  | refreshed hregistered =>
    rw [rust.device_manager.read, hregistered.succeeds.judge, ok_bind]
    exact hregistered.rust hstandard
  | reaped => rfl
  | not_unregistered hfails hgone =>
    rw [rust.device_manager.read]
    cases hfails with
    | unreachable e => rfl
    | unauthorized hstatus => exact if_pos hstatus
    | @refused response hok hstatus hzero =>
      have hkept : response.status ≠ 404 := fun heq => hgone (by rw [heq])
      exact (if_neg hstatus).trans (if_pos ⟨hok, hkept⟩)
  | @unregistered device token response hsucceeds =>
    have hkept : ¬(response.ok = false ∧ response.status ≠ 404) := by simp [hsucceeds.ok]
    exact (if_neg hsucceeds.status).trans (if_neg hkept)

theorem garbled_unmarshal {body : rust.Bytes} (hgarbled : t.Garbled body) {α : Type} (unmarshal : Value → Except String α) :
    ∃ e, go.device_manager.unmarshal_body t.pkg body unmarshal = .error e := by
  obtain ⟨e, he⟩ := hgarbled.go
  rw [go.device_manager.unmarshal_body, he]
  exact ⟨e, rfl⟩

theorem go_own_urls (regs : List DeviceRegistration) :
    ((regs.map go_device).filter go.device_manager.is_own_device).map (fun d => Value.string d.url) = own_urls regs := by
  have hown : go.device_manager.is_own_device ∘ go_device = rust.device_manager.is_own_device :=
    funext is_own_go_device
  rw [own_urls, List.filter_map, hown, List.map_map]
  rfl

theorem Says.go (hstandard : t.Standard) (hsaid : Says t req answer reading) :
    (go_port t.pkg).dialect.read req answer = reading := by
  have hcode : ∀ status, status ≠ 0 → go.device_manager.status_of status = some status := fun _ hzero => if_neg hzero
  show go.device_manager.read t.pkg req answer = reading
  cases hsaid with
  | no_catalog hfailed =>
    show go.device_manager.wdm_base_of t.pkg answer = _
    cases answer with
    | error e => rfl
    | ok response =>
      rw [go.device_manager.wdm_base_of]
      cases hok : response.ok with
      | false => rfl
      | true =>
        obtain ⟨e, he⟩ := garbled_unmarshal (hfailed response rfl hok) (go.device_manager.unmarshal [] go.device_manager.set_catalog)
        simp only [he]
        rfl
  | catalog hcatalog => exact hcatalog.go hstandard.strings
  | no_listing hfails =>
    rw [go.device_manager.read, hfails.judge hcode]
    rfl
  | garbled_listing hsucceeds hgarbled =>
    obtain ⟨e, he⟩ := garbled_unmarshal hgarbled (go.device_manager.unmarshal [] go.device_manager.set_devices)
    rw [go.device_manager.read, hsucceeds.judge, go.device_manager.own_devices, he]
    rfl
  | listing hlisting =>
    obtain ⟨members, hreads, hexact, hdevices⟩ := hlisting.document
    rw [go.device_manager.read, hlisting.succeeds.judge, go.device_manager.own_devices, go.device_manager.unmarshal_body,
      hreads.go, ok_bind, hdevices.unmarshal hexact]
    exact go_own_urls _
  | not_created hfails =>
    rw [go.device_manager.read, hfails.judge hcode]
    rfl
  | garbled_creation hsucceeds hgarbled =>
    obtain ⟨e, he⟩ := garbled_unmarshal hgarbled go.device_manager.unmarshal_device
    rw [go.device_manager.read, hsucceeds.judge, Created.of, go.device_manager.created, he]
  | created hregistered htrusted hurl =>
    obtain ⟨members, hreads, hdescribes⟩ := hregistered.document
    rw [go.device_manager.read, hregistered.succeeds.judge, Created.of, go.device_manager.created,
      go.device_manager.unmarshal_body, hreads.go, ok_bind, hdescribes.unmarshal_device]
    dsimp only
    rw [go_registered hstandard hregistered.urls, go_device, go.device_manager.optional_of_ne hurl]
    rfl
  | not_refreshed hfails =>
    rw [go.device_manager.read, hfails.judge hcode]
    rfl
  | garbled_refresh hsucceeds hgarbled =>
    obtain ⟨e, he⟩ := garbled_unmarshal hgarbled go.device_manager.unmarshal_device
    rw [go.device_manager.read, hsucceeds.judge, ok_bind, go.device_manager.refreshed, he]
  | refreshed hregistered =>
    obtain ⟨members, hreads, hdescribes⟩ := hregistered.document
    rw [go.device_manager.read, hregistered.succeeds.judge, ok_bind, go.device_manager.refreshed,
      go.device_manager.unmarshal_body, hreads.go, ok_bind, hdescribes.unmarshal_device]
    exact go_registered hstandard hregistered.urls
  | reaped => rfl
  | not_unregistered hfails hgone =>
    rw [go.device_manager.read, hfails.judge hcode]
    rfl
  | unregistered hsucceeds =>
    rw [go.device_manager.read, hsucceeds.judge]
    rfl

/-- How an untyped port reads the answers that it shares with the other ports. -/
structure Understands {Reg : Type} (t : Toolchains) (client : untyped.Client Reg) (describe : Reg → Registration) : Prop where
  truthy : ∀ text, client.truthy (.string text) = (text != "")
  no_catalog : ∀ answer : Except String FetchResponse,
    (∀ response, answer = .ok response → response.ok = true → t.Garbled response.body) →
    client.wdm_base_of answer = rust.device_manager.WDM_API_BASE
  catalog : ∀ response links, Catalog t response links → client.wdm_base_of (.ok response) = endpoint links
  garbled : ∀ body, t.Garbled body → ∃ message, client.json_of body = .error (.other message)
  json_of : ∀ body document, t.Reads body document → client.json_of body = .ok document
  listing : ∀ members regs, Devices ((Value.object members).get "devices") regs →
    untyped.own_urls client (client.devices_of (.object members)) = own_urls regs
  url_of : ∀ members reg, Describes members reg → client.url_of (.object members) = .ok (some (.string reg.device_url))
  parsed : ∀ members reg, Describes members reg → t.PlainUrls reg →
    untyped.parsed client describe (.object members) = registered reg

theorem Says.untyped {Reg : Type} {client : untyped.Client Reg} {describe : Reg → Registration}
    (hunderstands : Understands t client describe) (hsaid : Says t req answer reading) :
    (untyped.dialect client describe).read req answer = reading := by
  have hcode : ∀ status, status ≠ 0 → some status = some status := fun _ _ => rfl
  show untyped.read client describe req answer = reading
  cases hsaid with
  | no_catalog hfailed => exact hunderstands.no_catalog answer hfailed
  | catalog hcatalog => exact hunderstands.catalog _ _ hcatalog
  | no_listing hfails =>
    rw [untyped.read, hfails.judge hcode]
    rfl
  | garbled_listing hsucceeds hgarbled =>
    obtain ⟨message, hmessage⟩ := hunderstands.garbled _ hgarbled
    rw [untyped.read, hsucceeds.judge, untyped.own_devices, hmessage]
    rfl
  | listing hlisting =>
    obtain ⟨members, hreads, -, hdevices⟩ := hlisting.document
    rw [untyped.read, hlisting.succeeds.judge, untyped.own_devices, hunderstands.json_of _ _ hreads, ok_bind]
    exact hunderstands.listing members _ hdevices
  | not_created hfails =>
    rw [untyped.read, hfails.judge hcode]
    rfl
  | garbled_creation hsucceeds hgarbled =>
    obtain ⟨message, hmessage⟩ := hunderstands.garbled _ hgarbled
    rw [untyped.read, hsucceeds.judge, Created.of, untyped.created, hmessage]
    rfl
  | @created base token response reg hregistered htrusted hurl =>
    obtain ⟨members, hreads, hdescribes⟩ := hregistered.document
    have htruthy : client.truthy (.string reg.device_url) = true := (hunderstands.truthy _).trans (bne_iff_ne.mpr hurl)
    rw [untyped.read, hregistered.succeeds.judge, Created.of, untyped.created, hunderstands.json_of _ _ hreads]
    dsimp only
    rw [hunderstands.url_of _ _ hdescribes]
    dsimp only
    rw [hunderstands.parsed _ _ hdescribes hregistered.urls, Option.filter_some, if_pos htruthy]
  | not_refreshed hfails =>
    rw [untyped.read, hfails.judge hcode]
    rfl
  | garbled_refresh hsucceeds hgarbled =>
    obtain ⟨message, hmessage⟩ := hunderstands.garbled _ hgarbled
    rw [untyped.read, hsucceeds.judge, ok_bind, untyped.refreshed, hmessage]
    rfl
  | refreshed hregistered =>
    obtain ⟨members, hreads, hdescribes⟩ := hregistered.document
    rw [untyped.read, hregistered.succeeds.judge, ok_bind, untyped.refreshed, hunderstands.json_of _ _ hreads]
    exact hunderstands.parsed _ _ hdescribes hregistered.urls
  | reaped => rfl
  | not_unregistered hfails hgone =>
    rw [untyped.read, hfails.judge hcode]
    rfl
  | unregistered hsucceeds =>
    rw [untyped.read, hsucceeds.judge]
    rfl

theorem understands_node (hstandard : t.Standard) :
    Understands t (node.device_manager.client t.builtins t.parse_json) describe_node where
  truthy text := rfl
  no_catalog answer hfailed := by
    show node.device_manager.wdm_base_of t.builtins t.parse_json answer = _
    cases answer with
    | error e => rfl
    | ok response =>
      rw [node.device_manager.wdm_base_of]
      cases hok : response.ok with
      | false => rfl
      | true =>
        obtain ⟨e, he⟩ := (hfailed response rfl hok).node
        rw [node.device_manager.json_of, he]
        rfl
  catalog response links hcatalog := hcatalog.node hstandard.strings
  garbled body hgarbled := by
    obtain ⟨e, he⟩ := hgarbled.node
    show ∃ message, node.device_manager.json_of t.parse_json body = _
    rw [node.device_manager.json_of, he]
    exact ⟨e, rfl⟩
  json_of body document hreads := by
    show node.device_manager.json_of t.parse_json body = _
    rw [node.device_manager.json_of, hreads.node]
    rfl
  listing members regs hdevices := hdevices.own_urls_node t.builtins t.parse_json
  url_of members reg hdescribes := congrArg Except.ok hdescribes.device_url
  parsed members reg hdescribes hurls := node_registered hstandard hdescribes hurls

theorem understands_python (hstandard : t.Standard) : Understands t (python.device_manager.client t.lib) describe_python where
  truthy text := rfl
  no_catalog answer hfailed := by
    show python.device_manager.wdm_base_of t.lib answer = _
    cases answer with
    | error e => rfl
    | ok response =>
      rw [python.device_manager.wdm_base_of]
      cases hok : response.ok with
      | false => rfl
      | true =>
        obtain ⟨e, he⟩ := (hfailed response rfl hok).python
        rw [python.device_manager.json_of, he]
        rfl
  catalog response links hcatalog := hcatalog.python hstandard.strings
  garbled body hgarbled := by
    obtain ⟨e, he⟩ := hgarbled.python
    show ∃ message, python.device_manager.json_of t.lib body = _
    rw [python.device_manager.json_of, he]
    exact ⟨e, rfl⟩
  json_of body document hreads := by
    show python.device_manager.json_of t.lib body = _
    rw [python.device_manager.json_of, hreads.python]
    rfl
  listing members regs hdevices := hdevices.own_urls_python t.lib
  url_of members reg hdescribes := by
    show (python.device_manager.item (.object members) "url").map some = _
    rw [python.device_manager.item, hdescribes.device_url]
    rfl
  parsed members reg hdescribes hurls := python_registered hstandard hdescribes hurls

/-- Every port reads an answer the same way. -/
theorem Says.read_eq (hstandard : t.Standard) (hsaid : Says t req answer reading) {implementation : Implementation}
    (hmem : implementation ∈ t.implementations) : implementation.port.dialect.read req answer = reading := by
  simp only [Toolchains.implementations, List.mem_cons, List.not_mem_nil, or_false] at hmem
  obtain rfl | rfl | rfl | rfl := hmem
  · exact hsaid.rust hstandard
  · exact hsaid.go hstandard
  · exact hsaid.untyped (understands_node hstandard)
  · exact hsaid.untyped (understands_python hstandard)

end answers

end webex.registration
