import WebexHandler.Rust.DeviceManager

open interaction json

namespace webex.rust.device_manager

open url_validation (Accepted)

instance (required_scheme raw_url : String) : Decidable (Accepted required_scheme raw_url) :=
  match h : url_validation.validate_webex_url raw_url required_scheme with
  | .ok () => isTrue h
  | .error _ => isFalse fun haccepted => nomatch h.symm.trans haccepted

variable (crates : Crates)

/-- The URL of a device that a registration creates is a Webex one. -/
def trusted_registration (body : Bytes) : Bool :=
  match checked_registration crates body with
  | .error _ => true
  | .ok reg => decide (Accepted "https" reg.device_url)

/-- The URLs of this client's devices in a listing are Webex ones. -/
def trusted_listing (body : Bytes) : Bool :=
  match crates.device_list_from_slice body with
  | .error _ => true
  | .ok devices => devices.all fun device_json =>
      match crates.registration_from_value device_json with
      | .error _ => true
      | .ok device => !is_own_device device || decide (Accepted "https" device.device_url)

/-- The answer to a registration or a listing gives no device a foreign URL. -/
def trusted_answer (req : FetchRequest) : Except String FetchResponse → Bool
  | .error _ => true
  | .ok response =>
    if response.ok = false then true
    else if req.method = "POST" then trusted_registration crates response.body
    else if req.method = "GET" ∧ req.url ≠ U2C_CATALOG_URL then trusted_listing crates response.body
    else true

/-- A WDM endpoint that requests can be made of. -/
structure TrustedBase (url : String) : Prop where
  listing : Accepted "https" url
  registration : Accepted "https" (url ++ "?includeUpstreamServices=all")
  not_catalog : url ≠ U2C_CATALOG_URL

/-- The URLs a `DeviceManager` keeps have been accepted. -/
structure TrustedManager (dm : DeviceManager) : Prop where
  device_url : ∀ url, dm.device_url = some url → Accepted "https" url
  wdm_devices_url : ∀ url, dm.wdm_devices_url = some url → TrustedBase url

/-- What `checked_registration` guarantees of a registration. -/
structure CheckedUrls (reg : DeviceRegistration) : Prop where
  web_socket_url : reg.web_socket_url ≠ "" → Accepted "wss" reg.web_socket_url
  encryption_service_url : reg.encryption_service_url ≠ "" → Accepted "https" reg.encryption_service_url

/-- An answer that gives no device a foreign URL, and registrations that are `named`. -/
def Answered (named : DeviceRegistration → Prop) (req : FetchRequest) (answer : Except String FetchResponse) : Prop :=
  trusted_answer crates req answer = true ∧
    ∀ response, answer = .ok response → response.ok = true → req.method = "POST" ∨ req.method = "PUT" →
      ∀ reg, checked_registration crates response.body = .ok reg → named reg

variable {γ : Type} {mon : Monitor FetchRequest Res γ} {named : DeviceRegistration → Prop}

/-- A monitor that permits the requests to accepted URLs and admits such answers only. -/
structure Confines (mon : Monitor FetchRequest Res γ) (named : DeviceRegistration → Prop) : Prop where
  allowed : ∀ g req, Accepted "https" req.url → mon.allowed g req
  answered : ∀ g req answer g', Accepted "https" req.url → mon.moves g req answer g' →
    Answered crates named req answer

theorem trusted_base_default : TrustedBase WDM_API_BASE where
  listing := by decide
  registration := by decide
  not_catalog := by decide

theorem accepted_u2c_catalog : Accepted "https" U2C_CATALOG_URL := by decide

variable {crates}

/-- A validated service link stays on its host when the endpoint is built from it. -/
theorem trusted_base_of_link {wdm : String} (haccepted : Accepted "https" wdm) :
    TrustedBase (trim_end_slashes wdm ++ "/devices") := by
  have htrimmed : Accepted "https" (trim_end_slashes wdm) := haccepted.rdropWhile
  refine ⟨htrimmed.append_path (by decide), ?_, ?_⟩
  · rw [String.append_assoc]
    exact htrimmed.append_path (by decide)
  · intro hcatalog
    have hlast := congrArg (fun url => url.toList.getLast?) hcatalog
    have hpath : "/devices".toList.getLast? = some 's' := by decide
    have hquery : U2C_CATALOG_URL.toList.getLast? = some 'p' := by decide
    simp only [String.toList_append, List.getLast?_append, hpath, hquery, Option.some_or] at hlast
    exact absurd hlast (by decide)

theorem wdm_base_of_trusted (response : Except String FetchResponse) : TrustedBase (wdm_base_of crates response) := by
  unfold wdm_base_of
  split
  · exact trusted_base_default
  · split
    · exact trusted_base_default
    · split
      · exact trusted_base_default
      · split
        · exact trusted_base_default
        · split
          · exact trusted_base_default
          · split
            · exact trusted_base_default
            · rename_i hvalid
              exact trusted_base_of_link hvalid

theorem checked_url_accepted {field url required_scheme : String}
    (hchecked : checked_url field url required_scheme = .ok ()) (hne : url ≠ "") : Accepted required_scheme url := by
  rw [checked_url, if_neg hne, Method.mapError_eq_ok] at hchecked
  exact hchecked

theorem checked_registration_urls {body : Bytes} {reg : DeviceRegistration}
    (hchecked : checked_registration crates body = .ok reg) : CheckedUrls reg := by
  simp only [checked_registration, bind, Except.bind, pure, Except.pure] at hchecked
  split at hchecked
  · simp at hchecked
  · split at hchecked
    · simp at hchecked
    · rename_i hsocket
      split at hchecked
      · simp at hchecked
      · rename_i hservice
        obtain rfl := Except.ok.inj hchecked
        exact ⟨checked_url_accepted hsocket, checked_url_accepted hservice⟩

theorem listed_device {body : Bytes} {devices : List Value} (htrusted : trusted_listing crates body = true)
    (hdevices : crates.device_list_from_slice body = .ok devices) {device : DeviceRegistration}
    (hmem : device ∈ devices.filterMap fun device_json =>
      (crates.registration_from_value device_json).toOption.map with_encryption_service_url)
    (hown : is_own_device device = true) : Accepted "https" device.device_url := by
  simp only [trusted_listing, hdevices, List.all_eq_true] at htrusted
  simp only [List.mem_filterMap, Option.map_eq_some_iff] at hmem
  obtain ⟨device_json, hjson, parsed, hparsed, rfl⟩ := hmem
  have hone := htrusted device_json hjson
  cases hvalue : crates.registration_from_value device_json with
  | error e => simp [hvalue, Except.toOption] at hparsed
  | ok device =>
    obtain rfl : device = parsed := by simpa [hvalue, Except.toOption] using hparsed
    have howned : is_own_device device = true := hown
    have haccepted : Accepted "https" device.device_url := by
      simpa [hvalue, howned] using hone
    exact haccepted

theorem TrustedManager.registered {dm : DeviceManager} (htrusted : TrustedManager dm) {device_url : String}
    (hurl : dm.device_url.elim (.error not_registered) .ok = Except.ok device_url) :
    Accepted "https" device_url := by
  cases hkept : dm.device_url with
  | none => simp [hkept] at hurl
  | some url =>
    simp only [hkept, Option.elim_some, Except.ok.injEq] at hurl
    exact htrusted.device_url device_url (hkept.trans (congrArg some hurl))

namespace Confines

theorem fetch (hmon : Confines crates mon named) {req : FetchRequest} (haccepted : Accepted "https" req.url) :
    (fetch req).Ensures mon TrustedManager (Answered crates named req) :=
  Method.ensures_request (fun g => hmon.allowed g req haccepted)
    fun g answer g' hmove => hmon.answered g req answer g' haccepted hmove

theorem discover_wdm_base (hmon : Confines crates mon named) (token : String) :
    (discover_wdm_base crates token).Ensures mon TrustedManager TrustedBase := by
  unfold device_manager.discover_wdm_base
  refine Method.ensures_bind Method.ensures_get fun self hself => ?_
  split
  · rename_i url hurl
    exact Method.ensures_pure (hself.wdm_devices_url url hurl)
  · refine Method.ensures_bind (hmon.fetch accepted_u2c_catalog) fun response _ => ?_
    have hbase : TrustedBase (wdm_base_of crates response) := wdm_base_of_trusted response
    refine Method.ensures_bind (Method.ensures_modify ?_) fun _ _ => Method.ensures_pure hbase
    intro self hself
    refine ⟨hself.device_url, fun url hurl => ?_⟩
    exact Option.some.inj hurl ▸ hbase

theorem create_device (hmon : Confines crates mon named) (token : String) :
    (create_device crates token).Ensures mon TrustedManager fun reg => named reg ∧ CheckedUrls reg := by
  unfold device_manager.create_device
  refine Method.ensures_bind (hmon.discover_wdm_base token) fun base hbase => ?_
  refine Method.ensures_bind (hmon.fetch hbase.registration) fun answer hanswer => ?_
  refine Method.ensures_bind_ofExcept fun response hresponse => ?_
  refine Method.ensures_bind_reject fun _ => Method.ensures_bind_reject fun hok => ?_
  refine Method.ensures_bind_ofExcept fun reg hreg => ?_
  rw [Method.mapError_eq_ok] at hresponse
  subst hresponse
  have hresponse_ok : response.ok = true := by simpa using hok
  have haccepted : Accepted "https" reg.device_url := by
    simpa [trusted_answer, hresponse_ok, trusted_registration, hreg] using hanswer.1
  refine Method.ensures_bind (Method.ensures_modify fun self hself => ?_) fun _ _ => Method.ensures_pure ?_
  · exact ⟨fun url hurl => Option.some.inj hurl ▸ haccepted, hself.wdm_devices_url⟩
  · exact ⟨hanswer.2 response rfl hresponse_ok (.inl rfl) reg hreg, checked_registration_urls hreg⟩

theorem list_devices (hmon : Confines crates mon named) (token : String) :
    (list_devices crates token).Ensures mon TrustedManager fun devices =>
      ∀ device ∈ devices, is_own_device device = true → Accepted "https" device.device_url := by
  unfold device_manager.list_devices
  refine Method.ensures_bind (hmon.discover_wdm_base token) fun base hbase => ?_
  refine Method.ensures_bind (hmon.fetch hbase.listing) fun answer hanswer => ?_
  refine Method.ensures_bind_ofExcept fun response hresponse => ?_
  refine Method.ensures_bind_reject fun _ => Method.ensures_bind_reject fun hok => ?_
  refine Method.ensures_bind_ofExcept fun devices hdevices => Method.ensures_pure ?_
  rw [Method.mapError_eq_ok] at hresponse hdevices
  subst hresponse
  have hresponse_ok : response.ok = true := by simpa using hok
  have htrusted : trusted_listing crates response.body = true := by
    simpa [trusted_answer, hresponse_ok, hbase.not_catalog] using hanswer.1
  exact fun device hmem hown => listed_device htrusted hdevices hmem hown

theorem find_reusable_device (hmon : Confines crates mon named) (token : String) :
    (find_reusable_device crates token).Ensures mon TrustedManager fun found =>
      ∀ url, found = some url → Accepted "https" url := by
  unfold device_manager.find_reusable_device
  refine Method.ensures_bind (Method.ensures_attempt (hmon.list_devices token)) fun listed hlisted => ?_
  split
  · rename_i devices
    refine Method.ensures_pure fun url hurl => ?_
    simp only [Option.map_eq_some_iff] at hurl
    obtain ⟨device, hfind, rfl⟩ := hurl
    exact hlisted devices rfl device (List.mem_of_find?_eq_some hfind) (List.find?_some hfind)
  · exact Method.ensures_pure nofun

theorem delete_devices (hmon : Confines crates mon named) (token : String) (devices : List DeviceRegistration)
    (haccepted : ∀ device ∈ devices, Accepted "https" device.device_url) :
    (delete_devices token devices).Ensures mon TrustedManager fun _ => True := by
  induction devices with
  | nil => exact Method.ensures_pure trivial
  | cons device rest ih =>
    have hdelete : (delete_device device.device_url token).Ensures mon TrustedManager fun _ => True := by
      unfold delete_device
      refine Method.ensures_bind (hmon.fetch (haccepted device (by simp))) fun answer _ => ?_
      exact Method.ensures_bind_ofExcept fun response _ => Method.ensures_pure trivial
    refine Method.ensures_bind (Method.ensures_attempt hdelete) fun _ _ => ?_
    exact ih fun other hmem => haccepted other (List.mem_cons_of_mem device hmem)

theorem reap_own_devices (hmon : Confines crates mon named) (token : String) :
    (reap_own_devices crates token).Ensures mon TrustedManager fun _ => True := by
  unfold device_manager.reap_own_devices
  refine Method.ensures_bind (Method.ensures_attempt (hmon.list_devices token)) fun listed hlisted => ?_
  split
  · rename_i devices
    refine hmon.delete_devices token _ fun device hmem => ?_
    obtain ⟨hmem, hown⟩ := List.mem_filter.mp hmem
    exact hlisted devices rfl device hmem hown
  · exact Method.ensures_pure trivial

theorem refresh (hmon : Confines crates mon named) (token : String) :
    (refresh crates token).Ensures mon TrustedManager fun reg => named reg ∧ CheckedUrls reg := by
  unfold device_manager.refresh
  refine Method.ensures_bind Method.ensures_get fun self hself => ?_
  refine Method.ensures_bind_ofExcept fun device_url hurl => ?_
  refine Method.ensures_bind (hmon.fetch (hself.registered hurl)) fun answer hanswer => ?_
  refine Method.ensures_bind_ofExcept fun response hresponse => ?_
  refine Method.ensures_bind_reject fun _ => Method.ensures_bind_reject fun hok => ?_
  refine Method.ensures_ofExcept fun reg hreg => ⟨?_, checked_registration_urls hreg⟩
  rw [Method.mapError_eq_ok] at hresponse
  exact hanswer.2 response hresponse (by simpa using hok) (.inr rfl) reg hreg

theorem register_new (hmon : Confines crates mon named) (token : String) :
    (register_new crates token).Ensures mon TrustedManager fun reg => named reg ∧ CheckedUrls reg := by
  unfold device_manager.register_new
  refine Method.ensures_bind (Method.ensures_attempt (hmon.create_device token)) fun created hcreated => ?_
  split
  · exact Method.ensures_pure (hcreated _ rfl)
  · exact Method.ensures_bind (hmon.reap_own_devices token) fun _ _ => hmon.create_device token
  · exact Method.ensures_throw _

theorem register (hmon : Confines crates mon named) (token : String) :
    (register crates token).Ensures mon TrustedManager fun reg => named reg ∧ CheckedUrls reg := by
  unfold device_manager.register
  refine Method.ensures_bind (hmon.find_reusable_device token) fun found hfound => ?_
  split
  · rename_i existing_url
    refine Method.ensures_bind (Method.ensures_modify fun self hself => ?_) fun _ _ => ?_
    · exact ⟨fun url hurl => Option.some.inj hurl ▸ hfound existing_url rfl, hself.wdm_devices_url⟩
    refine Method.ensures_bind (Method.ensures_attempt (hmon.refresh token)) fun refreshed hrefreshed => ?_
    split
    · exact Method.ensures_pure (hrefreshed _ rfl)
    · refine Method.ensures_bind (Method.ensures_modify fun self hself => ?_) fun _ _ => hmon.register_new token
      exact ⟨nofun, hself.wdm_devices_url⟩
  · exact hmon.register_new token

theorem unregister (hmon : Confines crates mon named) (token : String) :
    (unregister token).Ensures mon TrustedManager fun _ => True := by
  unfold device_manager.unregister
  refine Method.ensures_bind Method.ensures_get fun self hself => ?_
  refine Method.ensures_bind_ofExcept fun device_url hurl => ?_
  refine Method.ensures_bind (hmon.fetch (hself.registered hurl)) fun answer hanswer => ?_
  refine Method.ensures_bind_ofExcept fun response _ => ?_
  refine Method.ensures_bind_reject fun _ => Method.ensures_bind_reject fun _ => ?_
  exact Method.ensures_modify fun self hself => ⟨nofun, hself.wdm_devices_url⟩

end Confines

/-- The monitor of a `DeviceManager` on its own. -/
def confinement (crates : Crates) : Monitor FetchRequest Res Unit where
  allowed _ req := Accepted "https" req.url
  moves _ req answer _ := trusted_answer crates req answer = true

theorem confines_session : Confines crates (confinement crates) (fun _ => True) where
  allowed _ _ haccepted := haccepted
  answered _ _ _ _ _ htrusted := ⟨htrusted, fun _ _ _ _ _ _ => trivial⟩

/-- The answers a `DeviceManager` gets are trusted ones. -/
def trusted_step (crates : Crates) (s : Program FetchRequest Res DeviceManager) : Label → Bool
  | .fetched answer => s.head.elim true fun req => trusted_answer crates req answer
  | _ => true

/-- What is left of the running call confines the token. -/
def SessionTrusted (crates : Crates) (s : Program FetchRequest Res DeviceManager) : Prop :=
  s.Obeys (confinement crates) (fun dm _ => TrustedManager dm) ()

theorem call_trusted {α : Type} {m : Dm α} {post : α → Prop} (hm : m.Ensures (confinement crates) TrustedManager post)
    {dm : DeviceManager} (htrusted : TrustedManager dm) :
    SessionTrusted crates (call m dm) := by
  rw [SessionTrusted, call, Program.obeys_bind]
  exact Program.Obeys.mono (fun out _ hout => hout.1) (hm dm () htrusted)

theorem SessionTrusted.step {s next : Program FetchRequest Res DeviceManager} {label : Label}
    (hobeys : SessionTrusted crates s) (htrusted : trusted_step crates s label = true)
    (hstep : (session crates).step s label = some next) : SessionTrusted crates next := by
  cases s with
  | ret dm =>
    cases label with
    | register token =>
      obtain rfl := Option.some.inj hstep
      exact call_trusted (confines_session.register token) hobeys
    | refresh token =>
      obtain rfl := Option.some.inj hstep
      exact call_trusted (confines_session.refresh token) hobeys
    | unregister token =>
      obtain rfl := Option.some.inj hstep
      exact call_trusted (confines_session.unregister token) hobeys
    | fetched answer => simp [session] at hstep
  | ask req resume =>
    cases label with
    | fetched answer =>
      obtain rfl := Option.some.inj hstep
      exact hobeys.2 answer () htrusted
    | register token => simp [session] at hstep
    | refresh token => simp [session] at hstep
    | unregister token => simp [session] at hstep

/-- Every request of a `DeviceManager` that gets trusted answers only goes to an
    accepted URL. -/
theorem session_confined {s : Program FetchRequest Res DeviceManager}
    (hreach : (session crates).Reachable (fun s label => trusted_step crates s label = true) s)
    {req : FetchRequest} (hhead : s.head = some req) : Accepted "https" req.url := by
  have hobeys : SessionTrusted crates s := by
    refine hreach.invariant ?_ ?_
    · exact ⟨nofun, nofun⟩
    · exact fun s label next _ hobeys htrusted hstep => hobeys.step htrusted hstep
  cases s with
  | ret dm => simp [Program.head] at hhead
  | ask op next =>
    obtain rfl : op = req := by simpa [Program.head] using hhead
    exact hobeys.1

end webex.rust.device_manager
