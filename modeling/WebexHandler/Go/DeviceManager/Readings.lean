import WebexHandler.Go.DeviceManager

open interaction json
open webex.registration (Dialect Endpoint Rejection Created Request FetchRequest FetchResponse judge inStep_judged inStep_retry bearer
  content_type)

namespace webex.go.device_manager

/-- A string of Go, where an empty one says that there is none. -/
def optional (text : String) : Option String := if text = "" then none else some text

/-- A status of Go, where zero says that there is none. -/
def status_of (code : Nat) : Option Nat := if code = 0 then none else some code

def rejection : Failure → Rejection
  | .auth _ => .unauthorized
  | .device_registration _ status_code => .refused (status_of status_code)
  | .other _ => .refused none

def describe (reg : DeviceRegistration) : registration.Registration where
  web_socket_url := some (.string reg.web_socket_url)
  device_url := some (.string reg.device_url)
  user_id := some (.string reg.user_id)
  services := .object (reg.services.map fun entry => (entry.1, .string entry.2))
  encryption_service_url := .string reg.encryption_service_url

/-- The text of a URL that the protocol keeps. -/
def url_of (device : Value) : String := device.as_str.getD ""

section dialect

variable (pkg : Packages)

def request : Request → FetchRequest String
  | .catalog token => { url := u2c_catalog_url, method := "GET", headers := [bearer token], body := none }
  | .list base token => { url := base, method := "GET", headers := [bearer token], body := none }
  | .create base token =>
    { url := base ++ "?includeUpstreamServices=all", method := "POST", headers := [bearer token, content_type],
      body := some (pkg.marshal device_body) }
  | .refresh device token =>
    { url := url_of device, method := "PUT", headers := [bearer token, content_type],
      body := some (pkg.marshal device_body) }
  | .reap device token => { url := url_of device, method := "DELETE", headers := [bearer token], body := none }
  | .unregister device token =>
    { url := url_of device, method := "DELETE", headers := [bearer token, content_type], body := none }

def own_devices : Except Rejection rust.Bytes → List WdmDeviceResponse
  | .error _ => []
  | .ok body => ((unmarshal_body pkg body (unmarshal [] set_devices)).toOption.getD []).filter is_own_device

def parsed (data : WdmDeviceResponse) : Except Rejection registration.Registration :=
  ((parse_device_response pkg data).mapError rejection).map describe

/-- A device is kept whether or not its registration passes the checks. -/
def created (body : rust.Bytes) : Created :=
  match unmarshal_body pkg body unmarshal_device with
  | .error _ => { outcome := .error (.refused none) }
  | .ok data => { outcome := parsed pkg data, device := some ((optional data.url).map .string) }

def refreshed (body : rust.Bytes) : Except Rejection registration.Registration :=
  match unmarshal_body pkg body unmarshal_device with
  | .error _ => .error (.refused none)
  | .ok data => parsed pkg data

def read : (req : Request) → Except String FetchResponse → registration.Answer req
  | .catalog _, answer => wdm_base_of pkg answer
  | .list _ _, answer => (own_devices pkg (judge status_of answer)).map fun d => .string d.url
  | .create _ _, answer => .of (judge status_of answer) (created pkg)
  | .refresh _ _, answer => judge status_of answer >>= refreshed pkg
  | .reap _ _, _ => ()
  | .unregister _ _, answer => (judge status_of answer).map fun _ => ()

def dialect : Dialect (FetchRequest String) DeviceManager Failure where
  request := request pkg
  read := read pkg
  manager dm := { device := (optional dm.device_url).map .string, base := optional dm.wdm_devices_url }
  rejection := rejection

end dialect

variable {pkg : Packages}

abbrev InStep {α α' : Type} (pkg : Packages) (outcomes : Except Failure α → Except Rejection α' → Prop) (m : Dm α)
    (m' : registration.Dm α') : Prop :=
  m.InStep (dialect pkg).sync (dialect pkg).Stands outcomes m'

theorem optional_of_ne {text : String} (hne : text ≠ "") : optional text = some text := if_neg hne

theorem wdm_base_of_endpoint (answer : Except String FetchResponse) : Endpoint wdm_api_base (wdm_base_of pkg answer) := by
  unfold wdm_base_of
  split
  · exact .default
  · split
    · exact .default
    · split
      · exact .default
      · dsimp only
        split
        · exact .default
        · split
          · exact .default
          · exact .link _

theorem discover_wdm_base_completes (token : String) :
    InStep pkg ((dialect pkg).Completes Eq) (discover_wdm_base pkg token) (registration.locate token) := by
  unfold discover_wdm_base registration.locate
  apply Method.inStep_bind_get
  rintro dm _ rfl
  dsimp only [dialect]
  by_cases hempty : dm.wdm_devices_url = ""
  · rw [hempty]
    refine Method.inStep_bind_request rfl ?_
    rintro answer _ rfl
    refine Method.inStep_bind_modify ?_ (Method.inStep_pure (.ok rfl))
    rintro dm _ rfl
    show _ = Dialect.manager (dialect pkg) _
    simp only [dialect, optional_of_ne ((wdm_base_of_endpoint answer).ne rfl (by decide))]
    rfl
  · rw [if_pos (bne_iff_ne.mpr hempty), optional_of_ne hempty]
    exact Method.inStep_pure (.ok rfl)

/-- The client's own devices in a listing, if it does not fail. -/
def own_urls (listed : Except Failure (List WdmDeviceResponse)) : List Value :=
  ((listed.toOption.getD []).filter is_own_device).map fun d => .string d.url

theorem list_devices_completes (token : String) :
    InStep pkg ((dialect pkg).Completes fun listed own => own = own_urls listed)
      (list_devices pkg token).attempt (registration.list token) := by
  apply Method.inStep_attempt
  refine Method.inStep_bind (discover_wdm_base_completes token) ?_ fun _ _ hfalse => hfalse.elim
  rintro base _ rfl
  refine Method.inStep_request rfl ?_
  rintro answer _ rfl
  refine inStep_judged (dialect pkg) status_of (fun judged => (return (own_devices pkg judged).map fun d => .string d.url :
    registration.Dm (List Value))) ?_ ?_ ?_ ?_ ?_
  · exact fun _ => rfl
  · exact rfl
  · exact fun _ => rfl
  · intro e
    exact Method.inStep_ofExcept (SameOutcome.ok rfl)
  · rintro response -
    rw [own_devices]
    cases unmarshal_body pkg response.body (unmarshal [] set_devices) with
    | error e => exact Method.inStep_ofExcept (SameOutcome.ok rfl)
    | ok devices => exact Method.inStep_ofExcept (SameOutcome.ok rfl)

theorem find_reusable_device_completes (token : String) :
    InStep pkg ((dialect pkg).Completes fun found device => device = (optional found).map .string)
      (find_reusable_device pkg token) (registration.find token) := by
  unfold find_reusable_device registration.find
  refine Method.inStep_bind (list_devices_completes token) ?_ fun _ _ hfalse => hfalse.elim
  rintro listed _ rfl
  cases listed with
  | error e => exact Method.inStep_pure (.ok rfl)
  | ok devices =>
    refine Method.inStep_pure (.ok ?_)
    simp only [own_urls, Except.toOption, Option.getD_some, List.head?_map, List.head?_filter]
    cases hfound : devices.find? is_own_device with
    | none => rfl
    | some d =>
      have hown := List.find?_some hfound
      simp only [is_own_device, Bool.and_eq_true, bne_iff_ne] at hown
      simp [optional_of_ne hown.2]

theorem delete_devices_completes (token : String) (devices : List WdmDeviceResponse) :
    InStep pkg ((dialect pkg).Completes fun _ _ => True) (delete_devices token devices)
      (registration.reap_all token (devices.map fun d => .string d.url)) := by
  induction devices with
  | nil => exact Method.inStep_pure (.ok trivial)
  | cons d rest ih => exact Method.inStep_bind_request rfl fun _ _ _ => ih

theorem reap_own_devices_completes (token : String) :
    InStep pkg ((dialect pkg).Completes fun _ _ => True) (reap_own_devices pkg token) (registration.reap token) := by
  unfold reap_own_devices registration.reap
  refine Method.inStep_bind (list_devices_completes token) ?_ fun _ _ hfalse => hfalse.elim
  rintro listed _ rfl
  cases listed with
  | error e => exact Method.inStep_pure (.ok trivial)
  | ok devices => exact delete_devices_completes token (devices.filter is_own_device)

theorem parse_device_response_ends (data : WdmDeviceResponse) :
    (dialect pkg).Ends describe (parse_device_response pkg data) (parsed pkg data) := by
  rw [parsed]
  cases parse_device_response pkg data with
  | error e => exact .error rfl
  | ok reg => exact .ok rfl

theorem create_device_follows (token : String) :
    (dialect pkg).Follows describe (create_device pkg token) (registration.create token) := by
  unfold create_device registration.create
  refine Method.inStep_bind (discover_wdm_base_completes token) ?_ fun _ _ hfalse => hfalse.elim
  rintro base _ rfl
  refine Method.inStep_bind_request rfl ?_
  rintro answer _ rfl
  refine inStep_judged (dialect pkg) status_of (fun judged => registration.settle (.of judged (created pkg)))
    (fun _ => rfl) rfl (fun _ => rfl) ?_ ?_
  · intro e
    exact Method.inStep_throw (.error rfl)
  · rintro response -
    simp only [Created.of, created]
    cases unmarshal_body pkg response.body unmarshal_device with
    | error e => exact Method.inStep_throw (.error rfl)
    | ok data =>
      rintro dm _ rfl
      exact ⟨parse_device_response_ends data, rfl⟩

/-- A call that needs a device, and the one the protocol has. -/
theorem inStep_registered {α α' : Type} {outcomes : Except Failure α → Except Rejection α' → Prop} {dm : DeviceManager}
    {rest : Dm α} {rest' : Value → registration.Dm α'} (hnone : outcomes (.error not_registered) (.error (.refused none)))
    (hrest : InStep pkg outcomes rest (rest' (.string dm.device_url))) :
    InStep pkg outcomes (Method.reject (dm.device_url == "") not_registered >>= fun _ => rest)
      (Method.ofExcept (((optional dm.device_url).map Value.string).elim (.error (.refused none)) .ok) >>= rest') := by
  by_cases hempty : dm.device_url = ""
  · rw [hempty]
    exact Method.inStep_throw hnone
  · rw [beq_eq_false_iff_ne.mpr hempty, optional_of_ne hempty]
    exact hrest

theorem refresh_follows (token : String) :
    (dialect pkg).Follows describe (refresh pkg token) (registration.refresh token) := by
  unfold refresh registration.refresh
  apply Method.inStep_bind_get
  rintro dm _ rfl
  refine inStep_registered (.error rfl) ?_
  refine Method.inStep_bind_request rfl ?_
  rintro answer _ rfl
  refine inStep_judged (dialect pkg) status_of (fun judged => Method.ofExcept (judged >>= refreshed pkg)) (fun _ => rfl) rfl
    (fun _ => rfl) ?_ ?_
  · intro e
    exact Method.inStep_throw (.error rfl)
  · rintro response -
    show InStep pkg _ _ (Method.ofExcept (refreshed pkg response.body))
    rw [refreshed]
    cases unmarshal_body pkg response.body unmarshal_device with
    | error e => exact Method.inStep_throw (.error rfl)
    | ok data => exact Method.inStep_ofExcept (parse_device_response_ends data)

theorem is_excessive_iff (e : Failure) :
    is_excessive_registrations_error e = true ↔ rejection e = .refused (some 403) := by
  cases e with
  | device_registration message status_code =>
    simp only [is_excessive_registrations_error, rejection, status_of, beq_iff_eq, Rejection.refused.injEq]
    split <;> simp [*]
  | _ => simp [is_excessive_registrations_error, rejection]

theorem register_new_follows (token : String) :
    (dialect pkg).Follows describe (register_new pkg token) (registration.register_new token) := by
  unfold register_new registration.register_new
  refine Method.inStep_bind (Method.inStep_attempt_both (create_device_follows token)) ?_
    fun _ _ (hfalse : False) => hfalse.elim
  rintro created _ hends
  cases hends with
  | ok hvalues => exact Method.inStep_pure (.ok hvalues)
  | error herrors =>
    obtain rfl := herrors
    refine inStep_retry ?_ (is_excessive_iff _)
    exact Method.inStep_bind (reap_own_devices_completes token) (fun _ _ _ => create_device_follows token)
      fun _ _ hfalse => hfalse.elim

theorem register_follows (token : String) :
    (dialect pkg).Follows describe (register pkg token) (registration.register token) := by
  unfold register registration.register
  refine Method.inStep_bind (find_reusable_device_completes token) ?_ fun _ _ hfalse => hfalse.elim
  rintro existing _ rfl
  by_cases hempty : existing = ""
  · rw [hempty]
    exact register_new_follows token
  · rw [if_pos hempty, optional_of_ne hempty]
    refine Method.inStep_bind_modify ?_ ?_
    · rintro dm _ rfl
      show _ = Dialect.manager (dialect pkg) _
      simp only [dialect, optional_of_ne hempty]
      rfl
    · refine Method.inStep_bind (Method.inStep_attempt_both (refresh_follows token)) ?_
        fun _ _ (hfalse : False) => hfalse.elim
      rintro refreshed _ hends
      cases hends with
      | ok hvalues => exact Method.inStep_pure (.ok hvalues)
      | error _ =>
        refine Method.inStep_bind_modify ?_ (register_new_follows token)
        rintro dm _ rfl
        rfl

theorem unregister_follows (token : String) :
    (dialect pkg).Follows id (unregister token) (registration.unregister token) := by
  unfold unregister registration.unregister
  apply Method.inStep_bind_get
  rintro dm _ rfl
  refine inStep_registered (.error rfl) ?_
  refine Method.inStep_bind_request rfl ?_
  rintro answer _ rfl
  refine inStep_judged (dialect pkg) status_of (fun judged => Method.ofExcept (judged.map fun _ => ()) >>= fun _ =>
    modify fun self => { self with device := none }) ?_ ?_ ?_ ?_ ?_
  · exact fun _ => rfl
  · exact rfl
  · exact fun _ => rfl
  · intro e
    exact Method.inStep_throw (.error rfl)
  · rintro response - dm _ rfl
    exact ⟨.ok rfl, rfl⟩

end webex.go.device_manager
