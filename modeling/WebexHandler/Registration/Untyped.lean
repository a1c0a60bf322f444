import WebexHandler.Registration.Port

open interaction json

namespace webex.registration.untyped

/-- An error, by its class. -/
inductive Failure
  | auth (message : String)
  | device_registration (message : String) (status_code : Option Nat)
  | other (message : String)
  deriving DecidableEq, Repr

/-- The URL of the device is stored as the response has it, whatever its type. -/
structure DeviceManager where
  device_url : Option Value := none
  wdm_devices_url : Option String := none

abbrev Dm (α : Type) : Type := Method (FetchRequest Value) Fetched DeviceManager Failure α

/-- What a port whose language does not check the types of a response makes of one: its truth
    values, its endpoint, its devices, and its registration. -/
structure Client (Reg : Type) where
  catalog_url : String
  body : String
  truthy : Value → Bool
  wdm_base_of : Except String FetchResponse → String
  json_of : rust.Bytes → Except Failure Value
  devices_of : Value → Except Failure Value
  iterate : Value → Except Failure (List Value)
  own_device : Value → Except Failure (Option Value)
  url_of : Value → Except Failure (Option Value)
  parse_device_response : Value → Except Failure Reg
  wdm_base_of_endpoint : ∀ answer, Endpoint rust.device_manager.WDM_API_BASE (wdm_base_of answer)
  own_device_truthy : ∀ device url, own_device device = .ok url → url.filter truthy = url

def fetch (req : FetchRequest Value) : Dm (Except String FetchResponse) := Method.request req

/-- An error of another class is replaced by one of the port. -/
def rethrow {α : Type} (message : String) : Failure → Dm α
  | .other _ => throw (.device_registration message none)
  | e => throw e

def is_excessive_registrations_error : Failure → Bool
  | .device_registration _ status_code => status_code == some 403
  | _ => false

def not_registered : Failure := .device_registration "Device not registered. Call register() first." none

namespace Client

variable {Reg : Type} (client : Client Reg)

def discover_wdm_base (token : String) : Dm String := do
  let self ← get
  match self.wdm_devices_url.filter (· != "") with
  | some url => return url
  | none => do
    let response ← fetch { url := .string client.catalog_url, method := "GET", headers := [bearer token], body := none }
    modify fun self => { self with wdm_devices_url := some (client.wdm_base_of response) }
    return client.wdm_base_of response

/-- The device is kept before its registration is checked. -/
def create_device (token : String) : Dm Reg :=
  tryCatch (do
    let base ← client.discover_wdm_base token
    let response ← fetch {
      url := .string (base ++ "?includeUpstreamServices=all")
      method := "POST"
      headers := [bearer token, content_type]
      body := some client.body }
    let response ← Method.ofExcept (response.mapError Failure.other)
    Method.reject (response.status == 401) (.auth "Unauthorized to register device")
    Method.reject (!response.ok) (.device_registration "Failed to register device" (some response.status))
    let data ← Method.ofExcept (client.json_of response.body)
    let url ← Method.ofExcept (client.url_of data)
    modify fun self => { self with device_url := url }
    Method.ofExcept (client.parse_device_response data)) (rethrow "Failed to register device")

def list_devices (token : String) : Dm Value := do
  let base ← client.discover_wdm_base token
  let response ← fetch { url := .string base, method := "GET", headers := [bearer token], body := none }
  let response ← Method.ofExcept (response.mapError Failure.other)
  Method.reject (response.status == 401) (.auth "Unauthorized to list devices")
  Method.reject (!response.ok)
    (.device_registration ("Failed to list devices: " ++ toString response.status) (some response.status))
  let list ← Method.ofExcept (client.json_of response.body)
  Method.ofExcept (client.devices_of list)

/-- The loop of the search for a device. -/
def first_own_device : List Value → Except Failure (Option Value)
  | [] => .ok none
  | device :: rest => do
    match ← client.own_device device with
    | some url => return some url
    | none => first_own_device rest

def find_reusable_device (token : String) : Dm (Option Value) := do
  match ← (client.list_devices token).attempt with
  | .ok devices => return (client.iterate devices >>= client.first_own_device).toOption.join
  | .error _ => return none

/-- The loop of the reaping, which ends at a device that cannot be looked at. -/
def delete_devices (token : String) : List Value → Dm Unit
  | [] => return ()
  | device :: rest =>
    match client.own_device device with
    | .error _ => return ()
    | .ok none => delete_devices token rest
    | .ok (some url) => do
      let _ ← fetch { url := url, method := "DELETE", headers := [bearer token], body := none }
      delete_devices token rest

def reap_own_devices (token : String) : Dm Unit := do
  match ← (client.list_devices token).attempt with
  | .ok devices =>
    match client.iterate devices with
    | .ok devices => client.delete_devices token devices
    | .error _ => return ()
  | .error _ => return ()

/-- The URL of the device, which has to be there. -/
def registered_device (self : DeviceManager) : Except Failure Value :=
  (self.device_url.filter client.truthy).elim (.error not_registered) .ok

def refresh (token : String) : Dm Reg := do
  let self ← get
  let device_url ← Method.ofExcept (client.registered_device self)
  tryCatch (do
    let response ← fetch {
      url := device_url
      method := "PUT"
      headers := [bearer token, content_type]
      body := some client.body }
    let response ← Method.ofExcept (response.mapError Failure.other)
    Method.reject (response.status == 401) (.auth "Unauthorized to refresh device")
    Method.reject (!response.ok) (.device_registration "Failed to refresh device" (some response.status))
    let data ← Method.ofExcept (client.json_of response.body)
    Method.ofExcept (client.parse_device_response data)) (rethrow "Failed to refresh device")

/-- The second half of `register`. -/
def register_new (token : String) : Dm Reg := do
  match ← (client.create_device token).attempt with
  | .ok reg => return reg
  | .error e =>
    if is_excessive_registrations_error e then do
      client.reap_own_devices token
      client.create_device token
    else throw e

def register (token : String) : Dm Reg := do
  match ← client.find_reusable_device token with
  | some existing_device_url => do
    modify fun self => { self with device_url := some existing_device_url }
    match ← (client.refresh token).attempt with
    | .ok reg => return reg
    | .error _ => do
      modify fun self => { self with device_url := none }
      client.register_new token
  | none => client.register_new token

def unregister (token : String) : Dm Unit := do
  let self ← get
  let device_url ← Method.ofExcept (client.registered_device self)
  tryCatch (do
    let response ← fetch { url := device_url, method := "DELETE", headers := [bearer token, content_type], body := none }
    let response ← Method.ofExcept (response.mapError Failure.other)
    Method.reject (response.status == 401) (.auth "Unauthorized to unregister device")
    Method.reject (!response.ok) (.device_registration "Failed to unregister device" (some response.status))
    modify fun self => { self with device_url := none }) (rethrow "Failed to unregister device")

end Client

def rejection : Failure → Rejection
  | .auth _ => .unauthorized
  | .device_registration _ status_code => .refused status_code
  | .other _ => .refused none

section dialect

variable {Reg : Type} (client : Client Reg) (describe : Reg → Registration)

def request : Request → FetchRequest Value
  | .catalog token => { url := .string client.catalog_url, method := "GET", headers := [bearer token], body := none }
  | .list base token => { url := .string base, method := "GET", headers := [bearer token], body := none }
  | .create base token =>
    { url := .string (base ++ "?includeUpstreamServices=all"), method := "POST", headers := [bearer token, content_type],
      body := some client.body }
  | .refresh device token =>
    { url := device, method := "PUT", headers := [bearer token, content_type], body := some client.body }
  | .reap device token => { url := device, method := "DELETE", headers := [bearer token], body := none }
  | .unregister device token => { url := device, method := "DELETE", headers := [bearer token, content_type], body := none }

/-- The own devices that a loop over a listing reaches. -/
def reached : List Value → List Value
  | [] => []
  | device :: rest =>
    match client.own_device device with
    | .error _ => []
    | .ok none => reached rest
    | .ok (some url) => url :: reached rest

/-- The client's own devices in a listing, if it does not fail. -/
def own_urls (listed : Except Failure Value) : List Value := ((listed >>= client.iterate).map (reached client)).toOption.getD []

def own_devices : Except Rejection rust.Bytes → List Value
  | .error _ => []
  | .ok body => own_urls client (client.json_of body >>= client.devices_of)

def parsed (data : Value) : Except Rejection Registration :=
  ((client.parse_device_response data).mapError rejection).map describe

/-- A device is kept whether or not its registration passes the checks. -/
def created (body : rust.Bytes) : Created :=
  match client.json_of body with
  | .error e => { outcome := .error (rejection e) }
  | .ok data =>
    match client.url_of data with
    | .error e => { outcome := .error (rejection e) }
    | .ok url => { outcome := parsed client describe data, device := some (url.filter client.truthy) }

def refreshed (body : rust.Bytes) : Except Rejection Registration :=
  match client.json_of body with
  | .error e => .error (rejection e)
  | .ok data => parsed client describe data

def read : (req : Request) → Except String FetchResponse → Answer req
  | .catalog _, answer => client.wdm_base_of answer
  | .list _ _, answer => own_devices client (judge some answer)
  | .create _ _, answer => .of (judge some answer) (created client describe)
  | .refresh _ _, answer => judge some answer >>= refreshed client describe
  | .reap _ _, _ => ()
  | .unregister _ _, answer => (judge some answer).map fun _ => ()

def dialect : Dialect (FetchRequest Value) DeviceManager Failure where
  request := request client
  read := read client describe
  manager self := { device := self.device_url.filter client.truthy, base := self.wdm_devices_url.filter (· != "") }
  rejection := rejection

end dialect

variable {Reg : Type} {client : Client Reg} {describe : Reg → Registration}

abbrev InStep {α α' : Type} (client : Client Reg) (describe : Reg → Registration)
    (outcomes : Except Failure α → Except Rejection α' → Prop) (m : Dm α) (m' : registration.Dm α') : Prop :=
  m.InStep (dialect client describe).sync (dialect client describe).Stands outcomes m'

/-- The outcomes of a call that does not fail. -/
abbrev Completes {α α' : Type} (values : α → α' → Prop) : Except Failure α → Except Rejection α' → Prop :=
  SameOutcome values fun _ _ => False

theorem discover_wdm_base_completes (token : String) :
    InStep client describe (Completes Eq) (client.discover_wdm_base token) (locate token) := by
  unfold Client.discover_wdm_base locate
  apply Method.inStep_bind_get
  rintro self _ rfl
  dsimp only [dialect]
  cases self.wdm_devices_url.filter (· != "") with
  | some url => exact Method.inStep_pure (.ok rfl)
  | none =>
    refine Method.inStep_bind_request rfl ?_
    rintro answer _ rfl
    refine Method.inStep_bind_modify ?_ (Method.inStep_pure (.ok rfl))
    rintro self _ rfl
    have hne : (client.wdm_base_of answer != "") = true :=
      bne_iff_ne.mpr ((client.wdm_base_of_endpoint answer).ne (by decide) (by decide))
    show _ = Dialect.manager (dialect client describe) _
    simp only [dialect, Option.filter_some, hne, if_true]
    rfl

theorem list_devices_completes (token : String) :
    InStep client describe (Completes fun listed own => own = own_urls client listed) (client.list_devices token).attempt
      (list token) := by
  apply Method.inStep_attempt
  refine Method.inStep_bind (discover_wdm_base_completes token) ?_ fun _ _ hfalse => hfalse.elim
  rintro base _ rfl
  refine Method.inStep_request rfl ?_
  rintro answer _ rfl
  refine inStep_judged (dialect client describe) some (fun judged => (return own_devices client judged :
    registration.Dm (List Value))) ?_ ?_ ?_ ?_ ?_
  · exact fun _ => rfl
  · exact rfl
  · exact fun _ => rfl
  · intro e
    exact Method.inStep_ofExcept (SameOutcome.ok rfl)
  · rintro response -
    rw [own_devices]
    cases client.json_of response.body with
    | error e => exact Method.inStep_ofExcept (SameOutcome.ok rfl)
    | ok list => exact Method.inStep_ofExcept (SameOutcome.ok rfl)

theorem first_own_device_eq (devices : List Value) :
    (client.first_own_device devices).toOption.join = (reached client devices).head? := by
  induction devices with
  | nil => rfl
  | cons device rest ih =>
    rw [Client.first_own_device, reached]
    cases client.own_device device with
    | error e => rfl
    | ok url =>
      cases url with
      | none => exact ih
      | some url => rfl

theorem first_own_device_truthy (devices : List Value) :
    (client.first_own_device devices).toOption.join.filter client.truthy =
      (client.first_own_device devices).toOption.join := by
  induction devices with
  | nil => rfl
  | cons device rest ih =>
    rw [Client.first_own_device]
    cases hown : client.own_device device with
    | error e => rfl
    | ok url =>
      cases url with
      | none => exact ih
      | some url => exact client.own_device_truthy device _ hown

theorem find_reusable_device_completes (token : String) :
    InStep client describe (Completes fun found device => device = found ∧ found.filter client.truthy = found)
      (client.find_reusable_device token) (find token) := by
  unfold Client.find_reusable_device find
  refine Method.inStep_bind (list_devices_completes token) ?_ fun _ _ hfalse => hfalse.elim
  rintro listed _ rfl
  cases listed with
  | error e => exact Method.inStep_pure (.ok ⟨rfl, rfl⟩)
  | ok devices =>
    refine Method.inStep_pure (.ok ?_)
    rw [own_urls]
    show (((client.iterate devices).map (reached client)).toOption.getD []).head? =
      (client.iterate devices >>= client.first_own_device).toOption.join ∧ _
    cases client.iterate devices with
    | error e => exact ⟨rfl, rfl⟩
    | ok items => exact ⟨(first_own_device_eq items).symm, first_own_device_truthy items⟩

theorem delete_devices_completes (token : String) (devices : List Value) :
    InStep client describe (Completes fun _ _ => True) (client.delete_devices token devices)
      (reap_all token (reached client devices)) := by
  induction devices with
  | nil => exact Method.inStep_pure (.ok trivial)
  | cons device rest ih =>
    rw [Client.delete_devices, reached]
    cases client.own_device device with
    | error e => exact Method.inStep_pure (.ok trivial)
    | ok url =>
      cases url with
      | none => exact ih
      | some url => exact Method.inStep_bind_request rfl fun _ _ _ => ih

theorem reap_own_devices_completes (token : String) :
    InStep client describe (Completes fun _ _ => True) (client.reap_own_devices token) (reap token) := by
  unfold Client.reap_own_devices reap
  refine Method.inStep_bind (list_devices_completes token) ?_ fun _ _ hfalse => hfalse.elim
  rintro listed _ rfl
  cases listed with
  | error e => exact Method.inStep_pure (.ok trivial)
  | ok devices =>
    show InStep client describe _ _ (reap_all token (((client.iterate devices).map (reached client)).toOption.getD []))
    dsimp only
    cases client.iterate devices with
    | error e => exact Method.inStep_pure (.ok trivial)
    | ok items => exact delete_devices_completes token items

theorem rethrow_rejection {α : Type} (message : String) (e : Failure) (r : Rejection) (hrejection : r = rejection e) :
    ∃ thrown, (rethrow message e : Dm α) = throw thrown ∧ r = rejection thrown := by
  cases e with
  | other text => exact ⟨_, rfl, hrejection⟩
  | _ => exact ⟨_, rfl, hrejection⟩

theorem parse_device_response_ends (data : Value) :
    (dialect client describe).Ends describe (client.parse_device_response data) (parsed client describe data) := by
  rw [parsed]
  cases client.parse_device_response data with
  | error e => exact .error rfl
  | ok reg => exact .ok rfl

theorem create_device_follows (token : String) :
    (dialect client describe).Follows describe (client.create_device token) (create token) := by
  refine Method.inStep_rethrow ?_ (rethrow_rejection _)
  unfold create
  refine Method.inStep_bind (discover_wdm_base_completes token) ?_ fun _ _ hfalse => hfalse.elim
  rintro base _ rfl
  refine Method.inStep_bind_request rfl ?_
  rintro answer _ rfl
  refine inStep_judged (dialect client describe) some (fun judged => settle (.of judged (created client describe)))
    (fun _ => rfl) rfl (fun _ => rfl) ?_ ?_
  · intro e
    exact Method.inStep_throw (.error rfl)
  · rintro response -
    simp only [Created.of, created]
    cases client.json_of response.body with
    | error e => exact Method.inStep_throw (.error rfl)
    | ok data =>
      show InStep client describe _ (Method.ofExcept (client.url_of data) >>= _) _
      dsimp only
      cases client.url_of data with
      | error e => exact Method.inStep_throw (.error rfl)
      | ok url =>
        rintro self _ rfl
        exact ⟨parse_device_response_ends data, rfl⟩

/-- A call that needs a device, and the one the protocol has. -/
theorem inStep_registered {α α' : Type} {outcomes : Except Failure α → Except Rejection α' → Prop} {self : DeviceManager}
    {rest : Value → Dm α} {rest' : Value → registration.Dm α'}
    (hnone : outcomes (.error not_registered) (.error (.refused none)))
    (hrest : ∀ device_url, InStep client describe outcomes (rest device_url) (rest' device_url)) :
    InStep client describe outcomes (Method.ofExcept (client.registered_device self) >>= rest)
      (Method.ofExcept ((self.device_url.filter client.truthy).elim (.error (.refused none)) .ok) >>= rest') := by
  unfold Client.registered_device
  cases self.device_url.filter client.truthy with
  | none => exact Method.inStep_throw hnone
  | some device_url => exact hrest device_url

theorem refresh_follows (token : String) :
    (dialect client describe).Follows describe (client.refresh token) (registration.refresh token) := by
  unfold Client.refresh registration.refresh
  apply Method.inStep_bind_get
  rintro self _ rfl
  refine inStep_registered (.error rfl) ?_
  intro device_url
  refine Method.inStep_rethrow ?_ (rethrow_rejection _)
  refine Method.inStep_bind_request rfl ?_
  rintro answer _ rfl
  refine inStep_judged (dialect client describe) some (fun judged => Method.ofExcept
    (judged >>= refreshed client describe)) (fun _ => rfl) rfl (fun _ => rfl) ?_ ?_
  · intro e
    exact Method.inStep_throw (.error rfl)
  · rintro response -
    show InStep client describe _ _ (Method.ofExcept (refreshed client describe response.body))
    rw [refreshed]
    cases client.json_of response.body with
    | error e => exact Method.inStep_throw (.error rfl)
    | ok data => exact Method.inStep_ofExcept (parse_device_response_ends data)

theorem is_excessive_iff (e : Failure) :
    is_excessive_registrations_error e = true ↔ rejection e = .refused (some 403) := by
  cases e with
  | device_registration message status_code => simp [is_excessive_registrations_error, rejection]
  | _ => simp [is_excessive_registrations_error, rejection]

theorem register_new_follows (token : String) :
    (dialect client describe).Follows describe (client.register_new token) (registration.register_new token) := by
  unfold Client.register_new registration.register_new
  refine Method.inStep_bind (Method.inStep_attempt_both (create_device_follows token)) ?_
    fun _ _ (hfalse : False) => hfalse.elim
  rintro created _ hends
  cases hends with
  | ok hvalues => exact Method.inStep_pure (.ok hvalues)
  | error herrors =>
    obtain rfl := herrors
    refine inStep_retry ?_ (is_excessive_iff _)
    exact Method.inStep_bind (reap_own_devices_completes token) (fun _ _ _ => create_device_follows token)
      fun _ _ hfalse => hfalse.elim

theorem register_follows (token : String) :
    (dialect client describe).Follows describe (client.register token) (registration.register token) := by
  unfold Client.register registration.register
  refine Method.inStep_bind (find_reusable_device_completes token) ?_ fun _ _ hfalse => hfalse.elim
  rintro _ found ⟨rfl, htruthy⟩
  cases found with
  | none => exact register_new_follows token
  | some existing_device_url =>
    refine Method.inStep_bind_modify ?_ ?_
    · rintro self _ rfl
      show _ = Dialect.manager (dialect client describe) _
      simp only [dialect, htruthy]
    · refine Method.inStep_bind (Method.inStep_attempt_both (refresh_follows token)) ?_
        fun _ _ (hfalse : False) => hfalse.elim
      rintro refreshed _ hends
      cases hends with
      | ok hvalues => exact Method.inStep_pure (.ok hvalues)
      | error _ =>
        refine Method.inStep_bind_modify ?_ (register_new_follows token)
        rintro self _ rfl
        rfl

theorem unregister_follows (token : String) :
    (dialect client describe).Follows id (client.unregister token) (registration.unregister token) := by
  unfold Client.unregister registration.unregister
  apply Method.inStep_bind_get
  rintro self _ rfl
  refine inStep_registered (.error rfl) ?_
  intro device_url
  refine Method.inStep_rethrow ?_ (rethrow_rejection _)
  refine Method.inStep_bind_request rfl ?_
  rintro answer _ rfl
  refine inStep_judged (dialect client describe) some (fun judged => Method.ofExcept (judged.map fun _ => ()) >>= fun _ =>
    modify fun self => { self with device := none }) ?_ ?_ ?_ ?_ ?_
  · exact fun _ => rfl
  · exact rfl
  · exact fun _ => rfl
  · intro e
    exact Method.inStep_throw (.error rfl)
  · rintro response - self _ rfl
    exact ⟨.ok rfl, rfl⟩

end webex.registration.untyped
