import WebexHandler.Interaction.Obeys
import WebexHandler.Rust.UrlValidation
import WebexHandler.Transition.Machine

open interaction json transition

namespace webex.rust.device_manager

def WDM_API_BASE : String := "https://wdm-a.wbx2.com/wdm/api/v1/devices"
def U2C_CATALOG_URL : String := "https://u2c.wbx2.com/u2c/api/v1/catalog?format=hostmap"

structure DeviceRegistration where
  web_socket_url : String
  device_url : String
  user_id : String
  name : Option String := none
  device_type : Option String := none
  services : List (String × String) := []
  encryption_service_url : String := ""
  deriving DecidableEq, Repr

/-- The serde deserialisers `DeviceManager` calls. The skipped field
    `encryption_service_url` comes out empty. -/
structure Crates where
  from_slice : Bytes → Except String Value
  to_string : Value → String
  registration_from_slice : Bytes → Except String DeviceRegistration
  registration_from_value : Value → Except String DeviceRegistration
  device_list_from_slice : Bytes → Except String (List Value)

def device_body : Value :=
  .object [("deviceName", .string "webex-message-handler"), ("deviceType", .string "DESKTOP"),
    ("localizedModel", .string "rust"), ("model", .string "rust"), ("name", .string "webex-message-handler"),
    ("systemName", .string "webex-message-handler"), ("systemVersion", .string "1.0.0")]

structure DeviceManager where
  device_url : Option String := none
  wdm_devices_url : Option String := none
  deriving DecidableEq, Repr

/-- The only operation is the HTTP client. -/
abbrev Res (_ : FetchRequest) : Type := Except String FetchResponse

abbrev Dm (α : Type) : Type := Method FetchRequest Res DeviceManager WebexError α

def fetch (req : FetchRequest) : Dm (Except String FetchResponse) := Method.request req

def bearer (token : String) : String × String := ("Authorization", "Bearer " ++ token)

def content_type : String × String := ("Content-Type", "application/json")

/-- `trim_end_matches('/')`. -/
def trim_end_slashes (text : String) : String :=
  String.ofList (text.toList.reverse.dropWhile (· == '/')).reverse

def with_encryption_service_url (reg : DeviceRegistration) : DeviceRegistration :=
  { reg with encryption_service_url := (reg.services.lookup "encryptionServiceUrl").getD "" }

/-- A device of this client: the test that reuse and reaping share. -/
def is_own_device (device : DeviceRegistration) : Bool :=
  device.name == some "webex-message-handler" && device.device_type == some "DESKTOP" && device.device_url != ""

variable (crates : Crates)

/-- The endpoint a U2C answer leads to. -/
def wdm_base_of (response : Except String FetchResponse) : String :=
  match response with
  | .error _ => WDM_API_BASE
  | .ok response =>
    if response.ok = false then WDM_API_BASE
    else match crates.from_slice response.body with
      | .error _ => WDM_API_BASE
      | .ok catalog =>
        match ((catalog.get "serviceLinks").bind (·.get "wdm")).bind Value.as_str with
        | none => WDM_API_BASE
        | some wdm =>
          if wdm = "" then WDM_API_BASE
          else match url_validation.validate_webex_url wdm "https" with
            | .error _ => WDM_API_BASE
            | .ok _ => trim_end_slashes wdm ++ "/devices"

/-- The endpoint is discovered once and kept, whatever token asks for it later. -/
def discover_wdm_base (token : String) : Dm String := do
  let self ← get
  match self.wdm_devices_url with
  | some url => return url
  | none => do
    let response ← fetch { url := U2C_CATALOG_URL, method := "GET", headers := [bearer token], body := none }
    modify fun self => { self with wdm_devices_url := some (wdm_base_of crates response) }
    return wdm_base_of crates response

/-- The check of a URL in a registration. An empty one is not validated. -/
def checked_url (field url required_scheme : String) : Except WebexError Unit :=
  if url = "" then .ok ()
  else (url_validation.validate_webex_url url required_scheme).mapError fun e =>
    .device_registration ("Invalid " ++ field ++ ": " ++ e) none

/-- The checks `create_device` and `refresh` make on a registration. The device's own
    URL is not looked at. -/
def checked_registration (body : Bytes) : Except WebexError DeviceRegistration := do
  let parsed ← (crates.registration_from_slice body).mapError fun e =>
    .device_registration ("Failed to parse response: " ++ e) none
  let reg := with_encryption_service_url parsed
  checked_url "web_socket_url" reg.web_socket_url "wss"
  checked_url "encryption_service_url" reg.encryption_service_url "https"
  return reg

def create_device (token : String) : Dm DeviceRegistration := do
  let base ← discover_wdm_base crates token
  let response ← fetch {
    url := base ++ "?includeUpstreamServices=all"
    method := "POST"
    headers := [bearer token, content_type]
    body := some (crates.to_string device_body) }
  let response ← Method.ofExcept (response.mapError fun e =>
    .device_registration ("Failed to register device: " ++ e) none)
  Method.reject (response.status == 401) (.auth "Unauthorized to register device")
  Method.reject (!response.ok) (.device_registration "Failed to register device" (some response.status))
  let reg ← Method.ofExcept (checked_registration crates response.body)
  modify fun self => { self with device_url := some reg.device_url }
  return reg

def list_devices (token : String) : Dm (List DeviceRegistration) := do
  let base ← discover_wdm_base crates token
  let response ← fetch { url := base, method := "GET", headers := [bearer token], body := none }
  let response ← Method.ofExcept (response.mapError fun e =>
    .device_registration ("Failed to list devices: " ++ e) none)
  Method.reject (response.status == 401) (.auth "Unauthorized to list devices")
  Method.reject (!response.ok)
    (.device_registration ("Failed to list devices: " ++ toString response.status) (some response.status))
  let devices ← Method.ofExcept ((crates.device_list_from_slice response.body).mapError fun e =>
    .device_registration ("Failed to parse device list: " ++ e) none)
  return devices.filterMap fun device_json =>
    (crates.registration_from_value device_json).toOption.map with_encryption_service_url

def find_reusable_device (token : String) : Dm (Option String) := do
  match ← (list_devices crates token).attempt with
  | .ok devices => return (devices.find? is_own_device).map DeviceRegistration.device_url
  | .error _ => return none

def delete_device (device_url token : String) : Dm Bool := do
  let response ← fetch { url := device_url, method := "DELETE", headers := [bearer token], body := none }
  let response ← Method.ofExcept (response.mapError fun e =>
    .device_registration ("Failed to delete device: " ++ e) none)
  return response.ok || response.status == 404

def delete_devices (token : String) : List DeviceRegistration → Dm Unit
  | [] => return ()
  | device :: rest => do
    let _ ← (delete_device device.device_url token).attempt
    delete_devices token rest

def reap_own_devices (token : String) : Dm Unit := do
  match ← (list_devices crates token).attempt with
  | .ok devices => delete_devices token (devices.filter is_own_device)
  | .error _ => return ()

def not_registered : WebexError :=
  .device_registration "Device not registered. Call register() first." none

def refresh (token : String) : Dm DeviceRegistration := do
  let self ← get
  let device_url ← Method.ofExcept (self.device_url.elim (.error not_registered) .ok)
  let response ← fetch {
    url := device_url
    method := "PUT"
    headers := [bearer token, content_type]
    body := some (crates.to_string device_body) }
  let response ← Method.ofExcept (response.mapError fun e =>
    .device_registration ("Failed to refresh device: " ++ e) none)
  Method.reject (response.status == 401) (.auth "Unauthorized to refresh device")
  Method.reject (!response.ok) (.device_registration "Failed to refresh device" (some response.status))
  Method.ofExcept (checked_registration crates response.body)

/-- A device is created, and once more after reaping if the account has too many. -/
def register_new (token : String) : Dm DeviceRegistration := do
  match ← (create_device crates token).attempt with
  | .ok reg => return reg
  | .error (.device_registration _ (some 403)) => do
    reap_own_devices crates token
    create_device crates token
  | .error e => throw e

def register (token : String) : Dm DeviceRegistration := do
  match ← find_reusable_device crates token with
  | some existing_url => do
    modify fun self => { self with device_url := some existing_url }
    match ← (refresh crates token).attempt with
    | .ok reg => return reg
    | .error _ => do
      modify fun self => { self with device_url := none }
      register_new crates token
  | none => register_new crates token

def unregister (token : String) : Dm Unit := do
  let self ← get
  let device_url ← Method.ofExcept (self.device_url.elim (.error not_registered) .ok)
  let response ← fetch { url := device_url, method := "DELETE", headers := [bearer token, content_type], body := none }
  let response ← Method.ofExcept (response.mapError fun e =>
    .device_registration ("Failed to unregister device: " ++ e) none)
  Method.reject (response.status == 401) (.auth "Unauthorized to unregister device")
  Method.reject (!response.ok && response.status != 404)
    (.device_registration "Failed to unregister device" (some response.status))
  modify fun self => { self with device_url := none }

/-- The calls on a `DeviceManager`, and the answers to its requests. -/
inductive Label
  | register (token : String)
  | refresh (token : String)
  | unregister (token : String)
  | fetched (answer : Except String FetchResponse)

/-- A call, up to the fields it leaves behind. -/
def call {α : Type} (m : Dm α) (dm : DeviceManager) : Program FetchRequest Res DeviceManager :=
  (m dm).bind fun out => .ret out.2

/-- Every run of calls on a new `DeviceManager`, one at a time. -/
def session : Machine (Program FetchRequest Res DeviceManager) Label where
  init := .ret {}
  step
    | .ret dm, .register token => some (call (register crates token) dm)
    | .ret dm, .refresh token => some (call (refresh crates token) dm)
    | .ret dm, .unregister token => some (call (unregister token) dm)
    | .ask _ next, .fetched answer => some (next answer)
    | _, _ => none

end webex.rust.device_manager
