import WebexHandler.HostTests
import WebexHandler.Registration.Port

open interaction json
open webex.registration (FetchRequest FetchResponse Fetched bearer content_type)

namespace webex.go.device_manager

def wdm_api_base : String := "https://wdm-a.wbx2.com/wdm/api/v1/devices"
def u2c_catalog_url : String := "https://u2c.wbx2.com/u2c/api/v1/catalog?format=hostmap"

/-- An error, by its type. A code of zero says that there is no status. -/
inductive Failure
  | auth (message : String)
  | device_registration (message : String) (status_code : Nat)
  | other (message : String)
  deriving DecidableEq, Repr

/-- The packages that the manager uses: the first JSON value in a body, `json.Marshal`, and
    `url.Parse`. -/
structure Packages where
  decode : rust.Bytes → Except String Value
  marshal : Value → String
  parse_url : String → Except String url_validation.URL

def device_body : Value :=
  .object [("deviceName", .string "webex-message-handler"), ("deviceType", .string "DESKTOP"),
    ("localizedModel", .string "go"), ("model", .string "go"), ("name", .string "webex-message-handler"),
    ("systemName", .string "webex-message-handler"), ("systemVersion", .string "1.0.0")]

structure WdmDeviceResponse where
  web_socket_url : String := ""
  url : String := ""
  user_id : String := ""
  name : String := ""
  device_type : String := ""
  services : List (String × String) := []
  deriving DecidableEq, Repr

structure DeviceRegistration where
  web_socket_url : String
  device_url : String
  user_id : String
  services : List (String × String)
  encryption_service_url : String
  deriving DecidableEq, Repr

structure DeviceManager where
  device_url : String := ""
  wdm_devices_url : String := ""
  deriving DecidableEq, Repr

abbrev Dm (α : Type) : Type := Method (FetchRequest String) Fetched DeviceManager Failure α

def fetch (req : FetchRequest String) : Dm (Except String FetchResponse) := Method.request req

section unmarshal

/-- A letter as `encoding/json` compares it. Of the letters outside ASCII only the two
    listed are equal to one in it. -/
def fold_rune (c : Char) : Char := if c = '\u017F' then 's' else if c = '\u212A' then 'k' else c.toLower

def is_field (name key : String) : Bool := key.toList.map fold_rune == name.toList.map fold_rune

/-- A string field, which `null` leaves alone. -/
def set_string (old : String) : Value → Except String String
  | .null => .ok old
  | .string s => .ok s
  | _ => .error "json: cannot unmarshal into Go value of type string"

/-- An element of a `map[string]string`, and a map has one value for a key. -/
def set_entry (links : List (String × String)) (member : String × Value) : Except String (List (String × String)) := do
  let value ← set_string "" member.2
  return links.filter (·.1 != member.1) ++ [(member.1, value)]

def set_map (old : List (String × String)) : Value → Except String (List (String × String))
  | .null => .ok []
  | .object members => members.foldlM set_entry old
  | _ => .error "json: cannot unmarshal into Go value of type map[string]string"

/-- A struct is read member by member. -/
def unmarshal {α : Type} (zero : α) (set_field : α → String × Value → Except String α) : Value → Except String α
  | .null => .ok zero
  | .object members => members.foldlM set_field zero
  | _ => .error "json: cannot unmarshal into Go value of type struct"

/-- The service links of a catalog. -/
def set_catalog (links : List (String × String)) (member : String × Value) : Except String (List (String × String)) :=
  if is_field "serviceLinks" member.1 then set_map links member.2 else .ok links

def set_device (data : WdmDeviceResponse) (member : String × Value) : Except String WdmDeviceResponse :=
  if is_field "webSocketUrl" member.1 then do
    let text ← set_string data.web_socket_url member.2
    return { data with web_socket_url := text }
  else if is_field "url" member.1 then do
    let text ← set_string data.url member.2
    return { data with url := text }
  else if is_field "userId" member.1 then do
    let text ← set_string data.user_id member.2
    return { data with user_id := text }
  else if is_field "name" member.1 then do
    let text ← set_string data.name member.2
    return { data with name := text }
  else if is_field "deviceType" member.1 then do
    let text ← set_string data.device_type member.2
    return { data with device_type := text }
  else if is_field "services" member.1 then do
    let links ← set_map data.services member.2
    return { data with services := links }
  else .ok data

def unmarshal_device : Value → Except String WdmDeviceResponse := unmarshal {} set_device

def set_devices (devices : List WdmDeviceResponse) (member : String × Value) : Except String (List WdmDeviceResponse) :=
  if is_field "devices" member.1 then
    match member.2 with
    | .null => .ok []
    | .array items => items.mapM unmarshal_device
    | _ => .error "json: cannot unmarshal into Go struct field .devices of type []WdmDeviceResponse"
  else .ok devices

end unmarshal

/-- `strings.TrimRight` of slashes. -/
def trim_right_slashes (text : String) : String := rust.device_manager.trim_end_slashes text

def is_own_device (d : WdmDeviceResponse) : Bool :=
  d.name == "webex-message-handler" && d.device_type == "DESKTOP" && d.url != ""

/-- `isExcessiveRegistrationsError`. -/
def is_excessive_registrations_error : Failure → Bool
  | .device_registration _ status_code => status_code == 403
  | _ => false

variable (pkg : Packages)

def validate_webex_url (raw_url required_scheme : String) : Except String Unit :=
  url_validation.validate_webex_url pkg.parse_url raw_url required_scheme

def unmarshal_body {α : Type} (body : rust.Bytes) (unmarshal : Value → Except String α) : Except String α := do
  let value ← pkg.decode body
  unmarshal value

/-- The endpoint a U2C answer leads to. -/
def wdm_base_of (resp : Except String FetchResponse) : String :=
  match resp with
  | .error _ => wdm_api_base
  | .ok resp =>
    if resp.ok = false then wdm_api_base
    else match unmarshal_body pkg resp.body (unmarshal [] set_catalog) with
      | .error _ => wdm_api_base
      | .ok service_links =>
        let wdm := (service_links.lookup "wdm").getD ""
        if wdm = "" then wdm_api_base
        else match validate_webex_url pkg wdm "https" with
          | .error _ => wdm_api_base
          | .ok _ => trim_right_slashes wdm ++ "/devices"

def discover_wdm_base (token : String) : Dm String := do
  let dm ← get
  if dm.wdm_devices_url != "" then return dm.wdm_devices_url
  else do
    let resp ← fetch { url := u2c_catalog_url, method := "GET", headers := [bearer token], body := none }
    modify fun dm => { dm with wdm_devices_url := wdm_base_of pkg resp }
    return wdm_base_of pkg resp

def parse_device_response (data : WdmDeviceResponse) : Except Failure DeviceRegistration := do
  (validate_webex_url pkg data.web_socket_url "wss").mapError fun e =>
    .device_registration ("untrusted webSocketUrl: " ++ e) 0
  let encryption_service_url := (data.services.lookup "encryptionServiceUrl").getD ""
  if encryption_service_url ≠ "" then
    (validate_webex_url pkg encryption_service_url "https").mapError fun e =>
      .device_registration ("untrusted encryptionServiceUrl: " ++ e) 0
  return {
    web_socket_url := data.web_socket_url
    device_url := data.url
    user_id := data.user_id
    services := data.services
    encryption_service_url := encryption_service_url }

/-- The device is kept before its registration is checked. -/
def create_device (token : String) : Dm DeviceRegistration := do
  let base ← discover_wdm_base pkg token
  let resp ← fetch {
    url := base ++ "?includeUpstreamServices=all"
    method := "POST"
    headers := [bearer token, content_type]
    body := some (pkg.marshal device_body) }
  let resp ← Method.ofExcept (resp.mapError fun _ => .device_registration "Failed to register device" 0)
  Method.reject (resp.status == 401) (.auth "Unauthorized to register device")
  Method.reject (!resp.ok) (.device_registration "Failed to register device" resp.status)
  let data ← Method.ofExcept ((unmarshal_body pkg resp.body unmarshal_device).mapError fun _ =>
    .device_registration "Failed to parse device response" 0)
  modify fun dm => { dm with device_url := data.url }
  Method.ofExcept (parse_device_response pkg data)

def list_devices (token : String) : Dm (List WdmDeviceResponse) := do
  let base ← discover_wdm_base pkg token
  let resp ← fetch { url := base, method := "GET", headers := [bearer token], body := none }
  let resp ← Method.ofExcept (resp.mapError Failure.other)
  Method.reject (resp.status == 401) (.auth "Unauthorized to list devices")
  Method.reject (!resp.ok) (.device_registration ("Failed to list devices: " ++ toString resp.status) resp.status)
  Method.ofExcept ((unmarshal_body pkg resp.body (unmarshal [] set_devices)).mapError fun _ =>
    .device_registration "Failed to parse device list" 0)

/-- The URL of the device, or an empty one. -/
def find_reusable_device (token : String) : Dm String := do
  match ← (list_devices pkg token).attempt with
  | .ok devices => return ((devices.find? is_own_device).map WdmDeviceResponse.url).getD ""
  | .error _ => return ""

/-- The deletions of `reapOwnDevices`, whatever they are answered. -/
def delete_devices (token : String) : List WdmDeviceResponse → Dm Unit
  | [] => return ()
  | d :: rest => do
    let _ ← fetch { url := d.url, method := "DELETE", headers := [bearer token], body := none }
    delete_devices token rest

def reap_own_devices (token : String) : Dm Unit := do
  match ← (list_devices pkg token).attempt with
  | .ok devices => delete_devices token (devices.filter is_own_device)
  | .error _ => return ()

def not_registered : Failure := .device_registration "Device not registered. Call Register() first." 0

def refresh (token : String) : Dm DeviceRegistration := do
  let dm ← get
  Method.reject (dm.device_url == "") not_registered
  let resp ← fetch {
    url := dm.device_url
    method := "PUT"
    headers := [bearer token, content_type]
    body := some (pkg.marshal device_body) }
  let resp ← Method.ofExcept (resp.mapError fun _ => .device_registration "Failed to refresh device" 0)
  Method.reject (resp.status == 401) (.auth "Unauthorized to refresh device")
  Method.reject (!resp.ok) (.device_registration "Failed to refresh device" resp.status)
  let data ← Method.ofExcept ((unmarshal_body pkg resp.body unmarshal_device).mapError fun _ =>
    .device_registration "Failed to parse device response" 0)
  Method.ofExcept (parse_device_response pkg data)

/-- The second half of `Register`. -/
def register_new (token : String) : Dm DeviceRegistration := do
  match ← (create_device pkg token).attempt with
  | .ok reg => return reg
  | .error e =>
    if is_excessive_registrations_error e then do
      reap_own_devices pkg token
      create_device pkg token
    else throw e

def register (token : String) : Dm DeviceRegistration := do
  let existing ← find_reusable_device pkg token
  if existing ≠ "" then do
    modify fun dm => { dm with device_url := existing }
    match ← (refresh pkg token).attempt with
    | .ok reg => return reg
    | .error _ => do
      modify fun dm => { dm with device_url := "" }
      register_new pkg token
  else register_new pkg token

def unregister (token : String) : Dm Unit := do
  let dm ← get
  Method.reject (dm.device_url == "") not_registered
  let resp ← fetch { url := dm.device_url, method := "DELETE", headers := [bearer token, content_type], body := none }
  let resp ← Method.ofExcept (resp.mapError fun _ => .device_registration "Failed to unregister device" 0)
  Method.reject (resp.status == 401) (.auth "Unauthorized to unregister device")
  Method.reject (!resp.ok) (.device_registration "Failed to unregister device" resp.status)
  modify fun dm => { dm with device_url := "" }

end webex.go.device_manager
