import WebexHandler.Node.KmsClient.Client
import WebexHandler.Registration.Untyped

open json
open webex.registration (Endpoint FetchResponse)
open webex.registration.untyped (Client Dm Failure)

namespace webex.node.device_manager

open kms_client (Builtins truthy validate_webex_url)

def WDM_API_BASE : String := "https://wdm-a.wbx2.com/wdm/api/v1/devices"
def U2C_CATALOG_URL : String := "https://u2c.wbx2.com/u2c/api/v1/catalog?format=hostmap"

def DEVICE_BODY : Value :=
  .object [("deviceName", .string "webex-message-handler"), ("deviceType", .string "DESKTOP"),
    ("localizedModel", .string "nodejs"), ("model", .string "nodejs"), ("name", .string "webex-message-handler"),
    ("systemName", .string "webex-message-handler"), ("systemVersion", .string "1.0.0")]

/-- `undefined` is a field that is not there. -/
structure DeviceRegistration where
  web_socket_url : Option Value
  device_url : Option Value
  user_id : Option Value
  services : Value
  encryption_service_url : Value

/-- Reading a property. -/
def property (value : Value) (key : String) : Except Failure (Option Value) :=
  match value with
  | .null => .error (.other ("Cannot read properties of null (reading '" ++ key ++ "')"))
  | value => .ok (value.get key)

/-- The truth value of a value or of `undefined`. -/
def truthy_or_undefined (value : Option Value) : Bool := value.elim false truthy

/-- `for (… of value)` of a value that is not `undefined`. -/
def iterate : Value → Except Failure (List Value)
  | .array items => .ok items
  | .string s => .ok (s.toList.map fun c => .string (String.singleton c))
  | _ => .error (.other "value is not iterable")

/-- `replace(/\/$/, '')`. -/
def strip_slash (text : String) : String :=
  if text.toList.getLast? = some '/' then String.ofList text.toList.dropLast else text

/-- The link of a catalog, or `undefined`. -/
def wdm_of (catalog : Value) : Except Failure (Option Value) := do
  match ← property catalog "serviceLinks" with
  | none | some .null => return none
  | some service_links => return service_links.get "wdm"

/-- `list.devices || []`. -/
def devices_of (list : Value) : Except Failure Value := do
  let devices ← property list "devices"
  return (devices.filter truthy).getD (.array [])

/-- The URL of a device of this client, and `undefined` for another one. -/
def own_device (device : Value) : Except Failure (Option Value) := do
  let name ← property device "name"
  if name.bind Value.as_str = some "webex-message-handler" ∧
      (device.get "deviceType").bind Value.as_str = some "DESKTOP" then
    return (device.get "url").filter truthy
  else return none

/-- The services of a registration, if they are an object or an array. -/
def services_of : Option Value → Value
  | some (.object members) => .object members
  | some (.array items) => .array items
  | _ => .object []

variable (builtins : Builtins) (parse_json : rust.Bytes → Except String Value)

/-- The `json()` of a response with this body. -/
def json_of (body : rust.Bytes) : Except Failure Value := (parse_json body).mapError Failure.other

/-- `validateWebexUrl` of any value. -/
def validate_value (value : Option Value) (required_protocol : String) : Except String Unit :=
  (validate_webex_url builtins (builtins.string value) required_protocol).mapError kms_client.Thrown.message

/-- The endpoint a U2C answer leads to. A link that is not a string has no `replace`. -/
def wdm_base_of (response : Except String FetchResponse) : String :=
  match response with
  | .error _ => WDM_API_BASE
  | .ok response =>
    if response.ok = false then WDM_API_BASE
    else match json_of parse_json response.body >>= wdm_of with
      | .error _ => WDM_API_BASE
      | .ok wdm =>
        if truthy_or_undefined wdm = false then WDM_API_BASE
        else match validate_value builtins wdm "https:" with
          | .error _ => WDM_API_BASE
          | .ok _ =>
            match wdm with
            | some (.string wdm) => strip_slash wdm ++ "/devices"
            | _ => WDM_API_BASE

def parse_device_response (data : Value) : Except Failure DeviceRegistration := do
  let services ← property data "services"
  let services := services_of services
  let encryption_service_url := ((services.get "encryptionServiceUrl").filter truthy).getD (.string "")
  (validate_value builtins (data.get "webSocketUrl") "wss:").mapError fun e =>
    .device_registration ("Invalid URL in WDM response: " ++ e) none
  if truthy encryption_service_url then
    (validate_value builtins (some encryption_service_url) "https:").mapError fun e =>
      .device_registration ("Invalid URL in WDM response: " ++ e) none
  return {
    web_socket_url := data.get "webSocketUrl"
    device_url := data.get "url"
    user_id := data.get "userId"
    services := services
    encryption_service_url := encryption_service_url }

theorem wdm_base_of_endpoint (answer : Except String FetchResponse) :
    Endpoint WDM_API_BASE (wdm_base_of builtins parse_json answer) := by
  unfold wdm_base_of
  split
  · exact .default
  · split
    · exact .default
    · split
      · exact .default
      · split
        · exact .default
        · split
          · exact .default
          · split
            · exact .link _
            · exact .default

theorem own_device_truthy (device : Value) (url : Option Value) (hown : own_device device = .ok url) :
    url.filter truthy = url := by
  unfold own_device at hown
  cases hname : property device "name" with
  | error e =>
    rw [hname] at hown
    cases hown
  | ok name =>
    rw [hname] at hown
    replace hown : ite _ _ _ = Except.ok url := hown
    split at hown
    · obtain rfl := Except.ok.inj hown
      simp
    · obtain rfl := Except.ok.inj hown
      rfl

def client : Client DeviceRegistration where
  catalog_url := U2C_CATALOG_URL
  body := builtins.stringify DEVICE_BODY
  truthy := truthy
  wdm_base_of := wdm_base_of builtins parse_json
  json_of := json_of parse_json
  devices_of := devices_of
  iterate := iterate
  own_device := own_device
  url_of data := property data "url"
  parse_device_response := parse_device_response builtins
  wdm_base_of_endpoint := wdm_base_of_endpoint builtins parse_json
  own_device_truthy := own_device_truthy

def discover_wdm_base (token : String) : Dm String := (client builtins parse_json).discover_wdm_base token
def create_device (token : String) : Dm DeviceRegistration := (client builtins parse_json).create_device token
def find_reusable_device (token : String) : Dm (Option Value) := (client builtins parse_json).find_reusable_device token
def reap_own_devices (token : String) : Dm Unit := (client builtins parse_json).reap_own_devices token
def list_devices (token : String) : Dm Value := (client builtins parse_json).list_devices token
def register (token : String) : Dm DeviceRegistration := (client builtins parse_json).register token
def refresh (token : String) : Dm DeviceRegistration := (client builtins parse_json).refresh token
def unregister (token : String) : Dm Unit := (client builtins parse_json).unregister token

end webex.node.device_manager
