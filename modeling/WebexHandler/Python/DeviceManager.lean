import WebexHandler.HostTests
import WebexHandler.Python.KmsClient.Retrieval
import WebexHandler.Registration.Untyped

open json
open webex.python.key_retrieval (truthy)
open webex.registration (Endpoint FetchResponse)
open webex.registration.untyped (Client Dm Failure)

namespace webex.python.device_manager

def WDM_API_BASE : String := "https://wdm-a.wbx2.com/wdm/api/v1/devices"
def U2C_CATALOG_URL : String := "https://u2c.wbx2.com/u2c/api/v1/catalog?format=hostmap"

/-- What the manager uses of the language and its libraries. -/
structure Library where
  parse_json : rust.Bytes → Except String Value
  dumps : Value → String
  urlparse : String → url_validation.ParseResult

def DEVICE_BODY : Value :=
  .object [("deviceName", .string "webex-message-handler"), ("deviceType", .string "DESKTOP"),
    ("localizedModel", .string "python"), ("model", .string "python"), ("name", .string "webex-message-handler"),
    ("systemName", .string "webex-message-handler"), ("systemVersion", .string "1.0.0")]

structure DeviceRegistration where
  web_socket_url : Value
  device_url : Value
  user_id : Value
  services : List (String × Value)
  encryption_service_url : Value

/-- `dict.get`. -/
def get (value : Value) (key : String) : Except Failure (Option Value) :=
  match value with
  | .object members => .ok ((Value.object members).get key)
  | _ => .error (.other "object has no attribute 'get'")

/-- `value[key]` of a `dict`. -/
def item (value : Value) (key : String) : Except Failure Value :=
  match value with
  | .object members => ((Value.object members).get key).elim (.error (.other ("'" ++ key ++ "'"))) .ok
  | _ => .error (.other "indices must be integers or slices, not str")

/-- `for … in value`. -/
def iterate : Value → Except Failure (List Value)
  | .array items => .ok items
  | .object members => .ok (members.map fun member => .string member.1)
  | .string s => .ok (s.toList.map fun c => .string (String.singleton c))
  | _ => .error (.other "object is not iterable")

/-- `rstrip("/")`. -/
def rstrip_slashes (text : String) : String := rust.device_manager.trim_end_slashes text

/-- The link of a catalog. -/
def wdm_of (catalog : Value) : Except Failure (Option Value) := do
  let service_links ← get catalog "serviceLinks"
  get (service_links.getD (.object [])) "wdm"

def devices_of (data : Value) : Except Failure Value := do
  let devices ← get data "devices"
  return devices.getD (.array [])

/-- The URL of a device of this client, and nothing for another one. What is not a `dict`
    has no `__dict__`. -/
def own_device (device : Value) : Except Failure (Option Value) :=
  match device with
  | .object members =>
    let device_data := Value.object members
    if (device_data.get "name").bind Value.as_str = some "webex-message-handler" ∧
        (device_data.get "deviceType").bind Value.as_str = some "DESKTOP" then
      .ok ((device_data.get "url").filter truthy)
    else .ok none
  | _ => .error (.other "object has no attribute '__dict__'")

/-- The services of a registration, if they are a `dict`. -/
def services_of : Option Value → List (String × Value)
  | some (.object members) => members
  | _ => []

variable (lib : Library)

/-- The `json()` of a response with this body. -/
def json_of (body : rust.Bytes) : Except Failure Value := (lib.parse_json body).mapError Failure.other

/-- `validate_webex_url` of any value. One that is not a string is rejected by `urlparse` or
    has no scheme. -/
def validate_value (value : Value) (required_scheme : String) : Except Failure Unit :=
  match value with
  | .string raw_url => (url_validation.validate_webex_url lib.urlparse raw_url required_scheme).mapError Failure.other
  | _ => .error (.other ("URL scheme must be " ++ required_scheme))

/-- The endpoint a U2C answer leads to. -/
def wdm_base_of (response : Except String FetchResponse) : String :=
  match response with
  | .error _ => WDM_API_BASE
  | .ok response =>
    if response.ok = false then WDM_API_BASE
    else match json_of lib response.body >>= wdm_of with
      | .ok (some (.string wdm)) =>
        if wdm = "" then WDM_API_BASE
        else match validate_value lib (.string wdm) "https" with
          | .error _ => WDM_API_BASE
          | .ok _ => rstrip_slashes wdm ++ "/devices"
      | _ => WDM_API_BASE

def parse_device_response (data : Value) : Except Failure DeviceRegistration := do
  let services ← get data "services"
  let services := services_of services
  let web_socket_url ← item data "webSocketUrl"
  let encryption_service_url := ((Value.object services).get "encryptionServiceUrl").getD (.string "")
  validate_value lib web_socket_url "wss"
  if truthy encryption_service_url then
    validate_value lib encryption_service_url "https"
  let device_url ← item data "url"
  let user_id ← item data "userId"
  return {
    web_socket_url := web_socket_url
    device_url := device_url
    user_id := user_id
    services := services
    encryption_service_url := encryption_service_url }

theorem wdm_base_of_endpoint (answer : Except String FetchResponse) : Endpoint WDM_API_BASE (wdm_base_of lib answer) := by
  unfold wdm_base_of
  split
  · exact .default
  · split
    · exact .default
    · split
      · split
        · exact .default
        · split
          · exact .default
          · exact .link _
      · exact .default

theorem own_device_truthy (device : Value) (url : Option Value) (hown : own_device device = .ok url) :
    url.filter truthy = url := by
  cases device with
  | object members =>
    replace hown : ite _ _ _ = Except.ok url := hown
    split at hown
    · obtain rfl := Except.ok.inj hown
      simp
    · obtain rfl := Except.ok.inj hown
      rfl
  | _ => cases hown

def client : Client DeviceRegistration where
  catalog_url := U2C_CATALOG_URL
  body := lib.dumps DEVICE_BODY
  truthy := truthy
  wdm_base_of := wdm_base_of lib
  json_of := json_of lib
  devices_of := devices_of
  iterate := iterate
  own_device := own_device
  url_of data := (item data "url").map some
  parse_device_response := parse_device_response lib
  wdm_base_of_endpoint := wdm_base_of_endpoint lib
  own_device_truthy := own_device_truthy

def discover_wdm_base (token : String) : Dm String := (client lib).discover_wdm_base token
def create_device (token : String) : Dm DeviceRegistration := (client lib).create_device token
def find_reusable_device (token : String) : Dm (Option Value) := (client lib).find_reusable_device token
def reap_own_devices (token : String) : Dm Unit := (client lib).reap_own_devices token
def list_devices (token : String) : Dm Value := (client lib).list_devices token
def register (token : String) : Dm DeviceRegistration := (client lib).register token
def refresh (token : String) : Dm DeviceRegistration := (client lib).refresh token
def unregister (token : String) : Dm Unit := (client lib).unregister token

end webex.python.device_manager
