import WebexHandler.Rust.Handler.Activities

open interaction json

namespace webex.rust.handler

open device_manager (DeviceManager DeviceRegistration)
open kms_client (KmsClient)

inductive ConnectionStatus
  | connected
  | connecting
  | reconnecting
  | disconnected
  deriving DecidableEq, Repr

structure HandlerStatus where
  status : ConnectionStatus
  web_socket_open : Bool
  kms_initialized : Bool
  device_registered : Bool
  reconnect_attempt : Nat
  deriving DecidableEq, Repr

def bot_identity_hint : String :=
  "Set ignore_self_messages to false to skip this check (not recommended — may cause message loops)."

def people_me_request (token : String) : FetchRequest where
  url := "https://webexapis.com/v1/people/me"
  method := "GET"
  headers := [("Authorization", "Bearer " ++ token), ("Content-Type", "application/json")]
  body := none

variable (crates : Crates)

/-- The bot's UUID in the answer to `/people/me`. -/
def parse_bot_person_id (response : Except String FetchResponse) : Except WebexError String := do
  let resp ← response.mapError fun e =>
    .internal ("Failed to fetch bot identity for self-message filtering: " ++ e ++ ". " ++ bot_identity_hint)
  if resp.ok = false then
    .error (.internal ("Failed to fetch bot identity for self-message filtering: HTTP " ++ toString resp.status ++
      ". " ++ bot_identity_hint))
  let data ← (crates.kms.from_slice resp.body).mapError fun e =>
    .internal ("Failed to parse bot identity response: " ++ e)
  match (data.get "id").bind Value.as_str with
  | none => .error (.internal "Bot identity response missing 'id' field")
  | some id => .ok (extract_person_uuid crates id)

def fetch_bot_person_id : Handler Unit := do
  let token ← read_cell .token
  let response ← fetch (people_me_request token)
  let uuid ← Method.ofExcept (parse_bot_person_id crates response)
  write_cell .bot_person_id (some uuid)

/-- `MercurySocket::connect`, as the handler sees it. -/
def mercury_connect (ws_url token : String) : Handler Unit := do
  let timestamp ← now
  let prepared_url ← Method.ofExcept (mercury_socket.prepare_url crates.socket ws_url timestamp)
  let opened ← open_socket ws_url prepared_url token
  Method.ofExcept opened

/-- A registration, with the guard on the device manager held for all its requests. -/
def register_device (token : String) : Handler DeviceRegistration := do
  let dm ← acquire .device_manager
  let (reg, dm) ← call_device (device_manager.register crates.device token) dm
  release .device_manager dm
  Method.ofExcept reg

/-- The handshake, with the guard on the KMS client held for all of it. -/
def initialize_kms : Handler (Except WebexError Unit) := do
  match ← acquire .kms_client with
  | some (mailbox, kms) => do
    let (result, kms) ← call_kms mailbox (kms_client.initialize_client crates.kms) kms
    release .kms_client (some (mailbox, kms))
    return result
  | none => do
    release .kms_client none
    return .ok ()

def connect_internal (ignore_self_messages : Bool) : Handler Unit := do
  let token ← read_cell .token
  let reg ← register_device crates token
  (fetch_bot_person_id crates).when ignore_self_messages
  let mailbox ← new_mailbox
  write_cell .kms_response_handler (some mailbox)
  write_cell .kms_client
    (some (mailbox, kms_client.new token reg.device_url reg.user_id reg.encryption_service_url))
  mercury_connect crates reg.web_socket_url token
  start_event_loop
  let initialized ← initialize_kms crates
  Method.ofExcept initialized
  write_cell .registration (some reg)

/-- `connect`. Its guard looks at both flags under both locks, and drops them before
    it sets `connecting`. -/
def connect (ignore_self_messages : Bool) : Handler Unit := do
  let connecting ← acquire .connecting
  let connected ← acquire .connected
  release .connected connected
  release .connecting connecting
  Method.reject connecting (.internal "connect() already in progress")
  Method.reject connected (.internal "Already connected. Call disconnect() first, or use reconnect().")
  write_cell .connecting true
  let result ← (connect_internal crates ignore_self_messages).attempt
  write_cell .connecting false
  Method.ofExcept result
  write_cell .connected true
  try_send .connected

/-- The unregistration inside `disconnect`, under the guard on the registration. -/
def unregister_device (token : String) : Handler Unit := do
  let reg ← acquire .registration
  (do
    let dm ← acquire .device_manager
    let (_, dm) ← call_device (device_manager.unregister token) dm
    release .device_manager dm).when (Option.isSome reg)
  release .registration reg

def disconnect : Handler Unit := do
  write_cell .connected false
  mercury_disconnect
  let token ← read_cell .token
  unregister_device token
  write_cell .registration none
  write_cell .kms_client none
  write_cell .kms_response_handler none
  write_cell .bot_person_id none

def reconnect (ignore_self_messages : Bool) (new_token : String) : Handler Unit := do
  Method.reject (new_token == "") (.internal "reconnect() requires a non-empty token string")
  disconnect
  write_cell .token new_token
  connect crates ignore_self_messages

def connection_status (is_connected ws_open is_connecting : Bool) (reconnect_attempt : Nat) : ConnectionStatus :=
  if is_connected && ws_open then .connected
  else if is_connecting then .connecting
  else if 0 < reconnect_attempt then .reconnecting
  else .disconnected

/-- `status`. The guard on the KMS client lives to the end of the expression that
    builds the result, so it is held while the registration is locked. -/
def status : Handler HandlerStatus := do
  let reconnect_attempt ← mercury_attempts
  let ws_open ← mercury_connected
  let is_connected ← read_cell .connected
  let is_connecting ← read_cell .connecting
  let kms ← acquire .kms_client
  let reg ← acquire .registration
  release .registration reg
  release .kms_client kms
  return {
    status := connection_status is_connected ws_open is_connecting reconnect_attempt
    web_socket_open := ws_open
    kms_initialized := Option.isSome kms
    device_registered := Option.isSome reg
    reconnect_attempt := reconnect_attempt }

/-- The refresh in the event loop's `Connected` arm. The guard on the device manager
    is still held when the registration is locked again. -/
def refresh_registration (token : String) : Handler Unit := do
  let reg ← acquire .registration
  if Option.isSome reg then do
    let dm ← acquire .device_manager
    let (refreshed, dm) ← call_device (device_manager.refresh crates.device token) dm
    match refreshed with
    | .ok new_reg => do
      release .registration reg
      write_cell .registration (some new_reg)
      release .device_manager dm
    | .error _ => do
      release .device_manager dm
      release .registration reg
  else release .registration reg

/-- A KMS response goes to the pending list, without the lock on the client. -/
def forward_kms_response (data : Value) : Option Nat → Handler Unit
  | some mailbox => handle_kms_message mailbox data
  | none => return ()

/-- What the event loop does with a Mercury event, or with a sweep tick. -/
def handle_mercury_event : Option MercuryEvent → Handler Unit
  | none => do
    let ids ← acquire .recent_activity_ids
    let instant ← now
    release .recent_activity_ids (List.filter (fun entry => decide (instant < entry.2 + 300000)) ids)
  | some (.kms_response data) => do
    let handler ← acquire .kms_response_handler
    forward_kms_response data handler
    release .kms_response_handler handler
  | some (.activity activity) => spawn_activity activity
  | some .connected => do
    let token ← read_cell .token
    refresh_registration crates token
    let _ ← initialize_kms crates
    write_cell .connected true
    send .connected
  | some (.disconnected reason) => do
    write_cell .connected false
    send (.disconnected reason)
  | some (.reconnecting attempt) => send (.reconnecting attempt)
  | some (.error message) => send (.error message)

/-- One iteration of the event loop. -/
def event_loop : Handler Unit := do
  let event ← next_event
  handle_mercury_event crates event

end webex.rust.handler
