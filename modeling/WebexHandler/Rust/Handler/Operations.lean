import WebexHandler.Interaction.Pool
import WebexHandler.Rust.Activity
import WebexHandler.Rust.DeviceManager
import WebexHandler.Rust.KmsClient.Mailbox
import WebexHandler.Rust.MercurySocket.Socket

open interaction json

namespace webex.rust.handler

open device_manager (DeviceManager DeviceRegistration)
open kms_client (KmsClient)

/-- The mutexes of `WebexMessageHandler`. -/
inductive Cell
  | token
  | device_manager
  | kms_client
  | kms_response_handler
  | registration
  | connected
  | connecting
  | bot_person_id
  | recent_activity_ids
  deriving DecidableEq, Repr

/-- What each mutex guards. A `KmsClient` comes with the number of the pending list
    it shares with its `KmsResponseHandler`. -/
def Content : Cell → Type
  | .token => String
  | .device_manager => DeviceManager
  | .kms_client => Option (Nat × KmsClient)
  | .kms_response_handler => Option Nat
  | .registration => Option DeviceRegistration
  | .connected => Bool
  | .connecting => Bool
  | .bot_person_id => Option String
  | .recent_activity_ids => List (String × Nat)

/-- The functions of other crates and of the `jwe` and `mention_parser` modules that the
    handler, its components and the decryptor call. -/
structure Crates where
  kms : kms_client.Crates
  device : device_manager.Crates
  decrypt_message_jwe : String → Bytes → Except WebexError Bytes
  from_utf8 : Bytes → Option String
  /-- Standard base64, with or without padding. -/
  standard_decode : String → Option Bytes
  /-- The mentioned people and groups of an HTML text. -/
  parse_mentions : Option String → List String × List String
  socket : mercury_socket.Crates

/-- The operations of the handler's tasks. Taking and dropping a guard are operations
    of their own; a guard is dropped with the content it leaves behind. -/
inductive Op
  | acquire (cell : Cell)
  | release (cell : Cell) (content : Content cell)
  | fetch (req : FetchRequest)
  | kms (mailbox : Nat) (op : kms_client.Op)
  | new_mailbox
  | handle_kms_message (mailbox : Nat) (data : Value)
  /-- `connect_async` and the authorization frame, after `base_url` has been prepared. -/
  | open_socket (base_url prepared_url token : String)
  | mercury_disconnect
  | mercury_connected
  | mercury_attempts
  | start_event_loop
  /-- The `select!` of the event loop: a Mercury event, or a sweep tick. -/
  | next_event
  | spawn_activity (activity : MercuryActivity)
  | now
  | send (event : HandlerEvent)
  | try_send (event : HandlerEvent)

def Res : Op → Type
  | .acquire cell => Content cell
  | .release _ _ => Unit
  | .fetch _ => Except String FetchResponse
  | .kms _ op => kms_client.Res op
  | .new_mailbox => Nat
  | .handle_kms_message _ _ => Unit
  | .open_socket _ _ _ => Except WebexError Unit
  | .mercury_disconnect => Unit
  | .mercury_connected => Bool
  | .mercury_attempts => Nat
  | .start_event_loop => Unit
  | .next_event => Option MercuryEvent
  | .spawn_activity _ => Unit
  | .now => Nat
  | .send _ => Unit
  | .try_send _ => Unit

/-- A function of the handler. All its state is behind the mutexes. -/
abbrev Handler (α : Type) : Type := Method Op Res Unit WebexError α

def acquire (cell : Cell) : Handler (Content cell) := Method.request (Op.acquire cell)
def release (cell : Cell) (content : Content cell) : Handler Unit := Method.request (Op.release cell content)
def fetch (req : FetchRequest) : Handler (Except String FetchResponse) := Method.request (Op.fetch req)
def new_mailbox : Handler Nat := Method.request Op.new_mailbox
def handle_kms_message (mailbox : Nat) (data : Value) : Handler Unit :=
  Method.request (Op.handle_kms_message mailbox data)
def open_socket (base_url prepared_url token : String) : Handler (Except WebexError Unit) :=
  Method.request (Op.open_socket base_url prepared_url token)
def mercury_disconnect : Handler Unit := Method.request Op.mercury_disconnect
def mercury_connected : Handler Bool := Method.request Op.mercury_connected
def mercury_attempts : Handler Nat := Method.request Op.mercury_attempts
def start_event_loop : Handler Unit := Method.request Op.start_event_loop
def next_event : Handler (Option MercuryEvent) := Method.request Op.next_event
def spawn_activity (activity : MercuryActivity) : Handler Unit := Method.request (Op.spawn_activity activity)
def now : Handler Nat := Method.request Op.now
def send (event : HandlerEvent) : Handler Unit := Method.request (Op.send event)
def try_send (event : HandlerEvent) : Handler Unit := Method.request (Op.try_send event)

/-- A method of the `DeviceManager` behind a guard. -/
def call_device {α : Type} (m : device_manager.Dm α) (dm : DeviceManager) :
    Handler (Except WebexError α × DeviceManager) :=
  m.call Op.fetch (fun _ r => r) dm

/-- A method of the `KmsClient` behind a guard. -/
def call_kms {α : Type} (mailbox : Nat) (m : kms_client.Kms α) (kms : KmsClient) :
    Handler (Except WebexError α × KmsClient) :=
  m.call (Op.kms mailbox) (fun _ r => r) kms

/-- `cell.lock().await.clone()`. -/
def read_cell (cell : Cell) : Handler (Content cell) := do
  let content ← acquire cell
  release cell content
  return content

/-- `*cell.lock().await = content`. -/
def write_cell (cell : Cell) (content : Content cell) : Handler Unit := do
  let _ ← acquire cell
  release cell content

end webex.rust.handler
