import WebexHandler.Go.DeviceManager.Readings
import WebexHandler.Node.DeviceManager
import WebexHandler.Python.DeviceManager
import WebexHandler.Registration.Discipline
import WebexHandler.Rust.DeviceManager.Readings

open interaction json

namespace webex.registration

/-- A device manager that does what the protocol does. -/
structure Port where
  Op : Type
  State : Type
  Error : Type
  Reg : Type
  dialect : Dialect Op State Error
  describe : Reg → Registration
  new : State
  register : String → Method Op (fun _ => Except String FetchResponse) State Error Reg
  refresh : String → Method Op (fun _ => Except String FetchResponse) State Error Reg
  unregister : String → Method Op (fun _ => Except String FetchResponse) State Error Unit
  stands_new : dialect.Stands new {}
  register_follows : ∀ token, dialect.Follows describe (register token) (registration.register token)
  refresh_follows : ∀ token, dialect.Follows describe (refresh token) (registration.refresh token)
  unregister_follows : ∀ token, dialect.Follows id (unregister token) (registration.unregister token)

namespace Port

variable (port : Port)

def methods : Call → Method port.Op (fun _ => Except String FetchResponse) port.State port.Error (Option port.Reg) :=
  calls port.register port.refresh port.unregister

/-- The runs of a new manager, with any calls and any answers. -/
abbrev Run : List (Event (fun _ : port.Op => Except String FetchResponse) Call port.Error (Option port.Reg)) →
    Session port.Op (fun _ => Except String FetchResponse) port.State port.Error (Option port.Reg) → Prop :=
  Session.Run port.methods port.new

/-- An event of the port, and how the protocol words it. -/
abbrev Worded : Event (fun _ : port.Op => Except String FetchResponse) Call port.Error (Option port.Reg) →
    Event Answer Call Rejection (Option Registration) → Prop :=
  Event.InStep port.dialect.sync (port.dialect.Ends (Option.map port.describe))

variable {port}

theorem calls_follows (call : Call) : port.dialect.Follows (Option.map port.describe) (port.methods call)
    (calls registration.register registration.refresh registration.unregister call) := by
  have hsome : ∀ {m : Method port.Op (fun _ => Except String FetchResponse) port.State port.Error port.Reg}
      {m' : Dm Registration}, port.dialect.Follows port.describe m m' →
      port.dialect.Follows (Option.map port.describe) (m >>= fun reg => return some reg)
        (m' >>= fun reg => return some reg) := by
    intro m m' hm
    refine Method.inStep_bind hm ?_ fun e e' herrors => .error herrors
    rintro reg _ rfl
    exact Method.inStep_pure (.ok rfl)
  cases call with
  | register token => exact hsome (port.register_follows token)
  | refresh token => exact hsome (port.refresh_follows token)
  | unregister token =>
    exact Method.inStep_bind (port.unregister_follows token) (fun _ _ _ => Method.inStep_pure (.ok rfl))
      fun e e' herrors => .error herrors

/-- A run of the port is a run of the protocol in the words of the port. -/
theorem Run.refines {log session} (hrun : port.Run log session) :
    ∃ events session', Session.Run (calls registration.register registration.refresh registration.unregister) {} events session' ∧
      List.Forall₂ port.Worded log events ∧
        session.InStep port.dialect.sync port.dialect.Stands (port.dialect.Ends (Option.map port.describe)) session' :=
  Session.Run.simulates port.stands_new calls_follows hrun fun _ r _ req _ => ⟨port.dialect.read req r, rfl⟩

end Port

def rust_port (crates : rust.device_manager.Crates) : Port where
  Op := rust.FetchRequest
  State := rust.device_manager.DeviceManager
  Error := rust.WebexError
  Reg := rust.device_manager.DeviceRegistration
  dialect := rust.device_manager.dialect crates
  describe := rust.device_manager.describe
  new := {}
  register := rust.device_manager.register crates
  refresh := rust.device_manager.refresh crates
  unregister := rust.device_manager.unregister
  stands_new := rfl
  register_follows := rust.device_manager.register_follows
  refresh_follows := rust.device_manager.refresh_follows
  unregister_follows := rust.device_manager.unregister_follows

def go_port (pkg : go.device_manager.Packages) : Port where
  Op := FetchRequest String
  State := go.device_manager.DeviceManager
  Error := go.device_manager.Failure
  Reg := go.device_manager.DeviceRegistration
  dialect := go.device_manager.dialect pkg
  describe := go.device_manager.describe
  new := {}
  register := go.device_manager.register pkg
  refresh := go.device_manager.refresh pkg
  unregister := go.device_manager.unregister
  stands_new := rfl
  register_follows := go.device_manager.register_follows
  refresh_follows := go.device_manager.refresh_follows
  unregister_follows := go.device_manager.unregister_follows

def describe_node (reg : node.device_manager.DeviceRegistration) : Registration where
  web_socket_url := reg.web_socket_url
  device_url := reg.device_url
  user_id := reg.user_id
  services := reg.services
  encryption_service_url := reg.encryption_service_url

def node_port (builtins : node.kms_client.Builtins) (parse_json : rust.Bytes → Except String Value) : Port where
  Op := FetchRequest Value
  State := untyped.DeviceManager
  Error := untyped.Failure
  Reg := node.device_manager.DeviceRegistration
  dialect := untyped.dialect (node.device_manager.client builtins parse_json) describe_node
  describe := describe_node
  new := {}
  register := node.device_manager.register builtins parse_json
  refresh := node.device_manager.refresh builtins parse_json
  unregister := node.device_manager.unregister builtins parse_json
  stands_new := rfl
  register_follows := untyped.register_follows
  refresh_follows := untyped.refresh_follows
  unregister_follows := untyped.unregister_follows

def describe_python (reg : python.device_manager.DeviceRegistration) : Registration where
  web_socket_url := some reg.web_socket_url
  device_url := some reg.device_url
  user_id := some reg.user_id
  services := .object reg.services
  encryption_service_url := reg.encryption_service_url

def python_port (lib : python.device_manager.Library) : Port where
  Op := FetchRequest Value
  State := untyped.DeviceManager
  Error := untyped.Failure
  Reg := python.device_manager.DeviceRegistration
  dialect := untyped.dialect (python.device_manager.client lib) describe_python
  describe := describe_python
  new := {}
  register := python.device_manager.register lib
  refresh := python.device_manager.refresh lib
  unregister := python.device_manager.unregister lib
  stands_new := rfl
  register_follows := untyped.register_follows
  refresh_follows := untyped.refresh_follows
  unregister_follows := untyped.unregister_follows

/-- The four device managers, with what they use of their languages and libraries. -/
inductive Implementation
  | rust (crates : rust.device_manager.Crates)
  | go (pkg : go.device_manager.Packages)
  | node (builtins : node.kms_client.Builtins) (parse_json : rust.Bytes → Except String Value)
  | python (lib : python.device_manager.Library)

def Implementation.port : Implementation → Port
  | .rust crates => rust_port crates
  | .go pkg => go_port pkg
  | .node builtins parse_json => node_port builtins parse_json
  | .python lib => python_port lib

/-- Every device manager keeps to the protocol in every session: over all its calls it asks for the
    catalog at most once, and it touches no device that the server has not named. -/
theorem sessions_disciplined (implementation : Implementation) {log session} (hrun : implementation.port.Run log session) :
    ∃ events, List.Forall₂ implementation.port.Worded log events ∧ Disciplined events ∧
      ∀ s, session = .idle s → Accounts (observer.after events) (implementation.port.dialect.manager s) := by
  obtain ⟨events, session', hrun', hworded, hsession⟩ := hrun.refines
  obtain ⟨hdisciplined, hwatched⟩ := run_disciplined hrun'
  refine ⟨events, hworded, hdisciplined, ?_⟩
  rintro s rfl
  cases hsession with
  | idle hstands =>
    obtain rfl := hstands
    exact hwatched

/-- A language in which every response lists one device of this client. -/
def listing_library : python.device_manager.Library where
  parse_json _ := .ok (.object [("devices", .array [.object [("name", .string "webex-message-handler"),
    ("deviceType", .string "DESKTOP"), ("url", .string "https://wdm-a.wbx2.com/wdm/api/v1/devices/1")]])])
  dumps _ := ""
  urlparse _ := { scheme := "", hostname := none }

/-- A registration that is refused reaps the device it has listed, and is refused again. -/
theorem refused_session_disciplined : ∃ log events, (Implementation.python listing_library).port.Run log (.idle {
      device_url := none, wdm_devices_url := some python.device_manager.WDM_API_BASE }) ∧
    List.Forall₂ (Implementation.python listing_library).port.Worded log events ∧ Disciplined events := by
  have hstart : (python_port listing_library).Run [] (.idle {}) := .start
  have hlisted := ((hstart.call (.register "t")).answer (.error "offline")).answer (.ok { status := 200, ok := true, body := [] })
  have hrefused := (hlisted.answer (.ok { status := 500, ok := false, body := [] })).answer
    (.ok { status := 403, ok := false, body := [] })
  have hreaped := (hrefused.answer (.ok { status := 200, ok := true, body := [] })).answer
    (.ok { status := 204, ok := true, body := [] })
  have hrun := (hreaped.answer (.ok { status := 403, ok := false, body := [] })).finish
  obtain ⟨events, hworded, hdisciplined, -⟩ := sessions_disciplined (.python listing_library) hrun
  exact ⟨_, events, hrun, hworded, hdisciplined⟩

end webex.registration
