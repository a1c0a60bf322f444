import WebexHandler.Rust.DeviceManager.Ledger
import WebexHandler.Rust.Handler.Environment
import WebexHandler.Rust.Handler.Surroundings

open interaction json

namespace webex.rust.handler

open device_manager (Device DeviceManager DeviceRegistration)
open kms_client (KmsClient)

/-- The steps at which `connect` can fail. -/
inductive ConnectStep
  | guard
  | register
  | people_me
  | mercury
  | kms
  deriving DecidableEq, Repr

/-- The `DELETE` of a device is among the requests of a `disconnect` that follows,
    whatever the servers answer. -/
def Unregisters (w : World) (device_url : String) : Prop :=
  ∀ servers, disconnect.Obeys (surroundings servers true) () w fun _ _ w' =>
    ∃ req ∈ w'.cells.requests.drop w.cells.requests.length, req.method = "DELETE" ∧ req.url = device_url

/-- The cells that a failed `connect` must not change. -/
structure Unchanged (before after : Cells) : Prop where
  kms_client : after.content .kms_client = before.content .kms_client
  kms_response_handler : after.content .kms_response_handler = before.content .kms_response_handler
  registration : after.content .registration = before.content .registration
  bot_person_id : after.content .bot_person_id = before.content .bot_person_id

/-- A handler between two calls. The response handlers and the sockets it knows of are
    numbered lower than the next ones. The devices are those that the servers keep of the
    ones its device manager has registered. -/
structure Idle where
  world : World
  devices : List Device
  handler_lt : ∀ mailbox : Nat, world.cells.content .kms_response_handler = some mailbox →
    mailbox < world.cells.next_mailbox
  read_loop_lt : ∀ socket ∈ world.socket.read_loops, socket < world.socket.next_socket

/-- The devices that the servers keep after a call, by its requests and the answers to
    them. -/
def Idle.devices_after (crates : Crates) (servers : Servers) (before : Idle) (after : Cells) : List Device :=
  device_manager.accounts crates.device servers.fetched before.world.cells.requests.length
    (after.requests.drop before.world.cells.requests.length) before.devices

theorem Idle.devices_after_of_requests {crates : Crates} {servers : Servers} (before : Idle) {after : Cells}
    {sent : List FetchRequest} (hsent : after.requests = before.world.cells.requests ++ sent) :
    before.devices_after crates servers after = device_manager.accounts crates.device servers.fetched
      before.world.cells.requests.length sent before.devices := by
  rw [Idle.devices_after, hsent, List.drop_left]

/-- A call has left nothing behind: no read loop of its own, no connection, no change of
    the cells, and no device that a `disconnect` would leave registered. -/
structure LeavesNothingBehind (crates : Crates) (servers : Servers) (before : Idle) (after : World) : Prop where
  read_loops : ∀ socket ∈ after.socket.read_loops, socket < before.world.socket.next_socket
  disconnected : after.socket.connected = false
  cells : Unchanged before.world.cells after.cells
  unregisters : ∀ device ∈ before.devices_after crates servers after.cells, ∃ device_url, device = some device_url ∧
    Unregisters after device_url

section evaluation

variable (crates : Crates) (ignore_self_messages : Bool) (servers : Servers)

/-- The outcome of the registration, with the fields of the device manager after it and
    the requests made. -/
def registered (cells : Cells) : (Except WebexError DeviceRegistration × DeviceManager) × List FetchRequest :=
  (device_manager.register crates.device (cells.content .token) (cells.content .device_manager)).exec
    servers.answer_fetch cells.requests

/-- The outcome of the handshake of a new client. -/
def handshake (cells : Cells) (reg : DeviceRegistration) : (Except WebexError Unit × KmsClient) × Nat :=
  (kms_client.initialize_client crates.kms
    (kms_client.new (cells.content .token) reg.device_url reg.user_id reg.encryption_service_url)).exec
    servers.answer_kms cells.kms_operations

/-- The step at which `connect` fails once the new client is stored. -/
def late_step (cells : Cells) (reg : DeviceRegistration) : Option ConnectStep :=
  match crates.socket.parse_url reg.web_socket_url, servers.opened with
  | .ok _, .ok _ =>
    match (handshake crates servers cells reg).1.1 with
    | .error _ => some .kms
    | .ok _ => none
  | _, _ => some .mercury

/-- The step at which `connect` fails. -/
def failing_step (cells : Cells) : Option ConnectStep :=
  if (cells.content .connecting || cells.content .connected) = true then some .guard
  else match registered crates servers cells with
    | ((.error _, _), _) => some .register
    | ((.ok reg, _), requests) =>
      match ignore_self_messages, parse_bot_person_id crates (servers.fetched requests.length) with
      | true, .error _ => some .people_me
      | _, _ => late_step crates servers cells reg

/-- The cells after the registration. -/
def Cells.registered (cells : Cells) (dm : DeviceManager) (requests : List FetchRequest) : Cells :=
  { cells.store .connecting true with requests := requests }.store .device_manager dm

/-- The outcome of the step that asks for the bot's identity. -/
def identified (cells : Cells) : Except WebexError Unit × Cells :=
  if ignore_self_messages then
    let asked := { cells with requests := cells.requests ++ [people_me_request (cells.content .token)] }
    match parse_bot_person_id crates (servers.fetched cells.requests.length) with
    | .error e => (.error e, asked)
    | .ok uuid => (.ok (), asked.store .bot_person_id (some uuid))
  else (.ok (), cells)

variable {crates ignore_self_messages servers} {lossy : Bool} {R : Socket → Socket → Prop}

theorem evaluates_identity (hR : Tolerant lossy R) (cells : Cells) :
    Evaluates servers lossy R ((fetch_bot_person_id crates).when ignore_self_messages) cells
      (identified crates ignore_self_messages servers cells).1 (identified crates ignore_self_messages servers cells).2 := by
  cases ignore_self_messages with
  | false => exact evaluates_pure hR () cells
  | true =>
    apply evaluates_bind hR (evaluates_read_cell hR cells .token)
    apply evaluates_bind hR (evaluates_fetch hR cells _)
    unfold identified
    rw [if_pos rfl]
    dsimp only
    cases hparse : parse_bot_person_id crates (servers.fetched cells.requests.length) with
    | error e => exact evaluates_bind_error (evaluates_ofExcept hR (.error e) _)
    | ok uuid =>
      apply evaluates_bind hR (evaluates_ofExcept hR (.ok uuid) _)
      exact evaluates_write_cell hR _ .bot_person_id (some uuid)

theorem evaluates_register_device (hR : Tolerant lossy R) (cells : Cells) (token : String) :
    Evaluates servers lossy R (register_device crates token) cells
      ((device_manager.register crates.device token (cells.content .device_manager)).exec
        servers.answer_fetch cells.requests).1.1
      ({ cells with requests := ((device_manager.register crates.device token (cells.content .device_manager)).exec
        servers.answer_fetch cells.requests).2 }.store .device_manager
        ((device_manager.register crates.device token (cells.content .device_manager)).exec
        servers.answer_fetch cells.requests).1.2) := by
  apply evaluates_bind hR (evaluates_acquire hR cells .device_manager)
  apply evaluates_bind hR (evaluates_call_device hR _ _ cells)
  apply evaluates_bind hR (evaluates_release hR _ .device_manager _)
  exact evaluates_ofExcept hR _ _

/-- The error with which the guard of `connect` fails. -/
def guard_error (connecting : Bool) : WebexError :=
  if connecting then .internal "connect() already in progress"
  else .internal "Already connected. Call disconnect() first, or use reconnect()."

theorem evaluates_guard (hR : Tolerant lossy R) {cells : Cells}
    (hguard : (cells.content .connecting || cells.content .connected) = true) :
    Evaluates servers lossy R (connect crates ignore_self_messages) cells
      (.error (guard_error (cells.content .connecting))) cells := by
  cases hconnecting : (cells.content .connecting : Bool) with
  | true =>
    apply evaluates_bind hR (evaluates_acquire hR cells .connecting)
    apply evaluates_bind hR (evaluates_acquire hR cells .connected)
    apply evaluates_bind hR (evaluates_unlock hR cells .connected)
    apply evaluates_bind hR (evaluates_unlock hR cells .connecting)
    rw [hconnecting]
    exact evaluates_bind_error (evaluates_ofExcept hR _ cells)
  | false =>
    have hconnected : cells.content .connected = true := by
      rw [hconnecting] at hguard
      exact hguard
    apply evaluates_bind hR (evaluates_acquire hR cells .connecting)
    apply evaluates_bind hR (evaluates_acquire hR cells .connected)
    apply evaluates_bind hR (evaluates_unlock hR cells .connected)
    apply evaluates_bind hR (evaluates_unlock hR cells .connecting)
    rw [hconnecting, hconnected]
    apply evaluates_bind hR (evaluates_ofExcept hR (.ok ()) cells)
    exact evaluates_bind_error (evaluates_ofExcept hR _ cells)

/-- The cells after a `connect` whose `connect_internal` has this outcome. -/
def Cells.ended (cells : Cells) : Except WebexError Unit → Cells
  | .error _ => cells.store .connecting false
  | .ok _ => (cells.store .connecting false).store .connected true

/-- Only the two flags are written after `connect_internal`. -/
theorem ended_content (cells : Cells) (r : Except WebexError Unit) {cell : Cell} (hconnecting : cell ≠ .connecting)
    (hconnected : cell ≠ .connected) : (cells.ended r).content cell = cells.content cell := by
  cases r with
  | error e => exact Function.update_of_ne hconnecting _ _
  | ok value => exact (Function.update_of_ne hconnected _ _).trans (Function.update_of_ne hconnecting _ _)

/-- Past its guard, `connect` is `connect_internal` between two writes of its flag. -/
theorem evaluates_connect (hR : Tolerant lossy R) {cells cells' : Cells} {r : Except WebexError Unit}
    (hguard : (cells.content .connecting || cells.content .connected) = false)
    (hinternal : Evaluates servers lossy R (connect_internal crates ignore_self_messages)
      (cells.store .connecting true) r cells') :
    Evaluates servers lossy R (connect crates ignore_self_messages) cells r (cells'.ended r) := by
  obtain ⟨hconnecting, hconnected⟩ := Bool.or_eq_false_iff.mp hguard
  apply evaluates_bind hR (evaluates_acquire hR cells .connecting)
  apply evaluates_bind hR (evaluates_acquire hR cells .connected)
  apply evaluates_bind hR (evaluates_unlock hR cells .connected)
  apply evaluates_bind hR (evaluates_unlock hR cells .connecting)
  rw [hconnecting, hconnected]
  apply evaluates_bind hR (evaluates_ofExcept hR (.ok ()) cells)
  apply evaluates_bind hR (evaluates_ofExcept hR (.ok ()) cells)
  apply evaluates_bind hR (evaluates_write_cell hR cells .connecting true)
  apply evaluates_bind hR (evaluates_attempt hinternal)
  apply evaluates_bind hR (evaluates_write_cell hR cells' .connecting false)
  cases r with
  | error e => exact evaluates_bind_error (evaluates_ofExcept hR (.error e) _)
  | ok value =>
    apply evaluates_bind hR (evaluates_ofExcept hR (.ok value) _)
    apply evaluates_bind hR (evaluates_write_cell hR _ .connected true)
    exact evaluates_try_send hR _ .connected

/-- The rest of `connect_internal` after the registration. -/
def connect_registered (crates : Crates) (ignore_self_messages : Bool) (token : String) (reg : DeviceRegistration) :
    Handler Unit := do
  (fetch_bot_person_id crates).when ignore_self_messages
  let mailbox ← new_mailbox
  write_cell .kms_response_handler (some mailbox)
  write_cell .kms_client
    (some (mailbox, kms_client.new token reg.device_url reg.user_id reg.encryption_service_url))
  mercury_connect crates reg.web_socket_url token
  start_event_loop
  let initialized ← initialize_kms crates
  Method.ofExcept initialized
  write_cell .registration (some reg)

theorem evaluates_register (crates : Crates) (hR : Tolerant lossy R) (cells : Cells) :
    Evaluates servers lossy R (register_device crates (cells.content .token)) (cells.store .connecting true)
      (registered crates servers cells).1.1
      (cells.registered (registered crates servers cells).1.2 (registered crates servers cells).2) :=
  evaluates_register_device hR (cells.store .connecting true) (cells.content .token)

theorem evaluates_register_error (hR : Tolerant lossy R) {cells : Cells} {e : WebexError} {dm : DeviceManager}
    {requests : List FetchRequest} (hregistered : registered crates servers cells = ((.error e, dm), requests)) :
    Evaluates servers lossy R (connect_internal crates ignore_self_messages) (cells.store .connecting true)
      (.error e) (cells.registered dm requests) := by
  have hregister : Evaluates servers lossy R _ _ _ _ := evaluates_register crates hR cells
  rw [hregistered] at hregister
  apply evaluates_bind hR (evaluates_read_cell hR _ .token)
  exact evaluates_bind_error hregister

theorem evaluates_register_ok (hR : Tolerant lossy R) {cells cells' : Cells} {reg : DeviceRegistration}
    {dm : DeviceManager} {requests : List FetchRequest} {r : Except WebexError Unit}
    (hregistered : registered crates servers cells = ((.ok reg, dm), requests))
    (hrest : Evaluates servers lossy R (connect_registered crates ignore_self_messages (cells.content .token) reg)
      (cells.registered dm requests) r cells') :
    Evaluates servers lossy R (connect_internal crates ignore_self_messages) (cells.store .connecting true) r
      cells' := by
  have hregister : Evaluates servers lossy R _ _ _ _ := evaluates_register crates hR cells
  rw [hregistered] at hregister
  apply evaluates_bind hR (evaluates_read_cell hR _ .token)
  exact evaluates_bind hR hregister hrest

theorem evaluates_mercury_connect (cells : Cells) (ws_url token : String) :
    ∃ r, Evaluates servers lossy (fun _ _ => True) (mercury_connect crates ws_url token) cells r cells ∧
      (r = .ok () ↔ (∃ url, crates.socket.parse_url ws_url = .ok url) ∧ servers.opened = .ok ()) := by
  have hR := tolerant_true lossy
  have hopened : ∀ base_url prepared_url, Evaluates servers lossy (fun _ _ => True)
      (open_socket base_url prepared_url token) cells (.ok servers.opened) cells := by
    intro base_url prepared_url socket
    refine ⟨trivial, ?_⟩
    rintro r' w ⟨socket', -, hmove⟩
    cases hmove
    exact ⟨rfl, rfl, trivial⟩
  cases hparse : crates.socket.parse_url ws_url with
  | error e =>
    refine ⟨.error (.mercury_connection ("Invalid URL: " ++ e) none), ?_, by simp⟩
    apply evaluates_bind hR (evaluates_now hR cells)
    have hprepare : mercury_socket.prepare_url crates.socket ws_url servers.now =
        .error (.mercury_connection ("Invalid URL: " ++ e) none) := by
      unfold mercury_socket.prepare_url
      rw [hparse]
      rfl
    rw [hprepare]
    exact evaluates_bind_error (evaluates_ofExcept hR _ cells)
  | ok url =>
    refine ⟨servers.opened, ?_, by simp⟩
    apply evaluates_bind hR (evaluates_now hR cells)
    have hprepare : ∃ prepared_url, mercury_socket.prepare_url crates.socket ws_url servers.now = .ok prepared_url := by
      unfold mercury_socket.prepare_url
      rw [hparse]
      exact ⟨_, rfl⟩
    obtain ⟨prepared_url, hprepare⟩ := hprepare
    rw [hprepare]
    apply evaluates_bind hR (evaluates_ofExcept hR (.ok prepared_url) cells)
    apply evaluates_bind hR (hopened ws_url prepared_url)
    exact evaluates_ofExcept hR _ cells

theorem evaluates_initialize_kms (hR : Tolerant lossy R) {cells : Cells} {mailbox : Nat} {kms : KmsClient}
    (hkms : cells.content .kms_client = some (mailbox, kms)) :
    Evaluates servers lossy R (initialize_kms crates) cells
      (.ok ((kms_client.initialize_client crates.kms kms).exec servers.answer_kms cells.kms_operations).1.1)
      ({ cells with kms_operations :=
          ((kms_client.initialize_client crates.kms kms).exec servers.answer_kms cells.kms_operations).2 }.store .kms_client
        (some (mailbox,
          ((kms_client.initialize_client crates.kms kms).exec servers.answer_kms cells.kms_operations).1.2))) := by
  apply evaluates_bind hR (evaluates_acquire hR cells .kms_client)
  rw [hkms]
  apply evaluates_bind hR (evaluates_call_kms hR mailbox _ kms cells)
  apply evaluates_bind hR (evaluates_release hR _ .kms_client _)
  exact evaluates_pure hR _ _

/-- Asking for the identity leaves the other cells alone. -/
theorem identified_frame (cells : Cells) :
    (identified crates ignore_self_messages servers cells).2.next_mailbox = cells.next_mailbox ∧
      (identified crates ignore_self_messages servers cells).2.kms_operations = cells.kms_operations ∧
      (identified crates ignore_self_messages servers cells).2.content .device_manager = cells.content .device_manager := by
  unfold identified
  split
  · dsimp only
    split
    · exact ⟨rfl, rfl, rfl⟩
    · exact ⟨rfl, rfl, rfl⟩
  · exact ⟨rfl, rfl, rfl⟩

/-- An identity that is rejected changes no cell. -/
theorem identified_content {cells : Cells} {e : WebexError}
    (hidentified : (identified crates ignore_self_messages servers cells).1 = .error e) :
    (identified crates ignore_self_messages servers cells).2.content = cells.content := by
  unfold identified at hidentified ⊢
  split at hidentified
  · dsimp only at hidentified ⊢
    split at hidentified
    · rename_i hself _ _ _
      rw [if_pos hself]
    · cases hidentified
  · cases hidentified

/-- An identity that is rejected was asked for. -/
theorem identified_requests {cells : Cells} {e : WebexError}
    (hidentified : (identified crates ignore_self_messages servers cells).1 = .error e) :
    (identified crates ignore_self_messages servers cells).2.requests =
      cells.requests ++ [people_me_request (cells.content .token)] := by
  unfold identified at hidentified ⊢
  split at hidentified
  · dsimp only at hidentified ⊢
    split at hidentified
    · rename_i hself _ _ _
      rw [if_pos hself]
    · cases hidentified
  · cases hidentified

/-- What the rest of `connect_internal` leaves after the identity: the new client, whether
    or not the rest succeeds. -/
structure Late (crates : Crates) (servers : Servers) (before : Cells) (reg : DeviceRegistration)
    (r : Except WebexError Unit) (after : Cells) : Prop where
  response_handler : after.content .kms_response_handler = some before.next_mailbox
  succeeds : r = .ok () ↔ ((∃ url, crates.socket.parse_url reg.web_socket_url = .ok url) ∧ servers.opened = .ok ()) ∧
    (handshake crates servers before reg).1.1 = .ok ()
  registration : r = .ok () → after.content .registration = some reg
  device_manager : after.content .device_manager = before.content .device_manager
  client : ∃ kms, after.content .kms_client = some (before.next_mailbox, kms) ∧
    ((KmsClient.initialized kms = false ∧ r ≠ .ok ()) ∨ (handshake crates servers before reg).1 = (r, kms))

theorem evaluates_late {cells : Cells} (hidentified : (identified crates ignore_self_messages servers cells).1 = .ok ())
    (reg : DeviceRegistration) :
    ∃ r after, Evaluates servers lossy (fun _ _ => True)
      (connect_registered crates ignore_self_messages (cells.content .token) reg) cells r after ∧
        Late crates servers cells reg r after := by
  have hR := tolerant_true lossy
  obtain ⟨hmailbox, hoperations, hmanager⟩ := @identified_frame crates ignore_self_messages servers cells
  have hidentity := @evaluates_identity crates ignore_self_messages servers lossy _ hR cells
  rw [hidentified] at hidentity
  generalize (identified crates ignore_self_messages servers cells).2 = asked at *
  generalize hclient : kms_client.new (cells.content .token) reg.device_url reg.user_id reg.encryption_service_url = kms
  let stored := ({ asked with next_mailbox := asked.next_mailbox + 1 }.store .kms_response_handler
    (some asked.next_mailbox)).store .kms_client (some (asked.next_mailbox, kms))
  obtain ⟨r, hmercury, hr⟩ :=
    @evaluates_mercury_connect crates servers lossy stored reg.web_socket_url (cells.content .token)
  have hstored : ∀ r after, Evaluates servers lossy (fun _ _ => True) (do
      mercury_connect crates reg.web_socket_url (cells.content .token)
      start_event_loop
      let initialized ← initialize_kms crates
      Method.ofExcept initialized
      write_cell .registration (some reg)) stored r after →
      Evaluates servers lossy (fun _ _ => True)
        (connect_registered crates ignore_self_messages (cells.content .token) reg) cells r after := by
    intro r after hrest
    apply evaluates_bind hR hidentity
    apply evaluates_bind hR (evaluates_new_mailbox hR asked)
    apply evaluates_bind hR (evaluates_write_cell hR _ .kms_response_handler _)
    rw [hclient]
    exact evaluates_bind hR (evaluates_write_cell hR _ .kms_client _) hrest
  have hhandler : stored.content .kms_response_handler = some cells.next_mailbox := congrArg some hmailbox
  have hnumber : ∀ kms : KmsClient, some (asked.next_mailbox, kms) = some (cells.next_mailbox, kms) :=
    fun kms => congrArg some (congrArg (·, kms) hmailbox)
  cases r with
  | error e =>
    have hnew : KmsClient.initialized kms = false := hclient ▸ rfl
    refine ⟨.error e, stored, hstored _ _ (evaluates_bind_error hmercury), hhandler, ?_, nofun, hmanager, kms,
      hnumber kms, .inl ⟨hnew, nofun⟩⟩
    rw [← hr]
    simp
  | ok value =>
    have hinitialize := @evaluates_initialize_kms crates servers lossy _ hR stored asked.next_mailbox kms rfl
    have hkms : stored.kms_operations = cells.kms_operations := hoperations
    rw [hkms] at hinitialize
    have hhandshake : (kms_client.initialize_client crates.kms kms).exec servers.answer_kms cells.kms_operations =
        handshake crates servers cells reg := by
      rw [handshake, hclient]
    rw [hhandshake] at hinitialize
    rcases hout : handshake crates servers cells reg with ⟨⟨initialized, kms'⟩, operations⟩
    rw [hout] at hinitialize
    have hopened : ∀ r after, Evaluates servers lossy (fun _ _ => True) (do
        Method.ofExcept initialized
        write_cell .registration (some reg)) ({ stored with kms_operations := operations }.store .kms_client
          (some (asked.next_mailbox, kms'))) r after →
        Evaluates servers lossy (fun _ _ => True)
          (connect_registered crates ignore_self_messages (cells.content .token) reg) cells r after := by
      intro r after hrest
      apply hstored
      apply evaluates_bind hR hmercury
      apply evaluates_bind hR (evaluates_start_event_loop hR stored)
      exact evaluates_bind hR hinitialize hrest
    cases initialized with
    | error e =>
      refine ⟨.error e, _, hopened _ _ (evaluates_bind_error (evaluates_ofExcept hR (.error e) _)), hhandler, ?_, nofun,
        hmanager, kms', hnumber kms', .inr (congrArg Prod.fst hout)⟩
      rw [← hr, hout]
      simp
    | ok done =>
      refine ⟨.ok (), _, hopened _ _ (evaluates_bind hR (evaluates_ofExcept hR (.ok done) _)
        (evaluates_write_cell hR _ .registration _)), hhandler, ?_, fun _ => rfl, hmanager, kms', hnumber kms',
        .inr (congrArg Prod.fst hout)⟩
      rw [← hr, hout]
      simp

end evaluation

section unregistration

variable {servers : Servers} {lossy : Bool}

/-- Servers that cannot be reached. -/
def unreachable_servers : Servers where
  fetched _ := .error "connection refused"
  kms _
    | .fetch _ => (.error "connection refused" : Except String FetchResponse)
    | .now => (0 : Nat)
    | .sleep _ => ()
    | .new_v4 => ("" : String)
    | .random _ => ([] : Bytes)
    | .register_pending _ => (some 0 : Option Nat)
    | .remove_pending _ => ()
    | .wait_response _ _ => kms_client.Waited.timed_out
  opened := .error (.mercury_connection "Failed to connect: connection refused" none)

theorem evaluates_mercury_disconnect (cells : Cells) :
    Evaluates servers lossy (fun _ _ => True) mercury_disconnect cells (.ok ()) cells := by
  intro socket
  refine ⟨trivial, ?_⟩
  rintro r' w ⟨socket', -, hmove⟩
  cases hmove
  exact ⟨rfl, rfl, trivial⟩

/-- The requests with which a device is unregistered: none without a registration. -/
def unregistering (cells : Cells) (token : String) : List FetchRequest :=
  if (cells.content .registration : Option DeviceRegistration).isSome = true then
    ((cells.content .device_manager : DeviceManager).device_url.map (device_manager.unregister_request token)).toList
  else []

theorem unregister_sends (dm : DeviceManager) (token : String) (requests : List FetchRequest) :
    ((device_manager.unregister token dm).exec servers.answer_fetch requests).2 =
      requests ++ (dm.device_url.map (device_manager.unregister_request token)).toList := by
  obtain ⟨deletion, hlog, hdeletion⟩ := @Program.Obeys.exchanges _ _ _ _ servers.answer_fetch _ _ _ requests
    (@device_manager.unregister_records dm [] token)
  rw [List.nil_append, List.nil_append] at hlog
  obtain ⟨hrequests, -⟩ := @device_manager.exchanges_numbered servers.fetched _
    (device_manager.unregister token dm) servers.answer_fetch (fun _ _ => rfl) requests
  rw [hrequests, hlog, hdeletion]

/-- The cells after the unregistration in a `disconnect`. -/
def Cells.unregistered (servers : Servers) (cells : Cells) (token : String) : Cells :=
  if (cells.content .registration : Option DeviceRegistration).isSome = true then
    let out := (device_manager.unregister token (cells.content .device_manager)).exec servers.answer_fetch cells.requests
    { cells with requests := out.2 }.store .device_manager out.1.2
  else cells

/-- The cells after a `disconnect`. -/
def Cells.disconnected (servers : Servers) (cells : Cells) : Cells :=
  (((((cells.store .connected false).unregistered servers (cells.content .token)).store .registration none).store
    .kms_client none).store .kms_response_handler none).store .bot_person_id none

theorem evaluates_unregister_device {R : Socket → Socket → Prop} (hR : Tolerant lossy R) (cells : Cells)
    (token : String) :
    Evaluates servers lossy R (unregister_device token) cells (.ok ()) (cells.unregistered servers token) := by
  unfold Cells.unregistered
  cases hreg : (cells.content .registration : Option DeviceRegistration) with
  | none =>
    apply evaluates_bind hR (evaluates_acquire hR cells .registration)
    rw [hreg]
    apply evaluates_bind hR (evaluates_pure hR () cells)
    have hunlock : Evaluates servers lossy R _ _ _ _ := evaluates_unlock hR cells .registration
    rwa [hreg] at hunlock
  | some reg =>
    have hcall : Evaluates servers lossy R _ _ _ _ :=
      evaluates_call_device hR (device_manager.unregister token) (cells.content .device_manager) cells
    rw [if_pos Option.isSome_some]
    dsimp only
    generalize (device_manager.unregister token (cells.content .device_manager)).exec servers.answer_fetch
      cells.requests = out at *
    have hunlock : Evaluates servers lossy R _ _ _ _ :=
      evaluates_unlock hR ({ cells with requests := out.2 }.store .device_manager out.1.2) .registration
    apply evaluates_bind hR (evaluates_acquire hR cells .registration)
    rw [hreg]
    apply evaluates_bind hR
    · apply evaluates_bind hR (evaluates_acquire hR cells .device_manager)
      apply evaluates_bind hR hcall
      exact evaluates_release hR _ .device_manager _
    · have hkept : ({ cells with requests := out.2 }.store .device_manager out.1.2).content .registration = some reg := hreg
      rwa [hkept] at hunlock

theorem evaluates_disconnect (cells : Cells) :
    Evaluates servers lossy (fun _ _ => True) disconnect cells (.ok ()) (cells.disconnected servers) := by
  have hR := tolerant_true lossy
  apply evaluates_bind hR (evaluates_write_cell hR cells .connected false)
  apply evaluates_bind hR (evaluates_mercury_disconnect _)
  apply evaluates_bind hR (evaluates_read_cell hR _ .token)
  apply evaluates_bind hR (evaluates_unregister_device hR (cells.store .connected false) (cells.content .token))
  apply evaluates_bind hR (evaluates_write_cell hR _ .registration none)
  apply evaluates_bind hR (evaluates_write_cell hR _ .kms_client none)
  apply evaluates_bind hR (evaluates_write_cell hR _ .kms_response_handler none)
  exact evaluates_write_cell hR _ .bot_person_id none

theorem disconnected_requests (servers : Servers) (cells : Cells) : (cells.disconnected servers).requests =
    cells.requests ++ unregistering cells (cells.content .token) := by
  show ((cells.store .connected false).unregistered servers (cells.content .token)).requests = _
  unfold Cells.unregistered unregistering
  show Cells.requests (if (cells.content .registration : Option DeviceRegistration).isSome = true then _ else _) = _
  split
  · exact unregister_sends _ _ _
  · exact (List.append_nil _).symm

/-- A `disconnect` makes no mailbox, and of the two flags it lowers `connected` only. -/
theorem disconnected_frame (servers : Servers) (cells : Cells) :
    (cells.disconnected servers).next_mailbox = cells.next_mailbox ∧
      (cells.disconnected servers).content .connecting = cells.content .connecting ∧
      (cells.disconnected servers).content .connected = false := by
  show ((cells.store .connected false).unregistered servers (cells.content .token)).next_mailbox = _ ∧
    ((cells.store .connected false).unregistered servers (cells.content .token)).content .connecting = _ ∧
    ((cells.store .connected false).unregistered servers (cells.content .token)).content .connected = _
  unfold Cells.unregistered
  split
  · exact ⟨rfl, rfl, rfl⟩
  · exact ⟨rfl, rfl, rfl⟩

/-- A run in which no stream ends is one of those that the read loops allow. -/
theorem moves_respond (op : Op) (w : World) : (surroundings servers lossy).moves w op
    (World.respond servers op w).1 (World.respond servers op w).2 :=
  ⟨w.socket, Socket.Weakened.refl _ _, rfl⟩

/-- A device is unregistered by a `disconnect` exactly when it is the device manager's and
    there is a registration. -/
theorem unregisters_iff {w : World} {device_url : String} :
    Unregisters w device_url ↔ (w.cells.content .device_manager : DeviceManager).device_url = some device_url ∧
      (w.cells.content .registration : Option DeviceRegistration).isSome = true := by
  constructor
  · intro hunregisters
    obtain ⟨-, hcells, -⟩ := Program.Obeys.exec moves_respond (@evaluates_disconnect unreachable_servers true w.cells w.socket)
    obtain ⟨req, hmem, -, hurl⟩ := Program.Obeys.exec moves_respond (hunregisters unreachable_servers)
    rw [hcells, disconnected_requests, List.drop_left] at hmem
    unfold unregistering at hmem
    split at hmem
    · rename_i hsome
      cases hdevice : (w.cells.content .device_manager : DeviceManager).device_url with
      | none =>
        rw [hdevice] at hmem
        cases hmem
      | some manager_device =>
        rw [hdevice] at hmem
        obtain rfl := List.mem_singleton.mp hmem
        exact ⟨congrArg some hurl, hsome⟩
    · cases hmem
  · rintro ⟨hdevice, hsome⟩ servers
    apply (@evaluates_disconnect servers true w.cells w.socket).mono
    rintro r _ w' ⟨-, hcells, -⟩
    refine ⟨device_manager.unregister_request (w.cells.content .token) device_url, ?_, rfl, rfl⟩
    rw [hcells, disconnected_requests, List.drop_left]
    unfold unregistering
    rw [if_pos hsome, hdevice]
    exact List.mem_singleton_self _

end unregistration

section failure

variable (crates : Crates) (ignore_self_messages : Bool) (servers : Servers)

/-- Whatever the read loops do, a `connect` that fails leaves nothing behind. -/
def FailsCleanly (before : Idle) : Prop :=
  (connect crates ignore_self_messages).Obeys (surroundings servers true) () before.world fun result _ after =>
    ∀ e, result = .error e → LeavesNothingBehind crates servers before after

/-- Each of these devices is the device manager's, and the handler holds a registration. -/
def Covered (cells : Cells) (manager_device : Option String) (devices : List Device) : Prop :=
  ∀ device ∈ devices, device.isSome = true ∧ manager_device = device ∧
    (cells.content .registration : Option DeviceRegistration).isSome = true

/-- The steps after which a failed `connect` leaves nothing behind. -/
def CleanStep (before : Idle) : ConnectStep → Prop
  | .guard => Covered before.world.cells (before.world.cells.content .device_manager : DeviceManager).device_url
      before.devices
  | .register | .people_me =>
    let left := device_manager.after_registration crates.device servers.fetched
      (before.world.cells.content .device_manager) before.world.cells.requests.length before.devices
    Covered before.world.cells left.1 left.2
  | .mercury | .kms => False

variable {crates ignore_self_messages servers}

/-- A `disconnect` unregisters all of the devices exactly if they are covered. -/
theorem unregisters_all_iff {w : World} {devices : List Device} :
    (∀ device ∈ devices, ∃ device_url, device = some device_url ∧ Unregisters w device_url) ↔
      Covered w.cells (w.cells.content .device_manager : DeviceManager).device_url devices := by
  apply forall₂_congr
  intro device _
  constructor
  · rintro ⟨device_url, rfl, hunregisters⟩
    exact ⟨rfl, unregisters_iff.mp hunregisters⟩
  · rintro ⟨hsome, hcovered⟩
    obtain ⟨device_url, rfl⟩ := Option.isSome_iff_exists.mp hsome
    exact ⟨device_url, rfl, unregisters_iff.mpr hcovered⟩

/-- A `connect` that does not touch the socket or the cells leaves nothing behind exactly
    when the socket was not connected and the devices left are covered. -/
theorem fails_cleanly_iff_of_evaluates (before : Idle) {cells' : Cells} {e : WebexError}
    (hconnect : ∀ lossy, Evaluates servers lossy (Socket.Weakened lossy) (connect crates ignore_self_messages)
      before.world.cells (.error e) cells')
    (hunchanged : Unchanged before.world.cells cells') :
    FailsCleanly crates ignore_self_messages servers before ↔ before.world.socket.connected = false ∧
      Covered before.world.cells (cells'.content .device_manager : DeviceManager).device_url
        (before.devices_after crates servers cells') := by
  have hcovered : ∀ {manager_device devices}, Covered before.world.cells manager_device devices ↔
      Covered cells' manager_device devices := by
    intro manager_device devices
    unfold Covered
    rw [hunchanged.registration]
  rw [hcovered]
  constructor
  · intro hclean
    -- the run in which no stream ends is the worst one
    have hleft := Program.Obeys.exec moves_respond hclean
    obtain ⟨hresult, hcells, hsocket⟩ := Program.Obeys.exec moves_respond (hconnect false before.world.socket)
    have hnothing := hleft e hresult
    generalize ((connect crates ignore_self_messages ()).exec (World.respond servers) before.world).2 = after at *
    have hkept := hsocket.kept (.inl rfl)
    refine ⟨by rw [← hkept]; exact hnothing.disconnected, ?_⟩
    rw [← hcells]
    exact unregisters_all_iff.mp hnothing.unregisters
  · rintro ⟨hdisconnected, hcovered⟩
    apply (hconnect true before.world.socket).mono
    rintro r _ after ⟨rfl, rfl, hsocket⟩ e' -
    refine ⟨?_, ?_, hunchanged, unregisters_all_iff.mpr hcovered⟩
    · intro socket hmem
      exact before.read_loop_lt socket (hsocket.read_loops.subset hmem)
    · rw [← Bool.not_eq_true]
      intro hconnected
      have hbefore := hsocket.connected hconnected
      rw [hdisconnected] at hbefore
      cases hbefore

/-- A `connect` that stored a new client before it failed did not clean up. -/
theorem not_fails_cleanly_of_evaluates (before : Idle) {after : Cells} {e : WebexError}
    (hconnect : Evaluates servers true (fun _ _ => True) (connect crates ignore_self_messages) before.world.cells
      (.error e) after)
    (hhandler : after.content .kms_response_handler = some before.world.cells.next_mailbox) :
    ¬ FailsCleanly crates ignore_self_messages servers before := by
  intro hclean
  have hleft := Program.Obeys.exec moves_respond hclean
  obtain ⟨hresult, hcells, -⟩ := Program.Obeys.exec moves_respond (hconnect before.world.socket)
  have hsame := (hleft e hresult).cells.kms_response_handler
  rw [hcells, hhandler] at hsame
  exact absurd (before.handler_lt _ hsame.symm) (Nat.lt_irrefl _)

theorem fails_cleanly_iff_guard (before : Idle)
    (hguard : (before.world.cells.content .connecting || before.world.cells.content .connected) = true) :
    FailsCleanly crates ignore_self_messages servers before ↔ before.world.socket.connected = false ∧
      CleanStep crates servers before .guard := by
  have hconnect : ∀ lossy, Evaluates servers lossy (Socket.Weakened lossy) (connect crates ignore_self_messages)
      before.world.cells (.error (guard_error (before.world.cells.content .connecting))) before.world.cells := by
    intro lossy
    exact evaluates_guard (tolerant_weakened lossy) hguard
  rw [fails_cleanly_iff_of_evaluates before hconnect ⟨rfl, rfl, rfl, rfl⟩,
    before.devices_after_of_requests (List.append_nil _).symm]
  rfl

/-- The registration leaves the device manager and the servers as its answers say. -/
theorem registered_leaves {cells : Cells} {outcome : Except WebexError DeviceRegistration} {dm : DeviceManager}
    {requests : List FetchRequest} (hregistered : registered crates servers cells = ((outcome, dm), requests))
    (devices : List Device) :
    ∃ sent, requests = cells.requests ++ sent ∧
      device_manager.after_registration crates.device servers.fetched (cells.content .device_manager)
        cells.requests.length devices = (dm.device_url,
          device_manager.accounts crates.device servers.fetched cells.requests.length sent devices) := by
  have hregisters := @Program.Obeys.exchanges _ _ _ _ servers.answer_fetch _ _ _ cells.requests
    (@device_manager.register_records crates.device (cells.content .device_manager) (cells.content .token))
  rw [List.nil_append] at hregisters
  obtain ⟨hrequests, hnumbered⟩ := @device_manager.exchanges_numbered servers.fetched _
    (device_manager.register crates.device (cells.content .token) (cells.content .device_manager)) servers.answer_fetch
    (fun _ _ => rfl) cells.requests
  have hleaves := hregisters.devices_kept hnumbered devices
  unfold registered at hregistered
  rw [hregistered] at hrequests hleaves
  exact ⟨_, hrequests, hleaves⟩

theorem fails_cleanly_iff_register (before : Idle) {e : WebexError} {dm : DeviceManager} {requests : List FetchRequest}
    (hguard : (before.world.cells.content .connecting || before.world.cells.content .connected) = false)
    (hregistered : registered crates servers before.world.cells = ((.error e, dm), requests)) :
    FailsCleanly crates ignore_self_messages servers before ↔ before.world.socket.connected = false ∧
      CleanStep crates servers before .register := by
  have hconnect : ∀ lossy, Evaluates servers lossy (Socket.Weakened lossy) (connect crates ignore_self_messages)
      before.world.cells (.error e) ((before.world.cells.registered dm requests).store .connecting false) := by
    intro lossy
    have hR := tolerant_weakened lossy
    exact evaluates_connect hR hguard (evaluates_register_error hR hregistered)
  rw [fails_cleanly_iff_of_evaluates before hconnect ⟨rfl, rfl, rfl, rfl⟩]
  obtain ⟨sent, hsent, hleaves⟩ := registered_leaves hregistered before.devices
  rw [before.devices_after_of_requests hsent]
  unfold CleanStep
  rw [hleaves]
  rfl

theorem fails_cleanly_iff_people_me (before : Idle) {e : WebexError} {reg : DeviceRegistration} {dm : DeviceManager}
    {requests : List FetchRequest}
    (hguard : (before.world.cells.content .connecting || before.world.cells.content .connected) = false)
    (hregistered : registered crates servers before.world.cells = ((.ok reg, dm), requests))
    (hidentified : (identified crates ignore_self_messages servers (before.world.cells.registered dm requests)).1 =
      .error e) :
    FailsCleanly crates ignore_self_messages servers before ↔ before.world.socket.connected = false ∧
      CleanStep crates servers before .people_me := by
  have hconnect : ∀ lossy, Evaluates servers lossy (Socket.Weakened lossy) (connect crates ignore_self_messages)
      before.world.cells (.error e) ((identified crates ignore_self_messages servers
        (before.world.cells.registered dm requests)).2.store .connecting false) := by
    intro lossy
    have hR := tolerant_weakened lossy
    have hidentity := @evaluates_identity crates ignore_self_messages servers lossy _ hR
      (before.world.cells.registered dm requests)
    rw [hidentified] at hidentity
    exact evaluates_connect hR hguard (evaluates_register_ok hR hregistered (evaluates_bind_error hidentity))
  have hcontent := identified_content hidentified
  have hunchanged : Unchanged before.world.cells ((identified crates ignore_self_messages servers
      (before.world.cells.registered dm requests)).2.store .connecting false) := by
    constructor
    all_goals
      show (identified crates ignore_self_messages servers _).2.content _ = _
      rw [hcontent]
      rfl
  rw [fails_cleanly_iff_of_evaluates before hconnect hunchanged]
  obtain ⟨sent, hsent, hleaves⟩ := registered_leaves hregistered before.devices
  have hrequests : ((identified crates ignore_self_messages servers
      (before.world.cells.registered dm requests)).2.store .connecting false).requests = before.world.cells.requests ++
        (sent ++ [people_me_request (before.world.cells.content .token)]) := by
    rw [← List.append_assoc, ← hsent]
    exact identified_requests hidentified
  rw [before.devices_after_of_requests hrequests, device_manager.accounts_append]
  have hdevice : ((identified crates ignore_self_messages servers
      (before.world.cells.registered dm requests)).2.store .connecting false).content .device_manager = dm := by
    show (identified crates ignore_self_messages servers _).2.content .device_manager = dm
    rw [hcontent]
    rfl
  unfold CleanStep
  rw [hleaves, hdevice]
  rfl

/-- Past the identity, `connect` succeeds or does not clean up. -/
theorem fails_cleanly_iff_late (before : Idle) {reg : DeviceRegistration} {dm : DeviceManager}
    {requests : List FetchRequest}
    (hguard : (before.world.cells.content .connecting || before.world.cells.content .connected) = false)
    (hregistered : registered crates servers before.world.cells = ((.ok reg, dm), requests))
    (hidentified : (identified crates ignore_self_messages servers (before.world.cells.registered dm requests)).1 =
      .ok ()) :
    FailsCleanly crates ignore_self_messages servers before ↔
      ((∃ url, crates.socket.parse_url reg.web_socket_url = .ok url) ∧ servers.opened = .ok ()) ∧
        (handshake crates servers before.world.cells reg).1.1 = .ok () := by
  have hR := tolerant_true true
  obtain ⟨r, after, hevaluates, hlate⟩ := @evaluates_late crates ignore_self_messages servers true
    (before.world.cells.registered dm requests) hidentified reg
  have hconnect := evaluates_connect hR hguard (evaluates_register_ok hR hregistered hevaluates)
  refine Iff.trans ?_ hlate.succeeds
  cases r with
  | ok value =>
    refine iff_of_true ?_ rfl
    apply (hconnect before.world.socket).mono
    rintro r' _ w ⟨rfl, -, -⟩ e herror
    cases herror
  | error e =>
    refine iff_of_false ?_ nofun
    exact not_fails_cleanly_of_evaluates before hconnect hlate.response_handler

theorem late_step_iff {P : Prop} {before : Idle} {cells : Cells} {reg : DeviceRegistration} :
    ((∃ url, crates.socket.parse_url reg.web_socket_url = .ok url) ∧ servers.opened = .ok ()) ∧
      (handshake crates servers cells reg).1.1 = .ok () ↔
    ∀ step, late_step crates servers cells reg = some step → P ∧ CleanStep crates servers before step := by
  unfold late_step
  cases crates.socket.parse_url reg.web_socket_url with
  | error e => simp [CleanStep]
  | ok url =>
    cases servers.opened with
    | error e => simp [CleanStep]
    | ok _ =>
      cases (handshake crates servers cells reg).1.1 with
      | error e => simp [CleanStep]
      | ok _ => simp

/-- The step that asks for the identity succeeds if it is left out or the answer has one. -/
theorem identified_eq (cells : Cells) : (identified crates ignore_self_messages servers cells).1 =
    match ignore_self_messages, parse_bot_person_id crates (servers.fetched cells.requests.length) with
    | true, .error e => .error e
    | _, _ => .ok () := by
  unfold identified
  cases ignore_self_messages with
  | false => rfl
  | true =>
    rw [if_pos rfl]
    dsimp only
    cases parse_bot_person_id crates (servers.fetched cells.requests.length) with
    | error e => rfl
    | ok uuid => rfl

/-- `connect` leaves nothing behind when it fails exactly when it fails before it stores
    the new client, with the socket not connected and every device that the servers keep
    then covered by a registration. -/
theorem failed_connect_clean_iff (crates : Crates) (ignore_self_messages : Bool) (servers : Servers) (before : Idle) :
    FailsCleanly crates ignore_self_messages servers before ↔
      ∀ step, failing_step crates ignore_self_messages servers before.world.cells = some step →
        before.world.socket.connected = false ∧ CleanStep crates servers before step := by
  have hstep : ∀ {found : Option ConnectStep} {step : ConnectStep} {P : ConnectStep → Prop}, found = some step →
      ((∀ step, found = some step → P step) ↔ P step) := by
    rintro _ step P rfl
    simp
  unfold failing_step
  cases hguard : (before.world.cells.content .connecting || before.world.cells.content .connected) with
  | true =>
    rw [if_pos rfl, hstep rfl]
    exact fails_cleanly_iff_guard before hguard
  | false =>
    rw [if_neg Bool.false_ne_true]
    rcases hregistered : registered crates servers before.world.cells with ⟨⟨e | reg, dm⟩, requests⟩
    · rw [hstep rfl]
      exact fails_cleanly_iff_register before hguard hregistered
    · have hidentified := @identified_eq crates ignore_self_messages servers
        (before.world.cells.registered dm requests)
      have hlate : (identified crates ignore_self_messages servers (before.world.cells.registered dm requests)).1 =
          .ok () → (FailsCleanly crates ignore_self_messages servers before ↔ ∀ step,
            late_step crates servers before.world.cells reg = some step →
              before.world.socket.connected = false ∧ CleanStep crates servers before step) := by
        intro hok
        rw [fails_cleanly_iff_late before hguard hregistered hok, late_step_iff]
      have hrequests : (before.world.cells.registered dm requests).requests = requests := rfl
      rw [hrequests] at hidentified
      dsimp only
      generalize parse_bot_person_id crates (servers.fetched requests.length) = parsed at hidentified ⊢
      cases ignore_self_messages with
      | false => exact hlate hidentified
      | true =>
        cases parsed with
        | error e =>
          rw [hstep rfl]
          exact fails_cleanly_iff_people_me before hguard hregistered hidentified
        | ok uuid => exact hlate hidentified

/-- The servers of a connection whose registration is accepted and whose Mercury socket
    opens, but whose KMS cannot be reached. -/
def kms_down_servers : Servers where
  fetched n :=
    if n = 0 then .error "connection refused"
    else if n = 1 then kms_client.ok_response 200 (kms_client.ascii listing_text)
    else kms_client.ok_response 200 (kms_client.ascii registration_text)
  kms := unreachable_servers.kms
  opened := .ok ()

/-- A new handler. -/
def new_handler (token : String) : Idle where
  devices := []
  world := {
    cells := { content := initial_content token, next_mailbox := 0 }
    socket := { connected := false, read_loops := [], next_socket := 0 } }
  handler_lt _ hnone := nomatch hnone
  read_loop_lt _ hmem := nomatch hmem

/-- A `connect` of a new handler that fails at the KMS leaves an open connection behind
    whose read loop delivers events, and a device that no `disconnect` unregisters. -/
theorem kms_failure_left_behind :
    ∃ after, ((connect sample_crates false ()).exec (World.respond kms_down_servers) (new_handler "tok").world).2 = after ∧
      after.socket.connected = true ∧ after.socket.read_loops = [0] ∧
      (after.cells.content .registration : Option DeviceRegistration).isSome = false ∧
      (after.cells.content .device_manager : DeviceManager).device_url =
        some "https://wdm-a.wbx2.com/wdm/api/v1/devices/dev-123" ∧
      ¬ FailsCleanly sample_crates false kms_down_servers (new_handler "tok") := by
  have hconnected : ((connect sample_crates false ()).exec (World.respond kms_down_servers)
      (new_handler "tok").world).2.socket.connected = true := by decide +kernel
  have hfailed : ((connect sample_crates false ()).exec (World.respond kms_down_servers)
      (new_handler "tok").world).1.1.isOk = false := by decide +kernel
  refine ⟨_, rfl, hconnected, by decide +kernel, by decide +kernel, by decide +kernel, ?_⟩
  intro hclean
  have hleft := Program.Obeys.exec moves_respond hclean
  revert hfailed hleft
  generalize ((connect sample_crates false ()).exec (World.respond kms_down_servers) (new_handler "tok").world) = out at *
  obtain ⟨⟨_ | _, _⟩, after⟩ := out
  · intro _ hleft
    rw [(hleft _ rfl).disconnected] at hconnected
    cases hconnected
  · intro hfailed
    cases hfailed

end failure

end webex.rust.handler
