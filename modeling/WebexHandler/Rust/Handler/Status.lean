import WebexHandler.Rust.Handler.Health
import WebexHandler.Rust.KmsClient.Context

open interaction json transition

namespace webex.rust.handler

open device_manager (DeviceManager DeviceRegistration)
open kms_client (KmsClient)
open mercury_socket (Item Shared handle_item is_reconnecting permanent run_loop)

/-- What `status()` has to tell about a handler: an attempt only while the socket intends
    to reconnect, a KMS context only after a handshake of the current client, and the
    device manager's device. -/
structure TellsTruth (h : Health) (told : HandlerStatus) : Prop where
  reconnecting : told.status = .reconnecting → h.shared.should_reconnect = true
  attempt : 0 < told.reconnect_attempt → h.shared.should_reconnect = true
  kms : told.kms_initialized = true → ∃ mailbox kms,
    h.cells.content .kms_client = some (mailbox, kms) ∧ KmsClient.initialized kms = true
  device : told.device_registered = true ↔ (h.cells.content .device_manager : DeviceManager).device_url.isSome = true

/-- Whatever `status()` reports in this state is true. -/
def Truthful (h : Health) : Prop :=
  ∀ servers told, ((status ()).exec (Health.respond servers) h).1.1 = .ok told → TellsTruth h told

/-- The attempts that have been announced since the stability timer fired last. -/
def Health.announced (h : Health) : Nat := (h.shared.events.drop h.settled).countP fun event => is_reconnecting event.2

/-- The device manager gives its device up after a `DELETE` with this answer. -/
def given_up (answer : Except String FetchResponse) : Bool :=
  answer.toOption.any fun response => response.status != 401 && (response.ok || response.status == 404)

section condition

variable (crates : Crates) (ignore_self_messages : Bool) (options : mercury_socket.Options)

/-- A `connect` that fails at this step, if any, is refused, or fails before it stores a new
    client and leaves the device manager with a device exactly if there is a registration. -/
def AlignedAt (servers : Servers) (cells : Cells) : Option ConnectStep → Prop
  | none | some .guard => True
  | some .register => (cells.content .registration : Option DeviceRegistration).isSome =
      (device_manager.after_registration crates.device servers.fetched (cells.content .device_manager)
        cells.requests.length []).1.isSome
  | some .people_me => (cells.content .registration : Option DeviceRegistration).isSome = true
  | some .mercury | some .kms => False

/-- A `connect` with these answers leaves nothing behind that `status()` would misreport. -/
def Aligned (servers : Servers) (cells : Cells) : Prop :=
  AlignedAt crates servers cells (failing_step crates ignore_self_messages servers cells)

/-- The cells with which the `connect` in a `reconnect` begins. -/
def Cells.reconnecting (servers : Servers) (cells : Cells) (new_token : String) : Cells :=
  (cells.disconnected servers).store .token new_token

/-- The steps after which `status()` tells the truth, by the answers and by what has been
    announced: a disconnect comes only once the stability timer has fired for every attempt,
    and its `DELETE` is accepted; no Close frame is the last straw while an attempt counts. -/
def Health.Sound (h : Health) : Health.Label → Prop
  | .connect servers => Aligned crates ignore_self_messages servers h.cells
  | .disconnect servers => h.announced = 0 ∧
      ((h.cells.content .registration : Option DeviceRegistration).isSome = true →
        given_up (servers.fetched h.cells.requests.length) = true)
  | .reconnect new_token servers => new_token = "" ∨
      failing_step crates ignore_self_messages servers (h.cells.reconnecting servers new_token) = none ∨
      h.announced = 0 ∧ Aligned crates ignore_self_messages servers (h.cells.reconnecting servers new_token)
  | .item socket (some (.close frame)) => h.read_loops[socket]? = some true → h.announced = 0 ∨
      permanent ((frame.map Prod.fst).getD 1000) = false ∧ h.announced < options.max_reconnect_attempts
  | _ => True

end condition

/-- What `status()` reports. -/
def Health.told (h : Health) : HandlerStatus where
  status := connection_status (h.cells.content .connected) h.shared.connected (h.cells.content .connecting)
    h.shared.reconnect_attempts
  web_socket_open := h.shared.connected
  kms_initialized := (h.cells.content .kms_client : Option (Nat × KmsClient)).isSome
  device_registered := (h.cells.content .registration : Option DeviceRegistration).isSome
  reconnect_attempt := h.shared.reconnect_attempts

/-- `status()` reads the flags and counts as they are. -/
theorem exec_status (servers : Servers) (h : Health) :
    ((status ()).exec (Health.respond servers) h).1.1 = .ok h.told := rfl

theorem connection_status_reconnecting {is_connected ws_open is_connecting : Bool} {reconnect_attempt : Nat}
    (hstatus : connection_status is_connected ws_open is_connecting reconnect_attempt = .reconnecting) :
    0 < reconnect_attempt := by
  unfold connection_status at hstatus
  split at hstatus
  · cases hstatus
  split at hstatus
  · cases hstatus
  split at hstatus
  · assumption
  · cases hstatus

/-- The contents that `status()` looks at say what their components have. -/
structure Cells.Honest (cells : Cells) : Prop where
  kms : ∀ mailbox kms, cells.content .kms_client = some (mailbox, kms) → KmsClient.initialized kms = true
  device : (cells.content .registration : Option DeviceRegistration).isSome =
    (cells.content .device_manager : DeviceManager).device_url.isSome

section cells

variable {crates : Crates} {ignore_self_messages : Bool} {servers : Servers}

section handshake

variable {Env : Type} {answer : (op : kms_client.Op) → Env → kms_client.Res op × Env}

/-- A handshake that succeeds leaves the client initialized. -/
theorem initialize_client_initialized (kms : KmsClient) (env : Env) :
    (kms_client.initialize_client crates.kms).Yields (following answer) kms env fun _ kms' _ => kms'.initialized = true := by
  have hany : ∀ {α : Type} (m : kms_client.Kms α) (kms : KmsClient) (env : Env),
      m.Yields (following answer) kms env fun _ _ _ => True :=
    fun m _ _ => Method.yields_of_allowed (fun _ _ => trivial) m
  apply Method.yields_bind (hany _ kms env)
  intro details kms env _
  unfold kms_client.handshake
  apply Method.yields_bind (hany _ kms env)
  intro local_secret kms env _
  apply Method.yields_bind (hany _ kms env)
  intro public_jwk_map kms env _
  apply Method.yields_bind (hany _ kms env)
  intro request_id kms env _
  apply Method.yields_bind (hany _ kms env)
  intro self kms env _
  apply Method.yields_bind (hany _ kms env)
  intro seed kms env _
  apply Method.yields_bind (hany _ kms env)
  intro wrapped kms env _
  apply Method.yields_bind (hany _ kms env)
  intro wrapped_response kms env _
  apply Method.yields_bind (hany _ kms env)
  rintro ⟨derived, key_uri⟩ kms env _
  have hstored : Method.Yields (following answer) (modify fun self => { self with
      ephemeral_key := some derived, ephemeral_key_kid := key_uri, initialized := true } : kms_client.Kms PUnit) kms env
      fun _ (kms' : KmsClient) _ => kms'.initialized = true := fun _ _ => rfl
  apply Method.yields_bind hstored
  intro _ kms env hinitialized
  apply Method.yields_bind_request trivial
  intro instant env _ _ _
  exact hinitialized

/-- One that fails leaves it as initialized as it was. -/
theorem initialize_client_fails_uninitialized (kms : KmsClient) (env : Env) :
    (kms_client.initialize_client crates.kms).Obeys (following answer) kms env fun r kms' _ =>
      ∀ e, r = .error e → kms'.initialized = kms.initialized := by
  have hrenamed : ∀ named, (kms_client.renamed kms named).initialized = kms.initialized := by
    intro named
    cases named <;> rfl
  have hdetails : (kms_client.fetch_kms_details crates.kms).Obeys (following answer) kms env fun _ kms' _ =>
      kms'.initialized = kms.initialized := by
    refine ⟨trivial, ?_⟩
    rintro response env' -
    refine Program.Obeys.mono ?_ (kms_client.parse_kms_details_renames response kms env')
    rintro out env' ⟨-, hout⟩
    rw [hout]
    exact hrenamed _
  refine hdetails.bind ?_ ?_
  · intro rsa_jwk_value kms₁ env₁ hkept
    refine (kms_client.handshake_fails_clean (fun _ _ => trivial) rsa_jwk_value kms₁ env₁).mono ?_
    intro r kms₂ _ hclean e herror
    rw [hclean e herror]
    exact hkept
  · intro e kms₁ env₁ hkept _ _
    exact hkept

end handshake

theorem Cells.Honest.of_content {cells after : Cells} (hhonest : cells.Honest)
    (hclient : after.content .kms_client = cells.content .kms_client)
    (hregistration : after.content .registration = cells.content .registration)
    (hmanager : after.content .device_manager = cells.content .device_manager) : after.Honest where
  kms mailbox kms hkms := hhonest.kms mailbox kms (hclient.symm.trans hkms)
  device := by
    rw [hregistration, hmanager]
    exact hhonest.device

/-- The two flags that `connect` writes last are not looked at. -/
theorem ended_honest_iff {cells : Cells} {r : Except WebexError Unit} : (cells.ended r).Honest ↔ cells.Honest := by
  have hclient := @ended_content cells r .kms_client nofun nofun
  have hregistration := @ended_content cells r .registration nofun nofun
  have hmanager := @ended_content cells r .device_manager nofun nofun
  constructor
  · intro hhonest
    exact hhonest.of_content hclient.symm hregistration.symm hmanager.symm
  · intro hhonest
    exact hhonest.of_content hclient hregistration hmanager

theorem ended_idle (cells : Cells) (r : Except WebexError Unit) : (cells.ended r).content .connecting = false := by
  cases r with
  | error e => rfl
  | ok value => rfl

/-- Where the client is as honest as before, only the registration counts. -/
theorem honest_iff {cells : Cells} (hkms : ∀ mailbox kms, cells.content .kms_client = some (mailbox, kms) →
      KmsClient.initialized kms = true) :
    cells.Honest ↔ (cells.content .registration : Option DeviceRegistration).isSome =
      (cells.content .device_manager : DeviceManager).device_url.isSome :=
  ⟨Cells.Honest.device, fun hdevice => ⟨hkms, hdevice⟩⟩

/-- A registration that succeeds leaves the manager with a device. -/
theorem registered_device {cells : Cells} {reg : DeviceRegistration} {dm : DeviceManager} {requests : List FetchRequest}
    (hregistered : registered crates servers cells = ((.ok reg, dm), requests)) : dm.device_url.isSome = true := by
  have hregisters := @Program.Obeys.exchanges _ _ _ _ servers.answer_fetch _ _ _ cells.requests
    (@device_manager.register_records crates.device (cells.content .device_manager) (cells.content .token))
  unfold registered at hregistered
  rw [hregistered] at hregisters
  generalize Program.exchanges servers.answer_fetch _ cells.requests = log at hregisters
  generalize houtcome : (Except.ok reg : Except WebexError DeviceRegistration).toOption = outcome at hregisters
  cases houtcome
  cases hregisters with
  | reused => rfl
  | replaced => rfl
  | created => rfl

theorem late_step_eq_none_iff {cells : Cells} {reg : DeviceRegistration} : late_step crates servers cells reg = none ↔
    ((∃ url, crates.socket.parse_url reg.web_socket_url = .ok url) ∧ servers.opened = .ok ()) ∧
      (handshake crates servers cells reg).1.1 = .ok () := by
  unfold late_step
  cases crates.socket.parse_url reg.web_socket_url with
  | error e => simp
  | ok url =>
    cases servers.opened with
    | error e => simp
    | ok done =>
      cases (handshake crates servers cells reg).1.1 with
      | error e => simp
      | ok done => simp

/-- Past the identity only the socket and the handshake can fail. -/
theorem aligned_late_iff {cells before : Cells} {reg : DeviceRegistration} :
    AlignedAt crates servers cells (late_step crates servers before reg) ↔ late_step crates servers before reg = none := by
  unfold late_step
  split
  · split
    · exact iff_of_false id nofun
    · exact iff_of_true trivial rfl
  · exact iff_of_false id nofun

/-- Past the identity, the contents are honest if nothing fails. -/
theorem Late.honest_iff {before after : Cells} {reg : DeviceRegistration} {r : Except WebexError Unit}
    (hlate : Late crates servers before reg r after)
    (hdevice : (before.content .device_manager : DeviceManager).device_url.isSome = true) :
    after.Honest ↔ r = .ok () := by
  obtain ⟨kms, hclient, hkms⟩ := hlate.client
  constructor
  · intro hhonest
    have hinitialized := hhonest.kms _ _ hclient
    obtain ⟨hnew, -⟩ | hhandshake := hkms
    · rw [hnew] at hinitialized
      cases hinitialized
    · cases r with
      | ok value => rfl
      | error e =>
        have hfails := Program.obeys_following (@initialize_client_fails_uninitialized crates _ servers.answer_kms
          (kms_client.new (before.content .token) reg.device_url reg.user_id reg.encryption_service_url) before.kms_operations)
        change ∀ e, (handshake crates servers before reg).1.1 = .error e →
          (handshake crates servers before reg).1.2.initialized = false at hfails
        rw [hhandshake] at hfails
        rw [hfails e rfl] at hinitialized
        cases hinitialized
  · rintro rfl
    constructor
    · intro mailbox kms' hkms'
      rw [hclient] at hkms'
      cases hkms'
      have hhandshake := hkms.resolve_left fun h => h.2 rfl
      have hsucceeds := Program.obeys_following (@initialize_client_initialized crates _ servers.answer_kms
        (kms_client.new (before.content .token) reg.device_url reg.user_id reg.encryption_service_url) before.kms_operations)
      change ∀ value, (handshake crates servers before reg).1.1 = .ok value →
        (handshake crates servers before reg).1.2.initialized = true at hsucceeds
      rw [hhandshake] at hsucceeds
      exact hsucceeds () rfl
    · rw [hlate.registration rfl, hlate.device_manager]
      exact hdevice.symm

/-- A `connect` that has a registration fails without the identity, or later. -/
theorem failing_step_identified {cells : Cells} {reg : DeviceRegistration} {dm : DeviceManager} {requests : List FetchRequest}
    (hguard : (cells.content .connecting || cells.content .connected) = false)
    (hregistered : registered crates servers cells = ((.ok reg, dm), requests)) :
    failing_step crates ignore_self_messages servers cells =
      match (identified crates ignore_self_messages servers (cells.registered dm requests)).1 with
      | .error _ => some .people_me
      | .ok _ => late_step crates servers cells reg := by
  have hrequests : (cells.registered dm requests).requests = requests := rfl
  rw [failing_step, hguard, hregistered, identified_eq, hrequests, if_neg Bool.false_ne_true]
  cases ignore_self_messages with
  | false => rfl
  | true =>
    dsimp only
    cases parse_bot_person_id crates (servers.fetched requests.length) with
    | error e => rfl
    | ok uuid => rfl

/-- What a `connect` leaves behind: honest contents exactly if it is aligned, the flag for
    another `connect` down, and no mailbox if it is aligned and fails. -/
structure ConnectLeaves (crates : Crates) (ignore_self_messages : Bool) (servers : Servers) (before : Cells)
    (r : Except WebexError Unit) (after : Cells) : Prop where
  honest : after.Honest ↔ Aligned crates ignore_self_messages servers before
  idle : before.content .connecting = false → after.content .connecting = false
  succeeds : failing_step crates ignore_self_messages servers before = none → r = .ok ()
  mailbox : Aligned crates ignore_self_messages servers before →
    failing_step crates ignore_self_messages servers before ≠ none → after.next_mailbox = before.next_mailbox

theorem connect_leaves {cells : Cells} (hkms : ∀ mailbox kms, cells.content .kms_client = some (mailbox, kms) →
      KmsClient.initialized kms = true)
    (hrefused : (cells.content .connecting || cells.content .connected) = true → cells.Honest) :
    ∃ r after, Evaluates servers true (fun _ _ => True) (connect crates ignore_self_messages) cells r after ∧
      ConnectLeaves crates ignore_self_messages servers cells r after := by
  have hR := tolerant_true true
  -- a step that fails before the new mailbox
  have hearly : ∀ {step : ConnectStep} {e : WebexError} {after : Cells},
      failing_step crates ignore_self_messages servers cells = some step →
      (after.Honest ↔ AlignedAt crates servers cells (some step)) →
      (cells.content .connecting = false → after.content .connecting = false) → after.next_mailbox = cells.next_mailbox →
      ConnectLeaves crates ignore_self_messages servers cells (.error e) after := by
    intro step e after hstep hhonest hidle hmailbox
    rw [← hstep] at hhonest
    exact ⟨hhonest, hidle, fun hnone => absurd (hstep.symm.trans hnone) nofun, fun _ _ => hmailbox⟩
  cases hguard : (cells.content .connecting || cells.content .connected) with
  | true =>
    have hstep : failing_step crates ignore_self_messages servers cells = some .guard := if_pos hguard
    exact ⟨_, cells, evaluates_guard hR hguard, hearly hstep (iff_of_true (hrefused hguard) trivial) id rfl⟩
  | false =>
    rcases hregistered : registered crates servers cells with ⟨⟨e | reg, dm⟩, requests⟩
    · have hstep : failing_step crates ignore_self_messages servers cells = some .register := by
        rw [failing_step, hguard, hregistered]
        rfl
      obtain ⟨sent, -, hleaves⟩ := registered_leaves hregistered []
      refine ⟨_, _, evaluates_connect hR hguard (evaluates_register_error hR hregistered),
        hearly hstep ?_ (fun _ => rfl) rfl⟩
      have hkept : (cells.registered dm requests).Honest ↔ _ := honest_iff hkms
      rw [ended_honest_iff, hkept, AlignedAt, hleaves]
      rfl
    · have hstep := @failing_step_identified crates ignore_self_messages servers cells reg dm requests hguard hregistered
      cases hoffered : (identified crates ignore_self_messages servers (cells.registered dm requests)).1 with
      | error e =>
        rw [hoffered] at hstep
        have hcontent := identified_content hoffered
        obtain ⟨hmailbox, -⟩ := @identified_frame crates ignore_self_messages servers (cells.registered dm requests)
        have hidentity := @evaluates_identity crates ignore_self_messages servers true _ hR (cells.registered dm requests)
        rw [hoffered] at hidentity
        refine ⟨_, _, evaluates_connect hR hguard (evaluates_register_ok hR hregistered (evaluates_bind_error hidentity)),
          hearly hstep ?_ (fun _ => rfl) hmailbox⟩
        have hasked : ∀ mailbox kms, (identified crates ignore_self_messages servers
            (cells.registered dm requests)).2.content .kms_client = some (mailbox, kms) → KmsClient.initialized kms = true := by
          rw [hcontent]
          exact hkms
        rw [ended_honest_iff, honest_iff hasked, hcontent, AlignedAt]
        exact Eq.congr_right (registered_device hregistered)
      | ok done =>
        rw [hoffered] at hstep
        change failing_step crates ignore_self_messages servers cells = late_step crates servers cells reg at hstep
        obtain ⟨r, after, hevaluates, hlate⟩ := @evaluates_late crates ignore_self_messages servers true
          (cells.registered dm requests) hoffered reg
        have hhonest := hlate.honest_iff (registered_device hregistered)
        have hnone : r = .ok () ↔ late_step crates servers cells reg = none :=
          hlate.succeeds.trans late_step_eq_none_iff.symm
        refine ⟨r, _, evaluates_connect hR hguard (evaluates_register_ok hR hregistered hevaluates), ?_,
          fun _ => ended_idle after r, ?_, ?_⟩
        · rw [ended_honest_iff, hhonest, Aligned, hstep, aligned_late_iff]
          exact hnone
        · rw [hstep]
          exact hnone.mpr
        · rw [Aligned, hstep, aligned_late_iff]
          intro hsucceeds hfails
          exact absurd hsucceeds hfails

end cells

section unregistration

variable {servers : Servers}

/-- A `DELETE` leaves the manager without its device if it is accepted, and as it was if
    not. -/
theorem unregister_device_url {dm : DeviceManager} {token device_url : String} {requests : List FetchRequest}
    (hurl : dm.device_url = some device_url) :
    ((device_manager.unregister token dm).exec servers.answer_fetch requests).1.2.device_url =
      if given_up (servers.fetched requests.length) = true then none else some device_url := by
  have hobeys : (device_manager.unregister token).Obeys (following servers.answer_fetch) dm requests fun _ dm' _ =>
      dm'.device_url = if given_up (servers.fetched requests.length) = true then none else some device_url := by
    unfold device_manager.unregister
    rw [Method.obeys_bind, Method.obeys_get]
    dsimp only
    rw [hurl, Option.elim_some, Method.obeys_bind, Method.obeys_ofExcept]
    dsimp only
    rw [Method.obeys_bind, device_manager.fetch, Method.obeys_request]
    refine ⟨trivial, ?_⟩
    rintro answer _ ⟨hanswer, -⟩
    change answer = servers.fetched requests.length at hanswer
    rw [← hanswer]
    cases answer with
    | error e => exact hurl
    | ok response =>
      dsimp only
      rw [Method.obeys_bind, Method.obeys_ofExcept]
      show Method.Obeys _ (Method.reject (response.status == 401) _ >>= _) _ _ _
      rw [Method.obeys_bind, Method.obeys_reject]
      constructor
      · intro hunauthorized
        have hkept : given_up (.ok response) = false := by
          simp [given_up, Except.toOption, beq_iff_eq.mp hunauthorized]
        rw [hkept]
        exact hurl
      intro hauthorized
      show Method.Obeys _ (Method.reject (!response.ok && response.status != 404) _ >>= _) _ _ _
      rw [Method.obeys_bind, Method.obeys_reject]
      constructor
      · intro hrefused
        have hkept : given_up (.ok response) = false := by
          simp only [given_up, Except.toOption, Option.any_some, Bool.and_eq_false_iff, Bool.or_eq_false_iff]
          simp only [Bool.and_eq_true, Bool.not_eq_true', bne_iff_ne] at hrefused
          exact .inr ⟨hrefused.1, beq_eq_false_iff_ne.mpr hrefused.2⟩
        rw [hkept]
        exact hurl
      · intro hgone
        have hgiven : given_up (.ok response) = true := by
          simp only [given_up, Except.toOption, Option.any_some, bne, hauthorized, Bool.not_false, Bool.true_and]
          simp only [Bool.and_eq_false_iff, Bool.not_eq_false', bne_eq_false_iff_eq] at hgone
          simpa using hgone
        rw [hgiven]
        rfl
  exact Program.obeys_following hobeys

/-- A `disconnect` leaves honest contents behind, where they were, exactly if the `DELETE`,
    where there is one, is accepted. -/
theorem disconnected_honest_iff {cells : Cells} (hhonest : cells.Honest) : (cells.disconnected servers).Honest ↔
    ((cells.content .registration : Option DeviceRegistration).isSome = true →
      given_up (servers.fetched cells.requests.length) = true) := by
  have hnone : ∀ mailbox kms, (cells.disconnected servers).content .kms_client = some (mailbox, kms) →
      KmsClient.initialized kms = true := fun _ _ hkms => absurd hkms nofun
  have hgone : (cells.disconnected servers).Honest ↔ DeviceManager.device_url (((cells.store .connected false).unregistered
      servers (cells.content .token)).content .device_manager : DeviceManager) = none := by
    rw [honest_iff hnone]
    exact eq_comm.trans (Option.isSome_eq_false_iff.trans Option.isNone_iff_eq_none)
  rw [hgone]
  have hdevice := hhonest.device
  unfold Cells.unregistered
  cases hregistered : (cells.content .registration : Option DeviceRegistration) with
  | none =>
    rw [hregistered] at hdevice
    refine iff_of_true ?_ nofun
    have hunset : (cells.store .connected false).content .registration = none := hregistered
    rw [hunset]
    exact Option.isNone_iff_eq_none.mp (Option.not_isSome _ ▸ congrArg not hdevice.symm)
  | some reg =>
    rw [hregistered] at hdevice
    obtain ⟨device_url, hurl⟩ := Option.isSome_iff_exists.mp hdevice.symm
    have hset : (cells.store .connected false).content .registration = some reg := hregistered
    rw [hset]
    refine (iff_of_eq (congrArg (· = none) (unregister_device_url hurl))).trans ?_
    constructor
    · intro hnone _
      by_contra hkept
      exact absurd ((if_neg hkept).symm.trans hnone) nofun
    · intro hgiven
      exact if_pos (hgiven rfl)

end unregistration

section truth

variable {h : Health}

/-- `status()` tells the truth exactly where the contents are honest and no attempt counts
    that the socket does not intend to make up for. -/
theorem truthful_iff : Truthful h ↔
    h.cells.Honest ∧ (0 < h.shared.reconnect_attempts → h.shared.should_reconnect = true) := by
  constructor
  · intro htruthful
    have htold := htruthful unreachable_servers _ (exec_status unreachable_servers h)
    refine ⟨⟨?_, ?_⟩, htold.attempt⟩
    · intro mailbox kms hclient
      obtain ⟨mailbox', kms', hclient', hinitialized⟩ := htold.kms (Option.isSome_iff_exists.mpr ⟨_, hclient⟩)
      rw [hclient] at hclient'
      cases hclient'
      exact hinitialized
    · exact Bool.eq_iff_iff.mpr htold.device
  · rintro ⟨hhonest, hintends⟩ servers told htold
    rw [exec_status, Except.ok.injEq] at htold
    subst htold
    constructor
    · intro hstatus
      exact hintends (connection_status_reconnecting hstatus)
    · exact hintends
    · intro hsome
      obtain ⟨⟨mailbox, kms⟩, hkms⟩ := Option.isSome_iff_exists.mp hsome
      exact ⟨mailbox, kms, hkms, hhonest.kms mailbox kms hkms⟩
    · exact Bool.eq_iff_iff.mp hhonest.device

/-- Between two calls: the counter counts the announced attempts, and the events are those
    that a socket sends. -/
structure Health.Consistent (h : Health) : Prop where
  counted : h.shared.reconnect_attempts = h.announced
  settled : h.settled ≤ h.shared.events.length
  emitted : ∀ event ∈ h.shared.events, emitted_by_socket event.2 = true

/-- The attempts among new events come on top of those announced before. -/
theorem announced_append {added : List (Option Nat × MercuryEvent)} {after : Health}
    (hsettled : h.settled ≤ h.shared.events.length) (hsame : after.settled = h.settled)
    (hadded : after.shared.events = h.shared.events ++ added) :
    after.announced = h.announced + added.countP fun event => is_reconnecting event.2 := by
  unfold Health.announced
  rw [hsame, hadded, List.drop_append_of_le_length hsettled, List.countP_append]

theorem Health.Consistent.of_quiet {after : Health} (hconsistent : h.Consistent) (hquiet : h.Quiet after) :
    after.Consistent := by
  obtain ⟨hattempts, hsettled, added, hadded, hnone⟩ := hquiet
  have hcount : added.countP (fun event => is_reconnecting event.2) = 0 := by
    rw [List.countP_eq_zero]
    intro event hevent
    rw [(hnone event hevent).2]
    exact Bool.false_ne_true
  constructor
  · rw [hattempts, hconsistent.counted, announced_append hconsistent.settled hsettled hadded, hcount]
    rfl
  · rw [hsettled, hadded, List.length_append]
    exact Nat.le_add_right_of_le hconsistent.settled
  · intro event hevent
    rw [hadded] at hevent
    obtain hmem | hmem := List.mem_append.mp hevent
    · exact hconsistent.emitted event hmem
    · exact (hnone event hmem).1

/-- What the steps keep: no `connect` is under way, and `status()` tells the truth. -/
structure Health.Inv (h : Health) : Prop where
  idle : h.cells.content .connecting = false
  consistent : h.Consistent
  truthful : Truthful h

theorem Health.Inv.honest (hinv : h.Inv) : h.cells.Honest := (truthful_iff.mp hinv.truthful).1

theorem Health.Inv.intends (hinv : h.Inv) : 0 < h.shared.reconnect_attempts → h.shared.should_reconnect = true :=
  (truthful_iff.mp hinv.truthful).2

/-- Without an announced attempt there is none to make up for. -/
theorem Health.Quiet.intends {after : Health} (hquiet : h.Quiet after) (hinv : h.Inv) (hnone : h.announced = 0) :
    0 < after.shared.reconnect_attempts → after.shared.should_reconnect = true := by
  intro hcounts
  rw [hquiet.attempts, hinv.consistent.counted, hnone] at hcounts
  exact absurd hcounts (Nat.lt_irrefl 0)

/-- A socket that no longer intends to reconnect has nothing to make up for. -/
theorem Health.Quiet.announced_eq_zero {after : Health} (hquiet : h.Quiet after) (hinv : h.Inv) (htruthful : Truthful after)
    (hflag : after.shared.should_reconnect = false) : h.announced = 0 := by
  have hintends := (truthful_iff.mp htruthful).2
  rw [hflag, hquiet.attempts, hinv.consistent.counted] at hintends
  exact Nat.eq_zero_of_not_pos fun hcounts => Bool.false_ne_true (hintends hcounts)

end truth

section steps

variable {crates : Crates} {ignore_self_messages : Bool} {options : mercury_socket.Options} {servers : Servers} {h : Health}

theorem call_connect (hinv : h.Inv) : ∃ r, ConnectLeaves crates ignore_self_messages servers h.cells r
    (h.call servers (connect crates ignore_self_messages)).cells := by
  obtain ⟨r, after, hevaluates, hleaves⟩ := @connect_leaves crates ignore_self_messages (h.counted servers) h.cells
    hinv.honest.kms (fun _ => hinv.honest)
  obtain ⟨-, rfl⟩ := exec_of_evaluates hevaluates
  exact ⟨r, hleaves.honest, hleaves.idle, hleaves.succeeds, hleaves.mailbox⟩

/-- `status()` tells the truth after a `connect` exactly if it is aligned. -/
theorem connect_truthful_iff (hinv : h.Inv) : Truthful (h.call servers (connect crates ignore_self_messages)) ↔
    Aligned crates ignore_self_messages servers h.cells := by
  obtain ⟨r, hleaves⟩ := @call_connect crates ignore_self_messages servers h hinv
  rw [truthful_iff, hleaves.honest]
  refine and_iff_left ?_
  intro hcounts
  rw [(call_quiet servers _ h).attempts] at hcounts
  exact exec_of_intent (@connect_keeps_flag crates ignore_self_messages () h.intent (hinv.intends hcounts))

theorem call_disconnect (servers : Servers) (h : Health) : (h.call servers disconnect).cells = h.cells.disconnected servers :=
  (exec_of_evaluates (@evaluates_disconnect (h.counted servers) true h.cells)).2

/-- `status()` tells the truth after a `disconnect` exactly if no attempt has been announced
    since the stability timer fired last, and the `DELETE`, if there is one, is accepted. -/
theorem disconnect_truthful_iff (hinv : h.Inv) : Truthful (h.call servers disconnect) ↔ h.announced = 0 ∧
    ((h.cells.content .registration : Option DeviceRegistration).isSome = true →
      given_up (servers.fetched h.cells.requests.length) = true) := by
  have hquiet := call_quiet servers disconnect h
  rw [← disconnected_honest_iff hinv.honest, ← call_disconnect]
  constructor
  · intro htruthful
    have hflag : (h.call servers disconnect).shared.should_reconnect = false :=
      congrArg Intent.flag (exec_of_intent (disconnect_intent h.intent))
    exact ⟨hquiet.announced_eq_zero hinv htruthful hflag, (truthful_iff.mp htruthful).1⟩
  · rintro ⟨hnone, hhonest⟩
    exact truthful_iff.mpr ⟨hhonest, hquiet.intends hinv hnone⟩

/-- A `reconnect` lowers the flag, and raises it only in a `connect` that gets as far as its
    mailbox. -/
theorem reconnect_intent {new_token : String} (hnonempty : new_token ≠ "") (i : Intent) :
    (reconnect crates ignore_self_messages new_token).Obeys intent () i fun _ _ i' =>
      i'.flag = false ∨ i.mailboxes < i'.mailboxes := by
  unfold reconnect
  rw [beq_eq_false_iff_ne.mpr hnonempty]
  have hrest : ∀ i', i' = ⟨false, i.mailboxes⟩ → (do
      write_cell .token new_token
      connect crates ignore_self_messages).Obeys intent () i' fun _ _ i' => i'.flag = false ∨ i.mailboxes < i'.mailboxes := by
    rintro i' rfl
    have hkept : KeepsIntent (fun i' => i' = ⟨false, i.mailboxes⟩ ∨ i.mailboxes < i'.mailboxes) (do
        write_cell .token new_token
        connect crates ignore_self_messages) := by
      apply keeps_intent_bind (keeps_intent_write_cell .token new_token)
      intro _
      exact connect_keeps_intent ⟨false, i.mailboxes⟩
    refine (hkept () _ (.inl rfl)).mono ?_
    rintro r _ i' (rfl | hmore)
    · exact .inl rfl
    · exact .inr hmore
  refine (disconnect_intent i).bind ?_ ?_
  · intro _ _ i' hi
    exact hrest i' hi
  · rintro e _ i' rfl
    exact .inl rfl

/-- One that succeeds raises it. -/
theorem reconnect_intends {new_token : String} (i : Intent) :
    (reconnect crates ignore_self_messages new_token).Yields intent () i fun _ _ i' => i'.flag = true := by
  apply Method.yields_bind (yields_any _ i)
  intro _ _ i _
  apply Method.yields_bind (yields_any _ i)
  intro _ _ i _
  apply Method.yields_bind (yields_any _ i)
  intro _ _ i _
  exact connect_intends i

/-- A `reconnect` is a `disconnect`, and a `connect` that begins with what this leaves. -/
theorem call_reconnect {new_token : String} (hnonempty : new_token ≠ "") (hinv : h.Inv) : ∃ r,
    ((reconnect crates ignore_self_messages new_token ()).exec (Health.respond servers) h).1.1 = r ∧
      ConnectLeaves crates ignore_self_messages servers (h.cells.reconnecting servers new_token) r
        (h.call servers (reconnect crates ignore_self_messages new_token)).cells := by
  have hR := tolerant_true true
  obtain ⟨-, hconnecting, hconnected⟩ := disconnected_frame (h.counted servers) h.cells
  have hidle : ((h.cells.reconnecting (h.counted servers) new_token).content .connecting ||
      (h.cells.reconnecting (h.counted servers) new_token).content .connected) = false := by
    show ((h.cells.disconnected (h.counted servers)).content .connecting ||
      (h.cells.disconnected (h.counted servers)).content .connected) = false
    rw [hconnecting, hconnected, hinv.idle]
    rfl
  obtain ⟨r, final, hconnects, hleaves⟩ := @connect_leaves crates ignore_self_messages (h.counted servers)
    (h.cells.reconnecting (h.counted servers) new_token) (fun _ _ hkms => absurd hkms nofun)
    (fun hrefused => absurd (hidle.symm.trans hrefused) Bool.false_ne_true)
  have hreconnects : Evaluates (h.counted servers) true (fun _ _ => True)
      (reconnect crates ignore_self_messages new_token) h.cells r final := by
    unfold reconnect
    rw [beq_eq_false_iff_ne.mpr hnonempty]
    apply evaluates_bind hR (evaluates_ofExcept hR (.ok ()) _)
    apply evaluates_bind hR (evaluates_disconnect h.cells)
    apply evaluates_bind hR (evaluates_write_cell hR _ .token new_token)
    exact hconnects
  obtain ⟨hr, rfl⟩ := exec_of_evaluates hreconnects
  exact ⟨r, hr, hleaves.honest, hleaves.idle, hleaves.succeeds, hleaves.mailbox⟩

/-- `status()` tells the truth after a `reconnect` with a token exactly if the `connect` in it
    succeeds, or is aligned and no attempt has been announced. -/
theorem reconnect_truthful_iff {new_token : String} (hnonempty : new_token ≠ "") (hinv : h.Inv) :
    Truthful (h.call servers (reconnect crates ignore_self_messages new_token)) ↔
      failing_step crates ignore_self_messages servers (h.cells.reconnecting servers new_token) = none ∨
      h.announced = 0 ∧ Aligned crates ignore_self_messages servers (h.cells.reconnecting servers new_token) := by
  obtain ⟨r, hr, hleaves⟩ := @call_reconnect crates ignore_self_messages servers h new_token hnonempty hinv
  have hquiet := call_quiet servers (reconnect crates ignore_self_messages new_token) h
  constructor
  · intro htruthful
    by_cases hnone : failing_step crates ignore_self_messages servers (h.cells.reconnecting servers new_token) = none
    · exact .inl hnone
    have haligned := hleaves.honest.mp (truthful_iff.mp htruthful).1
    have hmade := (hleaves.mailbox haligned hnone).trans (disconnected_frame servers h.cells).1
    have hintent := @exec_of_intent servers _ _ h _
      (@reconnect_intent crates ignore_self_messages new_token hnonempty h.intent)
    have hflag := hintent.resolve_right (Nat.not_lt.mpr (Nat.le_of_eq hmade))
    exact .inr ⟨hquiet.announced_eq_zero hinv htruthful hflag, haligned⟩
  · intro hsound
    obtain hnone | ⟨hzero, haligned⟩ := hsound
    · refine truthful_iff.mpr ⟨hleaves.honest.mpr ?_, fun _ => ?_⟩
      · rw [Aligned, hnone]
        trivial
      · exact exec_of_intent (reconnect_intends h.intent) () (hr.trans (hleaves.succeeds hnone))
    · exact truthful_iff.mpr ⟨hleaves.honest.mpr haligned, hquiet.intends hinv hzero⟩

end steps

section closes

variable (max_reconnect socket : Nat) (shared : Shared)

/-- What a read loop does with an item: each attempt it counts it announces, and it does not
    give up while an attempt counts. -/
structure Counts (socket : Nat) (before after : Shared) : Prop where
  sent : ∃ events : List MercuryEvent, after.events = before.events ++ events.map (Prod.mk (some socket)) ∧
    (∀ event ∈ events, emitted_by_socket event = true) ∧
    after.reconnect_attempts = before.reconnect_attempts + events.countP is_reconnecting
  intends : 0 < after.reconnect_attempts → after.should_reconnect = true

theorem counts_permanent_close (error reason : String) (hnone : shared.reconnect_attempts = 0) :
    Counts socket shared (run_loop socket (mercury_socket.handle_permanent_close error reason) shared) where
  sent := by
    refine ⟨[.error error, .disconnected reason], ?_, ?_, rfl⟩
    · exact List.append_assoc _ _ _
    · simp [emitted_by_socket]
  intends hcounts := absurd hcounts (hnone ▸ Nat.lt_irrefl 0)

/-- A recoverable close gives up when no attempt is left. -/
theorem run_recoverable_close_last (hflag : shared.should_reconnect = true)
    (hmax : max_reconnect ≤ shared.reconnect_attempts) :
    run_loop socket (mercury_socket.handle_recoverable_close max_reconnect) shared =
      { shared with
        should_reconnect := false
        events := shared.events ++ [(some socket, .disconnected "max-attempts-exceeded")] } := by
  unfold mercury_socket.handle_recoverable_close
  rw [mercury_socket.run_loop_bind]
  show run_loop socket (if shared.should_reconnect then _ else _) shared = _
  rw [hflag, if_pos rfl, mercury_socket.run_loop_bind]
  have htake : (mercury_socket.take_attempt max_reconnect).exec (Shared.apply (some socket)) shared =
      shared.apply (some socket) (.take_attempt max_reconnect) := rfl
  rw [htake, Shared.apply, if_pos hmax]
  rfl

/-- It announces an attempt and waits when one is left. -/
theorem run_recoverable_close_next (hflag : shared.should_reconnect = true)
    (hmax : shared.reconnect_attempts < max_reconnect) :
    run_loop socket (mercury_socket.handle_recoverable_close max_reconnect) shared =
      { shared with
        reconnect_attempts := shared.reconnect_attempts + 1
        events := shared.events ++ [(some socket, .reconnecting (shared.reconnect_attempts + 1)),
          (some socket, .disconnected "reconnect-needed")] } := by
  unfold mercury_socket.handle_recoverable_close
  rw [mercury_socket.run_loop_bind]
  show run_loop socket (if shared.should_reconnect then _ else _) shared = _
  rw [hflag, if_pos rfl, mercury_socket.run_loop_bind]
  have htake : (mercury_socket.take_attempt max_reconnect).exec (Shared.apply (some socket)) shared =
      shared.apply (some socket) (.take_attempt max_reconnect) := rfl
  rw [htake, Shared.apply, if_neg (Nat.not_le_of_lt hmax)]
  show { shared with
      reconnect_attempts := shared.reconnect_attempts + 1
      events := shared.events ++ [(some socket, MercuryEvent.reconnecting (shared.reconnect_attempts + 1))] ++
        [(some socket, MercuryEvent.disconnected "reconnect-needed")] } = _
  rw [List.append_assoc, hflag]
  rfl

theorem counts_recoverable_close (hintends : 0 < shared.reconnect_attempts → shared.should_reconnect = true)
    (hroom : shared.reconnect_attempts = 0 ∨ shared.reconnect_attempts < max_reconnect) :
    Counts socket shared (run_loop socket (mercury_socket.handle_recoverable_close max_reconnect) shared) := by
  cases hflag : shared.should_reconnect with
  | false =>
    unfold mercury_socket.handle_recoverable_close
    rw [mercury_socket.run_loop_bind]
    show Counts socket _ (run_loop socket (if shared.should_reconnect then _ else _) shared)
    rw [hflag]
    refine ⟨⟨[.disconnected "manual"], rfl, by simp [emitted_by_socket], rfl⟩, ?_⟩
    intro hcounts
    exact (Bool.false_ne_true (hflag.symm.trans (hintends hcounts))).elim
  | true =>
    obtain hmax | hmax := Nat.lt_or_ge shared.reconnect_attempts max_reconnect
    · rw [run_recoverable_close_next max_reconnect socket shared hflag hmax]
      exact ⟨⟨[.reconnecting (shared.reconnect_attempts + 1), .disconnected "reconnect-needed"], rfl,
        by simp [emitted_by_socket], rfl⟩, fun _ => hflag⟩
    · rw [run_recoverable_close_last max_reconnect socket shared hflag hmax]
      refine ⟨⟨[.disconnected "max-attempts-exceeded"], rfl, by simp [emitted_by_socket], rfl⟩, ?_⟩
      intro hcounts
      have hnone : shared.reconnect_attempts = 0 := hroom.resolve_right (Nat.not_lt.mpr hmax)
      exact absurd hcounts (hnone ▸ Nat.lt_irrefl 0)

theorem counts_close (code : UInt16) (hintends : 0 < shared.reconnect_attempts → shared.should_reconnect = true)
    (hroom : shared.reconnect_attempts = 0 ∨ permanent code = false ∧ shared.reconnect_attempts < max_reconnect) :
    Counts socket shared (run_loop socket (mercury_socket.handle_close_static max_reconnect code) shared) := by
  have hcleared : ∀ after, Counts socket { shared with connected := false, stability_task := none } after →
      Counts socket shared after := fun after hcounts => ⟨hcounts.sent, hcounts.intends⟩
  unfold mercury_socket.handle_close_static
  rw [mercury_socket.run_loop_bind, mercury_socket.run_loop_bind]
  apply hcleared
  show Counts socket _ (run_loop socket (if code = 4401 then _ else _) _)
  unfold permanent at hroom
  split
  · rename_i hcode
    subst hcode
    exact counts_permanent_close socket _ _ _ (hroom.resolve_right fun h => absurd h.1 (by decide))
  split
  · rename_i hcode
    refine counts_permanent_close socket _ _ _ (hroom.resolve_right fun h => ?_)
    obtain rfl | rfl := hcode
    · exact absurd h.1 (by decide)
    · exact absurd h.1 (by decide)
  · exact counts_recoverable_close max_reconnect socket _ hintends (hroom.imp_right And.right)

end closes

section runs

variable {crates : Crates} {ignore_self_messages : Bool} {options : mercury_socket.Options} {servers : Servers} {h : Health}

theorem Health.Inv.of_counts {socket : Nat} {after : Health} (hinv : h.Inv) (hcells : after.cells = h.cells)
    (hsettled : after.settled = h.settled) (hcounts : Counts socket h.shared after.shared) : after.Inv := by
  obtain ⟨⟨events, hevents, hemitted, hattempts⟩, hintends⟩ := hcounts
  refine ⟨hcells ▸ hinv.idle, ⟨?_, ?_, ?_⟩, truthful_iff.mpr ⟨hcells ▸ hinv.honest, hintends⟩⟩
  · rw [hattempts, hinv.consistent.counted, announced_append hinv.consistent.settled hsettled hevents, List.countP_map]
    rfl
  · rw [hsettled, hevents, List.length_append]
    exact Nat.le_add_right_of_le hinv.consistent.settled
  · intro event hevent
    rw [hevents] at hevent
    obtain hmem | hmem := List.mem_append.mp hevent
    · exact hinv.consistent.emitted event hmem
    · obtain ⟨emitted, hsent, rfl⟩ := List.mem_map.mp hmem
      exact hemitted emitted hsent

theorem Health.Inv.take {socket : Nat} {item : Option Item} (hinv : h.Inv) (hlive : h.read_loops[socket]? = some true)
    (hsound : h.Sound crates ignore_self_messages options (.item socket item)) :
    (h.take crates options socket item).Inv := by
  have hnothing : Counts socket h.shared h.shared :=
    ⟨⟨[], (List.append_nil _).symm, fun _ hmem => absurd hmem List.not_mem_nil, rfl⟩, hinv.intends⟩
  suffices hcounts : Counts socket h.shared (h.take crates options socket item).shared from hinv.of_counts rfl rfl hcounts
  cases item with
  | none => exact hnothing
  | some item =>
    cases item with
    | other => exact hnothing
    | error message => exact ⟨⟨[.error message], rfl, by simp [emitted_by_socket], rfl⟩, hinv.intends⟩
    | text text =>
      obtain ⟨events, htext, hcontent⟩ := mercury_socket.run_handle_text crates.socket socket h.shared text
      change Counts socket h.shared (run_loop socket (mercury_socket.handle_text crates.socket text) h.shared)
      rw [htext]
      have hemitted : ∀ event ∈ events, emitted_by_socket event = true :=
        fun event hmem => (mercury_socket.emitted_of_content (hcontent event hmem)).1
      refine ⟨⟨events, rfl, hemitted, ?_⟩, hinv.intends⟩
      have hnone : events.countP is_reconnecting = 0 := by
        rw [List.countP_eq_zero]
        intro event hmem
        have hkind := hcontent event hmem
        cases event with
        | reconnecting attempt => cases hkind
        | _ => exact Bool.false_ne_true
      rw [hnone]
      rfl
    | close frame =>
      have hroom := hsound hlive
      rw [← hinv.consistent.counted] at hroom
      exact counts_close options.max_reconnect_attempts socket h.shared _ hinv.intends hroom

/-- The event loop leaves the socket and the contents that `status()` looks at alone. -/
theorem handle_mercury_event_leaves {event : MercuryEvent} (hemitted : emitted_by_socket event = true) (h : Health) :
    (h.call servers (handle_mercury_event crates (some event))).shared = h.shared ∧
      ∀ cell ∈ ([.connecting, .kms_client, .registration, .device_manager] : List Cell),
        (h.call servers (handle_mercury_event crates (some event))).cells.content cell = h.cells.content cell := by
  cases event with
  | connected => cases hemitted
  | disconnected reason =>
    refine ⟨rfl, fun cell hcell => ?_⟩
    have hne : cell ≠ .connected := by
      rintro rfl
      exact absurd hcell (by decide)
    exact Function.update_of_ne hne _ _
  | kms_response data =>
    have hforward : ∀ receiver, h.cells.content .kms_response_handler = receiver →
        ((do forward_kms_response data receiver; release .kms_response_handler receiver : Handler Unit) ()).exec
          (Health.respond servers) h = ((.ok (), ()), { h with cells := h.cells.store .kms_response_handler receiver }) := by
      intro receiver _
      cases receiver with
      | none => rfl
      | some mailbox => rfl
    have hcall : h.call servers (handle_mercury_event crates (some (.kms_response data))) =
        { h with cells := h.cells.store .kms_response_handler (h.cells.content .kms_response_handler) } :=
      congrArg Prod.snd (hforward _ rfl)
    rw [hcall, store_content_self]
    exact ⟨rfl, fun _ _ => rfl⟩
  | activity activity | reconnecting attempt | error message => exact ⟨rfl, fun _ _ => rfl⟩

theorem Health.Inv.event {event : MercuryEvent} (hinv : h.Inv) (hemitted : emitted_by_socket event = true) :
    (h.call servers (handle_mercury_event crates (some event))).Inv := by
  obtain ⟨hshared, hcells⟩ := @handle_mercury_event_leaves crates servers event hemitted h
  refine ⟨(hcells .connecting (by decide)).trans hinv.idle, hinv.consistent.of_quiet (call_quiet servers _ h),
    truthful_iff.mpr ⟨?_, ?_⟩⟩
  · exact hinv.honest.of_content (hcells .kms_client (by decide)) (hcells .registration (by decide))
      (hcells .device_manager (by decide))
  · rw [hshared]
    exact hinv.intends

theorem Health.Inv.fire {stability_task : Option mercury_socket.Reset} (hinv : h.Inv) :
    Health.Inv { h with
      shared := { h.shared with reconnect_attempts := 0, stability_task := stability_task }
      settled := h.shared.events.length } := by
  refine ⟨hinv.idle, ⟨?_, Nat.le_refl _, hinv.consistent.emitted⟩, ?_⟩
  · unfold Health.announced
    rw [List.drop_length]
    rfl
  · exact truthful_iff.mpr ⟨hinv.honest, fun hcounts => absurd hcounts (Nat.lt_irrefl 0)⟩

/-- A step that meets the condition keeps the invariant. -/
theorem Health.Inv.step {token : String} {next : Health} {label : Health.Label} (hinv : h.Inv)
    (hsound : h.Sound crates ignore_self_messages options label)
    (hstep : (health crates ignore_self_messages options token).step h label = some next) : next.Inv := by
  cases label with
  | connect servers =>
    cases hstep
    obtain ⟨r, hleaves⟩ := @call_connect crates ignore_self_messages servers h hinv
    exact ⟨hleaves.idle hinv.idle, hinv.consistent.of_quiet (call_quiet servers _ h), (connect_truthful_iff hinv).mpr hsound⟩
  | disconnect servers =>
    cases hstep
    refine ⟨?_, hinv.consistent.of_quiet (call_quiet servers _ h), (disconnect_truthful_iff hinv).mpr hsound⟩
    rw [call_disconnect]
    exact (disconnected_frame servers h.cells).2.1.trans hinv.idle
  | reconnect new_token servers =>
    cases hstep
    by_cases hempty : new_token = ""
    · subst hempty
      exact hinv
    · obtain ⟨r, -, hleaves⟩ := @call_reconnect crates ignore_self_messages servers h new_token hempty hinv
      exact ⟨hleaves.idle ((disconnected_frame servers h.cells).2.1.trans hinv.idle),
        hinv.consistent.of_quiet (call_quiet servers _ h),
        (reconnect_truthful_iff hempty hinv).mpr (hsound.resolve_left hempty)⟩
  | item socket item =>
    obtain ⟨hlive, ⟨⟩⟩ := Option.ite_none_right_eq_some.mp hstep
    exact hinv.take hlive hsound
  | event servers =>
    obtain ⟨-, hhandled⟩ := Option.ite_none_right_eq_some.mp hstep
    obtain ⟨event, hevent, rfl⟩ := Option.map_eq_some_iff.mp hhandled
    have hnext := @Health.Inv.event crates servers h event.2 hinv
      (hinv.consistent.emitted event (List.mem_of_getElem? hevent))
    exact ⟨hnext.idle, ⟨hnext.consistent.counted, hnext.consistent.settled, hnext.consistent.emitted⟩,
      truthful_iff.mpr ⟨hnext.honest, hnext.intends⟩⟩
  | fire =>
    simp only [health, Health.step] at hstep
    split at hstep
    · obtain ⟨-, ⟨⟩⟩ := Option.ite_none_right_eq_some.mp hstep
      exact hinv.fire
    · cases hstep
  | wait millis =>
    cases hstep
    exact ⟨hinv.idle, ⟨hinv.consistent.counted, hinv.consistent.settled, hinv.consistent.emitted⟩,
      truthful_iff.mpr ⟨hinv.honest, hinv.intends⟩⟩

end runs

section sample

end sample

end webex.rust.handler
