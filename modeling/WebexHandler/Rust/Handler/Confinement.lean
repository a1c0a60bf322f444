import WebexHandler.Rust.AllowList
import WebexHandler.Rust.DeviceManager.Confinement
import WebexHandler.Rust.Handler.Steps
import WebexHandler.Rust.KmsClient.Confinement

open interaction json transition

namespace webex.rust.handler

open device_manager (DeviceManager DeviceRegistration TrustedManager trusted_answer checked_registration)
open kms_client (KmsClient TrustedClient)
open url_validation (Accepted)

/-- A request with the token goes to a host the code names or the validation accepts,
    and so does the socket that is authorized with it. -/
def TokenConfined : Op → Prop
  | .fetch req => req.carries_bearer = true → req.url = (people_me_request "").url ∨ Accepted "https" req.url
  | .kms _ (.fetch req) =>
    req.carries_bearer = true → req.url = (people_me_request "").url ∨ Accepted "https" req.url
  | .open_socket base_url _ _ => Accepted "wss" base_url
  | _ => True

/-- The answer to a registration or a refresh names an encryption service. -/
def names_encryption_service (crates : device_manager.Crates) (req : FetchRequest) :
    Except String FetchResponse → Bool
  | .error _ => true
  | .ok response =>
    if response.ok = true ∧ (req.method = "POST" ∨ req.method = "PUT") then
      match checked_registration crates response.body with
      | .error _ => true
      | .ok reg => reg.encryption_service_url != ""
    else true

/-- The device requests get answers with Webex URLs. The answer about the bot itself is
    not used as one. -/
def trusted_step (crates : Crates) (s : System) : Label → Bool
  | .perform tid (.fetched answer) =>
    match s.head tid with
    | some (.fetch req) => req.url == (people_me_request "").url ||
        (trusted_answer crates.device req answer && names_encryption_service crates.device req answer)
    | _ => true
  | _ => true

/-- The URLs behind a mutex have been accepted. -/
def Trusted : (cell : Cell) → Content cell → Prop
  | .device_manager, dm => TrustedManager dm
  | .kms_client, kms => ∀ mailbox client, kms = some (mailbox, client) → TrustedClient client
  | _, _ => True

def NamesService (reg : DeviceRegistration) : Prop := reg.encryption_service_url ≠ ""

/-- What the tasks may do: they confine the token and leave trusted contents behind. -/
def confinement (crates : Crates) : Monitor Op Res Unit where
  allowed _ op := TokenConfined op ∧ match op with
    | .release cell content => Trusted cell content
    | _ => True
  moves _ op r _ := match op, r with
    | .acquire cell, content => Trusted cell content
    | .fetch req, answer =>
      req.url ≠ (people_me_request "").url → device_manager.Answered crates.device NamesService req answer
    | _, _ => True

variable {crates : Crates}

/-- The device manager's requests, under the handler's monitor. -/
theorem confines_device :
    device_manager.Confines crates.device ((confinement crates).restrict Op.fetch fun _ r => r) NamesService where
  allowed _ _ haccepted := ⟨fun _ => .inr haccepted, trivial⟩
  answered := by
    rintro _ req answer _ haccepted ⟨_, rfl, hanswered⟩
    refine hanswered fun hurl => ?_
    rw [hurl] at haccepted
    exact absurd haccepted (by decide)

theorem confines_kms (mailbox : Nat) :
    kms_client.Confines ((confinement crates).restrict (Op.kms mailbox) fun _ r => r) where
  fetch _ _ haccepted := ⟨fun _ => .inr haccepted, trivial⟩
  other := by
    intro _ op hop
    cases op with
    | fetch req => exact absurd rfl (hop req)
    | _ => exact ⟨trivial, trivial⟩

/-- A function of the handler that confines the token. -/
abbrev Confines {α : Type} (crates : Crates) (m : Handler α) (post : α → Prop) : Prop :=
  m.Ensures (confinement crates) (fun _ => True) post

theorem confines_acquire (cell : Cell) : Confines crates (acquire cell) (Trusted cell) :=
  Method.ensures_request (fun _ => ⟨trivial, trivial⟩) fun _ _ _ htrusted => htrusted

theorem confines_release (cell : Cell) {content : Content cell} (htrusted : Trusted cell content) :
    Confines crates (release cell content) fun _ => True :=
  Method.ensures_request (fun _ => ⟨trivial, htrusted⟩) fun _ _ _ _ => trivial

theorem confines_read_cell (cell : Cell) : Confines crates (read_cell cell) (Trusted cell) := by
  unfold read_cell
  refine Method.ensures_bind (confines_acquire cell) fun content htrusted => ?_
  exact Method.ensures_bind (confines_release cell htrusted) fun _ _ => Method.ensures_pure htrusted

theorem confines_write_cell (cell : Cell) {content : Content cell} (htrusted : Trusted cell content) :
    Confines crates (write_cell cell content) fun _ => True := by
  unfold write_cell
  exact Method.ensures_bind (confines_acquire cell) fun _ _ => confines_release cell htrusted

/-- The operations that neither carry the token nor touch a mutex. -/
theorem confines_request (op : Op) (hconfined : TokenConfined op) (hrelease : ∀ cell content, op ≠ .release cell content) :
    Confines crates (Method.request op) fun _ => True := by
  refine Method.ensures_request (fun _ => ⟨hconfined, ?_⟩) fun _ _ _ _ => trivial
  cases op with
  | release cell content => exact absurd rfl (hrelease cell content)
  | _ => trivial

theorem confines_fetch_bot_person_id : Confines crates (fetch_bot_person_id crates) fun _ => True := by
  unfold fetch_bot_person_id
  refine Method.ensures_bind (confines_read_cell .token) fun token _ => ?_
  refine Method.ensures_bind (confines_request (.fetch (people_me_request token)) (fun _ => .inl rfl) nofun) fun response _ => ?_
  exact Method.ensures_bind_ofExcept fun uuid _ => confines_write_cell .bot_person_id trivial

theorem confines_register_device (token : String) :
    Confines crates (register_device crates token) fun reg => NamesService reg ∧ device_manager.CheckedUrls reg := by
  unfold register_device
  refine Method.ensures_bind (confines_acquire .device_manager) fun dm hdm => ?_
  refine Method.ensures_bind (Method.ensures_call (confines_device.register token) hdm) ?_
  rintro ⟨reg, dm⟩ ⟨hdm, hreg⟩
  exact Method.ensures_bind (confines_release .device_manager hdm) fun _ _ => Method.ensures_ofExcept hreg

theorem confines_initialize_kms : Confines crates (initialize_kms crates) fun _ => True := by
  unfold initialize_kms
  refine Method.ensures_bind (confines_acquire .kms_client) fun client hclient => ?_
  split
  · rename_i mailbox kms
    refine Method.ensures_bind (Method.ensures_call (confines_kms mailbox).rule.initialize_client.ensures
      (hclient mailbox kms rfl)) ?_
    rintro ⟨result, kms⟩ ⟨hkms, -⟩
    refine Method.ensures_bind (confines_release .kms_client ?_) fun _ _ => Method.ensures_pure trivial
    rintro _ _ ⟨⟩
    exact hkms
  · exact Method.ensures_bind (confines_release .kms_client nofun) fun _ _ => Method.ensures_pure trivial

/-- The socket is opened only at an accepted URL: an empty one does not parse. -/
theorem confines_mercury_connect (hempty : ∀ url, crates.socket.parse_url "" ≠ .ok url) {ws_url : String}
    (hchecked : ws_url ≠ "" → Accepted "wss" ws_url) (token : String) :
    Confines crates (mercury_connect crates ws_url token) fun _ => True := by
  unfold mercury_connect
  apply Method.ensures_bind (confines_request .now trivial nofun)
  intro timestamp _
  apply Method.ensures_bind_ofExcept
  intro prepared_url hprepared
  have hne : ws_url ≠ "" := by
    rintro rfl
    obtain ⟨url, hurl⟩ := mercury_socket.prepare_url_parses hprepared
    exact hempty url hurl
  apply Method.ensures_bind (confines_request (.open_socket ws_url prepared_url token) (hchecked hne) nofun)
  intro opened _
  exact Method.ensures_ofExcept fun _ _ => trivial

theorem confines_connect_internal (hempty : ∀ url, crates.socket.parse_url "" ≠ .ok url) (ignore_self_messages : Bool) :
    Confines crates (connect_internal crates ignore_self_messages) fun _ => True := by
  unfold connect_internal
  apply Method.ensures_bind (confines_read_cell .token)
  intro token _
  apply Method.ensures_bind (confines_register_device token)
  rintro reg ⟨hservice, hchecked⟩
  apply Method.ensures_bind (Method.ensures_when fun _ => confines_fetch_bot_person_id)
  intro _ _
  apply Method.ensures_bind (confines_request .new_mailbox trivial nofun)
  intro mailbox _
  apply Method.ensures_bind (confines_write_cell .kms_response_handler trivial)
  intro _ _
  have hclient : Trusted .kms_client
      (some (mailbox, kms_client.new token reg.device_url reg.user_id reg.encryption_service_url)) := by
    rintro _ _ ⟨⟩
    exact hchecked.encryption_service_url hservice
  apply Method.ensures_bind (confines_write_cell .kms_client hclient)
  intro _ _
  apply Method.ensures_bind (confines_mercury_connect hempty hchecked.web_socket_url token)
  intro _ _
  apply Method.ensures_bind (confines_request .start_event_loop trivial nofun)
  intro _ _
  apply Method.ensures_bind confines_initialize_kms
  intro initialized _
  apply Method.ensures_bind_ofExcept
  intro _ _
  exact confines_write_cell .registration trivial

theorem confines_connect (hempty : ∀ url, crates.socket.parse_url "" ≠ .ok url) (ignore_self_messages : Bool) :
    Confines crates (connect crates ignore_self_messages) fun _ => True := by
  unfold connect
  apply Method.ensures_bind (confines_acquire .connecting)
  intro connecting _
  apply Method.ensures_bind (confines_acquire .connected)
  intro connected _
  apply Method.ensures_bind (confines_release .connected trivial)
  intro _ _
  apply Method.ensures_bind (confines_release .connecting trivial)
  intro _ _
  apply Method.ensures_bind_reject
  intro _
  apply Method.ensures_bind_reject
  intro _
  apply Method.ensures_bind (confines_write_cell .connecting trivial)
  intro _ _
  apply Method.ensures_bind (Method.ensures_attempt (confines_connect_internal hempty ignore_self_messages))
  intro result _
  apply Method.ensures_bind (confines_write_cell .connecting trivial)
  intro _ _
  apply Method.ensures_bind_ofExcept
  intro _ _
  apply Method.ensures_bind (confines_write_cell .connected trivial)
  intro _ _
  exact confines_request _ trivial nofun

theorem confines_disconnect : Confines crates disconnect fun _ => True := by
  have hunregister : ∀ token, Confines crates (unregister_device token) fun _ => True := by
    intro token
    apply Method.ensures_bind (confines_acquire .registration)
    intro reg _
    refine Method.ensures_bind (Method.ensures_when fun _ => ?_) fun _ _ => confines_release .registration trivial
    apply Method.ensures_bind (confines_acquire .device_manager)
    intro dm hdm
    apply Method.ensures_bind (Method.ensures_call (confines_device.unregister token) hdm)
    rintro ⟨_, dm⟩ ⟨hdm, -⟩
    exact confines_release .device_manager hdm
  unfold disconnect
  apply Method.ensures_bind (confines_write_cell .connected trivial)
  intro _ _
  apply Method.ensures_bind (confines_request .mercury_disconnect trivial nofun)
  intro _ _
  apply Method.ensures_bind (confines_read_cell .token)
  intro token _
  apply Method.ensures_bind (hunregister token)
  intro _ _
  apply Method.ensures_bind (confines_write_cell .registration trivial)
  intro _ _
  have hnone : Trusted .kms_client none := nofun
  apply Method.ensures_bind (confines_write_cell .kms_client hnone)
  intro _ _
  apply Method.ensures_bind (confines_write_cell .kms_response_handler trivial)
  intro _ _
  exact confines_write_cell .bot_person_id trivial

theorem confines_reconnect (hempty : ∀ url, crates.socket.parse_url "" ≠ .ok url) (ignore_self_messages : Bool)
    (new_token : String) : Confines crates (reconnect crates ignore_self_messages new_token) fun _ => True := by
  unfold reconnect
  apply Method.ensures_bind_reject
  intro _
  apply Method.ensures_bind confines_disconnect
  intro _ _
  apply Method.ensures_bind (confines_write_cell .token trivial)
  intro _ _
  exact confines_connect hempty ignore_self_messages

theorem confines_status : Confines crates status fun _ => True := by
  unfold status
  apply Method.ensures_bind (confines_request .mercury_attempts trivial nofun)
  intro reconnect_attempt _
  apply Method.ensures_bind (confines_request .mercury_connected trivial nofun)
  intro ws_open _
  apply Method.ensures_bind (confines_read_cell .connected)
  intro is_connected _
  apply Method.ensures_bind (confines_read_cell .connecting)
  intro is_connecting _
  apply Method.ensures_bind (confines_acquire .kms_client)
  intro kms hkms
  apply Method.ensures_bind (confines_acquire .registration)
  intro reg _
  apply Method.ensures_bind (confines_release .registration trivial)
  intro _ _
  apply Method.ensures_bind (confines_release .kms_client hkms)
  intro _ _
  exact Method.ensures_pure trivial

theorem confines_refresh_registration (token : String) :
    Confines crates (refresh_registration crates token) fun _ => True := by
  unfold refresh_registration
  apply Method.ensures_bind (confines_acquire .registration)
  intro reg _
  split
  · apply Method.ensures_bind (confines_acquire .device_manager)
    intro dm hdm
    apply Method.ensures_bind (Method.ensures_call (confines_device.refresh token) hdm)
    rintro ⟨refreshed, dm⟩ ⟨hdm, -⟩
    cases refreshed with
    | ok new_reg =>
      apply Method.ensures_bind (confines_release .registration trivial)
      intro _ _
      apply Method.ensures_bind (confines_write_cell .registration trivial)
      intro _ _
      exact confines_release .device_manager hdm
    | error e =>
      apply Method.ensures_bind (confines_release .device_manager hdm)
      intro _ _
      exact confines_release .registration trivial
  · exact confines_release .registration trivial

theorem confines_event_loop : Confines crates (event_loop crates) fun _ => True := by
  unfold event_loop
  apply Method.ensures_bind (confines_request .next_event trivial nofun)
  intro event _
  unfold handle_mercury_event
  split
  · apply Method.ensures_bind (confines_acquire .recent_activity_ids)
    intro ids _
    apply Method.ensures_bind (confines_request .now trivial nofun)
    intro instant _
    exact confines_release .recent_activity_ids trivial
  · rename_i data
    apply Method.ensures_bind (confines_acquire .kms_response_handler)
    intro handler _
    have hforward : Confines crates (forward_kms_response data handler) fun _ => True := by
      cases handler with
      | none => exact Method.ensures_pure trivial
      | some mailbox => exact confines_request _ trivial nofun
    apply Method.ensures_bind hforward
    intro _ _
    exact confines_release .kms_response_handler trivial
  · exact confines_request _ trivial nofun
  · apply Method.ensures_bind (confines_read_cell .token)
    intro token _
    apply Method.ensures_bind (confines_refresh_registration token)
    intro _ _
    apply Method.ensures_bind confines_initialize_kms
    intro _ _
    apply Method.ensures_bind (confines_write_cell .connected trivial)
    intro _ _
    exact confines_request _ trivial nofun
  · apply Method.ensures_bind (confines_write_cell .connected trivial)
    intro _ _
    exact confines_request _ trivial nofun
  · exact confines_request _ trivial nofun
  · exact confines_request _ trivial nofun

theorem confines_decrypt_activity (mailbox : Nat) {kms : KmsClient} (htrusted : TrustedClient kms)
    (activity : MercuryActivity) :
    Confines crates (call_kms mailbox (message_decryptor.decrypt_activity crates activity) kms)
      fun out => TrustedClient out.2 := by
  have hdecrypt : (message_decryptor.decrypt_activity crates activity).Ensures
      ((confinement crates).restrict (Op.kms mailbox) fun _ r => r) TrustedClient fun _ => True := by
    unfold message_decryptor.decrypt_activity
    split
    · exact Method.ensures_pure trivial
    · rename_i url _
      apply Method.ensures_bind (Method.ensures_attempt ((confines_kms mailbox).get_key url).ensures)
      intro fetched _
      split
      · exact Method.ensures_pure trivial
      · exact Method.ensures_throw _
  exact (Method.ensures_call hdecrypt htrusted).mono fun out hout => hout.1

theorem confines_handle_activity_static (mailbox : Nat) {kms : KmsClient} (htrusted : TrustedClient kms)
    (activity : MercuryActivity) (bot_person_id : Option String) :
    Confines crates (handle_activity_static crates mailbox kms activity bot_person_id) TrustedClient := by
  have hsend : ∀ event (kms : KmsClient), TrustedClient kms →
      Confines crates (send event >>= fun _ => pure kms) TrustedClient := by
    intro event kms htrusted
    apply Method.ensures_bind (confines_request (.send event) trivial nofun)
    intro _ _
    exact Method.ensures_pure htrusted
  unfold handle_activity_static
  split
  · apply Method.ensures_bind (confines_decrypt_activity mailbox htrusted activity)
    rintro ⟨decrypted, kms⟩ htrusted
    cases hevent : message_event crates activity.verb bot_person_id decrypted with
    | none =>
      simp only [hevent, send_event]
      exact Method.ensures_pure htrusted
    | some event =>
      simp only [hevent, send_event]
      exact hsend event kms htrusted
  · split
    · exact hsend _ kms htrusted
    · split
      · exact hsend _ kms htrusted
      · split
        · apply Method.ensures_bind (confines_decrypt_activity mailbox htrusted activity)
          rintro ⟨decrypted, kms⟩ htrusted
          exact hsend _ kms htrusted
        · split
          · exact hsend _ kms htrusted
          · exact Method.ensures_pure htrusted

theorem confines_activity_task (activity : MercuryActivity) :
    Confines crates (activity_task crates activity) fun _ => True := by
  unfold activity_task
  apply Method.ensures_bind (confines_acquire .kms_client)
  intro client hclient
  split
  · rename_i mailbox kms
    apply Method.ensures_bind (confines_read_cell .bot_person_id)
    intro bot_id _
    apply Method.ensures_bind (confines_handle_activity_static mailbox (hclient mailbox kms rfl) activity bot_id)
    intro kms hkms
    apply confines_release .kms_client
    rintro _ _ ⟨⟩
    exact hkms
  · exact confines_release .kms_client nofun

theorem task_confined {α : Type} {m : Handler α} {post : α → Prop} (hm : Confines crates m post) :
    (as_task m).Obeys (confinement crates) (fun _ _ => True) () := by
  rw [as_task, Program.obeys_bind]
  exact Program.Obeys.mono (fun _ _ _ => trivial) (hm () () trivial)

/-- Every mutex guards trusted content, also while its holder works on a copy. -/
def ContentsTrusted (env : Env) (_ : List Unit) : Prop := ∀ cell, Trusted cell (env.content cell)

/-- The condition on a step, seen by the task that performs it. -/
def AnswerTrusted (crates : Crates) (_ : Env) (_ : Nat) : Op → Choice → Prop
  | .fetch req, .fetched answer =>
    req.url ≠ (people_me_request "").url → device_manager.Answered crates.device NamesService req answer
  | _, _ => True

theorem confinement_sound :
    Pool.Sound (confinement crates) (fun _ => True) ContentsTrusted (AnswerTrusted crates) (perform crates) := by
  intro tid op choice env r env' spawned views g hview _ hallowed hcond hperform
  cases perform_performed hperform with
  | acquire cell hfree => exact ⟨(), [], hview cell, hview, .nil⟩
  | release cell content =>
    refine ⟨(), [], trivial, fun other => ?_, .nil⟩
    by_cases hother : other = cell
    · subst hother
      simpa [Env.store, Env.set_owner] using hallowed.2
    · simpa [Env.store, Env.set_owner, hother] using hview other
  | fetch req answer => exact ⟨(), [], hcond, hview, .nil⟩
  | start_event_loop hnone =>
    refine ⟨(), [()], trivial, hview, .cons ?_ .nil⟩
    exact Task.obeys_loop rfl (fun _ _ => task_confined confines_event_loop) trivial
  | spawn_activity activity =>
    exact ⟨(), [()], trivial, hview, .cons (task_confined (confines_activity_task activity)) .nil⟩
  | kms mailbox op choice r mailboxes hkms => exact ⟨(), [], trivial, hview, .nil⟩
  | _ => exact ⟨(), [], trivial, hview, .nil⟩

/-- Every task confines the token from here on, and every mutex guards trusted
    content. -/
def SystemTrusted (crates : Crates) (s : System) : Prop :=
  ∃ views, s.Obeyed (confinement crates) (fun _ => True) ContentsTrusted views

theorem call_program_confined (hempty : ∀ url, crates.socket.parse_url "" ≠ .ok url) (ignore_self_messages : Bool)
    (call : Call) : (call_program crates ignore_self_messages call).Obeys (confinement crates) (fun _ _ => True) () := by
  cases call with
  | connect => exact task_confined (confines_connect hempty ignore_self_messages)
  | disconnect => exact task_confined confines_disconnect
  | reconnect new_token => exact task_confined (confines_reconnect hempty ignore_self_messages new_token)
  | status => exact task_confined confines_status

theorem answered_of_trusted {req : FetchRequest} {answer : Except String FetchResponse}
    (htrusted : trusted_answer crates.device req answer = true)
    (hnames : names_encryption_service crates.device req answer = true) :
    device_manager.Answered crates.device NamesService req answer := by
  refine ⟨htrusted, ?_⟩
  rintro response rfl hok hmethod reg hreg
  simpa [names_encryption_service, hok, hmethod, hreg, NamesService] using hnames

theorem answer_trusted_of_step {s : System} {tid : Nat} {choice : Choice}
    (htrusted : trusted_step crates s (.perform tid choice) = true) {op : Op} (hhead : s.head tid = some op) :
    AnswerTrusted crates s.env tid op choice := by
  unfold AnswerTrusted
  split
  · rename_i req answer
    intro hurl
    simp only [trusted_step, hhead, Bool.or_eq_true, beq_iff_eq, hurl, false_or, Bool.and_eq_true] at htrusted
    exact answered_of_trusted htrusted.1 htrusted.2
  · trivial

theorem SystemTrusted.step (hempty : ∀ url, crates.socket.parse_url "" ≠ .ok url) {ignore_self_messages : Bool}
    {s next : System} {label : Label} (htrusted : SystemTrusted crates s)
    (hcond : trusted_step crates s label = true) (hstep : s.step crates ignore_self_messages label = some next) :
    SystemTrusted crates next := by
  obtain ⟨views, hobeyed⟩ := htrusted
  cases label with
  | call call =>
    simp only [System.step, Option.ite_none_right_eq_some, Option.some.injEq] at hstep
    obtain ⟨-, rfl⟩ := hstep
    refine ⟨views.set 0 (), hobeyed.view, Pool.forall₂_set hobeyed.tasks ?_ 0⟩
    exact call_program_confined hempty ignore_self_messages call
  | receive =>
    simp only [System.step] at hstep
    split at hstep
    · simp at hstep
    · simp only [Option.ite_none_right_eq_some, Option.some.injEq] at hstep
      obtain ⟨-, rfl⟩ := hstep
      exact ⟨views, hobeyed.view, hobeyed.tasks⟩
  | perform tid choice =>
    exact hobeyed.advance confinement_sound (fun op hhead => answer_trusted_of_step hcond hhead) hstep
  | wait millis =>
    obtain rfl := Option.some.inj hstep
    exact ⟨views, hobeyed.view, hobeyed.tasks⟩

theorem initial_content_trusted (token : String) (cell : Cell) : Trusted cell (initial_content token cell) := by
  cases cell with
  | device_manager => exact ⟨nofun, nofun⟩
  | kms_client => exact nofun
  | _ => trivial

theorem system_confined (hempty : ∀ url, crates.socket.parse_url "" ≠ .ok url) {token : String}
    {ignore_self_messages : Bool} {capacity : Nat} {s : System}
    (hreach : (system crates token ignore_self_messages capacity).Reachable
      (fun s label => trusted_step crates s label = true) s)
    {tid : Nat} {op : Op} (hhead : s.head tid = some op) : TokenConfined op := by
  have htrusted : SystemTrusted crates s := by
    refine hreach.invariant ?_ ?_
    · exact ⟨[()], initial_content_trusted token, .cons trivial .nil⟩
    · exact fun s label next _ htrusted hcond hstep => htrusted.step hempty hcond hstep
  obtain ⟨views, hobeyed⟩ := htrusted
  obtain ⟨_, -, hallowed⟩ := hobeyed.allowed hhead
  exact hallowed.1

/-- The token is confined in every run of a `DeviceManager`, of a `KmsClient` that was
    given an accepted URL, and of the whole handler, as long as the answers to device
    requests are trusted. That `Url::parse` rejects the empty text is assumed. -/
theorem token_confined_of_trusted_answers (crates : Crates) (hempty : ∀ url, crates.socket.parse_url "" ≠ .ok url) :
    (∀ s, (device_manager.session crates.device).Reachable
        (fun s label => device_manager.trusted_step crates.device s label = true) s →
      ∀ req, s.head = some req → Accepted "https" req.url) ∧
    (∀ kms s, TrustedClient kms → (kms_client.session crates.kms kms).Reachable Machine.Always s →
      ∀ req, s.head = some (.fetch req) → Accepted "https" req.url) ∧
    (∀ token ignore_self_messages capacity s,
      (system crates token ignore_self_messages capacity).Reachable
        (fun s label => trusted_step crates s label = true) s →
      ∀ tid op, s.head tid = some op → TokenConfined op) := by
  refine ⟨?_, ?_, ?_⟩
  · intro s hreach req hhead
    exact device_manager.session_confined hreach hhead
  · intro kms s htrusted hreach req hhead
    exact kms_client.session_confined htrusted hreach hhead
  · intro token ignore_self_messages capacity s hreach tid op hhead
    exact system_confined hempty hreach hhead

section hosts

open domain_name (Listed)
open url_syntax (Scheme)
open url_validation (ReadAsHost WEBEX_DOMAINS)

/-- The URL that an operation takes the token to, with its scheme. -/
def token_url : Op → Option (Scheme × String)
  | .fetch req | .kms _ (.fetch req) => if req.carries_bearer then some (⟨"https", by decide⟩, req.url) else none
  | .open_socket base_url _ _ => some (⟨"wss", by decide⟩, base_url)
  | _ => none

theorem host_people_me (special : Bool) :
    url_syntax.host special (people_me_request "").url.toList = some "webexapis.com".toList := by
  cases special <;> decide

/-- A token that is confined reaches the host of `/people/me` or of a Webex domain. -/
theorem TokenConfined.host {op : Op} (hconfined : TokenConfined op) {scheme : Scheme} {url : String}
    (htarget : token_url op = some (scheme, url)) {special : Bool} (hread : ReadAsHost special scheme url)
    {host : List Char} (hhost : url_syntax.host special url.toList = some host) :
    host = "webexapis.com".toList ∨ Listed WEBEX_DOMAINS (to_lowercase host) := by
  have hrequest : ∀ req : FetchRequest,
      (req.carries_bearer = true → req.url = (people_me_request "").url ∨ Accepted "https" req.url) →
      (if req.carries_bearer then some ((⟨"https", by decide⟩ : Scheme), req.url) else none) = some (scheme, url) →
      url = (people_me_request "").url ∨ Accepted scheme.name url := by
    intro req hconfined htarget
    rw [Option.ite_none_right_eq_some, Option.some.injEq, Prod.mk.injEq] at htarget
    obtain ⟨hbearer, rfl, rfl⟩ := htarget
    exact hconfined hbearer
  have haccepted : url = (people_me_request "").url ∨ Accepted scheme.name url := by
    unfold token_url at htarget
    split at htarget
    · exact hrequest _ hconfined htarget
    · exact hrequest _ hconfined htarget
    · cases htarget
      exact .inr hconfined
    · cases htarget
  obtain rfl | haccepted := haccepted
  · rw [host_people_me, Option.some.injEq] at hhost
    exact .inl hhost.symm
  · exact .inr (hread.sound haccepted host hhost)

/-- In every run of the handler with trusted answers, the token goes to the host of
    `/people/me` or of a Webex domain, wherever the validation reads the host of the URL. -/
theorem token_hosts_of_trusted_answers (hempty : ∀ url, crates.socket.parse_url "" ≠ .ok url) {token : String}
    {ignore_self_messages : Bool} {capacity : Nat} {s : System}
    (hreach : (system crates token ignore_self_messages capacity).Reachable
      (fun s label => trusted_step crates s label = true) s)
    {tid : Nat} {op : Op} (hhead : s.head tid = some op) {scheme : Scheme} {url : String}
    (htarget : token_url op = some (scheme, url)) {special : Bool} (hread : ReadAsHost special scheme url)
    {host : List Char} (hhost : url_syntax.host special url.toList = some host) :
    host = "webexapis.com".toList ∨ Listed WEBEX_DOMAINS (to_lowercase host) :=
  (system_confined hempty hreach hhead).host htarget hread hhost

end hosts

section sample

open kms_client (ascii ok_response)

def foreign_labels : List Label :=
  connect_labels ++ [.perform 0 (.fetched (.error "connection refused")),
    .perform 0 (.fetched (ok_response 200 (ascii foreign_listing_text)))]

/-- The device request that a task is about to make. -/
def device_request (s : System) (tid : Nat) : Option FetchRequest :=
  match s.head tid with
  | some (.fetch req) => some req
  | _ => none

def kms_request (s : System) (tid : Nat) : Option FetchRequest :=
  match s.head tid with
  | some (.kms _ (.fetch req)) => some req
  | _ => none

theorem sample_parse_url (url : String) : sample_crates.socket.parse_url "" ≠ .ok url := nofun

theorem trusted_connection_confined :
    ∃ s, (system sample_crates "token" false 8).run (system sample_crates "token" false 8).init trusted_labels = some s ∧
      (kms_request s 0).map FetchRequest.url = some "https://encryption-a.wbx2.com/kms/user-1" ∧
      ∀ tid op, s.head tid = some op → TokenConfined op := by
  have hobserve : (((system sample_crates "token" false 8).run (system sample_crates "token" false 8).init
      trusted_labels).map fun s => (kms_request s 0).map FetchRequest.url) =
        some (some "https://encryption-a.wbx2.com/kms/user-1") := by
    decide +kernel
  have hmeets : (system sample_crates "token" false 8).meets (trusted_step sample_crates)
      (system sample_crates "token" false 8).init trusted_labels = true := by
    decide +kernel
  simp only [Option.map_eq_some_iff] at hobserve
  obtain ⟨s, hrun, hrequest⟩ := hobserve
  have hreach := Machine.Reachable.run .init trusted_labels (Machine.Meets.of_meets hmeets) hrun
  refine ⟨s, hrun, by simpa using hrequest, ?_⟩
  exact (token_confined_of_trusted_answers sample_crates sample_parse_url).2.2 "token" false 8 s hreach

/-- A device in a listing that looks like one of this client's makes the handler send
    the token to the URL it gives. -/
theorem listed_device_takes_token :
    ∃ s req, (system sample_crates "token" false 8).Reachable Machine.Always s ∧ s.head 0 = some (.fetch req) ∧
      req.carries_bearer = true ∧ req.url = "https://evil.example/steal" ∧ ¬ TokenConfined (.fetch req) := by
  have hobserve : (((system sample_crates "token" false 8).run (system sample_crates "token" false 8).init
      foreign_labels).map fun s => (device_request s 0).map fun req => (req.url, req.carries_bearer)) =
        some (some ("https://evil.example/steal", true)) := by
    decide
  simp only [Option.map_eq_some_iff, Prod.mk.injEq] at hobserve
  obtain ⟨s, hrun, req, hrequest, hurl, hbearer⟩ := hobserve
  have hhead : s.head 0 = some (.fetch req) := by
    unfold device_request at hrequest
    split at hrequest
    · rename_i other hother
      rw [hother, Option.some.inj hrequest]
    · simp at hrequest
  refine ⟨s, req, Machine.reachable_of_run hrun, hhead, hbearer, hurl, ?_⟩
  intro hconfined
  have hforeign : ¬ ("https://evil.example/steal" = (people_me_request "").url ∨
      Accepted "https" "https://evil.example/steal") := by decide
  exact hforeign (hurl ▸ hconfined hbearer)

end sample

end webex.rust.handler
