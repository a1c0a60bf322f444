import WebexHandler.Rust.Handler.Steps

open interaction json transition

namespace webex.rust.handler

open kms_client (KmsClient)

/-- The order in which the mutexes nest. The last ones are leaves: nothing waits while
    it holds one. -/
def Cell.rank : Cell → Nat
  | .connecting | .kms_client => 0
  | .registration => 1
  | .device_manager => 2
  | _ => 4

/-- A wait for a KMS response comes after the mutexes held around it, and before those
    the event loop takes to deliver the response. -/
def response_rank : Nat := 3

/-- What is known of the event loop in a task: nothing, that it has been started, or
    that the task is the event loop. -/
inductive Role
  | caller
  | pumped
  | pump
  deriving DecidableEq

structure LockView where
  held : List Cell := []
  role : Role := .caller

/-- Mutexes are taken in their order and released in the reverse one, and the event
    loop takes one leaf at a time and waits for nothing else while it holds it. -/
def lock_order : Monitor Op Res LockView where
  allowed g op := match op with
    | .acquire cell => (∀ h ∈ g.held, h.rank < cell.rank) ∧ (g.role = .pump → response_rank < cell.rank)
    | .release cell _ => cell ∈ g.held
    | .kms _ (.wait_response _ _) => g.role = .pumped ∧ ∀ h ∈ g.held, h.rank < response_rank
    | .send _ => g.role = .pump → g.held = []
    | .spawn_activity _ => g.role = .pump
    | _ => True
  moves g op r g' := match op, r with
    | .acquire cell, _ => g' = { g with held := cell :: g.held }
    | .release cell _, _ => g' = { g with held := g.held.erase cell }
    | .start_event_loop, _ => g' = { g with role := if g.role = .caller then .pumped else g.role }
    | .next_event, event => g' = g ∧ event ≠ some .connected
    | _, _ => g' = g

/-- A function that starts with the mutexes `held` and a role in `role`, and returns
    with `held'` and `role'`. When it fails it holds nothing, in a role in `failed`. -/
def Locks {α : Type} (failed : Role → Prop) (held : List Cell) (role : Role → Prop) (held' : List Cell)
    (role' : Role → Prop) (m : Handler α) : Prop :=
  ∀ g, g.held = held → role g.role → m.Obeys lock_order () g fun r _ g' =>
    match r with
    | .ok _ => g'.held = held' ∧ role' g'.role
    | .error _ => g'.held = [] ∧ failed g'.role

section rules

variable {α β : Type} {failed role role' role'' : Role → Prop} {held held' held'' : List Cell}

theorem locks_pure (value : α) : Locks failed held role held role (pure value) :=
  fun _ hheld hrole => ⟨hheld, hrole⟩

theorem locks_bind {m : Handler α} {f : α → Handler β} (hm : Locks failed held role held' role' m)
    (hf : ∀ value, Locks failed held' role' held'' role'' (f value)) :
    Locks failed held role held'' role'' (m >>= f) := by
  intro g hheld hrole
  refine (hm g hheld hrole).bind ?_ ?_
  · intro value _ g' hmid
    exact hf value g' hmid.1 hmid.2
  · exact fun _ _ _ hmid => hmid

theorem locks_ofExcept (hfailed : ∀ r, role r → failed r) (value : Except WebexError α) :
    Locks failed [] role [] role (Method.ofExcept value) := by
  intro g hheld hrole
  cases value with
  | ok value => exact ⟨hheld, hrole⟩
  | error e => exact ⟨hheld, hfailed _ hrole⟩

theorem locks_reject (hfailed : ∀ r, role r → failed r) (rejected : Bool) (e : WebexError) :
    Locks failed [] role [] role (Method.reject rejected e) :=
  locks_ofExcept hfailed _

theorem locks_attempt {m : Handler α} (hm : Locks failed held role [] role' m) (himp : ∀ r, role' r → failed r) :
    Locks failed held role [] failed m.attempt := by
  intro g hheld hrole
  rw [Method.obeys_attempt]
  refine (hm g hheld hrole).mono fun r _ g' hpost => ?_
  cases r with
  | ok value => exact ⟨hpost.1, himp _ hpost.2⟩
  | error e => exact hpost

theorem locks_when {condition : Bool} {m : Handler Unit} (hm : Locks failed held role held role m) :
    Locks failed held role held role (m.when condition) := by
  cases condition with
  | true => exact hm
  | false => exact locks_pure ()

theorem Locks.mono {m : Handler α} (hm : Locks failed held role held' role' m)
    (himp : ∀ r, role' r → role'' r) : Locks failed held role held' role'' m := by
  intro g hheld hrole
  refine (hm g hheld hrole).mono fun r _ g' hpost => ?_
  cases r with
  | ok value => exact ⟨hpost.1, himp _ hpost.2⟩
  | error e => exact hpost

theorem locks_acquire (held : List Cell) (cell : Cell) (horder : ∀ h ∈ held, h.rank < cell.rank)
    (hpump : role .pump → response_rank < cell.rank) :
    Locks failed held role (cell :: held) role (acquire cell) := by
  intro g hheld hrole
  refine ⟨⟨hheld ▸ horder, fun heq => hpump (heq ▸ hrole)⟩, ?_⟩
  rintro content _ rfl
  exact ⟨congrArg _ hheld, hrole⟩

theorem locks_release (cell : Cell) (content : Content cell) :
    Locks failed (cell :: held) role held role (release cell content) := by
  intro g hheld hrole
  refine ⟨?_, ?_⟩
  · show cell ∈ g.held
    simp [hheld]
  · rintro _ _ rfl
    refine ⟨?_, hrole⟩
    show g.held.erase cell = held
    rw [hheld, List.erase_cons_head]

theorem locks_request (op : Op) (hallowed : ∀ g, g.held = held → role g.role → lock_order.allowed g op)
    (hmoves : ∀ g r g', lock_order.moves g op r g' → g' = g) :
    Locks failed held role held role (Method.request op : Handler (Res op)) := by
  intro g hheld hrole
  refine ⟨hallowed g hheld hrole, fun r g' hmove => ?_⟩
  obtain rfl := hmoves g r g' hmove
  exact ⟨hheld, hrole⟩

theorem locks_call_device (m : device_manager.Dm α) (dm : device_manager.DeviceManager) :
    Locks failed held role held role (call_device m dm) := by
  intro g hheld hrole
  refine Method.obeys_call.mpr ?_
  have hinert : (m dm).Obeys (lock_order.restrict Op.fetch fun _ r => r) (fun _ g' => g' = g) g := by
    apply Program.obeys_of_inert
    · exact fun _ => trivial
    · rintro op r g' ⟨_, -, hmove⟩
      exact hmove
  refine Program.Obeys.mono ?_ hinert
  rintro _ _ rfl
  exact ⟨hheld, hrole⟩

/-- The KMS client may wait for responses only while the event loop runs. -/
theorem locks_call_kms (held : List Cell) (mailbox : Nat) (m : kms_client.Kms α) (kms : KmsClient)
    (horder : ∀ h ∈ held, h.rank < response_rank) (hpumped : ∀ r, role r → r = .pumped) :
    Locks failed held role held role (call_kms mailbox m kms) := by
  intro g hheld hrole
  refine Method.obeys_call.mpr ?_
  have hinert : (m kms).Obeys (lock_order.restrict (Op.kms mailbox) fun _ r => r) (fun _ g' => g' = g) g := by
    apply Program.obeys_of_inert
    · intro op
      cases op with
      | wait_response rx millis => exact ⟨hpumped _ hrole, hheld ▸ horder⟩
      | _ => trivial
    · rintro op r g' ⟨_, -, hmove⟩
      exact hmove
  refine Program.Obeys.mono ?_ hinert
  rintro _ _ rfl
  exact ⟨hheld, hrole⟩

theorem locks_read_cell (held : List Cell) (cell : Cell) (horder : ∀ h ∈ held, h.rank < cell.rank)
    (hpump : role .pump → response_rank < cell.rank) : Locks failed held role held role (read_cell cell) := by
  apply locks_bind (locks_acquire held cell horder hpump)
  intro content
  apply locks_bind (locks_release cell content)
  intro _
  exact locks_pure content

theorem locks_write_cell (held : List Cell) (cell : Cell) (content : Content cell) (horder : ∀ h ∈ held, h.rank < cell.rank)
    (hpump : role .pump → response_rank < cell.rank) :
    Locks failed held role held role (write_cell cell content) := by
  apply locks_bind (locks_acquire held cell horder hpump)
  intro _
  exact locks_release cell content

end rules

section tasks

variable {crates : Crates}

/-- A task that is not the event loop. -/
def Role.calls (r : Role) : Prop := r ≠ .pump

theorem calls_of_pumped (r : Role) (hpumped : r = .pumped) : r.calls := hpumped ▸ nofun

theorem not_calls_pump {p : Prop} (hcalls : Role.calls .pump) : p := absurd rfl hcalls

theorem locks_fetch_bot_person_id : Locks Role.calls [] Role.calls [] Role.calls (fetch_bot_person_id crates) := by
  unfold fetch_bot_person_id
  apply locks_bind (locks_read_cell [] .token nofun not_calls_pump)
  intro token
  apply locks_bind (locks_request (.fetch (people_me_request token)) (fun _ _ _ => trivial) fun _ _ _ hmove => hmove)
  intro response
  apply locks_bind (locks_ofExcept (fun _ hcalls => hcalls) _)
  intro uuid
  exact locks_write_cell [] .bot_person_id _ nofun not_calls_pump

theorem locks_register_device (token : String) :
    Locks Role.calls [] Role.calls [] Role.calls (register_device crates token) := by
  unfold register_device
  apply locks_bind (locks_acquire [] .device_manager nofun not_calls_pump)
  intro dm
  apply locks_bind (locks_call_device _ dm)
  rintro ⟨reg, dm⟩
  apply locks_bind (locks_release .device_manager dm)
  intro _
  exact locks_ofExcept (fun _ hcalls => hcalls) _

theorem locks_initialize_kms {failed : Role → Prop} :
    Locks failed [] (· = .pumped) [] (· = .pumped) (initialize_kms crates) := by
  unfold initialize_kms
  apply locks_bind (locks_acquire [] .kms_client nofun nofun)
  intro client
  cases client with
  | none =>
    apply locks_bind (locks_release .kms_client _)
    intro _
    exact locks_pure _
  | some client =>
    obtain ⟨mailbox, kms⟩ := client
    apply locks_bind (locks_call_kms [.kms_client] mailbox _ kms (by decide) fun _ hpumped => hpumped)
    rintro ⟨result, kms⟩
    apply locks_bind (locks_release .kms_client _)
    intro _
    exact locks_pure _

theorem locks_mercury_connect (ws_url token : String) :
    Locks Role.calls [] Role.calls [] Role.calls (mercury_connect crates ws_url token) := by
  unfold mercury_connect
  apply locks_bind (locks_request .now (fun _ _ _ => trivial) fun _ _ _ hmove => hmove)
  intro timestamp
  apply locks_bind (locks_ofExcept (fun _ hcalls => hcalls) _)
  intro prepared_url
  apply locks_bind (locks_request (.open_socket ws_url prepared_url token) (fun _ _ _ => trivial)
    fun _ _ _ hmove => hmove)
  intro opened
  exact locks_ofExcept (fun _ hcalls => hcalls) _

/-- After it, the event loop is known to run. -/
theorem locks_start_event_loop {failed : Role → Prop} :
    Locks failed [] Role.calls [] (· = .pumped) start_event_loop := by
  intro g hheld hcalls
  refine ⟨trivial, ?_⟩
  rintro _ _ rfl
  refine ⟨hheld, ?_⟩
  show (if g.role = .caller then Role.pumped else g.role) = .pumped
  cases hrole : g.role with
  | caller => rfl
  | pumped => rfl
  | pump => exact absurd hrole hcalls

theorem locks_connect_internal (ignore_self_messages : Bool) :
    Locks Role.calls [] Role.calls [] Role.calls (connect_internal crates ignore_self_messages) := by
  unfold connect_internal
  apply locks_bind (locks_read_cell [] .token nofun not_calls_pump)
  intro token
  apply locks_bind (locks_register_device token)
  intro reg
  apply locks_bind (locks_when locks_fetch_bot_person_id)
  intro _
  apply locks_bind (locks_request .new_mailbox (fun _ _ _ => trivial) fun _ _ _ hmove => hmove)
  intro mailbox
  apply locks_bind (locks_write_cell [] .kms_response_handler _ nofun not_calls_pump)
  intro _
  apply locks_bind (locks_write_cell [] .kms_client _ nofun not_calls_pump)
  intro _
  apply locks_bind (locks_mercury_connect _ token)
  intro _
  apply locks_bind locks_start_event_loop
  intro _
  apply locks_bind locks_initialize_kms
  intro initialized
  apply locks_bind (locks_ofExcept calls_of_pumped _)
  intro _
  exact (locks_write_cell [] .registration _ nofun nofun).mono calls_of_pumped

theorem locks_connect (ignore_self_messages : Bool) :
    Locks Role.calls [] Role.calls [] Role.calls (connect crates ignore_self_messages) := by
  unfold connect
  apply locks_bind (locks_acquire [] .connecting nofun not_calls_pump)
  intro connecting
  apply locks_bind (locks_acquire [.connecting] .connected (by decide) not_calls_pump)
  intro connected
  apply locks_bind (locks_release .connected _)
  intro _
  apply locks_bind (locks_release .connecting _)
  intro _
  apply locks_bind (locks_reject (fun _ hcalls => hcalls) _ _)
  intro _
  apply locks_bind (locks_reject (fun _ hcalls => hcalls) _ _)
  intro _
  apply locks_bind (locks_write_cell [] .connecting _ nofun not_calls_pump)
  intro _
  apply locks_bind (locks_attempt (locks_connect_internal ignore_self_messages) fun _ hcalls => hcalls)
  intro result
  apply locks_bind (locks_write_cell [] .connecting _ nofun not_calls_pump)
  intro _
  apply locks_bind (locks_ofExcept (fun _ hcalls => hcalls) _)
  intro _
  apply locks_bind (locks_write_cell [] .connected _ nofun not_calls_pump)
  intro _
  exact locks_request (.try_send .connected) (fun _ _ _ => trivial) fun _ _ _ hmove => hmove

theorem locks_disconnect : Locks Role.calls [] Role.calls [] Role.calls disconnect := by
  have hunregister : ∀ token, Locks Role.calls [] Role.calls [] Role.calls (unregister_device token) := by
    intro token
    apply locks_bind (locks_acquire [] .registration nofun not_calls_pump)
    intro reg
    apply locks_bind (locks_when _)
    · intro _
      exact locks_release .registration _
    · apply locks_bind (locks_acquire [.registration] .device_manager (by decide) not_calls_pump)
      intro dm
      apply locks_bind (locks_call_device _ dm)
      rintro ⟨_, dm⟩
      exact locks_release .device_manager dm
  unfold disconnect
  apply locks_bind (locks_write_cell [] .connected _ nofun not_calls_pump)
  intro _
  apply locks_bind (locks_request .mercury_disconnect (fun _ _ _ => trivial) fun _ _ _ hmove => hmove)
  intro _
  apply locks_bind (locks_read_cell [] .token nofun not_calls_pump)
  intro token
  apply locks_bind (hunregister token)
  intro _
  apply locks_bind (locks_write_cell [] .registration _ nofun not_calls_pump)
  intro _
  apply locks_bind (locks_write_cell [] .kms_client _ nofun not_calls_pump)
  intro _
  apply locks_bind (locks_write_cell [] .kms_response_handler _ nofun not_calls_pump)
  intro _
  exact locks_write_cell [] .bot_person_id _ nofun not_calls_pump

theorem locks_reconnect (ignore_self_messages : Bool) (new_token : String) :
    Locks Role.calls [] Role.calls [] Role.calls (reconnect crates ignore_self_messages new_token) := by
  unfold reconnect
  apply locks_bind (locks_reject (fun _ hcalls => hcalls) _ _)
  intro _
  apply locks_bind locks_disconnect
  intro _
  apply locks_bind (locks_write_cell [] .token _ nofun not_calls_pump)
  intro _
  exact locks_connect ignore_self_messages

theorem locks_status : Locks Role.calls [] Role.calls [] Role.calls status := by
  unfold status
  apply locks_bind (locks_request .mercury_attempts (fun _ _ _ => trivial) fun _ _ _ hmove => hmove)
  intro reconnect_attempt
  apply locks_bind (locks_request .mercury_connected (fun _ _ _ => trivial) fun _ _ _ hmove => hmove)
  intro ws_open
  apply locks_bind (locks_read_cell [] .connected nofun not_calls_pump)
  intro is_connected
  apply locks_bind (locks_read_cell [] .connecting nofun not_calls_pump)
  intro is_connecting
  apply locks_bind (locks_acquire [] .kms_client nofun not_calls_pump)
  intro kms
  apply locks_bind (locks_acquire [.kms_client] .registration (by decide) not_calls_pump)
  intro reg
  apply locks_bind (locks_release .registration _)
  intro _
  apply locks_bind (locks_release .kms_client _)
  intro _
  exact locks_pure _

theorem locks_handle_activity_static (mailbox : Nat) (kms : KmsClient) (activity : MercuryActivity)
    (bot_person_id : Option String) :
    Locks Role.calls [.kms_client] (· = .pumped) [.kms_client] (· = .pumped)
      (handle_activity_static crates mailbox kms activity bot_person_id) := by
  have hsend : ∀ (event : HandlerEvent) (kms : KmsClient),
      Locks Role.calls [.kms_client] (· = .pumped) [.kms_client] (· = .pumped)
        (send event >>= fun _ => (pure kms : Handler KmsClient)) := by
    intro event kms
    refine locks_bind (locks_request (.send event) ?_ fun _ _ _ hmove => hmove) fun _ => locks_pure kms
    intro g _ hpumped hpump
    exact nomatch hpumped.symm.trans hpump
  have hdecrypt : Locks Role.calls [.kms_client] (· = .pumped) [.kms_client] (· = .pumped)
      (call_kms mailbox (message_decryptor.decrypt_activity crates activity) kms) :=
    locks_call_kms [.kms_client] mailbox _ kms (by decide) fun _ hpumped => hpumped
  unfold handle_activity_static
  split
  · apply locks_bind hdecrypt
    rintro ⟨decrypted, kms⟩
    cases hevent : message_event crates activity.verb bot_person_id decrypted with
    | none =>
      simp only [hevent, send_event]
      exact locks_pure kms
    | some event =>
      simp only [hevent, send_event]
      exact hsend event kms
  · split
    · exact hsend _ kms
    · split
      · exact hsend _ kms
      · split
        · apply locks_bind hdecrypt
          rintro ⟨decrypted, kms⟩
          exact hsend _ kms
        · split
          · exact hsend _ kms
          · exact locks_pure kms

theorem locks_activity_task (activity : MercuryActivity) :
    Locks Role.calls [] (· = .pumped) [] (· = .pumped) (activity_task crates activity) := by
  unfold activity_task
  apply locks_bind (locks_acquire [] .kms_client nofun nofun)
  intro client
  cases client with
  | none => exact locks_release .kms_client _
  | some client =>
    obtain ⟨mailbox, kms⟩ := client
    apply locks_bind (locks_read_cell [.kms_client] .bot_person_id (by decide) nofun)
    intro bot_id
    apply locks_bind (locks_handle_activity_static mailbox kms activity bot_id)
    intro kms
    exact locks_release .kms_client _

/-- An event takes one leaf at most. The arm for `Connected` would nest the mutexes the
    other way round. -/
theorem locks_handle_mercury_event {event : Option MercuryEvent} (hne : event ≠ some .connected) :
    Locks (fun _ => False) [] (· = .pump) [] (· = .pump) (handle_mercury_event crates event) := by
  have hleaf : response_rank < 4 := by decide
  have hsend : ∀ event : HandlerEvent, Locks (fun _ => False) [] (· = .pump) [] (· = .pump) (send event) :=
    fun event => locks_request (.send event) (fun _ hheld _ _ => hheld) fun _ _ _ hmove => hmove
  unfold handle_mercury_event
  split
  · apply locks_bind (locks_acquire [] .recent_activity_ids nofun fun _ => hleaf)
    intro ids
    apply locks_bind (locks_request .now (fun _ _ _ => trivial) fun _ _ _ hmove => hmove)
    intro instant
    exact locks_release .recent_activity_ids _
  · rename_i data
    apply locks_bind (locks_acquire [] .kms_response_handler nofun fun _ => hleaf)
    intro handler
    have hforward : Locks (fun _ => False) [.kms_response_handler] (· = .pump) [.kms_response_handler] (· = .pump)
        (forward_kms_response data handler) := by
      cases handler with
      | none => exact locks_pure ()
      | some mailbox =>
        exact locks_request (.handle_kms_message mailbox data) (fun _ _ _ => trivial) fun _ _ _ hmove => hmove
    apply locks_bind hforward
    intro _
    exact locks_release .kms_response_handler handler
  · rename_i activity
    exact locks_request (.spawn_activity activity) (fun _ _ hpump => hpump) fun _ _ _ hmove => hmove
  · exact absurd rfl hne
  · apply locks_bind (locks_write_cell [] .connected false nofun fun _ => hleaf)
    intro _
    exact hsend _
  · exact hsend _
  · exact hsend _

theorem locks_event_loop : Locks (fun _ => False) [] (· = .pump) [] (· = .pump) (event_loop crates) := by
  intro g hheld hpump
  unfold event_loop
  rw [Method.obeys_bind]
  refine ⟨trivial, ?_⟩
  rintro event g' ⟨hsame, hne⟩
  rw [← hsame] at hheld hpump
  exact locks_handle_mercury_event hne g' hheld hpump

end tasks

end webex.rust.handler
