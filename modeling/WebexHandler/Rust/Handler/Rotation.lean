import WebexHandler.Rust.DeviceManager.Credentials
import WebexHandler.Rust.Handler.Steps
import WebexHandler.Rust.KmsClient.Credentials

open interaction json transition

namespace webex.rust.handler

open device_manager (DeviceManager DeviceRegistration)
open kms_client (KmsClient)

/-- An HTTP request, a KMS request body or an authorization frame carries this token
    and no other. -/
def Carries (crates : Crates) (token : String) : Op → Prop
  | .fetch req => device_manager.Carries crates.device token req
  | .kms _ (.fetch req) => kms_client.Carries crates.kms token req
  | .open_socket _ _ sent => sent = token
  | _ => True

/-- What a task knows of the token: whether it is the consumer's, which alone reads and
    writes it, the token it last saw, the client behind its guard, and that it has
    cleared the client. -/
structure TokenView where
  consumer : Bool := false
  known : Option String := none
  guard : Option (Option String) := none
  cleared : Bool := false

/-- The view of a new task. -/
def TokenView.fresh : TokenView := {}

/-- Tokens are sent only as the mutexes hold them, and replaced only after the client
    that holds a copy has been cleared. -/
def rotation (crates : Crates) : Monitor Op Res TokenView where
  allowed g op := match op with
    | .acquire .token => g.consumer = true
    | .release .token token => g.consumer = true ∧ (g.known = some token ∨ g.cleared = true)
    | .release .kms_client client => g.guard.isSome ∧ ∀ mailbox kms, client = some (mailbox, kms) →
        g.guard = some (some kms.token) ∨ g.known = some kms.token
    | .fetch req => ∃ token, g.known = some token ∧ device_manager.Carries crates.device token req
    | .kms _ (.fetch req) => ∃ token, g.guard = some (some token) ∧ kms_client.Carries crates.kms token req
    | .open_socket _ _ token => g.known = some token
    | _ => True
  moves g op r g' := match op, r with
    | .acquire .token, token => g' = { g with known := some token } ∧ ∀ old, g.known = some old → old = token
    | .release .token token, _ => g' = { g with known := some token }
    | .acquire .kms_client, client => g' = { g with guard := some (Option.map (fun c => c.2.token) client) }
    | .release .kms_client client, _ => g' = { g with
        guard := none
        cleared := g.consumer && Option.isNone client }
    | .next_event, event => g' = g ∧ event ≠ some .connected
    | _, _ => g' = g

/-- A function called in a view that meets `pre`. When it fails it holds no guard on the
    KMS client. -/
def Rotates {α : Type} (crates : Crates) (pre : TokenView → Prop) (m : Handler α) (post : α → TokenView → Prop) : Prop :=
  ∀ g, pre g → m.Obeys (rotation crates) () g fun r _ g' =>
    match r with
    | .ok value => post value g'
    | .error _ => g'.guard = none

/-- The consumer's task, without a guard on the KMS client. -/
def Consumer (g : TokenView) : Prop := g.consumer = true ∧ g.guard = none

/-- The consumer's task has read the token. -/
def Knows (token : String) (g : TokenView) : Prop := Consumer g ∧ g.known = some token

/-- The consumer's task has cleared the KMS client. -/
def Cleared (g : TokenView) : Prop := Consumer g ∧ g.cleared = true

/-- A task without a guard on the KMS client. -/
def Unguarded (g : TokenView) : Prop := g.guard = none

section rules

variable {crates : Crates} {α β : Type} {pre : TokenView → Prop} {mid post : α → TokenView → Prop}

theorem rotates_pure (value : α) : Rotates crates pre (pure value) fun _ => pre := fun _ hpre => hpre

theorem rotates_bind {m : Handler α} {f : α → Handler β} {post : β → TokenView → Prop} (hm : Rotates crates pre m mid)
    (hf : ∀ value, Rotates crates (mid value) (f value) post) : Rotates crates pre (m >>= f) post := by
  intro g hpre
  refine (hm g hpre).bind ?_ ?_
  · intro value _ g' hmid
    exact hf value g' hmid
  · exact fun _ _ _ hguard => hguard

theorem Rotates.pre_mono {m : Handler α} {pre' : TokenView → Prop} (hm : Rotates crates pre m post)
    (himp : ∀ g, pre' g → pre g) : Rotates crates pre' m post :=
  fun g hpre => hm g (himp g hpre)

theorem Rotates.mono {m : Handler α} (hm : Rotates crates pre m mid) (himp : ∀ value g, mid value g → post value g) :
    Rotates crates pre m post := by
  intro g hpre
  refine (hm g hpre).mono fun r _ g' hmid => ?_
  cases r with
  | ok value => exact himp value g' hmid
  | error e => exact hmid

theorem rotates_ofExcept (hguard : ∀ g, pre g → Unguarded g) (value : Except WebexError α) :
    Rotates crates pre (Method.ofExcept value) fun _ => pre := by
  intro g hpre
  cases value with
  | ok value => exact hpre
  | error e => exact hguard g hpre

theorem rotates_reject (hguard : ∀ g, pre g → Unguarded g) (rejected : Bool) (e : WebexError) :
    Rotates crates pre (Method.reject rejected e) fun _ => pre :=
  rotates_ofExcept hguard _

theorem rotates_attempt {m : Handler α} (hm : Rotates crates pre m fun _ => Unguarded) :
    Rotates crates pre m.attempt fun _ => Unguarded := by
  intro g hpre
  rw [Method.obeys_attempt]
  refine (hm g hpre).mono fun r _ g' hpost => ?_
  cases r with
  | ok value => exact hpost
  | error e => exact hpost

theorem rotates_when {condition : Bool} {m : Handler Unit} (hm : Rotates crates pre m fun _ => pre) :
    Rotates crates pre (m.when condition) fun _ => pre := by
  cases condition with
  | true => exact hm
  | false => exact rotates_pure ()

/-- An operation that leaves the view alone. -/
theorem rotates_request (op : Op) (hallowed : ∀ g, pre g → (rotation crates).allowed g op)
    (hmoves : ∀ g r g', (rotation crates).moves g op r g' → g' = g) :
    Rotates crates pre (Method.request op : Handler (Res op)) fun _ => pre := by
  intro g hpre
  refine ⟨hallowed g hpre, fun r g' hmove => ?_⟩
  obtain rfl := hmoves g r g' hmove
  exact hpre

/-- The mutexes that guard neither the token nor a copy of it. -/
def Cell.plain : Cell → Prop
  | .token | .kms_client => False
  | _ => True

theorem plain_ne_token {cell : Cell} (hplain : cell.plain) : Cell.token ≠ cell := by
  rintro rfl
  exact hplain

theorem plain_ne_client {cell : Cell} (hplain : cell.plain) : Cell.kms_client ≠ cell := by
  rintro rfl
  exact hplain

theorem plain_acquire_moves {cell : Cell} (hplain : cell.plain) {g : TokenView} {content : Content cell} :
    (rotation crates).moves g (.acquire cell) content g := by
  cases cell with
  | token => exact hplain.elim
  | kms_client => exact hplain.elim
  | _ => rfl

theorem plain_release_moves {cell : Cell} (hplain : cell.plain) {g : TokenView} {content : Content cell} :
    (rotation crates).moves g (.release cell content) () g := by
  cases cell with
  | token => exact hplain.elim
  | kms_client => exact hplain.elim
  | _ => rfl

theorem rotates_acquire (cell : Cell) (hplain : cell.plain) : Rotates crates pre (acquire cell) fun _ => pre := by
  cases cell with
  | token => exact hplain.elim
  | kms_client => exact hplain.elim
  | _ => exact rotates_request _ (fun _ _ => trivial) fun _ _ _ hmove => hmove

theorem rotates_release (cell : Cell) (hplain : cell.plain) (content : Content cell) :
    Rotates crates pre (release cell content) fun _ => pre := by
  cases cell with
  | token => exact hplain.elim
  | kms_client => exact hplain.elim
  | _ => exact rotates_request _ (fun _ _ => trivial) fun _ _ _ hmove => hmove

theorem rotates_read_cell (cell : Cell) (hplain : cell.plain) : Rotates crates pre (read_cell cell) fun _ => pre := by
  apply rotates_bind (rotates_acquire cell hplain)
  intro content
  apply rotates_bind (rotates_release cell hplain content)
  intro _
  exact rotates_pure content

theorem rotates_write_cell (cell : Cell) (hplain : cell.plain) (content : Content cell) :
    Rotates crates pre (write_cell cell content) fun _ => pre := by
  apply rotates_bind (rotates_acquire cell hplain)
  intro _
  exact rotates_release cell hplain content

theorem rotates_release_token {token : String} :
    Rotates crates (Knows token) (release .token token) fun _ => Knows token := by
  rintro g ⟨hconsumer, hknown⟩
  refine ⟨⟨hconsumer.1, .inl hknown⟩, ?_⟩
  rintro _ _ rfl
  exact ⟨hconsumer, rfl⟩

theorem rotates_read_token : Rotates crates Consumer (read_cell .token) Knows := by
  have hacquire : Rotates crates Consumer (acquire .token) Knows := by
    intro g hconsumer
    refine ⟨hconsumer.1, ?_⟩
    rintro token _ ⟨rfl, -⟩
    exact ⟨hconsumer, rfl⟩
  apply rotates_bind hacquire
  intro token
  apply rotates_bind rotates_release_token
  intro _ g hknows
  exact hknows

/-- A token that the consumer reads again is still the same. -/
theorem rotates_read_known {token : String} :
    Rotates crates (Knows token) (read_cell .token) fun again g => again = token ∧ Knows token g := by
  have hacquire : Rotates crates (Knows token) (acquire .token) fun again g => again = token ∧ Knows again g := by
    rintro g ⟨hconsumer, hknown⟩
    refine ⟨hconsumer.1, ?_⟩
    rintro again _ ⟨rfl, hsame⟩
    exact ⟨(hsame token hknown).symm, hconsumer, rfl⟩
  apply rotates_bind hacquire
  rintro again g ⟨rfl, hknows⟩
  have hrelease : Rotates crates (Knows again) (release .token again >>= fun _ => (pure again : Handler String))
      fun token g => token = again ∧ Knows again g := by
    apply rotates_bind rotates_release_token
    intro _ g hknows
    exact ⟨rfl, hknows⟩
  exact hrelease g hknows

theorem rotates_write_token (token : String) :
    Rotates crates Cleared (write_cell .token token) fun _ => Consumer := by
  have hacquire : Rotates crates Cleared (acquire .token) fun _ => Cleared := by
    rintro g ⟨hconsumer, hcleared⟩
    refine ⟨hconsumer.1, ?_⟩
    rintro old _ ⟨rfl, -⟩
    exact ⟨hconsumer, hcleared⟩
  apply rotates_bind hacquire
  rintro old g ⟨hconsumer, hcleared⟩
  refine ⟨⟨hconsumer.1, .inr hcleared⟩, ?_⟩
  rintro _ _ rfl
  exact hconsumer

/-- The consumer stores a client with the token it knows. -/
theorem rotates_store_client {token : String} {mailbox : Nat} {kms : KmsClient} (htoken : kms.token = token) :
    Rotates crates (Knows token) (write_cell .kms_client (some (mailbox, kms))) fun _ => Knows token := by
  rintro g ⟨hconsumer, hknown⟩
  unfold write_cell
  rw [Method.obeys_bind]
  refine ⟨trivial, ?_⟩
  rintro old _ rfl
  refine ⟨⟨rfl, ?_⟩, ?_⟩
  · rintro _ _ ⟨⟩
    exact .inr (htoken ▸ hknown)
  · rintro _ _ rfl
    exact ⟨⟨hconsumer.1, rfl⟩, hknown⟩

theorem rotates_clear_client : Rotates crates Consumer (write_cell .kms_client none) fun _ => Cleared := by
  intro g hconsumer
  unfold write_cell
  rw [Method.obeys_bind]
  refine ⟨trivial, ?_⟩
  rintro old _ rfl
  refine ⟨⟨rfl, nofun⟩, ?_⟩
  rintro _ _ rfl
  refine ⟨⟨hconsumer.1, rfl⟩, ?_⟩
  show (g.consumer && true) = true
  rw [hconsumer.1, Bool.and_self]

theorem carrier_device {token : String} {g : TokenView} (hknown : g.known = some token) :
    device_manager.Carrier crates.device ((rotation crates).restrict Op.fetch fun _ r => r) token g where
  allowed req hcarries := ⟨token, hknown, hcarries⟩
  stays := by
    rintro req answer g' ⟨_, -, hmove⟩
    exact hmove

theorem rotates_call_device {token : String} {m : device_manager.Dm α}
    (hm : ∀ g, g.known = some token →
      m.Keeps ((rotation crates).restrict Op.fetch fun _ r => r) (device_manager.Carrier.Stays g))
    (dm : DeviceManager) : Rotates crates (Knows token) (call_device m dm) fun _ => Knows token := by
  intro g hknows
  refine Method.obeys_call.mpr ?_
  refine (hm g hknows.2 dm g rfl).mono ?_
  rintro _ _ _ rfl
  exact hknows

theorem carrier_kms {token : String} {g : TokenView} (mailbox : Nat) (hguard : g.guard = some (some token)) :
    kms_client.Carrier crates.kms ((rotation crates).restrict (Op.kms mailbox) fun _ r => r) token g where
  fetch req hcarries := ⟨token, hguard, hcarries⟩
  other := by
    intro op hop
    cases op with
    | fetch req => exact absurd rfl (hop req)
    | _ => trivial
  stays := by
    rintro op r g' ⟨_, -, hmove⟩
    exact hmove

/-- The view of a task with a guard on a client with this token. -/
def Guards (token : String) (g : TokenView) : Prop := g.guard = some (some token)

theorem rotates_call_kms {token : String} {mailbox : Nat} {m : kms_client.Kms α}
    (hm : ∀ g, Guards token g → m.Keeps ((rotation crates).restrict (Op.kms mailbox) fun _ r => r)
      (kms_client.Carrier.Has token g))
    {kms : KmsClient} (htoken : kms.token = token) (hguards : ∀ g, pre g → Guards token g) :
    Rotates crates pre (call_kms mailbox m kms) fun out g => out.2.token = token ∧ pre g := by
  intro g hpre
  refine Method.obeys_call.mpr ?_
  refine (hm g (hguards g hpre) kms g ⟨htoken, rfl⟩).mono ?_
  rintro _ kms' _ ⟨htoken, rfl⟩
  exact ⟨htoken, hpre⟩

end rules

section tasks

variable {crates : Crates}

theorem rotates_fetch_bot_person_id {token : String} :
    Rotates crates (Knows token) (fetch_bot_person_id crates) fun _ => Knows token := by
  unfold fetch_bot_person_id
  apply rotates_bind rotates_read_known
  rintro again g ⟨rfl, hknows⟩
  have hfetch : Rotates crates (Knows again) (fetch (people_me_request again)) fun _ => Knows again :=
    rotates_request _ (fun g hknows => ⟨again, hknows.2, .inr rfl, .inl rfl⟩) fun _ _ _ hmove => hmove
  have hrest : ∀ response, Rotates crates (Knows again)
      (Method.ofExcept (parse_bot_person_id crates response) >>= fun uuid => write_cell .bot_person_id (some uuid))
      fun _ => Knows again := by
    intro response
    apply rotates_bind (rotates_ofExcept (fun _ hknows => hknows.1.2) _)
    intro uuid
    exact rotates_write_cell .bot_person_id trivial _
  exact rotates_bind hfetch hrest g hknows

theorem rotates_register_device {token : String} :
    Rotates crates (Knows token) (register_device crates token) fun _ => Knows token := by
  unfold register_device
  apply rotates_bind (rotates_acquire .device_manager trivial)
  intro dm
  apply rotates_bind (rotates_call_device (fun g hknown => (carrier_device hknown).register) dm)
  rintro ⟨reg, dm⟩
  apply rotates_bind (rotates_release .device_manager trivial dm)
  intro _
  exact rotates_ofExcept (fun _ hknows => hknows.1.2) _

theorem rotates_acquire_client {pre : TokenView → Prop} (hpre : ∀ g guard, pre g → pre { g with guard := guard }) :
    Rotates crates pre (acquire .kms_client) fun client g =>
      pre g ∧ g.guard = some (Option.map (fun c => c.2.token) client) := by
  intro g hg
  refine ⟨trivial, ?_⟩
  rintro client _ rfl
  exact ⟨hpre g _ hg, rfl⟩

/-- A client goes back behind its mutex with the token it had. -/
theorem rotates_release_client {pre : TokenView → Prop}
    (hpre : ∀ g cleared, pre g → pre { g with guard := none, cleared := cleared }) {client : Content .kms_client} :
    Rotates crates (fun g => pre g ∧ g.guard = some (Option.map (fun c => c.2.token) client))
      (release .kms_client client) fun _ g => pre g ∧ Unguarded g := by
  rintro g ⟨hg, hguard⟩
  refine ⟨⟨by rw [hguard]; rfl, ?_⟩, ?_⟩
  · rintro mailbox kms rfl
    exact .inl hguard
  · rintro _ _ rfl
    exact ⟨hpre g _ hg, rfl⟩

theorem rotates_initialize_kms : Rotates crates Consumer (initialize_kms crates) fun _ => Consumer := by
  have hrelease : ∀ (client : Content .kms_client) (result : Except WebexError Unit),
      Rotates crates (fun g => g.consumer = true ∧ g.guard = some (Option.map (fun c => c.2.token) client))
        (release .kms_client client >>= fun _ => (pure result : Handler (Except WebexError Unit))) fun _ => Consumer := by
    intro client result
    apply rotates_bind (rotates_release_client fun _ _ hconsumer => hconsumer)
    intro _
    exact rotates_pure result
  unfold initialize_kms
  apply rotates_bind ((rotates_acquire_client fun _ _ hconsumer => hconsumer).pre_mono fun _ hconsumer => hconsumer.1)
  intro client
  cases client with
  | none => exact hrelease none (.ok ())
  | some client =>
    obtain ⟨mailbox, kms⟩ := client
    apply rotates_bind (rotates_call_kms (fun g hguards => (carrier_kms mailbox hguards).initialize_client) rfl
      fun g hpre => hpre.2)
    rintro ⟨result, kms'⟩ g ⟨htoken, hconsumer, hguard⟩
    refine hrelease (some (mailbox, kms')) result g ⟨hconsumer, ?_⟩
    rw [hguard]
    exact congrArg (fun token => some (some token)) htoken.symm

theorem rotates_mercury_connect {token : String} (ws_url : String) :
    Rotates crates (Knows token) (mercury_connect crates ws_url token) fun _ => Knows token := by
  unfold mercury_connect
  apply rotates_bind (rotates_request .now (fun _ _ => trivial) fun _ _ _ hmove => hmove)
  intro timestamp
  apply rotates_bind (rotates_ofExcept (fun _ hknows => hknows.1.2) _)
  intro prepared_url
  apply rotates_bind (rotates_request (.open_socket ws_url prepared_url token) (fun _ hknows => hknows.2)
    fun _ _ _ hmove => hmove)
  intro opened
  exact rotates_ofExcept (fun _ hknows => hknows.1.2) _

theorem rotates_connect_internal (ignore_self_messages : Bool) :
    Rotates crates Consumer (connect_internal crates ignore_self_messages) fun _ => Consumer := by
  unfold connect_internal
  apply rotates_bind rotates_read_token
  intro token
  apply rotates_bind rotates_register_device
  intro reg
  apply rotates_bind (rotates_when rotates_fetch_bot_person_id)
  intro _
  apply rotates_bind (rotates_request .new_mailbox (fun _ _ => trivial) fun _ _ _ hmove => hmove)
  intro mailbox
  apply rotates_bind (rotates_write_cell .kms_response_handler trivial _)
  intro _
  have hclient : (kms_client.new token reg.device_url reg.user_id reg.encryption_service_url).token = token := rfl
  apply rotates_bind (rotates_store_client hclient)
  intro _
  apply rotates_bind (rotates_mercury_connect _)
  intro _
  apply rotates_bind (rotates_request .start_event_loop (fun _ _ => trivial) fun _ _ _ hmove => hmove)
  intro _
  apply rotates_bind (rotates_initialize_kms.pre_mono fun _ hknows => hknows.1)
  intro initialized
  apply rotates_bind (rotates_ofExcept (fun _ hconsumer => hconsumer.2) _)
  intro _
  exact rotates_write_cell .registration trivial _

theorem rotates_connect (ignore_self_messages : Bool) :
    Rotates crates Consumer (connect crates ignore_self_messages) fun _ => Unguarded := by
  unfold connect
  apply rotates_bind (rotates_acquire .connecting trivial)
  intro connecting
  apply rotates_bind (rotates_acquire .connected trivial)
  intro connected
  apply rotates_bind (rotates_release .connected trivial _)
  intro _
  apply rotates_bind (rotates_release .connecting trivial _)
  intro _
  apply rotates_bind (rotates_reject (fun _ hconsumer => hconsumer.2) _ _)
  intro _
  apply rotates_bind (rotates_reject (fun _ hconsumer => hconsumer.2) _ _)
  intro _
  apply rotates_bind (rotates_write_cell .connecting trivial _)
  intro _
  apply rotates_bind (rotates_attempt ((rotates_connect_internal ignore_self_messages).mono
    fun _ _ hconsumer => hconsumer.2))
  intro result
  apply rotates_bind (rotates_write_cell .connecting trivial _)
  intro _
  apply rotates_bind (rotates_ofExcept (fun _ hguard => hguard) _)
  intro _
  apply rotates_bind (rotates_write_cell .connected trivial _)
  intro _
  exact rotates_request (.try_send .connected) (fun _ _ => trivial) fun _ _ _ hmove => hmove

theorem rotates_unregister_device {token : String} :
    Rotates crates (Knows token) (unregister_device token) fun _ => Knows token := by
  apply rotates_bind (rotates_acquire .registration trivial)
  intro reg
  apply rotates_bind (rotates_when _)
  · intro _
    exact rotates_release .registration trivial _
  · apply rotates_bind (rotates_acquire .device_manager trivial)
    intro dm
    apply rotates_bind (rotates_call_device (fun g hknown => (carrier_device hknown).unregister) dm)
    rintro ⟨_, dm⟩
    exact rotates_release .device_manager trivial dm

theorem rotates_disconnect : Rotates crates Consumer disconnect fun _ => Cleared := by
  unfold disconnect
  apply rotates_bind (rotates_write_cell .connected trivial _)
  intro _
  apply rotates_bind (rotates_request .mercury_disconnect (fun _ _ => trivial) fun _ _ _ hmove => hmove)
  intro _
  apply rotates_bind rotates_read_token
  intro token
  apply rotates_bind rotates_unregister_device
  intro _
  apply rotates_bind (rotates_write_cell .registration trivial _)
  intro _
  apply rotates_bind (rotates_clear_client.pre_mono fun _ hknows => hknows.1)
  intro _
  apply rotates_bind (rotates_write_cell .kms_response_handler trivial _)
  intro _
  exact rotates_write_cell .bot_person_id trivial _

theorem rotates_reconnect (ignore_self_messages : Bool) (new_token : String) :
    Rotates crates Consumer (reconnect crates ignore_self_messages new_token) fun _ => Unguarded := by
  unfold reconnect
  apply rotates_bind (rotates_reject (fun _ hconsumer => hconsumer.2) _ _)
  intro _
  apply rotates_bind rotates_disconnect
  intro _
  apply rotates_bind (rotates_write_token new_token)
  intro _
  exact rotates_connect ignore_self_messages

theorem rotates_status : Rotates crates Consumer status fun _ => Unguarded := by
  unfold status
  apply rotates_bind (rotates_request .mercury_attempts (fun _ _ => trivial) fun _ _ _ hmove => hmove)
  intro reconnect_attempt
  apply rotates_bind (rotates_request .mercury_connected (fun _ _ => trivial) fun _ _ _ hmove => hmove)
  intro ws_open
  apply rotates_bind (rotates_read_cell .connected trivial)
  intro is_connected
  apply rotates_bind (rotates_read_cell .connecting trivial)
  intro is_connecting
  apply rotates_bind ((rotates_acquire_client fun _ _ hconsumer => hconsumer).pre_mono fun _ hconsumer => hconsumer.1)
  intro kms
  apply rotates_bind (rotates_acquire .registration trivial)
  intro reg
  apply rotates_bind (rotates_release .registration trivial _)
  intro _
  apply rotates_bind (rotates_release_client fun _ _ hconsumer => hconsumer)
  intro _
  exact (rotates_pure _).mono fun _ _ hpost => hpost.2

theorem rotates_decrypt_activity {token : String} {mailbox : Nat} {kms : KmsClient} (htoken : kms.token = token)
    (activity : MercuryActivity) :
    Rotates crates (Guards token) (call_kms mailbox (message_decryptor.decrypt_activity crates activity) kms)
      fun out g => out.2.token = token ∧ Guards token g := by
  refine rotates_call_kms (fun g hguards => ?_) htoken fun _ hguards => hguards
  unfold message_decryptor.decrypt_activity
  split
  · exact Method.keeps_pure _
  · rename_i url _
    apply Method.keeps_bind (Method.keeps_attempt ((carrier_kms mailbox hguards).get_key url))
    intro fetched
    split
    · exact Method.keeps_pure _
    · exact Method.keeps_throw _

theorem rotates_handle_activity_static {token : String} {mailbox : Nat} {kms : KmsClient} (htoken : kms.token = token)
    (activity : MercuryActivity) (bot_person_id : Option String) :
    Rotates crates (Guards token) (handle_activity_static crates mailbox kms activity bot_person_id)
      fun kms g => kms.token = token ∧ Guards token g := by
  have hpure : ∀ kms : KmsClient, kms.token = token →
      Rotates crates (Guards token) (pure kms : Handler KmsClient) fun kms g => kms.token = token ∧ Guards token g :=
    fun _ htoken _ hguards => ⟨htoken, hguards⟩
  have hsend : ∀ event (kms : KmsClient), kms.token = token →
      Rotates crates (Guards token) (send event >>= fun _ => (pure kms : Handler KmsClient))
        fun kms g => kms.token = token ∧ Guards token g := by
    intro event kms htoken
    apply rotates_bind (rotates_request (.send event) (fun _ _ => trivial) fun _ _ _ hmove => hmove)
    intro _
    exact hpure kms htoken
  unfold handle_activity_static
  split
  · apply rotates_bind (rotates_decrypt_activity htoken activity)
    rintro ⟨decrypted, kms⟩ g ⟨htoken, hguards⟩
    cases hevent : message_event crates activity.verb bot_person_id decrypted with
    | none =>
      simp only [hevent, send_event]
      exact hpure kms htoken g hguards
    | some event =>
      simp only [hevent, send_event]
      exact hsend event kms htoken g hguards
  · split
    · exact hsend _ kms htoken
    · split
      · exact hsend _ kms htoken
      · split
        · apply rotates_bind (rotates_decrypt_activity htoken activity)
          rintro ⟨decrypted, kms⟩ g ⟨htoken, hguards⟩
          exact hsend _ kms htoken g hguards
        · split
          · exact hsend _ kms htoken
          · exact hpure kms htoken

theorem rotates_activity_task (activity : MercuryActivity) :
    Rotates crates Unguarded (activity_task crates activity) fun _ => Unguarded := by
  have hrelease : ∀ client : Content .kms_client,
      Rotates crates (fun g => True ∧ g.guard = some (Option.map (fun c => c.2.token) client))
        (release .kms_client client) fun _ => Unguarded :=
    fun client => (rotates_release_client fun _ _ _ => trivial).mono fun _ _ hpost => hpost.2
  unfold activity_task
  apply rotates_bind ((rotates_acquire_client fun _ _ _ => trivial).pre_mono fun _ _ => trivial)
  intro client
  cases client with
  | none => exact hrelease none
  | some client =>
    obtain ⟨mailbox, kms⟩ := client
    apply rotates_bind (rotates_read_cell .bot_person_id trivial)
    intro bot_id
    apply rotates_bind ((rotates_handle_activity_static rfl activity bot_id).pre_mono fun _ hpre => hpre.2)
    rintro kms' g ⟨htoken, hguards⟩
    refine hrelease (some (mailbox, kms')) g ⟨trivial, ?_⟩
    rw [show g.guard = some (some kms.token) from hguards]
    exact congrArg (fun token => some (some token)) htoken.symm

theorem rotates_handle_mercury_event {event : Option MercuryEvent} (hne : event ≠ some .connected) :
    Rotates crates Unguarded (handle_mercury_event crates event) fun _ => Unguarded := by
  have hsend : ∀ event : HandlerEvent, Rotates crates Unguarded (send event) fun _ => Unguarded :=
    fun event => rotates_request (.send event) (fun _ _ => trivial) fun _ _ _ hmove => hmove
  unfold handle_mercury_event
  split
  · apply rotates_bind (rotates_acquire .recent_activity_ids trivial)
    intro ids
    apply rotates_bind (rotates_request .now (fun _ _ => trivial) fun _ _ _ hmove => hmove)
    intro instant
    exact rotates_release .recent_activity_ids trivial _
  · rename_i data
    apply rotates_bind (rotates_acquire .kms_response_handler trivial)
    intro handler
    have hforward : Rotates crates Unguarded (forward_kms_response data handler) fun _ => Unguarded := by
      cases handler with
      | none => exact rotates_pure ()
      | some mailbox =>
        exact rotates_request (.handle_kms_message mailbox data) (fun _ _ => trivial) fun _ _ _ hmove => hmove
    apply rotates_bind hforward
    intro _
    exact rotates_release .kms_response_handler trivial handler
  · rename_i activity
    exact rotates_request (.spawn_activity activity) (fun _ _ => trivial) fun _ _ _ hmove => hmove
  · exact absurd rfl hne
  · apply rotates_bind (rotates_write_cell .connected trivial _)
    intro _
    exact hsend _
  · exact hsend _
  · exact hsend _

theorem rotates_event_loop : Rotates crates Unguarded (event_loop crates) fun _ => Unguarded := by
  intro g hguard
  unfold event_loop
  rw [Method.obeys_bind]
  refine ⟨trivial, ?_⟩
  rintro event g' ⟨rfl, hne⟩
  exact rotates_handle_mercury_event hne g' hguard

end tasks

section system

variable {crates : Crates}

/-- How the views fit the environment. A guard is held by its owner alone, so that a
    cleared client stays cleared until the consumer stores a new one. -/
structure Rotated (env : Env) (views : List TokenView) : Prop where
  consumer : ∀ (tid : Nat) g, views[tid]? = some g → (g.consumer = true ↔ tid = 0)
  known : ∀ (tid : Nat) g token, views[tid]? = some g → g.known = some token → tid = 0 ∧ token = env.content .token
  owner : ∀ (tid : Nat) g, views[tid]? = some g → g.guard.isSome → env.owner .kms_client = some tid
  guard : ∀ (tid : Nat) g token, views[tid]? = some g → g.guard = some (some token) → token = env.content .token
  client : ∀ mailbox kms, env.content .kms_client = some (mailbox, kms) → kms.token = env.content .token
  clearer : ∀ (tid : Nat) g, views[tid]? = some g → g.cleared = true → tid = 0
  cleared : ∀ (tid : Nat) g, views[tid]? = some g → g.cleared = true → env.content .kms_client = none ∧
    ∀ (other : Nat) g' token, views[other]? = some g' → g'.guard ≠ some (some token)

namespace Rotated

variable {env : Env} {views : List TokenView}

/-- The views depend on no other part of the environment. -/
theorem congr (hview : Rotated env views) {env' : Env} (htoken : env'.content .token = env.content .token)
    (hclient : env'.content .kms_client = env.content .kms_client)
    (howner : env'.owner .kms_client = env.owner .kms_client) : Rotated env' views where
  consumer := hview.consumer
  known tid g token hg hknown := by
    rw [htoken]
    exact hview.known tid g token hg hknown
  owner tid g hg hguard := by
    rw [howner]
    exact hview.owner tid g hg hguard
  guard tid g token hg hguard := by
    rw [htoken]
    exact hview.guard tid g token hg hguard
  client mailbox kms hkms := by
    rw [htoken]
    rw [hclient] at hkms
    exact hview.client mailbox kms hkms
  clearer := hview.clearer
  cleared tid g hg hcleared := by
    rw [hclient]
    exact hview.cleared tid g hg hcleared

/-- A new task knows nothing. -/
theorem spawn (hview : Rotated env views) {tid : Nat} {g : TokenView} (hg : views[tid]? = some g) :
    Rotated env (views ++ [TokenView.fresh]) := by
  have hpos : views.length ≠ 0 := by
    have hlt := (List.getElem?_eq_some_iff.mp hg).1
    omega
  exact {
    consumer := by
      intro tid g hg
      obtain hg | ⟨rfl, rfl⟩ := getElem?_concat_cases hg
      · exact hview.consumer tid g hg
      · simp [TokenView.fresh, hpos]
    known := by
      intro tid g token hg hknown
      obtain hg | ⟨-, rfl⟩ := getElem?_concat_cases hg
      · exact hview.known tid g token hg hknown
      · cases hknown
    owner := by
      intro tid g hg hguard
      obtain hg | ⟨-, rfl⟩ := getElem?_concat_cases hg
      · exact hview.owner tid g hg hguard
      · cases hguard
    guard := by
      intro tid g token hg hguard
      obtain hg | ⟨-, rfl⟩ := getElem?_concat_cases hg
      · exact hview.guard tid g token hg hguard
      · cases hguard
    client := hview.client
    clearer := by
      intro tid g hg hcleared
      obtain hg | ⟨-, rfl⟩ := getElem?_concat_cases hg
      · exact hview.clearer tid g hg hcleared
      · cases hcleared
    cleared := by
      intro tid g hg hcleared
      obtain hg | ⟨-, rfl⟩ := getElem?_concat_cases hg
      · refine ⟨(hview.cleared tid g hg hcleared).1, ?_⟩
        intro other g' token hg' hguard
        obtain hg' | ⟨-, rfl⟩ := getElem?_concat_cases hg'
        · exact (hview.cleared tid g hg hcleared).2 other g' token hg' hguard
        · cases hguard
      · cases hcleared }

variable {tid : Nat} {g : TokenView}

/-- The consumer reads the token, or stores one. A new one is stored only while there is
    no client with a copy. -/
theorem set_token (hview : Rotated env views) (hg : views[tid]? = some g) (hconsumer : g.consumer = true)
    {token : String} (hstore : token = env.content .token ∨ g.cleared = true) {env' : Env}
    (htoken : env'.content .token = token) (hclient : env'.content .kms_client = env.content .kms_client)
    (howner : env'.owner .kms_client = env.owner .kms_client) :
    Rotated env' (views.set tid { g with known := some token }) := by
  obtain rfl : tid = 0 := (hview.consumer tid g hg).mp hconsumer
  exact {
    consumer := by
      intro other g' hg'
      obtain ⟨rfl, rfl⟩ | ⟨-, hg'⟩ := getElem?_set_cases hg'
      · exact hview.consumer 0 g hg
      · exact hview.consumer other g' hg'
    known := by
      intro other g' known hg' hknown
      obtain ⟨rfl, rfl⟩ | ⟨hother, hg'⟩ := getElem?_set_cases hg'
      · exact ⟨rfl, (Option.some.inj hknown).symm.trans htoken.symm⟩
      · exact absurd (hview.known other g' known hg' hknown).1 hother
    owner := by
      intro other g' hg' hguard
      rw [howner]
      obtain ⟨rfl, rfl⟩ | ⟨-, hg'⟩ := getElem?_set_cases hg'
      · exact hview.owner 0 g hg hguard
      · exact hview.owner other g' hg' hguard
    guard := by
      intro other g' held hg' hguard
      have hold : ∃ g'', views[other]? = some g'' ∧ g''.guard = some (some held) := by
        obtain ⟨rfl, rfl⟩ | ⟨-, hg'⟩ := getElem?_set_cases hg'
        · exact ⟨g, hg, hguard⟩
        · exact ⟨g', hg', hguard⟩
      obtain ⟨g'', hg'', hguard⟩ := hold
      cases hstore with
      | inl hsame =>
        rw [htoken, hsame]
        exact hview.guard other g'' held hg'' hguard
      | inr hcleared => exact absurd hguard ((hview.cleared 0 g hg hcleared).2 other g'' held hg'')
    client := by
      intro mailbox kms hkms
      rw [hclient] at hkms
      cases hstore with
      | inl hsame =>
        rw [htoken, hsame]
        exact hview.client mailbox kms hkms
      | inr hcleared => exact nomatch (hview.cleared 0 g hg hcleared).1.symm.trans hkms
    clearer := by
      intro other g' hg' hcleared
      obtain ⟨rfl, -⟩ | ⟨-, hg'⟩ := getElem?_set_cases hg'
      · rfl
      · exact hview.clearer other g' hg' hcleared
    cleared := by
      intro other g' hg' hcleared
      rw [hclient]
      have hold : ∃ g'', views[other]? = some g'' ∧ g''.cleared = true := by
        obtain ⟨rfl, rfl⟩ | ⟨-, hg'⟩ := getElem?_set_cases hg'
        · exact ⟨g, hg, hcleared⟩
        · exact ⟨g', hg', hcleared⟩
      obtain ⟨g'', hg'', hcleared⟩ := hold
      refine ⟨(hview.cleared other g'' hg'' hcleared).1, ?_⟩
      intro third g₃ held hg₃ hguard
      obtain ⟨rfl, rfl⟩ | ⟨-, hg₃⟩ := getElem?_set_cases hg₃
      · exact (hview.cleared other g'' hg'' hcleared).2 0 g held hg hguard
      · exact (hview.cleared other g'' hg'' hcleared).2 third g₃ held hg₃ hguard }

/-- A task takes the guard on the client, which no other task has. -/
theorem acquire_client (hview : Rotated env views) (hg : views[tid]? = some g) (hfree : env.owner .kms_client = none) :
    Rotated (env.set_owner .kms_client (some tid))
      (views.set tid { g with guard := some (Option.map (fun c => c.2.token) (env.content .kms_client)) }) where
  consumer := by
    intro other g' hg'
    obtain ⟨rfl, rfl⟩ | ⟨-, hg'⟩ := getElem?_set_cases hg'
    · exact hview.consumer other g hg
    · exact hview.consumer other g' hg'
  known := by
    intro other g' token hg' hknown
    obtain ⟨rfl, rfl⟩ | ⟨-, hg'⟩ := getElem?_set_cases hg'
    · exact hview.known other g token hg hknown
    · exact hview.known other g' token hg' hknown
  owner := by
    intro other g' hg' hguard
    obtain ⟨rfl, rfl⟩ | ⟨-, hg'⟩ := getElem?_set_cases hg'
    · simp [Env.set_owner]
    · exact nomatch hfree.symm.trans (hview.owner other g' hg' hguard)
  guard := by
    intro other g' token hg' hguard
    obtain ⟨rfl, rfl⟩ | ⟨-, hg'⟩ := getElem?_set_cases hg'
    · obtain ⟨⟨mailbox, kms⟩, hclient, rfl⟩ := Option.map_eq_some_iff.mp (Option.some.inj hguard)
      exact hview.client mailbox kms hclient
    · exact hview.guard other g' token hg' hguard
  client := hview.client
  clearer := by
    intro other g' hg' hcleared
    obtain ⟨rfl, rfl⟩ | ⟨-, hg'⟩ := getElem?_set_cases hg'
    · exact hview.clearer other g hg hcleared
    · exact hview.clearer other g' hg' hcleared
  cleared := by
    intro other g' hg' hcleared
    have hold : env.content .kms_client = none ∧
        ∀ (other : Nat) g' token, views[other]? = some g' → g'.guard ≠ some (some token) := by
      obtain ⟨rfl, rfl⟩ | ⟨-, hg'⟩ := getElem?_set_cases hg'
      · exact hview.cleared other g hg hcleared
      · exact hview.cleared other g' hg' hcleared
    refine ⟨hold.1, ?_⟩
    intro third g₃ token hg₃ hguard
    obtain ⟨rfl, rfl⟩ | ⟨-, hg₃⟩ := getElem?_set_cases hg₃
    · rw [hold.1] at hguard
      cases hguard
    · exact hold.2 third g₃ token hg₃ hguard

/-- A task drops its guard and leaves a client with the current token behind, or none. -/
theorem release_client (hview : Rotated env views) (hg : views[tid]? = some g) (hguard : g.guard.isSome = true)
    {client : Content .kms_client}
    (hclient : ∀ mailbox kms, client = some (mailbox, kms) → g.guard = some (some kms.token) ∨ g.known = some kms.token) :
    Rotated ((env.store .kms_client client).set_owner .kms_client none)
      (views.set tid { g with guard := none, cleared := g.consumer && Option.isNone client }) := by
  have htoken : ((env.store .kms_client client).set_owner .kms_client none).content .token = env.content .token := by
    simp [Env.store, Env.set_owner]
  have hstored : ((env.store .kms_client client).set_owner .kms_client none).content .kms_client = client := by
    simp [Env.store, Env.set_owner]
  -- the guard is this task's own, so no other task holds one
  have halone : ∀ (other : Nat) g', other ≠ tid → views[other]? = some g' → g'.guard = none := by
    intro other g' hother hg'
    cases hheld : g'.guard with
    | none => rfl
    | some held =>
      have howner := hview.owner other g' hg' (by rw [hheld]; rfl)
      rw [hview.owner tid g hg hguard, Option.some.injEq] at howner
      exact absurd howner.symm hother
  have hunguarded : ∀ (other : Nat) g',
      (views.set tid { g with guard := none, cleared := g.consumer && Option.isNone client })[other]? = some g' →
      g'.guard = none := by
    intro other g' hg'
    obtain ⟨-, rfl⟩ | ⟨hother, hg'⟩ := getElem?_set_cases hg'
    · rfl
    · exact halone other g' hother hg'
  have hcurrent : ∀ mailbox kms, client = some (mailbox, kms) → kms.token = env.content .token := by
    intro mailbox kms heq
    cases hclient mailbox kms heq with
    | inl hheld => exact hview.guard tid g kms.token hg hheld
    | inr hknown => exact (hview.known tid g kms.token hg hknown).2
  exact {
    consumer := by
      intro other g' hg'
      obtain ⟨rfl, rfl⟩ | ⟨-, hg'⟩ := getElem?_set_cases hg'
      · exact hview.consumer other g hg
      · exact hview.consumer other g' hg'
    known := by
      intro other g' token hg' hknown
      rw [htoken]
      obtain ⟨rfl, rfl⟩ | ⟨-, hg'⟩ := getElem?_set_cases hg'
      · exact hview.known other g token hg hknown
      · exact hview.known other g' token hg' hknown
    owner := by
      intro other g' hg' hheld
      rw [hunguarded other g' hg'] at hheld
      cases hheld
    guard := by
      intro other g' token hg' hheld
      rw [hunguarded other g' hg'] at hheld
      cases hheld
    client := by
      intro mailbox kms hkms
      rw [htoken]
      exact hcurrent mailbox kms (hstored.symm.trans hkms)
    clearer := by
      intro other g' hg' hcleared
      obtain ⟨rfl, rfl⟩ | ⟨-, hg'⟩ := getElem?_set_cases hg'
      · exact (hview.consumer other g hg).mp (Bool.and_eq_true_iff.mp hcleared).1
      · exact hview.clearer other g' hg' hcleared
    cleared := by
      intro other g' hg' hcleared
      rw [hstored]
      refine ⟨?_, ?_⟩
      · obtain ⟨rfl, rfl⟩ | ⟨hother, hold⟩ := getElem?_set_cases hg'
        · exact Option.isNone_iff_eq_none.mp (Bool.and_eq_true_iff.mp hcleared).2
        · -- another task has cleared the client, so this one has none to leave behind
          cases hleft : client with
          | none => rfl
          | some pair =>
            obtain ⟨mailbox, kms⟩ := pair
            cases hclient mailbox kms hleft with
            | inl hheld => exact absurd hheld ((hview.cleared other g' hold hcleared).2 tid g kms.token hg)
            | inr hknown =>
              have hzero : other = tid :=
                (hview.clearer other g' hold hcleared).trans (hview.known tid g kms.token hg hknown).1.symm
              exact absurd hzero hother
      · intro third g₃ token hg₃ hheld
        rw [hunguarded third g₃ hg₃] at hheld
        cases hheld }

end Rotated

theorem task_rotates {α : Type} {pre : TokenView → Prop} {m : Handler α} {post : α → TokenView → Prop}
    (hm : Rotates crates pre m post) (hpost : ∀ value g, post value g → Unguarded g) {g : TokenView} (hpre : pre g) :
    (as_task m).Obeys (rotation crates) (fun _ => Unguarded) g := by
  rw [as_task, Program.obeys_bind]
  refine Program.Obeys.mono ?_ (hm g hpre)
  rintro ⟨outcome, _⟩ g' hout
  cases outcome with
  | ok value => exact hpost value g' hout
  | error e => exact hout

theorem rotation_sound :
    Pool.Sound (rotation crates) Unguarded Rotated (fun _ _ _ _ => True) (perform crates) := by
  intro tid op choice env r env' spawned views g hview hg hallowed _ hperform
  have hstay : views.set tid g = views := by
    obtain ⟨hlt, hget⟩ := List.getElem?_eq_some_iff.mp hg
    rw [← hget]
    exact List.set_getElem_self hlt
  have hsame : ∀ env', env'.content = env.content → env'.owner = env.owner → Rotated env' (views.set tid g ++ []) := by
    intro env' hcontent howner
    rw [hstay, List.append_nil]
    exact hview.congr (by rw [hcontent]) (by rw [hcontent]) (by rw [howner])
  cases perform_performed hperform with
  | acquire cell hfree =>
    by_cases hplain : cell.plain
    · refine ⟨g, [], plain_acquire_moves hplain, ?_, .nil⟩
      rw [hstay, List.append_nil]
      exact hview.congr rfl rfl (Function.update_of_ne (plain_ne_client hplain) _ _)
    · cases cell with
      | token =>
        refine ⟨{ g with known := some (env.content .token) }, [], ⟨rfl, ?_⟩, ?_, .nil⟩
        · intro old hknown
          exact (hview.known tid g old hg hknown).2
        · rw [List.append_nil]
          exact hview.set_token hg hallowed (.inl rfl) rfl rfl rfl
      | kms_client =>
        refine ⟨{ g with guard := some (Option.map (fun c => c.2.token) (env.content .kms_client)) }, [], rfl, ?_, .nil⟩
        rw [List.append_nil]
        exact hview.acquire_client hg hfree
      | _ => exact absurd trivial hplain
  | release cell content =>
    by_cases hplain : cell.plain
    · refine ⟨g, [], plain_release_moves hplain, ?_, .nil⟩
      rw [hstay, List.append_nil]
      exact hview.congr (Function.update_of_ne (plain_ne_token hplain) _ _)
        (Function.update_of_ne (plain_ne_client hplain) _ _) (Function.update_of_ne (plain_ne_client hplain) _ _)
    · cases cell with
      | token =>
        refine ⟨{ g with known := some content }, [], rfl, ?_, .nil⟩
        rw [List.append_nil]
        refine hview.set_token hg hallowed.1 ?_ (by simp [Env.store, Env.set_owner]) rfl rfl
        exact hallowed.2.imp_left fun hknown => (hview.known tid g _ hg hknown).2
      | kms_client =>
        refine ⟨{ g with guard := none, cleared := g.consumer && Option.isNone content }, [], rfl, ?_, .nil⟩
        rw [List.append_nil]
        exact hview.release_client hg hallowed.1 hallowed.2
      | _ => exact absurd trivial hplain
  | start_event_loop hnone =>
    refine ⟨g, [TokenView.fresh], rfl, ?_, .cons ?_ .nil⟩
    · rw [hstay]
      exact (hview.spawn hg).congr rfl rfl rfl
    · exact Task.obeys_loop rfl (fun _ hguard => task_rotates rotates_event_loop (fun _ _ hpost => hpost) hguard) rfl
  | spawn_activity activity =>
    refine ⟨g, [TokenView.fresh], rfl, ?_, .cons ?_ .nil⟩
    · rw [hstay]
      exact (hview.spawn hg).congr rfl rfl rfl
    · exact task_rotates (rotates_activity_task activity) (fun _ _ hpost => hpost) rfl
  | next_event event hemitted =>
    refine ⟨g, [], ⟨rfl, ?_⟩, hsame _ rfl rfl, .nil⟩
    rintro ⟨⟩
    cases hemitted
  | tick => exact ⟨g, [], ⟨rfl, nofun⟩, hsame _ rfl rfl, .nil⟩
  | _ => exact ⟨g, [], rfl, hsame _ rfl rfl, .nil⟩

/-- Every task sends only the current token from here on. -/
def SystemRotated (crates : Crates) (s : System) : Prop :=
  ∃ views, s.Obeyed (rotation crates) Unguarded Rotated views

theorem call_program_rotates (ignore_self_messages : Bool) (call : Call) {g : TokenView} (hconsumer : Consumer g) :
    (call_program crates ignore_self_messages call).Obeys (rotation crates) (fun _ => Unguarded) g := by
  cases call with
  | connect => exact task_rotates (rotates_connect ignore_self_messages) (fun _ _ hpost => hpost) hconsumer
  | disconnect => exact task_rotates rotates_disconnect (fun _ _ hpost => hpost.1.2) hconsumer
  | reconnect new_token =>
    exact task_rotates (rotates_reconnect ignore_self_messages new_token) (fun _ _ hpost => hpost) hconsumer
  | status => exact task_rotates rotates_status (fun _ _ hpost => hpost) hconsumer

/-- The consumer without a call holds no guard. -/
theorem idle_unguarded {s : System} {views : List TokenView}
    (hobeyed : s.Obeyed (rotation crates) Unguarded Rotated views) (hidle : s.consumer_idle = true) :
    ∃ g, views[0]? = some g ∧ Consumer g := by
  unfold System.consumer_idle at hidle
  split at hidle
  · cases hidle
  · rename_i task htask
    obtain ⟨g, hg, hobeys⟩ := hobeyed.task htask
    refine ⟨g, hg, (hobeyed.view.consumer 0 g hg).mpr rfl, ?_⟩
    cases hrest : task.rest with
    | ret value => exact hobeys.ended (by rw [hrest]; rfl)
    | ask op next => simp [hrest] at hidle

theorem SystemRotated.step {ignore_self_messages : Bool} {s next : System} {label : Label}
    (hrotated : SystemRotated crates s) (hstep : s.step crates ignore_self_messages label = some next) :
    SystemRotated crates next := by
  obtain ⟨views, hobeyed⟩ := hrotated
  cases label with
  | call call =>
    simp only [System.step, Option.ite_none_right_eq_some, Option.some.injEq] at hstep
    obtain ⟨hidle, rfl⟩ := hstep
    obtain ⟨g, hg, hconsumer⟩ := idle_unguarded hobeyed hidle
    have hstay : views.set 0 g = views := by
      obtain ⟨hlt, hget⟩ := List.getElem?_eq_some_iff.mp hg
      rw [← hget]
      exact List.set_getElem_self hlt
    refine ⟨views, hobeyed.view, ?_⟩
    rw [← hstay]
    have htask : Task.Obeys (rotation crates) Unguarded { rest := call_program crates ignore_self_messages call } g :=
      call_program_rotates ignore_self_messages call hconsumer
    exact Pool.forall₂_set hobeyed.tasks htask 0
  | receive =>
    simp only [System.step] at hstep
    split at hstep
    · cases hstep
    · simp only [Option.ite_none_right_eq_some, Option.some.injEq] at hstep
      obtain ⟨-, rfl⟩ := hstep
      exact ⟨views, hobeyed.view.congr rfl rfl rfl, hobeyed.tasks⟩
  | perform tid choice => exact hobeyed.advance rotation_sound (fun _ _ => trivial) hstep
  | wait millis =>
    obtain rfl := Option.some.inj hstep
    exact ⟨views, hobeyed.view.congr rfl rfl rfl, hobeyed.tasks⟩

theorem system_rotated {token : String} {ignore_self_messages : Bool} {capacity : Nat} {s : System}
    (hreach : (system crates token ignore_self_messages capacity).Reachable Machine.Always s) :
    SystemRotated crates s := by
  have hone : ∀ (tid : Nat) g, [TokenView.mk true none none false][tid]? = some g →
      tid = 0 ∧ g = TokenView.mk true none none false := by
    intro tid g hg
    obtain ⟨hlt, hget⟩ := List.getElem?_eq_some_iff.mp hg
    rw [List.length_singleton] at hlt
    exact ⟨by omega, by simpa [eq_comm] using hget⟩
  refine hreach.invariant ?_ ?_
  · refine ⟨[TokenView.mk true none none false], ?_, .cons rfl .nil⟩
    refine ⟨?_, ?_, ?_, ?_, nofun, ?_, ?_⟩
    · intro tid g hg
      obtain ⟨rfl, rfl⟩ := hone tid g hg
      simp
    all_goals
      intro tid g
      intros
      rename_i hg hview
      obtain ⟨rfl, rfl⟩ := hone tid g hg
      cases hview
  · exact fun s label next _ hrotated _ hstep => hrotated.step hstep

/-- In every run, each HTTP request, KMS request body and authorization frame carries
    the token that the handler holds at that moment. -/
theorem token_rotation_clean (crates : Crates) (token : String) (ignore_self_messages : Bool) (capacity : Nat)
    (s : System) (hreach : (system crates token ignore_self_messages capacity).Reachable Machine.Always s)
    (tid : Nat) (op : Op) (hhead : s.head tid = some op) : Carries crates (s.env.content .token) op := by
  obtain ⟨views, hobeyed⟩ := system_rotated hreach
  obtain ⟨g, hg, hallowed⟩ := hobeyed.allowed hhead
  unfold Carries
  split
  · obtain ⟨current, hknown, hcarries⟩ := hallowed
    rw [← (hobeyed.view.known tid g current hg hknown).2]
    exact hcarries
  · obtain ⟨current, hguard, hcarries⟩ := hallowed
    rw [← hobeyed.view.guard tid g current hg hguard]
    exact hcarries
  · exact (hobeyed.view.known tid g _ hg hallowed).2
  · trivial

end system

section sample

open kms_client (ok_response)

/-- A connected handler is given a new token, up to the first request it makes with it. -/
def rotation_labels : List Label :=
  connected_labels ++ ([.call (.reconnect "token-2")] : List Label) ++ List.replicate 7 (.perform 0 .done) ++
    ([.perform 0 (.fetched (ok_response 204 []))] : List Label) ++ List.replicate 21 (.perform 0 .done)

/-- The method and the headers of a request. -/
def fetched : Option Op → String × List (String × String)
  | some (.fetch req) => (req.method, req.headers)
  | _ => ("", [])

theorem rotated_listing_carries :
    ∃ s req, (system sample_crates "token" false 8).run (system sample_crates "token" false 8).init rotation_labels =
        some s ∧ s.head 0 = some (.fetch req) ∧ req.method = "GET" ∧
      req.headers = [("Authorization", "Bearer token-2")] ∧ s.env.content .token = "token-2" ∧
      Carries sample_crates "token-2" (.fetch req) := by
  have hobserve : (((system sample_crates "token" false 8).run (system sample_crates "token" false 8).init
      rotation_labels).map fun s => (fetched (s.head 0), (show String from s.env.content .token))) =
        some (("GET", [("Authorization", "Bearer token-2")]), "token-2") := by
    decide +kernel
  rw [Option.map_eq_some_iff] at hobserve
  obtain ⟨s, hrun, hout⟩ := hobserve
  obtain ⟨hrequest, htoken⟩ := Prod.mk.inj hout
  unfold fetched at hrequest
  split at hrequest
  · rename_i req hhead
    have hcarries := token_rotation_clean sample_crates "token" false 8 s (Machine.reachable_of_run hrun) 0 _ hhead
    rw [show s.env.content .token = "token-2" from htoken] at hcarries
    exact ⟨s, req, hrun, hhead, congrArg Prod.fst hrequest, congrArg Prod.snd hrequest, htoken, hcarries⟩
  · exact absurd (congrArg Prod.fst hrequest) (by decide)

end sample

end webex.rust.handler
