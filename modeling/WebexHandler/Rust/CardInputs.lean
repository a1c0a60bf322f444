import WebexHandler.Rust.DecryptedFields
import WebexHandler.Rust.Deserialize
import WebexHandler.Rust.Handler.Environment

open interaction json

namespace webex.rust.decryptor

open handler (attachment_action deleted_message is_card_action is_deletion is_membership is_message_activity is_room_activity
  membership_activity message_event room_activity)
open kms_client (KmsClient)
open jwe (Failure)

/-- What handling an activity asks for: the operations of the `KmsClient`, and events to
    be sent. -/
inductive Op
  | kms (op : kms_client.Op)
  | send (event : HandlerEvent)

def Res : Op → Type
  | .kms op => kms_client.Res op
  | .send _ => Unit

/-- The only failure of handling an activity is a panic. -/
abbrev Task (α : Type) : Type := Method Op Res KmsClient Unit α

def send (event : HandlerEvent) : Task Unit := Method.request (Op.send event)

def send_event : Option HandlerEvent → Task Unit
  | none => return ()
  | some event => send event

/-- An outcome as its caller sees it, which is not there after a panic. -/
def returned {α : Type} : Except Failure α → Except Unit (Except WebexError α)
  | .ok value => .ok (.ok value)
  | .error (.error e) => .ok (.error e)
  | .error .panic => .error ()

variable (crates : handler.Crates) (jwe_crates : jwe.Crates)

/-- The call of `decrypt_activity`, whose errors the caller matches on. -/
def decrypt (activity : MercuryActivity) : Task (Except WebexError MercuryActivity) := fun self =>
  ((decrypt_activity crates.kms jwe_crates activity self).lift Op.kms fun _ r => r).bind fun (outcome, self) =>
    .ret (returned outcome, self)

/-- `handle_activity_static`, on the `KmsClient` of the guard, with the panics of the `jwe`
    module. -/
def handle_activity_static (activity : MercuryActivity) (bot_person_id : Option String) : Task Unit := do
  if is_message_activity activity then do
    let decrypted ← decrypt crates jwe_crates activity
    send_event (message_event crates activity.verb bot_person_id decrypted)
  else if is_deletion activity then send (.message_deleted (deleted_message activity))
  else if is_membership activity then send (.membership_created (membership_activity activity))
  else if is_card_action activity then do
    let decrypted ← decrypt crates jwe_crates activity
    send (.attachment_action_created (attachment_action (decrypted.toOption.getD activity)))
  else if is_room_activity activity then
    send (if activity.verb == "create" then .room_created (room_activity activity) else .room_updated (room_activity activity))
  else return ()

/-- The events among the operations of a run. -/
def events (trace : List Op) : List HandlerEvent :=
  trace.filterMap fun
    | .send event => some event
    | .kms _ => none

/-- An activity as the socket passes it on. -/
def received (raw : Value) : Option MercuryActivity :=
  (activity_from_value raw).toOption.map fun activity => { activity with object := activity.object.finalize_inputs }

section specification

variable {Env : Type} (answer : (op : Op) → Env → Res op × Env) (activity : MercuryActivity) (bot_person_id : Option String)
  (kms : KmsClient) (env : Env)

/-- The answers to the operations of the `KmsClient`. -/
def kms_answer : (op : kms_client.Op) → Env → kms_client.Res op × Env := lifted_answer Op.kms (fun _ r => r) answer

/-- The key of an activity, if it has a key URL and the key is found. -/
def KeyFound (key : Bytes) : Prop :=
  ∃ url, key_url activity = some url ∧
    ((kms_client.get_key crates.kms url kms).exec (kms_answer answer) env).1.1 = .ok key

/-- The form that a card action carries: an object on the wire, the decrypted object, or the
    empty one. -/
def Form (inputs : Value) : Prop :=
  inputs.is_object = true ∧
    (activity.object.inputs = some inputs ∨
      (∃ key, KeyFound crates answer activity kms env key ∧ JsonIn jwe_crates key activity.object.inputs_encrypted inputs) ∨
      inputs = .object [])

/-- One event, an attachment action with a form. -/
def SendsForm : Prop :=
  ∃ action : AttachmentAction, Form crates jwe_crates answer activity kms env action.inputs ∧
    events ((handle_activity_static crates jwe_crates activity bot_person_id kms).trace answer env) =
      [.attachment_action_created action]

/-- Inputs on the wire that are neither encrypted nor absent are an object, the plaintext of
    encrypted ones is no JSON other than an object, and no field makes its decryption panic. -/
structure FormInputs : Prop where
  plain : ∀ inputs, activity.object.inputs = some inputs → inputs.is_object = true
  decrypted : ∀ key, KeyFound crates answer activity kms env key →
    ∀ inputs, JsonIn jwe_crates key activity.object.inputs_encrypted inputs → inputs.is_object = true
  sized : ActivitySized crates.kms jwe_crates (kms_answer answer) activity kms env

end specification

section run

variable {crates jwe_crates} {Env : Type} {answer : (op : Op) → Env → Res op × Env} {activity : MercuryActivity}
  {bot_person_id : Option String} {kms : KmsClient} {env : Env}

@[simp]
theorem events_append (trace more : List Op) : events (trace ++ more) = events trace ++ events more := List.filterMap_append

@[simp]
theorem events_kms (trace : List kms_client.Op) : events (trace.map Op.kms) = [] := by
  simp [events, List.filterMap_map]

theorem exec_decrypt : (decrypt crates jwe_crates activity kms).exec answer env =
    let out := (decrypt_activity crates.kms jwe_crates activity kms).exec (kms_answer answer) env
    ((returned out.1.1, out.1.2), out.2) := by
  have hlift := Program.exec_lift Op.kms (fun _ r => r) answer (decrypt_activity crates.kms jwe_crates activity kms) env
  refine (Program.exec_bind answer _ _ env).trans ?_
  rw [hlift]
  rfl

theorem events_decrypt : events ((decrypt crates jwe_crates activity kms).trace answer env) = [] := by
  have hlift := Program.trace_lift Op.kms (fun _ r => r) answer (decrypt_activity crates.kms jwe_crates activity kms) env
  refine (congrArg events (Program.trace_bind answer _ _ env)).trans ?_
  rw [hlift, events_append, events_kms]
  rfl

/-- A card action takes the fourth route, whatever it carries. -/
theorem handle_card_action (hcard : is_card_action activity = true) :
    handle_activity_static crates jwe_crates activity bot_person_id = (do
      let decrypted ← decrypt crates jwe_crates activity
      send (.attachment_action_created (attachment_action (decrypted.toOption.getD activity)))) := by
  simp only [is_card_action, Bool.and_eq_true, beq_iff_eq] at hcard
  have hmessage : is_message_activity activity = false := by
    simp [is_message_activity, hcard.1]
  have hdeletion : is_deletion activity = false := by
    simp [is_deletion, hcard.1]
  have hmembership : is_membership activity = false := by
    simp [is_membership, hcard.1]
  simp [handle_activity_static, hmessage, hdeletion, hmembership, is_card_action, hcard]

/-- The event of a card action is sent unless the decryption panics. -/
theorem events_handle_card_action (hcard : is_card_action activity = true) :
    events ((handle_activity_static crates jwe_crates activity bot_person_id kms).trace answer env) =
      match returned ((decrypt_activity crates.kms jwe_crates activity kms).exec (kms_answer answer) env).1.1 with
      | .ok decrypted => [.attachment_action_created (attachment_action (decrypted.toOption.getD activity))]
      | .error () => [] := by
  rw [handle_card_action hcard]
  refine (congrArg events (Program.trace_bind answer _ _ env)).trans ?_
  rw [events_append, events_decrypt, exec_decrypt, List.nil_append]
  simp only
  cases returned ((decrypt_activity crates.kms jwe_crates activity kms).exec (kms_answer answer) env).1.1 with
  | ok decrypted => rfl
  | error panic => rfl

theorem object_plain {found : Value} {object : MercuryObject} (hfound : MercuryObject.deserialize found = some object) :
    object.inputs_encrypted = none := by
  simp only [MercuryObject.deserialize, Option.bind_eq_bind, Option.bind_eq_some_iff, Option.pure_def, Option.some.injEq] at hfound
  obtain ⟨-, -, id, -, object_type, -, display_name, -, content, -, encryption_key_url, -, inputs, -, files, -, rfl⟩ := hfound
  rfl

/-- The inputs of an activity are either on the wire or encrypted. -/
theorem received_inputs {raw : Value} (hreceived : received raw = some activity) :
    activity.object.inputs_encrypted = none ∨ activity.object.inputs = none := by
  simp only [received, activity_from_value_toOption, Option.map_eq_some_iff] at hreceived
  obtain ⟨parsed, hparsed, rfl⟩ := hreceived
  have hplain : parsed.object.inputs_encrypted = none := by
    simp only [MercuryActivity.deserialize, Option.bind_eq_bind, Option.bind_eq_some_iff, Option.pure_def, Option.some.injEq] at hparsed
    obtain ⟨-, -, id, -, url, -, verb, -, actor, -, object, hobject, hrest⟩ := hparsed
    obtain ⟨target, -, published, -, encryption_key_url, -, parent, -, rfl⟩ := hrest
    unfold serde.field at hobject
    cases hlocate : serde.locate 4 "object" raw with
    | none =>
      rw [hlocate] at hobject
      cases hobject
      rfl
    | some found =>
      rw [hlocate] at hobject
      exact object_plain hobject
  simp only [MercuryObject.finalize_inputs]
  split
  · exact .inr rfl
  · exact .inl hplain

/-- Inputs that nothing replaces. -/
theorem form_kept : Form crates jwe_crates answer activity kms env (activity.object.inputs.getD (.object [])) ↔
    ∀ inputs, activity.object.inputs = some inputs → inputs.is_object = true := by
  cases hinputs : activity.object.inputs with
  | none => simp [Form, Value.is_object]
  | some inputs => simp [Form, hinputs]

theorem form_replaced {key : Bytes} (hkey : KeyFound crates answer activity kms env key) {inputs : Value}
    (hjson : JsonIn jwe_crates key activity.object.inputs_encrypted inputs) :
    Form crates jwe_crates answer activity kms env inputs ↔ inputs.is_object = true :=
  ⟨fun hform => hform.1, fun hobject => ⟨hobject, .inr (.inl ⟨key, hkey, hjson⟩)⟩⟩

/-- A card action whose key is not found, or that has none. -/
theorem form_inputs_without_key (hnone : ∀ key, ¬KeyFound crates answer activity kms env key) :
    FormInputs crates jwe_crates answer activity kms env ↔
      ∀ inputs, activity.object.inputs = some inputs → inputs.is_object = true := by
  constructor
  · intro hform
    exact hform.plain
  · intro hplain
    exact ⟨hplain, fun key hkey => absurd hkey (hnone key), fun url hurl key hkey => absurd ⟨url, hurl, hkey⟩ (hnone key)⟩

theorem key_found_unique {key other : Bytes} (hkey : KeyFound crates answer activity kms env key)
    (hother : KeyFound crates answer activity kms env other) : other = key := by
  obtain ⟨url, hurl, hget⟩ := hkey
  obtain ⟨_, hurl', hget'⟩ := hother
  cases hurl.symm.trans hurl'
  exact Except.ok.inj (hget'.symm.trans hget)

theorem form_inputs_with_key {key : Bytes} (hkey : KeyFound crates answer activity kms env key) :
    FormInputs crates jwe_crates answer activity kms env ↔
      (∀ inputs, activity.object.inputs = some inputs → inputs.is_object = true) ∧
      (∀ inputs, JsonIn jwe_crates key activity.object.inputs_encrypted inputs → inputs.is_object = true) ∧
      FieldsSized jwe_crates key activity.object := by
  constructor
  · intro hform
    obtain ⟨url, hurl, hget⟩ := id hkey
    exact ⟨hform.plain, hform.decrypted key hkey, hform.sized url hurl key hget⟩
  · rintro ⟨hplain, hdecrypted, hsized⟩
    refine ⟨hplain, fun other hother => ?_, fun url hurl other hget => ?_⟩
    · rw [key_found_unique hkey hother]
      exact hdecrypted
    · rw [key_found_unique hkey ⟨url, hurl, hget⟩]
      exact hsized

theorem outcome_with_key {key : Bytes} (hkey : KeyFound crates answer activity kms env key) :
    ((decrypt_activity crates.kms jwe_crates activity kms).exec (kms_answer answer) env).1.1 =
      decrypt_fields jwe_crates key activity := by
  obtain ⟨url, hurl, hget⟩ := hkey
  rw [outcome_decrypt_activity hurl, hget]

/-- Without a key the event is made of the activity as it is. -/
theorem outcome_without_key (hnone : ∀ key, ¬KeyFound crates answer activity kms env key) :
    ∃ decrypted : Except WebexError MercuryActivity, decrypted.toOption.getD activity = activity ∧
      returned ((decrypt_activity crates.kms jwe_crates activity kms).exec (kms_answer answer) env).1.1 = .ok decrypted := by
  cases hurl : key_url activity with
  | none =>
    have hactivity : decrypt_activity crates.kms jwe_crates activity kms = .ret (.ok activity, kms) := by
      rw [decrypt_activity, encryption_key_url_eq, hurl]
      rfl
    rw [hactivity]
    exact ⟨.ok activity, rfl, rfl⟩
  | some url =>
    cases hget : ((kms_client.get_key crates.kms url kms).exec (kms_answer answer) env).1.1 with
    | ok key => exact absurd ⟨url, hurl, hget⟩ (hnone key)
    | error e =>
      refine ⟨.error (key_error url e), rfl, ?_⟩
      rw [outcome_decrypt_activity hurl, hget]
      rfl

/-- The event of a card action, from the decryption's outcome. -/
theorem sends_form_iff_of_outcome (hcard : is_card_action activity = true) :
    SendsForm crates jwe_crates answer activity bot_person_id kms env ↔ ∃ decrypted,
      returned ((decrypt_activity crates.kms jwe_crates activity kms).exec (kms_answer answer) env).1.1 = .ok decrypted ∧
      Form crates jwe_crates answer activity kms env ((decrypted.toOption.getD activity).object.inputs.getD (.object [])) := by
  unfold SendsForm
  rw [events_handle_card_action hcard]
  cases returned ((decrypt_activity crates.kms jwe_crates activity kms).exec (kms_answer answer) env).1.1 with
  | error panic => simp
  | ok decrypted =>
    simp only [List.cons.injEq, and_true, HandlerEvent.attachment_action_created.injEq, Except.ok.injEq, exists_eq_left']
    constructor
    · rintro ⟨action, hform, rfl⟩
      exact hform
    · intro hform
      exact ⟨_, hform, rfl⟩

/-- A card action carries a form exactly if what it brings is one, and is decrypted without a panic. -/
theorem sends_form_iff {raw : Value} (hreceived : received raw = some activity) (hcard : is_card_action activity = true) :
    SendsForm crates jwe_crates answer activity bot_person_id kms env ↔
      FormInputs crates jwe_crates answer activity kms env := by
  rw [sends_form_iff_of_outcome hcard]
  by_cases hfound : ∃ key, KeyFound crates answer activity kms env key
  · obtain ⟨key, hkey⟩ := hfound
    rw [form_inputs_with_key hkey, outcome_with_key hkey]
    cases hfields : decrypt_fields jwe_crates key activity with
    | error failure =>
      cases decrypt_fields_eq_error hfields
      simp only [returned, reduceCtorEq, false_and, exists_false, false_iff, not_and]
      intro _ _ hsized
      obtain ⟨after, hafter⟩ := exists_decrypt_fields hsized
      exact nomatch hafter.symm.trans hfields
    | ok after =>
      obtain ⟨hsized, hdecrypted⟩ := decrypt_fields_eq_ok_iff.mp hfields
      simp only [returned, Except.ok.injEq, exists_eq_left', hsized, and_true]
      show Form crates jwe_crates answer activity kms env (after.object.inputs.getD (.object [])) ↔ _
      by_cases hjson : ∃ inputs, JsonIn jwe_crates key activity.object.inputs_encrypted inputs
      · obtain ⟨inputs, hjson⟩ := hjson
        have hencrypted : activity.object.inputs = none := by
          rcases received_inputs hreceived with hnone | hnone
          · rw [hnone] at hjson
            exact absurd hjson.choose_spec.1 not_opens_none
          · exact hnone
        rw [hdecrypted.inputs.replaced inputs hjson, Option.getD_some, form_replaced hkey hjson, hencrypted]
        constructor
        · intro hobject
          exact ⟨nofun, fun other hother => says_unique hjson hother ▸ hobject⟩
        · intro hform
          exact hform.2 inputs hjson
      · have hnone : ∀ inputs, ¬JsonIn jwe_crates key activity.object.inputs_encrypted inputs := not_exists.mp hjson
        rw [hdecrypted.inputs.kept hnone, form_kept]
        exact ⟨fun hplain => ⟨hplain, fun inputs hinputs => absurd hinputs (hnone inputs)⟩, fun hform => hform.1⟩
  · have hnone : ∀ key, ¬KeyFound crates answer activity kms env key := not_exists.mp hfound
    obtain ⟨decrypted, hsame, houtcome⟩ := @outcome_without_key crates jwe_crates _ _ _ _ _ hnone
    rw [form_inputs_without_key hnone, houtcome]
    simp only [Except.ok.injEq, exists_eq_left', hsame]
    exact form_kept

/-- A submitted card, as it is on the wire, with its inputs. -/
def submitted (inputs : Value) : Value :=
  .object [("id", .string "activity-1"), ("verb", .string "cardAction"),
    ("object", .object [("objectType", .string "submit"), ("inputs", inputs)])]

def submitted_activity (inputs : Value) : MercuryActivity where
  id := "activity-1"
  verb := "cardAction"
  object := { object_type := "submit", inputs := some inputs }

/-- Every request to the KMS fails. -/
def without_kms : (op : Op) → Unit → Res op × Unit
  | .kms op, env => (no_kms op, env)
  | .send _, env => ((), env)

theorem sends_form_vote : SendsForm handler.sample_crates jwe.sample_crates without_kms
    (submitted_activity (.object [("vote", .string "yes")])) none (kms_client.new "" "" "" "") () := by
  have hreceived : received (submitted (.object [("vote", .string "yes")])) =
      some (submitted_activity (.object [("vote", .string "yes")])) := rfl
  refine (sends_form_iff hreceived rfl).mpr (form_inputs_without_key ?_ |>.mpr ?_)
  · rintro key ⟨url, hurl, -⟩
    cases hurl
  · intro inputs hinputs
    cases hinputs
    rfl

theorem list_is_sent_as_inputs : ¬∀ crates jwe_crates (answer : (op : Op) → Unit → Res op × Unit) raw activity bot_person_id kms,
    received raw = some activity → is_card_action activity = true →
      SendsForm crates jwe_crates answer activity bot_person_id kms () := by
  intro hform
  obtain ⟨action, ⟨hobject, -⟩, hsent⟩ := hform handler.sample_crates jwe.sample_crates without_kms
    (submitted (.array [.string "yes"])) (submitted_activity (.array [.string "yes"])) none (kms_client.new "" "" "" "") rfl rfl
  cases hsent
  cases hobject

end run

end webex.rust.decryptor
