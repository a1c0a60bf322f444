import WebexHandler.Interaction.Run
import WebexHandler.Rust.Jwe.Panics
import WebexHandler.Rust.KmsClient.Mailbox
import WebexHandler.Rust.MessageDecryptor

open interaction json person_id

namespace webex.rust.decryptor

open kms_client (KmsClient)
open jwe (Failure Panics MessageSized)
open message_decryptor (non_empty encryption_key_url)

/-- A method of `MessageDecryptor` on its `KmsClient`, with the panics of the `jwe` module. -/
abbrev Decryptor (α : Type) : Type := Method kms_client.Op kms_client.Res KmsClient Failure α

variable (crates : kms_client.Crates) (jwe_crates : jwe.Crates)

/-- `jwe::decrypt_message_jwe`. The keys of the client are arrays of 32 bytes. -/
def decrypt_message (text : String) (key : Bytes) : Except Failure Bytes :=
  if hkey : key.length = 32 then jwe.decrypt_message_jwe jwe_crates text ⟨key, hkey⟩
  else jwe.kms "AES-GCM key init failed"

/-- What each field of an activity becomes: its plaintext, read by `decode`, or `before`
    when there is none. -/
def decrypt_field {α : Type} (key : Bytes) (decode : Bytes → Option α) (before : Option α) :
    Option String → Except Failure (Option α)
  | none => .ok before
  | some text =>
    if text = "" then .ok before
    else match decrypt_message jwe_crates text key with
      | .ok plaintext => .ok ((decode plaintext).or before)
      | .error (.error _) => .ok before
      | .error .panic => .error .panic

def decrypt_text (key : Bytes) (text : Option String) : Except Failure (Option String) :=
  decrypt_field jwe_crates key from_utf8 text text

def decrypt_inputs (key : Bytes) (object : MercuryObject) : Except Failure (Option Value) :=
  decrypt_field jwe_crates key (fun plaintext => (jwe_crates.from_slice plaintext).toOption) object.inputs
    object.inputs_encrypted

/-- The part of `decrypt_activity` that follows the retrieval of the key. -/
def decrypt_fields (key : Bytes) (activity : MercuryActivity) : Except Failure MercuryActivity := do
  let display_name ← decrypt_text jwe_crates key activity.object.display_name
  let content ← decrypt_text jwe_crates key activity.object.content
  let inputs ← decrypt_inputs jwe_crates key activity.object
  return { activity with object := { activity.object with display_name, content, inputs } }

def key_error (url : String) (e : WebexError) : WebexError :=
  .decryption ("Failed to fetch encryption key from " ++ url ++ ": " ++ e.to_string)

def decrypt_activity (activity : MercuryActivity) : Decryptor MercuryActivity :=
  match encryption_key_url activity with
  | none => return activity
  | some url => fun self => do
    match ← kms_client.get_key crates url self with
    | (.ok key, self) => return (decrypt_fields jwe_crates key activity, self)
    | (.error e, self) => return (.error (.error (key_error url e)), self)

section specification

/-- The first URL among the activity, its object and its target that is not empty. -/
def key_url (activity : MercuryActivity) : Option String :=
  [activity.encryption_key_url, activity.object.encryption_key_url, activity.target.encryption_key_url].findSome? non_empty

/-- A field that is not empty decrypts to a plaintext. -/
def Opens (key : Bytes) (field : Option String) (plaintext : Bytes) : Prop :=
  ∃ text, field = some text ∧ text ≠ "" ∧ decrypt_message jwe_crates text key = .ok plaintext

/-- A value is replaced by what `found` says, exactly where there is something. -/
structure Replaced {α : Type} (found : α → Prop) (before after : Option α) : Prop where
  replaced : ∀ value, found value → after = some value
  kept : (∀ value, ¬found value) → after = before

/-- What the plaintext of a field says. -/
def Says {α : Type} (key : Bytes) (decode : Bytes → Option α) (field : Option String) (value : α) : Prop :=
  ∃ plaintext, Opens jwe_crates key field plaintext ∧ decode plaintext = some value

/-- A field that decrypts to UTF-8. -/
def TextIn (key : Bytes) (field : Option String) (text : String) : Prop := Says jwe_crates key from_utf8 field text

/-- A field that decrypts to JSON. -/
def JsonIn (key : Bytes) (field : Option String) (value : Value) : Prop :=
  Says jwe_crates key (fun plaintext => (jwe_crates.from_slice plaintext).toOption) field value

/-- Nothing but the three fields is changed, and each by its own plaintext alone. -/
structure Decrypted (key : Bytes) (before after : MercuryActivity) : Prop where
  rest : after = { before with object := { before.object with
    display_name := after.object.display_name
    content := after.object.content
    inputs := after.object.inputs } }
  display_name : Replaced (TextIn jwe_crates key before.object.display_name) before.object.display_name
    after.object.display_name
  content : Replaced (TextIn jwe_crates key before.object.content) before.object.content after.object.content
  inputs : Replaced (JsonIn jwe_crates key before.object.inputs_encrypted) before.object.inputs after.object.inputs

variable {Env : Type} (answer : (op : kms_client.Op) → Env → kms_client.Res op × Env)

/-- What `decrypt_activity` makes of an activity: without a key URL nothing, without the
    key an error, and with it the activity with its decrypted fields. -/
def DecryptsOnly (activity : MercuryActivity) (kms : KmsClient) (env : Env) : Prop :=
  match key_url activity with
  | none =>
    (decrypt_activity crates jwe_crates activity kms).trace answer env = [] ∧
      (decrypt_activity crates jwe_crates activity kms).exec answer env = ((.ok activity, kms), env)
  | some url =>
    match (kms_client.get_key crates url kms).exec answer env with
    | ((.error e, kms'), env') =>
      (decrypt_activity crates jwe_crates activity kms).exec answer env = ((.error (.error (key_error url e)), kms'), env')
    | ((.ok key, kms'), env') => ∃ after, Decrypted jwe_crates key activity after ∧
      (decrypt_activity crates jwe_crates activity kms).exec answer env = ((.ok after, kms'), env')

/-- A field that is not empty has parts of the sizes that its decryption relies on. -/
def FieldSized (key : Bytes) (field : Option String) : Prop :=
  ∀ text, non_empty field = some text → ∀ hkey : key.length = 32, MessageSized jwe_crates text ⟨key, hkey⟩

/-- The three fields that are decrypted. -/
structure FieldsSized (key : Bytes) (object : MercuryObject) : Prop where
  display_name : FieldSized jwe_crates key object.display_name
  content : FieldSized jwe_crates key object.content
  inputs : FieldSized jwe_crates key object.inputs_encrypted

/-- If a key is found, the fields have the sizes that their decryption relies on. -/
def ActivitySized (activity : MercuryActivity) (kms : KmsClient) (env : Env) : Prop :=
  ∀ url, key_url activity = some url → ∀ key, ((kms_client.get_key crates url kms).exec answer env).1.1 = .ok key →
    FieldsSized jwe_crates key activity.object

end specification

section fields

variable {crates jwe_crates} {key : Bytes}

theorem encryption_key_url_eq (activity : MercuryActivity) : encryption_key_url activity = key_url activity := by
  unfold encryption_key_url key_url
  simp only [List.findSome?_cons, List.findSome?_nil]
  cases non_empty activity.encryption_key_url with
  | some url => rfl
  | none =>
    cases non_empty activity.object.encryption_key_url with
    | some url => rfl
    | none => cases non_empty activity.target.encryption_key_url <;> rfl

theorem not_panics_decrypt_message {text : String} : ¬Panics (decrypt_message jwe_crates text key) ↔
    ∀ hkey : key.length = 32, MessageSized jwe_crates text ⟨key, hkey⟩ := by
  unfold decrypt_message
  by_cases hkey : key.length = 32
  · simp only [hkey, dite_true, forall_true_left]
    exact jwe.not_panics_message
  · simp [hkey]

theorem replaced_iff_kept {α : Type} {found : α → Prop} {before after : Option α} (hnone : ∀ value, ¬found value) :
    Replaced found before after ↔ after = before :=
  ⟨fun h => h.kept hnone, fun heq => ⟨fun value hfound => absurd hfound (hnone value), fun _ => heq⟩⟩

theorem replaced_iff_found {α : Type} {found : α → Prop} {before after : Option α} {value : α}
    (hfound : ∀ other, found other ↔ other = value) : Replaced found before after ↔ after = some value := by
  constructor
  · intro h
    exact h.replaced value ((hfound value).mpr rfl)
  · intro heq
    exact ⟨fun other hother => by rw [(hfound other).mp hother, heq],
      fun hnone => absurd ((hfound value).mpr rfl) (hnone value)⟩

theorem not_opens_none {plaintext : Bytes} : ¬Opens jwe_crates key none plaintext := fun ⟨_, hfield, _⟩ => nomatch hfield

theorem not_opens_empty {plaintext : Bytes} : ¬Opens jwe_crates key (some "") plaintext :=
  fun ⟨_, hfield, hne, _⟩ => hne (Option.some.inj hfield).symm

theorem opens_some_iff {text : String} (hne : text ≠ "") {plaintext : Bytes} :
    Opens jwe_crates key (some text) plaintext ↔ decrypt_message jwe_crates text key = .ok plaintext :=
  ⟨fun ⟨_, hfield, _, hplaintext⟩ => Option.some.inj hfield ▸ hplaintext, fun hplaintext => ⟨text, rfl, hne, hplaintext⟩⟩

theorem field_sized_none : FieldSized jwe_crates key none := fun _ htext => nomatch htext

theorem field_sized_empty : FieldSized jwe_crates key (some "") := by
  simp [FieldSized, non_empty]

theorem field_sized_some_iff {text : String} (hne : text ≠ "") :
    FieldSized jwe_crates key (some text) ↔ ¬Panics (decrypt_message jwe_crates text key) := by
  simp [FieldSized, non_empty, Option.filter, hne, not_panics_decrypt_message]

/-- A field after decryption, in a run that returns. -/
theorem decrypt_field_eq_ok_iff {α : Type} {decode : Bytes → Option α} {field : Option String} {before after : Option α} :
    decrypt_field jwe_crates key decode before field = .ok after ↔
      FieldSized jwe_crates key field ∧ Replaced (Says jwe_crates key decode field) before after := by
  cases field with
  | none =>
    have hnone : ∀ value, ¬Says jwe_crates key decode none value := fun _ ⟨_, hopens, _⟩ => not_opens_none hopens
    rw [replaced_iff_kept hnone]
    simp [decrypt_field, field_sized_none, eq_comm]
  | some text =>
    by_cases hempty : text = ""
    · have hnone : ∀ value, ¬Says jwe_crates key decode (some text) value :=
        fun _ ⟨_, hopens, _⟩ => not_opens_empty (hempty ▸ hopens)
      rw [replaced_iff_kept hnone, hempty]
      simp [decrypt_field, field_sized_empty, eq_comm]
    · simp only [decrypt_field, if_neg hempty, field_sized_some_iff hempty]
      cases hdecrypt : decrypt_message jwe_crates text key with
      | error failure =>
        have hnone : ∀ value, ¬Says jwe_crates key decode (some text) value := by
          rintro _ ⟨plaintext, hopens, -⟩
          rw [opens_some_iff hempty, hdecrypt] at hopens
          exact nomatch hopens
        rw [replaced_iff_kept hnone]
        cases failure with
        | error e => simp [Panics, eq_comm]
        | panic => simp [Panics]
      | ok plaintext =>
        have hstated : ∀ value, Says jwe_crates key decode (some text) value ↔ decode plaintext = some value := by
          intro value
          simp [Says, opens_some_iff hempty, hdecrypt]
        cases hdecode : decode plaintext with
        | none =>
          rw [replaced_iff_kept fun value => by simp [hstated, hdecode]]
          simp [hdecode, eq_comm]
        | some decoded =>
          rw [replaced_iff_found fun value => by rw [hstated, hdecode, Option.some.injEq, eq_comm]]
          simp [hdecode, eq_comm]

/-- The activity with its decrypted fields, in a run that returns. -/
theorem decrypt_fields_eq_ok_iff {activity after : MercuryActivity} :
    decrypt_fields jwe_crates key activity = .ok after ↔
      FieldsSized jwe_crates key activity.object ∧ Decrypted jwe_crates key activity after := by
  unfold decrypt_fields
  simp only [jwe.bind_eq_ok_iff, decrypt_text, decrypt_inputs, decrypt_field_eq_ok_iff]
  constructor
  · rintro ⟨display_name, ⟨hname, hname'⟩, content, ⟨hcontent, hcontent'⟩, inputs, ⟨hinputs, hinputs'⟩, hafter⟩
    cases hafter
    exact ⟨⟨hname, hcontent, hinputs⟩, rfl, hname', hcontent', hinputs'⟩
  · rintro ⟨hsized, hrest, hname, hcontent, hinputs⟩
    exact ⟨_, ⟨hsized.display_name, hname⟩, _, ⟨hsized.content, hcontent⟩, _, ⟨hsized.inputs, hinputs⟩,
      congrArg Except.ok hrest.symm⟩

theorem exists_decrypt_field {α : Type} {decode : Bytes → Option α} {field : Option String} {before : Option α}
    (hsized : FieldSized jwe_crates key field) : ∃ after, decrypt_field jwe_crates key decode before field = .ok after := by
  cases field with
  | none => exact ⟨before, rfl⟩
  | some text =>
    by_cases hempty : text = ""
    · exact ⟨before, by simp [decrypt_field, hempty]⟩
    · rw [field_sized_some_iff hempty] at hsized
      simp only [decrypt_field, if_neg hempty]
      cases hdecrypt : decrypt_message jwe_crates text key with
      | ok plaintext => exact ⟨_, rfl⟩
      | error failure =>
        cases failure with
        | error e => exact ⟨before, rfl⟩
        | panic => exact absurd hdecrypt hsized

theorem exists_decrypt_fields {activity : MercuryActivity} (hsized : FieldsSized jwe_crates key activity.object) :
    ∃ after, decrypt_fields jwe_crates key activity = .ok after := by
  obtain ⟨display_name, hname⟩ := @exists_decrypt_field _ _ _ from_utf8 _ activity.object.display_name hsized.display_name
  obtain ⟨content, hcontent⟩ := @exists_decrypt_field _ _ _ from_utf8 _ activity.object.content hsized.content
  obtain ⟨inputs, hinputs⟩ := @exists_decrypt_field _ _ _ (fun plaintext => (jwe_crates.from_slice plaintext).toOption) _
    activity.object.inputs hsized.inputs
  simp only [decrypt_fields, decrypt_text, decrypt_inputs, jwe.bind_eq_ok_iff]
  exact ⟨_, display_name, hname, content, hcontent, inputs, hinputs, rfl⟩

theorem says_unique {α : Type} {decode : Bytes → Option α} {field : Option String} {value other : α}
    (hstated : Says jwe_crates key decode field value) (hother : Says jwe_crates key decode field other) : value = other := by
  obtain ⟨plaintext, ⟨text, rfl, hne, hplaintext⟩, hvalue⟩ := hstated
  obtain ⟨_, hopens, hdecoded⟩ := hother
  rw [opens_some_iff hne, hplaintext] at hopens
  cases hopens
  rw [hvalue] at hdecoded
  exact Option.some.inj hdecoded

/-- An error in a field is not an error of the activity. -/
theorem decrypt_field_eq_error {α : Type} {decode : Bytes → Option α} {field : Option String} {before : Option α}
    {failure : Failure} (herror : decrypt_field jwe_crates key decode before field = .error failure) : failure = .panic := by
  cases field with
  | none => cases herror
  | some text =>
    by_cases hempty : text = ""
    · rw [decrypt_field, if_pos hempty] at herror
      cases herror
    · simp only [decrypt_field, if_neg hempty] at herror
      cases hdecrypt : decrypt_message jwe_crates text key with
      | ok plaintext =>
        rw [hdecrypt] at herror
        cases herror
      | error cause =>
        rw [hdecrypt] at herror
        cases cause with
        | error e => cases herror
        | panic =>
          cases herror
          rfl

theorem decrypt_fields_eq_error {activity : MercuryActivity} {failure : Failure}
    (herror : decrypt_fields jwe_crates key activity = .error failure) : failure = .panic := by
  unfold decrypt_fields decrypt_text decrypt_inputs at herror
  cases hname : decrypt_field jwe_crates key from_utf8 activity.object.display_name activity.object.display_name with
  | error first =>
    rw [hname] at herror
    cases herror
    exact decrypt_field_eq_error hname
  | ok display_name =>
    cases hcontent : decrypt_field jwe_crates key from_utf8 activity.object.content activity.object.content with
    | error first =>
      rw [hname, hcontent] at herror
      cases herror
      exact decrypt_field_eq_error hcontent
    | ok content =>
      cases hinputs : decrypt_field jwe_crates key (fun plaintext => (jwe_crates.from_slice plaintext).toOption)
          activity.object.inputs activity.object.inputs_encrypted with
      | error first =>
        rw [hname, hcontent, hinputs] at herror
        cases herror
        exact decrypt_field_eq_error hinputs
      | ok inputs =>
        rw [hname, hcontent, hinputs] at herror
        cases herror

end fields

section run

variable {crates jwe_crates} {Env : Type} {answer : (op : kms_client.Op) → Env → kms_client.Res op × Env}
  {activity : MercuryActivity} {kms : KmsClient} {env : Env}

theorem exec_decrypt_activity {url : String} (hurl : key_url activity = some url) :
    (decrypt_activity crates jwe_crates activity kms).exec answer env =
      match (kms_client.get_key crates url kms).exec answer env with
      | ((.ok key, kms'), env') => ((decrypt_fields jwe_crates key activity, kms'), env')
      | ((.error e, kms'), env') => ((.error (.error (key_error url e)), kms'), env') := by
  simp only [decrypt_activity, encryption_key_url_eq, hurl]
  refine (Program.exec_bind answer _ _ env).trans ?_
  obtain ⟨⟨_ | key, kms'⟩, env'⟩ := (kms_client.get_key crates url kms).exec answer env
  · rfl
  · rfl

theorem outcome_decrypt_activity {url : String} (hurl : key_url activity = some url) :
    ((decrypt_activity crates jwe_crates activity kms).exec answer env).1.1 =
      match ((kms_client.get_key crates url kms).exec answer env).1.1 with
      | .ok key => decrypt_fields jwe_crates key activity
      | .error e => .error (.error (key_error url e)) := by
  rw [exec_decrypt_activity hurl]
  obtain ⟨⟨_ | key, kms'⟩, env'⟩ := (kms_client.get_key crates url kms).exec answer env
  · rfl
  · rfl

/-- A panic in one field takes the other fields, and the activity, with it. -/
theorem decrypts_only_iff : DecryptsOnly crates jwe_crates answer activity kms env ↔
    ActivitySized crates jwe_crates answer activity kms env := by
  unfold DecryptsOnly ActivitySized
  cases hurl : key_url activity with
  | none =>
    have hnone : decrypt_activity crates jwe_crates activity kms = .ret (.ok activity, kms) := by
      rw [decrypt_activity, encryption_key_url_eq, hurl]
      rfl
    simp [hnone, Program.trace, Program.exec]
  | some url =>
    simp only [exec_decrypt_activity hurl, Option.some.injEq, forall_eq']
    obtain ⟨⟨_ | key, kms'⟩, env'⟩ := (kms_client.get_key crates url kms).exec answer env
    · simp
    · simp only [Prod.mk.injEq, and_true, Except.ok.injEq, forall_eq']
      constructor
      · rintro ⟨after, -, hafter⟩
        exact (decrypt_fields_eq_ok_iff.mp hafter).1
      · intro hsized
        obtain ⟨after, hafter⟩ := exists_decrypt_fields hsized
        exact ⟨after, (decrypt_fields_eq_ok_iff.mp hafter).2, hafter⟩

/-- A post whose author's name has the form of a token, without an encrypted key in it. -/
def forged_post : MercuryActivity where
  id := "activity-1"
  verb := "post"
  object := { id := "message-1", object_type := "comment", display_name := some "eyJhbGciOiJBMjU2S1cifQ....", content := some "hello" }
  encryption_key_url := some "kms://k"

/-- A KMS that cannot be reached. -/
def no_kms : (op : kms_client.Op) → kms_client.Res op
  | .fetch _ => .error "connection refused"
  | .now => (0 : Nat)
  | .sleep _ => ()
  | .new_v4 => "r0"
  | .random _ => ([] : Bytes)
  | .register_pending _ => some (0 : Nat)
  | .remove_pending _ => ()
  | .wait_response _ _ => kms_client.Waited.timed_out

theorem forged_name_panics : ¬∀ crates jwe_crates (answer : (op : kms_client.Op) → Unit → kms_client.Res op × Unit) activity kms,
    DecryptsOnly crates jwe_crates answer activity kms () := by
  intro honly
  let kms : KmsClient := { kms_client.new "" "" "" "" with key_cache := [("kms://k", jwe.sample_key.1)] }
  obtain ⟨after, -, hafter⟩ := honly kms_client.sample_crates jwe.sample_crates (fun op env => (no_kms op, env)) forged_post kms
  rw [exec_decrypt_activity rfl] at hafter
  cases hafter

end run

section connection

/-- The decryption of the handler's model, which has no panics, is that of the `jwe` module where that returns. -/
structure Agrees (crates : handler.Crates) (jwe_crates : jwe.Crates) : Prop where
  from_utf8 : crates.from_utf8 = person_id.from_utf8
  from_slice : crates.kms.from_slice = jwe_crates.from_slice
  message : ∀ text key, ¬Panics (decrypt_message jwe_crates text key) →
    decrypt_message jwe_crates text key = (crates.decrypt_message_jwe text key).mapError Failure.error

variable {crates : handler.Crates} {jwe_crates : jwe.Crates} {key : Bytes} {activity : MercuryActivity}

theorem decrypt_text_agrees (hagrees : Agrees crates jwe_crates) {text : Option String} (hsized : FieldSized jwe_crates key text) :
    decrypt_text jwe_crates key text = .ok (message_decryptor.decrypt_text crates key text) := by
  cases text with
  | none => rfl
  | some text =>
    by_cases hempty : text = ""
    · simp [decrypt_text, decrypt_field, message_decryptor.decrypt_text, hempty]
    · have hmessage := hagrees.message text key ((field_sized_some_iff hempty).mp hsized)
      simp only [decrypt_text, decrypt_field, message_decryptor.decrypt_text, if_neg hempty, hmessage, hagrees.from_utf8,
        Option.map_some]
      cases hdecrypt : crates.decrypt_message_jwe text key with
      | error e => simp [Except.mapError]
      | ok plaintext => cases hutf8 : person_id.from_utf8 plaintext <;> simp [Except.mapError, hutf8]

theorem decrypt_inputs_agrees (hagrees : Agrees crates jwe_crates) {object : MercuryObject}
    (hsized : FieldSized jwe_crates key object.inputs_encrypted) :
    decrypt_inputs jwe_crates key object = .ok (message_decryptor.decrypt_inputs crates key object) := by
  unfold decrypt_inputs message_decryptor.decrypt_inputs
  cases htext : object.inputs_encrypted with
  | none => rfl
  | some text =>
    by_cases hempty : text = ""
    · simp [decrypt_field, non_empty, Option.filter, hempty]
    · have hmessage := hagrees.message text key ((field_sized_some_iff hempty).mp (htext ▸ hsized))
      simp only [decrypt_field, hmessage, non_empty, Option.filter, bne_iff_ne, ne_eq, hempty, not_false_eq_true,
        if_true, hagrees.from_slice]
      cases crates.decrypt_message_jwe text key with
      | error e => rfl
      | ok plaintext =>
        simp only [Except.mapError]
        cases jwe_crates.from_slice plaintext <;> rfl

theorem decrypt_fields_agrees (hagrees : Agrees crates jwe_crates) (hsized : FieldsSized jwe_crates key activity.object) :
    decrypt_fields jwe_crates key activity = .ok (message_decryptor.decrypt_fields crates key activity) := by
  simp only [decrypt_fields, decrypt_text_agrees hagrees hsized.display_name, decrypt_text_agrees hagrees hsized.content,
    decrypt_inputs_agrees hagrees hsized.inputs]
  rfl

end connection

end webex.rust.decryptor
