import WebexHandler.Go.MercurySocket.Activities
import WebexHandler.Numbers
import WebexHandler.Rust.Deserialize
import WebexHandler.Rust.MercurySocket.Loss

open json serde

namespace webex

open go.mercury_socket (as_map as_string as_strings parse_inputs parse_actor parse_object parse_target parse_parent parse_activity)

/-- A string that may be absent, against Go's, where an absent one is empty. -/
def SameText (text : Option String) (expected : String) : Prop := text.getD "" = expected

def SameTexts (texts : Option (List String)) (expected : List String) : Prop := texts.getD [] = expected

structure SameActor (actor : rust.MercuryActor) (expected : go.MercuryActor) : Prop where
  id : actor.id = expected.id
  object_type : actor.object_type = expected.object_type
  email_address : SameText actor.email_address expected.email_address

section same

variable (numbers : Numbers)

/-- Plain inputs are the same object, with the same numbers as each port reads them, and
    encrypted ones the same string. -/
structure SameInputs (object : rust.MercuryObject) (expected : Option (List (String × Value)) × String) : Prop where
  inputs : object.inputs.map (·.read numbers.serde_json) = expected.1.map fun members =>
    (Value.object members).read numbers.float64
  inputs_encrypted : SameText object.inputs_encrypted expected.2

structure SameObject (object : rust.MercuryObject) (expected : go.MercuryObject) : Prop where
  id : object.id = expected.id
  object_type : object.object_type = expected.object_type
  display_name : SameText object.display_name expected.display_name
  content : SameText object.content expected.content
  encryption_key_url : SameText object.encryption_key_url expected.encryption_key_url
  inputs : SameInputs numbers object (expected.inputs, expected.inputs_encrypted)
  files : SameTexts object.files expected.files

structure SameTarget (target : rust.MercuryTarget) (expected : go.MercuryTarget) : Prop where
  id : target.id = expected.id
  object_type : target.object_type = expected.object_type
  encryption_key_url : SameText target.encryption_key_url expected.encryption_key_url
  tags : target.tags = expected.tags

structure SameParent (parent : rust.MercuryParent) (expected : go.MercuryParent) : Prop where
  id : parent.id = expected.id
  parent_type : parent.parent_type = expected.type

/-- Two activities with the same fields, where what Rust has as absent is empty in Go. -/
structure SameActivity (activity : rust.MercuryActivity) (expected : go.MercuryActivity) : Prop where
  id : activity.id = expected.id
  url : SameText activity.url expected.url
  verb : activity.verb = expected.verb
  actor : SameActor activity.actor expected.actor
  object : SameObject numbers activity.object expected.object
  target : SameTarget activity.target expected.target
  published : activity.published = expected.published
  encryption_key_url : SameText activity.encryption_key_url expected.encryption_key_url
  parent : Option.Rel SameParent activity.parent expected.parent

end same

/-- The kinds of the fields below the activity, each with its own idea of what it can
    be read from. -/
inductive Kind
  | text
  | optional_text
  | texts
  | optional_texts
  | inputs

section tolerates

variable (numbers : Numbers)

/-- What a field may be for Rust to read it as Go does. -/
def Kind.tolerates : Kind → Option Value → Bool
  | _, none => true
  | .text, some (.string _) => true
  | .optional_text, some (.string _) => true
  | .texts, some (.array items) => items.all (·.as_str.isSome)
  | .optional_texts, some (.array items) => items.all (·.as_str.isSome)
  | .inputs, some (.string _) => true
  | .inputs, some (.object members) => (Value.object members).all_numbers numbers.alike
  | .text, some _ => false
  | .texts, some _ => false
  | _, some .null => true
  | _, some _ => false

/-- What a field may be for Rust to read it as an empty one. -/
def Kind.blank : Kind → Option Value → Bool
  | _, none => true
  | .text, some (.string s) => s == ""
  | .optional_text, some (.string s) => s == ""
  | .texts, some (.array items) => items.isEmpty
  | .optional_texts, some (.array items) => items.isEmpty
  | .inputs, some (.string s) => s == ""
  | .text, some _ => false
  | .texts, some _ => false
  | _, some .null => true
  | _, some _ => false

/-- What a struct below the activity may be for Rust to read it as Go does. Go takes an
    array for an empty struct, Rust takes its elements for the fields. -/
def tolerates (fields : List (String × Kind)) : Option Value → Bool
  | none => true
  | some (.object members) => fields.all fun field => field.2.tolerates numbers ((Value.object members).get field.1)
  | some (.array items) => items.length ≤ fields.length &&
      fields.zipIdx.all fun field => field.1.2.blank items[field.2]?
  | some _ => false

def actor_fields : List (String × Kind) := [("id", .text), ("objectType", .text), ("emailAddress", .optional_text)]

def object_fields : List (String × Kind) :=
  [("id", .text), ("objectType", .text), ("displayName", .optional_text), ("content", .optional_text),
    ("encryptionKeyUrl", .optional_text), ("inputs", .inputs), ("files", .optional_texts)]

def target_fields : List (String × Kind) :=
  [("id", .text), ("objectType", .text), ("encryptionKeyUrl", .optional_text), ("tags", .texts)]

/-- What a parent may be for Rust to read it as Go does, which has no empty parent. -/
def tolerates_parent : Option Value → Bool
  | none => true
  | some .null => true
  | some (.object members) =>
    Kind.text.tolerates numbers ((Value.object members).get "id") &&
      Kind.text.tolerates numbers ((Value.object members).get "type") &&
      !(Kind.text.blank ((Value.object members).get "id") && Kind.text.blank ((Value.object members).get "type"))
  | some _ => false

/-- What an activity with a string id and verb may be for Rust to read it as Go does. -/
def tolerates_activity (raw : Value) : Bool :=
  Kind.optional_text.tolerates numbers (raw.get "url") && tolerates numbers actor_fields (raw.get "actor") &&
    tolerates numbers object_fields (raw.get "object") && tolerates numbers target_fields (raw.get "target") &&
    Kind.text.tolerates numbers (raw.get "published") &&
    Kind.optional_text.tolerates numbers (raw.get "encryptionKeyUrl") && tolerates_parent numbers (raw.get "parent")

end tolerates

variable {numbers : Numbers}

section fields

theorem same_inputs_iff {object : rust.MercuryObject} {inputs : Option (List (String × Value))} {encrypted : String} :
    SameInputs numbers object (inputs, encrypted) ↔
      object.inputs.map (·.read numbers.serde_json) = inputs.map (fun members => (Value.object members).read numbers.float64) ∧
        object.inputs_encrypted.getD "" = encrypted :=
  ⟨fun hsame => ⟨hsame.inputs, hsame.inputs_encrypted⟩, fun hsame => ⟨hsame.1, hsame.2⟩⟩

/-- Rust reads the strings of an array when there is nothing else in it. -/
theorem reads_strings (items : List Value) :
    Reads (items.mapM Value.as_str) Eq (Value.strings items) ↔ items.all (·.as_str.isSome) = true := by
  simp only [Reads, mapM_as_str_eq_some]
  constructor
  · rintro ⟨texts, rfl, _⟩
    simp [Value.as_str]
  · intro hstrings
    refine ⟨_, ?_, rfl⟩
    induction items with
    | nil => rfl
    | cons item rest ih =>
      rw [List.all_cons, Bool.and_eq_true] at hstrings
      cases item with
      | string s => simpa [Value.strings, Value.as_str] using ih hstrings.2
      | _ => exact absurd hstrings.1 Bool.false_ne_true

theorem reads_text (numbers : Numbers) (found : Option Value) :
    Reads (read_or "" serde.string found) Eq (as_string found) ↔ Kind.text.tolerates numbers found = true := by
  cases found with
  | none => exact iff_of_true (reads_some.mpr rfl) rfl
  | some value =>
    cases value with
    | string s => exact iff_of_true (reads_some.mpr rfl) rfl
    | _ => exact iff_of_false reads_none nofun

theorem reads_blank_text (found : Option Value) :
    Reads (read_or "" serde.string found) Eq "" ↔ Kind.text.blank found = true := by
  cases found with
  | none => exact iff_of_true (reads_some.mpr rfl) rfl
  | some value =>
    cases value with
    | string s => exact reads_some.trans beq_iff_eq.symm
    | _ => exact iff_of_false reads_none nofun

theorem reads_optional_text (numbers : Numbers) (found : Option Value) :
    Reads (read_or none (serde.option serde.string) found) SameText (as_string found) ↔
      Kind.optional_text.tolerates numbers found = true := by
  cases found with
  | none => exact iff_of_true (reads_some.mpr rfl) rfl
  | some value =>
    cases value with
    | null => exact iff_of_true (reads_some.mpr rfl) rfl
    | string s => exact iff_of_true (reads_some.mpr rfl) rfl
    | _ => exact iff_of_false reads_none nofun

theorem reads_blank_optional_text (found : Option Value) :
    Reads (read_or none (serde.option serde.string) found) SameText "" ↔ Kind.optional_text.blank found = true := by
  cases found with
  | none => exact iff_of_true (reads_some.mpr rfl) rfl
  | some value =>
    cases value with
    | null => exact iff_of_true (reads_some.mpr rfl) rfl
    | string s => exact reads_some.trans beq_iff_eq.symm
    | _ => exact iff_of_false reads_none nofun

theorem reads_texts (numbers : Numbers) (found : Option Value) :
    Reads (read_or [] (serde.vec serde.string) found) Eq (as_strings found) ↔ Kind.texts.tolerates numbers found = true := by
  cases found with
  | none => exact iff_of_true (reads_some.mpr rfl) rfl
  | some value =>
    cases value with
    | array items => exact reads_strings items
    | _ => exact iff_of_false reads_none nofun

theorem reads_blank_texts (found : Option Value) :
    Reads (read_or [] (serde.vec serde.string) found) Eq [] ↔ Kind.texts.blank found = true := by
  cases found with
  | none => exact iff_of_true (reads_some.mpr rfl) rfl
  | some value =>
    cases value with
    | array items =>
      refine Iff.trans ?_ List.isEmpty_iff.symm
      simp [read_or, serde.vec, serde.string, Reads, mapM_as_str_eq_some]
    | _ => exact iff_of_false reads_none nofun

theorem reads_optional_texts (numbers : Numbers) (found : Option Value) :
    Reads (read_or none (serde.option (serde.vec serde.string)) found) SameTexts (as_strings found) ↔
      Kind.optional_texts.tolerates numbers found = true := by
  cases found with
  | none => exact iff_of_true (reads_some.mpr rfl) rfl
  | some value =>
    cases value with
    | array items =>
      refine Iff.trans ?_ (reads_strings items)
      exact reads_map
    | null => exact iff_of_true (reads_some.mpr rfl) rfl
    | _ => exact iff_of_false reads_none nofun

theorem reads_blank_optional_texts (found : Option Value) :
    Reads (read_or none (serde.option (serde.vec serde.string)) found) SameTexts [] ↔
      Kind.optional_texts.blank found = true := by
  cases found with
  | none => exact iff_of_true (reads_some.mpr rfl) rfl
  | some value =>
    cases value with
    | array items =>
      refine Iff.trans ?_ (reads_blank_texts (some (.array items)))
      exact reads_map
    | null => exact iff_of_true (reads_some.mpr rfl) rfl
    | _ => exact iff_of_false reads_none nofun

/-- The inputs of an object as they are after `finalize_inputs`. -/
def SameFinalInputs (numbers : Numbers) (inputs : Option Value) (expected : Option (List (String × Value)) × String) : Prop :=
  SameInputs numbers (rust.MercuryObject.finalize_inputs { inputs }) expected

theorem reads_inputs (found : Option Value) :
    Reads (read_or none (serde.option serde.value) found) (SameFinalInputs numbers) (parse_inputs found) ↔
      Kind.inputs.tolerates numbers found = true := by
  cases found with
  | none => exact iff_of_true (reads_some.mpr ⟨rfl, rfl⟩) rfl
  | some value =>
    cases value with
    | null => exact iff_of_true (reads_some.mpr ⟨rfl, rfl⟩) rfl
    | string s => exact iff_of_true (reads_some.mpr ⟨rfl, rfl⟩) rfl
    | object members =>
      refine reads_some.trans (Iff.trans ?_ (numbers.read_alike (.object members)))
      constructor
      · intro hsame
        exact Option.some.inj hsame.inputs
      · intro hread
        exact ⟨congrArg some hread, rfl⟩
    | _ => exact iff_of_false (fun hread => absurd (reads_some.mp hread).inputs nofun) nofun

theorem reads_blank_inputs (found : Option Value) :
    Reads (read_or none (serde.option serde.value) found) (SameFinalInputs numbers) (none, "") ↔
      Kind.inputs.blank found = true := by
  cases found with
  | none => exact iff_of_true (reads_some.mpr ⟨rfl, rfl⟩) rfl
  | some value =>
    cases value with
    | null => exact iff_of_true (reads_some.mpr ⟨rfl, rfl⟩) rfl
    | string s =>
      refine Iff.trans ?_ beq_iff_eq.symm
      exact reads_some.trans ⟨fun hsame => hsame.inputs_encrypted, fun hempty => ⟨rfl, hempty⟩⟩
    | _ => exact iff_of_false (fun hread => absurd (reads_some.mp hread).inputs nofun) nofun

end fields

section structs

theorem reads_actor {found : Value} {expected : go.MercuryActor} :
    Reads (rust.MercuryActor.deserialize found) SameActor expected ↔ is_struct 3 found = true ∧
      Reads (field 0 "id" "" serde.string found) Eq expected.id ∧
      Reads (field 1 "objectType" "" serde.string found) Eq expected.object_type ∧
      Reads (field 2 "emailAddress" none (serde.option serde.string) found) SameText expected.email_address := by
  refine reads_struct.trans (and_congr_right fun _ => ?_)
  simp only [reads_bind]
  constructor
  · rintro ⟨id, hid, object_type, hobject_type, email_address, hemail_address, _, hmade, hsame⟩
    cases hmade
    exact ⟨⟨id, hid, hsame.id⟩, ⟨object_type, hobject_type, hsame.object_type⟩,
      ⟨email_address, hemail_address, hsame.email_address⟩⟩
  · rintro ⟨⟨id, hid, hsame_id⟩, ⟨object_type, hobject_type, hsame_type⟩, ⟨email_address, hemail_address, hsame_email⟩⟩
    exact ⟨id, hid, object_type, hobject_type, email_address, hemail_address, reads_some.mpr ⟨hsame_id, hsame_type, hsame_email⟩⟩

/-- `finalize_inputs` leaves alone what does not depend on the inputs. -/
theorem finalize_inputs_kept {α : Type} (f : rust.MercuryObject → α) (object : rust.MercuryObject)
    (hkept : ∀ inputs inputs_encrypted, f { object with inputs, inputs_encrypted } = f object) :
    f object.finalize_inputs = f object := by
  unfold rust.MercuryObject.finalize_inputs
  split
  · exact hkept _ _
  · rfl

theorem same_final_inputs {object : rust.MercuryObject} {expected : Option (List (String × Value)) × String}
    (hplain : object.inputs_encrypted = none) :
    SameInputs numbers object.finalize_inputs expected ↔ SameFinalInputs numbers object.inputs expected := by
  obtain ⟨inputs, encrypted⟩ := expected
  simp only [SameFinalInputs, same_inputs_iff, rust.MercuryObject.finalize_inputs]
  split
  · rfl
  · rw [hplain]

theorem same_object_iff {object : rust.MercuryObject} {expected : go.MercuryObject}
    (hplain : object.inputs_encrypted = none) :
    SameObject numbers object.finalize_inputs expected ↔ object.id = expected.id ∧ object.object_type = expected.object_type ∧
      SameText object.display_name expected.display_name ∧ SameText object.content expected.content ∧
      SameText object.encryption_key_url expected.encryption_key_url ∧
      SameFinalInputs numbers object.inputs (expected.inputs, expected.inputs_encrypted) ∧
      SameTexts object.files expected.files := by
  rw [← same_final_inputs hplain, ← finalize_inputs_kept (·.id) object fun _ _ => rfl,
    ← finalize_inputs_kept (·.object_type) object fun _ _ => rfl,
    ← finalize_inputs_kept (·.display_name) object fun _ _ => rfl,
    ← finalize_inputs_kept (·.content) object fun _ _ => rfl,
    ← finalize_inputs_kept (·.encryption_key_url) object fun _ _ => rfl,
    ← finalize_inputs_kept (·.files) object fun _ _ => rfl]
  constructor
  · rintro ⟨hid, hobject_type, hdisplay_name, hcontent, hkey_url, hinputs, hfiles⟩
    exact ⟨hid, hobject_type, hdisplay_name, hcontent, hkey_url, hinputs, hfiles⟩
  · rintro ⟨hid, hobject_type, hdisplay_name, hcontent, hkey_url, hinputs, hfiles⟩
    exact ⟨hid, hobject_type, hdisplay_name, hcontent, hkey_url, hinputs, hfiles⟩

theorem reads_object {found : Value} {expected : go.MercuryObject} :
    Reads (rust.MercuryObject.deserialize found) (fun object => SameObject numbers object.finalize_inputs) expected ↔
      is_struct 7 found = true ∧
      Reads (field 0 "id" "" serde.string found) Eq expected.id ∧
      Reads (field 1 "objectType" "" serde.string found) Eq expected.object_type ∧
      Reads (field 2 "displayName" none (serde.option serde.string) found) SameText expected.display_name ∧
      Reads (field 3 "content" none (serde.option serde.string) found) SameText expected.content ∧
      Reads (field 4 "encryptionKeyUrl" none (serde.option serde.string) found) SameText expected.encryption_key_url ∧
      Reads (field 5 "inputs" none (serde.option serde.value) found) (SameFinalInputs numbers)
        (expected.inputs, expected.inputs_encrypted) ∧
      Reads (field 6 "files" none (serde.option (serde.vec serde.string)) found) SameTexts expected.files := by
  refine reads_struct.trans (and_congr_right fun _ => ?_)
  simp only [reads_bind]
  constructor
  · rintro ⟨id, hid, object_type, hobject_type, display_name, hdisplay_name, content, hcontent, key_url, hkey_url,
      inputs, hinputs, files, hfiles, _, hmade, hsame⟩
    cases hmade
    obtain ⟨hsame_id, hsame_type, hsame_name, hsame_content, hsame_key_url, hsame_inputs, hsame_files⟩ :=
      (same_object_iff rfl).mp hsame
    exact ⟨⟨id, hid, hsame_id⟩, ⟨object_type, hobject_type, hsame_type⟩, ⟨display_name, hdisplay_name, hsame_name⟩,
      ⟨content, hcontent, hsame_content⟩, ⟨key_url, hkey_url, hsame_key_url⟩, ⟨inputs, hinputs, hsame_inputs⟩,
      ⟨files, hfiles, hsame_files⟩⟩
  · rintro ⟨⟨id, hid, hsame_id⟩, ⟨object_type, hobject_type, hsame_type⟩, ⟨display_name, hdisplay_name, hsame_name⟩,
      ⟨content, hcontent, hsame_content⟩, ⟨key_url, hkey_url, hsame_key_url⟩, ⟨inputs, hinputs, hsame_inputs⟩,
      ⟨files, hfiles, hsame_files⟩⟩
    refine ⟨id, hid, object_type, hobject_type, display_name, hdisplay_name, content, hcontent, key_url, hkey_url,
      inputs, hinputs, files, hfiles, _, rfl, ?_⟩
    exact (same_object_iff rfl).mpr ⟨hsame_id, hsame_type, hsame_name, hsame_content, hsame_key_url, hsame_inputs,
      hsame_files⟩

theorem reads_target {found : Value} {expected : go.MercuryTarget} :
    Reads (rust.MercuryTarget.deserialize found) SameTarget expected ↔ is_struct 4 found = true ∧
      Reads (field 0 "id" "" serde.string found) Eq expected.id ∧
      Reads (field 1 "objectType" "" serde.string found) Eq expected.object_type ∧
      Reads (field 2 "encryptionKeyUrl" none (serde.option serde.string) found) SameText expected.encryption_key_url ∧
      Reads (field 3 "tags" [] (serde.vec serde.string) found) Eq expected.tags := by
  refine reads_struct.trans (and_congr_right fun _ => ?_)
  simp only [reads_bind]
  constructor
  · rintro ⟨id, hid, object_type, hobject_type, key_url, hkey_url, tags, htags, _, hmade, hsame⟩
    cases hmade
    exact ⟨⟨id, hid, hsame.id⟩, ⟨object_type, hobject_type, hsame.object_type⟩,
      ⟨key_url, hkey_url, hsame.encryption_key_url⟩, ⟨tags, htags, hsame.tags⟩⟩
  · rintro ⟨⟨id, hid, hsame_id⟩, ⟨object_type, hobject_type, hsame_type⟩, ⟨key_url, hkey_url, hsame_key_url⟩,
      ⟨tags, htags, hsame_tags⟩⟩
    exact ⟨id, hid, object_type, hobject_type, key_url, hkey_url, tags, htags, _, rfl,
      hsame_id, hsame_type, hsame_key_url, hsame_tags⟩

theorem reads_parent {found : Value} {expected : go.MercuryParent} :
    Reads (rust.MercuryParent.deserialize found) SameParent expected ↔ is_struct 2 found = true ∧
      Reads (field 0 "id" "" serde.string found) Eq expected.id ∧
      Reads (field 1 "type" "" serde.string found) Eq expected.type := by
  refine reads_struct.trans (and_congr_right fun _ => ?_)
  simp only [reads_bind]
  constructor
  · rintro ⟨id, hid, parent_type, hparent_type, _, hmade, hsame⟩
    cases hmade
    exact ⟨⟨id, hid, hsame.id⟩, ⟨parent_type, hparent_type, hsame.parent_type⟩⟩
  · rintro ⟨⟨id, hid, hsame_id⟩, ⟨parent_type, hparent_type, hsame_type⟩⟩
    exact ⟨id, hid, parent_type, hparent_type, _, rfl, hsame_id, hsame_type⟩

theorem actor_tolerated (found : Option Value) :
    Reads (read_or {} rust.MercuryActor.deserialize found) SameActor (parse_actor found) ↔
      tolerates numbers actor_fields found = true := by
  cases found with
  | none => exact iff_of_true (reads_some.mpr ⟨rfl, rfl, rfl⟩) rfl
  | some value =>
    refine reads_actor.trans ?_
    cases value with
    | object members =>
      simp [is_struct, field, locate, parse_actor, reads_text numbers, reads_optional_text numbers, tolerates,
        actor_fields]
    | array items =>
      simp [is_struct, field, locate, parse_actor, reads_blank_text, reads_blank_optional_text,
        tolerates, actor_fields]
    | _ => simp [is_struct, tolerates]

theorem object_tolerated (found : Option Value) :
    Reads (read_or {} rust.MercuryObject.deserialize found) (fun object => SameObject numbers object.finalize_inputs)
      (parse_object found) ↔ tolerates numbers object_fields found = true := by
  cases found with
  | none => exact iff_of_true (reads_some.mpr ⟨rfl, rfl, rfl, rfl, rfl, ⟨rfl, rfl⟩, rfl⟩) rfl
  | some value =>
    refine reads_object.trans ?_
    cases value with
    | object members =>
      simp [is_struct, field, locate, parse_object, reads_text numbers, reads_optional_text numbers, reads_inputs,
        reads_optional_texts numbers, tolerates, object_fields]
    | array items =>
      simp [is_struct, field, locate, parse_object, reads_blank_text, reads_blank_optional_text,
        reads_blank_inputs, reads_blank_optional_texts, tolerates, object_fields]
    | _ => simp [is_struct, tolerates]

theorem target_tolerated (found : Option Value) :
    Reads (read_or {} rust.MercuryTarget.deserialize found) SameTarget (parse_target found) ↔
      tolerates numbers target_fields found = true := by
  cases found with
  | none => exact iff_of_true (reads_some.mpr ⟨rfl, rfl, rfl, rfl⟩) rfl
  | some value =>
    refine reads_target.trans ?_
    cases value with
    | object members =>
      simp [is_struct, field, locate, parse_target, reads_text numbers, reads_optional_text numbers,
        reads_texts numbers,
        tolerates, target_fields]
    | array items =>
      simp [is_struct, field, locate, parse_target, reads_blank_text, reads_blank_optional_text,
        reads_blank_texts, tolerates, target_fields]
    | _ => simp [is_struct, tolerates]

theorem blank_text_iff {found : Option Value} (htext : Kind.text.tolerates numbers found = true) :
    Kind.text.blank found = true ↔ as_string found = "" := by
  cases found with
  | none => exact iff_of_true rfl rfl
  | some value =>
    cases value with
    | string s => simp [Kind.blank, as_string, Value.as_str]
    | _ => exact absurd htext Bool.false_ne_true

theorem parent_tolerated (found : Option Value) :
    Reads (read_or none (serde.option rust.MercuryParent.deserialize) found) (Option.Rel SameParent) (parse_parent found) ↔
      tolerates_parent numbers found = true := by
  cases found with
  | none => exact iff_of_true (reads_some.mpr .none) rfl
  | some value =>
    cases value with
    | null => exact iff_of_true (reads_some.mpr .none) rfl
    | object members =>
      have hread : Reads (rust.MercuryParent.deserialize (.object members)) SameParent
          ⟨as_string ((Value.object members).get "id"), as_string ((Value.object members).get "type")⟩ ↔
          Kind.text.tolerates numbers ((Value.object members).get "id") = true ∧
            Kind.text.tolerates numbers ((Value.object members).get "type") = true := by
        refine reads_parent.trans ?_
        simp [is_struct, field, locate, reads_text numbers]
      have hnull : Value.object members ≠ .null := nofun
      rw [read_option hnull]
      have hparse : parse_parent (some (.object members)) =
          if as_string ((Value.object members).get "id") = "" ∧ as_string ((Value.object members).get "type") = "" then none
          else some ⟨as_string ((Value.object members).get "id"), as_string ((Value.object members).get "type")⟩ := rfl
      rw [hparse]
      simp only [tolerates_parent, Bool.and_eq_true, Bool.not_eq_true', ← Bool.not_eq_true]
      split
      · rename_i hempty
        refine iff_of_false not_reads_map_some ?_
        rintro ⟨⟨hid, htype⟩, hsome⟩
        exact hsome ⟨(blank_text_iff hid).mpr hempty.1, (blank_text_iff htype).mpr hempty.2⟩
      · rename_i hsome
        rw [reads_map_some, hread]
        constructor
        · rintro ⟨hid, htype⟩
          refine ⟨⟨hid, htype⟩, ?_⟩
          rintro ⟨hblank_id, hblank_type⟩
          exact hsome ⟨(blank_text_iff hid).mp hblank_id, (blank_text_iff htype).mp hblank_type⟩
        · rintro ⟨htolerated, -⟩
          exact htolerated
    | _ =>
      rw [read_option]
      · exact iff_of_false not_reads_map_some nofun
      · nofun

end structs

/-- The message that Mercury sends for an activity. -/
structure ActivityEnvelope where
  message : Value
  id : String
  data : Value
  members : List (String × Value)
  activity_id : String
  verb : String
  has_id : message.get "id" = some (.string id)
  has_data : message.get "data" = some data
  has_event_type : data.get "eventType" = some (.string "conversation.activity")
  has_activity : data.get "activity" = some (.object members)
  has_activity_id : (Value.object members).get "id" = some (.string activity_id)
  has_verb : (Value.object members).get "verb" = some (.string verb)

def ActivityEnvelope.activity (envelope : ActivityEnvelope) : Value := .object envelope.members

theorem activity_tolerated (envelope : ActivityEnvelope) :
    Reads (rust.MercuryActivity.deserialize envelope.activity)
      (fun activity => SameActivity numbers { activity with object := activity.object.finalize_inputs })
      (parse_activity envelope.activity) ↔ tolerates_activity numbers envelope.activity = true := by
  have hid : field 0 "id" "" serde.string envelope.activity = some (as_string (envelope.activity.get "id")) := by
    simp [field, locate, read_or, serde.string, ActivityEnvelope.activity, envelope.has_activity_id, as_string, Value.as_str]
  have hverb : field 2 "verb" "" serde.string envelope.activity = some (as_string (envelope.activity.get "verb")) := by
    simp [field, locate, read_or, serde.string, ActivityEnvelope.activity, envelope.has_verb, as_string, Value.as_str]
  simp only [tolerates_activity, Bool.and_eq_true, ← reads_optional_text numbers, ← reads_text numbers, ← actor_tolerated,
    ← object_tolerated, ← target_tolerated, ← parent_tolerated]
  refine reads_struct.trans ?_
  simp only [reads_bind]
  constructor
  · rintro ⟨-, id, hid, url, hurl, verb, hverb, actor, hactor, object, hobject, target, htarget, published, hpublished,
      key_url, hkey_url, parent, hparent, _, hmade, hsame⟩
    cases hmade
    exact ⟨⟨⟨⟨⟨⟨⟨url, hurl, hsame.url⟩, ⟨actor, hactor, hsame.actor⟩⟩, ⟨object, hobject, hsame.object⟩⟩,
      ⟨target, htarget, hsame.target⟩⟩, ⟨published, hpublished, hsame.published⟩⟩,
      ⟨key_url, hkey_url, hsame.encryption_key_url⟩⟩, ⟨parent, hparent, hsame.parent⟩⟩
  · rintro ⟨⟨⟨⟨⟨⟨⟨url, hurl, hsame_url⟩, ⟨actor, hactor, hsame_actor⟩⟩, ⟨object, hobject, hsame_object⟩⟩,
      ⟨target, htarget, hsame_target⟩⟩, ⟨published, hpublished, hsame_published⟩⟩,
      ⟨key_url, hkey_url, hsame_key_url⟩⟩, ⟨parent, hparent, hsame_parent⟩⟩
    refine ⟨rfl, _, hid, url, hurl, _, hverb, actor, hactor, object, hobject, target, htarget, published, hpublished,
      key_url, hkey_url, parent, hparent, _, rfl, ?_⟩
    exact ⟨rfl, hsame_url, rfl, hsame_actor, hsame_object, hsame_target, hsame_published, hsame_key_url, hsame_parent⟩

section delivery

open rust.mercury_socket

variable (numbers) (crates : Crates) (socket : Nat) (shared : Shared)

/-- The read loop handles the message with one Activity event, and its activity is the
    one that Go's parser makes of the same JSON. -/
def Delivered (envelope : ActivityEnvelope) : Prop :=
  ∃ activity, (run_loop socket (handle_message_static { crates with activity_from_value := rust.activity_from_value }
      envelope.message) shared).events = shared.events ++ [(some socket, .activity activity)] ∧
    SameActivity numbers activity (parse_activity envelope.activity)

/-- A message of either type is not looked into. -/
def set_aside (message : Value) : Bool := as_string (message.get "type") == "pong" || as_string (message.get "type") == "shutdown"

theorem event_data_envelope (envelope : ActivityEnvelope) : event_data envelope.message =
    if set_aside envelope.message then none else some (envelope.data, "conversation.activity") := by
  have htype : ((envelope.message.get "type").bind Value.as_str).getD "" = as_string (envelope.message.get "type") := rfl
  simp [event_data, set_aside, htype, envelope.has_data, envelope.has_event_type, Value.as_str]

/-- For every activity in the domain: Rust delivers what Go's parser makes of it exactly if
    each of its fields is one that Rust tolerates, and no number in its inputs is read
    differently. -/
theorem delivered_iff (envelope : ActivityEnvelope) : Delivered numbers crates socket shared envelope ↔
    set_aside envelope.message = false ∧ tolerates_activity numbers envelope.activity = true := by
  rw [← activity_tolerated]
  unfold Delivered
  simp only [run_handle_message, message_event, event_data_envelope, List.append_cancel_left_eq]
  cases set_aside envelope.message with
  | true => simp
  | false =>
    have hevent : mercury_event { crates with activity_from_value := rust.activity_from_value } envelope.data
        "conversation.activity" = (rust.MercuryActivity.deserialize envelope.activity).map fun activity =>
          .activity { activity with object := activity.object.finalize_inputs } := by
      have hkind : rust.starts_with "conversation.activity" "encryption." = false := by decide
      simp [mercury_event, hkind, envelope.has_activity, ActivityEnvelope.activity, Option.map_eq_bind]
    simp only [Bool.false_eq_true, if_false, Option.bind_some, hevent, true_and]
    cases rust.MercuryActivity.deserialize envelope.activity with
    | none => simp
    | some activity => simp

/-- A message whose activity has a null actor. -/
def null_actor : ActivityEnvelope where
  message := .object [("id", .string "m1"), ("data", .object [("eventType", .string "conversation.activity"),
    ("activity", .object [("id", .string "a1"), ("verb", .string "post"), ("actor", .null)])])]
  id := "m1"
  data := .object [("eventType", .string "conversation.activity"),
    ("activity", .object [("id", .string "a1"), ("verb", .string "post"), ("actor", .null)])]
  members := [("id", .string "a1"), ("verb", .string "post"), ("actor", .null)]
  activity_id := "a1"
  verb := "post"
  has_id := rfl
  has_data := rfl
  has_event_type := rfl
  has_activity := rfl
  has_activity_id := rfl
  has_verb := rfl

/-- Two libraries that know no doubles but the integers. -/
def sample_numbers : Numbers where
  f64 _ := 0
  float64 literal := literal.toInt?.elim 0 fun n => nearest_double n
  rounds literal n hliteral _ := by rw [hliteral, Option.elim_some]

theorem null_actor_not_delivered : ¬Delivered sample_numbers sample_crates 0 {} null_actor := by
  rintro ⟨activity, hsent, -⟩
  rw [run_handle_message] at hsent
  have hnone : message_event { sample_crates with activity_from_value := rust.activity_from_value }
      null_actor.message = none := rfl
  rw [hnone] at hsent
  exact absurd hsent nofun

end delivery

end webex
