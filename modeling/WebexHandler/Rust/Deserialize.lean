import WebexHandler.Rust.Activity
import WebexHandler.Serde

open json serde

namespace webex.rust

def MercuryActor.deserialize (found : Value) : Option MercuryActor := do
  guard (is_struct 3 found)
  let id ← field 0 "id" "" serde.string found
  let object_type ← field 1 "objectType" "" serde.string found
  let email_address ← field 2 "emailAddress" none (serde.option serde.string) found
  return { id, object_type, email_address }

/-- `inputs_encrypted` is skipped: it is never on the wire. -/
def MercuryObject.deserialize (found : Value) : Option MercuryObject := do
  guard (is_struct 7 found)
  let id ← field 0 "id" "" serde.string found
  let object_type ← field 1 "objectType" "" serde.string found
  let display_name ← field 2 "displayName" none (serde.option serde.string) found
  let content ← field 3 "content" none (serde.option serde.string) found
  let encryption_key_url ← field 4 "encryptionKeyUrl" none (serde.option serde.string) found
  let inputs ← field 5 "inputs" none (serde.option serde.value) found
  let files ← field 6 "files" none (serde.option (serde.vec serde.string)) found
  return { id, object_type, display_name, content, encryption_key_url, inputs, files }

def MercuryTarget.deserialize (found : Value) : Option MercuryTarget := do
  guard (is_struct 4 found)
  let id ← field 0 "id" "" serde.string found
  let object_type ← field 1 "objectType" "" serde.string found
  let encryption_key_url ← field 2 "encryptionKeyUrl" none (serde.option serde.string) found
  let tags ← field 3 "tags" [] (serde.vec serde.string) found
  return { id, object_type, encryption_key_url, tags }

def MercuryParent.deserialize (found : Value) : Option MercuryParent := do
  guard (is_struct 2 found)
  let id ← field 0 "id" "" serde.string found
  let parent_type ← field 1 "type" "" serde.string found
  return { id, parent_type }

def MercuryActivity.deserialize (found : Value) : Option MercuryActivity := do
  guard (is_struct 9 found)
  let id ← field 0 "id" "" serde.string found
  let url ← field 1 "url" none (serde.option serde.string) found
  let verb ← field 2 "verb" "" serde.string found
  let actor ← field 3 "actor" {} MercuryActor.deserialize found
  let object ← field 4 "object" {} MercuryObject.deserialize found
  let target ← field 5 "target" {} MercuryTarget.deserialize found
  let published ← field 6 "published" "" serde.string found
  let encryption_key_url ← field 7 "encryptionKeyUrl" none (serde.option serde.string) found
  let parent ← field 8 "parent" none (serde.option MercuryParent.deserialize) found
  return { id, url, verb, actor, object, target, published, encryption_key_url, parent }

/-- `serde_json::from_value::<MercuryActivity>`. The text of the error is only logged. -/
def activity_from_value (found : Value) : Except String MercuryActivity :=
  match MercuryActivity.deserialize found with
  | some activity => .ok activity
  | none => .error "invalid type"

@[simp]
theorem activity_from_value_toOption (found : Value) :
    (activity_from_value found).toOption = MercuryActivity.deserialize found := by
  unfold activity_from_value
  cases MercuryActivity.deserialize found with
  | none => rfl
  | some activity => rfl

end webex.rust
