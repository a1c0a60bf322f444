import WebexHandler.Json

open json

namespace webex.go

/-- The strings that Go writes for absent ones are empty. -/
structure MercuryActor where
  id : String := ""
  object_type : String := ""
  email_address : String := ""

/-- `inputs` is the map, `none` where Go has a nil map. -/
structure MercuryObject where
  id : String := ""
  object_type : String := ""
  display_name : String := ""
  content : String := ""
  encryption_key_url : String := ""
  inputs : Option (List (String × Value)) := none
  inputs_encrypted : String := ""
  files : List String := []

structure MercuryTarget where
  id : String := ""
  object_type : String := ""
  encryption_key_url : String := ""
  tags : List String := []

structure MercuryParent where
  id : String := ""
  type : String := ""

structure MercuryActivity where
  id : String := ""
  url : String := ""
  verb : String := ""
  actor : MercuryActor := {}
  object : MercuryObject := {}
  target : MercuryTarget := {}
  published : String := ""
  encryption_key_url : String := ""
  parent : Option MercuryParent := none

namespace mercury_socket

/-- `s, _ := raw.(string)`. -/
def as_string (raw : Option Value) : String := (raw.bind Value.as_str).getD ""

/-- `m, _ := raw.(map[string]interface{})`, where a nil map is nothing. -/
def as_map (raw : Option Value) : Option Value := raw.filter Value.is_object

@[simp]
theorem as_map_object (members : List (String × Value)) : as_map (some (.object members)) = some (.object members) := rfl

@[simp]
theorem as_map_array (items : List Value) : as_map (some (.array items)) = none := rfl

/-- The strings of a slice, and none of anything else. -/
def as_strings (raw : Option Value) : List String := ((raw.bind Value.as_array).map Value.strings).getD []

def parse_actor (raw : Option Value) : MercuryActor :=
  match as_map raw with
  | none => {}
  | some m => {
      id := as_string (m.get "id")
      object_type := as_string (m.get "objectType")
      email_address := as_string (m.get "emailAddress") }

/-- Encrypted inputs arrive as a string, plain ones as a map. -/
def parse_inputs : Option Value → Option (List (String × Value)) × String
  | some (.string v) => (none, v)
  | some (.object v) => (some v, "")
  | _ => (none, "")

def parse_object (raw : Option Value) : MercuryObject :=
  match as_map raw with
  | none => {}
  | some m => {
      id := as_string (m.get "id")
      object_type := as_string (m.get "objectType")
      display_name := as_string (m.get "displayName")
      content := as_string (m.get "content")
      encryption_key_url := as_string (m.get "encryptionKeyUrl")
      inputs := (parse_inputs (m.get "inputs")).1
      inputs_encrypted := (parse_inputs (m.get "inputs")).2
      files := as_strings (m.get "files") }

def parse_target (raw : Option Value) : MercuryTarget :=
  match as_map raw with
  | none => {}
  | some m => {
      id := as_string (m.get "id")
      object_type := as_string (m.get "objectType")
      encryption_key_url := as_string (m.get "encryptionKeyUrl")
      tags := as_strings (m.get "tags") }

/-- A parent with neither an id nor a type is no parent. -/
def parse_parent (raw : Option Value) : Option MercuryParent :=
  match as_map raw with
  | none => none
  | some m =>
    let id := as_string (m.get "id")
    let parent_type := as_string (m.get "type")
    if id = "" ∧ parent_type = "" then none else some { id, type := parent_type }

def parse_activity (raw : Value) : MercuryActivity where
  id := as_string (raw.get "id")
  url := as_string (raw.get "url")
  verb := as_string (raw.get "verb")
  actor := parse_actor (raw.get "actor")
  object := parse_object (raw.get "object")
  target := parse_target (raw.get "target")
  published := as_string (raw.get "published")
  encryption_key_url := as_string (raw.get "encryptionKeyUrl")
  parent := parse_parent (raw.get "parent")

end mercury_socket

end webex.go
