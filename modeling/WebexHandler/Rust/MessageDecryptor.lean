import WebexHandler.Rust.Handler.Operations

open interaction json

namespace webex.rust.message_decryptor

open handler (Crates)
open kms_client (Kms)

def non_empty (text : Option String) : Option String := text.filter (· != "")

/-- The key URL, from the first of its three places that has one. -/
def encryption_key_url (activity : MercuryActivity) : Option String :=
  ((non_empty activity.encryption_key_url).or (non_empty activity.object.encryption_key_url)).or
    (non_empty activity.target.encryption_key_url)

variable (crates : Crates)

/-- A text field after decryption: unchanged when it is absent, empty, does not
    decrypt, or decrypts to something that is not UTF-8. -/
def decrypt_text (key : Bytes) (field : Option String) : Option String :=
  field.map fun text =>
    if text = "" then text
    else match crates.decrypt_message_jwe text key with
      | .ok plaintext => (crates.from_utf8 plaintext).getD text
      | .error _ => text

def decrypt_inputs (key : Bytes) (object : MercuryObject) : Option Value :=
  match non_empty object.inputs_encrypted with
  | none => object.inputs
  | some encrypted_inputs =>
    match crates.decrypt_message_jwe encrypted_inputs key with
    | .error _ => object.inputs
    | .ok plaintext => match crates.kms.from_slice plaintext with
      | .ok inputs_obj => some inputs_obj
      | .error _ => object.inputs

def decrypt_fields (key : Bytes) (activity : MercuryActivity) : MercuryActivity :=
  { activity with object := { activity.object with
      display_name := decrypt_text crates key activity.object.display_name
      content := decrypt_text crates key activity.object.content
      inputs := decrypt_inputs crates key activity.object } }

def decrypt_activity (activity : MercuryActivity) : Kms MercuryActivity :=
  match encryption_key_url activity with
  | none => return activity
  | some url => do
    match ← (kms_client.get_key crates.kms url).attempt with
    | .ok key => return decrypt_fields crates key activity
    | .error e =>
      throw (.decryption ("Failed to fetch encryption key from " ++ url ++ ": " ++ e.to_string))

end webex.rust.message_decryptor
