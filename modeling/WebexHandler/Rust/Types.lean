import WebexHandler.Json

open json

namespace webex.rust

abbrev Bytes := List UInt8

inductive WebexError
  | auth (message : String)
  | device_registration (message : String) (status_code : Option Nat)
  | mercury_connection (message : String) (close_code : Option Nat)
  | kms (message : String)
  | decryption (message : String)
  | internal (message : String)
  deriving DecidableEq, Repr

/-- The `Display` text of an error. -/
def WebexError.to_string : WebexError → String
  | .auth message => "AUTH_ERROR: " ++ message
  | .device_registration message _ => "DEVICE_REGISTRATION_ERROR: " ++ message
  | .mercury_connection message _ => "MERCURY_CONNECTION_ERROR: " ++ message
  | .kms message => "KMS_ERROR: " ++ message
  | .decryption message => "DECRYPTION_ERROR: " ++ message
  | .internal message => message

structure FetchRequest where
  url : String
  method : String
  headers : List (String × String)
  body : Option String
  deriving DecidableEq, Repr

structure FetchResponse where
  status : Nat
  ok : Bool
  body : Bytes
  deriving DecidableEq, Repr

/-- A request made with the access token. -/
def FetchRequest.carries_bearer (req : FetchRequest) : Bool := req.headers.any (·.1 == "Authorization")

/-- `text.contains(part)`. -/
def contains (text part : String) : Bool := text.toList.tails.any part.toList.isPrefixOf

/-- `text.starts_with(part)`. -/
def starts_with (text part : String) : Bool := part.toList.isPrefixOf text.toList

/-- `char::to_lowercase`. Outside ASCII only the two letters listed have a lower
    case with an ASCII letter in it; the others are kept, since the texts compared
    here are ASCII. -/
def char_to_lowercase (c : Char) : List Char :=
  if c = '\u212A' then ['k'] else if c = '\u0130' then ['i', '\u0307'] else [c.toLower]

def to_lowercase (text : List Char) : List Char := text.flatMap char_to_lowercase

/-- `Char.toLower` makes lower-case ASCII letters only. -/
theorem eq_of_toLower_eq {c d : Char} (hlower : c.toLower = d) (hnot : d.isLower = false) : c = d := by
  unfold Char.toLower at hlower
  split at hlower
  · rename_i hupper
    have hleast : 65 ≤ c.val.toNat := UInt32.le_iff_toNat_le.mp hupper.1
    have hmost : c.val.toNat ≤ 90 := UInt32.le_iff_toNat_le.mp hupper.2
    have hletter : d.isLower = true := by
      have hshift : ('a'.val - 'A'.val).toNat = 32 := by decide
      have ha : 'a'.val.toNat = 97 := by decide
      have hz : 'z'.val.toNat = 122 := by decide
      subst hlower
      refine Bool.and_eq_true_iff.mpr ⟨decide_eq_true ?_, decide_eq_true ?_⟩ <;>
        (simp only [ge_iff_le, UInt32.le_iff_toNat_le, UInt32.toNat_add]; omega)
    rw [hletter] at hnot
    contradiction
  · exact hlower

/-- Indexing a `serde_json::Value` by a member name. -/
def index (value : Value) (key : String) : Value := (value.get key).getD .null

/-- `Value::pointer`, for a path of member names. -/
def pointer (value : Value) (path : List String) : Option Value :=
  path.foldl (fun found key => found.bind (·.get key)) (some value)

end webex.rust
