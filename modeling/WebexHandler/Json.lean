import Mathlib.Data.List.Basic

namespace json

/-- A JSON document. An object keeps its members in order, and a number its
    literal, which every port reads in its own way. -/
inductive Value
  | null
  | bool (b : Bool)
  | number (literal : String)
  | string (s : String)
  | array (items : List Value)
  | object (members : List (String × Value))

namespace Value

/-- The member of an object under `key`, and nothing for any other value. -/
def get : Value → String → Option Value
  | object members, key => (members.find? (fun member => member.1 == key)).map Prod.snd
  | _, _ => none

def as_str : Value → Option String
  | string s => some s
  | _ => none

def as_array : Value → Option (List Value)
  | array items => some items
  | _ => none

def is_object : Value → Bool
  | object _ => true
  | _ => false

/-- The string elements of an array, in order. -/
def strings (items : List Value) : List String := items.filterMap as_str

end Value

end json
