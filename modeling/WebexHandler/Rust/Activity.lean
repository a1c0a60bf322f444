import WebexHandler.Rust.Types

open json

namespace webex.rust

structure MercuryActor where
  id : String := ""
  object_type : String := ""
  email_address : Option String := none

structure MercuryObject where
  id : String := ""
  object_type : String := ""
  display_name : Option String := none
  content : Option String := none
  encryption_key_url : Option String := none
  inputs : Option Value := none
  inputs_encrypted : Option String := none
  files : Option (List String) := none

/-- Encrypted inputs arrive as a string and are moved to a field of their own. -/
def MercuryObject.finalize_inputs (object : MercuryObject) : MercuryObject :=
  match object.inputs with
  | some (.string s) => { object with inputs_encrypted := some s, inputs := none }
  | _ => object

structure MercuryTarget where
  id : String := ""
  object_type : String := ""
  encryption_key_url : Option String := none
  tags : List String := []

structure MercuryParent where
  id : String := ""
  parent_type : String := ""

structure MercuryActivity where
  id : String := ""
  url : Option String := none
  verb : String := ""
  actor : MercuryActor := {}
  object : MercuryObject := {}
  target : MercuryTarget := {}
  published : String := ""
  encryption_key_url : Option String := none
  parent : Option MercuryParent := none

structure DecryptedMessage where
  id : String
  url : Option String
  parent_id : Option String
  mentioned_people : List String
  mentioned_groups : List String
  room_id : String
  person_id : String
  person_email : String
  text : String
  html : Option String
  created : String
  room_type : Option String
  files : List String
  raw : MercuryActivity

structure DeletedMessage where
  message_id : String
  room_id : String
  person_id : String

structure MembershipActivity where
  id : String
  actor_id : String
  person_id : String
  room_id : String
  action : String
  created : String
  room_type : Option String
  raw : MercuryActivity

structure AttachmentAction where
  id : String
  message_id : String
  person_id : String
  person_email : String
  room_id : String
  inputs : Value
  created : String
  raw : MercuryActivity

structure RoomActivity where
  id : String
  room_id : String
  actor_id : String
  action : String
  created : String
  raw : MercuryActivity

inductive HandlerEvent
  | message_created (msg : DecryptedMessage)
  | message_updated (msg : DecryptedMessage)
  | message_deleted (msg : DeletedMessage)
  | membership_created (membership : MembershipActivity)
  | attachment_action_created (action : AttachmentAction)
  | room_created (room : RoomActivity)
  | room_updated (room : RoomActivity)
  | connected
  | disconnected (reason : String)
  | reconnecting (attempt : Nat)
  | error (message : String)

inductive MercuryEvent
  | connected
  | disconnected (reason : String)
  | reconnecting (attempt : Nat)
  | activity (activity : MercuryActivity)
  | kms_response (data : Value)
  | error (message : String)

end webex.rust
