import WebexHandler.Rust.MessageDecryptor

open interaction json

namespace webex.rust.handler

open kms_client (KmsClient)
open message_decryptor (decrypt_activity)

def infer_room_type (activity : MercuryActivity) : Option String :=
  let tags := activity.target.tags
  if tags.contains "ONE_ON_ONE" then some "direct"
  else if tags.contains "TEAM" || tags.contains "LOCKED" || tags.contains "GROUP" then some "group"
  else none

def is_message_activity (activity : MercuryActivity) : Bool :=
  ["post", "update", "share"].contains activity.verb && ["comment", "content"].contains activity.object.object_type

def is_deletion (activity : MercuryActivity) : Bool :=
  activity.verb == "delete" && activity.object.object_type == "activity"

def is_membership (activity : MercuryActivity) : Bool :=
  ["add", "leave", "assignModerator", "unassignModerator"].contains activity.verb &&
    activity.object.object_type == "person"

def is_card_action (activity : MercuryActivity) : Bool :=
  activity.verb == "cardAction" && activity.object.object_type == "submit"

def is_room_activity (activity : MercuryActivity) : Bool :=
  (activity.verb == "create" || activity.verb == "update") && activity.object.object_type == "conversation"

/-- One of the routes of `handle_activity_static` takes the activity. -/
def is_routed (activity : MercuryActivity) : Bool :=
  is_message_activity activity || is_deletion activity || is_membership activity || is_card_action activity ||
    is_room_activity activity

def deleted_message (activity : MercuryActivity) : DeletedMessage where
  message_id := activity.object.id
  room_id := activity.target.id
  person_id := activity.actor.id

def membership_activity (activity : MercuryActivity) : MembershipActivity where
  id := activity.id
  actor_id := activity.actor.id
  person_id := activity.object.id
  room_id := activity.target.id
  action := activity.verb
  created := activity.published
  room_type := infer_room_type activity
  raw := activity

def attachment_action (decrypted : MercuryActivity) : AttachmentAction where
  id := decrypted.id
  message_id := (decrypted.parent.map MercuryParent.id).getD ""
  person_id := decrypted.actor.id
  person_email := decrypted.actor.email_address.getD ""
  room_id := decrypted.target.id
  inputs := decrypted.object.inputs.getD (.object [])
  created := decrypted.published
  raw := decrypted

def room_activity (activity : MercuryActivity) : RoomActivity where
  id := activity.id
  room_id := activity.target.id
  actor_id := activity.actor.id
  action := if activity.verb == "create" then "created" else "updated"
  created := activity.published
  raw := activity

variable (crates : Crates)

/-- The UUID of a person id in either of its two formats. -/
def extract_person_uuid (id : String) : String :=
  match (crates.standard_decode id).bind crates.from_utf8 with
  | none => id
  | some decoded =>
    if "ciscospark://".toList.isPrefixOf decoded.toList then
      let uuid := (decoded.toList.reverse.takeWhile (· != '/')).reverse
      if uuid.isEmpty then id else String.ofList uuid
    else id

def decrypted_message (decrypted : MercuryActivity) : DecryptedMessage where
  id := decrypted.id
  url := decrypted.url
  parent_id := decrypted.parent.map MercuryParent.id
  mentioned_people := (crates.parse_mentions decrypted.object.content).1
  mentioned_groups := (crates.parse_mentions decrypted.object.content).2
  room_id := decrypted.target.id
  person_id := decrypted.actor.id
  person_email := decrypted.actor.email_address.getD ""
  text := decrypted.object.display_name.getD ""
  html := decrypted.object.content
  created := decrypted.published
  room_type := infer_room_type decrypted
  files := decrypted.object.files.getD []
  raw := decrypted

/-- The message route, up to its event. A message by the bot itself has none. -/
def message_event (verb : String) (bot_person_id : Option String) (decrypted : Except WebexError MercuryActivity) :
    Option HandlerEvent :=
  match decrypted with
  | .error e => some (.error e.to_string)
  | .ok decrypted =>
    let msg := decrypted_message crates decrypted
    if bot_person_id = some (extract_person_uuid crates msg.person_id) then none
    else if verb == "update" then some (.message_updated msg) else some (.message_created msg)

def send_event : Option HandlerEvent → Handler Unit
  | none => return ()
  | some event => send event

/-- `handle_activity_static`, on the `KmsClient` of the guard. It returns the client
    as the decryption leaves it. -/
def handle_activity_static (mailbox : Nat) (kms : KmsClient) (activity : MercuryActivity)
    (bot_person_id : Option String) : Handler KmsClient := do
  if is_message_activity activity then do
    let (decrypted, kms) ← call_kms mailbox (decrypt_activity crates activity) kms
    send_event (message_event crates activity.verb bot_person_id decrypted)
    return kms
  else if is_deletion activity then do
    send (.message_deleted (deleted_message activity))
    return kms
  else if is_membership activity then do
    send (.membership_created (membership_activity activity))
    return kms
  else if is_card_action activity then do
    let (decrypted, kms) ← call_kms mailbox (decrypt_activity crates activity) kms
    send (.attachment_action_created (attachment_action (decrypted.toOption.getD activity)))
    return kms
  else if is_room_activity activity then do
    send (if activity.verb == "create" then .room_created (room_activity activity)
      else .room_updated (room_activity activity))
    return kms
  else return kms

/-- The task spawned for an activity. The guard on the client is held to its end. -/
def activity_task (activity : MercuryActivity) : Handler Unit := do
  match ← acquire .kms_client with
  | some (mailbox, kms) => do
    let bot_id ← read_cell .bot_person_id
    let kms ← handle_activity_static crates mailbox kms activity bot_id
    release .kms_client (some (mailbox, kms))
  | none => release .kms_client none

end webex.rust.handler
