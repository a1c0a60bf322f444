import WebexHandler.PersonId

open person_id

namespace webex.self_messages

section filtering

variable {Id α E Stored A Event : Type} [DecidableEq α]

/-- `connect` with self-message filtering enabled, from the outcomes of its steps: the
    registration, the bot's identity, Mercury and the KMS. It leaves the identity behind.
    The handlers that model `connect` in full relate theirs to it. -/
def connect (registered : Except E Unit) (fetched : Except E Stored) (mercury kms : Except E Unit) :
    Except E Stored := do
  registered
  let bot_person_id ← fetched
  mercury
  kms
  return bot_person_id

theorem connect_eq_ok {registered mercury kms : Except E Unit} {fetched : Except E Stored} {stored : Stored}
    (hconnect : connect registered fetched mercury kms = .ok stored) : fetched = .ok stored := by
  unfold connect at hconnect
  cases registered with
  | error e => cases hconnect
  | ok _ =>
    cases fetched with
    | error e => cases hconnect
    | ok id =>
      cases mercury with
      | error e => cases hconnect
      | ok _ =>
        cases kms with
        | error e => cases hconnect
        | ok _ => exact hconnect

theorem connect_of_fetched {fetched : Except E Stored} {stored : Stored} (hfetched : fetched = .ok stored) :
    connect (.ok ()) fetched (.ok ()) (.ok ()) = .ok stored := by
  rw [hfetched]
  rfl

/-- Self-message filtering fails closed: after a successful `connect` the stored identity
    is a non-empty id, and no sequence of activities by actors that denote it has a message
    event. -/
def FailsClosed (formats : Formats Id α) (fetched : Except E Stored) (stored_id : Stored → Option Id)
    (actor : A → Id) (event : Stored → A → Option Event) : Prop :=
  ∀ registered mercury kms stored, connect registered fetched mercury kms = .ok stored →
    ∃ uuid, stored_id stored = some uuid ∧ formats.chars uuid ≠ [] ∧
      ∀ activities : List A, (∀ activity ∈ activities, formats.Denotes uuid (actor activity)) →
        activities.filterMap (event stored) = []

/-- An actor all of whose activities are filtered. -/
def Silenced (actor : A → Id) (event : A → Option Event) (id : Id) : Prop :=
  ∀ activity, actor activity = id → event activity = none

omit [DecidableEq α] in
theorem fails_closed_iff {formats : Formats Id α} {fetched : Except E Stored} {stored_id : Stored → Option Id}
    {actor : A → Id} {event : Stored → A → Option Event} :
    FailsClosed formats fetched stored_id actor event ↔ ∀ stored, fetched = .ok stored →
      ∃ uuid, stored_id stored = some uuid ∧ formats.chars uuid ≠ [] ∧
        ∀ id, formats.Denotes uuid id → Silenced actor (event stored) id := by
  constructor
  · rintro hclosed stored rfl
    obtain ⟨uuid, hid, hnonempty, hquiet⟩ := hclosed (.ok ()) (.ok ()) (.ok ()) stored rfl
    refine ⟨uuid, hid, hnonempty, ?_⟩
    rintro id hdenotes activity rfl
    have hnone := hquiet [activity] (by simpa using hdenotes)
    rw [List.filterMap_eq_nil_iff] at hnone
    exact hnone activity List.mem_cons_self
  · intro hsilenced registered mercury kms stored hconnect
    obtain ⟨uuid, hid, hnonempty, hquiet⟩ := hsilenced stored (connect_eq_ok hconnect)
    refine ⟨uuid, hid, hnonempty, ?_⟩
    intro activities hall
    rw [List.filterMap_eq_nil_iff]
    intro activity hmem
    exact hquiet _ (hall activity hmem) activity rfl

/-- For a filter that compares the extracted id, filtering fails closed exactly when a
    stored identity is a non-empty id that every id that denotes it is extracted to. -/
theorem fails_closed_iff_extracts {formats : Formats Id α} {fetched : Except E Stored} {stored_id : Stored → Option Id}
    {actor : A → Id} {event : Stored → A → Option Event}
    (hevent : ∀ stored uuid id, stored_id stored = some uuid → formats.chars uuid ≠ [] →
      (Silenced actor (event stored) id ↔ formats.extract_person_uuid id = uuid)) :
    FailsClosed formats fetched stored_id actor event ↔ ∀ stored, fetched = .ok stored →
      ∃ uuid, stored_id stored = some uuid ∧ formats.chars uuid ≠ [] ∧
        ∀ id, formats.Denotes uuid id → formats.extract_person_uuid id = uuid := by
  rw [fails_closed_iff]
  refine forall_congr' fun stored => imp_congr_right fun _ => exists_congr fun uuid => ?_
  refine and_congr_right fun hid => and_congr_right fun hnonempty => ?_
  exact forall_congr' fun id => imp_congr_right fun _ => hevent stored uuid id hid hnonempty

end filtering

/-- An activity that reaches the handler, as far as it decides about a message event, and
    whether it can be decrypted. -/
structure Activity (Id : Type) where
  verb : String
  object_type : String
  actor_id : Id
  decrypted : Bool

inductive MessageEvent (Id : Type)
  | created (person_id : Id)
  | updated (person_id : Id)

def Activity.is_message {Id : Type} (activity : Activity Id) : Bool :=
  ["post", "update", "share"].contains activity.verb && ["comment", "content"].contains activity.object_type

/-- The message route of a port's activity handler, with the condition of its filter. -/
def message_event {Id : Type} (filtered : Id → Bool) (activity : Activity Id) : Option (MessageEvent Id) :=
  if activity.is_message && activity.decrypted then
    if filtered activity.actor_id then none
    else if activity.verb == "update" then some (.updated activity.actor_id)
    else some (.created activity.actor_id)
  else none

theorem silenced_iff {Id : Type} {filtered : Id → Bool} {id : Id} :
    Silenced Activity.actor_id (message_event filtered) id ↔ filtered id = true := by
  constructor
  · intro hsilenced
    have hnone := hsilenced ⟨"post", "comment", id, true⟩ rfl
    by_contra hfiltered
    simp [message_event, Activity.is_message, hfiltered] at hnone
  · rintro hfiltered activity rfl
    unfold message_event
    rw [if_pos hfiltered]
    split
    · rfl
    · rfl

end webex.self_messages
