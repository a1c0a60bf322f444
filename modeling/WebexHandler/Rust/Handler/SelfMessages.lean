import WebexHandler.Rust.Handler.Lifecycle
import WebexHandler.SelfMessages

open interaction json person_id

namespace webex.rust.handler

/-- The `base64` engines `STANDARD` and `STANDARD_NO_PAD`, one after the other. -/
def standard_decode (text : String) : Option Bytes :=
  (base64.decode true (utf8 text)).or (base64.decode_no_pad true (utf8 text))

/-- The handler's crates with these decoders. -/
def with_decoders (crates : Crates) : Crates :=
  { crates with standard_decode := standard_decode, from_utf8 := person_id.from_utf8 }

def formats : Formats String Char := text_formats fun id => (standard_decode id).bind person_id.from_utf8

theorem extract_person_uuid_eq (crates : Crates) (id : String) :
    extract_person_uuid (with_decoders crates) id = formats.extract_person_uuid id := by
  have hdecode : formats.decode id = ((standard_decode id).bind person_id.from_utf8).map String.toList := rfl
  unfold extract_person_uuid Formats.extract_person_uuid
  rw [hdecode]
  have hcrates : ((with_decoders crates).standard_decode id).bind (with_decoders crates).from_utf8 =
      (standard_decode id).bind person_id.from_utf8 := rfl
  rw [hcrates]
  cases (standard_decode id).bind person_id.from_utf8 with
  | none => rfl
  | some decoded => rfl

variable {crates : Crates}

/-- The events of a message activity that has been decrypted, with an identity stored. -/
def self_message_event (crates : Crates) (bot_person_id : String) (decrypted : MercuryActivity) : Option HandlerEvent :=
  if is_message_activity decrypted then message_event crates decrypted.verb (some bot_person_id) (.ok decrypted)
  else none

/-- Filtering fails closed for the body of a successful response. -/
def FailsClosed (crates : Crates) (status : Nat) (body : Bytes) : Prop :=
  self_messages.FailsClosed formats (parse_bot_person_id (with_decoders crates) (.ok ⟨status, true, body⟩)) some
    (fun activity : MercuryActivity => activity.actor.id) (self_message_event (with_decoders crates))

theorem standard_decode_padded (uri : List Char) :
    standard_decode (padded_text uri) = some (utf8 (String.ofList uri)) := by
  rw [standard_decode, utf8_padded_text, base64.decode_encode, Option.some_or]

theorem standard_decode_unpadded (uri : List Char) :
    standard_decode (unpadded_text uri) = some (utf8 (String.ofList uri)) := by
  rw [standard_decode, utf8_unpadded_text, base64.decode_no_pad_encode]
  by_cases htail : base64.padding (base64.encode_no_pad (utf8 (String.ofList uri))).length = []
  · have hsame : base64.encode_no_pad (utf8 (String.ofList uri)) = base64.encode (utf8 (String.ofList uri)) := by
      rw [base64.encode, htail, List.append_nil]
    rw [hsame, base64.decode_encode, Option.some_or]
  · rw [base64.decode_encode_no_pad true _ htail, Option.none_or]

theorem formats_decode (id : String) :
    formats.decode id = ((standard_decode id).bind person_id.from_utf8).map String.toList := rfl

theorem decode_padded (uri : List Char) : formats.decode (padded_text uri) = some uri := by
  rw [formats_decode, standard_decode_padded, Option.bind_some, from_utf8_utf8, Option.map_some, String.toList_ofList]

theorem decode_unpadded (uri : List Char) : formats.decode (unpadded_text uri) = some uri := by
  rw [formats_decode, standard_decode_unpadded, Option.bind_some, from_utf8_utf8, Option.map_some,
    String.toList_ofList]

theorem formats_lawful : formats.Lawful := text_formats_lawful _

theorem silenced_iff_extracted (bot_person_id id : String) :
    self_messages.Silenced (fun activity : MercuryActivity => activity.actor.id)
      (self_message_event (with_decoders crates) bot_person_id) id ↔ formats.extract_person_uuid id = bot_person_id := by
  rw [← extract_person_uuid_eq crates]
  constructor
  · intro hsilenced
    have hnone := hsilenced { verb := "post", actor := { id := id }, object := { object_type := "comment" } } rfl
    by_contra hother
    simp [self_message_event, is_message_activity, message_event, decrypted_message, Ne.symm hother] at hnone
  · rintro hextract activity rfl
    change extract_person_uuid (with_decoders crates) activity.actor.id = bot_person_id at hextract
    unfold self_message_event message_event
    simp only [decrypted_message, hextract, if_true, ite_self]

theorem parse_bot_person_id_eq_ok {status : Nat} {body : Bytes} {uuid : String} :
    parse_bot_person_id (with_decoders crates) (.ok ⟨status, true, body⟩) = .ok uuid ↔
      ∃ data id, crates.kms.from_slice body = .ok data ∧ (data.get "id").bind Value.as_str = some id ∧
        formats.extract_person_uuid id = uuid := by
  unfold parse_bot_person_id
  have hkms : (with_decoders crates).kms = crates.kms := rfl
  cases hparse : crates.kms.from_slice body with
  | error e => simp [Except.mapError, hkms, hparse, bind, Except.bind]
  | ok data =>
    cases hid : (data.get "id").bind Value.as_str with
    | none => simp [Except.mapError, hkms, hparse, hid, bind, Except.bind]
    | some id => simp [Except.mapError, hkms, hparse, hid, bind, Except.bind, extract_person_uuid_eq]

/-- Filtering fails closed exactly when the body is rejected or has an id whose identity is
    a plain one. -/
theorem fails_closed_iff_plain (status : Nat) (body : Bytes) :
    FailsClosed crates status body ↔ ∀ data id, crates.kms.from_slice body = .ok data →
      (data.get "id").bind Value.as_str = some id → formats.Plain (formats.extract_person_uuid id) := by
  unfold FailsClosed
  rw [self_messages.fails_closed_iff_extracts]
  · simp only [Option.some.injEq, exists_eq_left', Formats.extracts_iff formats_lawful decode_padded decode_unpadded,
      parse_bot_person_id_eq_ok]
    constructor
    · intro hplain data id hdata hid
      exact hplain _ ⟨data, id, hdata, hid, rfl⟩
    · rintro hplain _ ⟨data, id, hdata, hid, rfl⟩
      exact hplain data id hdata hid
  · rintro uuid _ id ⟨⟩ _
    exact silenced_iff_extracted uuid id

section lifecycle

/-- What a call has heard and kept of the bot's identity: the last answer to a request of
    the handler itself, and the identity it has stored. -/
structure Identification where
  answer : Option (Except String FetchResponse) := none
  stored : Option String := none

def Identification.after (g : Identification) : (op : Op) → Res op → Identification
  | .fetch _, answer => { g with answer := some answer }
  | .release .bot_person_id content, _ => { g with stored := content }
  | _, _ => g

/-- The operations of one call, whatever the servers and the other tasks do. -/
def identification : Monitor Op Res Identification where
  allowed _ _ := True
  moves g op r g' := g' = g.after op r

/-- The identity of the last answer has been stored. -/
def Identification.Stored (crates : Crates) (g : Identification) : Prop :=
  ∃ answer uuid, g.answer = some answer ∧ parse_bot_person_id crates answer = .ok uuid ∧ g.stored = some uuid

/-- A function of the handler that leaves the identity alone. -/
def LeavesIdentity {α : Type} (m : Handler α) : Prop :=
  ∀ g, m.Yields identification () g fun _ _ g' => g' = g

variable {α β : Type}

theorem leaves_bind {m : Handler α} {f : α → Handler β} (hm : LeavesIdentity m) (hf : ∀ value, LeavesIdentity (f value)) :
    LeavesIdentity (m >>= f) := by
  intro g
  apply Method.yields_bind (hm g)
  rintro value _ g' rfl
  exact hf value g'

theorem leaves_ofExcept (value : Except WebexError α) : LeavesIdentity (Method.ofExcept value) := fun _ _ _ => rfl

theorem leaves_request {op : Op} (hop : ∀ g r, Identification.after g op r = g) : LeavesIdentity (Method.request op) :=
  fun g => Method.yields_request trivial fun r _ hmove => hmove.trans (hop g r)

theorem leaves_acquire (cell : Cell) : LeavesIdentity (acquire cell) := leaves_request fun _ _ => rfl

theorem leaves_write_cell {cell : Cell} (hcell : cell ≠ .bot_person_id) (content : Content cell) :
    LeavesIdentity (write_cell cell content) := by
  refine leaves_bind (leaves_acquire cell) fun _ => leaves_request fun g _ => ?_
  cases cell with
  | bot_person_id => exact absurd rfl hcell
  | _ => rfl

theorem leaves_mercury_connect (ws_url token : String) : LeavesIdentity (mercury_connect crates ws_url token) := by
  apply leaves_bind (leaves_request fun _ _ => rfl)
  intro timestamp
  apply leaves_bind (leaves_ofExcept _)
  intro prepared_url
  exact leaves_bind (leaves_request fun _ _ => rfl) leaves_ofExcept

theorem leaves_initialize_kms : LeavesIdentity (initialize_kms crates) := by
  apply leaves_bind (leaves_acquire .kms_client)
  intro client
  cases client with
  | none => exact leaves_bind (leaves_request fun _ _ => rfl) fun _ => leaves_ofExcept _
  | some client =>
    refine leaves_bind ?_ fun _ => leaves_bind (leaves_request fun _ _ => rfl) fun _ => leaves_ofExcept _
    intro g
    apply Method.yields_call
    refine Program.obeys_of_inert (fun _ => trivial) ?_ _
    rintro op r g' ⟨_, -, hmove⟩
    exact hmove

theorem LeavesIdentity.stored {m : Handler α} (hm : LeavesIdentity m) {g : Identification} (hstored : g.Stored crates) :
    m.Yields identification () g fun _ _ g' => g'.Stored crates := by
  refine Method.Obeys.mono (hm g) fun r _ g' hleaves value heq => ?_
  rw [hleaves value heq]
  exact hstored

theorem stores_fetch_bot_person_id (g : Identification) :
    (fetch_bot_person_id crates).Yields identification () g fun _ _ g' => g'.Stored crates := by
  apply Method.yields_bind (leaves_bind (leaves_acquire .token) (fun _ =>
    leaves_bind (leaves_request fun _ _ => rfl) fun _ => leaves_ofExcept _) g)
  rintro token _ _ rfl
  apply Method.yields_bind_request trivial
  rintro response _ rfl
  apply Method.yields_bind_ofExcept
  intro uuid huuid
  apply Method.yields_bind_request trivial
  rintro _ _ rfl
  exact Method.yields_request trivial fun _ _ hmove => hmove ▸ ⟨response, uuid, rfl, huuid, rfl⟩

theorem stores_connect_internal (g : Identification) :
    (connect_internal crates true).Yields identification () g fun _ _ g' => g'.Stored crates := by
  have hany : ∀ {α : Type} (m : Handler α) (g : Identification), m.Yields identification () g fun _ _ _ => True :=
    fun m g => Method.yields_of_allowed (fun _ _ => trivial) m
  apply Method.yields_bind (hany _ g)
  intro token _ g _
  apply Method.yields_bind (hany _ g)
  intro reg _ g _
  apply Method.yields_bind (stores_fetch_bot_person_id g)
  intro _ _ g hstored
  refine LeavesIdentity.stored ?_ hstored
  apply leaves_bind (leaves_request fun _ _ => rfl)
  intro mailbox
  apply leaves_bind (leaves_write_cell (by decide) _)
  intro _
  apply leaves_bind (leaves_write_cell (by decide) _)
  intro _
  apply leaves_bind (leaves_mercury_connect _ _)
  intro _
  apply leaves_bind (leaves_request fun _ _ => rfl)
  intro _
  apply leaves_bind leaves_initialize_kms
  intro initialized
  apply leaves_bind (leaves_ofExcept _)
  intro _
  exact leaves_write_cell (by decide) _

/-- A `connect` that succeeds has stored the identity of the answer it got. -/
theorem stores_connect (g : Identification) :
    (connect crates true).Yields identification () g fun _ _ g' => g'.Stored crates := by
  apply Method.yields_bind (leaves_acquire .connecting g)
  intro connecting _ g _
  apply Method.yields_bind (leaves_acquire .connected g)
  intro connected _ g _
  apply Method.yields_bind (leaves_request (fun _ _ => rfl) g)
  intro _ _ g _
  apply Method.yields_bind (leaves_request (fun _ _ => rfl) g)
  intro _ _ g _
  apply Method.yields_bind_reject
  intro _
  apply Method.yields_bind_reject
  intro _
  apply Method.yields_bind (leaves_write_cell (by decide) _ g)
  intro _ _ g _
  apply Method.yields_bind (Method.yields_attempt (stores_connect_internal g))
  intro result _ g hresult
  apply Method.yields_bind (leaves_write_cell (by decide) _ g)
  rintro _ _ _ rfl
  apply Method.yields_bind_ofExcept
  intro value hvalue
  refine LeavesIdentity.stored ?_ (hresult value hvalue)
  apply leaves_bind (leaves_write_cell (by decide) _)
  intro _
  exact leaves_request fun _ _ => rfl

theorem parse_bot_person_id_ok_response {answer : Except String FetchResponse} {uuid : String}
    (hparse : parse_bot_person_id crates answer = .ok uuid) : ∃ status body, answer = .ok ⟨status, true, body⟩ := by
  cases answer with
  | error e => cases hparse
  | ok response =>
    obtain ⟨status, ok, body⟩ := response
    cases ok with
    | true => exact ⟨status, body, rfl⟩
    | false => cases hparse

/-- The handler's `connect` leaves behind what `self_messages.connect` returns: the identity
    stored by one that succeeds is non-empty and silences every actor that it denotes, if
    filtering fails closed for the answer about the bot. -/
theorem connect_fails_closed (g : Identification) :
    (connect (with_decoders crates) true).Yields identification () g fun _ _ g' => ∃ status body uuid,
      g'.answer = some (.ok ⟨status, true, body⟩) ∧ g'.stored = some uuid ∧
      (FailsClosed crates status body → formats.chars uuid ≠ [] ∧ ∀ activities : List MercuryActivity,
        (∀ activity ∈ activities, formats.Denotes uuid activity.actor.id) →
          activities.filterMap (self_message_event (with_decoders crates) uuid) = []) := by
  refine Method.Obeys.mono (stores_connect g) fun r _ g' hstores value heq => ?_
  obtain ⟨answer, uuid, hanswer, hparse, hstored⟩ := hstores value heq
  obtain ⟨status, body, rfl⟩ := parse_bot_person_id_ok_response hparse
  refine ⟨status, body, uuid, hanswer, hstored, fun hclosed => ?_⟩
  obtain ⟨_, ⟨⟩, hnonempty, hsilent⟩ := hclosed _ _ _ uuid (self_messages.connect_of_fetched hparse)
  exact ⟨hnonempty, hsilent⟩

end lifecycle

end webex.rust.handler
