import WebexHandler.Json
import WebexHandler.Node.Handler.Lifecycle
import WebexHandler.SelfMessages

open json person_id

namespace webex.node.handler

structure FetchResponse where
  status : Nat
  ok : Bool
  body : List UInt8

/-- What else the handler needs of `Buffer`: the bytes of a value that is not a string, if
    there is such a conversion, and the text of bytes that are not UTF-8. -/
structure Buffers where
  from_value : Option Value → Option (List UInt8)
  replace_invalid : List UInt8 → String

/-- The value of a symbol in the standard or the URL-safe alphabet. -/
def value_url (c : UInt8) : Option Nat :=
  if c = 45 then some 62 else if c = 95 then some 63 else base64.value c

/-- `Buffer.from(id, 'base64')`, which skips other symbols. -/
def buffer_from_base64 (id : String) : List UInt8 := base64.octets ((utf8 id).filterMap value_url)

variable (buffers : Buffers)

/-- `toString('utf-8')`. -/
def to_string_utf8 (bytes : List UInt8) : String := (from_utf8 bytes).getD (buffers.replace_invalid bytes)

def formats : Formats String Char := text_formats fun id => some (to_string_utf8 buffers (buffer_from_base64 id))

/-- `extractPersonUuid` of a string. -/
def extract_person_uuid (id : String) : String := (formats buffers).extract_person_uuid id

/-- `extractPersonUuid` of any value, also of `undefined`. -/
def extract_value_uuid : Option Value → Option Value
  | some (.string id) => some (.string (extract_person_uuid buffers id))
  | id =>
    match buffers.from_value id with
    | none => id
    | some bytes =>
      let decoded := (to_string_utf8 buffers bytes).toList
      let uuid := last_segment '/' decoded
      if "ciscospark://".toList.isPrefixOf decoded && !uuid.isEmpty then some (.string (String.ofList uuid)) else id

def filter_hint : String :=
  "Set ignoreSelfMessages: false to skip this check (not recommended — may cause message loops)."

variable (parse_json : List UInt8 → Except String Value)

/-- `_fetchBotPersonId`. The identity is taken as it is, whatever its type. -/
def fetch_bot_person_id (response : Except String FetchResponse) : Except String (Option Value) := do
  let response ← response
  if response.ok = false then
    .error ("Failed to fetch bot identity for self-message filtering: HTTP " ++ toString response.status ++ ". " ++
      filter_hint)
  match ← parse_json response.body with
  | .null => .error "Cannot read properties of null (reading 'id')"
  | person_info => return extract_value_uuid buffers (person_info.get "id")

/-- The filter of `_handleActivity`. A string is never strictly equal to another value, and
    an empty identity switches the filter off. -/
def filtered (ignore_self_messages : Bool) (bot_person_id : Option Value) (person_id : String) : Bool :=
  match bot_person_id with
  | some (.string bot_person_id) =>
    ignore_self_messages && bot_person_id != "" && extract_person_uuid buffers person_id == bot_person_id
  | _ => false

/-- The stored identity, if it is a string. -/
def stored_string : Option Value → Option String
  | some (.string s) => some s
  | _ => none

open self_messages in
/-- Filtering fails closed for the body of a successful response. -/
def FailsClosed (status : Nat) (body : List UInt8) : Prop :=
  self_messages.FailsClosed (formats buffers) (fetch_bot_person_id buffers parse_json (.ok ⟨status, true, body⟩))
    stored_string Activity.actor_id fun bot_person_id => message_event (filtered buffers true bot_person_id)

theorem filterMap_symbols {groups : List Nat} (hlt : ∀ n ∈ groups, n < 64) :
    (groups.map base64.symbol).filterMap value_url = groups := by
  have hvalue : ∀ n < 64, value_url (base64.symbol n) = some n := by decide
  induction groups with
  | nil => rfl
  | cons n rest ih =>
    simp only [List.mem_cons, forall_eq_or_imp] at hlt
    rw [List.map_cons, List.filterMap_cons_some (hvalue n hlt.1), ih hlt.2]

theorem filterMap_encode_no_pad (bytes : List UInt8) :
    base64.octets ((base64.encode_no_pad bytes).filterMap value_url) = bytes := by
  rw [base64.encode_no_pad, filterMap_symbols (base64.sextets_lt bytes), base64.octets_sextets]

theorem filterMap_padding (length : Nat) : (base64.padding length).filterMap value_url = [] := by
  rw [List.filterMap_eq_nil_iff]
  intro c hmem
  rw [List.eq_of_mem_replicate hmem]
  decide

variable {buffers parse_json}

theorem to_string_utf8_ofList (uri : List Char) :
    to_string_utf8 buffers (utf8 (String.ofList uri)) = String.ofList uri := by
  rw [to_string_utf8, from_utf8_utf8, Option.getD_some]

theorem formats_decode (id : String) :
    (formats buffers).decode id = some (to_string_utf8 buffers (buffer_from_base64 id)).toList := rfl

theorem decode_padded (uri : List Char) : (formats buffers).decode (padded_text uri) = some uri := by
  rw [formats_decode, buffer_from_base64, utf8_padded_text, base64.encode, List.filterMap_append, filterMap_padding,
    List.append_nil, filterMap_encode_no_pad, to_string_utf8_ofList, String.toList_ofList]

theorem decode_unpadded (uri : List Char) : (formats buffers).decode (unpadded_text uri) = some uri := by
  rw [formats_decode, buffer_from_base64, utf8_unpadded_text, filterMap_encode_no_pad, to_string_utf8_ofList,
    String.toList_ofList]

theorem formats_lawful : (formats buffers).Lawful := text_formats_lawful _

theorem fetch_bot_person_id_eq_ok {status : Nat} {body : List UInt8} {stored : Option Value} :
    fetch_bot_person_id buffers parse_json (.ok ⟨status, true, body⟩) = .ok stored ↔
      ∃ person_info, parse_json body = .ok person_info ∧ person_info ≠ .null ∧
        extract_value_uuid buffers (person_info.get "id") = stored := by
  unfold fetch_bot_person_id
  cases hparse : parse_json body with
  | error e => simp [hparse, bind, Except.bind]
  | ok person_info => cases person_info <;> simp [hparse, bind, Except.bind, pure, Except.pure]

theorem stored_string_eq_some {stored : Option Value} {uuid : String} :
    stored_string stored = some uuid ↔ stored = some (.string uuid) := by
  unfold stored_string
  split
  · simp
  · rename_i hother
    constructor
    · intro hnone
      cases hnone
    · intro hstring
      exact absurd hstring (hother uuid)

/-- Filtering fails closed exactly when the body is rejected or has an id whose identity is
    a string and a plain one. -/
theorem fails_closed_iff_plain (status : Nat) (body : List UInt8) :
    FailsClosed buffers parse_json status body ↔
      ∀ person_info, parse_json body = .ok person_info → person_info ≠ .null →
        ∃ uuid, extract_value_uuid buffers (person_info.get "id") = some (.string uuid) ∧
          (formats buffers).Plain uuid := by
  unfold FailsClosed
  rw [self_messages.fails_closed_iff_extracts]
  · simp only [Formats.extracts_iff formats_lawful decode_padded decode_unpadded, fetch_bot_person_id_eq_ok,
      stored_string_eq_some]
    constructor
    · intro hplain person_info hinfo hnull
      exact hplain _ ⟨person_info, hinfo, hnull, rfl⟩
    · rintro hplain _ ⟨person_info, hinfo, hnull, rfl⟩
      exact hplain person_info hinfo hnull
  · intro stored uuid id hstored hnonempty
    have hne : uuid ≠ "" := by
      rintro rfl
      exact hnonempty rfl
    rw [stored_string_eq_some] at hstored
    rw [self_messages.silenced_iff, hstored]
    simp [filtered, extract_person_uuid, hne]

/-- How the promise of a step settles. -/
def settled {E α : Type} (value : α → Outcome) : Except E α → Outcome
  | .ok v => value v
  | .error _ => .rejected

namespace WebexMessageHandler

/-- The promise settles that a call with the handler to itself awaits. -/
def proceed : WebexMessageHandler × List Activation → Outcome → WebexMessageHandler × List Activation
  | (self, [activation]), outcome => (self.settle activation outcome).getD (self, [activation])
  | state, _ => state

variable {E : Type} {self : WebexMessageHandler}

/-- A `connect` that has the handler to itself, from the outcomes of its steps. -/
def connect_alone (self : WebexMessageHandler) (registered : Except E DeviceRegistration) (fetched : Except E String)
    (mercury kms : Except E Unit) : WebexMessageHandler × List Activation :=
  [settled .registered registered, settled .person fetched, settled (fun _ => .resolved) mercury,
    settled (fun _ => .resolved) kms].foldl proceed self.connect

theorem foldl_proceed_nil (outcomes : List Outcome) : outcomes.foldl proceed (self, []) = (self, []) := by
  induction outcomes with
  | nil => rfl
  | cons outcome rest ih => exact ih

/-- A rejection ends a `connect`, whatever settles later. -/
theorem foldl_proceed_rejected {activation : Activation} (hconnect : activation.is_connect = true) (outcomes : List Outcome) :
    (Outcome.rejected :: outcomes).foldl proceed (self, [activation]) = ({ self with connecting := false }, []) := by
  have hfailed : proceed (self, [activation]) .rejected = ({ self with connecting := false }, []) := by
    cases activation with
    | connect_register | connect_fetch_bot | connect_mercury | connect_kms => rfl
    | _ => cases hconnect
  rw [List.foldl_cons, hfailed, foldl_proceed_nil]

/-- A `connect` that has the handler to itself succeeds exactly if `self_messages.connect`
    does, and has then stored the identity that this returns. -/
theorem connect_alone_connected_iff (hadmitted : self.connect_admitted = true) (hself : self.ignore_self_messages = true)
    (registered : Except E DeviceRegistration) (fetched : Except E String) (mercury kms : Except E Unit) :
    ((self.connect_alone registered fetched mercury kms).1.connected = true ↔
        ∃ uuid, self_messages.connect (registered.map fun _ => ()) fetched mercury kms = .ok uuid) ∧
      ∀ uuid, self_messages.connect (registered.map fun _ => ()) fetched mercury kms = .ok uuid →
        (self.connect_alone registered fetched mercury kms).1.bot_person_id = some uuid := by
  simp only [connect_admitted, Bool.and_eq_true, Bool.not_eq_true'] at hadmitted
  obtain ⟨hconnecting, hconnected⟩ := hadmitted
  have hbegun : self.connect = ({ self with connecting := true }, [.connect_register]) := by
    simp [connect, hconnecting, hconnected]
  rw [connect_alone, hbegun]
  cases registered with
  | error e =>
    rw [settled, foldl_proceed_rejected rfl]
    simp [self_messages.connect, Except.map, bind, Except.bind, hconnected]
  | ok reg =>
    cases fetched with
    | error e =>
      simp [settled, proceed, settle, connect_failed, self_messages.connect, Except.map, bind, Except.bind, hconnected, hself]
    | ok uuid =>
      cases mercury with
      | error e =>
        simp [settled, proceed, settle, connect_create_kms, connect_failed, self_messages.connect, Except.map, bind,
          Except.bind, hconnected, hself]
      | ok _ =>
        cases kms with
        | error e =>
          simp [settled, proceed, settle, connect_create_kms, connect_initialize_kms, connect_failed, self_messages.connect,
            Except.map, bind, Except.bind, hconnected, hself]
        | ok _ =>
          simp [settled, proceed, settle, connect_create_kms, connect_initialize_kms, connect_succeeded, self_messages.connect,
            Except.map, bind, Except.bind, pure, Except.pure, hself]

/-- The identity that it has stored is non-empty and silences every actor that it denotes,
    if filtering fails closed for the answer about the bot. -/
theorem connect_alone_fails_closed (hadmitted : self.connect_admitted = true) (hself : self.ignore_self_messages = true)
    {status : Nat} {body : List UInt8} (hclosed : FailsClosed buffers parse_json status body)
    (registered : Except String DeviceRegistration) {fetched : Except String String} (mercury kms : Except String Unit)
    (hfetched : ∀ uuid, fetched = .ok uuid →
      fetch_bot_person_id buffers parse_json (.ok ⟨status, true, body⟩) = .ok (some (.string uuid)))
    (hconnected : (self.connect_alone registered fetched mercury kms).1.connected = true) :
    ∃ uuid, (self.connect_alone registered fetched mercury kms).1.bot_person_id = some uuid ∧
      (formats buffers).chars uuid ≠ [] ∧ ∀ activities : List (self_messages.Activity String),
        (∀ activity ∈ activities, (formats buffers).Denotes uuid activity.actor_id) →
          activities.filterMap (self_messages.message_event (filtered buffers true (some (.string uuid)))) = [] := by
  obtain ⟨hiff, hstored⟩ := connect_alone_connected_iff hadmitted hself registered fetched mercury kms
  obtain ⟨uuid, hconnect⟩ := hiff.mp hconnected
  have hidentity := hfetched uuid (self_messages.connect_eq_ok hconnect)
  obtain ⟨_, ⟨⟩, hnonempty, hsilent⟩ := hclosed _ _ _ (some (.string uuid)) (self_messages.connect_of_fetched hidentity)
  exact ⟨uuid, hstored uuid hconnect, hnonempty, hsilent⟩

end WebexMessageHandler

end webex.node.handler
