import WebexHandler.Json
import WebexHandler.SelfMessages

open json person_id

namespace webex.python.handler

structure FetchResponse where
  status : Nat
  ok : Bool
  body : List UInt8

/-- `binascii.a2b_base64` without strict mode, with the groups read so far, last one first.
    Other symbols are skipped, and enough padding ends the text. -/
def a2b_base64 : (text : List UInt8) → (groups : List Nat) → (pads : Nat) → Option (List UInt8)
  | [], groups, _ => if groups.length % 4 = 0 then some (base64.octets groups.reverse) else none
  | c :: rest, groups, pads =>
    if c = base64.pad then
      if 2 ≤ groups.length % 4 then
        if 4 ≤ groups.length % 4 + (pads + 1) then some (base64.octets groups.reverse)
        else a2b_base64 rest groups (pads + 1)
      else a2b_base64 rest groups pads
    else
      match base64.value c with
      | none => a2b_base64 rest groups pads
      | some group => a2b_base64 rest (group :: groups) 0

/-- `base64.b64decode` of a string, which has to be ASCII. -/
def b64decode (text : String) : Option (List UInt8) :=
  if (utf8 text).all fun b => b.toNat < 128 then a2b_base64 (utf8 text) [] 0 else none

def formats : Formats String Char := text_formats fun id => (b64decode id).bind from_utf8

/-- A failure of either decoding leaves the id as it is. -/
def extract_person_uuid (person_id : String) : String := formats.extract_person_uuid person_id

def filter_hint : String :=
  "Set ignore_self_messages=False to skip this check (not recommended — may cause message loops)."

variable (parse_json : List UInt8 → Except String Value)

/-- An identity that is not a string is rejected by `b64decode` with an error that is not
    caught. -/
def fetch_bot_person_id (response : Except String FetchResponse) : Except String String := do
  let response ← response
  if response.ok = false then
    .error ("Failed to fetch bot identity for self-message filtering: HTTP " ++ toString response.status ++ ". " ++
      filter_hint)
  match ← parse_json response.body with
  | .object members =>
    match (Value.object members).get "id" with
    | none => return extract_person_uuid ""
    | some (.string raw_id) => return extract_person_uuid raw_id
    | some _ => .error "argument should be a bytes-like object or ASCII string"
  | _ => .error "object has no attribute 'get'"

/-- The filter of `_handle_activity`. An empty identity switches it off. -/
def filtered (ignore_self_messages : Bool) (bot_person_id person_id : String) : Bool :=
  ignore_self_messages && bot_person_id != "" && extract_person_uuid person_id == bot_person_id

open self_messages in
/-- Filtering fails closed for the body of a successful response. -/
def FailsClosed (status : Nat) (body : List UInt8) : Prop :=
  self_messages.FailsClosed formats (fetch_bot_person_id parse_json (.ok ⟨status, true, body⟩)) some
    Activity.actor_id fun bot_person_id => message_event (filtered true bot_person_id)

/-- Without padding the decoder needs complete quadruples. -/
theorem a2b_base64_symbols (symbols groups : List Nat) (hlt : ∀ n ∈ symbols, n < 64) (pads : Nat)
    (hincomplete : (groups.length + symbols.length) % 4 ≠ 0) :
    a2b_base64 (symbols.map base64.symbol) groups pads = none := by
  induction symbols generalizing groups pads with
  | nil => simpa [a2b_base64] using hincomplete
  | cons n rest ih =>
    simp only [List.mem_cons, forall_eq_or_imp] at hlt
    simp only [List.map_cons, a2b_base64, base64.symbol_ne_pad hlt.1, if_false, base64.value_symbol hlt.1]
    apply ih _ hlt.2
    simp only [List.length_cons] at hincomplete ⊢
    omega

theorem b64decode_unpadded {uri : List Char} (hlength : (utf8 (String.ofList uri)).length % 3 ≠ 0) :
    b64decode (unpadded_text uri) = none := by
  unfold b64decode
  rw [utf8_unpadded_text, base64.encode_no_pad, a2b_base64_symbols _ _ (base64.sextets_lt _)]
  · simp
  · rw [base64.length_sextets, List.length_nil]
    omega

/-- Some URI of every id has a base64 that needs padding. -/
theorem uri_needs_padding (uuid : String) :
    ∃ middle, (utf8 (String.ofList (formats.uri middle uuid))).length % 3 ≠ 0 := by
  have hone : (utf8 (String.ofList (formats.uri ['a'] uuid))).length =
      (utf8 (String.ofList (formats.uri [] uuid))).length + 1 := by
    have hsize : (String.utf8EncodeChar 'a').length = 1 := by decide
    simp only [Formats.uri, utf8_ofList, List.flatMap_append, List.length_append, List.flatMap_cons, List.flatMap_nil,
      hsize, List.length_nil]
    omega
  by_cases hzero : (utf8 (String.ofList (formats.uri [] uuid))).length % 3 = 0
  · exact ⟨['a'], by omega⟩
  · exact ⟨[], hzero⟩

theorem formats_lawful : formats.Lawful := text_formats_lawful _

theorem decode_unpadded (uri : List Char) :
    formats.decode (formats.unpadded uri) = ((b64decode (unpadded_text uri)).bind from_utf8).map String.toList := rfl

variable {parse_json}

theorem fetch_bot_person_id_eq_ok {status : Nat} {body : List UInt8} {uuid : String} :
    fetch_bot_person_id parse_json (.ok ⟨status, true, body⟩) = .ok uuid ↔
      ∃ members raw_id, parse_json body = .ok (.object members) ∧
        ((Value.object members).get "id").getD (.string "") = .string raw_id ∧ extract_person_uuid raw_id = uuid := by
  unfold fetch_bot_person_id
  cases hparse : parse_json body with
  | error e => simp [hparse, bind, Except.bind]
  | ok data =>
    cases data with
    | object members =>
      cases hid : (Value.object members).get "id" with
      | none => simp [hparse, hid, bind, Except.bind, pure, Except.pure]
      | some raw => cases raw <;> simp [hparse, hid, bind, Except.bind, pure, Except.pure]
    | _ => simp [hparse, bind, Except.bind]

/-- Filtering fails closed only when the body is rejected: no identity is compared with ids
    in unpadded base64. -/
theorem fails_closed_iff_rejected (status : Nat) (body : List UInt8) :
    FailsClosed parse_json status body ↔ ∀ members raw_id, parse_json body = .ok (.object members) →
      ((Value.object members).get "id").getD (.string "") ≠ .string raw_id := by
  unfold FailsClosed
  rw [self_messages.fails_closed_iff_extracts]
  · have hnever : ∀ uuid : String, ¬ (formats.chars uuid ≠ [] ∧
        ∀ id, formats.Denotes uuid id → formats.extract_person_uuid id = uuid) := by
      rintro uuid ⟨hnonempty, hall⟩
      obtain ⟨middle, hlength⟩ := uri_needs_padding uuid
      refine Formats.not_extracts formats_lawful ⟨middle, ?_⟩ hall
      rw [decode_unpadded, b64decode_unpadded hlength, Option.bind_none, Option.map_none]
    simp only [Option.some.injEq, exists_eq_left', hnever, imp_false, fetch_bot_person_id_eq_ok]
    constructor
    · intro hrejected members raw_id hdata hid
      exact hrejected _ ⟨members, raw_id, hdata, hid, rfl⟩
    · rintro hrejected _ ⟨members, raw_id, hdata, hid, rfl⟩
      exact hrejected members raw_id hdata hid
  · rintro uuid _ id ⟨⟩ hnonempty
    have hne : uuid ≠ "" := by
      rintro rfl
      exact hnonempty rfl
    rw [self_messages.silenced_iff]
    simp [filtered, extract_person_uuid, hne]

end webex.python.handler
