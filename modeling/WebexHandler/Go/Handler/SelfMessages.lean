import WebexHandler.Json
import WebexHandler.SelfMessages

open json person_id

namespace webex.go.handler

/-- A Go string. -/
abbrev Text := List UInt8

structure FetchResponse where
  status : Nat
  ok : Bool
  body : Text

/-- `encoding/json` for a struct with the one string field `id`. Names are compared without
    regard to case, `null` leaves the field alone, and a later member wins. -/
def unmarshal_id : Value → Except String Text
  | .null => .ok []
  | .object members => members.foldlM (fun id member =>
      if member.1.toLower = "id" then
        match member.2 with
        | .null => .ok id
        | .string s => .ok (utf8 s)
        | _ => .error "json: cannot unmarshal into Go struct field .id of type string"
      else .ok id) []
  | _ => .error "json: cannot unmarshal into Go value of type struct"

def filter_hint : String :=
  "Set IgnoreSelfMessages to false to skip this check (not recommended — may cause message loops)"

/-- `StdEncoding.DecodeString`, which skips line breaks, and then the unpadded variant. -/
def decode_string (id : Text) : Option Text :=
  let text := id.filter fun c => c != 10 && c != 13
  (base64.decode false text).or (base64.decode_no_pad false text)

/-- A person id in Go is a byte string. -/
def formats : Formats Text UInt8 where
  chars id := id
  text chars := chars
  scheme := utf8 "ciscospark://"
  slash := 47
  decode := decode_string
  padded := base64.encode
  unpadded := base64.encode_no_pad

def extract_person_uuid (id : Text) : Text := formats.extract_person_uuid id

variable (parse_json : Text → Except String Value)

def fetch_bot_person_id (response : Except String FetchResponse) : Except String Text := do
  let resp ← response.mapError fun e =>
    "failed to fetch bot identity for self-message filtering: " ++ e ++ ". " ++ filter_hint
  if resp.ok = false then
    .error ("failed to fetch bot identity for self-message filtering: HTTP " ++ toString resp.status ++ ". " ++
      filter_hint)
  let data ← (parse_json resp.body).mapError fun e => "failed to parse bot identity response: " ++ e
  let id ← (unmarshal_id data).mapError fun e => "failed to parse bot identity response: " ++ e
  return extract_person_uuid id

/-- The filter of `handleActivity`. An empty identity switches it off. -/
def filtered (ignore_self_messages : Bool) (bot_person_id person_id : Text) : Bool :=
  ignore_self_messages && !bot_person_id.isEmpty && extract_person_uuid person_id == bot_person_id

open self_messages in
/-- Filtering fails closed for the body of a successful response. -/
def FailsClosed (status : Nat) (body : Text) : Prop :=
  self_messages.FailsClosed formats (fetch_bot_person_id parse_json (.ok ⟨status, true, body⟩)) some
    Activity.actor_id fun bot_person_id => message_event (filtered true bot_person_id)

theorem filter_line_breaks {text : Text} (hsymbols : ∀ c ∈ text, c = base64.pad ∨ ∃ n < 64, base64.symbol n = c) :
    text.filter (fun c => c != 10 && c != 13) = text := by
  rw [List.filter_eq_self]
  intro c hmem
  obtain rfl | ⟨n, hn, rfl⟩ := hsymbols c hmem
  · decide
  · have hall : ∀ n < 64, (base64.symbol n != 10 && base64.symbol n != 13) = true := by decide
    exact hall n hn

theorem decode_string_padded (uri : Text) : decode_string (base64.encode uri) = some uri := by
  have hsymbols : ∀ c ∈ base64.encode uri, c = base64.pad ∨ ∃ n < 64, base64.symbol n = c := by
    intro c hmem
    obtain hmem | hmem := List.mem_append.mp hmem
    · exact .inr (base64.mem_encode_no_pad hmem)
    · exact .inl (List.eq_of_mem_replicate hmem)
  simp only [decode_string, filter_line_breaks hsymbols, base64.decode_encode, Option.some_or]

theorem decode_string_unpadded (uri : Text) : decode_string (base64.encode_no_pad uri) = some uri := by
  have hsymbols : ∀ c ∈ base64.encode_no_pad uri, c = base64.pad ∨ ∃ n < 64, base64.symbol n = c :=
    fun c hmem => .inr (base64.mem_encode_no_pad hmem)
  simp only [decode_string, filter_line_breaks hsymbols, base64.decode_no_pad_encode]
  by_cases htail : base64.padding (base64.encode_no_pad uri).length = []
  · have hsame : base64.encode_no_pad uri = base64.encode uri := by
      rw [base64.encode, htail, List.append_nil]
    rw [hsame, base64.decode_encode, Option.some_or]
  · rw [base64.decode_encode_no_pad false uri htail, Option.none_or]

theorem formats_lawful : formats.Lawful where
  text_chars _ := rfl
  chars_text _ := rfl
  length_le_padded uri := by
    simp only [formats, base64.encode, base64.encode_no_pad, List.length_append, List.length_map, base64.length_sextets]
    omega
  length_le_unpadded uri := by
    simp only [formats, base64.encode_no_pad, List.length_map, base64.length_sextets]
    omega

variable {parse_json}

theorem fetch_bot_person_id_eq_ok {status : Nat} {body uuid : Text} :
    fetch_bot_person_id parse_json (.ok ⟨status, true, body⟩) = .ok uuid ↔
      ∃ data id, parse_json body = .ok data ∧ unmarshal_id data = .ok id ∧ extract_person_uuid id = uuid := by
  unfold fetch_bot_person_id
  cases hparse : parse_json body with
  | error e => simp [Except.mapError, hparse, bind, Except.bind]
  | ok data =>
    cases hid : unmarshal_id data with
    | error e => simp [Except.mapError, hparse, hid, bind, Except.bind]
    | ok id => simp [Except.mapError, hparse, hid, bind, Except.bind, pure, Except.pure]

/-- Filtering fails closed exactly when the body is rejected or has an id whose identity is
    a plain one. -/
theorem fails_closed_iff_plain (status : Nat) (body : Text) :
    FailsClosed parse_json status body ↔ ∀ data id, parse_json body = .ok data → unmarshal_id data = .ok id →
      formats.Plain (extract_person_uuid id) := by
  unfold FailsClosed
  rw [self_messages.fails_closed_iff_extracts]
  · simp only [Option.some.injEq, exists_eq_left',
      Formats.extracts_iff formats_lawful decode_string_padded decode_string_unpadded, fetch_bot_person_id_eq_ok]
    constructor
    · intro hplain data id hdata hid
      exact hplain _ ⟨data, id, hdata, hid, rfl⟩
    · rintro hplain _ ⟨data, id, hdata, hid, rfl⟩
      exact hplain data id hdata hid
  · rintro uuid _ id ⟨⟩ hnonempty
    have hnotEmpty : uuid.isEmpty = false := by
      rw [List.isEmpty_eq_false_iff]
      exact hnonempty
    rw [self_messages.silenced_iff, filtered, hnotEmpty]
    simp [extract_person_uuid]

end webex.go.handler
