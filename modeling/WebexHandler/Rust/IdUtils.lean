import WebexHandler.Rust.Handler.Environment
import WebexHandler.Rust.Handler.SelfMessages

open person_id

namespace webex.rust.id_utils

open handler (Crates extract_person_uuid formats with_decoders)

/-- The texts of the errors of the decoders of base64 and of UTF-8, for what they reject. -/
structure Errors where
  decode_error : String → String
  from_utf8_error : Bytes → String

def resource_uri (uuid resource_type : String) : String := "ciscospark://us/" ++ resource_type ++ "/" ++ uuid

def to_rest_id (uuid resource_type : String) : String := padded_text (resource_uri uuid resource_type).toList

def from_rest_id (errors : Errors) (rest_id : String) : Except String String :=
  match base64.decode true (utf8 rest_id) with
  | none => .error ("invalid base64 in REST ID: " ++ errors.decode_error rest_id)
  | some decoded =>
    match from_utf8 decoded with
    | none => .error ("invalid UTF-8 in REST ID: " ++ errors.from_utf8_error decoded)
    | some s =>
      if '/' ∈ s.toList then .ok (String.ofList (last_segment '/' s.toList))
      else .error ("invalid REST ID format: " ++ rest_id)

theorem resource_scheme : "ciscospark://us/".toList = "ciscospark://".toList ++ "us/".toList := by
  rw [← String.toList_append]
  rfl

theorem uri_eq (middle : List Char) (uuid : String) :
    formats.uri middle uuid = "ciscospark://".toList ++ middle ++ '/' :: uuid.toList := rfl

/-- The URI of a resource is one that ends with its id. -/
theorem toList_resource_uri (uuid resource_type : String) :
    (resource_uri uuid resource_type).toList = formats.uri ("us/".toList ++ resource_type.toList) uuid := by
  have hslash : "/".toList = ['/'] := rfl
  show ("ciscospark://us/" ++ resource_type ++ "/" ++ uuid).toList = _
  rw [uri_eq, String.toList_append, String.toList_append, String.toList_append, resource_scheme, hslash]
  simp only [List.append_assoc, List.singleton_append]

/-- What the engines decode are the padded and the unpadded encodings. -/
theorem decode_eq_some {id : String} {uri : List Char} :
    formats.decode id = some uri ↔ id = padded_text uri ∨ id = unpadded_text uri := by
  constructor
  · intro hdecode
    rw [handler.formats_decode] at hdecode
    simp only [Option.map_eq_some_iff, Option.bind_eq_some_iff] at hdecode
    obtain ⟨decoded, ⟨bytes, hbytes, htext⟩, rfl⟩ := hdecode
    have hutf8 := utf8_of_from_utf8 htext
    rw [handler.standard_decode, Option.or_eq_some_iff] at hbytes
    obtain hstandard | ⟨_, hno_pad⟩ := hbytes
    · left
      apply utf8_injective
      rw [utf8_padded_text, String.ofList_toList, hutf8, base64.encode_decode hstandard]
    · right
      apply utf8_injective
      rw [utf8_unpadded_text, String.ofList_toList, hutf8, base64.encode_decode_no_pad hno_pad]
  · intro hid
    obtain rfl | rfl := hid
    · exact handler.decode_padded uri
    · exact handler.decode_unpadded uri

/-- The public converter accepts the padded encodings of texts with a slash. -/
theorem from_rest_id_eq_ok {errors : Errors} {rest_id uuid : String} :
    from_rest_id errors rest_id = .ok uuid ↔
      ∃ uri, rest_id = padded_text uri ∧ '/' ∈ uri ∧ uuid = String.ofList (last_segment '/' uri) := by
  constructor
  · intro hok
    unfold from_rest_id at hok
    split at hok
    · contradiction
    · rename_i decoded hdecode
      split at hok
      · contradiction
      · rename_i s htext
        split at hok
        · rename_i hslash
          refine ⟨s.toList, ?_, hslash, (Except.ok.inj hok).symm⟩
          apply utf8_injective
          rw [utf8_padded_text, String.ofList_toList, utf8_of_from_utf8 htext, base64.encode_decode hdecode]
        · contradiction
  · rintro ⟨uri, rfl, hslash, rfl⟩
    have hdecode : base64.decode true (utf8 (padded_text uri)) = some (utf8 (String.ofList uri)) := by
      rw [utf8_padded_text, base64.decode_encode]
    simp only [from_rest_id, hdecode, from_utf8_utf8, String.toList_ofList, hslash, if_true]

theorem to_rest_id_eq (uuid resource_type : String) :
    to_rest_id uuid resource_type = padded_text (formats.uri ("us/".toList ++ resource_type.toList) uuid) := by
  show padded_text (resource_uri uuid resource_type).toList = _
  rw [toList_resource_uri]

/-- A URI of the scheme that ends with an id. -/
def IdUri (uri : List Char) : Prop := "ciscospark://".toList <+: uri ∧ last_segment '/' uri ≠ []

theorem IdUri.slash_mem {uri : List Char} (huri : IdUri uri) : '/' ∈ uri := by
  have hslash : '/' ∈ "ciscospark://".toList := by decide
  exact huri.1.subset hslash

theorem id_uri {middle : List Char} {uuid : String} (hnonempty : uuid ≠ "") (hfree : '/' ∉ uuid.toList) :
    IdUri (formats.uri middle uuid) ∧ String.ofList (last_segment '/' (formats.uri middle uuid)) = uuid := by
  have hlast : last_segment '/' (formats.uri middle uuid) = uuid.toList := by
    rw [uri_eq]
    exact last_segment_append hfree _
  refine ⟨⟨?_, ?_⟩, ?_⟩
  · rw [uri_eq, List.append_assoc]
    exact List.prefix_append _ _
  · rw [hlast]
    intro hnil
    exact hnonempty (String.toList_inj.mp hnil)
  · rw [hlast, String.ofList_toList]

/-- Extraction takes the id of either encoding, and leaves everything else unchanged. -/
theorem extract_encoded {crates : Crates} {id : String} {uri : List Char} (huri : IdUri uri)
    (hid : id = padded_text uri ∨ id = unpadded_text uri) :
    extract_person_uuid (with_decoders crates) id = String.ofList (last_segment '/' uri) := by
  rw [handler.extract_person_uuid_eq]
  unfold Formats.extract_person_uuid
  rw [decode_eq_some.mpr hid]
  have hscheme : formats.scheme.isPrefixOf uri = true := List.isPrefixOf_iff_prefix.mpr huri.1
  have hsegment : (last_segment formats.slash uri).isEmpty = false := by
    rw [← Bool.not_eq_true, List.isEmpty_iff]
    exact huri.2
  simp only [hscheme, if_true, hsegment]
  rfl

theorem encoded_of_extracted {crates : Crates} {id : String}
    (hextract : extract_person_uuid (with_decoders crates) id ≠ id) :
    ∃ uri, IdUri uri ∧ (id = padded_text uri ∨ id = unpadded_text uri) := by
  rw [handler.extract_person_uuid_eq] at hextract
  unfold Formats.extract_person_uuid at hextract
  split at hextract
  · exact absurd rfl hextract
  · rename_i uri hdecode
    split at hextract
    · rename_i hscheme
      dsimp only at hextract
      split at hextract
      · exact absurd rfl hextract
      · rename_i hsegment
        rw [List.isEmpty_iff] at hsegment
        exact ⟨uri, ⟨List.isPrefixOf_iff_prefix.mp hscheme, hsegment⟩, decode_eq_some.mp hdecode⟩
    · exact absurd rfl hextract

/-- An encoded id is longer than what is extracted from it. -/
theorem extracted_ne {id : String} {uri : List Char} (huri : IdUri uri)
    (hid : id = padded_text uri ∨ id = unpadded_text uri) : String.ofList (last_segment '/' uri) ≠ id := by
  have hshorter := length_last_segment_lt huri.slash_mem
  intro hsame
  obtain rfl | rfl := hid
  · have hlonger := length_le_padded_text uri
    rw [← hsame, String.toList_ofList] at hlonger
    omega
  · have hlonger := length_le_unpadded_text uri
    rw [← hsame, String.toList_ofList] at hlonger
    omega

theorem Y_mem_encoded {id : String} {uri : List Char} (huri : IdUri uri)
    (hid : id = padded_text uri ∨ id = unpadded_text uri) : 'Y' ∈ id.toList := by
  obtain ⟨rest, rfl⟩ := huri.1
  have hfirst : utf8 (String.ofList ("ciscospark://".toList ++ rest)) =
      99 :: ("iscospark://".toList ++ rest).flatMap String.utf8EncodeChar := by
    rw [utf8_ofList]
    rfl
  obtain ⟨⟨padded, hpadded⟩, ⟨unpadded, hunpadded⟩⟩ := encodings_of_head hfirst
  obtain rfl | rfl := hid
  · rw [hpadded]
    exact List.mem_cons_self
  · rw [hunpadded]
    exact List.mem_cons_self

/-- The characters of a plain UUID. -/
def is_uuid_char (c : Char) : Bool := c.isDigit || ('a' ≤ c && c ≤ 'f') || ('A' ≤ c && c ≤ 'F') || c == '-'

theorem to_rest_id_inj {uuid resource_type uuid' resource_type' : String} (huuid : '/' ∉ uuid.toList)
    (huuid' : '/' ∉ uuid'.toList) (hsame : to_rest_id uuid resource_type = to_rest_id uuid' resource_type') :
    uuid = uuid' ∧ resource_type = resource_type' := by
  rw [to_rest_id_eq, to_rest_id_eq] at hsame
  have hdecoded := handler.decode_padded (formats.uri ("us/".toList ++ resource_type.toList) uuid)
  rw [hsame, handler.decode_padded] at hdecoded
  have huri := (Option.some.inj hdecoded).symm
  rw [uri_eq, uri_eq] at huri
  have hlast : last_segment '/' ("ciscospark://".toList ++ ("us/".toList ++ resource_type.toList) ++ '/' :: uuid.toList) =
      uuid'.toList := by
    rw [huri]
    exact last_segment_append huuid' _
  rw [last_segment_append huuid] at hlast
  rw [hlast] at huri
  have hbefore := List.append_cancel_right huri
  have htype := List.append_cancel_left (List.append_cancel_left hbefore)
  exact ⟨String.toList_inj.mp hlast, String.toList_inj.mp htype⟩

/-- The laws of the conversions between REST ids and UUIDs. -/
structure CodecLaws (crates : Crates) (errors : Errors) : Prop where
  round_trip : ∀ uuid resource_type, uuid ≠ "" → '/' ∉ uuid.toList →
    from_rest_id errors (to_rest_id uuid resource_type) = .ok uuid
  extracts : ∀ uuid resource_type, uuid ≠ "" → '/' ∉ uuid.toList →
    extract_person_uuid (with_decoders crates) (padded_text (resource_uri uuid resource_type).toList) = uuid ∧
      extract_person_uuid (with_decoders crates) (unpadded_text (resource_uri uuid resource_type).toList) = uuid
  keeps_raw : ∀ id : String, id.toList.all is_uuid_char = true → extract_person_uuid (with_decoders crates) id = id
  injective : ∀ uuid resource_type uuid' resource_type' : String, '/' ∉ uuid.toList → '/' ∉ resource_type.toList →
    '/' ∉ uuid'.toList → '/' ∉ resource_type'.toList →
    to_rest_id uuid resource_type = to_rest_id uuid' resource_type' → uuid = uuid' ∧ resource_type = resource_type'

/-- `to_rest_id` loses nothing that either decoder needs, and neither reads an id into a
    UUID that was already one. -/
theorem codec_laws (crates : Crates) (errors : Errors) : CodecLaws crates errors where
  round_trip uuid resource_type hnonempty hfree := by
    rw [to_rest_id_eq]
    obtain ⟨huri, hlast⟩ := @id_uri ("us/".toList ++ resource_type.toList) uuid hnonempty hfree
    exact from_rest_id_eq_ok.mpr ⟨_, rfl, huri.slash_mem, hlast.symm⟩
  extracts uuid resource_type hnonempty hfree := by
    rw [toList_resource_uri]
    obtain ⟨huri, hlast⟩ := @id_uri ("us/".toList ++ resource_type.toList) uuid hnonempty hfree
    rw [extract_encoded huri (.inl rfl), extract_encoded huri (.inr rfl)]
    exact ⟨hlast, hlast⟩
  keeps_raw id hraw := by
    by_contra hextract
    obtain ⟨uri, huri, hid⟩ := encoded_of_extracted hextract
    have hy := List.all_eq_true.mp hraw 'Y' (Y_mem_encoded huri hid)
    exact absurd hy (by decide)
  injective uuid resource_type uuid' resource_type' huuid _ huuid' _ hsame := to_rest_id_inj huuid huuid' hsame

/-- The unpadded encodings of URIs with an id, where padding is missing. -/
def LacksPadding (id : String) : Prop :=
  ∃ uri, IdUri uri ∧ (utf8 (String.ofList uri)).length % 3 ≠ 0 ∧ id = unpadded_text uri

theorem LacksPadding.from_rest_id_ne_ok {id : String} (hlacks : LacksPadding id) (errors : Errors) (uuid : String) :
    from_rest_id errors id ≠ .ok uuid := by
  obtain ⟨uri, _, hpartial, rfl⟩ := hlacks
  have htail : base64.padding (base64.encode_no_pad (utf8 (String.ofList uri))).length ≠ [] := by
    intro hnil
    exact hpartial (base64.padding_eq_nil.mp hnil)
  have hrejected : base64.decode true (utf8 (unpadded_text uri)) = none := by
    rw [utf8_unpadded_text]
    exact base64.decode_encode_no_pad true _ htail
  unfold from_rest_id
  rw [hrejected]
  exact fun herror => nomatch herror

/-- The public converter agrees with the internal one on exactly the texts that do not lack
    padding. -/
theorem decoders_agree_iff (crates : Crates) (errors : Errors) (s : String) :
    (extract_person_uuid (with_decoders crates) s ≠ s →
      from_rest_id errors s = .ok (extract_person_uuid (with_decoders crates) s)) ↔ ¬ LacksPadding s := by
  constructor
  · rintro hagree hlacks
    obtain ⟨uri, huri, _, hs⟩ := id hlacks
    have hextract := @extract_encoded crates _ _ huri (.inr hs)
    refine hlacks.from_rest_id_ne_ok errors _ (hagree ?_)
    rw [hextract]
    exact extracted_ne huri (.inr hs)
  · intro hpadded hextract
    obtain ⟨uri, huri, hs⟩ := encoded_of_extracted hextract
    rw [extract_encoded huri hs, from_rest_id_eq_ok]
    refine ⟨uri, ?_, huri.slash_mem, rfl⟩
    obtain hs | hs := hs
    · exact hs
    · by_cases hwhole : (utf8 (String.ofList uri)).length % 3 = 0
      · rw [padded_text_eq_unpadded hwhole]
        exact hs
      · exact absurd ⟨uri, huri, hwhole, hs⟩ hpadded

theorem uuid_char_ascii {c : Char} (hc : is_uuid_char c = true) : c.toNat < 128 := by
  simp only [is_uuid_char, Bool.or_eq_true, Bool.and_eq_true, decide_eq_true_eq, beq_iff_eq, Char.isDigit,
    Char.le_def, UInt32.le_iff_toNat_le] at hc
  have hval : c.toNat = c.val.toNat := rfl
  rw [hval]
  obtain ((⟨_, hle⟩ | ⟨_, hle⟩) | ⟨_, hle⟩) | rfl := hc
  · exact Nat.lt_of_le_of_lt hle (by decide)
  · exact Nat.lt_of_le_of_lt hle (by decide)
  · exact Nat.lt_of_le_of_lt hle (by decide)
  · decide

/-- The unpadded id of any person lacks padding, as the URI of a 36-character UUID has 59
    bytes. -/
theorem person_id_lacks_padding {uuid : String} (hchars : uuid.toList.all is_uuid_char = true)
    (hlength : uuid.toList.length = 36) : LacksPadding (unpadded_text (resource_uri uuid "PEOPLE").toList) := by
  have hascii : ∀ c ∈ uuid.toList, c.toNat < 128 := fun c hc => uuid_char_ascii (List.all_eq_true.mp hchars c hc)
  have hfree : '/' ∉ uuid.toList := by
    intro hmem
    exact absurd (List.all_eq_true.mp hchars '/' hmem) (by decide)
  have hnonempty : uuid ≠ "" := by
    rintro rfl
    simp at hlength
  have huri := toList_resource_uri uuid "PEOPLE"
  have hbefore : ("ciscospark://".toList ++ ("us/".toList ++ "PEOPLE".toList)).all (·.toNat < 128) = true := by decide
  simp only [List.all_eq_true, decide_eq_true_eq] at hbefore
  have hall : ∀ c ∈ (resource_uri uuid "PEOPLE").toList, c.toNat < 128 := by
    rw [huri, uri_eq]
    intro c hc
    simp only [List.mem_append, List.mem_cons] at hc hbefore
    obtain hc | rfl | hc := hc
    · exact hbefore c hc
    · decide
    · exact hascii c hc
  refine ⟨_, ?_, ?_, rfl⟩
  · rw [huri]
    exact (id_uri hnonempty hfree).1
  · rw [String.ofList_toList, length_utf8_of_ascii hall, huri, uri_eq, List.length_append, List.length_cons, hlength]
    decide

def sample_errors : Errors where
  decode_error _ := "Invalid padding"
  from_utf8_error _ := "invalid utf-8 sequence of 1 bytes from index 0"

def sample_person_id : String := "Y2lzY29zcGFyazovL3VzL1BFT1BMRS9mYjUxMjU0Zi0zYjM3LTRlNTAtYWEwNC00NTc0NGMyZWZmYzc"

set_option maxRecDepth 4000 in
/-- An unpadded person id is recognised within the handler, and rejected by the public
    converter. -/
theorem unpadded_person_id_rejected :
    extract_person_uuid (with_decoders handler.sample_crates) sample_person_id = "fb51254f-3b37-4e50-aa04-45744c2effc7" ∧
      from_rest_id sample_errors sample_person_id = .error "invalid base64 in REST ID: Invalid padding" ∧
      ¬ ∀ s, extract_person_uuid (with_decoders handler.sample_crates) s ≠ s →
        from_rest_id sample_errors s = .ok (extract_person_uuid (with_decoders handler.sample_crates) s) := by
  have hid : sample_person_id = unpadded_text (resource_uri "fb51254f-3b37-4e50-aa04-45744c2effc7" "PEOPLE").toList := rfl
  have hextract : extract_person_uuid (with_decoders handler.sample_crates) sample_person_id =
      "fb51254f-3b37-4e50-aa04-45744c2effc7" := by
    rw [hid, toList_resource_uri]
    obtain ⟨huri, hlast⟩ := @id_uri ("us/".toList ++ "PEOPLE".toList) "fb51254f-3b37-4e50-aa04-45744c2effc7" (by decide)
      (by decide)
    rw [extract_encoded huri (.inr rfl), hlast]
  have hrejected : from_rest_id sample_errors sample_person_id =
      .error "invalid base64 in REST ID: Invalid padding" := rfl
  refine ⟨hextract, hrejected, fun hagree => ?_⟩
  have haccepted := hagree sample_person_id (by rw [hextract]; decide)
  rw [hrejected] at haccepted
  contradiction

end webex.rust.id_utils
