import Mathlib.Data.List.TakeWhile
import WebexHandler.Base64

namespace person_id

/-- The bytes of a text in UTF-8. -/
def utf8 (text : String) : List UInt8 := text.toByteArray.data.toList

/-- The text that bytes encode, if they are UTF-8. -/
def from_utf8 (bytes : List UInt8) : Option String := String.fromUTF8? bytes.toByteArray

/-- Bytes below 128 as a text. -/
def ascii_text (bytes : List UInt8) : String := String.ofList (bytes.map fun b => Char.ofNat b.toNat)

theorem from_utf8_utf8 (text : String) : from_utf8 (utf8 text) = some text := by
  have hbytes : (utf8 text).toByteArray = text.toByteArray := by
    apply ByteArray.ext
    apply Array.toList_inj.mp
    exact List.toList_data_toByteArray
  unfold from_utf8 String.fromUTF8?
  rw [hbytes, dif_pos text.isValidUTF8]
  rfl

theorem utf8_of_from_utf8 {bytes : List UInt8} {text : String} (htext : from_utf8 bytes = some text) :
    utf8 text = bytes := by
  unfold from_utf8 String.fromUTF8? at htext
  split at htext
  · cases htext
    exact List.toList_data_toByteArray
  · contradiction

theorem utf8_injective {text text' : String} (hsame : utf8 text = utf8 text') : text = text' := by
  have hdecoded : from_utf8 (utf8 text) = some text' := by rw [hsame, from_utf8_utf8]
  rw [from_utf8_utf8] at hdecoded
  exact Option.some.inj hdecoded

theorem utf8_ofList (chars : List Char) : utf8 (String.ofList chars) = chars.flatMap String.utf8EncodeChar := by
  unfold utf8
  rw [String.toByteArray_ofList]
  exact List.toList_data_toByteArray

theorem utf8_ascii_text {bytes : List UInt8} (hascii : ∀ b ∈ bytes, b.toNat < 128) : utf8 (ascii_text bytes) = bytes := by
  rw [ascii_text, utf8_ofList]
  induction bytes with
  | nil => rfl
  | cons b rest ih =>
    simp only [List.mem_cons, forall_eq_or_imp] at hascii
    have hchar : ∀ n < 128, String.utf8EncodeChar (Char.ofNat n) = [UInt8.ofNat n] := by decide
    rw [List.map_cons, List.flatMap_cons, ih hascii.2, hchar b.toNat hascii.1, UInt8.ofNat_toNat]
    rfl

theorem length_le_utf8 (text : String) : text.toList.length ≤ (utf8 text).length := by
  have htext : utf8 text = text.toList.flatMap String.utf8EncodeChar := by
    conv_lhs => rw [← String.ofList_toList (s := text)]
    exact utf8_ofList _
  rw [htext]
  generalize text.toList = chars
  induction chars with
  | nil => simp
  | cons c rest ih =>
    have hsize := Char.utf8Size_pos c
    simp only [List.length_cons, List.flatMap_cons, List.length_append, String.length_utf8EncodeChar]
    omega

theorem length_utf8_of_ascii {text : String} (hascii : ∀ c ∈ text.toList, c.toNat < 128) :
    (utf8 text).length = text.toList.length := by
  have htext : utf8 text = text.toList.flatMap String.utf8EncodeChar := by
    conv_lhs => rw [← String.ofList_toList (s := text)]
    exact utf8_ofList _
  rw [htext]
  generalize text.toList = chars at hascii
  induction chars with
  | nil => rfl
  | cons c rest ih =>
    simp only [List.mem_cons, forall_eq_or_imp] at hascii
    have hchar : ∀ n < 128, (String.utf8EncodeChar (Char.ofNat n)).length = 1 := by decide
    have hc := hchar c.toNat hascii.1
    rw [Char.ofNat_toNat] at hc
    rw [List.flatMap_cons, List.length_append, hc, ih hascii.2, List.length_cons]
    omega

section extraction

variable {Id α : Type} [DecidableEq α]

/-- What follows the last separator. -/
def last_segment (separator : α) (text : List α) : List α :=
  (text.reverse.takeWhile (· != separator)).reverse

theorem last_segment_append {separator : α} {segment : List α} (hfree : separator ∉ segment) (before : List α) :
    last_segment separator (before ++ separator :: segment) = segment := by
  unfold last_segment
  have hsegment : ∀ c ∈ segment.reverse, (c != separator) = true := by
    intro c hmem
    rw [List.mem_reverse] at hmem
    have hne : c ≠ separator := by
      rintro rfl
      exact hfree hmem
    simpa using hne
  rw [List.reverse_append, List.reverse_cons, List.append_assoc, List.takeWhile_append_of_pos hsegment]
  simp

theorem not_mem_last_segment (separator : α) (text : List α) : separator ∉ last_segment separator text := by
  unfold last_segment
  intro hmem
  rw [List.mem_reverse] at hmem
  simpa using List.mem_takeWhile_imp hmem

theorem length_last_segment_lt {separator : α} {text : List α} (hmem : separator ∈ text) :
    (last_segment separator text).length < text.length := by
  have hlength : (last_segment separator text).length + (text.reverse.dropWhile (· != separator)).length = text.length := by
    unfold last_segment
    rw [List.length_reverse, ← List.length_append, List.takeWhile_append_dropWhile, List.length_reverse]
  have hrest : text.reverse.dropWhile (· != separator) ≠ [] := by
    intro hnil
    have hfree := List.dropWhile_eq_nil_iff.mp hnil separator (List.mem_reverse.mpr hmem)
    simp at hfree
  have hpos := List.length_pos_iff.mpr hrest
  omega

/-- The two formats of a person id: a plain one, and the base64 of a URI that ends with
    the plain one. A decoder may fail. -/
structure Formats (Id α : Type) where
  chars : Id → List α
  text : List α → Id
  scheme : List α
  slash : α
  decode : Id → Option (List α)
  padded : List α → Id
  unpadded : List α → Id

/-- The plain format of an id. What does not decode to a URI is taken as plain. -/
def Formats.extract_person_uuid (formats : Formats Id α) (id : Id) : Id :=
  match formats.decode id with
  | none => id
  | some decoded =>
    if formats.scheme.isPrefixOf decoded then
      let uuid := last_segment formats.slash decoded
      if uuid.isEmpty then id else formats.text uuid
    else id

/-- A URI of the scheme that ends with an id. -/
def Formats.uri (formats : Formats Id α) (middle : List α) (id : Id) : List α :=
  formats.scheme ++ middle ++ formats.slash :: formats.chars id

/-- An id denotes another one in one of the formats. -/
def Formats.Denotes (formats : Formats Id α) (uuid id : Id) : Prop :=
  id = uuid ∨ ∃ middle, id = formats.padded (formats.uri middle uuid) ∨ id = formats.unpadded (formats.uri middle uuid)

/-- An id that is not empty, has no separator in it and is extracted to itself. -/
def Formats.Plain (formats : Formats Id α) (uuid : Id) : Prop :=
  formats.chars uuid ≠ [] ∧ formats.slash ∉ formats.chars uuid ∧ formats.extract_person_uuid uuid = uuid

/-- What the formats have to satisfy. -/
structure Formats.Lawful (formats : Formats Id α) : Prop where
  text_chars : ∀ id, formats.text (formats.chars id) = id
  chars_text : ∀ chars, formats.chars (formats.text chars) = chars
  length_le_padded : ∀ uri, uri.length ≤ (formats.chars (formats.padded uri)).length
  length_le_unpadded : ∀ uri, uri.length ≤ (formats.chars (formats.unpadded uri)).length

variable {formats : Formats Id α}

theorem Formats.extract_of_decode (hlawful : formats.Lawful) {id uuid : Id} {middle : List α}
    (hdecode : formats.decode id = some (formats.uri middle uuid)) (hfree : formats.slash ∉ formats.chars uuid)
    (hnonempty : formats.chars uuid ≠ []) : formats.extract_person_uuid id = uuid := by
  unfold extract_person_uuid
  have hscheme : formats.scheme.isPrefixOf (formats.uri middle uuid) = true := by
    rw [List.isPrefixOf_iff_prefix, Formats.uri, List.append_assoc]
    exact List.prefix_append _ _
  simp only [hdecode, hscheme, if_true]
  simp only [Formats.uri, last_segment_append hfree, List.isEmpty_iff, hnonempty, if_false]
  exact hlawful.text_chars uuid

omit [DecidableEq α] in
/-- An encoded id is longer than the plain one, so it never is the plain one. -/
theorem Formats.encoded_ne (hlawful : formats.Lawful) (uuid : Id) (middle : List α) :
    formats.padded (formats.uri middle uuid) ≠ uuid ∧ formats.unpadded (formats.uri middle uuid) ≠ uuid := by
  have hlonger : (formats.chars uuid).length < (formats.uri middle uuid).length := by
    simp only [Formats.uri, List.length_append, List.length_cons]
    omega
  refine ⟨fun heq => ?_, fun heq => ?_⟩
  · have hle := hlawful.length_le_padded (formats.uri middle uuid)
    rw [heq] at hle
    omega
  · have hle := hlawful.length_le_unpadded (formats.uri middle uuid)
    rw [heq] at hle
    omega

/-- Extraction yields the id itself or a text without a separator. -/
theorem Formats.extract_eq_or (hlawful : formats.Lawful) (id : Id) :
    formats.extract_person_uuid id = id ∨ formats.slash ∉ formats.chars (formats.extract_person_uuid id) := by
  unfold extract_person_uuid
  split
  · exact .inl rfl
  · split
    · dsimp only
      split
      · exact .inl rfl
      · rw [hlawful.chars_text]
        exact .inr (not_mem_last_segment _ _)
    · exact .inl rfl

/-- An id is not empty and all that denote it are extracted to it exactly when it is a
    plain one, for decoders that accept both kinds of base64. -/
theorem Formats.extracts_iff (hlawful : formats.Lawful)
    (hpadded : ∀ uri, formats.decode (formats.padded uri) = some uri)
    (hunpadded : ∀ uri, formats.decode (formats.unpadded uri) = some uri) {uuid : Id} :
    (formats.chars uuid ≠ [] ∧ ∀ id, formats.Denotes uuid id → formats.extract_person_uuid id = uuid) ↔
      formats.Plain uuid := by
  constructor
  · rintro ⟨hnonempty, hall⟩
    refine ⟨hnonempty, ?_, hall uuid (.inl rfl)⟩
    have hextract := hall _ (.inr ⟨[], .inl rfl⟩)
    obtain hsame | hfree := extract_eq_or hlawful (formats.padded (formats.uri [] uuid))
    · rw [hextract] at hsame
      exact absurd hsame.symm (encoded_ne hlawful uuid []).1
    · rwa [hextract] at hfree
  · rintro ⟨hnonempty, hfree, hplain⟩
    refine ⟨hnonempty, ?_⟩
    rintro id (rfl | ⟨middle, rfl | rfl⟩)
    · exact hplain
    · exact extract_of_decode hlawful (hpadded _) hfree hnonempty
    · exact extract_of_decode hlawful (hunpadded _) hfree hnonempty

/-- A decoder that rejects some unpadded URI of every id extracts no id from all that
    denote it. -/
theorem Formats.not_extracts (hlawful : formats.Lawful) {uuid : Id}
    (hrejected : ∃ middle, formats.decode (formats.unpadded (formats.uri middle uuid)) = none) :
    ¬ ∀ id, formats.Denotes uuid id → formats.extract_person_uuid id = uuid := by
  intro hall
  obtain ⟨middle, hdecode⟩ := hrejected
  have hextract := hall _ (.inr ⟨middle, .inr rfl⟩)
  simp only [extract_person_uuid, hdecode] at hextract
  exact (encoded_ne hlawful uuid middle).2 hextract

end extraction

section texts

/-- The base64 of a text in UTF-8, as a text. -/
def padded_text (uri : List Char) : String := ascii_text (base64.encode (utf8 (String.ofList uri)))

def unpadded_text (uri : List Char) : String := ascii_text (base64.encode_no_pad (utf8 (String.ofList uri)))

/-- The formats of a person id that is a text, for a decoder. -/
def text_formats (decode : String → Option String) : Formats String Char where
  chars := String.toList
  text := String.ofList
  scheme := "ciscospark://".toList
  slash := '/'
  decode id := (decode id).map String.toList
  padded := padded_text
  unpadded := unpadded_text

theorem ascii_encode_no_pad {bytes : List UInt8} : ∀ b ∈ base64.encode_no_pad bytes, b.toNat < 128 := by
  intro b hmem
  obtain ⟨n, hn, rfl⟩ := base64.mem_encode_no_pad hmem
  exact base64.symbol_ascii hn

theorem ascii_encode {bytes : List UInt8} : ∀ b ∈ base64.encode bytes, b.toNat < 128 := by
  intro b hmem
  obtain hmem | hmem := List.mem_append.mp hmem
  · exact ascii_encode_no_pad b hmem
  · rw [List.eq_of_mem_replicate hmem]
    decide

theorem utf8_padded_text (uri : List Char) : utf8 (padded_text uri) = base64.encode (utf8 (String.ofList uri)) :=
  utf8_ascii_text ascii_encode

theorem utf8_unpadded_text (uri : List Char) :
    utf8 (unpadded_text uri) = base64.encode_no_pad (utf8 (String.ofList uri)) :=
  utf8_ascii_text ascii_encode_no_pad

/-- The encodings of a text start with the symbol of the upper bits of its first byte. -/
theorem encodings_of_head {uri : List Char} {first : UInt8} {rest : List UInt8}
    (hutf8 : utf8 (String.ofList uri) = first :: rest) :
    (∃ chars, (padded_text uri).toList = Char.ofNat (base64.symbol (first.toNat / 4)).toNat :: chars) ∧
      ∃ chars, (unpadded_text uri).toList = Char.ofNat (base64.symbol (first.toNat / 4)).toNat :: chars := by
  obtain ⟨symbols, hsymbols⟩ := base64.encode_no_pad_cons first rest
  simp only [padded_text, unpadded_text, ascii_text, String.toList_ofList, hutf8, base64.encode, hsymbols,
    List.map_cons, List.cons_append]
  exact ⟨⟨_, rfl⟩, ⟨_, rfl⟩⟩

/-- Both encodings are the same for a whole number of triples. -/
theorem padded_text_eq_unpadded {uri : List Char} (hwhole : (utf8 (String.ofList uri)).length % 3 = 0) :
    padded_text uri = unpadded_text uri := by
  have htail := base64.padding_eq_nil.mpr hwhole
  rw [padded_text, unpadded_text, base64.encode, htail, List.append_nil]

theorem length_le_unpadded_text (uri : List Char) : uri.length ≤ (unpadded_text uri).toList.length := by
  have hutf8 := length_le_utf8 (String.ofList uri)
  rw [String.toList_ofList] at hutf8
  have hlength : (unpadded_text uri).toList.length = (base64.encode_no_pad (utf8 (String.ofList uri))).length := by
    simp [unpadded_text, ascii_text]
  rw [hlength, base64.encode_no_pad, List.length_map, base64.length_sextets]
  omega

theorem length_le_padded_text (uri : List Char) : uri.length ≤ (padded_text uri).toList.length := by
  have hle := length_le_unpadded_text uri
  simp only [padded_text, unpadded_text, ascii_text, String.toList_ofList, List.length_map, base64.encode,
    List.length_append] at hle ⊢
  omega

theorem text_formats_chars (decode : String → Option String) : (text_formats decode).chars = String.toList := rfl

theorem text_formats_padded (decode : String → Option String) : (text_formats decode).padded = padded_text := rfl

theorem text_formats_unpadded (decode : String → Option String) : (text_formats decode).unpadded = unpadded_text := rfl

theorem text_formats_lawful (decode : String → Option String) : (text_formats decode).Lawful where
  text_chars _ := String.ofList_toList
  chars_text _ := String.toList_ofList
  length_le_padded uri := by
    rw [text_formats_chars, text_formats_padded]
    exact length_le_padded_text uri
  length_le_unpadded uri := by
    rw [text_formats_chars, text_formats_unpadded]
    exact length_le_unpadded_text uri

end texts

end person_id
