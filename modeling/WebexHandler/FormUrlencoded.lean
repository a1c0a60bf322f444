import WebexHandler.PersonId

open person_id

namespace form_urlencoded

abbrev Bytes := List UInt8

section utf8

/-- The number of bytes behind the first one of a UTF-8 sequence, and the range of the
    second one. A byte that begins no longer sequence has none behind it. -/
def trail (lead : UInt8) : Nat × Nat × Nat :=
  let lead := lead.toNat
  if 0xC2 ≤ lead ∧ lead ≤ 0xDF then (1, 0x80, 0xBF)
  else if lead = 0xE0 then (2, 0xA0, 0xBF)
  else if lead = 0xED then (2, 0x80, 0x9F)
  else if 0xE1 ≤ lead ∧ lead ≤ 0xEF then (2, 0x80, 0xBF)
  else if lead = 0xF0 then (3, 0x90, 0xBF)
  else if 0xF1 ≤ lead ∧ lead ≤ 0xF3 then (3, 0x80, 0xBF)
  else if lead = 0xF4 then (3, 0x80, 0x8F)
  else (0, 0, 0)

/-- The length of the part of a sequence that stands at the head of bytes which begin
    with no whole one. -/
def ill_formed : Bytes → Nat
  | lead :: second :: rest =>
    let (behind, low, high) := trail lead
    if 0 < behind ∧ low ≤ second.toNat ∧ second.toNat ≤ high then
      2 + ((rest.take (behind - 2)).takeWhile fun b => 0x80 ≤ b.toNat && b.toNat ≤ 0xBF).length
    else 1
  | _ => 1

/-- Decoding step by step, for at most so many characters. -/
def lossy_chars : Nat → Bytes → List Char
  | fuel + 1, b :: rest =>
    match (b :: rest).toByteArray.utf8DecodeChar? 0 with
    | some c => c :: lossy_chars fuel ((b :: rest).drop c.utf8Size)
    | none => '\uFFFD' :: lossy_chars fuel ((b :: rest).drop (ill_formed (b :: rest)))
  | _, _ => []

/-- The text of bytes in UTF-8, with the replacement character for each part of a
    sequence that is not a whole one. -/
def from_utf8_lossy (bytes : Bytes) : String := String.ofList (lossy_chars bytes.length bytes)

theorem lossy_chars_encode {fuel : Nat} {chars : List Char} (hfuel : chars.length ≤ fuel) :
    lossy_chars fuel (chars.flatMap String.utf8EncodeChar) = chars := by
  induction chars generalizing fuel with
  | nil => cases fuel <;> rfl
  | cons c rest ih =>
    cases fuel with
    | zero => exact absurd hfuel (Nat.not_succ_le_zero _)
    | succ fuel =>
      have hdecode : ((c :: rest).flatMap String.utf8EncodeChar).toByteArray.utf8DecodeChar? 0 = some c := by
        rw [List.flatMap_cons, List.toByteArray_append]
        exact ByteArray.utf8DecodeChar?_utf8EncodeChar_append
      have hdrop : ((c :: rest).flatMap String.utf8EncodeChar).drop c.utf8Size = rest.flatMap String.utf8EncodeChar := by
        rw [List.flatMap_cons, ← String.length_utf8EncodeChar, List.drop_left]
      cases hbytes : (c :: rest).flatMap String.utf8EncodeChar with
      | nil =>
        have hlength := congrArg List.length hbytes
        have hsize := Char.utf8Size_pos c
        simp only [List.flatMap_cons, List.length_append, String.length_utf8EncodeChar, List.length_nil] at hlength
        omega
      | cons b bytes =>
        rw [hbytes] at hdecode hdrop
        simp only [lossy_chars, hdecode, hdrop]
        rw [ih (Nat.le_of_succ_le_succ hfuel)]

theorem from_utf8_lossy_utf8 (text : String) : from_utf8_lossy (utf8 text) = text := by
  have htext : utf8 text = text.toList.flatMap String.utf8EncodeChar := by
    conv_lhs => rw [← String.ofList_toList (s := text)]
    exact utf8_ofList _
  have hlength := length_le_utf8 text
  rw [htext] at hlength
  rw [from_utf8_lossy, htext, lossy_chars_encode hlength, String.ofList_toList]

/-- Only from no bytes at all comes an empty text. -/
theorem from_utf8_lossy_eq_empty {bytes : Bytes} : from_utf8_lossy bytes = "" ↔ bytes = [] := by
  constructor
  · intro hempty
    cases bytes with
    | nil => rfl
    | cons b rest =>
      have hchars : lossy_chars (rest.length + 1) (b :: rest) = [] := String.ofList_inj.mp hempty
      unfold lossy_chars at hchars
      split at hchars <;> exact absurd hchars nofun
  · rintro rfl
    rfl

end utf8

section escapes

def ampersand : UInt8 := 38
def equals : UInt8 := 61
def percent : UInt8 := 37
def plus : UInt8 := 43
def space : UInt8 := 32

def hex_digit (n : Nat) : UInt8 := if n < 10 then UInt8.ofNat (48 + n) else UInt8.ofNat (55 + n)

def hex_value (b : UInt8) : Option Nat :=
  if 48 ≤ b.toNat ∧ b.toNat ≤ 57 then some (b.toNat - 48)
  else if 65 ≤ b.toNat ∧ b.toNat ≤ 70 then some (b.toNat - 55)
  else if 97 ≤ b.toNat ∧ b.toNat ≤ 102 then some (b.toNat - 87)
  else none

/-- The byte of two digits. -/
def hex_byte (high low : UInt8) : Option UInt8 := do
  let high ← hex_value high
  let low ← hex_value low
  return UInt8.ofNat (high * 16 + low)

/-- Decoding of the escapes. A percent sign without two digits stands for itself. -/
def percent_decode : Bytes → Bytes
  | b :: high :: low :: rest =>
    match if b = percent then hex_byte high low else none with
    | some escaped => escaped :: percent_decode rest
    | none => b :: percent_decode (high :: low :: rest)
  | bytes => bytes

def escape (b : UInt8) : Bytes := [percent, hex_digit (b.toNat / 16), hex_digit (b.toNat % 16)]

/-- Visible ASCII bytes other than the hash sign, which ends a query. -/
def query_byte (b : UInt8) : Bool := 32 < b.toNat && b.toNat < 127 && b != 35

/-- Bytes that stand for themselves, none of them with a meaning in the format. -/
structure Charset where
  keeps : UInt8 → Bool
  plain : ∀ b, keeps b = true → query_byte b = true ∧ b ≠ ampersand ∧ b ≠ equals ∧ b ≠ percent ∧ b ≠ plus

def encode_byte (charset : Charset) (b : UInt8) : Bytes :=
  if charset.keeps b then [b] else if b = space then [plus] else escape b

def encode (charset : Charset) (bytes : Bytes) : Bytes := bytes.flatMap (encode_byte charset)

def decode (bytes : Bytes) : Bytes := percent_decode (bytes.map fun b => if b = plus then space else b)

theorem hex_byte_digits (b : UInt8) : hex_byte (hex_digit (b.toNat / 16)) (hex_digit (b.toNat % 16)) = some b := by
  have hdigit : ∀ n < 16, hex_value (hex_digit n) = some n := by decide
  have hb : b.toNat < 256 := b.toNat_lt
  have hsum : b.toNat / 16 * 16 + b.toNat % 16 = b.toNat := by omega
  rw [hex_byte, hdigit (b.toNat / 16) (by omega), hdigit (b.toNat % 16) (by omega)]
  simp only [Option.bind_eq_bind, Option.bind_some, Option.pure_def, hsum, UInt8.ofNat_toNat]

theorem percent_decode_cons {b : UInt8} (hb : b ≠ percent) (rest : Bytes) :
    percent_decode (b :: rest) = b :: percent_decode rest := by
  match rest with
  | [] => rfl
  | [_] => rfl
  | high :: low :: rest => rw [percent_decode, if_neg hb]

theorem percent_decode_eq_nil {bytes : Bytes} : percent_decode bytes = [] ↔ bytes = [] := by
  constructor
  · intro hnil
    unfold percent_decode at hnil
    split at hnil
    · split at hnil <;> exact absurd hnil nofun
    · exact hnil
  · rintro rfl
    rfl

theorem decode_eq_nil {bytes : Bytes} : decode bytes = [] ↔ bytes = [] := by
  rw [decode, percent_decode_eq_nil, List.map_eq_nil_iff]

theorem percent_decode_escape (b : UInt8) (rest : Bytes) : percent_decode (escape b ++ rest) = b :: percent_decode rest := by
  simp only [escape, List.cons_append, List.nil_append, percent_decode, if_true, hex_byte_digits]

theorem escape_ne {b special : UInt8} (hspecial : special = ampersand ∨ special = equals ∨ special = plus) :
    special ∉ escape b := by
  have hdigit : ∀ n < 16, special ≠ hex_digit n := by
    obtain rfl | rfl | rfl := hspecial <;> decide
  have hpercent : special ≠ percent := by
    obtain rfl | rfl | rfl := hspecial <;> decide
  have hb : b.toNat < 256 := b.toNat_lt
  simp only [escape, List.mem_cons, List.not_mem_nil, or_false, not_or]
  exact ⟨hpercent, hdigit _ (by omega), hdigit _ (by omega)⟩

variable (charset : Charset)

theorem decode_encode_byte (b : UInt8) (rest : Bytes) : decode (encode_byte charset b ++ rest) = b :: decode rest := by
  unfold decode encode_byte
  split
  · rename_i hkeeps
    obtain ⟨-, -, -, hpercent, hplus⟩ := charset.plain b hkeeps
    rw [List.singleton_append, List.map_cons, if_neg hplus, percent_decode_cons hpercent]
  split
  · rename_i hspace
    rw [List.singleton_append, List.map_cons, if_pos rfl, percent_decode_cons (by decide), hspace]
  · have hmap : (escape b).map (fun b => if b = plus then space else b) = escape b := by
      refine (List.map_congr_left fun c hmem => if_neg ?_).trans (List.map_id _)
      rintro rfl
      exact escape_ne (.inr (.inr rfl)) hmem
    rw [List.map_append, hmap, percent_decode_escape]

theorem decode_encode (bytes : Bytes) : decode (encode charset bytes) = bytes := by
  induction bytes with
  | nil => rfl
  | cons b rest ih => rw [encode, List.flatMap_cons, decode_encode_byte, ← encode, ih]

/-- Encoded bytes contain no separator. -/
theorem not_mem_encode {separator : UInt8} (hseparator : separator = ampersand ∨ separator = equals) (bytes : Bytes) :
    separator ∉ encode charset bytes := by
  intro hmem
  obtain ⟨b, -, hmem⟩ := List.mem_flatMap.mp hmem
  unfold encode_byte at hmem
  split at hmem
  · rename_i hkeeps
    obtain ⟨-, hampersand, hequals, -⟩ := charset.plain b hkeeps
    rw [List.mem_singleton] at hmem
    obtain h | h := hseparator
    · exact hampersand (hmem.symm.trans h)
    · exact hequals (hmem.symm.trans h)
  split at hmem
  · obtain rfl | rfl := hseparator <;> exact absurd hmem (by decide)
  · obtain h | h := hseparator
    · exact escape_ne (.inl h) hmem
    · exact escape_ne (.inr (.inl h)) hmem

theorem encode_query_bytes (bytes : Bytes) : ∀ b ∈ encode charset bytes, query_byte b = true := by
  have hdigit : ∀ n < 16, query_byte (hex_digit n) = true := by decide
  intro b hmem
  obtain ⟨source, -, hmem⟩ := List.mem_flatMap.mp hmem
  have hsource : source.toNat < 256 := source.toNat_lt
  unfold encode_byte at hmem
  split at hmem
  · rename_i hkeeps
    rw [List.mem_singleton.mp hmem]
    exact (charset.plain source hkeeps).1
  split at hmem
  · rw [List.mem_singleton.mp hmem]
    decide
  · simp only [escape, List.mem_cons, List.not_mem_nil, or_false] at hmem
    obtain rfl | rfl | rfl := hmem
    · decide
    · exact hdigit _ (by omega)
    · exact hdigit _ (by omega)

theorem visible_of_query_bytes {bytes : Bytes} (hbytes : ∀ b ∈ bytes, query_byte b = true) :
    (∀ b ∈ bytes, b.toNat < 128) ∧ ∀ c ∈ (ascii_text bytes).toList, 32 < c.toNat ∧ c ≠ '#' := by
  have hrange : ∀ b ∈ bytes, 32 < b.toNat ∧ b.toNat < 127 ∧ b.toNat ≠ 35 := by
    intro b hmem
    have hbyte := hbytes b hmem
    simp only [query_byte, Bool.and_eq_true, decide_eq_true_eq, bne_iff_ne, ne_eq, ← UInt8.toNat_inj,
      UInt8.reduceToNat] at hbyte
    exact ⟨hbyte.1.1, hbyte.1.2, hbyte.2⟩
  constructor
  · intro b hmem
    obtain ⟨-, hlt, -⟩ := hrange b hmem
    omega
  · have hchar : ∀ n < 128, 32 < n → n ≠ 35 → 32 < (Char.ofNat n).toNat ∧ Char.ofNat n ≠ '#' := by decide
    intro c hmem
    rw [ascii_text, String.toList_ofList] at hmem
    obtain ⟨b, hb, rfl⟩ := List.mem_map.mp hmem
    obtain ⟨hgt, hlt, hne⟩ := hrange b hb
    exact hchar b.toNat (by omega) hgt hne

end escapes

section pairs

/-- The pieces between ampersands with something in them. -/
def pieces (query : Bytes) : List Bytes := (query.splitOn ampersand).filter (!·.isEmpty)

/-- What is behind the first equals sign of a piece. -/
def value_of (piece : Bytes) : Bytes := (piece.dropWhile (· != equals)).drop 1

def decode_pair (piece : Bytes) : String × String :=
  (from_utf8_lossy (decode (piece.takeWhile (· != equals))), from_utf8_lossy (decode (value_of piece)))

/-- The pairs of a query. -/
def parse (query : Bytes) : List (String × String) := (pieces query).map decode_pair

def encode_pair (charset : Charset) (pair : String × String) : Bytes :=
  encode charset (utf8 pair.1) ++ equals :: encode charset (utf8 pair.2)

def serialize (charset : Charset) : List (String × String) → Bytes
  | [] => []
  | [pair] => encode_pair charset pair
  | pair :: rest => encode_pair charset pair ++ ampersand :: serialize charset rest

theorem parse_append (front back : Bytes) : parse (front ++ ampersand :: back) = parse front ++ parse back := by
  rw [parse, pieces, List.splitOn_append_cons_self, List.filter_append, List.map_append]
  rfl

/-- A value is empty when there is nothing behind the equals sign, or none. -/
theorem value_eq_empty {piece : Bytes} : (decode_pair piece).2 = "" ↔ value_of piece = [] := by
  rw [decode_pair, from_utf8_lossy_eq_empty, decode_eq_nil]

variable (charset : Charset)

theorem decode_pair_encode (pair : String × String) : decode_pair (encode_pair charset pair) = pair := by
  have hname : ∀ b ∈ encode charset (utf8 pair.1), (b != equals) = true := by
    intro b hmem
    rw [bne_iff_ne]
    rintro rfl
    exact not_mem_encode charset (.inr rfl) _ hmem
  unfold decode_pair value_of encode_pair
  rw [List.takeWhile_append_of_pos hname, List.dropWhile_append_of_pos hname]
  simp [decode_encode, from_utf8_lossy_utf8]

theorem parse_encode_pair (pair : String × String) : parse (encode_pair charset pair) = [pair] := by
  have hnot : ampersand ∉ encode_pair charset pair := by
    intro hmem
    obtain hmem | hmem := List.mem_append.mp hmem
    · exact not_mem_encode charset (.inl rfl) _ hmem
    obtain h | hmem := List.mem_cons.mp hmem
    · exact absurd h (by decide)
    · exact not_mem_encode charset (.inl rfl) _ hmem
  have hnonempty : (encode_pair charset pair).isEmpty = false := by simp [encode_pair]
  rw [parse, pieces, List.splitOn_eq_singleton hnot]
  simp [hnonempty, decode_pair_encode]

theorem serialize_cons (pair : String × String) {rest : List (String × String)} (hrest : rest ≠ []) :
    serialize charset (pair :: rest) = encode_pair charset pair ++ ampersand :: serialize charset rest := by
  cases rest with
  | nil => exact absurd rfl hrest
  | cons next rest => rfl

theorem parse_serialize (pairs : List (String × String)) : parse (serialize charset pairs) = pairs := by
  induction pairs with
  | nil => rfl
  | cons pair rest ih =>
    by_cases hrest : rest = []
    · rw [hrest]
      exact parse_encode_pair charset pair
    · rw [serialize_cons charset pair hrest, parse_append, parse_encode_pair, ih, List.singleton_append]

theorem encode_pair_query_bytes (pair : String × String) : ∀ b ∈ encode_pair charset pair, query_byte b = true := by
  intro b hmem
  obtain hmem | hmem := List.mem_append.mp hmem
  · exact encode_query_bytes charset _ b hmem
  obtain rfl | hmem := List.mem_cons.mp hmem
  · decide
  · exact encode_query_bytes charset _ b hmem

theorem serialize_query_bytes (pairs : List (String × String)) :
    ∀ b ∈ serialize charset pairs, query_byte b = true := by
  induction pairs with
  | nil => exact nofun
  | cons pair rest ih =>
    by_cases hrest : rest = []
    · rw [hrest]
      exact encode_pair_query_bytes charset pair
    · rw [serialize_cons charset pair hrest]
      intro b hmem
      obtain hmem | hmem := List.mem_append.mp hmem
      · exact encode_pair_query_bytes charset pair b hmem
      obtain rfl | hmem := List.mem_cons.mp hmem
      · decide
      · exact ih b hmem

end pairs

end form_urlencoded
