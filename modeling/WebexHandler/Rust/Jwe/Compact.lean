import Mathlib.Algebra.GroupWithZero.Nat
import WebexHandler.PersonId
import WebexHandler.Rust.Types

open json person_id

namespace webex.rust.jwe

/-- A `[u8; 32]`. -/
abbrev Key := { bytes : Bytes // bytes.length = 32 }

/-- The 12 bytes of an AES-GCM nonce. -/
abbrev Iv := { bytes : Bytes // bytes.length = 12 }

/-- How a function stops without a result. -/
inductive Failure
  | error (e : WebexError)
  | panic
  deriving DecidableEq, Repr

/-- The parts of other crates that the module calls. `unwrap` fills a buffer that is eight
    bytes shorter than its input, and `wrap` one that is eight bytes longer. -/
structure Crates where
  from_slice : Bytes → Except String Value
  to_string : Value → String
  /-- The `DecodeError` of a text that is no base64. -/
  decode_error : String → String
  aead_error : String
  invalid_length : String
  aes_gcm_encrypt (key : Key) (nonce : Iv) (msg aad : Bytes) : Option Bytes
  aes_gcm_decrypt (key : Key) (nonce : Iv) (msg aad : Bytes) : Option Bytes
  kek_wrap (kek : Key) (cek : Bytes) : Except String { out : Bytes // out.length = cek.length + 8 }
  kek_unwrap (kek : Key) (data : Bytes) : Except String { out : Bytes // out.length = data.length - 8 }
  from_sec1_bytes : Bytes → Except String Bytes
  diffie_hellman (secret public_key : Bytes) : Bytes
  sha256 : Bytes → { digest : Bytes // digest.length = 32 }

/-- Key types for JWE decryption. -/
inductive JweKey
  | symmetric (key : Key)
  | ecdh_private (secret : Bytes)

def kms {α : Type} (message : String) : Except Failure α := .error (.error (.kms message))

/-- `URL_SAFE_NO_PAD.encode`. -/
def encode (bytes : Bytes) : String := ascii_text (base64.encode_url_safe bytes)

/-- `token.split('.')`. -/
def split (token : String) : List String := (token.toList.splitOn '.').map String.ofList

def join (parts : List String) : String := String.intercalate "." parts

/-- The protected header, with a `kid` if there is one. -/
def protected_header (alg kid : String) : Value :=
  .object ([("alg", .string alg), ("enc", .string "A256GCM")] ++ if kid = "" then [] else [("kid", .string kid)])

variable (crates : Crates)

/-- `URL_SAFE_NO_PAD.decode`. -/
def decode (text : String) : Except String Bytes :=
  (base64.decode_url_safe (utf8 text)).elim (.error (crates.decode_error text)) .ok

def header_b64 (header : Value) : String := encode (utf8 (crates.to_string header))

/-- The end of each encryption: AES-GCM with the encoded header as additional data, the
    last 16 bytes of its output split off as the tag, and the serialization. -/
def encrypt_a256gcm (plaintext : Bytes) (cek : Key) (iv : Iv) (header_b64 encrypted_key : String) : Except Failure String :=
  match crates.aes_gcm_encrypt cek iv plaintext (utf8 header_b64) with
  | none => kms ("AES-GCM encryption failed: " ++ crates.aead_error)
  | some ciphertext_with_tag =>
    if ciphertext_with_tag.length < 16 then .error .panic
    else
      let split_at := ciphertext_with_tag.length - 16
      .ok (join [header_b64, encrypted_key, encode iv, encode (ciphertext_with_tag.take split_at),
        encode (ciphertext_with_tag.drop split_at)])

/-- `encrypt_dir_a256gcm`, with the random IV as an argument. -/
def encrypt_dir_a256gcm (plaintext : Bytes) (cek : Key) (kid : String) (iv : Iv) : Except Failure String :=
  encrypt_a256gcm crates plaintext cek iv (header_b64 crates (protected_header "dir" kid)) ""

/-- `encrypt_a256kw_a256gcm`, with the random content key and IV as arguments. -/
def encrypt_a256kw_a256gcm (plaintext : Bytes) (wrapping_key cek : Key) (iv : Iv) : Except Failure String :=
  match crates.kek_wrap wrapping_key cek with
  | .error e => kms ("AES key wrap failed: " ++ e)
  | .ok wrapped_key =>
    let header := protected_header "A256KW" ""
    encrypt_a256gcm crates plaintext cek iv (header_b64 crates header) (encode wrapped_key)

structure JweParts where
  header_b64 : String
  header_bytes : Bytes
  encrypted_key : Bytes
  iv : Bytes
  ciphertext : Bytes
  tag : Bytes
  deriving DecidableEq

def decode_part (name text : String) : Except Failure Bytes :=
  match decode crates text with
  | .ok bytes => .ok bytes
  | .error e => kms ("Failed to decode " ++ name ++ ": " ++ e)

def parse_jwe_compact (token : String) : Except Failure JweParts :=
  match split token with
  | [header_b64, encrypted_key, iv, ciphertext, tag] => do
    let header_bytes ← decode_part crates "JWE header" header_b64
    let encrypted_key ← decode_part crates "encrypted key" encrypted_key
    let iv ← decode_part crates "IV" iv
    let ciphertext ← decode_part crates "ciphertext" ciphertext
    let tag ← decode_part crates "tag" tag
    return { header_b64, header_bytes, encrypted_key, iv, ciphertext, tag }
  | parts => kms ("Invalid JWE compact: expected 5 parts, got " ++ toString parts.length)

def parse_header (parts : JweParts) : Except Failure Value :=
  match crates.from_slice parts.header_bytes with
  | .ok header => .ok header
  | .error e => kms ("Failed to parse JWE header: " ++ e)

/-- A string member of the header, or a default. -/
def text_member (header : Value) (name default : String) : String := ((header.get name).bind Value.as_str).getD default

/-- `decrypt_a256gcm`. `Aes256Gcm::new_from_slice` rejects a key that is not 32 bytes long,
    and `Nonce::from_slice` panics on an IV that is not 12 bytes long. -/
def decrypt_a256gcm (cek : Bytes) (parts : JweParts) : Except Failure Bytes :=
  if hcek : cek.length = 32 then
    if hiv : parts.iv.length = 12 then
      let ct_with_tag := parts.ciphertext ++ parts.tag
      match crates.aes_gcm_decrypt ⟨cek, hcek⟩ ⟨parts.iv, hiv⟩ ct_with_tag (utf8 parts.header_b64) with
      | some plaintext => .ok plaintext
      | none => kms ("AES-GCM decryption failed: " ++ crates.aead_error)
    else .error .panic
  else kms ("AES-GCM key init failed: " ++ crates.invalid_length)

/-- The content key that the token carries. Its buffer has `encrypted_key.len() - 8` bytes,
    and there is none of a negative length. -/
def unwrap_cek (kek : Key) (parts : JweParts) (failed : String) : Except Failure Bytes :=
  if parts.encrypted_key.length < 8 then .error .panic
  else match crates.kek_unwrap kek parts.encrypted_key with
    | .ok cek => .ok cek
    | .error e => kms (failed ++ ": " ++ e)

def decrypt_a256kw_a256gcm (token : String) (wrapping_key : Key) : Except Failure Bytes := do
  let parts ← parse_jwe_compact crates token
  let cek ← unwrap_cek crates wrapping_key parts "AES key unwrap failed"
  decrypt_a256gcm crates cek parts

def decrypt_dir_a256gcm (token : String) (cek : Key) : Except Failure Bytes := do
  let parts ← parse_jwe_compact crates token
  decrypt_a256gcm crates cek parts

def decrypt_message_jwe (token : String) (key : Key) : Except Failure Bytes := do
  let parts ← parse_jwe_compact crates token
  let header_json ← parse_header crates parts
  let alg := text_member header_json "alg" ""
  if alg = "dir" then decrypt_a256gcm crates key parts
  else if alg = "A256KW" then
    let cek ← unwrap_cek crates key parts "AES key unwrap failed"
    decrypt_a256gcm crates cek parts
  else kms ("Unsupported message JWE algorithm: " ++ alg)

section ecdh

/-- `parse_ec_public_key`. The source looks for both members before it decodes them. -/
def parse_ec_public_key (jwk : Value) : Except Failure Bytes :=
  match (jwk.get "x").bind Value.as_str, (jwk.get "y").bind Value.as_str with
  | none, _ => kms "Missing 'x' in EC JWK"
  | some _, none => kms "Missing 'y' in EC JWK"
  | some x, some y => do
    let x_bytes ← decode_part crates "EC x" x
    let y_bytes ← decode_part crates "EC y" y
    match crates.from_sec1_bytes (4 :: x_bytes ++ y_bytes) with
    | .ok public_key => .ok public_key
    | .error e => kms ("Invalid EC public key: " ++ e)

/-- The big-endian bytes of a `u32`, of the low 32 bits of the number. -/
def to_be_bytes (n : Nat) : Bytes :=
  [UInt8.ofNat (n / 2 ^ 24), UInt8.ofNat (n / 2 ^ 16), UInt8.ofNat (n / 2 ^ 8), UInt8.ofNat n]

/-- A byte string after its length. -/
def counted (bytes : Bytes) : Bytes := to_be_bytes bytes.length ++ bytes

/-- Concat KDF, as many SHA-256 digests as the key needs. -/
def concat_kdf (shared_secret : Bytes) (algorithm_id : String) (apu apv : Bytes) (key_data_len_bits : Nat) : Bytes :=
  let key_data_len := key_data_len_bits / 8
  let reps := (key_data_len + 31) / 32
  let derived := (List.range reps).flatMap fun i =>
    (crates.sha256 (to_be_bytes (i + 1) ++ shared_secret ++ counted (utf8 algorithm_id) ++ counted apu ++ counted apv ++
      to_be_bytes key_data_len_bits)).1
  derived.take key_data_len

theorem length_concat_kdf {crates : Crates} {shared_secret apu apv : Bytes} {algorithm_id : String} {bits : Nat} :
    (concat_kdf crates shared_secret algorithm_id apu apv bits).length = bits / 8 := by
  simp only [concat_kdf, List.length_take, List.length_flatMap]
  have hdigests : ∀ n (input : Nat → Bytes), ((List.range n).map fun i => (crates.sha256 (input i)).1.length).sum = 32 * n := by
    intro n input
    induction n with
    | zero => rfl
    | succ n ih =>
      rw [List.range_succ, List.map_append, List.sum_append, ih]
      simp [(crates.sha256 (input n)).2, Nat.mul_succ]
  rw [hdigests]
  omega

def enc_key_length (enc : String) : Nat :=
  if enc = "A128GCM" then 16
  else if enc = "A192GCM" then 24
  else if enc = "A256GCM" then 32
  else if enc = "A128CBC-HS256" then 32
  else if enc = "A256CBC-HS512" then 64
  else 32

/-- The `apu` or `apv` of a header, which is empty when it does not decode. -/
def party_info (header : Value) (name : String) : Bytes :=
  match (header.get name).bind Value.as_str with
  | none => []
  | some text => match decode crates text with
    | .ok bytes => bytes
    | .error _ => []

/-- The key derived from the ECDH secret that the header's ephemeral key gives. -/
def derive (shared_secret : Bytes) (header : Value) (algorithm_id : String) (key_data_len_bits : Nat) : Bytes :=
  concat_kdf crates shared_secret algorithm_id (party_info crates header "apu") (party_info crates header "apv")
    key_data_len_bits

def decrypt_ecdh_es (token : String) (local_private_key : Bytes) : Except Failure Bytes := do
  let parts ← parse_jwe_compact crates token
  let header_json ← parse_header crates parts
  let alg := text_member header_json "alg" ""
  let enc := text_member header_json "enc" "A256GCM"
  match header_json.get "epk" with
  | none => kms "No epk in ECDH-ES JWE header"
  | some epk => do
    let server_public ← parse_ec_public_key crates epk
    let shared_secret := crates.diffie_hellman local_private_key server_public
    if alg = "ECDH-ES" then
      decrypt_a256gcm crates (derive crates shared_secret header_json enc (enc_key_length enc * 8)) parts
    else if alg = "ECDH-ES+A256KW" then
      let kek_bytes := derive crates shared_secret header_json "A256KW" 256
      if hkek : kek_bytes.length = 32 then do
        let cek ← unwrap_cek crates ⟨kek_bytes, hkek⟩ parts "ECDH-ES+A256KW unwrap failed"
        decrypt_a256gcm crates cek parts
      else kms "Derived KEK is not 32 bytes"
    else kms ("Unsupported ECDH algorithm: " ++ alg)

end ecdh

def decrypt_jwe (token : String) (key : JweKey) : Except Failure Bytes :=
  match key with
  | .symmetric key => decrypt_message_jwe crates token key
  | .ecdh_private secret => decrypt_ecdh_es crates token secret

/-- `unwrap_kms_response`: a JWE of five parts, or the payload of a JWS of three. -/
def unwrap_kms_response (token : String) (key : JweKey) : Except Failure Bytes :=
  let dot_count := token.toList.count '.'
  if dot_count = 4 then decrypt_jwe crates token key
  else if dot_count = 2 then
    match split token with
    | _ :: payload :: _ => decode_part crates "JWS payload" payload
    | _ => .error .panic
  else kms ("Invalid KMS response format: expected 3 or 5 parts, got " ++ toString dot_count ++ " dots")

section serialization

variable {crates}

theorem utf8_encode (bytes : Bytes) : utf8 (encode bytes) = base64.encode_url_safe bytes :=
  utf8_ascii_text fun c hmem => (base64.encode_url_safe_ascii c hmem).1

theorem decode_eq_ok_iff {text : String} {bytes : Bytes} : decode crates text = .ok bytes ↔ text = encode bytes := by
  have hdecode : decode crates text = .ok bytes ↔ base64.decode_url_safe (utf8 text) = some bytes := by
    unfold decode
    cases base64.decode_url_safe (utf8 text) with
    | none => simp
    | some decoded => simp
  rw [hdecode, base64.decode_url_safe_iff, ← utf8_encode]
  exact ⟨fun heq => (utf8_injective heq).symm, fun heq => by rw [heq]⟩

theorem encode_injective {bytes other : Bytes} (heq : encode bytes = encode other) : bytes = other := by
  have hdecode : base64.decode_url_safe (utf8 (encode other)) = some bytes := by
    rw [base64.decode_url_safe_iff, ← heq, utf8_encode]
  rw [utf8_encode, base64.decode_url_safe_iff.mpr rfl] at hdecode
  exact (Option.some.inj hdecode).symm

theorem dot_not_mem_encode (bytes : Bytes) : '.' ∉ (encode bytes).toList := by
  intro hmem
  rw [encode, ascii_text, String.toList_ofList, List.mem_map] at hmem
  obtain ⟨c, hc, hdot⟩ := hmem
  obtain ⟨hascii, hne⟩ := base64.encode_url_safe_ascii c hc
  have hall : ∀ n < 128, Char.ofNat n = '.' → n = 46 := by decide
  exact hne (UInt8.toNat_inj.mp (hall c.toNat hascii hdot))

theorem join_split (token : String) : join (split token) = token := by
  apply String.toList_injective
  rw [join, String.toList_intercalate, split, List.map_map]
  have hmap : (token.toList.splitOn '.').map (String.toList ∘ String.ofList) = token.toList.splitOn '.' := by
    simp [Function.comp_def]
  rw [hmap]
  exact List.intercalate_splitOn '.'

theorem split_join {parts : List String} (hdots : ∀ part ∈ parts, '.' ∉ part.toList) (hne : parts ≠ []) :
    split (join parts) = parts := by
  have hjoin : (join parts).toList.splitOn '.' = parts.map String.toList := by
    rw [join, String.toList_intercalate]
    exact List.splitOn_intercalate '.' (by simpa using hdots) (by simpa using hne)
  rw [split, hjoin, List.map_map]
  simp [Function.comp_def]

/-- The compact serialization of the parts. -/
def JweParts.compact (parts : JweParts) : String :=
  join [encode parts.header_bytes, encode parts.encrypted_key, encode parts.iv, encode parts.ciphertext, encode parts.tag]

theorem JweParts.split_compact (parts : JweParts) : split parts.compact =
    [encode parts.header_bytes, encode parts.encrypted_key, encode parts.iv, encode parts.ciphertext, encode parts.tag] :=
  split_join (by simp [dot_not_mem_encode]) (by simp)

/-- The first step of a computation that succeeds. -/
theorem bind_eq_ok_iff {ε α β : Type} {outcome : Except ε α} {next : α → Except ε β} {result : β} :
    outcome >>= next = .ok result ↔ ∃ value, outcome = .ok value ∧ next value = .ok result := by
  cases outcome with
  | error failure => simp [bind, Except.bind]
  | ok value => simp [bind, Except.bind]

theorem decode_part_eq_ok_iff {name text : String} {bytes : Bytes} :
    decode_part crates name text = .ok bytes ↔ text = encode bytes := by
  rw [← @decode_eq_ok_iff crates]
  unfold decode_part
  cases decode crates text with
  | error e => simp [kms]
  | ok decoded => simp

/-- A token has no other parts than those that it serializes. -/
theorem parse_jwe_compact_eq_ok_iff {token : String} {parts : JweParts} :
    parse_jwe_compact crates token = .ok parts ↔
      parts.header_b64 = encode parts.header_bytes ∧ token = parts.compact := by
  constructor
  · intro hparse
    unfold parse_jwe_compact at hparse
    split at hparse
    · rename_i hsplit
      simp only [bind_eq_ok_iff, decode_part_eq_ok_iff] at hparse
      obtain ⟨header_bytes, rfl, encrypted_key, rfl, iv, rfl, ciphertext, rfl, tag, rfl, hparts⟩ := hparse
      obtain rfl := Except.ok.inj hparts
      refine ⟨rfl, ?_⟩
      rw [JweParts.compact, ← hsplit, join_split]
    · simp [kms] at hparse
  · rintro ⟨hheader, rfl⟩
    unfold parse_jwe_compact
    simp only [parts.split_compact, bind_eq_ok_iff, decode_part_eq_ok_iff]
    refine ⟨_, rfl, _, rfl, _, rfl, _, rfl, _, rfl, ?_⟩
    rw [← hheader]
    rfl

theorem length_splitOn {α : Type} [BEq α] [LawfulBEq α] (c : α) (text : List α) :
    (text.splitOn c).length = text.count c + 1 := by
  induction text with
  | nil => rfl
  | cons d rest ih =>
    rw [List.splitOn_cons_eq_if_modifyHead, List.count_cons]
    split
    · simp [ih]
    · simp [ih]

/-- A token with another number of dots has no parts. -/
theorem parts_of_dots {token : String} {parts : JweParts} (hparts : parse_jwe_compact crates token = .ok parts) :
    token.toList.count '.' = 4 := by
  have hlength := length_splitOn '.' token.toList
  unfold parse_jwe_compact split at hparts
  split at hparts
  · rename_i hsplit
    have hfive := congrArg List.length hsplit
    rw [List.length_map, hlength] at hfive
    simpa using hfive
  · simp [kms] at hparts

end serialization

section sample

def sample_key : Key := ⟨List.replicate 32 1, rfl⟩
def sample_iv : Iv := ⟨List.replicate 12 2, rfl⟩
def sample_cek : Key := ⟨List.replicate 32 3, rfl⟩

def hello : Bytes := [104, 101, 108, 108, 111]

def sample_headers : List (String × String) :=
  [("dir", "\x7b\"alg\":\"dir\",\"enc\":\"A256GCM\",\"kid\":\"k\"\x7d"),
    ("A256KW", "\x7b\"alg\":\"A256KW\",\"enc\":\"A256GCM\"\x7d")]

/-- An encryption with AES-256-GCM, under the sample IV. -/
structure Sealed where
  key : Key
  aad : String
  msg : Bytes
  ciphertext_with_tag : Bytes

def sample_sealed : List Sealed :=
  [{ key := sample_key
     aad := "eyJhbGciOiJkaXIiLCJlbmMiOiJBMjU2R0NNIiwia2lkIjoiayJ9"
     msg := hello
     ciphertext_with_tag :=
      [111, 179, 165, 37, 37, 229, 37, 107, 33, 66, 211, 51, 92, 45, 219, 246, 19, 61, 122, 213, 210] },
   { key := sample_cek
     aad := "eyJhbGciOiJBMjU2S1ciLCJlbmMiOiJBMjU2R0NNIn0"
     msg := hello
     ciphertext_with_tag :=
      [42, 51, 11, 188, 22, 138, 73, 136, 157, 53, 237, 39, 155, 144, 111, 159, 84, 224, 154, 177, 183] }]

/-- The sample content key under AES Key Wrap with the sample key. -/
def sample_wrapped : Bytes :=
  [73, 206, 110, 23, 94, 41, 12, 104, 194, 228, 105, 252, 22, 243, 132, 174, 11, 158, 102, 136, 215, 202, 222, 111, 185,
    107, 145, 69, 227, 87, 101, 170, 101, 136, 137, 72, 58, 16, 142, 68]

/-- The other crates, on the inputs of the examples below. -/
def sample_crates : Crates where
  from_slice bytes :=
    if bytes = utf8 "\x7b\"alg\":\"dir\",\"enc\":\"A256GCM\",\"kid\":\"k\"\x7d" then .ok (protected_header "dir" "k")
    else if bytes = utf8 "\x7b\"alg\":\"A256KW\",\"enc\":\"A256GCM\"\x7d" then .ok (protected_header "A256KW" "")
    else if bytes = utf8 "\x7b\"alg\":\"A256KW\"\x7d" then .ok (.object [("alg", .string "A256KW")])
    else .error "expected value at line 1 column 1"
  to_string value := (sample_headers.lookup (text_member value "alg" "")).getD ""
  decode_error _ := "Invalid byte 33, offset 0."
  aead_error := "aead::Error"
  invalid_length := "Invalid Length"
  aes_gcm_encrypt key nonce msg aad := (sample_sealed.find? fun s =>
    s.key == key && sample_iv == nonce && s.msg == msg && utf8 s.aad == aad).map Sealed.ciphertext_with_tag
  aes_gcm_decrypt key nonce msg aad := (sample_sealed.find? fun s =>
    s.key == key && sample_iv == nonce && s.ciphertext_with_tag == msg && utf8 s.aad == aad).map Sealed.msg
  kek_wrap kek cek :=
    if h : kek = sample_key ∧ cek = sample_cek.1 then .ok ⟨sample_wrapped, by rw [h.2]; rfl⟩ else .error "invalid input"
  kek_unwrap kek data :=
    if h : kek = sample_key ∧ data = sample_wrapped then .ok ⟨sample_cek.1, by rw [h.2]; rfl⟩
    else .error "integrity check failed"
  from_sec1_bytes bytes := .ok bytes
  diffie_hellman _ _ := []
  sha256 _ := ⟨List.replicate 32 0, rfl⟩

/-- The sample encryptions' tokens. -/
def sample_dir_token : String :=
  "eyJhbGciOiJkaXIiLCJlbmMiOiJBMjU2R0NNIiwia2lkIjoiayJ9..AgICAgICAgICAgIC.b7OlJSU.5SVrIULTM1wt2_YTPXrV0g"

def sample_a256kw_token : String :=
  "eyJhbGciOiJBMjU2S1ciLCJlbmMiOiJBMjU2R0NNIn0.Sc5uF14pDGjC5Gn8FvOErgueZojXyt5vuWuRReNXZapliIlIOhCORA." ++
    "AgICAgICAgICAgIC.KjMLvBY.ikmInTXtJ5uQb59U4Jqxtw"

end sample

end webex.rust.jwe
