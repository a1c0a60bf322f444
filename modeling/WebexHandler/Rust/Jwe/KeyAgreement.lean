import WebexHandler.Rust.Jwe.RoundTrip

open json person_id

namespace webex.rust.jwe

section sender

/-- The ways of agreeing on a key that a KMS response may use. -/
inductive Alg
  | ecdh_es
  | ecdh_es_a256kw
  deriving DecidableEq, Repr

/-- The content encryptions that a KMS response may use. -/
inductive Enc
  | a256gcm
  | a128gcm
  deriving DecidableEq, Repr

def Alg.name : Alg → String
  | .ecdh_es => "ECDH-ES"
  | .ecdh_es_a256kw => "ECDH-ES+A256KW"

def Enc.name : Enc → String
  | .a256gcm => "A256GCM"
  | .a128gcm => "A128GCM"

def Enc.key_length : Enc → Nat
  | .a256gcm => 32
  | .a128gcm => 16

theorem Enc.key_length_le (enc : Enc) : enc.key_length ≤ 32 := by
  cases enc <;> decide

abbrev ContentKey (enc : Enc) := { bytes : Bytes // bytes.length = enc.key_length }

/-- The primitives of both sides: the ciphers invert, and the two sides of a key agreement
    share a secret. -/
structure Suite where
  crates : Crates
  ciphers : Ciphers crates
  aes128_gcm_encrypt (key : { bytes : Bytes // bytes.length = 16 }) (nonce : Iv) (msg aad : Bytes) : Option Bytes
  public_key (secret : Bytes) : Bytes
  /-- The coordinates of the public key. -/
  point (secret : Bytes) : Bytes × Bytes
  reads_point : ∀ secret, crates.from_sec1_bytes (4 :: (point secret).1 ++ (point secret).2) = .ok (public_key secret)
  commutes : ∀ secret other,
    crates.diffie_hellman secret (public_key other) = crates.diffie_hellman other (public_key secret)

/-- What the sender of a message chooses. The content key is chosen where it is wrapped. -/
structure Sending (enc : Enc) where
  ephemeral : Bytes
  apu : Option Bytes
  apv : Option Bytes
  header_bytes : Bytes
  cek : ContentKey enc
  iv : Iv
  plaintext : Bytes

variable (suite : Suite) {enc : Enc}

/-- The serialized header has the members of a key agreement, among any others. -/
structure Sending.Headed (alg : Alg) (sending : Sending enc) (header epk : Value) : Prop where
  serialized : suite.crates.from_slice sending.header_bytes = .ok header
  alg : header.get "alg" = some (.string alg.name)
  enc : header.get "enc" = some (.string enc.name)
  apu : header.get "apu" = sending.apu.map fun info => .string (encode info)
  apv : header.get "apv" = sending.apv.map fun info => .string (encode info)
  ephemeral : header.get "epk" = some epk
  x : epk.get "x" = some (.string (encode (suite.point sending.ephemeral).1))
  y : epk.get "y" = some (.string (encode (suite.point sending.ephemeral).2))

/-- The Concat KDF of a key agreement, whose keys need one digest. -/
def agreed_key (sending : Sending enc) (receiver : Bytes) (algorithm_id : String) (len : Nat) : Bytes :=
  let secret := suite.crates.diffie_hellman sending.ephemeral receiver
  let supp_pub_info := to_be_bytes (len * 8)
  let other_info := counted (utf8 algorithm_id) ++ counted (sending.apu.getD []) ++ counted (sending.apv.getD []) ++ supp_pub_info
  (suite.crates.sha256 (to_be_bytes 1 ++ secret ++ other_info)).1.take len

theorem agreed_key_length (sending : Sending enc) (receiver : Bytes) (algorithm_id : String) {len : Nat} (hlen : len ≤ 32) :
    (agreed_key suite sending receiver algorithm_id len).length = len := by
  unfold agreed_key
  dsimp only
  rw [List.length_take, (suite.crates.sha256 _).2]
  omega

/-- The encrypted key and the content key. A key that is agreed on directly is named after
    the content encryption, and one that wraps the content key after the algorithm. -/
def keys (alg : Alg) (sending : Sending enc) (receiver : Bytes) : Option (Bytes × ContentKey enc) :=
  match alg with
  | .ecdh_es =>
    some ([], ⟨agreed_key suite sending receiver enc.name enc.key_length, agreed_key_length suite _ _ _ enc.key_length_le⟩)
  | .ecdh_es_a256kw =>
    let kek : Key := ⟨agreed_key suite sending receiver alg.name 32, agreed_key_length suite _ _ _ (Nat.le_refl 32)⟩
    match suite.crates.kek_wrap kek sending.cek with
    | .ok wrapped => some (wrapped, sending.cek)
    | .error _ => none

def seal_content (enc : Enc) (key : ContentKey enc) (nonce : Iv) (msg aad : Bytes) : Option Bytes :=
  match enc with
  | .a256gcm => suite.crates.aes_gcm_encrypt key nonce msg aad
  | .a128gcm => suite.aes128_gcm_encrypt key nonce msg aad

/-- The token for a receiver's public key. -/
def Sending.token (alg : Alg) (sending : Sending enc) (receiver : Bytes) : Option String :=
  match keys suite alg sending receiver with
  | none => none
  | some (encrypted_key, cek) =>
    match seal_content suite enc cek sending.iv sending.plaintext (utf8 (encode sending.header_bytes)) with
    | none => none
    | some out =>
      some (join [encode sending.header_bytes, encode encrypted_key, encode sending.iv, encode (out.take (out.length - 16)),
        encode (out.drop (out.length - 16))])

/-- Every token for a public key is decrypted with the private key. -/
def Complete (alg : Alg) (enc : Enc) : Prop :=
  ∀ (suite : Suite) (sending : Sending enc) (header epk : Value) (secret : Bytes) (token : String),
    sending.Headed suite alg header epk → sending.token suite alg (suite.public_key secret) = some token →
      decrypt_ecdh_es suite.crates token secret = .ok sending.plaintext

end sender

section receiver

variable {suite : Suite} {enc : Enc} {alg : Alg} {sending : Sending enc} {header epk : Value} {secret : Bytes} {token : String}

theorem party_info_eq {info : Option Bytes} {name : String} (hmember : header.get name = info.map fun info => .string (encode info)) :
    party_info suite.crates header name = info.getD [] := by
  unfold party_info
  rw [hmember]
  cases info with
  | none => rfl
  | some info =>
    have hdecode : decode suite.crates (encode info) = .ok info := decode_eq_ok_iff.mpr rfl
    simp [Value.as_str, hdecode]

theorem parse_ec_public_key_eq (hheaded : sending.Headed suite alg header epk) :
    parse_ec_public_key suite.crates epk = .ok (suite.public_key sending.ephemeral) := by
  have hx := @decode_part_eq_ok_iff suite.crates "EC x" (encode (suite.point sending.ephemeral).1) _ |>.mpr rfl
  have hy := @decode_part_eq_ok_iff suite.crates "EC y" (encode (suite.point sending.ephemeral).2) _ |>.mpr rfl
  have hpoint := suite.reads_point sending.ephemeral
  unfold parse_ec_public_key
  rw [hheaded.x, hheaded.y]
  simp only [Option.bind_some, Value.as_str, hx, hy, bind, Except.bind, hpoint]

/-- A key of at most one digest. -/
theorem concat_kdf_eq {crates : Crates} (secret : Bytes) (algorithm_id : String) (apu apv : Bytes) {len : Nat} (hpos : 0 < len)
    (hlen : len ≤ 32) : concat_kdf crates secret algorithm_id apu apv (len * 8) =
      (crates.sha256 (to_be_bytes 1 ++ secret ++ (counted (utf8 algorithm_id) ++ counted apu ++ counted apv ++
        to_be_bytes (len * 8)))).1.take len := by
  have hreps : (len + 31) / 32 = 1 := by omega
  have hbytes : len * 8 / 8 = len := by omega
  unfold concat_kdf
  simp only [hbytes, hreps, List.range_one, List.flatMap_cons, List.flatMap_nil, List.append_nil, List.append_assoc, Nat.zero_add]

/-- The receiver derives the sender's key, under the algorithm id that it takes. -/
theorem derive_eq (hheaded : sending.Headed suite alg header epk) (algorithm_id : String) {len : Nat} (hpos : 0 < len) (hlen : len ≤ 32) :
    derive suite.crates (suite.crates.diffie_hellman secret (suite.public_key sending.ephemeral)) header algorithm_id (len * 8) =
      agreed_key suite sending (suite.public_key secret) algorithm_id len := by
  unfold derive agreed_key
  rw [concat_kdf_eq _ _ _ _ hpos hlen, party_info_eq hheaded.apu, party_info_eq hheaded.apv, suite.commutes]

/-- The parts of a token, with what the code makes of them. -/
structure Received (suite : Suite) (alg : Alg) (sending : Sending enc) (receiver : Bytes) (token : String) where
  encrypted_key : Bytes
  cek : ContentKey enc
  out : Bytes
  keyed : keys suite alg sending receiver = some (encrypted_key, cek)
  sealed : seal_content suite enc cek sending.iv sending.plaintext (utf8 (encode sending.header_bytes)) = some out

def Received.parts {receiver : Bytes} (received : Received suite alg sending receiver token) : JweParts where
  header_b64 := encode sending.header_bytes
  header_bytes := sending.header_bytes
  encrypted_key := received.encrypted_key
  iv := sending.iv
  ciphertext := received.out.take (received.out.length - 16)
  tag := received.out.drop (received.out.length - 16)

theorem received_of_token {receiver : Bytes} (htoken : sending.token suite alg receiver = some token) :
    ∃ received : Received suite alg sending receiver token, parse_jwe_compact suite.crates token = .ok received.parts := by
  unfold Sending.token at htoken
  split at htoken
  · cases htoken
  · rename_i encrypted_key cek hkeyed
    split at htoken
    · cases htoken
    · rename_i out hsealed
      refine ⟨⟨encrypted_key, cek, out, hkeyed, hsealed⟩, ?_⟩
      exact parse_jwe_compact_eq_ok_iff.mpr ⟨rfl, (Option.some.inj htoken).symm⟩

theorem enc_key_length_name (enc : Enc) : enc_key_length enc.name = enc.key_length := by
  cases enc <;> decide

/-- The key that the receiver derives for unwrapping. -/
def derived_kek (suite : Suite) (sending : Sending enc) (receiver : Bytes) : Key :=
  ⟨agreed_key suite sending receiver "A256KW" 32, agreed_key_length suite _ _ _ (Nat.le_refl 32)⟩

theorem parse_header_eq (hheaded : sending.Headed suite alg header epk)
    (received : Received suite alg sending (suite.public_key secret) token) :
    parse_header suite.crates received.parts = .ok header := by
  have hserialized : suite.crates.from_slice received.parts.header_bytes = .ok header := hheaded.serialized
  rw [parse_header, hserialized]

theorem decrypt_ecdh_es_direct (hheaded : sending.Headed suite .ecdh_es header epk)
    {received : Received suite .ecdh_es sending (suite.public_key secret) token}
    (hparts : parse_jwe_compact suite.crates token = .ok received.parts) : decrypt_ecdh_es suite.crates token secret =
      decrypt_a256gcm suite.crates (agreed_key suite sending (suite.public_key secret) enc.name enc.key_length) received.parts := by
  have halg : text_member header "alg" "" = "ECDH-ES" := by
    rw [text_member, hheaded.alg]
    rfl
  have henc : text_member header "enc" "A256GCM" = enc.name := by
    rw [text_member, hheaded.enc]
    rfl
  have hpos : 0 < enc.key_length := by
    cases enc <;> decide
  unfold decrypt_ecdh_es
  simp only [hparts, parse_header_eq hheaded received, hheaded.ephemeral, parse_ec_public_key_eq hheaded, halg, henc,
    enc_key_length_name, derive_eq hheaded enc.name hpos enc.key_length_le, bind, Except.bind, if_true]

theorem decrypt_ecdh_es_wrapped (hheaded : sending.Headed suite .ecdh_es_a256kw header epk)
    {received : Received suite .ecdh_es_a256kw sending (suite.public_key secret) token}
    (hparts : parse_jwe_compact suite.crates token = .ok received.parts) : decrypt_ecdh_es suite.crates token secret =
      unwrap_cek suite.crates (derived_kek suite sending (suite.public_key secret)) received.parts "ECDH-ES+A256KW unwrap failed" >>=
        fun cek => decrypt_a256gcm suite.crates cek received.parts := by
  have halg : text_member header "alg" "" = "ECDH-ES+A256KW" := by
    rw [text_member, hheaded.alg]
    rfl
  have hderive : derive suite.crates (suite.crates.diffie_hellman secret (suite.public_key sending.ephemeral)) header "A256KW" 256 =
      agreed_key suite sending (suite.public_key secret) "A256KW" 32 :=
    derive_eq hheaded "A256KW" (Nat.zero_lt_succ 31) (Nat.le_refl 32)
  have hlength : (agreed_key suite sending (suite.public_key secret) "A256KW" 32).length = 32 :=
    agreed_key_length suite _ _ _ (Nat.le_refl 32)
  unfold decrypt_ecdh_es
  simp only [hparts, parse_header_eq hheaded received, hheaded.ephemeral, parse_ec_public_key_eq hheaded, halg, bind, Except.bind]
  rw [if_neg (by decide), if_pos trivial]
  simp only [hderive]
  rw [dif_pos hlength]
  rfl

/-- AES-256-GCM inverts on the parts of a token. -/
theorem decrypt_content {receiver : Bytes} {sending : Sending .a256gcm} (received : Received suite alg sending receiver token) :
    decrypt_a256gcm suite.crates received.cek.1 received.parts = .ok sending.plaintext := by
  obtain ⟨hdecrypt, -⟩ := suite.ciphers.aes_gcm _ _ _ _ _ received.sealed
  have hcek : received.cek.1.length = 32 := received.cek.2
  have hiv : received.parts.iv.length = 12 := sending.iv.2
  have hjoin : received.parts.ciphertext ++ received.parts.tag = received.out := List.take_append_drop _ _
  have hopened : suite.crates.aes_gcm_decrypt ⟨received.cek.1, hcek⟩ ⟨received.parts.iv, hiv⟩ received.out
      (utf8 received.parts.header_b64) = some sending.plaintext := hdecrypt
  unfold decrypt_a256gcm
  rw [dif_pos hcek, dif_pos hiv, hjoin]
  dsimp only
  rw [hopened]

theorem decrypt_direct {sending : Sending .a256gcm} (hheaded : sending.Headed suite .ecdh_es header epk)
    (htoken : sending.token suite .ecdh_es (suite.public_key secret) = some token) :
    decrypt_ecdh_es suite.crates token secret = .ok sending.plaintext := by
  obtain ⟨received, hparts⟩ := received_of_token htoken
  rw [decrypt_ecdh_es_direct hheaded hparts]
  have hcek : received.cek.1 = agreed_key suite sending (suite.public_key secret) Enc.a256gcm.name Enc.a256gcm.key_length := by
    have hkeyed := received.keyed
    simp only [keys, Option.some.injEq, Prod.mk.injEq] at hkeyed
    exact congrArg Subtype.val hkeyed.2.symm
  rw [← hcek]
  exact decrypt_content received

/-- The derived key, or the unwrapped one, has the 16 bytes of AES-128 and is given to
    AES-256. -/
theorem decrypt_a128gcm {sending : Sending .a128gcm} {plaintext : Bytes} (hheaded : sending.Headed suite alg header epk)
    (htoken : sending.token suite alg (suite.public_key secret) = some token) :
    decrypt_ecdh_es suite.crates token secret ≠ .ok plaintext := by
  obtain ⟨received, hparts⟩ := received_of_token htoken
  have hrejected : ∀ cek : Bytes, cek.length = 16 →
      decrypt_a256gcm suite.crates cek received.parts = kms ("AES-GCM key init failed: " ++ suite.crates.invalid_length) := by
    intro cek hcek
    rw [decrypt_a256gcm, dif_neg (by omega)]
  cases alg with
  | ecdh_es =>
    have hlength := agreed_key_length suite sending (suite.public_key secret) Enc.a128gcm.name Enc.a128gcm.key_length_le
    rw [decrypt_ecdh_es_direct hheaded hparts, hrejected _ hlength]
    simp [kms]
  | ecdh_es_a256kw =>
    rw [decrypt_ecdh_es_wrapped hheaded hparts]
    have hwrapped : received.parts.encrypted_key.length = 24 := by
      have hkeyed := received.keyed
      simp only [keys] at hkeyed
      split at hkeyed
      · rename_i wrapped _
        simp only [Option.some.injEq, Prod.mk.injEq] at hkeyed
        have hlength := wrapped.2
        rw [hkeyed.1, sending.cek.2] at hlength
        exact hlength
      · cases hkeyed
    intro hdecrypt
    obtain ⟨cek, hcek, hplaintext⟩ := bind_eq_ok_iff.mp hdecrypt
    have hlength : cek.length = 16 := by
      unfold unwrap_cek at hcek
      split at hcek
      · cases hcek
      · split at hcek
        · rename_i unwrapped _
          cases hcek
          rw [unwrapped.2, hwrapped]
        · simp [kms] at hcek
    rw [hrejected cek hlength] at hplaintext
    simp [kms] at hplaintext

/-- A content key is unwrapped where the receiver derives the key that wrapped it. -/
theorem decrypt_wrapped {sending : Sending .a256gcm} (hheaded : sending.Headed suite .ecdh_es_a256kw header epk)
    (htoken : sending.token suite .ecdh_es_a256kw (suite.public_key secret) = some token)
    (hsame : agreed_key suite sending (suite.public_key secret) "A256KW" 32 =
      agreed_key suite sending (suite.public_key secret) "ECDH-ES+A256KW" 32) :
    decrypt_ecdh_es suite.crates token secret = .ok sending.plaintext := by
  obtain ⟨received, hparts⟩ := received_of_token htoken
  rw [decrypt_ecdh_es_wrapped hheaded hparts]
  have hkeyed := received.keyed
  simp only [keys] at hkeyed
  split at hkeyed
  · rename_i wrapped hwrap
    simp only [Option.some.injEq, Prod.mk.injEq] at hkeyed
    obtain ⟨hencrypted, hcek⟩ := hkeyed
    have hkek : derived_kek suite sending (suite.public_key secret) = ⟨agreed_key suite sending (suite.public_key secret)
        Alg.ecdh_es_a256kw.name 32, agreed_key_length suite _ _ _ (Nat.le_refl 32)⟩ := Subtype.ext hsame
    obtain ⟨unwrapped, hunwrap, hsent⟩ := suite.ciphers.kek _ _ _ hwrap
    rw [← hkek] at hunwrap
    have hlong : 8 ≤ wrapped.1.length := by
      rw [wrapped.2]
      omega
    rw [unwrap_cek_eq hencrypted.symm hlong hunwrap, hsent, hcek]
    exact decrypt_content received
  · cases hkeyed

/-- Where key wrapping detects every other key, it is unwrapped nowhere else. -/
theorem decrypt_wrapped_iff {sending : Sending .a256gcm} (hheaded : sending.Headed suite .ecdh_es_a256kw header epk)
    (htoken : sending.token suite .ecdh_es_a256kw (suite.public_key secret) = some token)
    (hintegrity : ∀ kek cek out other, suite.crates.kek_wrap kek cek = .ok out → other ≠ kek →
      ∃ e, suite.crates.kek_unwrap other out = .error e) :
    decrypt_ecdh_es suite.crates token secret = .ok sending.plaintext ↔
      agreed_key suite sending (suite.public_key secret) "A256KW" 32 =
        agreed_key suite sending (suite.public_key secret) "ECDH-ES+A256KW" 32 := by
  refine ⟨fun hdecrypt => ?_, decrypt_wrapped hheaded htoken⟩
  obtain ⟨received, hparts⟩ := received_of_token htoken
  rw [decrypt_ecdh_es_wrapped hheaded hparts] at hdecrypt
  obtain ⟨cek, hcek, -⟩ := bind_eq_ok_iff.mp hdecrypt
  by_contra hother
  have hkeyed := received.keyed
  simp only [keys] at hkeyed
  split at hkeyed
  · rename_i wrapped hwrap
    simp only [Option.some.injEq, Prod.mk.injEq] at hkeyed
    have hother : derived_kek suite sending (suite.public_key secret) ≠ ⟨agreed_key suite sending (suite.public_key secret)
        Alg.ecdh_es_a256kw.name 32, agreed_key_length suite _ _ _ (Nat.le_refl 32)⟩ :=
      fun heq => hother (congrArg Subtype.val heq)
    obtain ⟨e, hunwrap⟩ := hintegrity _ _ _ _ hwrap hother
    have hencrypted : wrapped.1 = received.parts.encrypted_key := hkeyed.1
    rw [hencrypted] at hunwrap
    unfold unwrap_cek at hcek
    rw [hunwrap] at hcek
    split at hcek
    · cases hcek
    · simp [kms] at hcek
  · cases hkeyed

end receiver

section sample

/-- The keys of a sender and a receiver, and what they share. -/
def ephemeral_secret : Bytes :=
  [211, 243, 113, 105, 19, 212, 49, 10, 0, 38, 222, 116, 27, 63, 24, 137, 58, 252, 129, 20, 240, 200, 70, 130, 186, 103,
    126, 49, 58, 19, 152, 138]

def ephemeral_x : Bytes :=
  [128, 141, 6, 0, 130, 193, 118, 238, 211, 231, 118, 164, 172, 89, 140, 200, 103, 44, 23, 121, 249, 116, 238, 204, 155,
    3, 65, 28, 165, 185, 73, 93]

def ephemeral_y : Bytes :=
  [72, 181, 191, 197, 39, 223, 206, 83, 214, 172, 113, 21, 35, 125, 3, 28, 207, 248, 122, 5, 112, 183, 115, 80, 169, 229,
    3, 238, 115, 5, 166, 155]

def receiver_secret : Bytes :=
  [84, 73, 131, 102, 144, 215, 92, 175, 41, 240, 221, 2, 157, 219, 49, 179, 221, 184, 171, 169, 210, 213, 21, 197, 1, 36,
    101, 232, 23, 212, 169, 220]

def receiver_x : Bytes :=
  [193, 227, 73, 203, 97, 236, 112, 36, 140, 232, 1, 3, 76, 56, 52, 225, 184, 142, 190, 17, 97, 203, 37, 175, 56, 116, 31,
    120, 95, 207, 196, 196]

def receiver_y : Bytes :=
  [123, 201, 103, 8, 239, 128, 149, 43, 83, 248, 210, 85, 95, 231, 43, 132, 30, 208, 69, 136, 98, 139, 29, 55, 138, 89, 73,
    57, 80, 14, 201, 201]

def shared_secret : Bytes :=
  [158, 86, 217, 29, 129, 113, 53, 211, 114, 131, 66, 131, 191, 132, 38, 156, 251, 49, 110, 163, 218, 128, 106, 72, 246,
    218, 167, 121, 140, 254, 144, 196]

/-- What the Concat KDF hashes for them. -/
def kdf_input (algorithm_id : String) (len : Nat) : Bytes :=
  to_be_bytes 1 ++ shared_secret ++ (counted (utf8 algorithm_id) ++ counted (utf8 "Alice") ++ counted (utf8 "Bob") ++
    to_be_bytes (len * 8))

/-- The key that wraps content keys, and the one that the receiver derives. -/
def sender_kek : Bytes :=
  [140, 246, 235, 25, 175, 106, 224, 150, 198, 1, 59, 92, 123, 53, 10, 220, 171, 136, 103, 226, 111, 194, 143, 167, 164,
    102, 166, 157, 199, 146, 85, 33]

def receiver_kek : Bytes :=
  [222, 114, 104, 234, 209, 225, 40, 112, 83, 66, 252, 180, 172, 249, 202, 169, 178, 169, 29, 130, 141, 222, 189, 112, 40,
    33, 96, 89, 154, 124, 165, 128]

def sample_digests : List (Bytes × { digest : Bytes // digest.length = 32 }) :=
  [(kdf_input "ECDH-ES+A256KW" 32, ⟨sender_kek, rfl⟩), (kdf_input "A256KW" 32, ⟨receiver_kek, rfl⟩),
    (kdf_input "A128GCM" 16,
      ⟨[86, 170, 141, 234, 248, 35, 109, 32, 92, 34, 40, 205, 113, 167, 16, 26, 164, 168, 160, 54, 176, 67, 109, 79, 89, 19,
        49, 194, 106, 244, 68, 96], rfl⟩)]

/-- Content keys with their encrypted keys. -/
def sample_wraps : List (Bytes × Bytes) :=
  [(List.replicate 32 3,
      [186, 93, 137, 82, 29, 238, 82, 18, 228, 73, 47, 116, 46, 172, 51, 128, 26, 84, 130, 249, 21, 108, 228, 236, 232, 74,
        169, 203, 246, 97, 101, 233, 217, 84, 40, 194, 232, 155, 132, 72]),
    (List.replicate 16 3,
      [116, 116, 205, 137, 209, 168, 93, 35, 114, 88, 85, 202, 129, 56, 62, 103, 59, 66, 145, 230, 178, 233, 100, 105])]

def quoted (text : String) : String := "\"" ++ text ++ "\""

def epk_text : String :=
  "\x7b\"kty\":\"EC\",\"crv\":\"P-256\",\"x\":" ++ quoted (encode ephemeral_x) ++ ",\"y\":" ++ quoted (encode ephemeral_y) ++ "\x7d"

def header_text (alg : Alg) (enc : Enc) : String :=
  "\x7b\"alg\":" ++ quoted alg.name ++ ",\"enc\":" ++ quoted enc.name ++ ",\"apu\":\"QWxpY2U\",\"apv\":\"Qm9i\",\"epk\":" ++
    epk_text ++ "\x7d"

def epk_value : Value :=
  .object [("kty", .string "EC"), ("crv", .string "P-256"), ("x", .string (encode ephemeral_x)), ("y", .string (encode ephemeral_y))]

def header_value (alg : Alg) (enc : Enc) : Value :=
  .object [("alg", .string alg.name), ("enc", .string enc.name), ("apu", .string "QWxpY2U"), ("apv", .string "Qm9i"),
    ("epk", epk_value)]

/-- The algorithms that a header names. -/
def named_algorithms (bytes : Bytes) : Option (Alg × Enc) :=
  [(Alg.ecdh_es, Enc.a128gcm), (.ecdh_es_a256kw, .a256gcm), (.ecdh_es_a256kw, .a128gcm)].find? fun (alg, enc) =>
    utf8 (header_text alg enc) == bytes

def agreement_crates : Crates where
  from_slice bytes :=
    match named_algorithms bytes with
    | some (alg, enc) => .ok (header_value alg enc)
    | none => .error "expected value at line 1 column 1"
  to_string _ := ""
  decode_error _ := "Invalid byte 33, offset 0."
  aead_error := "aead::Error"
  invalid_length := "Invalid Length"
  aes_gcm_encrypt key nonce msg aad :=
    if key = sample_cek ∧ nonce = sample_iv ∧ msg = hello ∧ aad = utf8 (encode (utf8 (header_text .ecdh_es_a256kw .a256gcm))) then
      some [42, 51, 11, 188, 22, 162, 115, 50, 213, 50, 220, 43, 61, 136, 185, 39, 64, 52, 64, 180, 3]
    else none
  aes_gcm_decrypt key nonce msg aad :=
    if key = sample_cek ∧ nonce = sample_iv ∧ msg = [42, 51, 11, 188, 22, 162, 115, 50, 213, 50, 220, 43, 61, 136, 185, 39, 64, 52, 64, 180, 3] ∧
      aad = utf8 (encode (utf8 (header_text .ecdh_es_a256kw .a256gcm))) then some hello
    else none
  kek_wrap kek cek :=
    match sample_wraps.find? fun entry => kek.1 == sender_kek && entry.1 == cek with
    | some entry => if h : entry.2.length = cek.length + 8 then .ok ⟨entry.2, h⟩ else .error "invalid output size"
    | none => .error "invalid data size"
  kek_unwrap kek data :=
    match sample_wraps.find? fun entry => kek.1 == sender_kek && entry.2 == data with
    | some entry => if h : entry.1.length = data.length - 8 then .ok ⟨entry.1, h⟩ else .error "invalid output size"
    | none => .error "integrity check failed"
  from_sec1_bytes bytes := .ok bytes
  diffie_hellman _ _ := shared_secret
  sha256 bytes := (sample_digests.lookup bytes).getD ⟨List.replicate 32 0, List.length_replicate⟩

theorem agreement_ciphers : Ciphers agreement_crates := by
  refine ⟨fun key nonce msg aad out hout => ?_, fun kek cek out hout => ?_⟩
  · simp only [agreement_crates] at hout ⊢
    split at hout
    · rename_i hsample
      obtain ⟨hkey, hnonce, hmsg, haad⟩ := hsample
      obtain rfl := Option.some.inj hout
      refine ⟨?_, by rw [hmsg]; rfl⟩
      rw [if_pos ⟨hkey, hnonce, rfl, haad⟩, hmsg]
    · cases hout
  · have hinverse : ∀ entry ∈ sample_wraps, entry.1.length = entry.2.length - 8 ∧
        sample_wraps.find? (fun other => other.2 == entry.2) = some entry := by
      decide
    simp only [agreement_crates] at hout ⊢
    split at hout
    · rename_i entry hfind
      split at hout
      · have hmatch := List.find?_some hfind
        have hmem := List.mem_of_find?_eq_some hfind
        simp only [Bool.and_eq_true, beq_iff_eq] at hmatch
        obtain ⟨hkek, rfl⟩ := hmatch
        obtain rfl := Except.ok.inj hout
        obtain ⟨hlength, hfound⟩ := hinverse entry hmem
        refine ⟨⟨entry.1, hlength⟩, ?_, rfl⟩
        simp only [hkek, beq_self_eq_true, Bool.true_and, hfound, hlength, dite_true]
      · cases hout
    · cases hout

def agreement_suite : Suite where
  crates := agreement_crates
  ciphers := agreement_ciphers
  aes128_gcm_encrypt key _ _ _ :=
    if key.1 = List.replicate 16 3 then
      some [174, 199, 255, 122, 234, 73, 116, 211, 170, 245, 10, 12, 23, 223, 163, 179, 1, 185, 52, 237, 122]
    else some [247, 154, 8, 29, 83, 214, 0, 176, 180, 158, 10, 247, 118, 220, 101, 113, 118, 97, 125, 204, 56]
  point secret := if secret = ephemeral_secret then (ephemeral_x, ephemeral_y) else (receiver_x, receiver_y)
  public_key secret := if secret = ephemeral_secret then 4 :: ephemeral_x ++ ephemeral_y else 4 :: receiver_x ++ receiver_y
  reads_point secret := by
    by_cases hsecret : secret = ephemeral_secret
    · simp [hsecret, agreement_crates]
    · simp [hsecret, agreement_crates]
  commutes _ _ := rfl

def sample_sending (alg : Alg) {enc : Enc} (cek : ContentKey enc) : Sending enc where
  ephemeral := ephemeral_secret
  apu := some (utf8 "Alice")
  apv := some (utf8 "Bob")
  header_bytes := utf8 (header_text alg enc)
  cek := cek
  iv := sample_iv
  plaintext := hello

theorem sample_headed {alg : Alg} {enc : Enc} (cek : ContentKey enc)
    (hnamed : named_algorithms (utf8 (header_text alg enc)) = some (alg, enc)) :
    (sample_sending alg cek).Headed agreement_suite alg (header_value alg enc) epk_value where
  serialized := by simp only [agreement_suite, agreement_crates, sample_sending, hnamed]
  alg := rfl
  enc := rfl
  apu := rfl
  apv := rfl
  ephemeral := rfl
  x := rfl
  y := rfl

theorem not_complete_a128gcm (alg : Alg) : ¬Complete alg .a128gcm := by
  intro hcomplete
  have hsent : ∃ token, (sample_sending alg ⟨List.replicate 16 3, rfl⟩ : Sending .a128gcm).token agreement_suite alg
      (agreement_suite.public_key receiver_secret) = some token := by
    cases alg with
    | ecdh_es => exact ⟨_, rfl⟩
    | ecdh_es_a256kw => exact ⟨_, rfl⟩
  have hnamed : named_algorithms (utf8 (header_text alg .a128gcm)) = some (alg, .a128gcm) := by
    cases alg with
    | ecdh_es => decide +kernel
    | ecdh_es_a256kw => decide +kernel
  obtain ⟨token, htoken⟩ := hsent
  have hheaded := sample_headed ⟨List.replicate 16 3, rfl⟩ hnamed
  exact decrypt_a128gcm hheaded htoken (hcomplete _ _ _ _ _ _ hheaded htoken)

/-- AES Key Wrap detects that the key is another one. -/
theorem unwrap_receiver_kek (data : Bytes) : agreement_crates.kek_unwrap ⟨receiver_kek, rfl⟩ data = .error "integrity check failed" := by
  have hother : (receiver_kek == sender_kek) = false := by
    decide
  simp [agreement_crates, hother, sample_wraps]

theorem not_complete_wrapped : ¬Complete .ecdh_es_a256kw .a256gcm := by
  intro hcomplete
  let sending : Sending .a256gcm := sample_sending .ecdh_es_a256kw sample_cek
  have hsent : (sending.token agreement_suite .ecdh_es_a256kw (agreement_suite.public_key receiver_secret)).isSome = true := by
    decide +kernel
  have hnamed : named_algorithms (utf8 (header_text .ecdh_es_a256kw .a256gcm)) = some (.ecdh_es_a256kw, .a256gcm) := by
    decide +kernel
  have hkek : derived_kek agreement_suite sending (agreement_suite.public_key receiver_secret) = ⟨receiver_kek, rfl⟩ := by
    decide
  obtain ⟨token, htoken⟩ := Option.isSome_iff_exists.mp hsent
  have hheaded := @sample_headed .ecdh_es_a256kw .a256gcm sample_cek hnamed
  have hdecrypt := hcomplete _ _ _ _ _ _ hheaded htoken
  obtain ⟨received, hparts⟩ := received_of_token htoken
  rw [decrypt_ecdh_es_wrapped hheaded hparts, hkek] at hdecrypt
  obtain ⟨cek, hcek, -⟩ := bind_eq_ok_iff.mp hdecrypt
  have hunwrap : agreement_suite.crates.kek_unwrap ⟨receiver_kek, rfl⟩ received.parts.encrypted_key = .error "integrity check failed" :=
    unwrap_receiver_kek _
  unfold unwrap_cek at hcek
  rw [hunwrap] at hcek
  split at hcek
  · cases hcek
  · simp [kms] at hcek

end sample

/-- The code completes the one pair of algorithms whose key it derives as the sender does
    and whose cipher it has. -/
theorem complete_iff (alg : Alg) (enc : Enc) : Complete alg enc ↔ alg = .ecdh_es ∧ enc = .a256gcm := by
  constructor
  · intro hcomplete
    cases enc with
    | a128gcm => exact absurd hcomplete (not_complete_a128gcm alg)
    | a256gcm =>
      cases alg with
      | ecdh_es => exact ⟨rfl, rfl⟩
      | ecdh_es_a256kw => exact absurd hcomplete not_complete_wrapped
  · rintro ⟨rfl, rfl⟩ suite sending header epk secret token hheaded htoken
    exact decrypt_direct hheaded htoken

theorem wrapped_response_rejected : ¬∀ alg enc, Complete alg enc :=
  fun hcomplete => not_complete_wrapped (hcomplete _ _)

end webex.rust.jwe
