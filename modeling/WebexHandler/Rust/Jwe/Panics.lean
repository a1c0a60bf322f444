import WebexHandler.Rust.Jwe.Compact

open json person_id

namespace webex.rust.jwe

/-- The call does not return. -/
def Panics {α : Type} (outcome : Except Failure α) : Prop := outcome = .error .panic

instance {α : Type} (outcome : Except Failure α) : Decidable (Panics outcome) :=
  match outcome with
  | .ok _ => .isFalse fun h => nomatch h
  | .error failure => decidable_of_iff (failure = .panic) (by simp [Panics])

section outcomes

variable {α β : Type}

@[simp]
theorem not_panics_ok {value : α} : ¬ Panics (.ok value : Except Failure α) := by
  simp [Panics]

@[simp]
theorem not_panics_kms {message : String} : ¬ Panics (kms message : Except Failure α) := by
  simp [Panics, kms]

theorem panics_bind {outcome : Except Failure α} {next : α → Except Failure β} :
    Panics (outcome >>= next) ↔ Panics outcome ∨ ∃ value, outcome = .ok value ∧ Panics (next value) := by
  cases outcome with
  | error failure => simp [Panics, bind, Except.bind]
  | ok value => simp [Panics, bind, Except.bind]

/-- A function whose first step does not panic may panic in what follows. -/
theorem not_panics_bind {outcome : Except Failure α} {next : α → Except Failure β} (hnot : ¬ Panics outcome) :
    ¬ Panics (outcome >>= next) ↔ ∀ value, outcome = .ok value → ¬ Panics (next value) := by
  rw [panics_bind, or_iff_right hnot]
  push Not
  exact Iff.rfl

end outcomes

variable {crates : Crates} {token : String}

theorem not_panics_decode_part {name text : String} : ¬ Panics (decode_part crates name text) := by
  unfold decode_part
  cases decode crates text with
  | ok bytes => simp
  | error e => simp

theorem not_panics_parse_jwe_compact : ¬ Panics (parse_jwe_compact crates token) := by
  unfold parse_jwe_compact
  split
  · simp only [not_panics_bind not_panics_decode_part]
    intro _ _ _ _ _ _ _ _ _ _
    exact not_panics_ok
  · exact not_panics_kms

theorem not_panics_parse_header {parts : JweParts} : ¬ Panics (parse_header crates parts) := by
  unfold parse_header
  cases crates.from_slice parts.header_bytes with
  | ok header => simp
  | error e => simp

theorem not_panics_parse_ec_public_key {jwk : Value} : ¬ Panics (parse_ec_public_key crates jwk) := by
  unfold parse_ec_public_key
  split
  · exact not_panics_kms
  · exact not_panics_kms
  · simp only [not_panics_bind not_panics_decode_part]
    intro x _ y _
    cases crates.from_sec1_bytes (4 :: x ++ y) with
    | ok key => exact not_panics_ok
    | error e => exact not_panics_kms

/-- A content key of the right length is used with the IV, of whatever length it is. -/
theorem panics_decrypt_a256gcm {cek : Bytes} {parts : JweParts} :
    Panics (decrypt_a256gcm crates cek parts) ↔ cek.length = 32 ∧ parts.iv.length ≠ 12 := by
  unfold decrypt_a256gcm
  by_cases hcek : cek.length = 32
  · by_cases hiv : parts.iv.length = 12
    · simp only [hcek, hiv, dite_true]
      cases crates.aes_gcm_decrypt ⟨cek, hcek⟩ ⟨parts.iv, hiv⟩ (parts.ciphertext ++ parts.tag) (utf8 parts.header_b64) with
      | some plaintext => simp
      | none => simp
    · simp [hcek, hiv, Panics]
  · simp [hcek]

/-- The encrypted key has the eight bytes that unwrapping takes off, and if a content key of
    the right length comes out of it, the IV has its 12 bytes. -/
def Unwrappable (crates : Crates) (kek : Key) (parts : JweParts) : Prop :=
  8 ≤ parts.encrypted_key.length ∧
    (parts.encrypted_key.length = 40 → (∃ cek, crates.kek_unwrap kek parts.encrypted_key = .ok cek) → parts.iv.length = 12)

theorem not_panics_unwrap {kek : Key} {parts : JweParts} {failed : String} :
    ¬ Panics (unwrap_cek crates kek parts failed >>= fun cek => decrypt_a256gcm crates cek parts) ↔
      Unwrappable crates kek parts := by
  unfold unwrap_cek Unwrappable
  by_cases hshort : parts.encrypted_key.length < 8
  · rw [if_pos hshort, panics_bind]
    simp [Panics, Nat.not_le.mpr hshort]
  · rw [if_neg hshort]
    have henough : 8 ≤ parts.encrypted_key.length := Nat.not_lt.mp hshort
    cases hunwrap : crates.kek_unwrap kek parts.encrypted_key with
    | error e =>
      rw [not_panics_bind not_panics_kms]
      simp [kms, henough]
    | ok cek =>
      obtain ⟨cek, hlength⟩ := cek
      have hforty : cek.length = 32 ↔ parts.encrypted_key.length = 40 := by
        omega
      rw [not_panics_bind not_panics_ok]
      simp [panics_decrypt_a256gcm, hforty, henough]

/-- The sizes of a message's parts that its decryption relies on. -/
def MessageSized (crates : Crates) (token : String) (key : Key) : Prop :=
  ∀ parts, parse_jwe_compact crates token = .ok parts → ∀ header, parse_header crates parts = .ok header →
    (text_member header "alg" "" = "dir" → parts.iv.length = 12) ∧
      (text_member header "alg" "" = "A256KW" → Unwrappable crates key parts)

/-- The sizes of the parts of a key agreement's answer. -/
def AgreementSized (crates : Crates) (token : String) (secret : Bytes) : Prop :=
  ∀ parts, parse_jwe_compact crates token = .ok parts → ∀ header, parse_header crates parts = .ok header →
    ∀ epk, header.get "epk" = some epk → ∀ server_public, parse_ec_public_key crates epk = .ok server_public →
    (text_member header "alg" "" = "ECDH-ES" → enc_key_length (text_member header "enc" "A256GCM") = 32 →
      parts.iv.length = 12) ∧
    (text_member header "alg" "" = "ECDH-ES+A256KW" → ∀ kek : Key,
      kek.1 = derive crates (crates.diffie_hellman secret server_public) header "A256KW" 256 → Unwrappable crates kek parts)

def Sized (crates : Crates) (token : String) : JweKey → Prop
  | .symmetric key => MessageSized crates token key
  | .ecdh_private secret => AgreementSized crates token secret

theorem not_panics_a256kw {key : Key} : ¬ Panics (decrypt_a256kw_a256gcm crates token key) ↔
    ∀ parts, parse_jwe_compact crates token = .ok parts → Unwrappable crates key parts := by
  rw [decrypt_a256kw_a256gcm, not_panics_bind not_panics_parse_jwe_compact]
  simp only [not_panics_unwrap]

theorem not_panics_dir {key : Key} : ¬ Panics (decrypt_dir_a256gcm crates token key) ↔
    ∀ parts, parse_jwe_compact crates token = .ok parts → parts.iv.length = 12 := by
  rw [decrypt_dir_a256gcm, not_panics_bind not_panics_parse_jwe_compact]
  simp [panics_decrypt_a256gcm, key.2]

theorem not_panics_message {key : Key} : ¬ Panics (decrypt_message_jwe crates token key) ↔ MessageSized crates token key := by
  rw [decrypt_message_jwe, not_panics_bind not_panics_parse_jwe_compact, MessageSized]
  refine forall₂_congr fun parts _ => ?_
  rw [not_panics_bind not_panics_parse_header]
  refine forall₂_congr fun header _ => ?_
  by_cases hdir : text_member header "alg" "" = "dir"
  · simp [hdir, panics_decrypt_a256gcm, key.2]
  · by_cases hwrapped : text_member header "alg" "" = "A256KW"
    · simp [hwrapped, not_panics_unwrap]
    · simp [hdir, hwrapped]

theorem not_panics_ecdh {secret : Bytes} :
    ¬ Panics (decrypt_ecdh_es crates token secret) ↔ AgreementSized crates token secret := by
  rw [decrypt_ecdh_es, not_panics_bind not_panics_parse_jwe_compact, AgreementSized]
  refine forall₂_congr fun parts _ => ?_
  rw [not_panics_bind not_panics_parse_header]
  refine forall₂_congr fun header _ => ?_
  cases hepk : header.get "epk" with
  | none => simp
  | some epk =>
    simp only [Option.some.injEq, forall_eq']
    rw [not_panics_bind not_panics_parse_ec_public_key]
    refine forall₂_congr fun server_public _ => ?_
    by_cases hdirect : text_member header "alg" "" = "ECDH-ES"
    · simp [hdirect, panics_decrypt_a256gcm, derive, length_concat_kdf]
    · by_cases hwrapped : text_member header "alg" "" = "ECDH-ES+A256KW"
      · have hkek : (derive crates (crates.diffie_hellman secret server_public) header "A256KW" 256).length = 32 :=
          length_concat_kdf
        simp only [hwrapped, hkek, dite_true, String.reduceEq, if_false, if_true, false_imp_iff, true_and, true_imp_iff]
        rw [not_panics_unwrap]
        constructor
        · rintro hsized ⟨kek, hlength⟩ rfl
          exact hsized
        · intro hsized
          exact hsized ⟨_, hkek⟩ rfl
      · simp [hdirect, hwrapped]

theorem not_panics_decrypt_jwe {key : JweKey} : ¬ Panics (decrypt_jwe crates token key) ↔ Sized crates token key := by
  cases key with
  | symmetric key => exact not_panics_message
  | ecdh_private secret => exact not_panics_ecdh

theorem sized_of_dots {key : JweKey} (hdots : token.toList.count '.' ≠ 4) : Sized crates token key := by
  have hparts : ∀ parts, parse_jwe_compact crates token ≠ .ok parts := fun parts h => hdots (parts_of_dots h)
  cases key with
  | symmetric key => exact fun parts h => absurd h (hparts parts)
  | ecdh_private secret => exact fun parts h => absurd h (hparts parts)

theorem not_panics_unwrap_kms_response {key : JweKey} :
    ¬ Panics (unwrap_kms_response crates token key) ↔ Sized crates token key := by
  unfold unwrap_kms_response
  by_cases hfour : token.toList.count '.' = 4
  · simp only [hfour, if_true]
    exact not_panics_decrypt_jwe
  · refine iff_of_true ?_ (sized_of_dots hfour)
    simp only [if_neg hfour]
    split
    · rename_i htwo
      have hlength : (split token).length = 3 := by
        rw [split, List.length_map, length_splitOn, htwo]
      split
      · exact not_panics_decode_part
      · rename_i hnot
        obtain ⟨header, payload, signature, hparts⟩ := List.length_eq_three.mp hlength
        exact absurd hparts (hnot _ _ _)
    · exact not_panics_kms

/-- Decryption returns for every token exactly if the sizes are right that nothing checks. -/
theorem decryption_returns_iff (crates : Crates) (token : String) (key : Key) (secret : Bytes) (jwe_key : JweKey) :
    (¬ Panics (decrypt_message_jwe crates token key) ↔ MessageSized crates token key) ∧
    (¬ Panics (decrypt_a256kw_a256gcm crates token key) ↔
      ∀ parts, parse_jwe_compact crates token = .ok parts → Unwrappable crates key parts) ∧
    (¬ Panics (decrypt_dir_a256gcm crates token key) ↔
      ∀ parts, parse_jwe_compact crates token = .ok parts → parts.iv.length = 12) ∧
    (¬ Panics (decrypt_ecdh_es crates token secret) ↔ AgreementSized crates token secret) ∧
    (¬ Panics (decrypt_jwe crates token jwe_key) ↔ Sized crates token jwe_key) ∧
    (¬ Panics (unwrap_kms_response crates token jwe_key) ↔ Sized crates token jwe_key) :=
  ⟨not_panics_message, not_panics_a256kw, not_panics_dir, not_panics_ecdh, not_panics_decrypt_jwe,
    not_panics_unwrap_kms_response⟩

/-- A token without an encrypted key, whose header names key wrapping. -/
theorem empty_encrypted_key_panics :
    ¬ ∀ crates token (key : Key) (secret : Bytes) (jwe_key : JweKey),
      ¬ Panics (decrypt_message_jwe crates token key) ∧ ¬ Panics (decrypt_a256kw_a256gcm crates token key) ∧
      ¬ Panics (decrypt_dir_a256gcm crates token key) ∧ ¬ Panics (decrypt_ecdh_es crates token secret) ∧
      ¬ Panics (decrypt_jwe crates token jwe_key) ∧ ¬ Panics (unwrap_kms_response crates token jwe_key) := by
  intro hnever
  have hmessage := (hnever sample_crates "eyJhbGciOiJBMjU2S1cifQ...." sample_key [] (.symmetric sample_key)).1
  exact hmessage (by unfold Panics; rfl)

end webex.rust.jwe
