import WebexHandler.Rust.Jwe.Compact

open json person_id

namespace webex.rust.jwe

/-- AES-GCM and AES Key Wrap undo their encryption, which adds a tag of 16 bytes, or eight
    bytes. -/
structure Ciphers (crates : Crates) : Prop where
  aes_gcm : ∀ key nonce msg aad out, crates.aes_gcm_encrypt key nonce msg aad = some out →
    crates.aes_gcm_decrypt key nonce out aad = some msg ∧ out.length = msg.length + 16
  kek : ∀ kek cek out, crates.kek_wrap kek cek = .ok out → ∃ unwrapped, crates.kek_unwrap kek out = .ok unwrapped ∧ unwrapped = cek

/-- `serde_json` reads the header that it has printed. -/
def Reparses (crates : Crates) (header : Value) : Prop := crates.from_slice (utf8 (crates.to_string header)) = .ok header

variable {crates : Crates}

theorem text_member_alg {alg kid : String} : text_member (protected_header alg kid) "alg" "" = alg := by
  simp [text_member, protected_header, Value.get, Value.as_str]

theorem text_member_enc {alg kid : String} : text_member (protected_header alg kid) "enc" "" = "A256GCM" := by
  simp [text_member, protected_header, Value.get, Value.as_str]

/-- The parts of an encryption's token, of which the content key gives the plaintext back. -/
theorem parse_encrypted (hciphers : Ciphers crates) {plaintext header_bytes encrypted_key : Bytes} {cek : Key} {iv : Iv}
    {token : String}
    (htoken : encrypt_a256gcm crates plaintext cek iv (encode header_bytes) (encode encrypted_key) = .ok token) :
    ∃ parts, parse_jwe_compact crates token = .ok parts ∧ parts.header_bytes = header_bytes ∧
      parts.encrypted_key = encrypted_key ∧ decrypt_a256gcm crates cek parts = .ok plaintext := by
  unfold encrypt_a256gcm at htoken
  split at htoken
  · simp [kms] at htoken
  · rename_i out hout
    obtain ⟨hdecrypt, hlength⟩ := hciphers.aes_gcm _ _ _ _ _ hout
    rw [if_neg (by omega)] at htoken
    let parts : JweParts :=
      { header_b64 := encode header_bytes, header_bytes, encrypted_key, iv := iv.1,
        ciphertext := out.take (out.length - 16), tag := out.drop (out.length - 16) }
    refine ⟨parts, parse_jwe_compact_eq_ok_iff.mpr ⟨rfl, (Except.ok.inj htoken).symm⟩, rfl, rfl, ?_⟩
    unfold decrypt_a256gcm
    simp only [parts, cek.2, iv.2, dite_true, List.take_append_drop, hdecrypt]

/-- The dispatch of a token with five parts. -/
theorem unwrap_kms_response_eq {token : String} {parts : JweParts} {key : JweKey}
    (hparts : parse_jwe_compact crates token = .ok parts) : unwrap_kms_response crates token key = decrypt_jwe crates token key := by
  simp only [unwrap_kms_response, parts_of_dots hparts, if_true]

theorem decrypt_message_dir {token : String} {parts : JweParts} {key : Key} {header : Value}
    (hparts : parse_jwe_compact crates token = .ok parts) (hheader : crates.from_slice parts.header_bytes = .ok header)
    (halg : text_member header "alg" "" = "dir") :
    decrypt_message_jwe crates token key = decrypt_a256gcm crates key parts := by
  simp only [decrypt_message_jwe, hparts, parse_header, hheader, halg, bind, Except.bind, if_true]

theorem decrypt_message_a256kw {token : String} {parts : JweParts} {key : Key} {header : Value}
    (hparts : parse_jwe_compact crates token = .ok parts) (hheader : crates.from_slice parts.header_bytes = .ok header)
    (halg : text_member header "alg" "" = "A256KW") :
    decrypt_message_jwe crates token key =
      unwrap_cek crates key parts "AES key unwrap failed" >>= fun cek => decrypt_a256gcm crates cek parts := by
  simp only [decrypt_message_jwe, hparts, parse_header, hheader, halg, bind, Except.bind]
  rfl

theorem unwrap_cek_eq {parts : JweParts} {kek : Key} {wrapped_key : Bytes} {failed : String}
    {cek : { out : Bytes // out.length = wrapped_key.length - 8 }} (hkey : parts.encrypted_key = wrapped_key)
    (hlong : 8 ≤ wrapped_key.length) (hunwrap : crates.kek_unwrap kek wrapped_key = .ok cek) :
    unwrap_cek crates kek parts failed = .ok cek.1 := by
  subst hkey
  rw [unwrap_cek, if_neg (Nat.not_lt.mpr hlong), hunwrap]

/-- A token encrypted with the key itself has its five parts, and the key gives the plaintext back. -/
theorem opens_dir (hciphers : Ciphers crates) {plaintext : Bytes} {key : Key} {kid token : String} {iv : Iv}
    (hheader : Reparses crates (protected_header "dir" kid))
    (htoken : encrypt_dir_a256gcm crates plaintext key kid iv = .ok token) :
    ∃ parts, parse_jwe_compact crates token = .ok parts ∧ decrypt_message_jwe crates token key = .ok plaintext := by
  obtain ⟨parts, hparts, hbytes, -, hdecrypt⟩ := @parse_encrypted _ hciphers _ _ [] _ _ _ htoken
  refine ⟨parts, hparts, ?_⟩
  rw [decrypt_message_dir hparts (by rw [hbytes]; exact hheader) text_member_alg, hdecrypt]

/-- So does a token encrypted with a content key under the key. -/
theorem opens_a256kw (hciphers : Ciphers crates) {plaintext : Bytes} {key cek : Key} {token : String} {iv : Iv}
    (hheader : Reparses crates (protected_header "A256KW" ""))
    (htoken : encrypt_a256kw_a256gcm crates plaintext key cek iv = .ok token) :
    ∃ parts, parse_jwe_compact crates token = .ok parts ∧ decrypt_message_jwe crates token key = .ok plaintext := by
  unfold encrypt_a256kw_a256gcm at htoken
  split at htoken
  · simp [kms] at htoken
  · rename_i wrapped_key hwrap
    obtain ⟨unwrapped, hunwrap, hcek⟩ := hciphers.kek _ _ _ hwrap
    obtain ⟨parts, hparts, hbytes, hkey, hdecrypt⟩ := parse_encrypted hciphers htoken
    have hlong : 8 ≤ wrapped_key.1.length := by
      rw [wrapped_key.2]
      omega
    have hunwrapped : unwrap_cek crates key parts "AES key unwrap failed" = .ok cek.1 := by
      rw [unwrap_cek_eq hkey hlong hunwrap, hcek]
    refine ⟨parts, hparts, ?_⟩
    rw [decrypt_message_a256kw hparts (by rw [hbytes]; exact hheader) text_member_alg, hunwrapped]
    exact hdecrypt

/-- What either way of encrypting makes is decrypted to the plaintext, by both functions
    that decrypt with a symmetric key. -/
theorem decrypt_encrypted (hciphers : Ciphers crates) (plaintext : Bytes) (key : Key) (kid : String)
    (hdir : Reparses crates (protected_header "dir" kid)) (hwrapped : Reparses crates (protected_header "A256KW" "")) :
    (∀ iv token, encrypt_dir_a256gcm crates plaintext key kid iv = .ok token →
      decrypt_message_jwe crates token key = .ok plaintext ∧
        unwrap_kms_response crates token (.symmetric key) = .ok plaintext) ∧
    ∀ cek iv token, encrypt_a256kw_a256gcm crates plaintext key cek iv = .ok token →
      decrypt_message_jwe crates token key = .ok plaintext ∧
        unwrap_kms_response crates token (.symmetric key) = .ok plaintext := by
  constructor
  · intro iv token htoken
    obtain ⟨parts, hparts, hmessage⟩ := opens_dir hciphers hdir htoken
    exact ⟨hmessage, (unwrap_kms_response_eq hparts).trans hmessage⟩
  · intro cek iv token htoken
    obtain ⟨parts, hparts, hmessage⟩ := opens_a256kw hciphers hwrapped htoken
    exact ⟨hmessage, (unwrap_kms_response_eq hparts).trans hmessage⟩

theorem sample_ciphers : Ciphers sample_crates := by
  refine ⟨fun key nonce msg aad out hout => ?_, fun kek cek out hout => ?_⟩
  · have hsealed : ∀ s ∈ sample_sealed, sample_crates.aes_gcm_decrypt s.key sample_iv s.ciphertext_with_tag (utf8 s.aad) =
        some s.msg ∧ s.ciphertext_with_tag.length = s.msg.length + 16 := by
      decide
    simp only [sample_crates, Option.map_eq_some_iff] at hout
    obtain ⟨s, hfind, rfl⟩ := hout
    have hmatch := List.find?_some hfind
    simp only [Bool.and_eq_true, beq_iff_eq] at hmatch
    obtain ⟨⟨⟨rfl, rfl⟩, rfl⟩, rfl⟩ := hmatch
    exact hsealed s (List.mem_of_find?_eq_some hfind)
  · simp only [sample_crates] at hout ⊢
    split at hout
    · rename_i hsample
      obtain ⟨rfl, rfl⟩ := hsample
      obtain rfl := Except.ok.inj hout
      exact ⟨⟨sample_cek.1, rfl⟩, rfl, rfl⟩
    · simp at hout

theorem decrypt_encrypted_hello :
    (decrypt_message_jwe sample_crates sample_dir_token sample_key = .ok hello ∧
      unwrap_kms_response sample_crates sample_dir_token (.symmetric sample_key) = .ok hello) ∧
    (decrypt_message_jwe sample_crates sample_a256kw_token sample_key = .ok hello ∧
      unwrap_kms_response sample_crates sample_a256kw_token (.symmetric sample_key) = .ok hello) := by
  have hround := decrypt_encrypted sample_ciphers hello sample_key "k" (by unfold Reparses; rfl) (by unfold Reparses; rfl)
  exact ⟨hround.1 sample_iv _ (by rfl), hround.2 sample_cek sample_iv _ (by rfl)⟩

end webex.rust.jwe
