import WebexHandler.Rust.Jwe.RoundTrip

open json person_id

namespace webex.rust.jwe

/-- What is to hold of an accepted message, and that decryption does not look at. -/
structure Unchecked (header : Value) (parts : JweParts) : Prop where
  enc : text_member header "enc" "" = "A256GCM"
  no_encrypted_key : text_member header "alg" "" = "dir" → parts.encrypted_key = []
  tag : parts.tag.length = 16

/-- The grammar of a message. -/
structure Grammar (header : Value) (parts : JweParts) : Prop extends Unchecked header parts where
  alg : text_member header "alg" "" = "dir" ∨ text_member header "alg" "" = "A256KW"
  iv : parts.iv.length = 12

/-- The token is five base64url segments, of which the first is a header and all are as
    described. -/
def Consists (crates : Crates) (token : String) (described : Value → JweParts → Prop) : Prop :=
  ∃ parts header, token = parts.compact ∧ crates.from_slice parts.header_bytes = .ok header ∧ described header parts

/-- The parts have the same header, IV, and ciphertext with its tag. -/
def SameSealing (parts others : JweParts) : Prop :=
  parts.header_bytes = others.header_bytes ∧ parts.iv = others.iv ∧
    parts.ciphertext ++ parts.tag = others.ciphertext ++ others.tag

/-- The parts' encrypted keys are the same, and their tags of the same length. -/
def SameLayout (parts others : JweParts) : Prop :=
  parts.encrypted_key = others.encrypted_key ∧ parts.tag.length = others.tag.length

variable {crates : Crates} {token : String} {key : Key} {plaintext : Bytes}

theorem compact_inj {parts others : JweParts} (heq : parts.compact = others.compact) :
    parts.header_bytes = others.header_bytes ∧ parts.encrypted_key = others.encrypted_key ∧ parts.iv = others.iv ∧
      parts.ciphertext = others.ciphertext ∧ parts.tag = others.tag := by
  have hsplit := congrArg split heq
  rw [parts.split_compact, others.split_compact] at hsplit
  simp only [List.cons.injEq, and_true] at hsplit
  obtain ⟨hheader, hkey, hiv, hciphertext, htag⟩ := hsplit
  exact ⟨encode_injective hheader, encode_injective hkey, encode_injective hiv, encode_injective hciphertext,
    encode_injective htag⟩

theorem iv_of_decrypt_a256gcm {cek : Bytes} {parts : JweParts} (hdecrypt : decrypt_a256gcm crates cek parts = .ok plaintext) :
    parts.iv.length = 12 := by
  unfold decrypt_a256gcm at hdecrypt
  split at hdecrypt
  · split at hdecrypt
    · assumption
    · contradiction
  · simp [kms] at hdecrypt

/-- What decryption has looked at, of a message that it accepts. -/
theorem checked_of_accepted (haccepted : decrypt_message_jwe crates token key = .ok plaintext) :
    Consists crates token fun header parts =>
      (text_member header "alg" "" = "dir" ∨ text_member header "alg" "" = "A256KW") ∧ parts.iv.length = 12 := by
  simp only [decrypt_message_jwe, bind_eq_ok_iff] at haccepted
  obtain ⟨parts, hparts, header, hheader, haccepted⟩ := haccepted
  refine ⟨parts, header, (parse_jwe_compact_eq_ok_iff.mp hparts).2, ?_, ?_⟩
  · unfold parse_header at hheader
    split at hheader
    · rename_i hslice
      rw [hslice, Except.ok.inj hheader]
    · simp [kms] at hheader
  · split at haccepted
    · rename_i hdir
      exact ⟨.inl hdir, iv_of_decrypt_a256gcm haccepted⟩
    · split at haccepted
      · rename_i hwrapped
        obtain ⟨cek, -, hdecrypt⟩ := bind_eq_ok_iff.mp haccepted
        exact ⟨.inr hwrapped, iv_of_decrypt_a256gcm hdecrypt⟩
      · simp [kms] at haccepted

/-- Tokens with the same content are the same exactly if they are laid out alike. -/
theorem compact_eq_iff {parts others : JweParts} (hsame : SameSealing parts others) :
    parts.compact = others.compact ↔ SameLayout parts others := by
  obtain ⟨hheader, hiv, hconcat⟩ := hsame
  constructor
  · intro heq
    obtain ⟨-, hkey, -, -, htag⟩ := compact_inj heq
    exact ⟨hkey, by rw [htag]⟩
  · rintro ⟨hkey, hlength⟩
    obtain ⟨hciphertext, htag⟩ := List.append_inj' hconcat hlength
    rw [JweParts.compact, JweParts.compact, hheader, hkey, hiv, hciphertext, htag]

/-- An accepted message is in the grammar exactly if what decryption does not look at is,
    and is the only one with its content among those that are laid out like it. -/
theorem accepted_in_grammar_iff (haccepted : decrypt_message_jwe crates token key = .ok plaintext) :
    (Consists crates token Grammar ↔ Consists crates token Unchecked) ∧
    ∀ other plaintext', decrypt_message_jwe crates other key = .ok plaintext' →
      ∀ parts others, token = parts.compact → other = others.compact → SameSealing parts others →
        (token = other ↔ SameLayout parts others) := by
  constructor
  · constructor
    · rintro ⟨parts, header, htoken, hheader, hgrammar⟩
      exact ⟨parts, header, htoken, hheader, hgrammar.toUnchecked⟩
    · rintro ⟨parts, header, htoken, hheader, hunchecked⟩
      obtain ⟨parts', header', htoken', hheader', halg, hiv⟩ := checked_of_accepted haccepted
      obtain ⟨hbytes, -, hiv', -, -⟩ := compact_inj (htoken'.symm.trans htoken)
      rw [hbytes, hheader] at hheader'
      obtain rfl := Except.ok.inj hheader'
      exact ⟨parts, header, htoken, hheader, hunchecked, halg, hiv' ▸ hiv⟩
  · rintro other plaintext' - parts others rfl rfl hsame
    exact compact_eq_iff hsame

/-- The parts of the sample message. -/
def sample_parts : JweParts where
  header_b64 := "eyJhbGciOiJkaXIiLCJlbmMiOiJBMjU2R0NNIiwia2lkIjoiayJ9"
  header_bytes := utf8 "\x7b\"alg\":\"dir\",\"enc\":\"A256GCM\",\"kid\":\"k\"\x7d"
  encrypted_key := []
  iv := sample_iv
  ciphertext := [111, 179, 165, 37, 37]
  tag := [229, 37, 107, 33, 66, 211, 51, 92, 45, 219, 246, 19, 61, 122, 213, 210]

theorem sample_message_in_grammar : Consists sample_crates sample_parts.compact Grammar := by
  have haccepted : decrypt_message_jwe sample_crates sample_parts.compact sample_key = .ok hello := by
    rfl
  refine (accepted_in_grammar_iff haccepted).1.mpr ⟨sample_parts, protected_header "dir" "k", rfl, rfl, ?_⟩
  exact ⟨text_member_enc, fun _ => rfl, rfl⟩

/-- An encrypted key beside a direct key is ignored. -/
theorem encrypted_key_ignored : ¬ ∀ crates token key plaintext, decrypt_message_jwe crates token key = .ok plaintext →
    Consists crates token Grammar ∧
    ∀ other plaintext', decrypt_message_jwe crates other key = .ok plaintext' →
      ∀ parts others header, token = parts.compact → other = others.compact →
        crates.from_slice parts.header_bytes = .ok header → text_member header "alg" "" = "dir" →
        SameSealing parts others → token = other := by
  intro hclaim
  have haccepted : decrypt_message_jwe sample_crates { sample_parts with encrypted_key := [0] }.compact sample_key =
      .ok hello := by
    rfl
  obtain ⟨parts, header, htoken, hheader, hgrammar⟩ := (hclaim _ _ _ _ haccepted).1
  obtain ⟨hbytes, hkey, -, -, -⟩ := compact_inj htoken
  rw [← hbytes] at hheader
  obtain rfl := Except.ok.inj hheader
  have hempty := hgrammar.no_encrypted_key text_member_alg
  rw [← hkey] at hempty
  simp at hempty

end webex.rust.jwe
