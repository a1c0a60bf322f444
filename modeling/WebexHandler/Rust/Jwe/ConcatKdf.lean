import WebexHandler.KeyDerivation
import WebexHandler.Rust.Jwe.Compact

open json key_derivation person_id

namespace webex.rust.jwe

theorem to_be_bytes_inj {m n : Nat} (hm : m < 2 ^ 32) (hn : n < 2 ^ 32) (hsame : to_be_bytes m = to_be_bytes n) :
    m = n := by
  simp only [to_be_bytes, List.cons.injEq, and_true] at hsame
  obtain ⟨hfirst, hsecond, hthird, hfourth⟩ := hsame
  have hbyte : ∀ {a b : Nat}, UInt8.ofNat a = UInt8.ofNat b → a % 256 = b % 256 := by
    intro a b heq
    simpa using congrArg UInt8.toNat heq
  have h1 := hbyte hfirst
  have h2 := hbyte hsecond
  have h3 := hbyte hthird
  have h4 := hbyte hfourth
  omega

/-- Lengths as the big-endian bytes of a `u32`. -/
def be32 : LengthCode UInt8 where
  encode := to_be_bytes
  width := 4
  bound := 2 ^ 32
  length_encode _ := rfl
  encode_inj := to_be_bytes_inj

/-- The arguments of `concat_kdf`. -/
structure KdfArgs where
  shared_secret : Bytes
  algorithm_id : String
  apu : Bytes
  apv : Bytes
  key_data_len_bits : UInt32

def KdfArgs.concat_kdf (crates : Crates) (args : KdfArgs) : Bytes :=
  jwe.concat_kdf crates args.shared_secret args.algorithm_id args.apu args.apv args.key_data_len_bits.toNat

/-- The parts of the OtherInfo that have a length in front. -/
def KdfArgs.fields (args : KdfArgs) : List Bytes := [utf8 args.algorithm_id, args.apu, args.apv]

/-- The OtherInfo of RFC 7518, section 4.6.2. -/
def KdfArgs.other_info (args : KdfArgs) : Bytes := be32.fields args.fields ++ be32.encode args.key_data_len_bits.toNat

/-- The input of the hash in the round of a counter. -/
def KdfArgs.hashed (args : KdfArgs) (counter : Nat) : Bytes :=
  be32.encode counter ++ (args.shared_secret ++ args.other_info)

/-- The number of rounds, for digests of 256 bits. -/
def KdfArgs.reps (args : KdfArgs) : Nat := (args.key_data_len_bits.toNat + 255) / 256

/-- The digests of all rounds. -/
def KdfArgs.digests (crates : Crates) (args : KdfArgs) : Bytes :=
  blocks (fun counter => (crates.sha256 (args.hashed counter)).1) args.reps

/-- The fields have lengths that fit in four bytes. -/
def KdfArgs.Countable (args : KdfArgs) : Prop := ∀ field ∈ args.fields, field.length < 2 ^ 32

variable {crates : Crates}

/-- The rounds of the source are those that the key needs. -/
theorem KdfArgs.concat_kdf_eq (args : KdfArgs) :
    args.concat_kdf crates = (args.digests crates).take (args.key_data_len_bits.toNat / 8) := by
  have hconcat : args.concat_kdf crates = (blocks (fun counter => (crates.sha256 (args.hashed counter)).1)
      ((args.key_data_len_bits.toNat / 8 + 31) / 32)).take (args.key_data_len_bits.toNat / 8) := by
    have hhashed : ∀ counter, args.hashed counter = to_be_bytes counter ++ args.shared_secret ++
        counted (utf8 args.algorithm_id) ++ counted args.apu ++ counted args.apv ++
          to_be_bytes args.key_data_len_bits.toNat := by
      intro counter
      simp [hashed, other_info, LengthCode.fields, fields, LengthCode.counted, counted, be32]
    simp only [concat_kdf, jwe.concat_kdf, blocks, hhashed]
  rw [hconcat, digests, reps]
  refine (take_blocks (fun counter => (crates.sha256 (args.hashed counter)).2) ?_ ?_).symm
  · omega
  · omega

/-- A key of `len` bytes has that length, so the guard on the key that unwraps never fails. -/
theorem derive_length (shared_secret : Bytes) (header : Value) (algorithm_id : String) (len : Nat) :
    (derive crates shared_secret header algorithm_id (len * 8)).length = len := by
  rw [derive, length_concat_kdf, Nat.mul_div_cancel len (by decide)]

theorem KdfArgs.reps_lt (args : KdfArgs) : args.reps < 2 ^ 32 := by
  have hbits := args.key_data_len_bits.toNat_lt
  unfold reps
  omega

/-- The fields are told apart by their lengths, from the start of the hashed bytes on. -/
theorem KdfArgs.hashed_inj {args args' : KdfArgs} {counter counter' : Nat} (hcounter : counter ≤ args.reps)
    (hcounter' : counter' ≤ args'.reps) (hsecrets : args.shared_secret.length = args'.shared_secret.length)
    (hcountable : args.Countable) (hcountable' : args'.Countable) (hsame : args.hashed counter = args'.hashed counter') :
    args = args' ∧ counter = counter' := by
  have hbound : counter < be32.bound := Nat.lt_of_le_of_lt hcounter args.reps_lt
  have hbound' : counter' < be32.bound := Nat.lt_of_le_of_lt hcounter' args'.reps_lt
  obtain ⟨hcounters, hrest⟩ := LengthCode.encode_append_inj hbound hbound' hsame
  obtain ⟨hsecret, hinfo⟩ := List.append_inj hrest hsecrets
  have hcount : args.fields.length = args'.fields.length := rfl
  have hlengths : ∀ field ∈ args.fields, field.length < be32.bound := hcountable
  have hlengths' : ∀ field ∈ args'.fields, field.length < be32.bound := hcountable'
  obtain ⟨hfields, hbits⟩ := LengthCode.fields_append_inj hcount hlengths hlengths' hinfo
  have hbits := to_be_bytes_inj args.key_data_len_bits.toNat_lt args'.key_data_len_bits.toNat_lt hbits
  simp only [fields, List.cons.injEq, and_true] at hfields
  obtain ⟨halgorithm, hapu, hapv⟩ := hfields
  refine ⟨?_, hcounters⟩
  cases args
  cases args'
  simp only [mk.injEq]
  exact ⟨hsecret, utf8_injective halgorithm, hapu, hapv, UInt32.toNat_inj.mp hbits⟩

/-- The Concat KDF of RFC 7518, section 4.6.2, with SHA-256. -/
structure IsConcatKdf (crates : Crates) : Prop where
  length : ∀ args : KdfArgs, 8 ∣ args.key_data_len_bits.toNat →
    (args.concat_kdf crates).length = args.key_data_len_bits.toNat / 8
  leading : ∀ args : KdfArgs, 8 ∣ args.key_data_len_bits.toNat →
    args.concat_kdf crates = (args.digests crates).take (args.key_data_len_bits.toNat / 8)
  unambiguous : ∀ (args args' : KdfArgs) (counter counter' : Nat), 1 ≤ counter ∧ counter ≤ args.reps →
    1 ≤ counter' ∧ counter' ≤ args'.reps → args.shared_secret.length = args'.shared_secret.length → args.Countable →
      args'.Countable → args.hashed counter = args'.hashed counter' → args = args' ∧ counter = counter'

/-- The source derives keys of whole bytes by that KDF, and hashes no two inputs alike. -/
theorem concat_kdf_is_rfc_7518 (crates : Crates) : IsConcatKdf crates where
  length _ _ := length_concat_kdf
  leading args _ := args.concat_kdf_eq
  unambiguous _ _ _ _ hcounter hcounter' hsecrets hcountable hcountable' hsame :=
    KdfArgs.hashed_inj hcounter.2 hcounter'.2 hsecrets hcountable hcountable' hsame

end webex.rust.jwe
