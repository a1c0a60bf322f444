import WebexHandler.Sec1
import WebexHandler.Rust.Jwe.Compact
import WebexHandler.Rust.KmsClient.Mailbox

open json sec1

namespace webex.rust

/-- What is read of `PublicKey::from_sec1_bytes`, which is given a string that starts with
    the tag of an uncompressed point: it accepts the points of P-256. -/
def ReadsPoints (from_sec1_bytes : Bytes → Except String Bytes) (affine : Bytes → p256.Point) : Prop :=
  ∀ rest, (from_sec1_bytes (4 :: rest)).toOption.map affine = p256.read_uncompressed (4 :: rest)

theorem mapError_eq_ok {ε ε' α : Type} {outcome : Except ε α} {f : ε → ε'} {value : α} :
    outcome.mapError f = .ok value ↔ outcome = .ok value := by
  cases outcome with
  | error e => simp [Except.mapError]
  | ok result => simp [Except.mapError]

namespace jwe

variable (crates : Crates)

/-- The decoded coordinates in a JWK. -/
def ec_coordinates (jwk : Value) : Option (Bytes × Bytes) := do
  let x ← (jwk.get "x").bind Value.as_str
  let y ← (jwk.get "y").bind Value.as_str
  let x_bytes ← (decode crates x).toOption
  let y_bytes ← (decode crates y).toOption
  return (x_bytes, y_bytes)

def parsed_key (jwk : Value) : Option Bytes := (parse_ec_public_key crates jwk).toOption

theorem parsed_key_eq (jwk : Value) : parsed_key crates jwk =
    (ec_coordinates crates jwk).bind fun (x, y) => (crates.from_sec1_bytes (4 :: (x ++ y))).toOption := by
  unfold parsed_key parse_ec_public_key ec_coordinates
  cases (jwk.get "x").bind Value.as_str with
  | none => rfl
  | some x =>
    cases (jwk.get "y").bind Value.as_str with
    | none => rfl
    | some y =>
      simp only [decode_part, bind, Except.bind, Option.bind]
      cases decode crates x with
      | error e => rfl
      | ok x_bytes =>
        cases decode crates y with
        | error e => rfl
        | ok y_bytes =>
          simp only [Except.toOption, pure, List.cons_append]
          cases crates.from_sec1_bytes (4 :: (x_bytes ++ y_bytes)) with
          | error e => rfl
          | ok key => rfl

variable {crates}

theorem joins_coordinates {affine : Bytes → p256.Point} (hreads : ReadsPoints crates.from_sec1_bytes affine) :
    Joins (ec_coordinates crates) (parsed_key crates) affine := by
  intro jwk
  rw [parsed_key_eq, Option.map_bind]
  congr 1
  funext coordinates
  exact hreads _

end jwe

namespace kms_client

variable (crates : Crates)

/-- The decoded coordinates in a remote JWK. -/
def ec_coordinates (remote_jwk_data : Value) : Option (Bytes × Bytes) := do
  let remote_x ← (index remote_jwk_data "x").as_str
  let remote_y ← (index remote_jwk_data "y").as_str
  let remote_x_bytes ← (crates.url_safe_no_pad_decode remote_x).toOption
  let remote_y_bytes ← (crates.url_safe_no_pad_decode remote_y).toOption
  return (remote_x_bytes, remote_y_bytes)

def parsed_key (remote_jwk_data : Value) : Option Bytes := (parse_remote_key crates remote_jwk_data).toOption

theorem parsed_key_eq (remote_jwk_data : Value) : parsed_key crates remote_jwk_data =
    (ec_coordinates crates remote_jwk_data).bind fun (x, y) => (crates.from_sec1_bytes (4 :: (x ++ y))).toOption := by
  unfold parsed_key parse_remote_key ec_coordinates
  cases (index remote_jwk_data "x").as_str with
  | none => rfl
  | some x =>
    cases (index remote_jwk_data "y").as_str with
    | none => rfl
    | some y =>
      simp only [bind, Except.bind, Option.bind]
      cases crates.url_safe_no_pad_decode x with
      | error e => rfl
      | ok x_bytes =>
        cases crates.url_safe_no_pad_decode y with
        | error e => rfl
        | ok y_bytes =>
          simp only [Except.mapError, Except.toOption, pure]
          cases crates.from_sec1_bytes (4 :: (x_bytes ++ y_bytes)) with
          | error e => rfl
          | ok key => rfl

variable {crates}

/-- A handshake that succeeds has parsed the key of the answer's JWK. -/
theorem parse_remote_key_of_derived {wrapped_response key_uri : String} {local_secret derived : Bytes}
    (hderived : derive_ephemeral_key crates wrapped_response local_secret = .ok (derived, key_uri)) :
    ∃ remote_jwk_data remote_public, parse_remote_key crates remote_jwk_data = .ok remote_public ∧
      crates.hkdf_sha256 (crates.diffie_hellman local_secret remote_public) = .ok derived := by
  unfold derive_ephemeral_key at hderived
  obtain ⟨response_body, _, hbody⟩ := jwe.bind_eq_ok_iff.mp hderived
  obtain ⟨response_data, _, hdata⟩ := jwe.bind_eq_ok_iff.mp hbody
  cases hjwk : extract_jwk_from_response response_data with
  | none => simp [hjwk, bind, Except.bind] at hdata
  | some jwk =>
    simp only [hjwk, bind, Except.bind] at hdata
    split at hdata
    · contradiction
    · refine ⟨jwk, ?_⟩
      cases hparsed : parse_remote_key crates jwk with
      | error e => simp [hparsed] at hdata
      | ok remote_public =>
        simp only [hparsed] at hdata
        cases hderive : crates.hkdf_sha256 (crates.diffie_hellman local_secret remote_public) with
        | error e => simp [hderive, Except.mapError] at hdata
        | ok result =>
          simp only [hderive, Except.mapError, pure, Except.pure, Except.ok.injEq, Prod.mk.injEq] at hdata
          exact ⟨remote_public, rfl, by rw [hderive, hdata.1]⟩

theorem joins_coordinates {affine : Bytes → p256.Point} (hreads : ReadsPoints crates.from_sec1_bytes affine) :
    Joins (ec_coordinates crates) (parsed_key crates) affine := by
  intro remote_jwk_data
  rw [parsed_key_eq, Option.map_bind]
  congr 1
  funext coordinates
  exact hreads _

end kms_client

/-- Both parsers take keys from their own coordinates exactly where these are not
    misaligned. -/
theorem ec_keys_own_coordinates_iff {jwe_crates : jwe.Crates} {kms_crates : kms_client.Crates}
    {affine : Bytes → p256.Point} (hjwe : ReadsPoints jwe_crates.from_sec1_bytes affine)
    (hkms : ReadsPoints kms_crates.from_sec1_bytes affine) (jwk jwk' : Value) :
    (Distinguishes (jwe.ec_coordinates jwe_crates) (jwe.parsed_key jwe_crates) affine jwk jwk' ↔
      ¬ Misaligned p256 (jwe.ec_coordinates jwe_crates) jwk ∧ ¬ Misaligned p256 (jwe.ec_coordinates jwe_crates) jwk') ∧
    (Distinguishes (kms_client.ec_coordinates kms_crates) (kms_client.parsed_key kms_crates) affine jwk jwk' ↔
      ¬ Misaligned p256 (kms_client.ec_coordinates kms_crates) jwk ∧
        ¬ Misaligned p256 (kms_client.ec_coordinates kms_crates) jwk') :=
  ⟨(jwe.joins_coordinates hjwe).distinguishes_iff jwk jwk', (kms_client.joins_coordinates hkms).distinguishes_iff jwk jwk'⟩

section sample

open kms_client (base_x base_y)

def base_point : p256.Point := ⟨base_x, base_y, by decide⟩

/-- Keys as the bytes of their points. -/
def read_point (bytes : Bytes) : Except String Bytes :=
  match p256.read_uncompressed bytes with
  | some _ => .ok bytes
  | none => .error "crypto error"

def affine_of (key : Bytes) : p256.Point := (p256.read_uncompressed key).getD base_point

theorem read_point_reads : ReadsPoints read_point affine_of := by
  intro rest
  unfold read_point
  cases hread : p256.read_uncompressed (4 :: rest) with
  | none => rfl
  | some point => simp [Except.toOption, affine_of, hread]

def sample_jwe_crates : jwe.Crates := { jwe.sample_crates with from_sec1_bytes := read_point }

def sample_kms_crates : kms_client.Crates :=
  { kms_client.sample_crates with
    url_safe_no_pad_decode := jwe.decode sample_jwe_crates
    from_sec1_bytes := read_point }

def ec_jwk (x y : Bytes) : Value :=
  .object [("kty", .string "EC"), ("crv", .string "P-256"), ("x", .string (jwe.encode x)), ("y", .string (jwe.encode y))]

theorem ec_coordinates_ec_jwk (x y : Bytes) :
    jwe.ec_coordinates sample_jwe_crates (ec_jwk x y) = some (x, y) ∧
      kms_client.ec_coordinates sample_kms_crates (ec_jwk x y) = some (x, y) := by
  have hx : jwe.decode sample_jwe_crates (jwe.encode x) = .ok x := jwe.decode_eq_ok_iff.mpr rfl
  have hy : jwe.decode sample_jwe_crates (jwe.encode y) = .ok y := jwe.decode_eq_ok_iff.mpr rfl
  constructor
  · show (do
      let x_bytes ← (jwe.decode sample_jwe_crates (jwe.encode x)).toOption
      let y_bytes ← (jwe.decode sample_jwe_crates (jwe.encode y)).toOption
      return (x_bytes, y_bytes)) = _
    rw [hx, hy]
    rfl
  · show (do
      let x_bytes ← (jwe.decode sample_jwe_crates (jwe.encode x)).toOption
      let y_bytes ← (jwe.decode sample_jwe_crates (jwe.encode y)).toOption
      return (x_bytes, y_bytes)) = _
    rw [hx, hy]
    rfl

theorem base_point_own_coordinates :
    Distinguishes (jwe.ec_coordinates sample_jwe_crates) (jwe.parsed_key sample_jwe_crates) affine_of (ec_jwk base_x base_y)
        (ec_jwk base_x base_y) ∧
      Distinguishes (kms_client.ec_coordinates sample_kms_crates) (kms_client.parsed_key sample_kms_crates) affine_of
        (ec_jwk base_x base_y) (ec_jwk base_x base_y) := by
  have haligned : ∀ coordinates : Value → Option (Bytes × Bytes), coordinates (ec_jwk base_x base_y) = some (base_x, base_y) →
      ¬ Misaligned p256 coordinates (ec_jwk base_x base_y) := by
    rintro coordinates hcoordinates ⟨x, y, hother, hlength, _⟩
    rw [hcoordinates] at hother
    cases hother
    exact hlength rfl
  obtain ⟨hjwe, hkms⟩ := ec_coordinates_ec_jwk base_x base_y
  obtain ⟨hjwe_iff, hkms_iff⟩ := @ec_keys_own_coordinates_iff sample_jwe_crates sample_kms_crates affine_of read_point_reads
    read_point_reads (ec_jwk base_x base_y) (ec_jwk base_x base_y)
  exact ⟨hjwe_iff.mpr ⟨haligned _ hjwe, haligned _ hjwe⟩, hkms_iff.mpr ⟨haligned _ hkms, haligned _ hkms⟩⟩

/-- The base point's key from coordinates of 31 and 33 bytes. -/
theorem shifted_coordinates_accepted :
    jwe.parsed_key sample_jwe_crates (ec_jwk (base_x.take 31) (base_x.drop 31 ++ base_y)) =
        some base_point.uncompressed ∧
      kms_client.parsed_key sample_kms_crates (ec_jwk (base_x.take 31) (base_x.drop 31 ++ base_y)) =
        some base_point.uncompressed ∧
      (¬ ∀ jwk jwk',
        Distinguishes (jwe.ec_coordinates sample_jwe_crates) (jwe.parsed_key sample_jwe_crates) affine_of jwk jwk') ∧
      ¬ ∀ jwk jwk', Distinguishes (kms_client.ec_coordinates sample_kms_crates) (kms_client.parsed_key sample_kms_crates)
        affine_of jwk jwk' := by
  have hbytes : base_x.take 31 ++ (base_x.drop 31 ++ base_y) = base_x ++ base_y := by
    rw [← List.append_assoc, List.take_append_drop]
  have hmisaligned : ∀ coordinates : Value → Option (Bytes × Bytes),
      coordinates (ec_jwk (base_x.take 31) (base_x.drop 31 ++ base_y)) = some (base_x.take 31, base_x.drop 31 ++ base_y) →
      Misaligned p256 coordinates (ec_jwk (base_x.take 31) (base_x.drop 31 ++ base_y)) :=
    fun coordinates hcoordinates => ⟨_, _, hcoordinates, by decide, base_point, hbytes⟩
  obtain ⟨hjwe, hkms⟩ := ec_coordinates_ec_jwk (base_x.take 31) (base_x.drop 31 ++ base_y)
  have hread : (read_point base_point.uncompressed).toOption = some base_point.uncompressed := by
    rw [read_point, Curve.read_uncompressed_eq_some.mpr rfl]
    rfl
  refine ⟨?_, ?_, fun hall => ?_, fun hall => ?_⟩
  · rw [jwe.parsed_key_eq, hjwe, Option.bind_some]
    show (read_point (4 :: (base_x.take 31 ++ (base_x.drop 31 ++ base_y)))).toOption = _
    rw [hbytes]
    exact hread
  · rw [kms_client.parsed_key_eq, hkms, Option.bind_some]
    show (read_point (4 :: (base_x.take 31 ++ (base_x.drop 31 ++ base_y)))).toOption = _
    rw [hbytes]
    exact hread
  · have hjoins := @jwe.joins_coordinates sample_jwe_crates affine_of read_point_reads
    exact (hjoins.own_coordinates_iff _).mp (hall _ .null).1 (hmisaligned _ hjwe)
  · have hjoins := @kms_client.joins_coordinates sample_kms_crates affine_of read_point_reads
    exact (hjoins.own_coordinates_iff _).mp (hall _ .null).1 (hmisaligned _ hkms)

end sample

end webex.rust
