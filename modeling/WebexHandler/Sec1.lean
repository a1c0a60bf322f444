import Mathlib.Algebra.GroupWithZero.Nat
import Mathlib.Data.List.Basic

namespace sec1

/-- The number whose digits to the base 256 are the bytes, the highest first. -/
def number (bytes : List UInt8) : Nat := bytes.foldl (fun n b => n * 256 + b.toNat) 0

/-- A curve `y² = x³ + ax + b` over the numbers below a prime, which take `size` bytes. -/
structure Curve where
  modulus : Nat
  a : Nat
  b : Nat
  size : Nat

/-- The bytes are the coordinates of a point on the curve. -/
def Curve.Contains (curve : Curve) (x y : List UInt8) : Prop :=
  x.length = curve.size ∧ y.length = curve.size ∧ number x < curve.modulus ∧ number y < curve.modulus ∧
    number y ^ 2 % curve.modulus = (number x ^ 3 + curve.a * number x + curve.b) % curve.modulus

instance (curve : Curve) (x y : List UInt8) : Decidable (curve.Contains x y) := inferInstanceAs (Decidable (_ ∧ _))

/-- A point other than the one at infinity. -/
structure Curve.Point (curve : Curve) where
  x : List UInt8
  y : List UInt8
  contained : curve.Contains x y

variable {curve : Curve}

def Curve.Point.uncompressed (point : curve.Point) : List UInt8 := 4 :: (point.x ++ point.y)

/-- The point that an uncompressed encoding stands for. -/
def Curve.read_uncompressed (curve : Curve) : List UInt8 → Option curve.Point
  | [] => none
  | tag :: rest =>
    if hpoint : tag = 4 ∧ curve.Contains (rest.take curve.size) (rest.drop curve.size) then
      some ⟨rest.take curve.size, rest.drop curve.size, hpoint.2⟩
    else none

theorem Curve.Point.ext {point point' : curve.Point} (hx : point.x = point'.x) (hy : point.y = point'.y) :
    point = point' := by
  cases point
  cases point'
  cases hx
  cases hy
  rfl

theorem Curve.read_uncompressed_eq_some {bytes : List UInt8} {point : curve.Point} :
    curve.read_uncompressed bytes = some point ↔ bytes = point.uncompressed := by
  constructor
  · intro hread
    cases bytes with
    | nil => contradiction
    | cons tag rest =>
      simp only [read_uncompressed] at hread
      split at hread
      · rename_i hpoint
        obtain ⟨rfl, _⟩ := hpoint
        obtain rfl := Option.some.inj hread
        rw [Point.uncompressed, List.take_append_drop]
      · contradiction
  · rintro rfl
    have hx : (point.x ++ point.y).take curve.size = point.x := List.take_left' point.contained.1
    have hy : (point.x ++ point.y).drop curve.size = point.y := List.drop_left' point.contained.1
    have hpoint : (4 : UInt8) = 4 ∧
        curve.Contains ((point.x ++ point.y).take curve.size) ((point.x ++ point.y).drop curve.size) := by
      rw [hx, hy]
      exact ⟨rfl, point.contained⟩
    rw [Point.uncompressed, read_uncompressed, dif_pos hpoint]
    exact congrArg some (Point.ext hx hy)

section joined

variable {Source Key : Type} {coordinates : Source → Option (List UInt8 × List UInt8)} {parse : Source → Option Key}
  {affine : Key → curve.Point}

/-- A source whose coordinates, whatever their lengths, together are those of a point. -/
def Misaligned (curve : Curve) (coordinates : Source → Option (List UInt8 × List UInt8)) (source : Source) : Prop :=
  ∃ x y, coordinates source = some (x, y) ∧ x.length ≠ curve.size ∧ ∃ point : curve.Point, x ++ y = point.x ++ point.y

/-- Keys are parsed from the two coordinates joined after the tag of an uncompressed point. -/
def Joins (coordinates : Source → Option (List UInt8 × List UInt8)) (parse : Source → Option Key)
    (affine : Key → curve.Point) : Prop :=
  ∀ source, (parse source).map affine = (coordinates source).bind fun (x, y) => curve.read_uncompressed (4 :: (x ++ y))

/-- A key has the coordinates of its source, which have the length of coordinates. -/
def OwnCoordinates (coordinates : Source → Option (List UInt8 × List UInt8)) (parse : Source → Option Key)
    (affine : Key → curve.Point) (source : Source) : Prop :=
  ∀ key, parse source = some key → ∃ x y, coordinates source = some (x, y) ∧ x.length = curve.size ∧
    y.length = curve.size ∧ (affine key).x = x ∧ (affine key).y = y

theorem Joins.point_of_parse (hjoins : Joins coordinates parse affine) {source : Source} {key : Key}
    (hparse : parse source = some key) :
    ∃ x y, coordinates source = some (x, y) ∧ x ++ y = (affine key).x ++ (affine key).y := by
  have hkey := hjoins source
  rw [hparse, Option.map_some] at hkey
  obtain ⟨⟨x, y⟩, hcoordinates, hread⟩ := Option.bind_eq_some_iff.mp hkey.symm
  have hbytes := Curve.read_uncompressed_eq_some.mp hread
  simp only [Curve.Point.uncompressed, List.cons.injEq, true_and] at hbytes
  exact ⟨x, y, hcoordinates, hbytes⟩

/-- A source that is misaligned is parsed all the same. -/
theorem Joins.parse_of_misaligned (hjoins : Joins coordinates parse affine) {source : Source}
    (hmisaligned : Misaligned curve coordinates source) : ∃ key, parse source = some key := by
  obtain ⟨x, y, hcoordinates, _, point, hbytes⟩ := hmisaligned
  have hkey := hjoins source
  have hread : curve.read_uncompressed (4 :: (x ++ y)) = some point := by
    rw [Curve.read_uncompressed_eq_some, hbytes]
    rfl
  simp only [hcoordinates, Option.bind_some, hread] at hkey
  obtain ⟨key, hparse, _⟩ := Option.map_eq_some_iff.mp hkey
  exact ⟨key, hparse⟩

theorem Joins.own_coordinates_iff (hjoins : Joins coordinates parse affine) (source : Source) :
    OwnCoordinates coordinates parse affine source ↔ ¬ Misaligned curve coordinates source := by
  constructor
  · intro hown hmisaligned
    obtain ⟨key, hparse⟩ := hjoins.parse_of_misaligned hmisaligned
    obtain ⟨x, y, hcoordinates, hlength, _⟩ := hown key hparse
    obtain ⟨x', y', hcoordinates', hlength', _⟩ := hmisaligned
    rw [hcoordinates] at hcoordinates'
    cases hcoordinates'
    exact hlength' hlength
  · intro haligned key hparse
    obtain ⟨x, y, hcoordinates, hbytes⟩ := hjoins.point_of_parse hparse
    have hlength : x.length = curve.size := by
      by_contra hother
      exact haligned ⟨x, y, hcoordinates, hother, affine key, hbytes⟩
    obtain ⟨hx, hy⟩ := List.append_inj hbytes (hlength.trans (affine key).contained.1.symm)
    refine ⟨x, y, hcoordinates, hlength, ?_, hx.symm, hy.symm⟩
    rw [hy]
    exact (affine key).contained.2.1

/-- Both sources have keys with their own coordinates, and the same key only if these are
    the same. -/
def Distinguishes (coordinates : Source → Option (List UInt8 × List UInt8)) (parse : Source → Option Key)
    (affine : Key → curve.Point) (source source' : Source) : Prop :=
  OwnCoordinates coordinates parse affine source ∧ OwnCoordinates coordinates parse affine source' ∧
    ∀ key, parse source = some key → parse source' = some key → coordinates source = coordinates source'

theorem Joins.distinguishes_iff (hjoins : Joins coordinates parse affine) (source source' : Source) :
    Distinguishes coordinates parse affine source source' ↔
      ¬ Misaligned curve coordinates source ∧ ¬ Misaligned curve coordinates source' := by
  rw [← hjoins.own_coordinates_iff, ← hjoins.own_coordinates_iff]
  constructor
  · rintro ⟨hown, hown', _⟩
    exact ⟨hown, hown'⟩
  · rintro ⟨hown, hown'⟩
    refine ⟨hown, hown', fun key hparse hparse' => ?_⟩
    obtain ⟨x, y, hcoordinates, _, _, rfl, rfl⟩ := hown key hparse
    obtain ⟨x', y', hcoordinates', _, _, rfl, rfl⟩ := hown' key hparse'
    rw [hcoordinates, hcoordinates']

end joined

/-- The curve P-256. -/
def p256 : Curve where
  modulus := 2 ^ 256 - 2 ^ 224 + 2 ^ 192 + 2 ^ 96 - 1
  a := 2 ^ 256 - 2 ^ 224 + 2 ^ 192 + 2 ^ 96 - 4
  b := 0x5ac635d8aa3a93e7b3ebbd55769886bc651d06b0cc53b0f63bce3c3e27d2604b
  size := 32

end sec1
