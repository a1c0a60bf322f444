import Mathlib.Data.List.Basic
import Mathlib.Data.List.Forall2

namespace base64

/-- The 6-bit groups of a byte string, in order. The last group of an incomplete triple
    is filled up with zero bits. -/
def sextets : List UInt8 → List Nat
  | [] => []
  | [a] => [a.toNat / 4, a.toNat % 4 * 16]
  | [a, b] => [a.toNat / 4, a.toNat % 4 * 16 + b.toNat / 16, b.toNat % 16 * 4]
  | a :: b :: c :: rest =>
    [a.toNat / 4, a.toNat % 4 * 16 + b.toNat / 16, b.toNat % 16 * 4 + c.toNat / 64, c.toNat % 64] ++ sextets rest

/-- The whole bytes in a sequence of 6-bit groups. -/
def octets : List Nat → List UInt8
  | p :: q :: r :: s :: rest =>
    UInt8.ofNat (p * 4 + q / 16) :: UInt8.ofNat (q % 16 * 16 + r / 4) :: UInt8.ofNat (r % 4 * 64 + s) :: octets rest
  | [p, q, r] => [UInt8.ofNat (p * 4 + q / 16), UInt8.ofNat (q % 16 * 16 + r / 4)]
  | [p, q] => [UInt8.ofNat (p * 4 + q / 16)]
  | _ => []

/-- The bits after the last whole byte. -/
def slack : List Nat → Nat
  | _ :: _ :: _ :: _ :: rest => slack rest
  | [_, _, r] => r % 4
  | [_, q] => q % 16
  | _ => 0

theorem ofNat_eq {a : UInt8} {n : Nat} (heq : n = a.toNat) : UInt8.ofNat n = a := by
  rw [heq, UInt8.ofNat_toNat]

theorem octets_sextets (bytes : List UInt8) : octets (sextets bytes) = bytes := by
  fun_induction sextets bytes with
  | case1 => rfl
  | case2 a =>
    simp only [octets, List.cons.injEq, and_true]
    exact ofNat_eq (by omega)
  | case3 a b =>
    have hb : b.toNat < 256 := b.toNat_lt
    simp only [octets, List.cons.injEq, and_true]
    exact ⟨ofNat_eq (by omega), ofNat_eq (by omega)⟩
  | case4 a b c rest ih =>
    have hb : b.toNat < 256 := b.toNat_lt
    have hc : c.toNat < 256 := c.toNat_lt
    simp only [List.cons_append, List.nil_append, octets, ih, List.cons.injEq, and_true]
    exact ⟨ofNat_eq (by omega), ofNat_eq (by omega), ofNat_eq (by omega)⟩

theorem slack_sextets (bytes : List UInt8) : slack (sextets bytes) = 0 := by
  fun_induction sextets bytes with
  | case1 => rfl
  | case2 a =>
    simp only [slack]
    omega
  | case3 a b =>
    simp only [slack]
    omega
  | case4 a b c rest ih => exact ih

theorem sextets_lt (bytes : List UInt8) : ∀ n ∈ sextets bytes, n < 64 := by
  fun_induction sextets bytes with
  | case1 => simp
  | case2 a =>
    have ha : a.toNat < 256 := a.toNat_lt
    simp only [List.mem_cons, List.not_mem_nil, or_false, forall_eq_or_imp, forall_eq]
    omega
  | case3 a b =>
    have ha : a.toNat < 256 := a.toNat_lt
    have hb : b.toNat < 256 := b.toNat_lt
    simp only [List.mem_cons, List.not_mem_nil, or_false, forall_eq_or_imp, forall_eq]
    omega
  | case4 a b c rest ih =>
    have ha : a.toNat < 256 := a.toNat_lt
    have hb : b.toNat < 256 := b.toNat_lt
    have hc : c.toNat < 256 := c.toNat_lt
    simp only [List.cons_append, List.nil_append, List.mem_cons, forall_eq_or_imp]
    exact ⟨by omega, by omega, by omega, by omega, ih⟩

theorem length_sextets (bytes : List UInt8) : (sextets bytes).length = (bytes.length * 4 + 2) / 3 := by
  fun_induction sextets bytes with
  | case1 => rfl
  | case2 a => simp
  | case3 a b => simp
  | case4 a b c rest ih =>
    simp only [List.cons_append, List.nil_append, List.length_cons, ih]
    omega

/-- The symbol of a 6-bit group in the standard alphabet. -/
def symbol (n : Nat) : UInt8 :=
  if n < 26 then UInt8.ofNat (65 + n)
  else if n < 52 then UInt8.ofNat (71 + n)
  else if n < 62 then UInt8.ofNat (n - 4)
  else if n = 62 then 43 else 47

def value (c : UInt8) : Option Nat :=
  if 65 ≤ c.toNat ∧ c.toNat ≤ 90 then some (c.toNat - 65)
  else if 97 ≤ c.toNat ∧ c.toNat ≤ 122 then some (c.toNat - 71)
  else if 48 ≤ c.toNat ∧ c.toNat ≤ 57 then some (c.toNat + 4)
  else if c.toNat = 43 then some 62
  else if c.toNat = 47 then some 63
  else none

theorem value_symbol {n : Nat} (hlt : n < 64) : value (symbol n) = some n := by
  have hall : ∀ n < 64, value (symbol n) = some n := by decide
  exact hall n hlt

/-- The padding symbol. -/
def pad : UInt8 := 61

theorem symbol_ne_pad {n : Nat} (hlt : n < 64) : symbol n ≠ pad := by
  have hall : ∀ n < 64, symbol n ≠ pad := by decide
  exact hall n hlt

theorem symbol_ascii {n : Nat} (hlt : n < 64) : (symbol n).toNat < 128 := by
  have hall : ∀ n < 64, (symbol n).toNat < 128 := by decide
  exact hall n hlt

def encode_no_pad (bytes : List UInt8) : List UInt8 := (sextets bytes).map symbol

/-- What fills up the last quadruple of symbols. -/
def padding (length : Nat) : List UInt8 := List.replicate ((4 - length % 4) % 4) pad

def encode (bytes : List UInt8) : List UInt8 := encode_no_pad bytes ++ padding (encode_no_pad bytes).length

/-- The decoding of unpadded text, which fails on a single symbol left over. A strict one
    also fails when bits are left over that are not zero. -/
def decode_no_pad (strict : Bool) (text : List UInt8) : Option (List UInt8) :=
  match text.mapM value with
  | none => none
  | some groups =>
    if groups.length % 4 = 1 ∨ (strict = true ∧ slack groups ≠ 0) then none else some (octets groups)

/-- The decoding of text whose last quadruple must be filled up. -/
def decode (strict : Bool) (text : List UInt8) : Option (List UInt8) :=
  let body := text.takeWhile (· != pad)
  if text.dropWhile (· != pad) = padding body.length then decode_no_pad strict body else none

theorem mapM_value_symbols {groups : List Nat} (hlt : ∀ n ∈ groups, n < 64) :
    (groups.map symbol).mapM value = some groups := by
  induction groups with
  | nil => rfl
  | cons n rest ih =>
    simp only [List.mem_cons, forall_eq_or_imp] at hlt
    simp [List.mapM_cons, value_symbol hlt.1, ih hlt.2]

theorem decode_no_pad_encode (strict : Bool) (bytes : List UInt8) :
    decode_no_pad strict (encode_no_pad bytes) = some bytes := by
  unfold decode_no_pad encode_no_pad
  rw [mapM_value_symbols (sextets_lt bytes)]
  have hlength : (sextets bytes).length % 4 ≠ 1 := by
    rw [length_sextets]
    omega
  simp [hlength, slack_sextets, octets_sextets]

theorem mem_encode_no_pad {bytes : List UInt8} {c : UInt8} (hmem : c ∈ encode_no_pad bytes) :
    ∃ n < 64, symbol n = c := by
  obtain ⟨n, hn, hsymbol⟩ := List.mem_map.mp hmem
  exact ⟨n, sextets_lt bytes n hn, hsymbol⟩

theorem split_padded (bytes : List UInt8) (tail : List UInt8) (htail : ∀ c ∈ tail, c = pad) :
    (encode_no_pad bytes ++ tail).takeWhile (· != pad) = encode_no_pad bytes ∧
      (encode_no_pad bytes ++ tail).dropWhile (· != pad) = tail := by
  have hbody : ∀ c ∈ encode_no_pad bytes, (c != pad) = true := by
    intro c hmem
    obtain ⟨n, hn, rfl⟩ := mem_encode_no_pad hmem
    simpa using symbol_ne_pad hn
  rw [List.takeWhile_append_of_pos hbody, List.dropWhile_append_of_pos hbody]
  cases tail with
  | nil => simp
  | cons c rest => simp [htail c List.mem_cons_self]

theorem decode_encode (strict : Bool) (bytes : List UInt8) : decode strict (encode bytes) = some bytes := by
  unfold decode encode
  obtain ⟨htake, hdrop⟩ := split_padded bytes (padding (encode_no_pad bytes).length) fun c hmem =>
    List.eq_of_mem_replicate hmem
  rw [htake, hdrop, if_pos rfl]
  exact decode_no_pad_encode strict bytes

/-- Unpadded text decodes with padding exactly when it needs none. -/
theorem decode_encode_no_pad (strict : Bool) (bytes : List UInt8) (htail : padding (encode_no_pad bytes).length ≠ []) :
    decode strict (encode_no_pad bytes) = none := by
  unfold decode
  obtain ⟨htake, hdrop⟩ := split_padded bytes [] (by simp)
  rw [List.append_nil] at htake hdrop
  rw [htake, hdrop, if_neg htail.symm]

section canonical

theorem symbol_value {c : UInt8} {n : Nat} (hvalue : value c = some n) : symbol n = c ∧ n < 64 := by
  have hall : ∀ code < 256, ∀ n, value (UInt8.ofNat code) = some n → symbol n = UInt8.ofNat code ∧ n < 64 := by
    intro code hlt n hvalue
    have hcode : ∀ code < 256, (value (UInt8.ofNat code)).all fun n => symbol n = UInt8.ofNat code ∧ n < 64 := by
      decide +kernel
    simpa [hvalue] using hcode code hlt
  have hc := hall c.toNat c.toNat_lt n
  rw [UInt8.ofNat_toNat] at hc
  exact hc hvalue

theorem map_symbol_of_mapM_value {text : List UInt8} {groups : List Nat} (hgroups : text.mapM value = some groups) :
    groups.map symbol = text ∧ ∀ n ∈ groups, n < 64 := by
  induction text generalizing groups with
  | nil => simp_all
  | cons c rest ih =>
    rw [List.mapM_cons] at hgroups
    simp only [Option.bind_eq_bind, Option.bind_eq_some_iff, Option.pure_def, Option.some.injEq] at hgroups
    obtain ⟨n, hn, groups, hrest, rfl⟩ := hgroups
    obtain ⟨hsymbol, hlt⟩ := symbol_value hn
    obtain ⟨hmap, hall⟩ := ih hrest
    exact ⟨by rw [List.map_cons, hsymbol, hmap], by simpa [hlt] using hall⟩

/-- Groups with no group left over, and no bits, are those of their bytes. -/
theorem sextets_octets {groups : List Nat} (hlt : ∀ n ∈ groups, n < 64) (hlength : groups.length % 4 ≠ 1)
    (hslack : slack groups = 0) : sextets (octets groups) = groups := by
  fun_induction octets groups with
  | case1 p q r s rest ih =>
    simp only [List.mem_cons, forall_eq_or_imp] at hlt
    have hrest : sextets (octets rest) = rest := by
      refine ih hlt.2.2.2.2 ?_ hslack
      simpa [Nat.add_assoc] using hlength
    simp only [sextets, hrest, UInt8.toNat_ofNat', List.cons_append, List.nil_append, List.cons.injEq, and_true]
    omega
  | case2 p q r =>
    simp only [slack] at hslack
    simp only [List.mem_cons, forall_eq_or_imp] at hlt
    simp only [sextets, UInt8.toNat_ofNat', List.cons.injEq, and_true]
    omega
  | case3 p q =>
    simp only [slack] at hslack
    simp only [List.mem_cons, forall_eq_or_imp] at hlt
    simp only [sextets, UInt8.toNat_ofNat', List.cons.injEq, and_true]
    omega
  | case4 groups hfour hthree htwo =>
    match groups with
    | [] => rfl
    | [_] => simp at hlength
    | [_, _] => exact absurd rfl (htwo _ _)
    | [_, _, _] => exact absurd rfl (hthree _ _ _)
    | _ :: _ :: _ :: _ :: _ => exact absurd rfl (hfour _ _ _ _ _)

/-- Strict decoding accepts nothing but encodings. -/
theorem encode_decode_no_pad {text bytes : List UInt8} (hdecode : decode_no_pad true text = some bytes) :
    encode_no_pad bytes = text := by
  unfold decode_no_pad at hdecode
  split at hdecode
  · contradiction
  · rename_i groups hgroups
    simp only [Option.ite_none_left_eq_some, not_or, true_and, not_not, Option.some.injEq] at hdecode
    obtain ⟨⟨hlength, hslack⟩, rfl⟩ := hdecode
    obtain ⟨hmap, hlt⟩ := map_symbol_of_mapM_value hgroups
    rw [encode_no_pad, sextets_octets hlt hlength hslack, hmap]

theorem encode_decode {text bytes : List UInt8} (hdecode : decode true text = some bytes) : encode bytes = text := by
  unfold decode at hdecode
  simp only [Option.ite_none_right_eq_some] at hdecode
  obtain ⟨hpadding, hbody⟩ := hdecode
  rw [encode, encode_decode_no_pad hbody, ← hpadding, List.takeWhile_append_dropWhile]

end canonical

/-- The first symbol has the upper bits of the first byte. -/
theorem encode_no_pad_cons (a : UInt8) (rest : List UInt8) :
    ∃ symbols, encode_no_pad (a :: rest) = symbol (a.toNat / 4) :: symbols := by
  match rest with
  | [] => exact ⟨_, rfl⟩
  | [b] => exact ⟨_, rfl⟩
  | b :: c :: rest => exact ⟨_, rfl⟩

theorem padding_eq_nil {bytes : List UInt8} : padding (encode_no_pad bytes).length = [] ↔ bytes.length % 3 = 0 := by
  rw [padding, List.replicate_eq_nil_iff, encode_no_pad, List.length_map, length_sextets]
  omega

section url_safe

/-- The URL-safe alphabet has a minus sign and an underscore for the plus sign and the
    slash. -/
def to_url_safe (c : UInt8) : UInt8 := if c = 43 then 45 else if c = 47 then 95 else c

def of_url_safe (c : UInt8) : Option UInt8 :=
  if c = 45 then some 43 else if c = 95 then some 47 else if c = 43 ∨ c = 47 then none else some c

def encode_url_safe (bytes : List UInt8) : List UInt8 := (encode_no_pad bytes).map to_url_safe

/-- The strict decoding of unpadded text in the URL-safe alphabet. -/
def decode_url_safe (text : List UInt8) : Option (List UInt8) := (text.mapM of_url_safe).bind (decode_no_pad true)

theorem of_url_safe_eq_some {c d : UInt8} (hd : d ≠ 45 ∧ d ≠ 95) : of_url_safe c = some d ↔ to_url_safe d = c := by
  unfold of_url_safe to_url_safe
  grind

theorem symbol_url_safe {c : UInt8} {bytes : List UInt8} (hmem : c ∈ encode_no_pad bytes) : c ≠ 45 ∧ c ≠ 95 := by
  obtain ⟨n, hn, rfl⟩ := mem_encode_no_pad hmem
  have hall : ∀ n < 64, symbol n ≠ 45 ∧ symbol n ≠ 95 := by decide
  exact hall n hn

theorem mapM_of_url_safe_iff {text plain : List UInt8} (hplain : ∀ d ∈ plain, d ≠ 45 ∧ d ≠ 95) :
    text.mapM of_url_safe = some plain ↔ plain.map to_url_safe = text := by
  induction text generalizing plain with
  | nil =>
    cases plain with
    | nil => simp
    | cons d plain => simp
  | cons c rest ih =>
    cases plain with
    | nil => simp [List.mapM_cons, Option.bind_eq_some_iff]
    | cons d plain =>
      simp only [List.mem_cons, forall_eq_or_imp] at hplain
      have hrest : rest.mapM of_url_safe = some plain ↔ plain.map to_url_safe = rest := ih hplain.2
      simp only [List.mapM_cons, Option.bind_eq_bind, Option.bind_eq_some_iff, Option.pure_def, Option.some.injEq,
        List.cons.injEq, List.map_cons]
      rw [← of_url_safe_eq_some hplain.1, ← hrest]
      constructor
      · rintro ⟨c', hc, groups, hgroups, rfl, rfl⟩
        exact ⟨hc, hgroups⟩
      · rintro ⟨hc, hgroups⟩
        exact ⟨d, hc, plain, hgroups, rfl, rfl⟩

/-- A text decodes to the bytes that it is the encoding of. -/
theorem decode_url_safe_iff {text bytes : List UInt8} :
    decode_url_safe text = some bytes ↔ encode_url_safe bytes = text := by
  have hsafe : ∀ d ∈ encode_no_pad bytes, d ≠ 45 ∧ d ≠ 95 := fun d hmem => symbol_url_safe hmem
  rw [decode_url_safe, encode_url_safe, Option.bind_eq_some_iff, ← mapM_of_url_safe_iff hsafe]
  constructor
  · rintro ⟨plain, hplain, hdecode⟩
    rw [hplain, encode_decode_no_pad hdecode]
  · intro hplain
    exact ⟨_, hplain, decode_no_pad_encode true bytes⟩

theorem encode_url_safe_ascii {bytes : List UInt8} : ∀ c ∈ encode_url_safe bytes, c.toNat < 128 ∧ c ≠ 46 := by
  intro c hmem
  obtain ⟨d, hd, rfl⟩ := List.mem_map.mp hmem
  obtain ⟨n, hn, rfl⟩ := mem_encode_no_pad hd
  have hall : ∀ n < 64, (to_url_safe (symbol n)).toNat < 128 ∧ to_url_safe (symbol n) ≠ 46 := by decide
  exact hall n hn

end url_safe

end base64
