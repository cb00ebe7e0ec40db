import Mathlib.Tactic.Common

/-! # Base64 over an arbitrary alphabet, with or without padding -/

namespace Base64

/-- An alphabet of 64 distinct symbols, none of them the padding character. -/
structure Alphabet where
  symbols : List Char
  pad : Bool
  distinct : ∀ n < 64, symbols.idxOf? (symbols.getD n '=') = some n
  unpadded : '=' ∉ symbols

/-- Symbols whose codes differ are each found at their own place. -/
theorem distinct_of_codes {symbols : List Char} {codes : List Nat}
    (hcodes : symbols.map Char.toNat = codes) (hnodup : codes.Nodup) (hlength : codes.length = 64) :
    ∀ n < 64, symbols.idxOf? (symbols.getD n '=') = some n := by
  intro n hn
  have hlt : n < symbols.length := by
    rw [← List.length_map Char.toNat, hcodes, hlength]
    exact hn
  have hget : symbols.getD n '=' = symbols[n] := by simp [List.getD, hlt]
  rw [hget, List.idxOf?_eq_some_iff]
  refine ⟨hlt, rfl, fun j hj heq => Nat.ne_of_lt hj ?_⟩
  subst hcodes
  have hj' : j < (symbols.map Char.toNat).length := by omega
  have hn' : n < (symbols.map Char.toNat).length := by omega
  calc j = (symbols.map Char.toNat).idxOf (symbols.map Char.toNat)[j] :=
        (hnodup.idxOf_getElem j hj').symm
    _ = (symbols.map Char.toNat).idxOf (symbols.map Char.toNat)[n] := by
        simp only [List.getElem_map, heq]
    _ = n := hnodup.idxOf_getElem n hn'

/-- The codes of the letters and the digits, and two more. -/
def codes (a b : Nat) : List Nat :=
  List.range' 65 26 ++ List.range' 97 26 ++ List.range' 48 10 ++ [a, b]

theorem nodup_codes {a b : Nat} (ha : a < 48) (hb : b < 48 ∨ b = 95) (hne : a ≠ b) :
    (codes a b).Nodup := by
  simp only [codes, List.nodup_append, List.mem_append, List.mem_range'_1, List.mem_cons,
    List.not_mem_nil, or_false]
  refine ⟨⟨⟨List.nodup_range', List.nodup_range', ?_⟩, List.nodup_range', ?_⟩, by simp [hne], ?_⟩ <;>
    omega

/-- RFC 4648 table 1, padded. -/
def standard : Alphabet where
  symbols := "ABCDEFGHIJKLMNOPQRSTUVWXYZabcdefghijklmnopqrstuvwxyz0123456789+/".toList
  pad := true
  distinct := by
    rw [String.toList_ofList]
    exact distinct_of_codes (show _ = codes 43 47 from rfl)
      (nodup_codes (by decide) (by decide) (by decide)) rfl
  unpadded := by
    rw [String.toList_ofList]
    decide

/-- RFC 4648 table 2, without padding. -/
def urlSafeNoPad : Alphabet where
  symbols := "ABCDEFGHIJKLMNOPQRSTUVWXYZabcdefghijklmnopqrstuvwxyz0123456789-_".toList
  pad := false
  distinct := by
    rw [String.toList_ofList]
    exact distinct_of_codes (show _ = codes 45 95 from rfl)
      (nodup_codes (by decide) (by decide) (by decide)) rfl
  unpadded := by
    rw [String.toList_ofList]
    decide

variable (A : Alphabet)

def symbol (n : Nat) : Char := A.symbols.getD n '='

def value? (c : Char) : Option Nat := A.symbols.idxOf? c

def padding (n : Nat) : List Char := if A.pad then List.replicate n '=' else []

def encode : List UInt8 → List Char
  | [] => []
  | [a] => symbol A (a.toNat / 4) :: symbol A (a.toNat % 4 * 16) :: padding A 2
  | [a, b] =>
    symbol A (a.toNat / 4) :: symbol A (a.toNat % 4 * 16 + b.toNat / 16) ::
      symbol A (b.toNat % 16 * 4) :: padding A 1
  | a :: b :: c :: rest =>
    symbol A (a.toNat / 4) :: symbol A (a.toNat % 4 * 16 + b.toNat / 16) ::
      symbol A (b.toNat % 16 * 4 + c.toNat / 64) :: symbol A (c.toNat % 64) :: encode rest

/-- A last group of two symbols: one byte, the four spare bits zero. -/
def decodeTail2 (w x : Char) : Option (List UInt8) := do
  let w ← value? A w
  let x ← value? A x
  if x % 16 = 0 then some [UInt8.ofNat (w * 4 + x / 16)] else none

/-- A last group of three symbols: two bytes, the two spare bits zero. -/
def decodeTail3 (w x y : Char) : Option (List UInt8) := do
  let w ← value? A w
  let x ← value? A x
  let y ← value? A y
  if y % 4 = 0 then
    some [UInt8.ofNat (w * 4 + x / 16), UInt8.ofNat (x % 16 * 16 + y / 4)]
  else none

/-- Strict decoding: padding as the alphabet wants it and no stray bits. -/
def decode : List Char → Option (List UInt8)
  | [] => some []
  | [_] => none
  | [w, x] => if A.pad then none else decodeTail2 A w x
  | [w, x, y] => if A.pad then none else decodeTail3 A w x y
  | w :: x :: y :: z :: rest =>
    if A.pad ∧ rest = [] ∧ z = '=' then
      if y = '=' then decodeTail2 A w x else decodeTail3 A w x y
    else do
      let w ← value? A w
      let x ← value? A x
      let y ← value? A y
      let z ← value? A z
      let tail ← decode rest
      some (UInt8.ofNat (w * 4 + x / 16) :: UInt8.ofNat (x % 16 * 16 + y / 4) ::
        UInt8.ofNat (y % 4 * 64 + z) :: tail)

theorem value?_symbol {n : Nat} (hn : n < 64) : value? A (symbol A n) = some n := A.distinct n hn

theorem symbol_ne_pad {n : Nat} (hn : n < 64) : symbol A n ≠ '=' := by
  intro h
  have hv := value?_symbol A hn
  rw [h, value?, List.idxOf?_eq_none_iff.mpr A.unpadded] at hv
  contradiction

theorem ofNat_eq {a : UInt8} {n : Nat} (h : n = a.toNat) : UInt8.ofNat n = a := by
  subst h
  exact UInt8.ofNat_toNat

theorem decodeTail2_encode (a : UInt8) :
    decodeTail2 A (symbol A (a.toNat / 4)) (symbol A (a.toNat % 4 * 16)) = some [a] := by
  have ha := a.toNat_lt
  rw [decodeTail2, value?_symbol A (by omega), value?_symbol A (by omega)]
  simp only [Option.bind_eq_bind, Option.bind_some, if_pos (by omega : a.toNat % 4 * 16 % 16 = 0),
    ofNat_eq (by omega : a.toNat / 4 * 4 + a.toNat % 4 * 16 / 16 = a.toNat)]

theorem decodeTail3_encode (a b : UInt8) :
    decodeTail3 A (symbol A (a.toNat / 4)) (symbol A (a.toNat % 4 * 16 + b.toNat / 16))
      (symbol A (b.toNat % 16 * 4)) = some [a, b] := by
  have ha := a.toNat_lt
  have hb := b.toNat_lt
  rw [decodeTail3, value?_symbol A (by omega), value?_symbol A (by omega),
    value?_symbol A (by omega)]
  simp only [Option.bind_eq_bind, Option.bind_some, if_pos (by omega : b.toNat % 16 * 4 % 4 = 0),
    ofNat_eq (by omega : a.toNat / 4 * 4 + (a.toNat % 4 * 16 + b.toNat / 16) / 16 = a.toNat),
    ofNat_eq (by omega : (a.toNat % 4 * 16 + b.toNat / 16) % 16 * 16 + b.toNat % 16 * 4 / 4 =
      b.toNat)]

/-- Decoding gives back the bytes that were encoded. -/
theorem decode_encode (bs : List UInt8) : decode A (encode A bs) = some bs := by
  fun_induction encode A bs with
  | case1 => rfl
  | case2 a =>
    cases hp : A.pad with
    | false => simp [padding, decode, hp, decodeTail2_encode]
    | true => simp [padding, decode, hp, decodeTail2_encode]
  | case3 a b =>
    have hb := b.toNat_lt
    have hne := symbol_ne_pad A (by omega : b.toNat % 16 * 4 < 64)
    cases hp : A.pad with
    | false => simp [padding, decode, hp, decodeTail3_encode]
    | true => simp [padding, decode, hp, hne, decodeTail3_encode]
  | case4 a b c rest ih =>
    have ha := a.toNat_lt
    have hb := b.toNat_lt
    have hc := c.toNat_lt
    have hne := symbol_ne_pad A (by omega : c.toNat % 64 < 64)
    rw [decode, if_neg (by simp [hne]), value?_symbol A (by omega), value?_symbol A (by omega),
      value?_symbol A (by omega), value?_symbol A (by omega), ih]
    simp only [Option.bind_eq_bind, Option.bind_some,
      ofNat_eq (by omega : a.toNat / 4 * 4 + (a.toNat % 4 * 16 + b.toNat / 16) / 16 = a.toNat),
      ofNat_eq (by omega : (a.toNat % 4 * 16 + b.toNat / 16) % 16 * 16 +
        (b.toNat % 16 * 4 + c.toNat / 64) / 4 = b.toNat),
      ofNat_eq (by omega : (b.toNat % 16 * 4 + c.toNat / 64) % 4 * 64 + c.toNat % 64 = c.toNat)]

theorem encode_injective : Function.Injective (encode A) := by
  intro xs ys h
  exact Option.some.inj (by rw [← decode_encode A xs, h, decode_encode])

/-! ## The standard alphabet on strings -/

def encodeStandard (bytes : List UInt8) : String := String.ofList (encode standard bytes)

def decodeStandard (text : String) : Option (List UInt8) := decode standard text.toList

@[simp] theorem decodeStandard_encodeStandard (bytes : List UInt8) :
    decodeStandard (encodeStandard bytes) = some bytes := by
  rw [decodeStandard, encodeStandard, String.toList_ofList, decode_encode]

end Base64
