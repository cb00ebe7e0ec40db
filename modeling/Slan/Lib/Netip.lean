import Mathlib.Data.BitVec
import Mathlib.Algebra.Order.Ring.Nat
import Slan.Lib.Text

/-! # IPv4 addresses and prefixes, and their text

An address is a number of 32 bits. Of an IPv6 address only the text is recognized.
-/

namespace Netip

abbrev Addr := BitVec 32

/-- A number in decimal digits without leading zeros. -/
def parseDecimal (digits : List Char) : Option Nat :=
  if digits.isEmpty || !digits.all Char.isDigit ||
      (decide (1 < digits.length) && digits.head? == some '0') then none
  else some (Nat.ofDigitChars 10 digits 0)

def parseOctet (digits : List Char) : Option Nat :=
  (parseDecimal digits).filter fun n => n ≤ 255

def ofOctets (a b c d : Nat) : Addr := BitVec.ofNat 32 (a * 16777216 + b * 65536 + c * 256 + d)

def octets (addr : Addr) : List Nat :=
  [addr.toNat / 16777216, addr.toNat / 65536 % 256, addr.toNat / 256 % 256, addr.toNat % 256]

def parseIPv4 (text : List Char) : Option Addr :=
  match text.splitOn '.' with
  | [a, b, c, d] => do
    return ofOctets (← parseOctet a) (← parseOctet b) (← parseOctet c) (← parseOctet d)
  | _ => none

def parseAddr (text : String) : Option Addr := parseIPv4 text.toList

/-- `Addr.String` -/
def render (addr : Addr) : String :=
  String.ofList (['.'].intercalate ((octets addr).map (Nat.toDigits 10)))

def isHexDigit (c : Char) : Bool :=
  c.isDigit || ('a' ≤ c && c ≤ 'f') || ('A' ≤ c && c ≤ 'F')

/-- The text from a field on, with room for so many fields, `::` being seen or not. -/
def acceptsFields : Nat → Bool → List Char → Bool
  | 0, _, _ => false
  | room + 1, ellipsis, text =>
    let digits := (text.takeWhile isHexDigit).length
    let complete := if room = 0 then !ellipsis else ellipsis
    if digits = 0 ∨ 4 < digits then false
    else
      match text.dropWhile isHexDigit with
      | [] => complete
      | '.' :: _ =>
        (parseIPv4 text).isSome && (if ellipsis then decide (1 < room) else decide (room = 1))
      | [':'] => false
      | ':' :: ':' :: rest =>
        !ellipsis && (if rest.isEmpty then decide (0 < room) else acceptsFields room true rest)
      | ':' :: rest => acceptsFields room ellipsis rest
      | _ => false

/-- The text of an IPv6 address without a zone. -/
def isIPv6 (text : List Char) : Bool :=
  match text with
  | [':', ':'] => true
  | ':' :: ':' :: rest => acceptsFields 8 true rest
  | _ => acceptsFields 8 false text

/-! ## Prefixes -/

structure Prefix where
  addr : Addr
  bits : Nat
  bits_le : bits ≤ 32
  deriving DecidableEq

inductive ParsedPrefix where
  | ipv4 (network : Prefix)
  | ipv6

/-- The text before the last slash and the text after it. -/
def splitAtSlash (text : List Char) : Option (List Char × List Char) :=
  match text.reverse.splitOn '/' with
  | bits :: rest => if rest.isEmpty then none
    else some ((['/'].intercalate rest).reverse, bits.reverse)
  | [] => none

def parsePrefix (text : String) : Option ParsedPrefix :=
  match splitAtSlash text.toList with
  | none => none
  | some (address, digits) =>
    match parseIPv4 address, parseDecimal digits with
    | some addr, some bits =>
      if h : bits ≤ 32 then some (.ipv4 ⟨addr, bits, h⟩) else none
    | none, some bits => if isIPv6 address ∧ bits ≤ 128 then some .ipv6 else none
    | _, none => none

namespace Prefix

/-- How many low bits a prefix leaves open. -/
def hostBits (p : Prefix) : Nat := 32 - p.bits

/-- `Masked` -/
def masked (p : Prefix) : Addr := (p.addr >>> p.hostBits) <<< p.hostBits

def contains (p : Prefix) (addr : Addr) : Bool := (addr ^^^ p.addr) >>> p.hostBits == 0

/-- `Prefix.String` -/
def render (p : Prefix) : String :=
  String.ofList ((Netip.render p.addr).toList ++ '/' :: Nat.toDigits 10 p.bits)

end Prefix

/-! ## Text that was rendered parses -/

set_option maxRecDepth 4000 in
theorem parseDecimal_toDigits {n : Nat} (h : n < 256) :
    parseDecimal (Nat.toDigits 10 n) = some n := by
  have hall : ∀ n < 256, parseDecimal (Nat.toDigits 10 n) = some n := by decide
  exact hall n h

theorem parseOctet_toDigits {n : Nat} (h : n < 256) :
    parseOctet (Nat.toDigits 10 n) = some n := by
  rw [parseOctet, parseDecimal_toDigits h]
  simp only [Option.filter_some, decide_eq_true_eq, ite_eq_left_iff]
  omega

theorem ofOctets_octets (addr : Addr) :
    ofOctets (addr.toNat / 16777216) (addr.toNat / 65536 % 256) (addr.toNat / 256 % 256)
      (addr.toNat % 256) = addr := by
  have hlt := addr.isLt
  apply BitVec.eq_of_toNat_eq
  rw [ofOctets, BitVec.toNat_ofNat]
  omega

theorem not_mem_toDigits {n : Nat} {c : Char} (hc : c.isDigit = false) :
    c ∉ Nat.toDigits 10 n := by
  intro h
  rw [Nat.isDigit_of_mem_toDigits (by omega) (by omega) h] at hc
  cases hc

theorem parseAddr_render (addr : Addr) : parseAddr (render addr) = some addr := by
  have hlt := addr.isLt
  have hsplit : ∀ ds ∈ (octets addr).map (Nat.toDigits 10), '.' ∉ ds := by
    intro ds hds
    obtain ⟨n, _, rfl⟩ := List.mem_map.mp hds
    exact not_mem_toDigits (by decide)
  unfold parseAddr render parseIPv4
  rw [String.toList_ofList, List.splitOn_intercalate '.' hsplit (by simp [octets])]
  have h3 : addr.toNat / 16777216 < 256 := by omega
  have h2 : addr.toNat / 65536 % 256 < 256 := by omega
  have h1 : addr.toNat / 256 % 256 < 256 := by omega
  have h0 : addr.toNat % 256 < 256 := by omega
  simp only [octets, List.map_cons, List.map_nil, parseOctet_toDigits h3, parseOctet_toDigits h2,
    parseOctet_toDigits h1, parseOctet_toDigits h0]
  exact congrArg some (ofOctets_octets addr)

theorem render_injective : Function.Injective render := by
  intro a b h
  have hparse := congrArg parseAddr h
  rw [parseAddr_render, parseAddr_render] at hparse
  exact Option.some.inj hparse

theorem isDigit_or_eq_of_mem_render {addr : Addr} {c : Char} (h : c ∈ (render addr).toList) :
    c.isDigit = true ∨ c = '.' := by
  unfold render at h
  rw [String.toList_ofList] at h
  simp only [octets, List.map_cons, List.map_nil, List.intercalate, List.intersperse,
    List.flatten_cons, List.flatten_nil, List.mem_append, List.mem_singleton, List.not_mem_nil,
    or_false] at h
  rcases h with h | h | h | h | h | h | h
  all_goals first | exact .inr h | exact .inl (Nat.isDigit_of_mem_toDigits (by omega) (by omega) h)

theorem isSpace_of_isDigit {c : Char} (h : c.isDigit = true) : Text.isSpace c = false := by
  simp only [Char.isDigit, Bool.and_eq_true, decide_eq_true_eq, ge_iff_le, UInt32.le_iff_toNat_le]
    at h
  have h48 : 48 ≤ c.toNat := h.1
  have h57 : c.toNat ≤ 57 := h.2
  simp only [Text.isSpace, Bool.or_eq_false_iff, Bool.and_eq_false_iff, decide_eq_false_iff_not,
    beq_eq_false_iff_ne, ne_eq]
  omega

theorem isSpace_of_isHexDigit {c : Char} (h : isHexDigit c = true) : Text.isSpace c = false := by
  simp only [isHexDigit, Bool.or_eq_true, Bool.and_eq_true, decide_eq_true_eq] at h
  have hletter : 65 ≤ c.toNat → c.toNat ≤ 102 → Text.isSpace c = false := by
    intro hlow hhigh
    simp only [Text.isSpace, Bool.or_eq_false_iff, Bool.and_eq_false_iff, decide_eq_false_iff_not,
      beq_eq_false_iff_ne, ne_eq]
    omega
  rcases h with (hdigit | ⟨hlow, hhigh⟩) | ⟨hlow, hhigh⟩
  · exact isSpace_of_isDigit hdigit
  · have hlow' : 97 ≤ c.toNat := hlow
    have hhigh' : c.toNat ≤ 102 := hhigh
    exact hletter (by omega) hhigh'
  · have hlow' : 65 ≤ c.toNat := hlow
    have hhigh' : c.toNat ≤ 70 := hhigh
    exact hletter hlow' (by omega)

@[simp] theorem trim_render (addr : Addr) : Text.trim (render addr) = render addr := by
  apply Text.trim_of_forall_not
  intro c hc
  rcases isDigit_or_eq_of_mem_render hc with hdigit | rfl
  · exact isSpace_of_isDigit hdigit
  · rfl

theorem render_ne_empty (addr : Addr) : render addr ≠ "" := by
  intro h
  have hparse := parseAddr_render addr
  rw [h, show parseAddr "" = none by decide] at hparse
  cases hparse

namespace Prefix

theorem splitAtSlash_append {address digits : List Char} (ha : '/' ∉ address)
    (hd : '/' ∉ digits) :
    splitAtSlash (address ++ '/' :: digits) = some (address, digits) := by
  have hsplit : (address ++ '/' :: digits).reverse.splitOn '/' =
      [digits.reverse, address.reverse] := by
    have hrev : (address ++ '/' :: digits).reverse =
        ['/'].intercalate [digits.reverse, address.reverse] := by
      simp [List.intercalate]
    rw [hrev, List.splitOn_intercalate _ (by simp [ha, hd]) (by simp)]
  unfold splitAtSlash
  rw [hsplit]
  simp [List.intercalate]

theorem parsePrefix_render (p : Prefix) : parsePrefix p.render = some (.ipv4 p) := by
  have haddr : '/' ∉ (Netip.render p.addr).toList := by
    intro h
    rcases isDigit_or_eq_of_mem_render h with h | h <;> cases h
  have hbits : p.bits < 256 := lt_of_le_of_lt p.bits_le (by omega)
  have hparse := parseAddr_render p.addr
  unfold parseAddr at hparse
  unfold parsePrefix render
  rw [String.toList_ofList, splitAtSlash_append haddr (not_mem_toDigits (by decide))]
  simp only [hparse, parseDecimal_toDigits hbits, dif_pos p.bits_le]

@[simp] theorem trim_render (p : Prefix) : Text.trim p.render = p.render := by
  apply Text.trim_of_forall_not
  intro c hc
  unfold render at hc
  rw [String.toList_ofList, List.mem_append, List.mem_cons] at hc
  rcases hc with hc | rfl | hc
  · rcases isDigit_or_eq_of_mem_render hc with hdigit | rfl
    · exact isSpace_of_isDigit hdigit
    · rfl
  · rfl
  · exact isSpace_of_isDigit (Nat.isDigit_of_mem_toDigits (by omega) (by omega) hc)

/-! ## The addresses of a prefix are an interval -/

theorem toNat_masked (p : Prefix) :
    p.masked.toNat = p.addr.toNat / 2 ^ p.hostBits * 2 ^ p.hostBits := by
  have hlt := p.addr.isLt
  have hle := Nat.div_mul_le_self p.addr.toNat (2 ^ p.hostBits)
  unfold masked
  rw [BitVec.toNat_shiftLeft, BitVec.toNat_ushiftRight, Nat.shiftRight_eq_div_pow,
    Nat.shiftLeft_eq, Nat.mod_eq_of_lt (lt_of_le_of_lt hle hlt)]

theorem contains_iff (p : Prefix) (addr : Addr) :
    p.contains addr = true ↔
      p.masked.toNat ≤ addr.toNat ∧ addr.toNat < p.masked.toNat + 2 ^ p.hostBits := by
  have hpos : 0 < 2 ^ p.hostBits := Nat.two_pow_pos _
  unfold contains
  rw [beq_iff_eq, BitVec.ushiftRight_xor_distrib, show (0 : Addr) = 0#32 from rfl,
    BitVec.xor_eq_zero_iff, BitVec.toNat_inj.symm,
    BitVec.toNat_ushiftRight, BitVec.toNat_ushiftRight, Nat.shiftRight_eq_div_pow,
    Nat.shiftRight_eq_div_pow, toNat_masked, ← Nat.succ_mul, ← Nat.le_div_iff_mul_le hpos,
    ← Nat.div_lt_iff_lt_mul hpos]
  omega

/-- The last address of a prefix. -/
theorem toNat_masked_or (p : Prefix) {low : Addr} (hlow : low.toNat = 2 ^ p.hostBits - 1) :
    (p.masked ||| low).toNat = p.masked.toNat + (2 ^ p.hostBits - 1) := by
  have hpos : 0 < 2 ^ p.hostBits := Nat.two_pow_pos _
  rw [BitVec.toNat_or, hlow, toNat_masked, ← Nat.shiftLeft_eq,
    ← Nat.shiftLeft_add_eq_or_of_lt (by omega)]

theorem masked_add_lt (p : Prefix) : p.masked.toNat + 2 ^ p.hostBits ≤ 2 ^ 32 := by
  have hpow : 2 ^ 32 = 2 ^ p.bits * 2 ^ p.hostBits := by
    rw [← Nat.pow_add, hostBits, Nat.add_sub_cancel' p.bits_le]
  have hlt : p.addr.toNat / 2 ^ p.hostBits < 2 ^ p.bits := by
    rw [Nat.div_lt_iff_lt_mul (Nat.two_pow_pos _), ← hpow]
    exact p.addr.isLt
  rw [toNat_masked, ← Nat.succ_mul, hpow]
  exact Nat.mul_le_mul_right _ hlt

end Prefix

/-! ## Masks -/

/-- So many leading ones. -/
def IsMask (length : Nat) (addr : Addr) : Prop := ∀ i < 32, addr.getMsbD i = decide (i < length)

theorem isMask_allOnes {length : Nat} (h : length ≤ 32) :
    IsMask length (BitVec.allOnes 32 <<< (32 - length)) := by
  intro i hi
  rw [BitVec.getMsbD_shiftLeft, BitVec.getMsbD_eq_getLsbD, BitVec.getLsbD_allOnes]
  simp only [Bool.and_eq_decide, decide_eq_true_eq, decide_eq_decide]
  omega

theorem IsMask.length_eq_zero {length : Nat} (h : IsMask length 0) : length = 0 := by
  have hfirst := h 0 (by decide)
  change false = _ at hfirst
  exact Nat.eq_zero_of_not_pos (of_decide_eq_false hfirst.symm)

/-- The octets as one gets them by shifting. -/
theorem render_shifts (addr : Addr) :
    ".".intercalate ([addr >>> 24 &&& 0xff, addr >>> 16 &&& 0xff, addr >>> 8 &&& 0xff,
      addr &&& 0xff].map fun octet : Addr => toString octet.toNat) = render addr := by
  have hlt := addr.isLt
  have hoctet : ∀ x : Addr, (x &&& 0xff).toNat = x.toNat % 256 := by
    intro x
    exact Nat.and_two_pow_sub_one_eq_mod x.toNat 8
  have hfirst : addr.toNat / 2 ^ 24 % 256 = addr.toNat / 16777216 := by omega
  have hdigits : ∀ n : Nat, (toString n).toList = Nat.toDigits 10 n :=
    fun n => String.toList_ofList
  apply String.toList_injective
  rw [render, String.toList_intercalate, String.toList_ofList, octets]
  simp only [List.map_cons, List.map_nil, hoctet, hdigits, BitVec.toNat_ushiftRight,
    Nat.shiftRight_eq_div_pow, String.toList_ofList]
  rw [hfirst]

end Netip
