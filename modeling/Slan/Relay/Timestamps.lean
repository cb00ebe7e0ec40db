import Slan.Lib.Calendar
import Slan.Relay.Ticket

/-! # Timestamps: the texts that are read, and the well-formed ones -/

namespace Slan.Relay

open Calendar (dayNumber)
open Rfc3339 (daysIn toDays)

/-! ## Well-formed texts -/

def digitByte (n : Nat) : UInt8 := UInt8.ofNat (48 + n)

/-- A decimal number, its most significant digit first. -/
def numeral (ds : List Nat) : Nat := ds.foldl (fun n d => n * 10 + d) 0

/-- An offset from UTC. -/
structure Offset where
  west : Bool
  hours : Nat
  minutes : Nat

def Offset.Valid (offset : Offset) : Prop := offset.hours < 24 ∧ offset.minutes < 60

/-- A date and a time of day. -/
structure Stamp where
  year : Nat
  month : Nat
  day : Nat
  hour : Nat
  minute : Nat
  second : Nat

structure DateTime extends Stamp where
  fraction : List Nat
  offset : Option Offset

structure DateTime.Valid (t : DateTime) : Prop where
  year_lt : t.year < 10000
  month_pos : 1 ≤ t.month
  month_le : t.month ≤ 12
  day_pos : 1 ≤ t.day
  day_le : t.day ≤ daysIn t.year t.month
  hour_lt : t.hour < 24
  minute_lt : t.minute < 60
  second_lt : t.second < 60
  fraction_lt : ∀ d ∈ t.fraction, d < 10
  offset_valid : ∀ o ∈ t.offset, o.Valid

def twoDigits (n : Nat) : List UInt8 := [digitByte (n / 10), digitByte (n % 10)]

def fourDigits (n : Nat) : List UInt8 :=
  [digitByte (n / 1000), digitByte (n / 100 % 10), digitByte (n / 10 % 10), digitByte (n % 10)]

/-- `YYYY-MM-DDThh:mm:ss` -/
def Stamp.text (t : Stamp) (rest : List UInt8) : List UInt8 :=
  fourDigits t.year ++ 45 :: (twoDigits t.month ++ 45 :: (twoDigits t.day ++ 84 ::
    (twoDigits t.hour ++ 58 :: (twoDigits t.minute ++ 58 :: (twoDigits t.second ++ rest)))))

def fractionText (fraction : List Nat) : List UInt8 :=
  if fraction = [] then [] else 46 :: fraction.map digitByte

/-- `Z`, or a sign and `hh:mm`. -/
def offsetText : Option Offset → List UInt8
  | none => [90]
  | some offset =>
    (if offset.west then 45 else 43) :: (twoDigits offset.hours ++ 58 :: twoDigits offset.minutes)

def DateTime.text (t : DateTime) : List UInt8 :=
  t.toStamp.text (fractionText t.fraction ++ offsetText t.offset)

def Offset.seconds (offset : Offset) : Int :=
  (if offset.west then -1 else 1) * (offset.hours * 3600 + offset.minutes * 60)

/-- Whole seconds from the Unix epoch. -/
def DateTime.instant (t : DateTime) : Int :=
  dayNumber t.year t.month t.day * 86400 + t.hour * 3600 + t.minute * 60 + t.second -
    (t.offset.elim 0 Offset.seconds)

/-- A decimal number of 64 bits, with a sign or without. -/
def IsDecimal (text : List UInt8) (n : Int) : Prop :=
  ∃ ds : List Nat, ds ≠ [] ∧ (∀ d ∈ ds, d < 10) ∧ -2 ^ 63 ≤ n ∧ n < 2 ^ 63 ∧
    (n = numeral ds ∧ (text = ds.map digitByte ∨ text = 43 :: ds.map digitByte) ∨
      n = -(numeral ds : Int) ∧ text = 45 :: ds.map digitByte)

/-- What a timestamp says. -/
def Denotes (text : List UInt8) (seconds : Int) : Prop :=
  IsDecimal text seconds ∨ ∃ t : DateTime, t.Valid ∧ text = t.text ∧ seconds = t.instant

/-! ## Digits -/

theorem digits_map {ds : List Nat} (h : ∀ d ∈ ds, d < 10) (acc : Nat) :
    digits acc (ds.map digitByte) = some (ds.foldl (fun n d => n * 10 + d) acc) := by
  induction ds generalizing acc with
  | nil => rfl
  | cons d ds ih =>
    have hd : d < 10 := h d List.mem_cons_self
    have hbyte : (48 ≤ digitByte d ∧ digitByte d ≤ 57) ∧ (digitByte d).toNat - 48 = d := by
      have hall : ∀ d < 10, (48 ≤ digitByte d ∧ digitByte d ≤ 57) ∧
          (digitByte d).toNat - 48 = d := by decide
      exact hall d hd
    rw [List.map_cons, digits, if_pos hbyte.1, hbyte.2,
      ih (fun d' hd' => h d' (List.mem_cons_of_mem d hd')), List.foldl_cons]

theorem exists_digits {bs : List UInt8} {acc n : Nat} (h : digits acc bs = some n) :
    ∃ ds : List Nat, (∀ d ∈ ds, d < 10) ∧ bs = ds.map digitByte := by
  induction bs generalizing acc with
  | nil => exact ⟨[], List.forall_mem_nil _, rfl⟩
  | cons b bs ih =>
    unfold digits at h
    split at h
    · rename_i hb
      obtain ⟨ds, hds, rfl⟩ := ih h
      have hnat : 48 ≤ b.toNat ∧ b.toNat ≤ 57 := hb
      refine ⟨(b.toNat - 48) :: ds, List.forall_mem_cons.mpr ⟨by omega, hds⟩, ?_⟩
      have hbyte : digitByte (b.toNat - 48) = b := by
        unfold digitByte
        rw [Nat.add_sub_cancel' hnat.1, UInt8.ofNat_toNat]
      rw [List.map_cons, hbyte]
    · cases h

theorem magnitude_eq_some_iff {bs : List UInt8} {n : Nat} :
    magnitude bs = some n ↔ ∃ ds : List Nat, ds ≠ [] ∧ (∀ d ∈ ds, d < 10) ∧
      bs = ds.map digitByte ∧ n = numeral ds := by
  unfold magnitude
  constructor
  · intro h
    split at h
    · cases h
    · rename_i hne
      obtain ⟨ds, hds, rfl⟩ := exists_digits h
      rw [digits_map hds] at h
      refine ⟨ds, fun hnil => hne (by rw [hnil]; rfl), hds, rfl, (Option.some.inj h).symm⟩
  · rintro ⟨ds, hne, hds, rfl, rfl⟩
    rw [if_neg (by simpa using hne), digits_map hds]
    rfl

/-- A digit is no sign. -/
theorem digitByte_ne_sign {d : Nat} (h : d < 10) : digitByte d ≠ 43 ∧ digitByte d ≠ 45 := by
  have hall : ∀ d < 10, digitByte d ≠ 43 ∧ digitByte d ≠ 45 := by decide
  exact hall d h

/-- The number that a text with or without a sign is, of whatever width. -/
def signedNumber (text : List UInt8) : Option Int :=
  match text with
  | 43 :: rest => (magnitude rest).map Int.ofNat
  | 45 :: rest => (magnitude rest).map fun n => -Int.ofNat n
  | _ => (magnitude text).map Int.ofNat

theorem signedNumber_eq_some_iff {text : List UInt8} {n : Int} :
    signedNumber text = some n ↔ ∃ ds : List Nat, ds ≠ [] ∧ (∀ d ∈ ds, d < 10) ∧
      (n = numeral ds ∧ (text = ds.map digitByte ∨ text = 43 :: ds.map digitByte) ∨
        n = -(numeral ds : Int) ∧ text = 45 :: ds.map digitByte) := by
  have hhead : ∀ {ds : List Nat} {b : UInt8} {rest : List UInt8}, (∀ d ∈ ds, d < 10) →
      b :: rest = ds.map digitByte → b ≠ 43 ∧ b ≠ 45 := by
    intro ds b rest hds heq
    cases ds with
    | nil => cases heq
    | cons d ds =>
      rw [List.map_cons] at heq
      rw [(List.cons.inj heq).1]
      exact digitByte_ne_sign (hds d List.mem_cons_self)
  unfold signedNumber
  constructor
  · intro h
    split at h
    · obtain ⟨k, hk, rfl⟩ := Option.map_eq_some_iff.mp h
      obtain ⟨ds, hne, hds, rfl, rfl⟩ := magnitude_eq_some_iff.mp hk
      exact ⟨ds, hne, hds, .inl ⟨rfl, .inr rfl⟩⟩
    · obtain ⟨k, hk, rfl⟩ := Option.map_eq_some_iff.mp h
      obtain ⟨ds, hne, hds, rfl, rfl⟩ := magnitude_eq_some_iff.mp hk
      exact ⟨ds, hne, hds, .inr ⟨rfl, rfl⟩⟩
    · obtain ⟨k, hk, rfl⟩ := Option.map_eq_some_iff.mp h
      obtain ⟨ds, hne, hds, rfl, rfl⟩ := magnitude_eq_some_iff.mp hk
      exact ⟨ds, hne, hds, .inl ⟨rfl, .inl rfl⟩⟩
  · rintro ⟨ds, hne, hds, htext⟩
    have hmagnitude := magnitude_eq_some_iff.mpr ⟨ds, hne, hds, rfl, rfl⟩
    rcases htext with ⟨rfl, rfl | rfl⟩ | ⟨rfl, rfl⟩
    · split
      · rename_i heq
        exact absurd rfl (hhead hds heq.symm).1
      · rename_i heq
        exact absurd rfl (hhead hds heq.symm).2
      · rw [hmagnitude]
        rfl
    · exact congrArg (Option.map Int.ofNat) hmagnitude
    · exact congrArg (Option.map fun n => -Int.ofNat n) hmagnitude

theorem parseSigned_eq_some_iff {bits : Nat} {text : List UInt8} {n : Int} :
    parseSigned bits text = some n ↔
      signedNumber text = some n ∧ -2 ^ (bits - 1) ≤ n ∧ n < 2 ^ (bits - 1) := by
  have hbind : parseSigned bits text = (signedNumber text).bind fun n =>
      if -2 ^ (bits - 1) ≤ n ∧ n < 2 ^ (bits - 1) then some n else none := by
    unfold signedNumber
    split
    · rfl
    · rfl
    · rename_i hplus hminus
      unfold parseSigned
      split
      · rename_i rest
        exact absurd rfl (hplus rest)
      · rename_i rest
        exact absurd rfl (hminus rest)
      · rfl
  rw [hbind, Option.bind_eq_some_iff]
  constructor
  · rintro ⟨m, hm, hrange⟩
    split at hrange
    · rename_i h
      obtain rfl := Option.some.inj hrange
      exact ⟨hm, h⟩
    · cases hrange
  · rintro ⟨hn, hrange⟩
    exact ⟨n, hn, if_pos hrange⟩

theorem parseSigned_eq_some_iff_isDecimal {text : List UInt8} {n : Int} :
    parseSigned 64 text = some n ↔ IsDecimal text n := by
  rw [parseSigned_eq_some_iff, signedNumber_eq_some_iff]
  constructor
  · rintro ⟨⟨ds, hne, hds, htext⟩, hlow, hhigh⟩
    exact ⟨ds, hne, hds, hlow, hhigh, htext⟩
  · rintro ⟨ds, hne, hds, hlow, hhigh, htext⟩
    exact ⟨⟨ds, hne, hds, htext⟩, hlow, hhigh⟩

theorem parseUnsigned_eq_some {bits : Nat} {text : List UInt8} {n : Nat}
    (h : parseUnsigned bits text = some n) : ∃ ds : List Nat, ds ≠ [] ∧ (∀ d ∈ ds, d < 10) ∧
      n = numeral ds ∧ (text = ds.map digitByte ∨ text = 43 :: ds.map digitByte) := by
  unfold parseUnsigned at h
  split at h
  · obtain ⟨m, hm, hn⟩ := Option.bind_eq_some_iff.mp h
    obtain ⟨ds, hne, hds, rfl, rfl⟩ := magnitude_eq_some_iff.mp hm
    dsimp only at hn
    split at hn
    · exact ⟨ds, hne, hds, (Option.some.inj hn).symm, .inr rfl⟩
    · cases hn
  · obtain ⟨m, hm, hn⟩ := Option.bind_eq_some_iff.mp h
    obtain ⟨ds, hne, hds, rfl, rfl⟩ := magnitude_eq_some_iff.mp hm
    dsimp only at hn
    split at hn
    · exact ⟨ds, hne, hds, (Option.some.inj hn).symm, .inl rfl⟩
    · cases hn

theorem numeral_lt {ds : List Nat} (h : ∀ d ∈ ds, d < 10) : numeral ds < 10 ^ ds.length := by
  have hfold : ∀ acc : Nat,
      ds.foldl (fun n d => n * 10 + d) acc < (acc + 1) * 10 ^ ds.length := by
    induction ds with
    | nil => exact fun acc => by rw [List.foldl_nil, List.length_nil, pow_zero]; omega
    | cons d ds ih =>
      intro acc
      have hd : d < 10 := h d List.mem_cons_self
      calc (d :: ds).foldl (fun n d => n * 10 + d) acc
          < (acc * 10 + d + 1) * 10 ^ ds.length :=
            ih (fun d' hd' => h d' (List.mem_cons_of_mem d hd')) _
        _ ≤ (acc + 1) * 10 * 10 ^ ds.length := Nat.mul_le_mul_right _ (by omega)
        _ = (acc + 1) * 10 ^ (d :: ds).length := by
          rw [List.length_cons, pow_succ', Nat.mul_assoc]
  have hzero := hfold 0
  rwa [Nat.zero_add, Nat.one_mul] at hzero

/-- A text without a sign, of two digits. -/
theorem eq_twoDigits {text : List UInt8} {ds : List Nat} (hds : ∀ d ∈ ds, d < 10)
    (htext : text = ds.map digitByte) (hlength : text.length = 2) :
    numeral ds < 100 ∧ text = twoDigits (numeral ds) := by
  rw [htext, List.length_map] at hlength
  obtain ⟨a, b, rfl⟩ := List.length_eq_two.mp hlength
  have ha : a < 10 := hds a (by simp)
  have hb : b < 10 := hds b (by simp)
  have hvalue : numeral [a, b] = a * 10 + b := by
    simp only [numeral, List.foldl_cons, List.foldl_nil]
    omega
  have htens : (a * 10 + b) / 10 = a := by omega
  have hunits : (a * 10 + b) % 10 = b := by omega
  rw [htext, hvalue]
  refine ⟨by omega, ?_⟩
  unfold twoDigits
  rw [htens, hunits]
  rfl

/-- A text without a sign, of four digits. -/
theorem eq_fourDigits {text : List UInt8} {ds : List Nat} (hds : ∀ d ∈ ds, d < 10)
    (htext : text = ds.map digitByte) (hlength : text.length = 4) :
    numeral ds < 10000 ∧ text = fourDigits (numeral ds) := by
  rw [htext, List.length_map] at hlength
  obtain ⟨a, b, c, d, rfl⟩ : ∃ a b c d, ds = [a, b, c, d] := by
    match ds, hlength with
    | [a, b, c, d], _ => exact ⟨a, b, c, d, rfl⟩
  have ha : a < 10 := hds a (by simp)
  have hb : b < 10 := hds b (by simp)
  have hc : c < 10 := hds c (by simp)
  have hd : d < 10 := hds d (by simp)
  have hvalue : numeral [a, b, c, d] = a * 1000 + b * 100 + c * 10 + d := by
    simp only [numeral, List.foldl_cons, List.foldl_nil]
    omega
  have hdigits : (a * 1000 + b * 100 + c * 10 + d) / 1000 = a ∧
      (a * 1000 + b * 100 + c * 10 + d) / 100 % 10 = b ∧
      (a * 1000 + b * 100 + c * 10 + d) / 10 % 10 = c ∧
      (a * 1000 + b * 100 + c * 10 + d) % 10 = d := by omega
  rw [htext, hvalue]
  refine ⟨by omega, ?_⟩
  unfold fourDigits
  rw [hdigits.1, hdigits.2.1, hdigits.2.2.1, hdigits.2.2.2]
  rfl

/-- A sign opens no number that is read from these bytes. -/
def SignFree (text : List UInt8) : Prop := text[0]? ≠ some 43 ∧ text[0]? ≠ some 45

theorem parseUnsigned_eq_some_of_signFree {text : List UInt8} {n : Nat}
    (h : parseUnsigned 32 text = some n) (hsign : SignFree text) (hlength : text.length = 2) :
    n < 100 ∧ text = twoDigits n := by
  obtain ⟨ds, -, hds, rfl, rfl | rfl⟩ := parseUnsigned_eq_some h
  · exact eq_twoDigits hds rfl hlength
  · exact absurd rfl hsign.1

theorem exists_numeral_of_signFree {bits : Nat} {text : List UInt8} {n : Int}
    (h : parseSigned bits text = some n) (hsign : SignFree text) :
    ∃ ds : List Nat, (∀ d ∈ ds, d < 10) ∧ text = ds.map digitByte ∧ n = numeral ds := by
  obtain ⟨ds, -, hds, ⟨rfl, rfl | rfl⟩ | ⟨rfl, rfl⟩⟩ :=
    signedNumber_eq_some_iff.mp (parseSigned_eq_some_iff.mp h).1
  · exact ⟨ds, hds, rfl, rfl⟩
  · exact absurd rfl hsign.1
  · exact absurd rfl hsign.2

/-- The numbers read from a few bytes are small. -/
theorem abs_lt_of_parseSigned {bits : Nat} {text : List UInt8} {n : Int}
    (h : parseSigned bits text = some n) : -10 ^ text.length < n ∧ n < 10 ^ text.length := by
  obtain ⟨ds, -, hds, htext⟩ := signedNumber_eq_some_iff.mp (parseSigned_eq_some_iff.mp h).1
  have hnumeral : (numeral ds : Int) < 10 ^ ds.length := by
    exact_mod_cast numeral_lt hds
  have hle : ds.length ≤ text.length := by
    rcases htext with ⟨-, rfl | rfl⟩ | ⟨-, rfl⟩ <;>
      simp only [List.length_cons, List.length_map] <;> omega
  have hpow : (10 : Int) ^ ds.length ≤ 10 ^ text.length :=
    by exact_mod_cast Nat.pow_le_pow_right (by decide : 0 < 10) hle
  rcases htext with ⟨rfl, -⟩ | ⟨rfl, -⟩ <;> constructor <;> omega

theorem parseUnsigned_twoDigits {n : Nat} (h : n < 100) :
    parseUnsigned 32 (twoDigits n) = some n := by
  have hall : ∀ n < 100, parseUnsigned 32 (twoDigits n) = some n := by decide
  exact hall n h

theorem parseSigned_twoDigits {n : Nat} (h : n < 100) :
    parseSigned 64 (twoDigits n) = some (n : Int) := by
  have hall : ∀ n < 100, parseSigned 64 (twoDigits n) = some (n : Int) := by decide
  exact hall n h

theorem parseSigned_fourDigits {n : Nat} (h : n < 10000) :
    parseSigned 32 (fourDigits n) = some (n : Int) := by
  have hlt : ∀ d ∈ [n / 1000, n / 100 % 10, n / 10 % 10, n % 10], d < 10 := by
    simp only [List.mem_cons, List.not_mem_nil, or_false]
    omega
  refine parseSigned_eq_some_iff.mpr ⟨signedNumber_eq_some_iff.mpr
    ⟨[n / 1000, n / 100 % 10, n / 10 % 10, n % 10], by simp, hlt, .inl ⟨?_, .inl rfl⟩⟩, ?_⟩
  · simp only [numeral, List.foldl_cons, List.foldl_nil]
    omega
  · omega

/-! ## What is read -/

/-- The numbers of a timestamp as they are read. -/
structure Fields where
  year : Int
  month : Nat
  day : Nat
  hour : Nat
  minute : Nat
  second : Nat
  offset : Int

/-- The numbers at the fixed places of a text. -/
structure Reads (raw : List UInt8) (f : Fields) : Prop where
  length : 20 ≤ raw.length
  year : (slice raw 0 4).bind (parseSigned 32) = some f.year
  month : (slice raw 5 7).bind (parseUnsigned 32) = some f.month
  day : (slice raw 8 10).bind (parseUnsigned 32) = some f.day
  hour : (slice raw 11 13).bind (parseUnsigned 32) = some f.hour
  minute : (slice raw 14 16).bind (parseUnsigned 32) = some f.minute
  second : (slice raw 17 19).bind (parseUnsigned 32) = some f.second
  offset : (slice raw 19 raw.length).bind offsetSeconds = some f.offset
  month_pos : 1 ≤ f.month
  month_le : f.month ≤ 12
  day_pos : 1 ≤ f.day
  day_le : f.day ≤ 31

/-- The truncating division of the code, as a division that rounds down. -/
theorem era_eq (year : Int) :
    (if 0 ≤ year then year else year - 399).tdiv 400 = year.fdiv 400 := by
  rw [Int.fdiv_eq_ediv_of_nonneg _ (by decide)]
  split
  · rename_i h
    exact Int.tdiv_eq_ediv_of_nonneg h
  · have hneg : year - 399 = -(399 - year) := by omega
    rw [hneg, Int.neg_tdiv, Int.tdiv_eq_ediv_of_nonneg (by omega)]
    omega

theorem daysFromCivil_eq_some_iff {year days : Int} {month day : Nat} :
    daysFromCivil year month day = some days ↔ (1 ≤ month ∧ month ≤ 12 ∧ 1 ≤ day ∧ day ≤ 31) ∧
      days = toDays ⟨year, month, day⟩ := by
  unfold daysFromCivil
  split
  · rename_i h
    exact iff_of_false nofun fun hdate => h.elim (fun hmonth => hmonth ⟨hdate.1.1, hdate.1.2.1⟩)
      fun hday => hday ⟨hdate.1.2.2.1, hdate.1.2.2.2⟩
  · rename_i h
    rw [not_or, not_not, not_not] at h
    have hdate : 1 ≤ month ∧ month ≤ 12 ∧ 1 ≤ day ∧ day ≤ 31 := ⟨h.1.1, h.1.2, h.2⟩
    rw [Option.some.injEq, and_iff_right hdate, eq_comm]
    refine Eq.congr_right ?_
    rw [era_eq]
    unfold toDays
    have hfmod : ∀ y : Int, y.fmod 400 = y - y.fdiv 400 * 400 := fun y => by
      have hsplit := Int.fmod_add_mul_fdiv y 400
      omega
    have hfdiv : ∀ y : Int, y.fdiv 400 = y / 400 := fun y =>
      Int.fdiv_eq_ediv_of_nonneg y (by decide)
    by_cases hearly : month ≤ 2
    · simp only [hearly, if_true, hfmod, hfdiv, if_neg (show ¬2 < month by omega),
        if_neg (show ¬(2 : Int) < month by omega)]
      rw [Int.tdiv_eq_ediv_of_nonneg (by omega), Int.tdiv_eq_ediv_of_nonneg (by omega),
        Int.tdiv_eq_ediv_of_nonneg (by omega)]
      omega
    · simp only [hearly, if_false, hfmod, hfdiv, if_pos (show 2 < month by omega),
        if_pos (show (2 : Int) < month by omega)]
      rw [Int.tdiv_eq_ediv_of_nonneg (by omega), Int.tdiv_eq_ediv_of_nonneg (by omega),
        Int.tdiv_eq_ediv_of_nonneg (by omega)]
      omega

def Fields.instant (f : Fields) : Int :=
  toDays ⟨f.year, f.month, f.day⟩ * 86400 + f.hour * 3600 + f.minute * 60 + f.second - f.offset

theorem parseRfc3339_eq_some_iff {raw : List UInt8} {seconds : Int} :
    parseRfc3339 raw = some seconds ↔ ∃ f, Reads raw f ∧ seconds = f.instant := by
  unfold parseRfc3339
  constructor
  · intro h
    split at h
    · cases h
    · rename_i hlength
      simp only [Option.bind_eq_bind, Option.bind_eq_some_iff, Option.some.injEq,
        daysFromCivil_eq_some_iff] at h
      obtain ⟨year, hyear, month, hmonth, day, hday, hour, hhour, minute, hminute, second, hsecond,
        rest, hrest, offset, hoffset, days, ⟨hdate, rfl⟩, rfl⟩ := h
      refine ⟨⟨year, month, day, hour, minute, second, offset⟩, ?_, rfl⟩
      exact {
        length := Nat.le_of_not_lt hlength
        year := Option.bind_eq_some_iff.mpr hyear
        month := Option.bind_eq_some_iff.mpr hmonth
        day := Option.bind_eq_some_iff.mpr hday
        hour := Option.bind_eq_some_iff.mpr hhour
        minute := Option.bind_eq_some_iff.mpr hminute
        second := Option.bind_eq_some_iff.mpr hsecond
        offset := Option.bind_eq_some_iff.mpr ⟨rest, hrest, hoffset⟩
        month_pos := hdate.1
        month_le := hdate.2.1
        day_pos := hdate.2.2.1
        day_le := hdate.2.2.2 }
  · rintro ⟨f, hf, rfl⟩
    rw [if_neg (Nat.not_lt.mpr hf.length)]
    obtain ⟨rest, hrest, hoffset⟩ := Option.bind_eq_some_iff.mp hf.offset
    have hdays := daysFromCivil_eq_some_iff.mpr
      ⟨⟨hf.month_pos, hf.month_le, hf.day_pos, hf.day_le⟩,
        Eq.refl (toDays ⟨f.year, f.month, f.day⟩)⟩
    simp only [hf.year, hf.month, hf.day, hf.hour, hf.minute, hf.second, hrest, hoffset, hdays,
      Option.bind_eq_bind, Option.bind_some]
    rfl

/-- A text is read in one way at most. -/
theorem Reads.unique {raw : List UInt8} {f f' : Fields} (h : Reads raw f) (h' : Reads raw f') :
    f = f' := by
  cases f
  cases f'
  simp only [Fields.mk.injEq]
  exact ⟨Option.some.inj (h.year.symm.trans h'.year), Option.some.inj (h.month.symm.trans h'.month),
    Option.some.inj (h.day.symm.trans h'.day), Option.some.inj (h.hour.symm.trans h'.hour),
    Option.some.inj (h.minute.symm.trans h'.minute),
    Option.some.inj (h.second.symm.trans h'.second),
    Option.some.inj (h.offset.symm.trans h'.offset)⟩

/-! ## What is read unchecked -/

/-- After the seconds: nothing follows a `Z`, and an offset is one in digits, below a day. -/
structure StrictZone (rest : List UInt8) : Prop where
  utc : rest[0]? = some 90 → rest.length = 1
  colon : rest[0]? ≠ some 90 → rest[3]? = some 58
  signFree : rest[0]? ≠ some 90 → SignFree (rest.drop 1) ∧ SignFree (rest.drop 4)
  hours_lt : ∀ hours, rest[0]? ≠ some 90 →
    (slice rest 1 3).bind (parseSigned 64) = some hours → hours < 24
  minutes_lt : ∀ minutes, rest[0]? ≠ some 90 →
    (slice rest 4 6).bind (parseSigned 64) = some minutes → minutes < 60

/-- The separators are in their places, no number has a sign, and the day and the time exist. -/
structure Strict (raw : List UInt8) (f : Fields) : Prop where
  separators : raw[4]? = some 45 ∧ raw[7]? = some 45 ∧ raw[10]? = some 84 ∧ raw[13]? = some 58 ∧
    raw[16]? = some 58
  signFree : ∀ i ∈ [0, 5, 8, 11, 14, 17], SignFree (raw.drop i)
  day_le : f.day ≤ daysIn f.year f.month
  hour_lt : f.hour < 24
  minute_lt : f.minute < 60
  second_lt : f.second < 60
  zone : StrictZone (raw.drop 19)

theorem slice_eq_some {raw s : List UInt8} {a b : Nat} (h : slice raw a b = some s) :
    s = (raw.drop a).take (b - a) ∧ s.length = b - a := by
  unfold slice at h
  split at h
  · rename_i hbounds
    obtain rfl := Option.some.inj h
    refine ⟨rfl, ?_⟩
    rw [List.length_take, List.length_drop]
    omega
  · cases h

theorem SignFree.take {text : List UInt8} (h : SignFree text) {n : Nat} (hn : 0 < n) :
    SignFree (text.take n) := by
  unfold SignFree
  rw [List.getElem?_take_of_lt hn]
  exact h

theorem drop_eq_cons {raw : List UInt8} {i : Nat} {b : UInt8} (h : raw[i]? = some b) :
    raw.drop i = b :: raw.drop (i + 1) := by
  obtain ⟨hi, rfl⟩ := List.getElem?_eq_some_iff.mp h
  exact List.drop_eq_getElem_cons hi

/-- A field read without a sign is the two digits of its number. -/
theorem drop_eq_twoDigits {raw : List UInt8} {i n : Nat}
    (h : (slice raw i (i + 2)).bind (parseUnsigned 32) = some n) (hsign : SignFree (raw.drop i)) :
    raw.drop i = twoDigits n ++ raw.drop (i + 2) := by
  obtain ⟨s, hs, hn⟩ := Option.bind_eq_some_iff.mp h
  obtain ⟨rfl, hlength⟩ := slice_eq_some hs
  rw [Nat.add_sub_cancel_left] at hn hlength
  rw [← (parseUnsigned_eq_some_of_signFree hn (hsign.take (by decide)) hlength).2,
    ← List.drop_drop, List.take_append_drop]

theorem drop_eq_twoDigits_of_signed {raw : List UInt8} {i : Nat} {n : Int}
    (h : (slice raw i (i + 2)).bind (parseSigned 64) = some n) (hsign : SignFree (raw.drop i)) :
    0 ≤ n ∧ raw.drop i = twoDigits n.toNat ++ raw.drop (i + 2) := by
  obtain ⟨s, hs, hn⟩ := Option.bind_eq_some_iff.mp h
  obtain ⟨rfl, hlength⟩ := slice_eq_some hs
  rw [Nat.add_sub_cancel_left] at hn hlength
  obtain ⟨ds, hds, htext, rfl⟩ := exists_numeral_of_signFree hn (hsign.take (by decide))
  refine ⟨Int.natCast_nonneg _, ?_⟩
  rw [Int.toNat_natCast, ← (eq_twoDigits hds htext hlength).2, ← List.drop_drop,
    List.take_append_drop]

theorem eq_fourDigits_of_signed {raw : List UInt8} {n : Int}
    (h : (slice raw 0 4).bind (parseSigned 32) = some n) (hsign : SignFree (raw.drop 0)) :
    (0 ≤ n ∧ n < 10000) ∧ raw = fourDigits n.toNat ++ raw.drop 4 := by
  obtain ⟨s, hs, hn⟩ := Option.bind_eq_some_iff.mp h
  obtain ⟨rfl, hlength⟩ := slice_eq_some hs
  obtain ⟨ds, hds, htext, rfl⟩ := exists_numeral_of_signFree hn (hsign.take (by decide))
  obtain ⟨hlt, hdigits⟩ := eq_fourDigits hds htext hlength
  refine ⟨⟨Int.natCast_nonneg _, by omega⟩, ?_⟩
  rw [Int.toNat_natCast, ← hdigits, List.drop_zero, List.take_append_drop]

/-- The three ways in which an offset is read. -/
theorem offsetSeconds_cases {rest : List UInt8} {seconds : Int}
    (h : offsetSeconds rest = some seconds) :
    rest[0]? = some 90 ∧ seconds = 0 ∨
    ∃ hours minutes : Int, ∃ west : Bool, rest[0]? = some (if west then 45 else 43) ∧
      rest.length = 6 ∧ (slice rest 1 3).bind (parseSigned 64) = some hours ∧
      (slice rest 4 6).bind (parseSigned 64) = some minutes ∧
      seconds = (if west then -1 else 1) * (hours * 3600 + minutes * 60) := by
  unfold offsetSeconds at h
  split at h
  · cases h
  · rename_i b tail
    split at h
    · rename_i hb
      exact .inl ⟨congrArg some hb, (Option.some.inj h).symm⟩
    · split at h
      · rename_i hsign
        split at h
        · cases h
        · rename_i hlength
          obtain ⟨hours, hhours, h⟩ := Option.bind_eq_some_iff.mp h
          obtain ⟨minutes, hminutes, h⟩ := Option.bind_eq_some_iff.mp h
          refine .inr ⟨hours, minutes, decide (b = 45), ?_, not_not.mp hlength, hhours, hminutes,
            ?_⟩
          · rcases hsign with rfl | rfl <;> rfl
          · rw [← Option.some.inj h]
            rcases hsign with rfl | rfl <;> rfl
      · cases h

theorem offsetSeconds_cons {b : UInt8} {tail : List UInt8} {hours minutes : Int}
    (hb : b = 43 ∨ b = 45) (hlength : (b :: tail).length = 6)
    (hhours : (slice (b :: tail) 1 3).bind (parseSigned 64) = some hours)
    (hminutes : (slice (b :: tail) 4 6).bind (parseSigned 64) = some minutes) :
    offsetSeconds (b :: tail) =
      some ((if b = 43 then 1 else -1) * (hours * 3600 + minutes * 60)) := by
  have hutc : b ≠ 90 := by
    rcases hb with rfl | rfl <;> decide
  unfold offsetSeconds
  dsimp only
  rw [if_neg hutc, if_pos hb, if_neg (not_not.mpr hlength), hhours, hminutes]
  rfl

theorem exists_offset_of_strictZone {rest : List UInt8} {seconds : Int}
    (h : offsetSeconds rest = some seconds) (hstrict : StrictZone rest) :
    ∃ offset : Option Offset, (∀ o ∈ offset, o.Valid) ∧ rest = offsetText offset ∧
      seconds = offset.elim 0 Offset.seconds := by
  rcases offsetSeconds_cases h with ⟨hutc, rfl⟩ | ⟨hours, minutes, west, hsign, hlength, hhours,
    hminutes, rfl⟩
  · have htail : rest.drop 1 = [] :=
      List.drop_eq_nil_of_le (Nat.le_of_eq (hstrict.utc hutc))
    exact ⟨none, fun o ho => absurd ho.symm (Option.some_ne_none o),
      (drop_eq_cons hutc).trans (congrArg _ htail), rfl⟩
  · have hshift : rest[0]? ≠ some 90 := by
      rw [hsign]
      cases west <;> decide
    obtain ⟨hhours0, hhoursText⟩ := drop_eq_twoDigits_of_signed hhours (hstrict.signFree hshift).1
    obtain ⟨hminutes0, hminutesText⟩ :=
      drop_eq_twoDigits_of_signed hminutes (hstrict.signFree hshift).2
    have htail : rest.drop 6 = [] := List.drop_eq_nil_of_le (Nat.le_of_eq hlength)
    have hhoursLt := hstrict.hours_lt hours hshift hhours
    have hminutesLt := hstrict.minutes_lt minutes hshift hminutes
    refine ⟨some ⟨west, hours.toNat, minutes.toNat⟩, ?_, ?_, ?_⟩
    · intro o ho
      obtain rfl := Option.some.inj ho
      exact ⟨by dsimp only; omega, by dsimp only; omega⟩
    · calc rest = (if west then 45 else 43) :: rest.drop 1 := drop_eq_cons hsign
        _ = (if west then 45 else 43) :: (twoDigits hours.toNat ++ rest.drop 3) := by
          rw [hhoursText]
        _ = (if west then 45 else 43) ::
            (twoDigits hours.toNat ++ 58 :: (twoDigits minutes.toNat ++ [])) := by
          rw [drop_eq_cons (hstrict.colon hshift), hminutesText, htail]
        _ = offsetText (some ⟨west, hours.toNat, minutes.toNat⟩) := by
          rw [List.append_nil]
          rfl
    · simp only [Option.elim_some, Offset.seconds]
      rw [Int.toNat_of_nonneg hhours0, Int.toNat_of_nonneg hminutes0]

theorem exists_dateTime_of_strict {raw : List UInt8} {f : Fields} (h : Reads raw f)
    (hstrict : Strict raw f) :
    ∃ t : DateTime, t.Valid ∧ raw = t.text ∧ f.instant = t.instant := by
  obtain ⟨hdash, hdash', hT, hcolon, hcolon'⟩ := hstrict.separators
  obtain ⟨hyear, hyearText⟩ := eq_fourDigits_of_signed h.year (hstrict.signFree 0 (by decide))
  have hmonthText := drop_eq_twoDigits h.month (hstrict.signFree 5 (by decide))
  have hdayText := drop_eq_twoDigits h.day (hstrict.signFree 8 (by decide))
  have hhourText := drop_eq_twoDigits h.hour (hstrict.signFree 11 (by decide))
  have hminuteText := drop_eq_twoDigits h.minute (hstrict.signFree 14 (by decide))
  have hsecondText := drop_eq_twoDigits h.second (hstrict.signFree 17 (by decide))
  obtain ⟨rest, hrest, hoffset⟩ := Option.bind_eq_some_iff.mp h.offset
  obtain ⟨rfl, -⟩ := slice_eq_some hrest
  rw [List.take_of_length_le (by rw [List.length_drop])] at hoffset
  obtain ⟨offset, hvalid, hzone, hseconds⟩ := exists_offset_of_strictZone hoffset hstrict.zone
  have htext : raw = (⟨f.year.toNat, f.month, f.day, f.hour, f.minute, f.second⟩ : Stamp).text
      (offsetText offset) := by
    calc raw = fourDigits f.year.toNat ++ raw.drop 4 := hyearText
      _ = _ := by
        rw [drop_eq_cons hdash, hmonthText, drop_eq_cons hdash', hdayText, drop_eq_cons hT,
          hhourText, drop_eq_cons hcolon, hminuteText, drop_eq_cons hcolon', hsecondText, hzone]
        rfl
  have hyearNat : ((f.year.toNat : Nat) : Int) = f.year := Int.toNat_of_nonneg hyear.1
  refine ⟨⟨⟨f.year.toNat, f.month, f.day, f.hour, f.minute, f.second⟩, [], offset⟩, ?_, htext, ?_⟩
  · exact {
      year_lt := by dsimp only; omega
      month_pos := h.month_pos
      month_le := h.month_le
      day_pos := h.day_pos
      day_le := by
        dsimp only
        rw [hyearNat]
        exact hstrict.day_le
      hour_lt := hstrict.hour_lt
      minute_lt := hstrict.minute_lt
      second_lt := hstrict.second_lt
      fraction_lt := List.forall_mem_nil _
      offset_valid := hvalid }
  · unfold Fields.instant DateTime.instant
    dsimp only
    rw [← Calendar.toDays_eq_dayNumber h.month_pos h.month_le h.day_pos, hyearNat, hseconds]

end Slan.Relay
