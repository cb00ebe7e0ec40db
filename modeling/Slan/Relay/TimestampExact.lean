import Slan.Relay.Timestamps

/-! # Exact timestamps: which texts the parser reads as what they say -/

namespace Slan.Relay

open Rfc3339 (daysIn toDays)

/-! ## What is written -/

def Ascii (text : List UInt8) : Prop := ∀ b ∈ text, b < 0x80

theorem Ascii.isCharBoundary {raw : List UInt8} (h : Ascii raw) {i : Nat} (hi : i ≤ raw.length) :
    isCharBoundary raw i = true := by
  unfold Relay.isCharBoundary
  rcases Nat.lt_or_eq_of_le hi with hlt | rfl
  · have hb := h raw[i] (List.getElem_mem hlt)
    rw [List.getElem?_eq_getElem hlt, Option.any_some, decide_eq_true hb, Bool.true_or,
      Bool.or_true]
  · rw [beq_self_eq_true, Bool.or_true, Bool.true_or]

/-- A text of single-byte characters may be cut anywhere. -/
theorem Ascii.slice {raw : List UInt8} (h : Ascii raw) {a b : Nat} (hab : a ≤ b)
    (hb : b ≤ raw.length) : slice raw a b = some ((raw.drop a).take (b - a)) := by
  unfold Relay.slice
  rw [if_pos ⟨hab, hb, h.isCharBoundary (Nat.le_trans hab hb), h.isCharBoundary hb⟩]

theorem digitByte_lt {d : Nat} (h : d < 10) : digitByte d < 0x80 := by
  have hall : ∀ d < 10, digitByte d < 0x80 := by decide
  exact hall d h

theorem ascii_twoDigits {n : Nat} (h : n < 100) : Ascii (twoDigits n) := by
  refine List.forall_mem_cons.mpr ⟨digitByte_lt (by omega), List.forall_mem_cons.mpr
    ⟨digitByte_lt (by omega), List.forall_mem_nil _⟩⟩

theorem ascii_fourDigits {n : Nat} (h : n < 10000) : Ascii (fourDigits n) := by
  refine List.forall_mem_cons.mpr ⟨digitByte_lt (by omega), List.forall_mem_cons.mpr
    ⟨digitByte_lt (by omega), List.forall_mem_cons.mpr ⟨digitByte_lt (by omega),
      List.forall_mem_cons.mpr ⟨digitByte_lt (by omega), List.forall_mem_nil _⟩⟩⟩⟩

theorem ascii_append {l l' : List UInt8} : Ascii (l ++ l') ↔ Ascii l ∧ Ascii l' :=
  List.forall_mem_append

theorem ascii_cons {b : UInt8} {l : List UInt8} : Ascii (b :: l) ↔ b < 0x80 ∧ Ascii l :=
  List.forall_mem_cons

theorem ascii_offsetText {offset : Option Offset} (h : ∀ o ∈ offset, o.Valid) :
    Ascii (offsetText offset) := by
  cases offset with
  | none => exact ascii_cons.mpr ⟨by decide, List.forall_mem_nil _⟩
  | some o =>
    obtain ⟨hhours, hminutes⟩ := h o rfl
    refine ascii_cons.mpr ⟨by cases o.west <;> decide, ascii_append.mpr
      ⟨ascii_twoDigits (by omega), ascii_cons.mpr ⟨by decide, ascii_twoDigits (by omega)⟩⟩⟩

theorem day_le_of_valid {t : DateTime} (h : t.Valid) : t.day ≤ 31 := by
  have hle := h.day_le
  unfold daysIn at hle
  grind

theorem ascii_stamp {t : DateTime} (h : t.Valid) {rest : List UInt8} (hrest : Ascii rest) :
    Ascii (t.toStamp.text rest) := by
  have hday := day_le_of_valid h
  have hmonth := h.month_le
  have hhour := h.hour_lt
  have hminute := h.minute_lt
  have hsecond := h.second_lt
  unfold Stamp.text
  simp only [ascii_append, ascii_cons]
  refine ⟨ascii_fourDigits h.year_lt, by decide, ascii_twoDigits (by omega), by decide,
    ascii_twoDigits (by omega), by decide, ascii_twoDigits (by omega), by decide,
    ascii_twoDigits (by omega), by decide, ascii_twoDigits (by omega), hrest⟩

theorem digitByte_signFree {d : Nat} (h : d < 10) (text : List UInt8) :
    SignFree (digitByte d :: text) :=
  ⟨fun heq => (digitByte_ne_sign h).1 (Option.some.inj heq),
    fun heq => (digitByte_ne_sign h).2 (Option.some.inj heq)⟩

theorem reads_offsetText {offset : Option Offset} (h : ∀ o ∈ offset, o.Valid) :
    offsetSeconds (offsetText offset) = some (offset.elim 0 Offset.seconds) ∧
      StrictZone (offsetText offset) := by
  have hascii := ascii_offsetText h
  cases offset with
  | none =>
    exact ⟨rfl, ⟨fun _ => rfl, fun hne => absurd rfl hne, fun hne => absurd rfl hne,
      fun _ hne => absurd rfl hne, fun _ hne => absurd rfl hne⟩⟩
  | some o =>
    obtain ⟨hhours, hminutes⟩ := h o rfl
    have hhoursRead : (slice (offsetText (some o)) 1 3).bind (parseSigned 64) =
        some (o.hours : Int) := by
      rw [hascii.slice (by decide) (by simp [offsetText, twoDigits])]
      exact parseSigned_twoDigits (by omega)
    have hminutesRead : (slice (offsetText (some o)) 4 6).bind (parseSigned 64) =
        some (o.minutes : Int) := by
      rw [hascii.slice (by decide) (by simp [offsetText, twoDigits])]
      exact parseSigned_twoDigits (by omega)
    have hsign : (offsetText (some o))[0]? = some (if o.west then 45 else 43) := rfl
    have hshift : (offsetText (some o))[0]? ≠ some 90 := by
      rw [hsign]
      cases o.west <;> decide
    refine ⟨?_, ⟨fun heq => absurd heq hshift, fun _ => rfl,
      fun _ => ⟨digitByte_signFree (by omega) _, digitByte_signFree (by omega) _⟩, ?_, ?_⟩⟩
    · refine (offsetSeconds_cons (by cases o.west <;> decide) rfl hhoursRead hminutesRead).trans ?_
      rw [Option.elim_some]
      unfold Offset.seconds
      cases o.west <;> rfl
    · intro hours _ hread
      rw [hhoursRead] at hread
      obtain rfl := Option.some.inj hread
      omega
    · intro minutes _ hread
      rw [hminutesRead] at hread
      obtain rfl := Option.some.inj hread
      omega

/-- The numbers of a date and a time, as they are read. -/
def DateTime.fields (t : DateTime) : Fields :=
  ⟨t.year, t.month, t.day, t.hour, t.minute, t.second, t.offset.elim 0 Offset.seconds⟩

theorem DateTime.Valid.fields_instant {t : DateTime} (h : t.Valid) :
    t.fields.instant = t.instant := by
  unfold Fields.instant DateTime.instant
  dsimp only [DateTime.fields]
  rw [Calendar.toDays_eq_dayNumber h.month_pos h.month_le h.day_pos]

theorem length_text {t : DateTime} (hfraction : t.fraction = []) :
    t.text.length = 19 + (offsetText t.offset).length := by
  unfold DateTime.text Stamp.text fractionText
  rw [if_pos hfraction]
  simp only [List.length_append, List.length_cons, fourDigits, twoDigits, List.length_nil]
  omega

theorem text_eq {t : DateTime} (hfraction : t.fraction = []) :
    t.text = t.toStamp.text (offsetText t.offset) := by
  unfold DateTime.text fractionText
  rw [if_pos hfraction, List.nil_append]

theorem reads_text {t : DateTime} (h : t.Valid) (hfraction : t.fraction = []) :
    Reads t.text t.fields := by
  have hlength := length_text hfraction
  rw [text_eq hfraction] at hlength ⊢
  have hascii := ascii_stamp h (ascii_offsetText h.offset_valid)
  have hzone : 1 ≤ (offsetText t.offset).length := by
    cases t.offset <;> simp [offsetText]
  have hmonth := h.month_le
  have hday := day_le_of_valid h
  have hhour := h.hour_lt
  have hminute := h.minute_lt
  have hsecond := h.second_lt
  have hfield : ∀ a b, a ≤ b → b ≤ 19 → slice (t.toStamp.text (offsetText t.offset)) a b =
      some (((t.toStamp.text (offsetText t.offset)).drop a).take (b - a)) :=
    fun a b hab hb => hascii.slice hab (by omega)
  exact {
    length := by omega
    year := by
      rw [hfield 0 4 (by decide) (by decide)]
      exact parseSigned_fourDigits h.year_lt
    month := by
      rw [hfield 5 7 (by decide) (by decide)]
      exact parseUnsigned_twoDigits (by omega)
    day := by
      rw [hfield 8 10 (by decide) (by decide)]
      exact parseUnsigned_twoDigits (by omega)
    hour := by
      rw [hfield 11 13 (by decide) (by decide)]
      exact parseUnsigned_twoDigits (by omega)
    minute := by
      rw [hfield 14 16 (by decide) (by decide)]
      exact parseUnsigned_twoDigits (by omega)
    second := by
      rw [hfield 17 19 (by decide) (by decide)]
      exact parseUnsigned_twoDigits (by omega)
    offset := by
      rw [hascii.slice (by omega) (Nat.le_refl _),
        List.take_of_length_le (by rw [List.length_drop])]
      exact (reads_offsetText h.offset_valid).1
    month_pos := h.month_pos
    month_le := h.month_le
    day_pos := h.day_pos
    day_le := hday }

theorem strict_text {t : DateTime} (h : t.Valid) (hfraction : t.fraction = []) :
    Strict t.text t.fields := by
  have hyear := h.year_lt
  have hmonth := h.month_le
  have hday := day_le_of_valid h
  have hhour := h.hour_lt
  have hminute := h.minute_lt
  have hsecond := h.second_lt
  rw [text_eq hfraction]
  exact {
    separators := ⟨rfl, rfl, rfl, rfl, rfl⟩
    signFree := by
      simp only [List.forall_mem_cons]
      exact ⟨digitByte_signFree (by omega) _, digitByte_signFree (by omega) _,
        digitByte_signFree (by omega) _, digitByte_signFree (by omega) _,
        digitByte_signFree (by omega) _, digitByte_signFree (by omega) _, List.forall_mem_nil _⟩
    day_le := h.day_le
    hour_lt := hhour
    minute_lt := hminute
    second_lt := hsecond
    zone := (reads_offsetText h.offset_valid).2 }

/-! ## The byte after the seconds -/

theorem Reads.zone_byte {raw : List UInt8} {f : Fields} (h : Reads raw f) :
    raw[19]? = some 90 ∨ raw[19]? = some 43 ∨ raw[19]? = some 45 := by
  obtain ⟨rest, hrest, hoffset⟩ := Option.bind_eq_some_iff.mp h.offset
  obtain ⟨rfl, -⟩ := slice_eq_some hrest
  rw [List.take_of_length_le (by rw [List.length_drop])] at hoffset
  have hhead : (raw.drop 19)[0]? = raw[19]? := List.getElem?_drop
  rcases offsetSeconds_cases hoffset with ⟨hutc, -⟩ | ⟨-, -, west, hsign, -⟩
  · exact .inl (hhead.symm.trans hutc)
  · rw [← hhead, hsign]
    cases west
    · exact .inr (.inl rfl)
    · exact .inr (.inr rfl)

theorem zone_byte_text (t : DateTime) :
    (t.fraction ≠ [] ∧ t.text[19]? = some 46) ∨ (t.fraction = [] ∧ (t.text[19]? = some 90 ∨
      t.text[19]? = some 43 ∨ t.text[19]? = some 45)) := by
  by_cases hfraction : t.fraction = []
  · refine .inr ⟨hfraction, ?_⟩
    rw [text_eq hfraction]
    cases t.offset with
    | none => exact .inl rfl
    | some o =>
      have hsign : (t.toStamp.text (offsetText (some o)))[19]? =
        some (if o.west then 45 else 43) := rfl
      rw [hsign]
      cases o.west
      · exact .inr (.inl rfl)
      · exact .inr (.inr rfl)
  · refine .inl ⟨hfraction, ?_⟩
    unfold DateTime.text fractionText
    rw [if_neg hfraction]
    rfl

/-- After its first byte an integer has digits only. -/
theorem digit_of_parseSigned {bits i : Nat} {raw : List UInt8} {n : Int} {b : UInt8}
    (h : parseSigned bits raw = some n) (hb : raw[i + 1]? = some b) :
    ∃ d < 10, b = digitByte d := by
  have hdigit : ∀ {ds : List Nat} {j : Nat}, (∀ d ∈ ds, d < 10) →
      (ds.map digitByte)[j]? = some b → ∃ d < 10, b = digitByte d := by
    intro ds j hds hget
    rw [List.getElem?_map] at hget
    obtain ⟨d, hd, rfl⟩ := Option.map_eq_some_iff.mp hget
    exact ⟨d, hds d (List.mem_of_getElem? hd), rfl⟩
  obtain ⟨ds, -, hds, ⟨-, rfl | rfl⟩ | ⟨-, rfl⟩⟩ :=
    signedNumber_eq_some_iff.mp (parseSigned_eq_some_iff.mp h).1
  · exact hdigit hds hb
  · exact hdigit hds hb
  · exact hdigit hds hb

theorem parseSigned_eq_none {bits : Nat} {raw : List UInt8}
    (h : raw[19]? = some 46 ∨ raw[19]? = some 90 ∨ raw[19]? = some 43 ∨ raw[19]? = some 45) :
    parseSigned bits raw = none := by
  -- none of the bytes that may come after the seconds is a digit
  have hno : ∀ d < 10, digitByte d ≠ 46 ∧ digitByte d ≠ 90 ∧ digitByte d ≠ 43 ∧
      digitByte d ≠ 45 := by decide
  cases hparse : parseSigned bits raw with
  | none => rfl
  | some n =>
    rcases h with h | h | h | h <;> obtain ⟨d, hd, hbyte⟩ := digit_of_parseSigned hparse h
    · exact absurd hbyte.symm (hno d hd).1
    · exact absurd hbyte.symm (hno d hd).2.1
    · exact absurd hbyte.symm (hno d hd).2.2.1
    · exact absurd hbyte.symm (hno d hd).2.2.2

theorem Reads.parseSigned_eq_none {bits : Nat} {raw : List UInt8} {f : Fields} (h : Reads raw f) :
    parseSigned bits raw = none :=
  Relay.parseSigned_eq_none (.inr h.zone_byte)

theorem parseSigned_text (bits : Nat) (t : DateTime) : parseSigned bits t.text = none := by
  rcases zone_byte_text t with ⟨-, hbyte⟩ | ⟨-, hbyte⟩
  · exact parseSigned_eq_none (.inl hbyte)
  · exact parseSigned_eq_none (.inr hbyte)

/-- No text with a fraction is read. -/
theorem fraction_eq_nil_of_reads {t : DateTime} {f : Fields} (h : Reads t.text f) :
    t.fraction = [] := by
  rcases zone_byte_text t with ⟨-, hbyte⟩ | ⟨hfraction, -⟩
  · have hzone := h.zone_byte
    rw [hbyte] at hzone
    exact absurd hzone (by decide)
  · exact hfraction

/-! ## What the parser computes -/

theorem parseTimestamp_eq_ok_iff {raw : String} {seconds : Int} :
    parseTimestamp raw = .ok seconds ↔ IsDecimal (Text.utf8 (Text.trim raw)) seconds ∨
      ∃ f, Reads (Text.utf8 (Text.trim raw)) f ∧ seconds = f.instant := by
  unfold parseTimestamp
  dsimp only
  generalize Text.utf8 (Text.trim raw) = text
  rw [← parseSigned_eq_some_iff_isDecimal, ← parseRfc3339_eq_some_iff]
  split
  · rename_i hempty
    subst hempty
    have hsigned : parseSigned 64 [] = none := by decide
    have hrfc : parseRfc3339 [] = none := by decide
    rw [hsigned, hrfc]
    exact iff_of_false nofun fun h =>
      h.elim (Option.some_ne_none seconds).symm (Option.some_ne_none seconds).symm
  · split
    · rename_i n hn
      rw [hn]
      constructor
      · intro h
        exact .inl (congrArg some (Except.ok.inj h))
      · rintro (h | h)
        · exact congrArg Except.ok (Option.some.inj h)
        · obtain ⟨f, hf, -⟩ := parseRfc3339_eq_some_iff.mp h
          rw [hf.parseSigned_eq_none] at hn
          cases hn
    · rename_i hn
      rw [hn, or_iff_right (Option.some_ne_none seconds).symm]
      split
      · rename_i m hm
        rw [hm]
        exact ⟨fun h => congrArg some (Except.ok.inj h),
          fun h => congrArg Except.ok (Option.some.inj h)⟩
      · rename_i hm
        rw [hm]
        exact iff_of_false nofun (Option.some_ne_none seconds).symm

/-! ## The arithmetic on the way -/

def InRange (bits : Nat) (n : Int) : Prop := -2 ^ (bits - 1) ≤ n ∧ n < 2 ^ (bits - 1)

/-- The 32-bit numbers of `days_from_civil`, the result last. -/
def civilSteps (year : Int) (month day : Nat) : List Int :=
  let year := year - if month ≤ 2 then 1 else 0
  let start := if 0 ≤ year then year else year - 399
  let era := start.tdiv 400
  let yoe := year - era * 400
  let month : Int := month
  let shifted := month + if 2 < month then -3 else 9
  let doy := (153 * shifted + 2).tdiv 5 + day - 1
  let doe := yoe * 365 + yoe.tdiv 4 - yoe.tdiv 100 + doy
  [year, start, era, era * 400, yoe, shifted, 153 * shifted, 153 * shifted + 2,
    (153 * shifted + 2).tdiv 5, (153 * shifted + 2).tdiv 5 + day, doy, yoe * 365, yoe.tdiv 4,
    yoe * 365 + yoe.tdiv 4, yoe.tdiv 100, yoe * 365 + yoe.tdiv 4 - yoe.tdiv 100, doe,
    era * 146097, era * 146097 + doe, era * 146097 + doe - 719468]

/-- The 64-bit numbers from the days on, the result last. -/
def secondsSteps (days : Int) (hour minute second : Nat) (offset : Int) : List Int :=
  [days * 86400, hour * 3600, days * 86400 + hour * 3600, minute * 60,
    days * 86400 + hour * 3600 + minute * 60, days * 86400 + hour * 3600 + minute * 60 + second,
    days * 86400 + hour * 3600 + minute * 60 + second - offset]

def offsetSteps (hours minutes : Int) : List Int :=
  [hours * 3600, minutes * 60, hours * 3600 + minutes * 60, -(hours * 3600 + minutes * 60)]

/-- Every number stays in its width, and the sign of an offset is cut off between characters. -/
structure FaultFree (raw : List UInt8) : Prop where
  sign : raw[19]? = some 43 ∨ raw[19]? = some 45 → isCharBoundary (raw.drop 19) 1 = true
  offset : ∀ hours minutes, (slice (raw.drop 19) 1 3).bind (parseSigned 64) = some hours →
    (slice (raw.drop 19) 4 6).bind (parseSigned 64) = some minutes →
    ∀ n ∈ offsetSteps hours minutes, InRange 64 n
  civil : ∀ f, Reads raw f → ∀ n ∈ civilSteps f.year f.month f.day, InRange 32 n
  seconds : ∀ f days, Reads raw f → daysFromCivil f.year f.month f.day = some days →
    ∀ n ∈ secondsSteps days f.hour f.minute f.second f.offset, InRange 64 n

theorem lt_of_parseUnsigned {bits : Nat} {text : List UInt8} {n : Nat}
    (h : parseUnsigned bits text = some n) : n < 10 ^ text.length := by
  obtain ⟨ds, -, hds, rfl, rfl | rfl⟩ := parseUnsigned_eq_some h
  · rw [List.length_map]
    exact numeral_lt hds
  · rw [List.length_cons, List.length_map, pow_succ']
    have hlt := numeral_lt hds
    omega

theorem lt_of_unsigned_field {raw : List UInt8} {i n : Nat}
    (h : (slice raw i (i + 2)).bind (parseUnsigned 32) = some n) : n < 100 := by
  obtain ⟨s, hs, hn⟩ := Option.bind_eq_some_iff.mp h
  have hlt := lt_of_parseUnsigned hn
  rwa [(slice_eq_some hs).2, Nat.add_sub_cancel_left] at hlt

theorem abs_lt_of_signed_field {raw : List UInt8} {i k bits : Nat} {n : Int}
    (h : (slice raw i (i + k)).bind (parseSigned bits) = some n) : -10 ^ k < n ∧ n < 10 ^ k := by
  obtain ⟨s, hs, hn⟩ := Option.bind_eq_some_iff.mp h
  have hlt := abs_lt_of_parseSigned hn
  rwa [(slice_eq_some hs).2, Nat.add_sub_cancel_left] at hlt

theorem Reads.offset_bounds {raw : List UInt8} {f : Fields} (h : Reads raw f) :
    -400000 < f.offset ∧ f.offset < 400000 := by
  obtain ⟨rest, -, hoffset⟩ := Option.bind_eq_some_iff.mp h.offset
  rcases offsetSeconds_cases hoffset with ⟨-, hzero⟩ | ⟨hours, minutes, west, -, -, hhours,
    hminutes, hseconds⟩
  · rw [hzero]
    decide
  · have hhoursLt := abs_lt_of_signed_field (i := 1) (k := 2) hhours
    have hminutesLt := abs_lt_of_signed_field (i := 4) (k := 2) hminutes
    rw [hseconds]
    cases west
    · simp only [Bool.false_eq_true, if_false]
      omega
    · simp only [if_true]
      omega

theorem mem_civilSteps_of_daysFromCivil {year days : Int} {month day : Nat}
    (h : daysFromCivil year month day = some days) : days ∈ civilSteps year month day := by
  unfold daysFromCivil at h
  split at h
  · cases h
  · obtain rfl := Option.some.inj h
    exact List.mem_of_getLast? rfl

theorem civilSteps_inRange {year : Int} {month day : Nat} (hyear : -10 ^ 4 < year ∧ year < 10 ^ 4)
    (hmonth : 1 ≤ month ∧ month ≤ 12) (hday : 1 ≤ day ∧ day ≤ 31) :
    ∀ n ∈ civilSteps year month day, InRange 32 n := by
  unfold civilSteps InRange
  dsimp only
  rw [era_eq, Int.fdiv_eq_ediv_of_nonneg _ (by decide)]
  have hstart : -10 ^ 4 ≤ year - (if month ≤ 2 then 1 else 0) ∧
      year - (if month ≤ 2 then 1 else 0) < 10 ^ 4 := by
    split <;> omega
  have hshifted : 0 ≤ (month : Int) + (if 2 < (month : Int) then -3 else 9) ∧
      (month : Int) + (if 2 < (month : Int) then -3 else 9) ≤ 11 := by
    split <;> omega
  -- each number on the way is named once its bounds are known, so that the next ones are linear in
  -- it
  generalize year - (if month ≤ 2 then 1 else 0) = y at hstart ⊢
  generalize (month : Int) + (if 2 < (month : Int) then -3 else 9) = shifted at hshifted ⊢
  have hyoe : 0 ≤ y - y / 400 * 400 ∧ y - y / 400 * 400 < 400 := by omega
  generalize hera : y / 400 = era at hyoe ⊢
  generalize y - era * 400 = yoe at hyoe ⊢
  have hfour : yoe.tdiv 4 = yoe / 4 := Int.tdiv_eq_ediv_of_nonneg hyoe.1
  have hhundred : yoe.tdiv 100 = yoe / 100 := Int.tdiv_eq_ediv_of_nonneg hyoe.1
  have hfive : (153 * shifted + 2).tdiv 5 = (153 * shifted + 2) / 5 :=
    Int.tdiv_eq_ediv_of_nonneg (by omega)
  rw [hfour, hhundred, hfive]
  have hera' : -25 ≤ era ∧ era < 25 := by omega
  have hbounds : -10 ^ 4 - 399 ≤ (if 0 ≤ y then y else y - 399) ∧
      (if 0 ≤ y then y else y - 399) < 10 ^ 4 := by
    split <;> omega
  simp only [List.forall_mem_cons]
  refine ⟨?_, ?_, ?_, ?_, ?_, ?_, ?_, ?_, ?_, ?_, ?_, ?_, ?_, ?_, ?_, ?_, ?_, ?_, ?_, ?_,
    List.forall_mem_nil _⟩ <;> omega

theorem Reads.year_bounds {raw : List UInt8} {f : Fields} (h : Reads raw f) :
    -10 ^ 4 < f.year ∧ f.year < 10 ^ 4 :=
  abs_lt_of_signed_field (i := 0) (k := 4) h.year

theorem secondsSteps_inRange {raw : List UInt8} {f : Fields} {days : Int} (h : Reads raw f)
    (hdays : InRange 32 days) :
    ∀ n ∈ secondsSteps days f.hour f.minute f.second f.offset, InRange 64 n := by
  have hhour := lt_of_unsigned_field (i := 11) h.hour
  have hminute := lt_of_unsigned_field (i := 14) h.minute
  have hsecond := lt_of_unsigned_field (i := 17) h.second
  have hoffset := h.offset_bounds
  unfold InRange at hdays
  unfold secondsSteps InRange
  simp only [List.forall_mem_cons]
  refine ⟨?_, ?_, ?_, ?_, ?_, ?_, ?_, List.forall_mem_nil _⟩ <;> omega

theorem isCharBoundary_after_sign {s : String}
    (h : (Text.utf8 s)[19]? = some 43 ∨ (Text.utf8 s)[19]? = some 45) :
    isCharBoundary ((Text.utf8 s).drop 19) 1 = true := by
  unfold isCharBoundary
  rw [List.getElem?_drop]
  cases hnext : (Text.utf8 s)[19 + 1]? with
  | none =>
    have hlt : 19 < (Text.utf8 s).length := by
      rcases h with h | h
      · exact (List.getElem?_eq_some_iff.mp h).1
      · exact (List.getElem?_eq_some_iff.mp h).1
    have hle := List.getElem?_eq_none_iff.mp hnext
    have hlength : ((Text.utf8 s).drop 19).length = 1 := by
      rw [List.length_drop]
      omega
    rw [hlength]
    rfl
  | some b =>
    -- the sign is a whole character, so the next byte starts one
    have hfirst : b.IsUTF8FirstByte := by
      rcases h with h | h
      · exact Text.first_byte_after_ascii h (by decide) hnext
      · exact Text.first_byte_after_ascii h (by decide) hnext
    rcases Text.boundary_of_first_byte hfirst with hb | hb
    · simp [hb]
    · simp [hb]

theorem faultFree_utf8 (s : String) : FaultFree (Text.utf8 s) where
  sign := isCharBoundary_after_sign
  offset hours minutes hhours hminutes := by
    have hhoursLt := abs_lt_of_signed_field (i := 1) (k := 2) hhours
    have hminutesLt := abs_lt_of_signed_field (i := 4) (k := 2) hminutes
    unfold offsetSteps InRange
    simp only [List.forall_mem_cons]
    refine ⟨?_, ?_, ?_, ?_, List.forall_mem_nil _⟩ <;> omega
  civil f hf :=
    civilSteps_inRange hf.year_bounds ⟨hf.month_pos, hf.month_le⟩ ⟨hf.day_pos, hf.day_le⟩
  seconds f days hf hdays :=
    secondsSteps_inRange hf (civilSteps_inRange hf.year_bounds ⟨hf.month_pos, hf.month_le⟩
      ⟨hf.day_pos, hf.day_le⟩ days (mem_civilSteps_of_daysFromCivil hdays))

/-! ## When the parser is exact -/

/-- Exactly the well-formed texts are accepted, each as its instant, and nothing faults. -/
structure Exact (raw : String) : Prop where
  accepts : ∀ seconds, parseTimestamp raw = .ok seconds ↔
    Denotes (Text.utf8 (Text.trim raw)) seconds
  faultFree : FaultFree (Text.utf8 (Text.trim raw))

/-- The text has no fraction, and where numbers are read, what the code leaves unchecked holds. -/
structure Canonical (text : List UInt8) : Prop where
  fraction : ∀ t : DateTime, t.Valid → text = t.text → t.fraction = []
  strict : ∀ f, Reads text f → Strict text f

theorem canonical_of_accepts {raw : String} (h : ∀ seconds, parseTimestamp raw = .ok seconds ↔
    Denotes (Text.utf8 (Text.trim raw)) seconds) : Canonical (Text.utf8 (Text.trim raw)) := by
  simp only [parseTimestamp_eq_ok_iff, Denotes] at h
  generalize Text.utf8 (Text.trim raw) = text at h ⊢
  constructor
  · intro t ht htext
    -- the text is accepted as a date, which has no place for a fraction
    rcases (h t.instant).mpr (.inr ⟨t, ht, htext, rfl⟩) with hdecimal | ⟨f, hf, -⟩
    · rw [← parseSigned_eq_some_iff_isDecimal, htext, parseSigned_text] at hdecimal
      cases hdecimal
    · exact fraction_eq_nil_of_reads (htext ▸ hf)
  · intro f hf
    -- the numbers that are read are those of the date the text stands for
    rcases (h f.instant).mp (.inr ⟨f, hf, rfl⟩) with hdecimal | ⟨t, ht, rfl, -⟩
    · rw [← parseSigned_eq_some_iff_isDecimal, hf.parseSigned_eq_none] at hdecimal
      cases hdecimal
    · have hfraction := fraction_eq_nil_of_reads hf
      rw [hf.unique (reads_text ht hfraction)]
      exact strict_text ht hfraction

theorem accepts_of_canonical {raw : String} (h : Canonical (Text.utf8 (Text.trim raw)))
    (seconds : Int) :
    parseTimestamp raw = .ok seconds ↔ Denotes (Text.utf8 (Text.trim raw)) seconds := by
  rw [parseTimestamp_eq_ok_iff, Denotes]
  generalize Text.utf8 (Text.trim raw) = text at h ⊢
  refine or_congr_right ⟨?_, ?_⟩
  · rintro ⟨f, hf, rfl⟩
    exact exists_dateTime_of_strict hf (h.strict f hf)
  · rintro ⟨t, ht, rfl, rfl⟩
    exact ⟨t.fields, reads_text ht (h.fraction t ht rfl), ht.fields_instant.symm⟩

theorem parseTimestamp_exact_iff (raw : String) :
    Exact raw ↔ Canonical (Text.utf8 (Text.trim raw)) :=
  ⟨fun h => canonical_of_accepts h.accepts,
    fun h => ⟨accepts_of_canonical h, faultFree_utf8 (Text.trim raw)⟩⟩

/-- The thirtieth of February is accepted, and a timestamp with a fraction is not. -/
theorem february_thirtieth_not_exact :
    ¬Exact "2026-02-30T00:00:00Z" ∧ ¬Exact "2026-01-01T00:00:00.5Z" := by
  constructor
  · intro h
    -- the day is compared with 31 in every month
    have hread : parseRfc3339 (Text.utf8 (Text.trim "2026-02-30T00:00:00Z")) =
        some 1772409600 := by decide
    obtain ⟨f, hf, -⟩ := parseRfc3339_eq_some_iff.mp hread
    have hday := (canonical_of_accepts h.accepts).strict f hf |>.day_le
    have hdate : f.year = 2026 ∧ f.month = 2 ∧ f.day = 30 := by
      have hfields : (slice (Text.utf8 (Text.trim "2026-02-30T00:00:00Z")) 0 4).bind
            (parseSigned 32) = some 2026 ∧
          (slice (Text.utf8 (Text.trim "2026-02-30T00:00:00Z")) 5 7).bind
            (parseUnsigned 32) = some 2 ∧
          (slice (Text.utf8 (Text.trim "2026-02-30T00:00:00Z")) 8 10).bind
            (parseUnsigned 32) = some 30 := by decide
      exact ⟨Option.some.inj (hf.year.symm.trans hfields.1),
        Option.some.inj (hf.month.symm.trans hfields.2.1),
        Option.some.inj (hf.day.symm.trans hfields.2.2)⟩
    rw [hdate.1, hdate.2.1, hdate.2.2] at hday
    exact absurd hday (by decide)
  · intro h
    have htext : Text.utf8 (Text.trim "2026-01-01T00:00:00.5Z") =
        (⟨⟨2026, 1, 1, 0, 0, 0⟩, [5], none⟩ : DateTime).text := by decide
    have hvalid : (⟨⟨2026, 1, 1, 0, 0, 0⟩, [5], none⟩ : DateTime).Valid := {
      year_lt := by decide
      month_pos := by decide
      month_le := by decide
      day_pos := by decide
      day_le := by decide
      hour_lt := by decide
      minute_lt := by decide
      second_lt := by decide
      fraction_lt := by decide
      offset_valid := fun o ho => absurd ho.symm (Option.some_ne_none o) }
    exact absurd ((canonical_of_accepts h.accepts).fraction _ hvalid htext) (by decide)

end Slan.Relay
