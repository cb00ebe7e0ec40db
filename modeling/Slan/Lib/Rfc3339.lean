import Mathlib.Tactic.Common

/-! # RFC 3339 timestamps: writing in UTC, reading with any offset -/

namespace Rfc3339

structure Civil where
  year : Int
  month : Nat
  day : Nat
  deriving DecidableEq, Repr

/-- The proleptic Gregorian date of a day counted from 1970-01-01; years begin in March. -/
def ofDays (days : Int) : Civil :=
  let z := days + 719468
  let era := z.fdiv 146097
  let doe := (z.fmod 146097).toNat
  let yoe := (doe - doe / 1460 + doe / 36524 - doe / 146096) / 365
  let doy := doe - (365 * yoe + yoe / 4 - yoe / 100)
  let mp := (5 * doy + 2) / 153
  let month := if mp < 10 then mp + 3 else mp - 9
  { year := (yoe : Int) + era * 400 + (if month ≤ 2 then 1 else 0)
    month := month
    day := doy - (153 * mp + 2) / 5 + 1 }

def toDays (c : Civil) : Int :=
  let year := if c.month ≤ 2 then c.year - 1 else c.year
  let era := year.fdiv 400
  let yoe := (year.fmod 400).toNat
  let mp := if 2 < c.month then c.month - 3 else c.month + 9
  let doy := (153 * mp + 2) / 5 + c.day - 1
  era * 146097 + ((yoe * 365 + yoe / 4 - yoe / 100 + doy : Nat) : Int) - 719468

def isLeap (year : Int) : Bool :=
  year.fmod 4 == 0 && (year.fmod 100 != 0 || year.fmod 400 == 0)

def daysIn (year : Int) (month : Nat) : Nat :=
  if month = 2 then (if isLeap year then 29 else 28)
  else if month = 4 ∨ month = 6 ∨ month = 9 ∨ month = 11 then 30
  else 31

def digit (n : Nat) : Char := Char.ofNat (48 + n % 10)

def two (n : Nat) : List Char := [digit (n / 10), digit n]

def four (n : Nat) : List Char :=
  if n < 10000 then [digit (n / 1000), digit (n / 100), digit (n / 10), digit n]
  else (toString n).toList

/-- `YYYY-MM-DDThh:mm:ssZ` of a number of seconds from the Unix epoch. -/
def format (seconds : Int) : String :=
  let c := ofDays (seconds.fdiv 86400)
  let s := (seconds.fmod 86400).toNat
  let year := if c.year < 0 then '-' :: four c.year.natAbs else four c.year.natAbs
  String.ofList (year ++ '-' :: two c.month ++ '-' :: two c.day ++ 'T' :: two (s / 3600) ++
    ':' :: two (s / 60 % 60) ++ ':' :: two (s % 60) ++ ['Z'])

def digit? (c : Char) : Option Nat :=
  if 48 ≤ c.toNat ∧ c.toNat ≤ 57 then some (c.toNat - 48) else none

def number? : List Char → Option Nat
  | [] => some 0
  | cs => cs.foldlM (fun n c => (digit? c).map fun d => n * 10 + d) 0

/-- The text from the seconds on: an optional fraction, then `Z` or an offset. -/
def offset? (rest : List Char) : Option Int :=
  let rest := match rest with
    | '.' :: cs => if (cs.takeWhile Char.isDigit).isEmpty then rest else cs.dropWhile Char.isDigit
    | _ => rest
  match rest with
  | ['Z'] => some 0
  | [sign, h1, h2, ':', m1, m2] => do
    let hours ← number? [h1, h2]
    let minutes ← number? [m1, m2]
    if 24 < hours ∨ 60 ≤ minutes then none
    else
      match sign with
      | '+' => some (hours * 3600 + minutes * 60 : Int)
      | '-' => some (-(hours * 3600 + minutes * 60) : Int)
      | _ => none
  | _ => none

/-- Seconds from the Unix epoch, the fraction dropped. -/
def parse (text : String) : Option Int :=
  match text.toList with
  | y1 :: y2 :: y3 :: y4 :: '-' :: mo1 :: mo2 :: '-' :: d1 :: d2 :: 'T' :: h1 :: h2 :: ':' ::
      mi1 :: mi2 :: ':' :: s1 :: s2 :: rest => do
    let year ← number? [y1, y2, y3, y4]
    let month ← number? [mo1, mo2]
    let day ← number? [d1, d2]
    let hour ← number? [h1, h2]
    let minute ← number? [mi1, mi2]
    let second ← number? [s1, s2]
    let offset ← offset? rest
    if month < 1 ∨ 12 < month ∨ day < 1 ∨ daysIn year month < day ∨ 24 ≤ hour ∨ 60 ≤ minute ∨
        60 ≤ second then none
    else
      some (toDays ⟨year, month, day⟩ * 86400 + hour * 3600 + minute * 60 + second - offset)
  | _ => none

example : format 1773981000 = "2026-03-20T04:30:00Z" := by decide

/-! ## The calendar there and back -/

/-- The days of an era of 400 years before one of its years. -/
def yearStart (yoe : Nat) : Nat := 365 * yoe + yoe / 4 - yoe / 100

/-- The era has one day more than its last year's start tells. -/
def yearEnd (yoe : Nat) : Nat := if yoe = 399 then 146097 else yearStart (yoe + 1)

/-- The days of an era before a day, without the leap days. -/
def commonDays (doe : Nat) : Nat := doe - doe / 1460 + doe / 36524 - doe / 146096

theorem commonDays_mono {doe doe' : Nat} (h : doe ≤ doe') (hera : doe' < 146097) :
    commonDays doe ≤ commonDays doe' := by
  induction h with
  | refl => exact Nat.le_refl _
  | step h ih =>
    refine Nat.le_trans (ih (by omega)) ?_
    unfold commonDays
    omega

set_option maxRecDepth 4000 in
theorem year_spec : ∀ yoe < 400,
    yearStart yoe < yearEnd yoe ∧ yearEnd yoe ≤ 146097 ∧ 365 * yoe ≤ commonDays (yearStart yoe) ∧
      commonDays (yearEnd yoe - 1) < 365 * (yoe + 1) ∧
      yearEnd yoe = yearStart yoe + if isLeap (yoe + 1) then 366 else 365 := by decide

theorem exists_year {doe : Nat} (h : doe < 146097) :
    ∃ yoe < 400, yearStart yoe ≤ doe ∧ doe < yearEnd yoe := by
  induction doe with
  | zero => exact ⟨0, by decide, by decide, by decide⟩
  | succ doe ih =>
    obtain ⟨yoe, hyoe, hstart, hend⟩ := ih (by omega)
    by_cases hsame : doe + 1 < yearEnd yoe
    · exact ⟨yoe, hyoe, by omega, hsame⟩
    · -- the next year begins
      have hlast : yoe ≠ 399 := by
        rintro rfl
        exact hsame h
      have hnext : yearEnd yoe = yearStart (yoe + 1) := if_neg hlast
      have hspec := year_spec (yoe + 1) (by omega)
      exact ⟨yoe + 1, by omega, by omega, by omega⟩

/-- The year that `ofDays` finds is the one the day lies in. -/
theorem commonDays_div {doe : Nat} (h : doe < 146097) :
    commonDays doe / 365 < 400 ∧ yearStart (commonDays doe / 365) ≤ doe ∧
      doe < yearStart (commonDays doe / 365) +
        if isLeap ((commonDays doe / 365 : Nat) + 1) then 366 else 365 := by
  obtain ⟨yoe, hyoe, hstart, hend⟩ := exists_year h
  obtain ⟨-, hera, hlow, hhigh, hlength⟩ := year_spec yoe hyoe
  have hge := commonDays_mono hstart h
  have hle := commonDays_mono (Nat.le_sub_one_of_lt hend) (by omega)
  obtain rfl : commonDays doe / 365 = yoe := by omega
  exact ⟨hyoe, hstart, hlength ▸ hend⟩

/-- The month of a day of a year that begins in March. -/
def monthOf (doy : Nat) : Nat :=
  if (5 * doy + 2) / 153 < 10 then (5 * doy + 2) / 153 + 3 else (5 * doy + 2) / 153 - 9

def dayOf (doy : Nat) : Nat := doy - (153 * ((5 * doy + 2) / 153) + 2) / 5 + 1

set_option maxRecDepth 4000 in
theorem month_spec : ∀ doy < 366,
    1 ≤ monthOf doy ∧ monthOf doy ≤ 12 ∧ 1 ≤ dayOf doy ∧
      dayOf doy ≤ daysIn (if doy = 365 then 2000 else 2001) (monthOf doy) ∧
      (153 * (if 2 < monthOf doy then monthOf doy - 3 else monthOf doy + 9) + 2) / 5 +
        dayOf doy - 1 = doy ∧
      (doy = 365 → monthOf doy = 2) := by decide

theorem daysIn_le {year year' : Int} (h : isLeap year = true → isLeap year' = true) (month : Nat) :
    daysIn year month ≤ daysIn year' month := by
  unfold daysIn
  split
  · by_cases hyear : isLeap year = true
    · exact Nat.le_of_eq (by rw [if_pos hyear, if_pos (h hyear)])
    · rw [if_neg hyear]
      split <;> decide
  · exact Nat.le_refl _

structure Civil.Valid (c : Civil) : Prop where
  month_pos : 1 ≤ c.month
  month_le : c.month ≤ 12
  day_pos : 1 ≤ c.day
  day_le : c.day ≤ daysIn c.year c.month

/-- The date of a day of a year of an era. -/
def ofYearDay (era : Int) (yoe doy : Nat) : Civil :=
  ⟨yoe + era * 400 + (if monthOf doy ≤ 2 then 1 else 0), monthOf doy, dayOf doy⟩

theorem ofDays_eq (days : Int) : ofDays days =
    let doe := ((days + 719468).fmod 146097).toNat
    ofYearDay ((days + 719468).fdiv 146097) (commonDays doe / 365)
      (doe - yearStart (commonDays doe / 365)) := rfl

theorem isLeap_era (yoe : Nat) (era : Int) : isLeap (yoe + era * 400 + 1) = isLeap (yoe + 1) := by
  have hfmod : ∀ k : Int, k = 4 ∨ k = 100 ∨ k = 400 →
      (yoe + era * 400 + 1).fmod k = ((yoe : Int) + 1).fmod k := by
    rintro k (rfl | rfl | rfl) <;>
      rw [Int.fmod_eq_emod_of_nonneg _ (by decide), Int.fmod_eq_emod_of_nonneg _ (by decide)] <;>
      omega
  unfold isLeap
  rw [hfmod 4 (by decide), hfmod 100 (by decide), hfmod 400 (by decide)]

theorem valid_ofYearDay {era : Int} {yoe doy : Nat}
    (h : doy < if isLeap (yoe + 1) then 366 else 365) : (ofYearDay era yoe doy).Valid := by
  have hdoy : doy < 366 := by
    split at h <;> omega
  obtain ⟨hmonth, hmonth', hday, hday', -, hlast⟩ := month_spec doy hdoy
  refine ⟨hmonth, hmonth', hday, Nat.le_trans hday' (daysIn_le ?_ _)⟩
  by_cases hleap : doy = 365
  · intro _
    have hyear : isLeap (yoe + 1) = true := by
      by_contra hnot
      rw [if_neg hnot] at h
      omega
    unfold ofYearDay
    rw [hlast hleap, if_pos (by decide), isLeap_era]
    exact hyear
  · rw [if_neg hleap]
    intro hnot
    exact absurd hnot (by decide)

theorem toDays_ofYearDay {era : Int} {yoe doy : Nat} (hyoe : yoe < 400) (hdoy : doy < 366) :
    toDays (ofYearDay era yoe doy) = era * 146097 + (yearStart yoe + doy : Nat) - 719468 := by
  obtain ⟨-, -, -, -, hdays, -⟩ := month_spec doy hdoy
  have hyear : (if monthOf doy ≤ 2 then yoe + era * 400 + (if monthOf doy ≤ 2 then 1 else 0) - 1
      else yoe + era * 400 + (if monthOf doy ≤ 2 then 1 else 0)) = (yoe + era * 400 : Int) := by
    split <;> omega
  have hera : ((yoe : Int) + era * 400).fdiv 400 = era := by
    rw [Int.fdiv_eq_ediv_of_nonneg _ (by decide)]
    omega
  have hrest : (((yoe : Int) + era * 400).fmod 400).toNat = yoe := by
    rw [Int.fmod_eq_emod_of_nonneg _ (by decide)]
    omega
  unfold toDays ofYearDay yearStart
  simp only [hyear, hera, hrest, hdays]
  rw [Nat.mul_comm yoe]

theorem ofDays_spec (days : Int) : (ofDays days).Valid ∧ toDays (ofDays days) = days := by
  have hfmod : (days + 719468).fmod 146097 = (days + 719468) % 146097 :=
    Int.fmod_eq_emod_of_nonneg _ (by decide)
  have hfdiv : (days + 719468).fdiv 146097 = (days + 719468) / 146097 :=
    Int.fdiv_eq_ediv_of_nonneg _ (by decide)
  have hdoe : ((days + 719468).fmod 146097).toNat < 146097 := by
    omega
  have hrest : (((days + 719468).fmod 146097).toNat : Int) = (days + 719468) % 146097 := by
    omega
  obtain ⟨hyoe, hstart, hend⟩ := commonDays_div hdoe
  simp only [ofDays_eq]
  generalize ((days + 719468).fmod 146097).toNat = doe at *
  generalize commonDays doe / 365 = yoe at *
  have hdoy : doe - yearStart yoe < if isLeap (yoe + 1) then 366 else 365 :=
    (Nat.sub_lt_iff_lt_add' hstart).mpr hend
  have hdoy' : doe - yearStart yoe < 366 := by
    split at hdoy <;> omega
  refine ⟨valid_ofYearDay hdoy, ?_⟩
  have hdays : (days + 719468) / 146097 * 146097 + doe = days + 719468 := by
    omega
  rw [toDays_ofYearDay hyoe hdoy', hfdiv, Nat.add_sub_cancel' hstart, hdays]
  exact Int.add_sub_cancel days 719468

/-! ## The text there and back -/

theorem digit?_digit (n : Nat) : digit? (digit n) = some (n % 10) := by
  have hdigits : ∀ k < 10, digit? (Char.ofNat (48 + k)) = some k := by decide
  exact hdigits (n % 10) (Nat.mod_lt n (by decide))

theorem number?_two {n : Nat} (h : n < 100) : number? [digit (n / 10), digit n] = some n := by
  have hvalue : (0 * 10 + n / 10 % 10) * 10 + n % 10 = n := by omega
  simp only [number?, List.foldlM_cons, List.foldlM_nil, digit?_digit, Option.map_some,
    Option.bind_eq_bind, Option.bind_some, hvalue]
  rfl

theorem number?_four {n : Nat} (h : n < 10000) :
    number? [digit (n / 1000), digit (n / 100), digit (n / 10), digit n] = some n := by
  have hvalue : (((0 * 10 + n / 1000 % 10) * 10 + n / 100 % 10) * 10 + n / 10 % 10) * 10 +
      n % 10 = n := by omega
  simp only [number?, List.foldlM_cons, List.foldlM_nil, digit?_digit, Option.map_some,
    Option.bind_eq_bind, Option.bind_some, hvalue]
  rfl

/-- A time is read back from its text, before the year 10000. -/
theorem parse_format {seconds : Int} (hyear : 0 ≤ (ofDays (seconds.fdiv 86400)).year)
    (hyear' : (ofDays (seconds.fdiv 86400)).year < 10000) :
    parse (format seconds) = some seconds := by
  have hfmod : seconds.fmod 86400 = seconds % 86400 := Int.fmod_eq_emod_of_nonneg _ (by decide)
  have hfdiv : seconds.fdiv 86400 = seconds / 86400 := Int.fdiv_eq_ediv_of_nonneg _ (by decide)
  obtain ⟨⟨hmonth, hmonth', hday, hday'⟩, hdays⟩ := ofDays_spec (seconds.fdiv 86400)
  have hday'' : (ofDays (seconds.fdiv 86400)).day ≤ 31 := by
    refine Nat.le_trans hday' ?_
    unfold daysIn
    split
    · split <;> decide
    · split <;> decide
  unfold format
  generalize hc : ofDays (seconds.fdiv 86400) = c at *
  generalize hs : (seconds.fmod 86400).toNat = s
  have hs' : s < 86400 := by omega
  have hnat : ¬c.year < 0 := by omega
  have hfour : four c.year.natAbs = [digit (c.year.natAbs / 1000), digit (c.year.natAbs / 100),
      digit (c.year.natAbs / 10), digit c.year.natAbs] := if_pos (by omega)
  have hoffset : offset? ['Z'] = some 0 := rfl
  unfold parse
  simp only [hnat, if_false, hfour, String.toList_ofList, two, List.cons_append, List.nil_append]
  rw [number?_four (by omega), number?_two (by omega), number?_two (by omega),
    number?_two (by omega), number?_two (by omega), number?_two (by omega), hoffset]
  have hyear'' : (c.year.natAbs : Int) = c.year := Int.natAbs_of_nonneg hyear
  simp only [Option.bind_eq_bind, Option.bind_some, hyear'']
  rw [if_neg (by omega)]
  change some (toDays c * 86400 + _ + _ + _ - 0) = _
  rw [hdays]
  congr 1
  omega

end Rfc3339
