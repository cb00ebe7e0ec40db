import Slan.Lib.Rfc3339

/-! # The days of the proleptic Gregorian calendar, counted year by year and month by month -/

namespace Calendar

open Rfc3339 (isLeap daysIn toDays)

def daysBeforeYear : Nat → Nat
  | 0 => 0
  | year + 1 => daysBeforeYear year + if isLeap year then 366 else 365

/-- The days of the year before one of its months. -/
def daysBeforeMonth (year : Nat) : Nat → Nat
  | 0 => 0
  | 1 => 0
  | month + 2 => daysBeforeMonth year (month + 1) + daysIn year (month + 1)

/-- Counted from 1970-01-01. -/
def dayNumber (year month day : Nat) : Int :=
  daysBeforeYear year + daysBeforeMonth year month + day - 1 - daysBeforeYear 1970

theorem isLeap_iff (year : Nat) :
    isLeap year = true ↔ year % 4 = 0 ∧ (year % 100 ≠ 0 ∨ year % 400 = 0) := by
  unfold isLeap
  rw [Int.fmod_eq_emod_of_nonneg _ (by decide), Int.fmod_eq_emod_of_nonneg _ (by decide),
    Int.fmod_eq_emod_of_nonneg _ (by decide)]
  simp only [Bool.and_eq_true, Bool.or_eq_true, beq_iff_eq, bne_iff_ne, ne_eq]
  omega

theorem daysBeforeYear_add (year : Nat) :
    daysBeforeYear year + (year + 99) / 100 = 365 * year + (year + 3) / 4 + (year + 399) / 400 := by
  induction year with
  | zero => rfl
  | succ year ih =>
    have hleap := isLeap_iff year
    unfold daysBeforeYear
    split
    · rename_i h
      have hyear := hleap.mp h
      omega
    · rename_i h
      have hyear := mt hleap.mpr h
      omega

/-- The days of a year before a month, from March on. -/
theorem daysBeforeMonth_eq {year month : Nat} (hmonth : 1 ≤ month) (hmonth' : month ≤ 12) :
    daysBeforeMonth year month =
      if month ≤ 2 then 31 * (month - 1)
      else (153 * (month - 3) + 2) / 5 + 59 + if isLeap year then 1 else 0 := by
  have hcases : month = 1 ∨ month = 2 ∨ month = 3 ∨ month = 4 ∨ month = 5 ∨ month = 6 ∨
      month = 7 ∨ month = 8 ∨ month = 9 ∨ month = 10 ∨ month = 11 ∨ month = 12 := by omega
  rcases hcases with rfl | rfl | rfl | rfl | rfl | rfl | rfl | rfl | rfl | rfl | rfl | rfl <;>
    cases h : isLeap year <;> simp [daysBeforeMonth, daysIn, h]

/-- The date's day in years that begin in March is its day in the calendar. -/
theorem toDays_eq_dayNumber {year month day : Nat} (hmonth : 1 ≤ month) (hmonth' : month ≤ 12)
    (hday : 1 ≤ day) : toDays ⟨year, month, day⟩ = dayNumber year month day := by
  have hbefore := daysBeforeYear_add year
  have hepoch := daysBeforeYear_add 1970
  have hleap := isLeap_iff year
  have hfdiv : ∀ y : Int, y.fdiv 400 = y / 400 := fun y =>
    Int.fdiv_eq_ediv_of_nonneg y (by decide)
  have hfmod : ∀ y : Int, y.fmod 400 = y % 400 := fun y =>
    Int.fmod_eq_emod_of_nonneg y (by decide)
  unfold dayNumber
  rw [daysBeforeMonth_eq hmonth hmonth']
  unfold toDays
  simp only [hfdiv, hfmod]
  by_cases hearly : month ≤ 2
  · simp only [hearly, if_true, if_neg (show ¬2 < month by omega)]
    omega
  · simp only [hearly, if_false, if_pos (show 2 < month by omega)]
    split
    · rename_i h
      have hyear := hleap.mp h
      omega
    · rename_i h
      have hyear := mt hleap.mpr h
      omega

end Calendar
