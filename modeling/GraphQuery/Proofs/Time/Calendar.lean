import GraphQuery.Time.Date
import Mathlib.Tactic.SplitIfs

/-!
# Calendar — counted days are days of the calendar

The date of a count of days lies in the year to which the count belongs (`Date.yearOf_spec`), and counting on
through the months of the year ends in one of them (`Date.monthDay_spec`).  So every count up to the end of
the year 9999 gives a date of the calendar (`Date.isValid_ofDays`).
-/

namespace GraphQuery
namespace Date

/-! ## Years -/

/-- Days of a year. -/
def yearLength (year : Nat) : Nat := if isLeap year then 366 else 365

theorem daysBeforeYear_succ (year : Nat) :
    daysBeforeYear (year + 1) = daysBeforeYear year + yearLength year := by
  have hfour : (year + 1 + 3) / 4 = (year + 3) / 4 + if year % 4 = 0 then 1 else 0 := by
    split_ifs <;> omega
  have hhundred : (year + 1 + 99) / 100 = (year + 99) / 100 + if year % 100 = 0 then 1 else 0 := by
    split_ifs <;> omega
  have hfourHundred : (year + 1 + 399) / 400 = (year + 399) / 400 + if year % 400 = 0 then 1 else 0 := by
    split_ifs <;> omega
  have hleap : isLeap year = true ↔ year % 4 = 0 ∧ (year % 100 ≠ 0 ∨ year % 400 = 0) := by
    simp [isLeap]
  have hcentury : (year + 99) / 100 ≤ year := by omega
  have hinclusion : year % 400 = 0 → year % 100 = 0 := by omega
  have hinclusion' : year % 100 = 0 → year % 4 = 0 := by omega
  rw [yearLength, daysBeforeYear, daysBeforeYear, hfour, hhundred, hfourHundred]
  simp only [hleap]
  -- With names for the quotients, what is left is the same sum in each of the four kinds of years.
  generalize (year + 3) / 4 = a
  generalize (year + 99) / 100 = b at hcentury
  generalize (year + 399) / 400 = c
  by_cases h400 : year % 400 = 0
  · have h100 := hinclusion h400
    have h4 := hinclusion' h100
    simp only [h400, h100, h4, if_true, true_and, or_true]
    omega
  · by_cases h100 : year % 100 = 0
    · have h4 := hinclusion' h100
      simp only [h400, h100, h4, if_true, if_false, true_and, ne_eq, not_true_eq_false, or_self]
      omega
    · by_cases h4 : year % 4 = 0
      · simp only [h400, h100, h4, if_true, if_false, true_and, ne_eq, not_false_eq_true, true_or]
        omega
      · simp only [h400, h100, h4, if_false, false_and]
        omega

/-- The years before a given one have as many days as four hundred years have in the mean, up to two. -/
theorem daysBeforeYear_bounds (year : Nat) :
    146097 * year ≤ 400 * daysBeforeYear year + 399 ∧
      400 * daysBeforeYear year ≤ 146097 * year + 699 := by
  rw [daysBeforeYear]
  omega

/-- The year of a count of days: the estimate, or one of its neighbours. -/
def yearOf (days : Nat) : Nat :=
  let estimate := days * 400 / 146097
  if days < daysBeforeYear estimate then estimate - 1
  else if daysBeforeYear (estimate + 1) ≤ days then estimate + 1
  else estimate

theorem yearOf_spec (days : Nat) :
    daysBeforeYear (yearOf days) ≤ days ∧ days < daysBeforeYear (yearOf days + 1) := by
  have hestimate : days * 400 / 146097 * 146097 ≤ days * 400 ∧
      days * 400 < days * 400 / 146097 * 146097 + 146097 := by omega
  rw [yearOf]
  generalize days * 400 / 146097 = estimate at hestimate
  have hbefore := daysBeforeYear_bounds (estimate - 1)
  have hafter := daysBeforeYear_bounds (estimate + 1 + 1)
  split_ifs with hlow hhigh
  · have hpos : 0 < estimate := by
      rcases Nat.eq_zero_or_pos estimate with rfl | hpos
      · exact absurd hlow (Nat.not_lt_zero _)
      · exact hpos
    rw [Nat.sub_add_cancel hpos]
    exact ⟨by omega, hlow⟩
  · exact ⟨hhigh, by omega⟩
  · exact ⟨by omega, by omega⟩

theorem yearOf_le {days : Nat} (h : days < 3652425) : yearOf days ≤ 9999 := by
  have hspec := (yearOf_spec days).1
  have hbounds := (daysBeforeYear_bounds (yearOf days)).1
  omega

/-! ## Months -/

/-- The days of a number of months in a row, from the given one on. -/
def monthsLength (year month : Nat) : Nat → Nat
  | 0 => 0
  | count + 1 => daysInMonth year month + monthsLength year (month + 1) count

theorem monthsLength_year (year : Nat) : monthsLength year 1 12 = yearLength year := by
  simp only [monthsLength, daysInMonth, yearLength]
  split_ifs <;> rfl

/-- Counting on through months ends in one of them, on one of its days. -/
theorem monthDay_spec {year fuel month days : Nat} (h : days < monthsLength year month (fuel + 1)) :
    month ≤ (monthDay year fuel month days).1 ∧ (monthDay year fuel month days).1 ≤ month + fuel ∧
      1 ≤ (monthDay year fuel month days).2 ∧
      (monthDay year fuel month days).2 ≤ daysInMonth year (monthDay year fuel month days).1 := by
  induction fuel generalizing month days with
  | zero =>
      have hdays : days < daysInMonth year month := h
      exact ⟨Nat.le_refl _, Nat.le_refl _, Nat.succ_pos _, hdays⟩
  | succ fuel ih =>
      rw [monthsLength] at h
      rw [monthDay]
      split_ifs with hthis
      · exact ⟨Nat.le_refl _, Nat.le_add_right _ _, Nat.succ_pos _, hthis⟩
      · have hrest : days - daysInMonth year month < monthsLength year (month + 1) (fuel + 1) := by omega
        rcases ih hrest with ⟨hlow, hhigh, hpos, hmax⟩
        exact ⟨by omega, by omega, hpos, hmax⟩

/-! ## Dates -/

theorem ofDays_eq (days : Nat) :
    ofDays days =
      let year := yearOf days
      let place := monthDay year 11 1 (days - daysBeforeYear year)
      ⟨year, place.1, place.2⟩ :=
  rfl

/-- A count of days before the year 10000 gives a day of the calendar. -/
theorem isValid_ofDays {days : Nat} (h : days < 3652425) : (ofDays days).isValid = true := by
  have hyear := yearOf_le h
  rcases yearOf_spec days with ⟨hlow, hhigh⟩
  rw [daysBeforeYear_succ] at hhigh
  have hrest : days - daysBeforeYear (yearOf days) < monthsLength (yearOf days) 1 12 := by
    rw [monthsLength_year]
    omega
  have hplace := monthDay_spec hrest
  rw [ofDays_eq]
  simp only [isValid, Bool.and_eq_true, decide_eq_true_eq]
  exact ⟨⟨⟨⟨hyear, hplace.1⟩, hplace.2.1⟩, hplace.2.2.1⟩, hplace.2.2.2⟩

end Date
end GraphQuery
