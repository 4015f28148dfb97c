import Mathlib.Order.Monotone.Basic
import Mathlib.Tactic.IntervalCases
import ValidatorWatch.Proofs.Time.Calendar
/-!
# Dates in order

Dates are in the order of year, month and day, and the numbers of their days are
in the same order. Months are counted without a break across years, and each
begins so many days after the one before it as that one has.
-/

namespace ValidatorWatch.Time.Date

variable {d e : Date} {day : Int}

/-- Months since January of the year 0. -/
def monthNumber (d : Date) : Int :=
  12 * d.year + d.month - 1

/-- The number of the first day of a month. -/
def firstDay (month : Int) : Int :=
  toDay ⟨month / 12, (month % 12).toNat + 1, 1⟩

instance : LT Date :=
  ⟨fun d e => d.year < e.year ∨ d.year = e.year ∧ (d.month < e.month ∨ d.month = e.month ∧ d.day < e.day)⟩

theorem ext_iff : d = e ↔ d.year = e.year ∧ d.month = e.month ∧ d.day = e.day := by
  cases d
  cases e
  simp

theorem lt_def : d < e ↔
    d.year < e.year ∨ d.year = e.year ∧ (d.month < e.month ∨ d.month = e.month ∧ d.day < e.day) := Iff.rfl

theorem firstDay_of (year : Int) {month : Nat} (h : 1 ≤ month) (h' : month ≤ 12) :
    firstDay (12 * year + month - 1) = toDay ⟨year, month, 1⟩ := by
  have hyear : (12 * year + month - 1) / 12 = year := by omega
  have hmonth : ((12 * year + month - 1) % 12).toNat + 1 = month := by omega
  rw [firstDay, hyear, hmonth]

theorem toDay_nextMonth {year : Int} {month : Nat} (h : 1 ≤ month) (h' : month < 12) :
    toDay ⟨year, month + 1, 1⟩ = toDay ⟨year, month, 1⟩ + daysInMonth year month := by
  interval_cases month
  case «2» =>
    simp only [toDay, daysInMonth, isLeap]
    simp only [Bool.and_eq_true, Bool.or_eq_true, decide_eq_true_eq]
    split <;> simp <;> omega
  all_goals simp [toDay, daysInMonth]
  all_goals omega

theorem toDay_nextYear (year : Int) : toDay ⟨year + 1, 1, 1⟩ = toDay ⟨year, 12, 1⟩ + 31 := by
  simp [toDay]
  omega

/-- A month ends where the next one begins, also at the end of a year. -/
theorem firstDay_add_one (year : Int) {month : Nat} (h : 1 ≤ month) (h' : month ≤ 12) :
    firstDay (12 * year + month - 1 + 1) = firstDay (12 * year + month - 1) + daysInMonth year month := by
  rcases Nat.lt_or_eq_of_le h' with hlt | rfl
  · have hnext := firstDay_of year (Nat.le_add_left 1 month) hlt
    rw [show 12 * year + ((month + 1 : Nat) : Int) - 1 = 12 * year + month - 1 + 1 by omega] at hnext
    rw [hnext, firstDay_of year h h', toDay_nextMonth h hlt]
  · have hnext := firstDay_of (year + 1) (Nat.le_refl 1) (by decide)
    rw [show 12 * (year + 1) + ((1 : Nat) : Int) - 1 = 12 * year + (12 : Nat) - 1 + 1 by omega] at hnext
    rw [hnext, firstDay_of year h h', toDay_nextYear]
    rfl

/-- Later months begin later. -/
theorem firstDay_le {month later : Int} (h : month ≤ later) : firstDay month ≤ firstDay later := by
  refine monotone_int_of_le_succ (fun month => ?_) h
  have hmonth : month = 12 * (month / 12) + ((month % 12).toNat + 1 : Nat) - 1 := by omega
  rw [hmonth, firstDay_add_one _ (by omega) (by omega)]
  exact Int.le_add_of_nonneg_right (Int.natCast_nonneg _)

theorem toDay_eq (h : d.Valid) : d.toDay = firstDay d.monthNumber + (d.day - 1) := by
  rw [monthNumber, firstDay_of d.year h.1 h.2.1]
  simp only [toDay]
  omega

theorem toDay_lt_firstDay (h : d.Valid) : d.toDay < firstDay (d.monthNumber + 1) := by
  have hnext := firstDay_add_one d.year h.1 h.2.1
  have hday := h.2.2
  rw [toDay_eq h, monthNumber, hnext]
  omega

/-- Days are numbered in the order of their dates. -/
theorem toDay_lt_toDay_iff (hd : d.Valid) (he : e.Valid) : d.toDay < e.toDay ↔ d < e := by
  have hlt (d e : Date) (hd : d.Valid) (he : e.Valid) (h : d.monthNumber < e.monthNumber) : d.toDay < e.toDay := by
    have hfirst := firstDay_le (show d.monthNumber + 1 ≤ e.monthNumber from h)
    have hbefore := toDay_lt_firstDay hd
    have hafter := toDay_eq he
    have hday := he.2.2.1
    omega
  have horder : d < e ↔ d.monthNumber < e.monthNumber ∨ d.monthNumber = e.monthNumber ∧ d.day < e.day := by
    have hmonth := hd.1
    have hmonth' := hd.2.1
    have hmonthe := he.1
    have hmonthe' := he.2.1
    rw [lt_def, monthNumber, monthNumber]
    omega
  rw [horder]
  rcases Int.lt_trichotomy d.monthNumber e.monthNumber with h | h | h
  · simp only [hlt d e hd he h, h, true_or]
  · rw [toDay_eq hd, toDay_eq he, h]
    omega
  · have hback := hlt e d he hd h
    omega

/-- The date of an earlier day is earlier. -/
theorem ofDay_lt_ofDay_iff {m n : Int} : ofDay m < ofDay n ↔ m < n := by
  rw [← toDay_lt_toDay_iff (valid_ofDay m) (valid_ofDay n), toDay_ofDay, toDay_ofDay]

end ValidatorWatch.Time.Date
