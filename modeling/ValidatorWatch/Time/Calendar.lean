/-!
# Days and dates

The Gregorian calendar as a numbering of days. Day 0 is 1 January 1970. Years are counted from
March, so that a leap day is the last day of its year and every cycle of 4, 100 and 400 years has
its long year at the end.
-/

namespace ValidatorWatch.Time

/-- A day of the Gregorian calendar. -/
structure Date where
  year : Int
  month : Nat
  day : Nat
  deriving DecidableEq

/-- Divisible by 4, except centuries that are not divisible by 400. -/
def isLeap (year : Int) : Bool :=
  year % 4 = 0 && (year % 100 ≠ 0 || year % 400 = 0)

/-- How many days a month has. -/
def daysInMonth (year : Int) (month : Nat) : Nat :=
  if month = 2 then if isLeap year then 29 else 28
  else if month = 4 || month = 6 || month = 9 || month = 11 then 30
  else 31

/-- Days from 1 March of year 0 to 1 January 1970. -/
def epochShift : Int := 719468

namespace Date

/-- A date that the calendar has. -/
def Valid (d : Date) : Prop :=
  1 ≤ d.month ∧ d.month ≤ 12 ∧ 1 ≤ d.day ∧ d.day ≤ daysInMonth d.year d.month

instance (d : Date) : Decidable d.Valid :=
  inferInstanceAs (Decidable (_ ∧ _ ∧ _ ∧ _))

/-- The number of the day. -/
def toDay (d : Date) : Int :=
  let year := if d.month ≤ 2 then d.year - 1 else d.year
  let month : Int := (d.month + 9) % 12
  let dayOfYear := (153 * month + 2) / 5 + (d.day - 1)
  365 * year + year / 4 - year / 100 + year / 400 + dayOfYear - epochShift

/-- The date of a day. Whole cycles of 400, 100 and 4 years and then single years are taken off; the
last century of 400 years and the last year of four are a day longer than the others. -/
def ofDay (day : Int) : Date :=
  let z := day + epochShift
  let r400 := z % 146097
  let centuries := min (r400 / 36524) 3
  let r100 := r400 - 36524 * centuries
  let r4 := r100 % 1461
  let years := min (r4 / 365) 3
  let dayOfYear := r4 - 365 * years
  let month := (5 * dayOfYear + 2) / 153
  let dayOfMonth := dayOfYear - (153 * month + 2) / 5 + 1
  let year := 400 * (z / 146097) + 100 * centuries + 4 * (r100 / 1461) + years
  { year := if 10 ≤ month then year + 1 else year
    month := ((month + 2) % 12 + 1).toNat
    day := dayOfMonth.toNat }

end Date

end ValidatorWatch.Time
