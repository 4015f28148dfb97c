import ValidatorWatch.Time.Calendar
/-!
# Days and dates correspond

Every day has a date that the calendar has, and the number of that date is
the day again. Both go by the parts of a day: the cycle of 400 years, the
century in it, the four years in that, the year in those, and the day of the
year.
-/

namespace ValidatorWatch.Time.Date

/-- A day of a year that begins in March has a month and a day of the month.
Only the last month, February, depends on the year. -/
theorem month_of_dayOfYear {n : Int} (hlow : 0 ≤ n) (hhigh : n ≤ 365) :
    let month := (5 * n + 2) / 153
    let day := n - (153 * month + 2) / 5 + 1
    0 ≤ month ∧ month ≤ 11 ∧ 1 ≤ day ∧
      (month = 11 → day ≤ 29 ∧ (n ≠ 365 → day ≤ 28)) ∧
      (month = 1 ∨ month = 3 ∨ month = 6 ∨ month = 8 → day ≤ 30) ∧ day ≤ 31 := by
  intro month day
  refine ⟨?_, ?_, ?_, fun _ => ⟨?_, fun _ => ?_⟩, ?_, ?_⟩ <;> omega

/-- A day by its parts. The last day of a long year is there only if no
century cuts that year short. -/
theorem ofDay_parts (day : Int) : ∃ cycle century quad year n : Int,
    day + epochShift = 146097 * cycle + 36524 * century + 1461 * quad + 365 * year + n ∧
    0 ≤ century ∧ century ≤ 3 ∧ 0 ≤ quad ∧ quad ≤ 24 ∧ 0 ≤ year ∧ year ≤ 3 ∧ 0 ≤ n ∧ n ≤ 365 ∧
    (n = 365 → year = 3 ∧ (quad = 24 → century = 3)) ∧
    let month := (5 * n + 2) / 153
    let number := 400 * cycle + 100 * century + 4 * quad + year
    ofDay day =
      { year := if 10 ≤ month then number + 1 else number
        month := ((month + 2) % 12 + 1).toNat
        day := (n - (153 * month + 2) / 5 + 1).toNat } := by
  let z := day + epochShift
  let r400 := z % 146097
  let century := min (r400 / 36524) 3
  let r100 := r400 - 36524 * century
  let r4 := r100 % 1461
  let year := min (r4 / 365) 3
  have hz : z = 146097 * (z / 146097) + r400 := (Int.mul_ediv_add_emod z 146097).symm
  have h400 : 0 ≤ r400 ∧ r400 < 146097 := by omega
  have hcentury : 0 ≤ century ∧ century ≤ 3 ∧ 0 ≤ r100 ∧ r100 ≤ 36524 ∧ (r100 = 36524 → century = 3) := by
    omega
  have h100 : r100 = 1461 * (r100 / 1461) + r4 := (Int.mul_ediv_add_emod r100 1461).symm
  have h4 : 0 ≤ r4 ∧ r4 ≤ 1460 := by omega
  have hyear : 0 ≤ year ∧ year ≤ 3 ∧ 0 ≤ r4 - 365 * year ∧ r4 - 365 * year ≤ 365 := by omega
  refine ⟨z / 146097, century, r100 / 1461, year, r4 - 365 * year, by omega, by omega, by omega, by omega,
    by omega, by omega, by omega, by omega, by omega, ?_, rfl⟩
  omega

/-- The number of the date of a day is that day. -/
theorem toDay_ofDay (day : Int) : (ofDay day).toDay = day := by
  obtain ⟨cycle, century, quad, year, n, hday, hc, hc', hq, hq', hy, hy', hn, hn', -, hdate⟩ := ofDay_parts day
  obtain ⟨hm, hm', hd, -⟩ := month_of_dayOfYear hn hn'
  dsimp only at hdate hm hm' hd
  rw [hdate, toDay]
  dsimp only
  generalize hmonth : (5 * n + 2) / 153 = month at *
  generalize hnumber : 400 * cycle + 100 * century + 4 * quad + year = number
  have hback : ((((month + 2) % 12 + 1).toNat : Int) + 9) % 12 = month := by omega
  have hsame : (if ((month + 2) % 12 + 1).toNat ≤ 2 then (if 10 ≤ month then number + 1 else number) - 1
      else if 10 ≤ month then number + 1 else number) = number := by
    split <;> split <;> omega
  have hday' : ((n - (153 * month + 2) / 5 + 1).toNat : Int) - 1 = n - (153 * month + 2) / 5 := by omega
  have h4 : number / 4 = 100 * cycle + 25 * century + quad := by omega
  have h100 : number / 100 = 4 * cycle + century := by omega
  have h400 : number / 400 = cycle := by omega
  rw [hback, hsame, hday', h4, h100, h400]
  omega

/-- A day has a date that the calendar has. -/
theorem valid_ofDay (day : Int) : (ofDay day).Valid := by
  obtain ⟨cycle, century, quad, year, n, hday, hc, hc', hq, hq', hy, hy', hn, hn', hlong, hdate⟩ := ofDay_parts day
  obtain ⟨hm, hm', hd, hfeb, hshort, hlongm⟩ := month_of_dayOfYear hn hn'
  dsimp only at hdate hm hm' hd hfeb hshort hlongm
  rw [hdate, Valid]
  dsimp only
  generalize hmonth : (5 * n + 2) / 153 = month at *
  refine ⟨by omega, by omega, by omega, ?_⟩
  rw [daysInMonth]
  split
  next h2 =>
    have hfeb := hfeb (by omega)
    have hnext : 10 ≤ month := by omega
    rw [if_pos hnext]
    split
    next => omega
    next hleap =>
      have hn : n ≠ 365 := by
        rintro rfl
        obtain ⟨rfl, hcentury⟩ := hlong rfl
        apply hleap
        simp only [isLeap, Bool.and_eq_true, Bool.or_eq_true, decide_eq_true_eq]
        omega
      have := hfeb.2 hn
      omega
  next h2 =>
    split
    next h30 =>
      simp only [Bool.or_eq_true, decide_eq_true_eq] at h30
      have := hshort (by omega)
      omega
    next => omega

end ValidatorWatch.Time.Date
