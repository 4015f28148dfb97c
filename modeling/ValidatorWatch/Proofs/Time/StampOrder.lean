import ValidatorWatch.Proofs.Time.Order
import ValidatorWatch.Proofs.Time.Stamp
/-!
# Stamps in order

Stamps with years of four digits, compared character by character, are in the
order of their instants. All their parts but the fraction have a fixed width,
and numbers of one width are in the order of their digits. Fractions have as many
digits as they need; the shorter of two is followed by the sign of the offset,
which comes before every digit.
-/

namespace ValidatorWatch.Text

variable {as bs cs ds rest rest' : List Char} {c d : Char}

theorem append_lt_append_iff (h : as.length = bs.length) :
    as ++ rest < bs ++ rest' ↔ as < bs ∨ as = bs ∧ rest < rest' := by
  induction as generalizing bs with
  | nil =>
    obtain rfl := List.length_eq_zero_iff.1 h.symm
    simp
  | cons c as ih =>
    obtain ⟨d, bs, rfl⟩ := List.exists_cons_of_length_eq_add_one h.symm
    have hlen : as.length = bs.length := by simpa using h
    simp only [List.cons_append, List.cons_lt_cons_iff, ih hlen, List.cons.injEq]
    grind

/-! ## Numbers in order -/

/-- What a digit stands for. -/
def digitValue (c : Char) : Nat :=
  c.toNat - '0'.toNat

theorem digitValue_lt_iff (hc : c.isDigit = true) (hd : d.isDigit = true) : c < d ↔ digitValue c < digitValue d := by
  rw [Char.isDigit_iff_toNat] at hc hd
  rw [Char.lt_def, UInt32.lt_iff_toNat_lt, digitValue, digitValue]
  show c.toNat < d.toNat ↔ _
  omega

theorem digitValue_inj (hc : c.isDigit = true) (hd : d.isDigit = true) : digitValue c = digitValue d ↔ c = d := by
  rw [Char.isDigit_iff_toNat] at hc hd
  rw [← Char.toNat_inj, digitValue, digitValue]
  omega

theorem digitValue_lt (hc : c.isDigit = true) : digitValue c < 10 := by
  rw [Char.isDigit_iff_toNat] at hc
  have hzero : '0'.toNat = 48 := rfl
  have hnine : '9'.toNat = 57 := rfl
  rw [digitValue]
  omega

theorem natOfDigits_cons (c : Char) (cs : List Char) :
    natOfDigits (c :: cs) = digitValue c * 10 ^ cs.length + natOfDigits cs := by
  have hone : natOfDigits [c] = digitValue c := by simp [natOfDigits, digitValue]
  rw [← hone, ← natOfDigits_append]
  rfl

theorem natOfDigits_lt (h : AllDigits cs) : natOfDigits cs < 10 ^ cs.length := by
  induction cs with
  | nil => decide
  | cons c cs ih =>
    obtain ⟨hc, hcs⟩ := List.forall_mem_cons.1 h
    have hrest := ih hcs
    have hfirst := Nat.mul_le_mul_right (10 ^ cs.length) (Nat.le_of_lt_succ (digitValue_lt hc))
    rw [natOfDigits_cons, List.length_cons, Nat.pow_succ]
    omega

/-- The first of two digits decides, and what follows only if they are equal. -/
theorem mul_add_lt_iff {base x y m n : Nat} (hm : m < base) (hn : n < base) :
    x * base + m < y * base + n ↔ x < y ∨ x = y ∧ m < n := by
  rcases Nat.lt_trichotomy x y with h | rfl | h
  · have hnext := Nat.mul_le_mul_right base (show x + 1 ≤ y from h)
    rw [Nat.add_mul] at hnext
    omega
  · omega
  · have hnext := Nat.mul_le_mul_right base (show y + 1 ≤ x from h)
    rw [Nat.add_mul] at hnext
    omega

/-- Digits of one length are in the order of their numbers. -/
theorem digits_lt_iff (hcs : AllDigits cs) (hds : AllDigits ds) (h : cs.length = ds.length) :
    cs < ds ↔ natOfDigits cs < natOfDigits ds := by
  induction cs generalizing ds with
  | nil =>
    obtain rfl := List.length_eq_zero_iff.1 h.symm
    simp
  | cons c cs ih =>
    obtain ⟨d, ds, rfl⟩ := List.exists_cons_of_length_eq_add_one h.symm
    obtain ⟨hc, hcs⟩ := List.forall_mem_cons.1 hcs
    obtain ⟨hd, hds⟩ := List.forall_mem_cons.1 hds
    have hlen : cs.length = ds.length := by simpa using h
    rw [List.cons_lt_cons_iff, ih hcs hds hlen, natOfDigits_cons, natOfDigits_cons, hlen,
      mul_add_lt_iff (hlen ▸ natOfDigits_lt hcs) (natOfDigits_lt hds), digitValue_lt_iff hc hd, digitValue_inj hc hd]

/-- The number of a fraction with so many places. -/
def atPlaces (places : Nat) (digits : List Char) : Nat :=
  natOfDigits digits * 10 ^ (places - digits.length)

theorem atPlaces_cons (places : Nat) (c : Char) (cs : List Char) (h : cs.length ≤ places) :
    atPlaces (places + 1) (c :: cs) = digitValue c * 10 ^ places + atPlaces places cs := by
  have hplaces : places + 1 - (cs.length + 1) = places - cs.length := by omega
  have hpow : 10 ^ cs.length * 10 ^ (places - cs.length) = 10 ^ places := by
    rw [← Nat.pow_add]
    congr 1
    omega
  rw [atPlaces, atPlaces, natOfDigits_cons, List.length_cons, hplaces, Nat.add_mul, Nat.mul_assoc, hpow]

theorem atPlaces_lt (hcs : AllDigits cs) {places : Nat} (h : cs.length ≤ places) :
    atPlaces places cs < 10 ^ places := by
  have hpow : 10 ^ cs.length * 10 ^ (places - cs.length) = 10 ^ places := by
    rw [← Nat.pow_add]
    congr 1
    omega
  rw [atPlaces, ← hpow]
  exact Nat.mul_lt_mul_of_pos_right (natOfDigits_lt hcs) (Nat.pow_pos (by decide))

/-- Of two fractions with a mark behind them that comes before every digit the
lesser one comes first, and of equal ones the shorter. -/
theorem fraction_lt_iff {mark : Char} (hmark : ∀ c : Char, c.isDigit = true → mark < c) {places : Nat}
    (hcs : AllDigits cs) (hds : AllDigits ds) (hc : cs.length ≤ places) (hd : ds.length ≤ places) :
    cs ++ mark :: rest < ds ++ mark :: rest ↔
      atPlaces places cs < atPlaces places ds ∨
        atPlaces places cs = atPlaces places ds ∧ cs.length < ds.length := by
  have hnil (places : Nat) : atPlaces places [] = 0 := by simp [atPlaces, natOfDigits]
  induction cs generalizing ds places with
  | nil =>
    rw [hnil]
    cases ds with
    | nil =>
      rw [hnil]
      simp
    | cons d ds =>
      have hfirst := hmark d (hds d List.mem_cons_self)
      simp only [List.nil_append, List.cons_append, List.cons_lt_cons_iff, hfirst, true_or, true_iff, List.length_nil,
        List.length_cons]
      omega
  | cons c cs ih =>
    obtain ⟨hfirst, hcs⟩ := List.forall_mem_cons.1 hcs
    cases ds with
    | nil =>
      have hafter := hmark c hfirst
      have hnot : ¬ (c < mark ∨ c = mark ∧ cs ++ mark :: rest < rest) :=
        fun h => h.elim (Char.lt_asymm hafter) fun h => Char.ne_of_lt hafter h.1.symm
      rw [hnil]
      simp only [List.nil_append, List.cons_append, List.cons_lt_cons_iff, hnot, false_iff, List.length_nil,
        List.length_cons]
      omega
    | cons d ds =>
      obtain ⟨hfirst', hds⟩ := List.forall_mem_cons.1 hds
      obtain ⟨places, rfl⟩ : ∃ p, places = p + 1 := ⟨places - 1, by simp at hc; omega⟩
      have hc : cs.length ≤ places := by simpa using hc
      have hd : ds.length ≤ places := by simpa using hd
      have hlt := mul_add_lt_iff (x := digitValue c) (y := digitValue d) (atPlaces_lt hcs hc) (atPlaces_lt hds hd)
      have hgt := mul_add_lt_iff (x := digitValue d) (y := digitValue c) (atPlaces_lt hds hd) (atPlaces_lt hcs hc)
      have hrest : cs ++ mark :: rest < ds ++ mark :: rest ↔ _ := ih hcs hds hc hd
      rw [List.cons_append, List.cons_append, List.cons_lt_cons_iff, hrest, digitValue_lt_iff hfirst hfirst',
        ← digitValue_inj hfirst hfirst', atPlaces_cons _ _ _ hc, atPlaces_cons _ _ _ hd, List.length_cons,
        List.length_cons]
      omega

end ValidatorWatch.Text

namespace ValidatorWatch.Time

open Text (AllDigits natOfDigits append_lt_append_iff digits_lt_iff atPlaces fraction_lt_iff)

variable {m n width : Nat} {rest rest' : List Char}

/-! ## Parts of stamps -/

/-- Numbers of a fixed width are in their order. -/
theorem padded_append_lt_iff (hw : 0 < width) (hm : m < 10 ^ width) (hn : n < 10 ^ width) :
    padded width m ++ rest < padded width n ++ rest' ↔ m < n ∨ m = n ∧ rest < rest' := by
  have hlen : (padded width m).length = (padded width n).length := by
    rw [length_padded hw hm, length_padded hw hn]
  have hinj : padded width m = padded width n ↔ m = n :=
    ⟨fun h => by rw [← natOfDigits_padded width m, h, natOfDigits_padded], fun h => by rw [h]⟩
  rw [append_lt_append_iff hlen, digits_lt_iff (allDigits_padded width m) (allDigits_padded width n) hlen,
    natOfDigits_padded, natOfDigits_padded, hinj]

/-- The digits of a fraction that is not zero. -/
theorem exists_fractionDigits (h : 0 < n) (h' : n < 1000000000) :
    ∃ ds, fractionText n = '.' :: ds ∧ AllDigits ds ∧ ds.length ≤ 9 ∧ atPlaces 9 ds = n := by
  have hpart (width m : Nat) (hw : 0 < width) (hw' : width ≤ 9) (hm : m < 10 ^ width) :
      (padded width m).length ≤ 9 ∧ atPlaces 9 (padded width m) = m * 10 ^ (9 - width) := by
    rw [atPlaces, natOfDigits_padded, length_padded hw hm]
    exact ⟨hw', rfl⟩
  have hzero : n ≠ 0 := by omega
  rw [fractionText, if_neg hzero]
  split
  next =>
    obtain ⟨hlen, hvalue⟩ := hpart 3 (n / 1000000) (by decide) (by decide) (by omega)
    exact ⟨_, rfl, allDigits_padded _ _, hlen, by omega⟩
  next =>
    split
    next =>
      obtain ⟨hlen, hvalue⟩ := hpart 6 (n / 1000) (by decide) (by decide) (by omega)
      exact ⟨_, rfl, allDigits_padded _ _, hlen, by omega⟩
    next =>
      obtain ⟨hlen, hvalue⟩ := hpart 9 n (by decide) (by decide) (by omega)
      exact ⟨_, rfl, allDigits_padded _ _, hlen, by omega⟩

/-- Fractions of a second are in order with the sign of the offset behind them,
however many digits they have. -/
theorem fractionText_lt_iff (hm : m < 1000000000) (hn : n < 1000000000) :
    fractionText m ++ '+' :: rest < fractionText n ++ '+' :: rest ↔ m < n := by
  have hplus (c : Char) (hc : c.isDigit = true) : '+' < c := by
    rw [Char.isDigit_iff_toNat] at hc
    exact UInt32.lt_iff_toNat_lt.2 (Nat.lt_of_lt_of_le (by decide) hc.1)
  rcases Nat.eq_zero_or_pos m with rfl | hm0 <;> rcases Nat.eq_zero_or_pos n with rfl | hn0
  · simp
  · obtain ⟨ds, hds, -⟩ := exists_fractionDigits hn0 hn
    rw [hds]
    simp [fractionText, List.cons_lt_cons_iff, hn0]
  · obtain ⟨ds, hds, -⟩ := exists_fractionDigits hm0 hm
    rw [hds]
    simp [fractionText, List.cons_lt_cons_iff]
  · obtain ⟨cs, hcs, hcdigits, hclen, hcvalue⟩ := exists_fractionDigits hm0 hm
    obtain ⟨ds, hds, hddigits, hdlen, hdvalue⟩ := exists_fractionDigits hn0 hn
    have hlen : m = n → cs.length = ds.length := by
      rintro rfl
      rw [hcs] at hds
      rw [(List.cons.inj hds).2]
    rw [hcs, hds, List.cons_append, List.cons_append, List.cons_lt_cons_self,
      fraction_lt_iff hplus hcdigits hddigits hclen hdlen, hcvalue, hdvalue]
    omega

namespace Instant

/-- Years that are written with four digits. -/
def InFourDigits (t : Instant) : Prop :=
  0 ≤ t.date.year ∧ t.date.year ≤ 9999

variable {t u : Instant}

/-- Instants neither of which is earlier are the same. -/
theorem eq_of_not_lt (h : ¬ t < u) (h' : ¬ u < t) : t = u := by
  rw [lt_def] at h h'
  exact ext_parts (by omega) (by omega)

/-- The date of an instant decides, and the time of day only if it is the same. -/
theorem date_lt_or_iff {p : Prop} :
    t.date < u.date ∨ t.date = u.date ∧ p ↔ t.second / 86400 < u.second / 86400 ∨
      t.second / 86400 = u.second / 86400 ∧ p := by
  have hinj : t.date = u.date ↔ t.second / 86400 = u.second / 86400 :=
    ⟨fun h => by rw [← Date.toDay_ofDay (t.second / 86400), ← Date.toDay_ofDay (u.second / 86400)]; exact congrArg _ h,
      fun h => congrArg Date.ofDay h⟩
  rw [hinj, date, date, Date.ofDay_lt_ofDay_iff]

/-- Hour, minute and second decide, and the fraction only if they are the same. In
a leap second the second is sixty. -/
theorem time_lt_iff :
    t.secondOfDay / 3600 < u.secondOfDay / 3600 ∨ t.secondOfDay / 3600 = u.secondOfDay / 3600 ∧
      (t.secondOfDay / 60 % 60 < u.secondOfDay / 60 % 60 ∨ t.secondOfDay / 60 % 60 = u.secondOfDay / 60 % 60 ∧
        (t.secondOfDay % 60 + t.nanos / 1000000000 < u.secondOfDay % 60 + u.nanos / 1000000000 ∨
          t.secondOfDay % 60 + t.nanos / 1000000000 = u.secondOfDay % 60 + u.nanos / 1000000000 ∧
            t.nanos % 1000000000 < u.nanos % 1000000000)) ↔
      t.secondOfDay < u.secondOfDay ∨ t.secondOfDay = u.secondOfDay ∧ t.nanos < u.nanos := by
  have htn := t.nanos_lt
  have hun := u.nanos_lt
  have hleap (t : Instant) : 1000000000 ≤ t.nanos → t.secondOfDay % 60 = 59 := by
    have hlast := t.leap_at
    rw [secondOfDay]
    omega
  have htleap := hleap t
  have huleap := hleap u
  omega

/-- The parts of a stamp fit their widths. -/
theorem parts_fit (h : t.InFourDigits) :
    t.date.year.toNat < 10 ^ 4 ∧ t.date.month < 10 ^ 2 ∧ t.date.day < 10 ^ 2 ∧ t.secondOfDay / 3600 < 10 ^ 2 ∧
      t.secondOfDay / 60 % 60 < 10 ^ 2 ∧ t.secondOfDay % 60 + t.nanos / 1000000000 < 10 ^ 2 := by
  have hdate : t.date.Valid := Date.valid_ofDay _
  have hmonth := hdate.2.1
  have hday := hdate.2.2.2
  have hdays : daysInMonth t.date.year t.date.month ≤ 31 := by
    rw [daysInMonth]
    split <;> split <;> omega
  have hnanos := t.nanos_lt
  have hsecond : t.secondOfDay < 86400 := by
    rw [secondOfDay]
    omega
  have hfour := h.2
  omega

/-- Stamps of years with four digits are in the order of their instants. -/
theorem offsetStamp_lt_iff (ht : t.InFourDigits) (hu : u.InFourDigits) : t.offsetStamp < u.offsetStamp ↔ t < u := by
  have hyear {t : Instant} (h : t.InFourDigits) : yearText t.date.year = padded 4 t.date.year.toNat := by
    rw [yearText, if_pos (by simpa [InFourDigits] using h)]
  obtain ⟨hty, htm, htd, hth, htmin, hts⟩ := parts_fit ht
  obtain ⟨huy, hum, hud, huh, humin, hus⟩ := parts_fit hu
  have htn := Nat.mod_lt t.nanos (show 0 < 1000000000 by decide)
  have hun := Nat.mod_lt u.nanos (show 0 < 1000000000 by decide)
  have hoffset : "+00:00".toList = '+' :: "00:00".toList := rfl
  -- Part by part, what is equal leaves the comparison to what follows.
  rw [String.lt_iff]
  simp only [offsetStamp, hoffset, String.toList_ofList, localText, hyear ht, hyear hu,
    List.append_assoc, List.cons_append,
    padded_append_lt_iff (show 0 < 4 by decide) hty huy, padded_append_lt_iff (show 0 < 2 by decide) htm hum,
    padded_append_lt_iff (show 0 < 2 by decide) htd hud, padded_append_lt_iff (show 0 < 2 by decide) hth huh,
    padded_append_lt_iff (show 0 < 2 by decide) htmin humin, padded_append_lt_iff (show 0 < 2 by decide) hts hus,
    fractionText_lt_iff htn hun, List.cons_lt_cons_self]
  rw [time_lt_iff]
  have hdate : t.date.year.toNat < u.date.year.toNat ∨ t.date.year.toNat = u.date.year.toNat ∧
      (t.date.month < u.date.month ∨ t.date.month = u.date.month ∧
        (t.date.day < u.date.day ∨ t.date.day = u.date.day ∧
          (t.secondOfDay < u.secondOfDay ∨ t.secondOfDay = u.secondOfDay ∧ t.nanos < u.nanos))) ↔
      t.date < u.date ∨ t.date = u.date ∧
        (t.secondOfDay < u.secondOfDay ∨ t.secondOfDay = u.secondOfDay ∧ t.nanos < u.nanos) := by
    have htfour := ht.1
    have hufour := hu.1
    rw [Date.lt_def, Date.ext_iff]
    omega
  rw [hdate, date_lt_or_iff, lt_def, secondOfDay, secondOfDay]
  omega

end Instant

end ValidatorWatch.Time
