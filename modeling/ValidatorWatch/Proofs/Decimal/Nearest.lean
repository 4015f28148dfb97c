import Mathlib
import ValidatorWatch.Decimal.Shortest
/-!
# The nearest double

Reading a decimal number goes through fractions of natural numbers, and many
fractions have the same value. `nearestBits_congr` says that the value is all
that counts, and `Binary.IsDouble.nearestBits_eq` that a double is nearest to
its own value. So any text with the value of the shortest digits of a double
reads back as that double (`ofScientific_eq_of_shortest`).
-/

namespace ValidatorWatch.Decimal

theorem roundDiv_mul_left (tie : Tie) (c num den : Nat) (hc : 0 < c) :
    roundDiv tie (c * num) (c * den) = roundDiv tie num den := by
  have hlt (a b : Nat) : c * a < c * b ↔ a < b := Nat.mul_lt_mul_left hc
  have htwice : 2 * (c * num % (c * den)) = c * (2 * (num % den)) := by
    rw [Nat.mul_mod_mul_left, Nat.mul_left_comm]
  simp only [roundDiv, htwice, hlt, Nat.mul_div_mul_left _ _ hc]

/-- Rounding goes by the value of a fraction. -/
theorem roundDiv_congr {tie : Tie} {num den num' den' : Nat} (hd : 0 < den) (hd' : 0 < den')
    (h : num * den' = num' * den) : roundDiv tie num den = roundDiv tie num' den' := by
  calc roundDiv tie num den = roundDiv tie (den' * num) (den' * den) :=
        (roundDiv_mul_left tie den' num den hd').symm
    _ = roundDiv tie (den * num') (den * den') := by
        rw [Nat.mul_comm den' num, h, Nat.mul_comm num' den, Nat.mul_comm den' den]
    _ = roundDiv tie num' den' := roundDiv_mul_left tie den num' den' hd

theorem roundDiv_mul_right (tie : Tie) (n : Nat) {c : Nat} (hc : 0 < c) : roundDiv tie (n * c) c = n := by
  simp only [roundDiv, Nat.mul_mod_left, Nat.mul_div_cancel _ hc]
  rw [if_pos (by omega)]

theorem roundDiv_eq_zero {tie : Tie} {num den : Nat} (h : 2 * num < den) : roundDiv tie num den = 0 := by
  have hlt : num < den := by omega
  simp only [roundDiv, Nat.mod_eq_of_lt hlt, Nat.div_eq_of_lt hlt]
  rw [if_pos h]

/-- A whole power as a fraction. -/
theorem zpow_eq_div {a : ℚ} (ha : a ≠ 0) (e : Int) : a ^ e = a ^ e.toNat / a ^ (-e).toNat := by
  rw [← zpow_natCast, ← zpow_natCast, ← zpow_sub₀ ha]
  congr 1
  omega

variable {num den num' den' : Nat}

/-- The value of a fraction. -/
def ratio (num den : Nat) : ℚ := num / den

theorem ratio_pos (hn : 0 < num) (hd : 0 < den) : 0 < ratio num den := by
  unfold ratio
  positivity

theorem ratio_eq_iff (hd : 0 < den) (hd' : 0 < den') :
    ratio num den = ratio num' den' ↔ num * den' = num' * den := by
  rw [ratio, ratio, div_eq_div_iff (by positivity) (by positivity)]
  norm_cast

theorem scaleDown_le_iff (num : Nat) (hd : 0 < den) (e : Int) :
    (scaleDown num den e).2 ≤ (scaleDown num den e).1 ↔ (2 : ℚ) ^ e ≤ ratio num den := by
  rw [zpow_eq_div (by norm_num), ratio, div_le_div_iff₀ (by positivity) (by positivity)]
  simp only [scaleDown, Nat.pow_eq]
  norm_cast
  rw [Nat.mul_comm den]

theorem two_mul_scaleDown_lt_iff (num : Nat) (hd : 0 < den) (e : Int) :
    2 * (scaleDown num den e).1 < (scaleDown num den e).2 ↔ ratio num den < (2 : ℚ) ^ (e - 1) := by
  rw [zpow_sub_one₀ (by norm_num), zpow_eq_div (by norm_num) e, ratio, ← div_eq_mul_inv, div_div,
    div_lt_div_iff₀ (by positivity) (by positivity)]
  simp only [scaleDown, Nat.pow_eq]
  norm_cast
  rw [Nat.mul_comm 2, Nat.mul_assoc, Nat.mul_comm den]

/-- The mantissa exponent goes by the value of a fraction. -/
theorem mantissaExponent_eq (hn : 0 < num) (hd : 0 < den) :
    mantissaExponent num den = max (Int.log 2 (ratio num den) - 52) (-1074) := by
  have hq := ratio_pos hn hd
  have hnl : (2 : ℚ) ^ (num.log2 : Int) ≤ num := by
    exact_mod_cast Nat.log2_self_le hn.ne'
  have hnu : (num : ℚ) < 2 ^ ((num.log2 : Int) + 1) := by
    exact_mod_cast Nat.lt_log2_self
  have hdl : (2 : ℚ) ^ (den.log2 : Int) ≤ den := by
    exact_mod_cast Nat.log2_self_le hd.ne'
  have hdu : (den : ℚ) < 2 ^ ((den.log2 : Int) + 1) := by
    exact_mod_cast Nat.lt_log2_self
  have hlow : (num.log2 : Int) - den.log2 - 1 ≤ Int.log 2 (ratio num den) := by
    rw [← Int.zpow_le_iff_le_log (by norm_num) hq, ratio, le_div_iff₀ (by positivity)]
    calc ((2 : Nat) : ℚ) ^ ((num.log2 : Int) - den.log2 - 1) * den
        ≤ 2 ^ ((num.log2 : Int) - den.log2 - 1) * 2 ^ ((den.log2 : Int) + 1) := by
          push_cast; gcongr
      _ = 2 ^ (num.log2 : Int) := by
          rw [← zpow_add₀ (by norm_num)]; congr 1; ring
      _ ≤ num := hnl
  have hhigh : Int.log 2 (ratio num den) < (num.log2 : Int) - den.log2 + 1 := by
    rw [← Int.lt_zpow_iff_log_lt (by norm_num) hq, ratio, div_lt_iff₀ (by positivity)]
    calc (num : ℚ) < 2 ^ ((num.log2 : Int) + 1) := hnu
      _ = 2 ^ ((num.log2 : Int) - den.log2 + 1) * 2 ^ (den.log2 : Int) := by
          rw [← zpow_add₀ (by norm_num)]; congr 1; ring
      _ ≤ ((2 : Nat) : ℚ) ^ ((num.log2 : Int) - den.log2 + 1) * den := by
          push_cast; gcongr
  have hle := scaleDown_le_iff num hd ((num.log2 : Int) - den.log2)
  rw [show (2 : ℚ) = ((2 : Nat) : ℚ) by norm_num, Int.zpow_le_iff_le_log (by norm_num) hq] at hle
  simp only [mantissaExponent, hle]
  split <;> congr 1 <;> omega

/-- So does the nearest double. -/
theorem nearestBits_congr (hd : 0 < den) (hd' : 0 < den') (h : ratio num den = ratio num' den') :
    nearestBits num den = nearestBits num' den' := by
  have hcross := (ratio_eq_iff hd hd').1 h
  rcases Nat.eq_zero_or_pos num with rfl | hn
  · rw [Nat.zero_mul] at hcross
    obtain rfl : num' = 0 := by
      rcases Nat.mul_eq_zero.1 hcross.symm with h | h <;> omega
    simp [nearestBits]
  have hn' : 0 < num' := by
    rcases Nat.eq_zero_or_pos num' with rfl | hn'
    · rw [Nat.zero_mul] at hcross
      rcases Nat.mul_eq_zero.1 hcross with h | h <;> omega
    · exact hn'
  have he : mantissaExponent num den = mantissaExponent num' den' := by
    rw [mantissaExponent_eq hn hd, mantissaExponent_eq hn' hd', h]
  have hround (e : Int) : roundDiv .toEven (scaleDown num den e).1 (scaleDown num den e).2 =
      roundDiv .toEven (scaleDown num' den' e).1 (scaleDown num' den' e).2 := by
    simp only [scaleDown, Nat.pow_eq]
    refine roundDiv_congr (by positivity) (by positivity) ?_
    calc num * 2 ^ (-e).toNat * (den' * 2 ^ e.toNat)
        = num * den' * (2 ^ (-e).toNat * 2 ^ e.toNat) := by ring
      _ = num' * 2 ^ (-e).toNat * (den * 2 ^ e.toNat) := by rw [hcross]; ring
  simp only [nearestBits, he, hround, if_neg hn.ne', if_neg hn'.ne']

/-! ## Doubles -/

/-- The parts of a finite double: a mantissa of 53 bits, all of them used
unless the exponent is the least one. -/
structure Binary.IsDouble (b : Binary) : Prop where
  mantissa_lt : b.mantissa < 2 ^ 53
  least : -1074 ≤ b.exponent
  most : b.exponent ≤ 971
  full : b.exponent = -1074 ∨ 2 ^ 52 ≤ b.mantissa

namespace Binary

/-- The bits of a double without the sign. -/
def bits (b : Binary) : Nat :=
  (b.exponent + 1074).toNat * 2 ^ 52 + b.mantissa

variable {b : Binary} {x : Float}

theorem of_ofFloat? (h : ofFloat? x = some b) :
    b.IsDouble ∧ x.toBits.toNat = b.bits + if b.negative then 2 ^ 63 else 0 := by
  have hlt : x.toBits.toNat < 2 ^ 64 := x.toBits.toNat_lt
  simp only [ofFloat?, Nat.pow_eq, specialField] at h
  by_cases hs : x.toBits.toNat / 2 ^ 52 % 2 ^ 11 = 2047
  · rw [if_pos hs] at h
    cases h
  by_cases h0 : x.toBits.toNat / 2 ^ 52 % 2 ^ 11 = 0
  · rw [if_neg hs, if_pos h0] at h
    obtain rfl := Option.some.inj h
    refine ⟨⟨?_, ?_, ?_, .inl rfl⟩, ?_⟩
    · dsimp only; omega
    · dsimp only; omega
    · dsimp only; omega
    · simp only [bits, decide_eq_true_eq]
      split <;> omega
  · rw [if_neg hs, if_neg h0] at h
    obtain rfl := Option.some.inj h
    refine ⟨⟨?_, ?_, ?_, .inr ?_⟩, ?_⟩
    · dsimp only; omega
    · dsimp only; omega
    · dsimp only; omega
    · dsimp only; omega
    · simp only [bits, decide_eq_true_eq]
      split <;> omega

theorem den_pos : 0 < b.den := Nat.pow_pos (by decide)

/-- The absolute value. -/
theorem ratio_eq : ratio b.num b.den = b.mantissa * (2 : ℚ) ^ b.exponent := by
  rw [zpow_eq_div (by norm_num), ratio, num, den]
  push_cast [Nat.pow_eq]
  ring

namespace IsDouble

theorem mantissaExponent_eq (h : b.IsDouble) (hm : 0 < b.mantissa) :
    mantissaExponent b.num b.den = b.exponent := by
  have hlow : (2 : ℚ) ^ (b.mantissa.log2 : Int) ≤ b.mantissa := by
    exact_mod_cast Nat.log2_self_le hm.ne'
  have hhigh : (b.mantissa : ℚ) < 2 ^ ((b.mantissa.log2 : Int) + 1) := by
    exact_mod_cast Nat.lt_log2_self
  have hpos : 0 < ratio b.num b.den := by
    rw [ratio_eq]; positivity
  have hlog : Int.log 2 (ratio b.num b.den) = b.mantissa.log2 + b.exponent := by
    apply le_antisymm
    · rw [← Int.lt_add_one_iff, ← Int.lt_zpow_iff_log_lt (by norm_num) hpos, ratio_eq]
      calc (b.mantissa : ℚ) * 2 ^ b.exponent < 2 ^ ((b.mantissa.log2 : Int) + 1) * 2 ^ b.exponent := by
            gcongr
        _ = ((2 : Nat) : ℚ) ^ ((b.mantissa.log2 : Int) + b.exponent + 1) := by
            rw [← zpow_add₀ (by norm_num)]; push_cast; congr 1; ring
    · rw [← Int.zpow_le_iff_le_log (by norm_num) hpos, ratio_eq]
      calc ((2 : Nat) : ℚ) ^ ((b.mantissa.log2 : Int) + b.exponent)
          = 2 ^ (b.mantissa.log2 : Int) * 2 ^ b.exponent := by
            rw [← zpow_add₀ (by norm_num)]; push_cast; rfl
        _ ≤ b.mantissa * 2 ^ b.exponent := by gcongr
  have hbits : b.mantissa.log2 < 53 := (Nat.log2_lt hm.ne').2 h.mantissa_lt
  have hnum : 0 < b.num := Nat.mul_pos hm (Nat.pow_pos (by decide))
  rw [Decimal.mantissaExponent_eq hnum den_pos, hlog]
  rcases h.full with he | hfull
  · omega
  · have : 52 ≤ b.mantissa.log2 := (Nat.le_log2 hm.ne').2 hfull
    have := h.least
    omega

/-- A double is the nearest one to its own value. -/
theorem nearestBits_eq (h : b.IsDouble) : nearestBits b.num b.den = b.bits := by
  have hm := h.mantissa_lt
  have hleast := h.least
  have hmost := h.most
  rcases Nat.eq_zero_or_pos b.mantissa with h0 | hpos
  · have he : b.exponent = -1074 := h.full.resolve_right (by omega)
    simp [nearestBits, num, bits, h0, he]
  have hnum : b.num ≠ 0 := (Nat.mul_pos hpos (Nat.pow_pos (by decide))).ne'
  have hround : roundDiv .toEven (scaleDown b.num b.den b.exponent).1
      (scaleDown b.num b.den b.exponent).2 = b.mantissa := by
    rw [scaleDown, num, den, Nat.mul_assoc, Nat.mul_comm (Nat.pow 2 b.exponent.toNat)]
    exact roundDiv_mul_right _ _ (Nat.mul_pos (Nat.pow_pos (by decide)) (Nat.pow_pos (by decide)))
  simp only [nearestBits, if_neg hnum, h.mantissaExponent_eq hpos, hround, Nat.pow_eq, infinityBits, bits]
  omega

end IsDouble

end Binary

/-! ## Reading digits -/

theorem lt_ten_pow_digitCount (n : Nat) : n < 10 ^ digitCount n :=
  (Nat.length_toDigits_le_iff (by decide) Nat.length_toDigits_pos).1 (Nat.le_refl _)

theorem ten_pow_digitCount_le {n : Nat} (hn : 0 < n) : 10 ^ (digitCount n - 1) ≤ n := by
  rcases Nat.lt_or_ge 1 (digitCount n) with hc | hc
  · by_contra hlt
    have hle : digitCount n ≤ digitCount n - 1 :=
      (Nat.length_toDigits_le_iff (by decide) (by omega)).2 (by omega)
    omega
  · rw [show digitCount n - 1 = 0 by omega]
    omega

/-- What is less than half of the least double is nearest to zero. -/
theorem nearestBits_eq_zero (hn : 0 < num) (hd : 0 < den) (h : ratio num den < (2 : ℚ) ^ (-1075 : Int)) :
    nearestBits num den = 0 := by
  have hlog : Int.log 2 (ratio num den) < -1075 := by
    rw [← Int.lt_zpow_iff_log_lt (by norm_num) (ratio_pos hn hd)]
    exact_mod_cast h
  have he : mantissaExponent num den = -1074 := by
    rw [mantissaExponent_eq hn hd]
    omega
  have h' : ratio num den < (2 : ℚ) ^ ((-1074 : Int) - 1) := h
  have hhalf := (two_mul_scaleDown_lt_iff num hd (-1074)).2 h'
  rw [nearestBits, if_neg hn.ne']
  simp only [he, roundDiv_eq_zero hhalf]
  simp

/-- What is beyond the greatest double by far is nearest to infinity. -/
theorem nearestBits_eq_infinity (hn : 0 < num) (hd : 0 < den) (h : (2 : ℚ) ^ (1100 : Int) ≤ ratio num den) :
    nearestBits num den = infinityBits := by
  have hlog : 1100 ≤ Int.log 2 (ratio num den) := by
    rw [← Int.zpow_le_iff_le_log (by norm_num) (ratio_pos hn hd)]
    exact_mod_cast h
  have he : 1048 ≤ mantissaExponent num den := by
    rw [mantissaExponent_eq hn hd]
    omega
  rw [nearestBits, if_neg hn.ne']
  simp only [infinityBits, Nat.pow_eq]
  omega

/-- Powers of ten are beyond those of eight. -/
theorem two_zpow_le_ten_zpow {e : Int} (he : 0 ≤ e) : (2 : ℚ) ^ (3 * e) ≤ 10 ^ e := by
  rw [zpow_mul]
  exact zpow_le_zpow_left₀ he (by norm_num) (by norm_num)

theorem ten_zpow_le_two_zpow {e : Int} (he : e ≤ 0) : (10 : ℚ) ^ e ≤ 2 ^ (3 * e) := by
  have h := two_zpow_le_ten_zpow (e := -e) (by omega)
  rw [show 3 * -e = -(3 * e) by ring, zpow_neg, zpow_neg] at h
  exact (inv_le_inv₀ (by positivity) (by positivity)).1 h

/-- The fraction of a decimal number. -/
theorem ratio_decimal (n : Nat) (e : Int) :
    ratio (n * Nat.pow 10 e.toNat) (Nat.pow 10 (-e).toNat) = n * (10 : ℚ) ^ e := by
  rw [zpow_eq_div (by norm_num), ratio]
  push_cast [Nat.pow_eq]
  ring

/-- The short cuts for very small and very great numbers change nothing. -/
theorem ofScientific_eq (negative : Bool) (digits : Nat) (exponent : Int) :
    ofScientific negative digits exponent =
      nearest negative (digits * Nat.pow 10 exponent.toNat) (Nat.pow 10 (-exponent).toNat) := by
  have hden : 0 < Nat.pow 10 (-exponent).toNat := Nat.pow_pos (by decide)
  rcases Nat.eq_zero_or_pos digits with rfl | hpos
  · simp [ofScientific, nearest, nearestBits]
  have hnum : 0 < digits * Nat.pow 10 exponent.toNat := Nat.mul_pos hpos (Nat.pow_pos (by decide))
  simp only [ofScientific, hpos.ne', decide_false, Bool.false_or, decide_eq_true_eq]
  split
  next hsmall =>
    have hlt : ratio (digits * Nat.pow 10 exponent.toNat) (Nat.pow 10 (-exponent).toNat) <
        (2 : ℚ) ^ (-1075 : Int) := by
      have hcount : (digits : ℚ) < 10 ^ (digitCount digits : Int) := by
        exact_mod_cast lt_ten_pow_digitCount digits
      rw [ratio_decimal]
      calc (digits : ℚ) * 10 ^ exponent < 10 ^ (digitCount digits : Int) * 10 ^ exponent := by gcongr
        _ = 10 ^ (digitCount digits + exponent) := (zpow_add₀ (by norm_num) _ _).symm
        _ ≤ 2 ^ (3 * (digitCount digits + exponent)) := ten_zpow_le_two_zpow (by omega)
        _ ≤ 2 ^ (-1075 : Int) := zpow_le_zpow_right₀ (by norm_num) (by omega)
    rw [nearest, nearest, nearestBits_eq_zero hnum hden hlt]
    rfl
  next hsmall =>
    split
    next hgreat =>
      have hle : (2 : ℚ) ^ (1100 : Int) ≤
          ratio (digits * Nat.pow 10 exponent.toNat) (Nat.pow 10 (-exponent).toNat) := by
        have hcount : (10 : ℚ) ^ ((digitCount digits : Int) - 1) ≤ digits := by
          have h := ten_pow_digitCount_le hpos
          have hc : ((digitCount digits - 1 : Nat) : Int) = (digitCount digits : Int) - 1 := by
            have : 0 < digitCount digits := Nat.length_toDigits_pos
            omega
          rw [← hc]
          exact_mod_cast h
        rw [ratio_decimal]
        calc (2 : ℚ) ^ (1100 : Int) ≤ 2 ^ (3 * ((digitCount digits : Int) - 1 + exponent)) :=
              zpow_le_zpow_right₀ (by norm_num) (by omega)
          _ ≤ 10 ^ ((digitCount digits : Int) - 1 + exponent) := two_zpow_le_ten_zpow (by omega)
          _ = 10 ^ ((digitCount digits : Int) - 1) * 10 ^ exponent := zpow_add₀ (by norm_num) _ _
          _ ≤ digits * 10 ^ exponent := by gcongr
      rw [nearest, nearestBits_eq_infinity hnum hden hle]
    next => rfl

/-! ## Writing digits -/

theorem ratio_digits (d : Digits) : ratio d.num d.den = d.digits * (10 : ℚ) ^ d.exponent :=
  ratio_decimal d.digits d.exponent

theorem bits_expansion (b : Binary) : (expansion b).bits = nearestBits b.num b.den := by
  refine nearestBits_congr (Nat.pow_pos (by decide)) Binary.den_pos ?_
  rw [ratio_digits, Binary.ratio_eq, expansion]
  split
  next he =>
    simp only [zpow_zero, mul_one, Binary.num, Nat.cast_mul, Nat.pow_eq, Nat.cast_pow]
    rw [zpow_eq_div (by norm_num), show (-b.exponent).toNat = 0 by omega]
    simp
  next he =>
    have hk : ((-b.exponent).toNat : Int) = -b.exponent := by omega
    have hfive : ((5 : ℚ) ^ (-b.exponent).toNat) = 5 ^ (-b.exponent) := by
      rw [← zpow_natCast, hk]
    push_cast [Nat.pow_eq]
    rw [hfive, show (10 : ℚ) = 5 * 2 by norm_num, mul_zpow, zpow_neg]
    field_simp

/-- The shortest digits stand for the value that they were chosen for. -/
theorem bits_shortest (tie : Tie) (b : Binary) : (shortest tie b).bits = nearestBits b.num b.den := by
  rw [shortest]
  cases h : (shortestFrom tie b.num b.den (decimalExponent b.num b.den) 18 0).filter (readsBack b) with
  | none => exact bits_expansion b
  | some d => exact of_decide_eq_true (Option.filter_eq_some_iff.1 h).2

/-! ## Doubles and fractions -/

variable {b : Binary} {x : Float}

/-- The double nearest to a fraction is the one whose bits the fraction has. -/
theorem nearest_eq (h : Binary.ofFloat? x = some b) (hbits : nearestBits num den = b.bits) :
    nearest b.negative num den = x := by
  have hx := (Binary.of_ofFloat? h).2
  rw [nearest, hbits]
  simp only [Nat.pow_eq]
  rw [← hx, UInt64.ofNat_toNat, Float.ofBits_toBits]

/-- Digits that have the value of the shortest ones stand for the double. -/
theorem ofScientific_eq_of_shortest (tie : Tie) (h : Binary.ofFloat? x = some b) {digits : Nat}
    {exponent : Int} (hvalue : (digits : ℚ) * 10 ^ exponent =
      (shortest tie b).digits * 10 ^ (shortest tie b).exponent) :
    ofScientific b.negative digits exponent = x := by
  rw [ofScientific_eq]
  refine nearest_eq h ?_
  rw [← (Binary.of_ofFloat? h).1.nearestBits_eq, ← bits_shortest tie b]
  refine nearestBits_congr (Nat.pow_pos (by decide)) (Nat.pow_pos (by decide)) ?_
  rw [ratio_decimal, hvalue, ratio_digits]

/-- A double other than zero has digits other than zero. -/
theorem digits_shortest_pos (tie : Tie) (h : b.IsDouble) (hm : 0 < b.mantissa) :
    0 < (shortest tie b).digits := by
  by_contra hz
  have hbits := bits_shortest tie b
  rw [h.nearestBits_eq, Digits.bits, Digits.num, show (shortest tie b).digits = 0 by omega,
    Nat.zero_mul, nearestBits, if_pos rfl, Binary.bits] at hbits
  omega

open Float.Model Float.Model.UnpackedFloat in
theorem toNat_unpackExponent (v : BitVec 64) :
    (@unpackExponent Format.binary64 v).toNat = v.toNat / 2 ^ 52 % 2 ^ 11 := by
  simp [unpackExponent, Nat.shiftRight_eq_div_pow]

open Float.Model Float.Model.UnpackedFloat in
/-- The exponent field says whether a double is finite. -/
theorem isFinite_iff (x : Float) : x.isFinite = true ↔ x.toBits.toNat / 2 ^ 52 % 2 ^ 11 ≠ 2047 := by
  have h : @unpackExponent Format.binary64 x.toBits.toBitVec = -1#_ ↔ x.toBits.toNat / 2 ^ 52 % 2 ^ 11 = 2047 := by
    rw [← BitVec.toNat_inj, toNat_unpackExponent]
    rfl
  rw [ne_eq, ← h]
  show UnpackedFloat.isFinite (UnpackedFloat.unpack Format.binary64 x.toBits.toBitVec) = true ↔ _
  simp only [UnpackedFloat.unpack]
  split
  · split <;> simp_all [UnpackedFloat.isFinite]
  · split
    · split <;> simp_all [UnpackedFloat.isFinite]
    · simp_all [UnpackedFloat.isFinite]

theorem isSome_ofFloat?_iff : (Binary.ofFloat? x).isSome = true ↔ x.isFinite = true := by
  rw [isFinite_iff, Binary.ofFloat?]
  simp only [Nat.pow_eq, Binary.specialField]
  split
  next h => simp [h]
  next h => split <;> simp [h]

end ValidatorWatch.Decimal
