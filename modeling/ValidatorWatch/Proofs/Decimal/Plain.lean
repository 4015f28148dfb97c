import ValidatorWatch.Decimal.Literal
import ValidatorWatch.Proofs.Decimal.Nearest
import ValidatorWatch.Proofs.Text.Digits
/-!
# Plain figures

The plain text of a finite double is read back as that double. `Positional` is
a text without an exponent, with the digits and the power of ten that a reader
takes from it; what is written for the shortest digits is such a text, and has
their value.

Every count of 64 bits is nearest to some finite double
(`isFinite_ofScientific`).
-/

namespace ValidatorWatch.Decimal

open Text (AllDigits Starts natOfDigits natOfDigits_append natOfDigits_zeros natOfDigits_digitsText
  takeWhile_append dropWhile_append)

variable {negative : Bool} {ds text rest : List Char} {x : Float}

/-! ## Signs -/

theorem spanSign_of_digit {c : Char} (hc : c.isDigit = true) : spanSign (c :: rest) = (false, c :: rest) := by
  unfold spanSign
  split
  next h => cases (List.cons.inj h).1; exact absurd hc (by decide)
  next h => cases (List.cons.inj h).1; exact absurd hc (by decide)
  next => rfl

theorem spanSign_signed_cons {c : Char} (hc : c.isDigit = true) :
    spanSign (signed negative (c :: rest)) = (negative, c :: rest) := by
  cases negative with
  | true => rfl
  | false => exact spanSign_of_digit hc

/-! ## Points -/

/-- A point that leaves some digits behind it has digits before it, too. Only
a number below one has a zero in front. -/
theorem pointed_digitsText (n : Nat) {places : Nat} (hp : 0 < places) :
    ∃ whole back, pointed (digitsText n) places = whole ++ '.' :: back ∧ AllDigits whole ∧ AllDigits back ∧
      whole ≠ [] ∧ (0 < n → whole.head? = some '0' → whole = ['0']) ∧ back.length = places ∧
        natOfDigits (whole ++ back) = n := by
  have hne := digitsText_ne_nil n
  simp only [pointed, if_neg hp.ne']
  generalize hpad : List.replicate (places + 1 - (digitsText n).length) '0' ++ digitsText n = padded
  have hdigits : AllDigits padded := hpad ▸ (AllDigits.zeros _).append (AllDigits.digitsText n)
  have hlen : places + 1 ≤ padded.length := by
    rw [← hpad, List.length_append, List.length_replicate]; omega
  have hvalue : natOfDigits padded = n := by
    rw [← hpad, natOfDigits_append, natOfDigits_zeros, natOfDigits_digitsText, Nat.zero_mul, Nat.zero_add]
  refine ⟨_, _, rfl, hdigits.take _, hdigits.drop _, ?_, ?_, ?_, ?_⟩
  · rw [← List.length_pos_iff, List.length_take]; omega
  -- Zeros are put in front only if there are too few digits for the places.
  · intro hn hhead
    rcases Nat.lt_or_ge places (digitsText n).length with hlong | hshort
    · have hself : padded = digitsText n := by
        rw [← hpad, show places + 1 - (digitsText n).length = 0 by omega, List.replicate_zero, List.nil_append]
      rw [List.head?_take, if_neg (by omega), hself] at hhead
      exact absurd hhead (head_digitsText hn)
    · have hone : padded.length - places = 1 := by
        rw [← hpad, List.length_append, List.length_replicate]; omega
      rw [hone, ← hpad, show places + 1 - (digitsText n).length = (places - (digitsText n).length) + 1 by omega,
        List.replicate_succ]
      rfl
  · rw [List.length_drop]; omega
  · rw [List.take_append_drop, hvalue]

/-! ## Texts without an exponent -/

/-- A text without an exponent, its digits as a number, and the power of ten. -/
inductive Positional : List Char → Nat → Int → Prop
  | whole {ds : List Char} (hd : AllDigits ds) (hne : ds ≠ []) : Positional ds (natOfDigits ds) 0
  | point {front back : List Char} (hf : AllDigits front) (hne : front ≠ []) (hb : AllDigits back) :
    Positional (front ++ '.' :: back) (natOfDigits (front ++ back)) (-(back.length : Int))

namespace Positional

variable {n : Nat} {e : Int}

/-- It begins with a digit. -/
theorem head (h : Positional text n e) : ∃ c more, text = c :: more ∧ c.isDigit = true := by
  cases h with
  | whole hd hne =>
    obtain ⟨c, more, rfl⟩ := List.exists_cons_of_ne_nil hne
    exact ⟨c, more, rfl, hd c List.mem_cons_self⟩
  | point hf hne hb =>
    obtain ⟨c, more, rfl⟩ := List.exists_cons_of_ne_nil hne
    exact ⟨c, _, rfl, hf c List.mem_cons_self⟩

theorem digit_or_point (h : Positional text n e) : ∀ c ∈ text, c.isDigit = true ∨ c = '.' := by
  intro c hc
  cases h with
  | whole hd hne => exact .inl (hd c hc)
  | point hf hne hb =>
    rcases List.mem_append.1 hc with hc | hc
    · exact .inl (hf c hc)
    · rcases List.mem_cons.1 hc with rfl | hc
      · exact .inr rfl
      · exact .inl (hb c hc)

theorem readUnsigned? (h : Positional text n e) : readUnsigned? text = some (n, e) := by
  have hnil : Starts (fun c => !c.isDigit) [] := Starts.nil
  cases h with
  | whole hd hne =>
    have htake := takeWhile_append hd hnil
    have hdrop := dropWhile_append hd hnil
    rw [List.append_nil] at htake hdrop
    simp [Decimal.readUnsigned?, spanDigits, htake, hdrop, hne, readPower?]
  | point hf hne hb =>
    rename_i front back
    have htake := takeWhile_append hb hnil
    have hdrop := dropWhile_append hb hnil
    rw [List.append_nil] at htake hdrop
    have hpoint : Starts (fun c => !c.isDigit) ('.' :: back) := Starts.cons_iff.2 rfl
    simp [Decimal.readUnsigned?, spanDigits, takeWhile_append hf hpoint, dropWhile_append hf hpoint, htake, hdrop, hne,
      readPower?]

theorem readFloat?_signed (h : Positional text n e) :
    readFloat? (signed negative text) = some (ofScientific negative n e) := by
  obtain ⟨c, more, rfl, hc⟩ := h.head
  rw [readFloat?, spanSign_signed_cons hc]
  dsimp only
  rw [h.readUnsigned?]
  rfl

end Positional

/-- Digits that are written without an exponent are read with their value. -/
theorem positional_positional (d : Digits) :
    ∃ n e, Positional (positional d) n e ∧ (n : ℚ) * 10 ^ e = d.digits * 10 ^ d.exponent := by
  rw [positional]
  split
  next he =>
    refine ⟨_, _, .whole ((AllDigits.digitsText _).append (AllDigits.zeros _)) ?_, ?_⟩
    · simp [digitsText_ne_nil]
    · have he' : (10 : ℚ) ^ d.exponent = 10 ^ d.exponent.toNat := by
        rw [← zpow_natCast, Int.toNat_of_nonneg he]
      rw [natOfDigits_append, natOfDigits_digitsText, natOfDigits_zeros, List.length_replicate, he']
      push_cast
      ring
  next he =>
    obtain ⟨front, back, htext, hf, hb, hne, -, hlen, hvalue⟩ :=
      pointed_digitsText d.digits (show 0 < (-d.exponent).toNat by omega)
    rw [htext]
    refine ⟨_, _, .point hf hne hb, ?_⟩
    rw [hvalue, hlen, show -(((-d.exponent).toNat : Nat) : Int) = d.exponent by omega]

/-! ## Finite doubles -/

theorem ofScientific_zero {b : Binary} (h : Binary.ofFloat? x = some b) (hm : b.mantissa = 0) (e : Int) :
    ofScientific b.negative 0 e = x := by
  rw [ofScientific_eq]
  refine nearest_eq h ?_
  rw [← (Binary.of_ofFloat? h).1.nearestBits_eq, Binary.num, hm, nearestBits, nearestBits, if_pos (Nat.zero_mul _),
    if_pos (Nat.zero_mul _)]

/-- What is written for a finite double, sign and digits. -/
theorem plain_positional (h : x.isFinite = true) :
    ∃ negative text n e, (plain x).toList = signed negative text ∧ Positional text n e ∧
      ofScientific negative n e = x := by
  obtain ⟨b, hb⟩ := Option.isSome_iff_exists.1 (isSome_ofFloat?_iff.2 h)
  have htext : (plain x).toList =
      signed b.negative (if b.mantissa = 0 then ['0'] else positional (shortest .up b)) := by
    rw [plain, hb]
    exact String.toList_ofList
  rw [htext]
  split
  next hm =>
    exact ⟨_, _, _, _, rfl, .whole (AllDigits.zeros 1) (by simp), ofScientific_zero hb hm 0⟩
  next hm =>
    obtain ⟨n, e, hpos, hvalue⟩ := positional_positional (shortest .up b)
    exact ⟨_, _, n, e, rfl, hpos, ofScientific_eq_of_shortest .up hb hvalue⟩

/-- A finite double is read back from its plain text. -/
theorem readFloat?_plain (h : x.isFinite = true) : readFloat? (plain x).toList = some x := by
  obtain ⟨negative, text, n, e, htext, hpos, hx⟩ := plain_positional h
  rw [htext, hpos.readFloat?_signed, hx]

theorem plain_ne_nil (h : x.isFinite = true) : (plain x).toList ≠ [] := by
  obtain ⟨negative, text, n, e, htext, hpos, -⟩ := plain_positional h
  obtain ⟨c, more, rfl, -⟩ := hpos.head
  rw [htext]
  cases negative <;> simp [signed]

/-- The characters of a finite double. -/
theorem mem_plain (h : x.isFinite = true) {c : Char} (hc : c ∈ (plain x).toList) :
    c.isDigit = true ∨ c = '.' ∨ c = '-' := by
  obtain ⟨negative, text, n, e, htext, hpos, -⟩ := plain_positional h
  rw [htext] at hc
  cases negative with
  | true =>
    rcases List.mem_cons.1 hc with rfl | hc
    · exact .inr (.inr rfl)
    · exact (hpos.digit_or_point c hc).imp_right .inl
  | false => exact (hpos.digit_or_point c hc).imp_right .inl

/-! ## Counts -/

open Float.Model Float.Model.UnpackedFloat in
/-- Bits are kept as they are, unless they are those of no number. -/
theorem toBits_ofBits {bits : UInt64} (h : bits.toNat / 2 ^ 52 % 2 ^ 11 ≠ 2047) :
    (Float.ofBits bits).toBits = bits := by
  have hexponent : @unpackExponent Format.binary64 bits.toBitVec ≠ -1#_ := by
    rw [ne_eq, ← BitVec.toNat_inj, toNat_unpackExponent]
    exact h
  have hpack := @pack_unpack Format.binary64 bits.toBitVec (by decide)
  rw [isNaNBits, decide_eq_false (fun hnan => hexponent hnan.1), if_neg Bool.false_ne_true] at hpack
  show UInt64.ofBitVec (UnpackedFloat.pack Format.binary64 (unpack Format.binary64 bits.toBitVec)) = bits
  rw [hpack]

variable {num den : Nat}

theorem isFinite_nearest (negative : Bool) (h : nearestBits num den < infinityBits) :
    (nearest negative num den).isFinite = true := by
  rw [infinityBits, Nat.pow_eq] at h
  rw [nearest]
  generalize hsign : (if negative then Nat.pow 2 63 else 0) = sign
  have hbit : sign = 0 ∨ sign = 2 ^ 63 := by
    cases negative
    · exact .inl hsign.symm
    · exact .inr hsign.symm
  have hbits : (UInt64.ofNat (nearestBits num den + sign)).toNat = nearestBits num den + sign :=
    UInt64.toNat_ofNat_of_lt' (by rw [UInt64.size]; omega)
  have hfield : (UInt64.ofNat (nearestBits num den + sign)).toNat / 2 ^ 52 % 2 ^ 11 ≠ 2047 := by
    rw [hbits]
    omega
  rw [isFinite_iff, toBits_ofBits hfield]
  exact hfield

theorem roundDiv_le (tie : Tie) {bound : Nat} (hd : 0 < den) (h : num < bound * den) :
    roundDiv tie num den ≤ bound := by
  have hlt : num / den < bound := (Nat.div_lt_iff_lt_mul hd).2 h
  have hsucc : roundDiv tie num den ≤ num / den + 1 := by
    cases tie <;> simp only [roundDiv] <;> split_ifs <;> omega
  omega

theorem scaleDown_lt_iff (num : Nat) (hd : 0 < den) (e : Int) (k : Nat) :
    (scaleDown num den e).1 < 2 ^ k * (scaleDown num den e).2 ↔ ratio num den < (2 : ℚ) ^ (e + k) := by
  rw [zpow_add₀ (by norm_num), zpow_eq_div (by norm_num) e, zpow_natCast, ratio, div_mul_eq_mul_div,
    div_lt_div_iff₀ (by positivity) (by positivity)]
  simp only [scaleDown, Nat.pow_eq]
  norm_cast
  rw [Nat.mul_comm (2 ^ k), Nat.mul_comm den, Nat.mul_right_comm]

/-- Far enough below the greatest double there are only finite ones. -/
theorem nearestBits_lt (hn : 0 < num) (hd : 0 < den) (h : ratio num den < (2 : ℚ) ^ (1023 : Int)) :
    nearestBits num den < infinityBits := by
  have hlog : Int.log 2 (ratio num den) < 1023 := by
    rw [← Int.lt_zpow_iff_log_lt (by norm_num) (ratio_pos hn hd)]
    exact_mod_cast h
  have he := mantissaExponent_eq hn hd
  have hmantissa : ratio num den < (2 : ℚ) ^ (mantissaExponent num den + 53) := by
    calc ratio num den < ((2 : Nat) : ℚ) ^ (Int.log 2 (ratio num den) + 1) :=
          Int.lt_zpow_succ_log_self (by norm_num) _
      _ ≤ 2 ^ (mantissaExponent num den + 53) := by
          push_cast
          exact zpow_le_zpow_right₀ (by norm_num) (by omega)
  have hround : roundDiv .toEven (scaleDown num den (mantissaExponent num den)).1
      (scaleDown num den (mantissaExponent num den)).2 ≤ 2 ^ 53 := by
    refine roundDiv_le _ (Nat.mul_pos hd (Nat.pow_pos (by decide))) ?_
    exact (scaleDown_lt_iff num hd _ 53).2 hmantissa
  rw [nearestBits, if_neg hn.ne']
  simp only [infinityBits, Nat.pow_eq]
  omega

theorem isFinite_ofScientific (negative : Bool) {n : Nat} (h : n < 2 ^ 64) :
    (ofScientific negative n 0).isFinite = true := by
  rw [ofScientific_eq]
  refine isFinite_nearest _ ?_
  rcases Nat.eq_zero_or_pos n with rfl | hn
  · rw [Nat.zero_mul, nearestBits, if_pos rfl]
    decide
  · refine nearestBits_lt (Nat.mul_pos hn (Nat.pow_pos (by decide))) (Nat.pow_pos (by decide)) ?_
    have hcast : (n : ℚ) < 2 ^ (64 : Int) := by exact_mod_cast h
    rw [ratio_decimal, zpow_zero, mul_one]
    exact hcast.trans_le (zpow_le_zpow_right₀ (by norm_num) (by norm_num))

/-- A count of 64 bits is finite. -/
theorem isFinite_ofCount {n : Nat} (h : n < 2 ^ 64) : (ofCount n).isFinite = true := by
  have hn := isFinite_ofScientific false h
  rw [ofScientific_eq] at hn
  simpa [ofCount] using hn

end ValidatorWatch.Decimal
