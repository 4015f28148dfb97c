import ValidatorWatch.Document.Json
import ValidatorWatch.Proofs.Decimal.Plain
/-!
# Numbers in JSON

What is written for a whole number of 64 bits or for a finite double is read
back as the same number. A double is written in one of four forms, by the size
of its shortest digits. `unsigned?_point` and `unsigned?_power` say what is
read from texts with a point and with a power of ten, and each form has the
value of the shortest digits.
-/

namespace ValidatorWatch.Document.Json

open Decimal (Binary digitsText ofScientific shortest)
open Text (AllDigits Starts natOfDigits natOfDigits_append natOfDigits_zeros natOfDigits_digitsText
  takeWhile_append dropWhile_append)

/-- What may follow a value. -/
def endsValue (c : Char) : Bool :=
  c = ',' || c = ']' || c = '\x7d' || isSpace c

variable {negative : Bool} {whole back rest : List Char} {x : Float}

/-- Digits without a zero in front, or a single zero. -/
structure Whole (ds : List Char) : Prop where
  digits : AllDigits ds
  ne_nil : ds ≠ []
  head : ds.head? = some '0' → ds = ['0']

namespace Whole

theorem zero : Whole ['0'] :=
  ⟨AllDigits.zeros 1, by simp, fun _ => rfl⟩

theorem of_head (hd : AllDigits whole) (hne : whole ≠ []) (h : whole.head? ≠ some '0') :
    Whole whole :=
  ⟨hd, hne, fun h' => absurd h' h⟩

theorem digitsText (n : Nat) : Whole (digitsText n) := by
  rcases Nat.eq_zero_or_pos n with rfl | hn
  · exact zero
  · exact of_head (AllDigits.digitsText n) (Decimal.digitsText_ne_nil n) (Decimal.head_digitsText hn)

end Whole

/-! ## Parts -/

theorem wholePart?_append (h : Whole whole) (hrest : Starts (fun c => !c.isDigit) rest) :
    wholePart? (whole ++ rest) = some (whole, rest) := by
  rw [wholePart?, takeWhile_append h.digits hrest, dropWhile_append h.digits hrest]
  split
  next => exact absurd rfl h.ne_nil
  next c cs => exact absurd (h.head rfl) (by simp)
  next => rfl

/-- A point and digits, or nothing. -/
def fractionPart (back : List Char) : List Char :=
  if back.isEmpty then [] else '.' :: back

theorem fraction?_append (hd : AllDigits back) (hrest : Starts (fun c => !c.isDigit && c ≠ '.') rest) :
    fraction? (fractionPart back ++ rest) = some (back, rest) := by
  cases back with
  | nil =>
    simp only [fractionPart, List.isEmpty_nil, if_true, List.nil_append]
    unfold fraction?
    split
    next => simp at hrest
    next => rfl
  | cons b back =>
    have hdigit : Starts (fun c => !c.isDigit) rest :=
      hrest.mono fun c hc => (Bool.and_eq_true_iff.1 hc).1
    show fraction? ('.' :: ((b :: back) ++ rest)) = _
    simp only [fraction?, takeWhile_append hd hdigit, dropWhile_append hd hdigit]

theorem power?_of_starts (hrest : Starts (fun c => c ≠ 'e' && c ≠ 'E') rest) :
    power? rest = some (none, rest) := by
  cases rest with
  | nil => rfl
  | cons c rest =>
    have h : c ≠ 'e' ∧ c ≠ 'E' := by simpa using hrest
    simp [power?, h]

theorem spanSign_signed {ds : List Char} (hd : AllDigits ds) (hne : ds ≠ []) :
    Decimal.spanSign (Decimal.signed negative ds ++ rest) = (negative, ds ++ rest) := by
  obtain ⟨c, ds, rfl⟩ := List.exists_cons_of_ne_nil hne
  cases negative with
  | true => rfl
  | false => exact Decimal.spanSign_of_digit (hd c List.mem_cons_self)

theorem power?_append (n : Nat) (hrest : Starts (fun c => !c.isDigit) rest) :
    power? ('e' :: (Decimal.signed negative (digitsText n) ++ rest)) =
      some (some (if negative then -(n : Int) else n), rest) := by
  have hd := AllDigits.digitsText n
  have hne := Decimal.digitsText_ne_nil n
  simp only [power?, spanSign_signed hd hne, takeWhile_append hd hrest, dropWhile_append hd hrest,
    natOfDigits_digitsText, decide_true, Bool.true_or, if_true]

/-! ## After the sign -/

theorem not_digit_of_endsValue {c : Char} (h : endsValue c = true) : (!c.isDigit) = true := by
  simp only [endsValue, isSpace, Bool.or_eq_true, decide_eq_true_eq] at h
  rcases h with ((rfl | rfl) | rfl) | ((rfl | rfl) | rfl) | rfl <;> rfl

theorem not_mark_of_endsValue {c : Char} (h : endsValue c = true) :
    (!c.isDigit && c ≠ '.') = true ∧ (c ≠ 'e' && c ≠ 'E') = true := by
  simp only [endsValue, isSpace, Bool.or_eq_true, decide_eq_true_eq] at h
  rcases h with ((rfl | rfl) | rfl) | ((rfl | rfl) | rfl) | rfl <;> decide

/-- A whole number of 64 bits. -/
theorem unsigned?_whole (hw : Whole whole) (hrest : Starts endsValue rest) {n : Int}
    (hn : wholeNumber negative (natOfDigits whole) = .int n) :
    unsigned? negative (whole ++ rest) = some (.int n, rest) := by
  have hwhole := wholePart?_append hw (hrest.mono fun c => not_digit_of_endsValue)
  have hnone : AllDigits [] := by simp [AllDigits]
  have hfraction : fraction? rest = some ([], rest) :=
    fraction?_append hnone (hrest.mono fun c h => (not_mark_of_endsValue h).1)
  have hpower := power?_of_starts (hrest.mono fun c h => (not_mark_of_endsValue h).2)
  simp [unsigned?, hwhole, hfraction, hpower, hn]

/-- A real number, by its parts. -/
theorem unsigned?_of_parts {cs more after : List Char} {power : Option Int}
    (hwhole : wholePart? cs = some (whole, more)) (hfraction : fraction? more = some (back, after))
    (hpower : power? after = some (power, rest)) (hreal : back ≠ [] ∨ power ≠ none)
    (hfin : x.isFinite = true)
    (hx : ofScientific negative (natOfDigits (whole ++ back)) (power.getD 0 - back.length) = x) :
    unsigned? negative cs = some (.float x, rest) := by
  have hnot : ¬ ((back.isEmpty && power.isNone) = true) := by
    simp only [Bool.and_eq_true, List.isEmpty_iff, Option.isNone_iff_eq_none]
    tauto
  simp only [unsigned?, hwhole, hfraction, hpower, Option.bind_eq_bind, Option.bind_some, if_neg hnot,
    hx, if_pos hfin]

/-- Digits with a point among them. -/
theorem unsigned?_point (hw : Whole whole) (hb : AllDigits back) (hne : back ≠ [])
    (hrest : Starts endsValue rest) (hfin : x.isFinite = true)
    (hx : ofScientific negative (natOfDigits (whole ++ back)) (-(back.length : Int)) = x) :
    unsigned? negative (whole ++ (fractionPart back ++ rest)) = some (.float x, rest) := by
  have hpoint : Starts (fun c => !c.isDigit) (fractionPart back ++ rest) := by
    rw [fractionPart, if_neg (by simpa using hne)]
    exact Starts.cons_iff.2 rfl
  refine unsigned?_of_parts (wholePart?_append hw hpoint)
    (fraction?_append hb (hrest.mono fun c h => (not_mark_of_endsValue h).1))
    (power?_of_starts (hrest.mono fun c h => (not_mark_of_endsValue h).2)) (.inl hne) hfin ?_
  rwa [Option.getD_none, zero_sub]

/-- Digits, perhaps with a point among them, and a power of ten. -/
theorem unsigned?_power (hw : Whole whole) (hb : AllDigits back) (hrest : Starts endsValue rest)
    (hfin : x.isFinite = true) {down : Bool} {n : Nat}
    (hx : ofScientific negative (natOfDigits (whole ++ back))
      ((if down then -(n : Int) else n) - back.length) = x) :
    unsigned? negative (whole ++ (fractionPart back ++
      'e' :: (Decimal.signed down (digitsText n) ++ rest))) = some (.float x, rest) := by
  have hpoint : Starts (fun c => !c.isDigit)
      (fractionPart back ++ 'e' :: (Decimal.signed down (digitsText n) ++ rest)) := by
    rw [fractionPart]
    split <;> exact Starts.cons_iff.2 rfl
  exact unsigned?_of_parts (wholePart?_append hw hpoint) (fraction?_append hb (Starts.cons_iff.2 rfl))
    (power?_append n (hrest.mono fun c => not_digit_of_endsValue)) (.inr (by simp)) hfin hx

/-! ## Doubles -/

variable {b : Binary}

theorem unsigned?_zero (h : Binary.ofFloat? x = some b) (hm : b.mantissa = 0)
    (hrest : Starts endsValue rest) :
    unsigned? b.negative ("0.0".toList ++ rest) = some (.float x, rest) := by
  have hfin : x.isFinite = true := Decimal.isSome_ofFloat?_iff.1 (by rw [h]; rfl)
  have hzero : AllDigits ['0'] := AllDigits.zeros 1
  exact unsigned?_point Whole.zero hzero (by simp) hrest hfin (Decimal.ofScientific_zero h hm _)

/-- The digits of a whole number with zeros behind them. -/
theorem unsigned?_scaled (h : Binary.ofFloat? x = some b) (hm : 0 < b.mantissa)
    (he : 0 ≤ (shortest .toEven b).exponent) (hrest : Starts endsValue rest) :
    unsigned? b.negative (digitsText (shortest .toEven b).digits ++
      List.replicate (shortest .toEven b).exponent.toNat '0' ++ ".0".toList ++ rest) =
        some (.float x, rest) := by
  have hfin : x.isFinite = true := Decimal.isSome_ofFloat?_iff.1 (by rw [h]; rfl)
  have hpos := Decimal.digits_shortest_pos .toEven (Binary.of_ofFloat? h).1 hm
  generalize hd : shortest .toEven b = d at he hpos ⊢
  have hw : Whole (digitsText d.digits ++ List.replicate d.exponent.toNat '0') := by
    refine Whole.of_head ((AllDigits.digitsText _).append (AllDigits.zeros _)) ?_ ?_
    · simp [Decimal.digitsText_ne_nil]
    · rw [List.head?_append_of_ne_nil _ (Decimal.digitsText_ne_nil _)]
      exact Decimal.head_digitsText hpos
  rw [List.append_assoc]
  have hback : AllDigits ['0'] := AllDigits.zeros 1
  refine unsigned?_point hw hback (by simp) hrest hfin ?_
  refine Decimal.ofScientific_eq_of_shortest .toEven h ?_
  have he' : (10 : ℚ) ^ d.exponent = 10 ^ d.exponent.toNat := by
    rw [← zpow_natCast, Int.toNat_of_nonneg he]
  have hzero : natOfDigits ['0'] = 0 := rfl
  rw [hd, natOfDigits_append, natOfDigits_append, natOfDigits_digitsText, natOfDigits_zeros, hzero, he']
  push_cast [List.length_replicate, List.length_singleton]
  rw [zpow_neg, zpow_one]
  ring

/-- Digits with a point that leaves some of them behind it. -/
theorem unsigned?_pointed {n k : Nat} (hn : 0 < n) (hk : 0 < k) (hrest : Starts endsValue rest)
    (hfin : x.isFinite = true) (hx : ofScientific negative n (-(k : Int)) = x) :
    unsigned? negative (Decimal.pointed (digitsText n) k ++ rest) = some (.float x, rest) := by
  obtain ⟨front, back, htext, hf, hb, hne, hhead, hlen, hvalue⟩ := Decimal.pointed_digitsText n hk
  have hback : back ≠ [] := by
    rw [← List.length_pos_iff]; omega
  have hfraction : '.' :: back = fractionPart back := by
    rw [fractionPart, if_neg (by simpa using hback)]
  rw [htext, hfraction, List.append_assoc]
  refine unsigned?_point ⟨hf, hne, hhead hn⟩ hb hback hrest hfin ?_
  rw [hvalue, hlen, hx]

theorem unsigned?_exponential {n : Nat} {e : Int} (hn : 0 < n) (hrest : Starts endsValue rest)
    (hfin : x.isFinite = true) (hx : ofScientific negative n e = x) :
    unsigned? negative (Decimal.exponential (digitsText n) e ++ rest) = some (.float x, rest) := by
  have hlen : 0 < (digitsText n).length := List.length_pos_iff.2 (Decimal.digitsText_ne_nil n)
  have hdigits := AllDigits.digitsText n
  have hw : Whole ((digitsText n).take 1) := by
    refine Whole.of_head (hdigits.take 1) ?_ ?_
    · rw [← List.length_pos_iff, List.length_take]; omega
    · rw [List.head?_take, if_neg (by omega)]
      exact Decimal.head_digitsText hn
  simp only [Decimal.exponential]
  rw [← fractionPart, List.append_assoc, List.append_assoc, List.cons_append]
  refine unsigned?_power hw (hdigits.drop 1) hrest hfin ?_
  rw [List.take_append_drop, natOfDigits_digitsText, List.length_drop]
  convert hx using 2
  simp only [decide_eq_true_eq]
  split <;> omega

/-- What is written for a finite double, after its sign. -/
theorem unsigned?_markedChars (h : Binary.ofFloat? x = some b) (hrest : Starts endsValue rest) :
    unsigned? b.negative (Decimal.markedChars b ++ rest) = some (.float x, rest) := by
  have hfin : x.isFinite = true := Decimal.isSome_ofFloat?_iff.1 (by rw [h]; rfl)
  have hx : ofScientific b.negative (shortest .toEven b).digits (shortest .toEven b).exponent = x :=
    Decimal.ofScientific_eq_of_shortest .toEven h rfl
  rw [Decimal.markedChars]
  split
  next hm => exact unsigned?_zero h hm hrest
  next hm =>
    have hpos := Decimal.digits_shortest_pos .toEven (Binary.of_ofFloat? h).1 (by omega)
    dsimp only
    split
    next hc =>
      simp only [Bool.and_eq_true, decide_eq_true_eq] at hc
      exact unsigned?_scaled h (by omega) hc.1 hrest
    next hc =>
      simp only [Bool.and_eq_true, decide_eq_true_eq] at hc
      split
      next hp =>
        simp only [Bool.and_eq_true, decide_eq_true_eq] at hp
        have he : ¬ 0 ≤ (shortest .toEven b).exponent := fun he => hc ⟨he, hp.2⟩
        rw [Decimal.positional, if_neg he]
        refine unsigned?_pointed hpos (by omega) hrest hfin ?_
        rwa [show -(((-(shortest .toEven b).exponent).toNat : Nat) : Int) = (shortest .toEven b).exponent by omega]
      next => exact unsigned?_exponential hpos hrest hfin hx

/-! ## With the sign -/

theorem number?_signed {text : List Char} {r : Value × List Char}
    (h : unsigned? negative (text ++ rest) = some r) :
    number? (Decimal.signed negative text ++ rest) = some r := by
  cases negative with
  | true => exact h
  | false =>
    show number? (text ++ rest) = some r
    unfold number?
    split
    next more hmore => rw [hmore] at h; cases h
    next => exact h

/-- A finite double is read back. -/
theorem number?_renderFloat (hfin : x.isFinite = true) (hrest : Starts endsValue rest) :
    number? (renderFloat x ++ rest) = some (.float x, rest) := by
  obtain ⟨b, hb⟩ := Option.isSome_iff_exists.1 (Decimal.isSome_ofFloat?_iff.2 hfin)
  have htext : renderFloat x = Decimal.signed b.negative (Decimal.markedChars b) := by
    rw [renderFloat, Decimal.marked?, hb]
    exact String.toList_ofList
  rw [htext]
  exact number?_signed (unsigned?_markedChars hb hrest)

theorem wholeNumber_natAbs {n : Int} (hlow : -(2 ^ 63 : Int) ≤ n) (hhigh : n < 2 ^ 64) :
    wholeNumber (n < 0) n.natAbs = .int n := by
  simp only [wholeNumber, decide_eq_true_eq, Nat.pow_eq]
  split
  next hneg =>
    have hsmall : ¬ ((decide (n.natAbs = 0) || decide (2 ^ 63 < n.natAbs)) = true) := by
      simp only [Bool.or_eq_true, decide_eq_true_eq]; omega
    rw [if_neg hsmall]
    congr 1
    omega
  next hneg =>
    rw [if_pos (by omega)]
    congr 1
    omega

/-- A whole number of 64 bits is read back. -/
theorem number?_renderInt {n : Int} (hlow : -(2 ^ 63 : Int) ≤ n) (hhigh : n < 2 ^ 64)
    (hrest : Starts endsValue rest) : number? (renderInt n ++ rest) = some (.int n, rest) := by
  refine number?_signed (unsigned?_whole (Whole.digitsText _) hrest ?_)
  rw [natOfDigits_digitsText, wholeNumber_natAbs hlow hhigh]

/-- A number begins with its sign or a digit. -/
theorem head_of_number? {cs : List Char} {r : Value × List Char} (h : number? cs = some r) :
    ∃ c more, cs = c :: more ∧ (c = '-' ∨ c.isDigit = true) := by
  unfold number? at h
  split at h
  next more => exact ⟨'-', more, rfl, .inl rfl⟩
  next hsign =>
    simp only [unsigned?, Option.bind_eq_bind, Option.bind_eq_some_iff] at h
    obtain ⟨⟨whole, more⟩, hwhole, -⟩ := h
    cases cs with
    | nil => cases hwhole
    | cons c more =>
      refine ⟨c, more, rfl, .inr ?_⟩
      by_contra hc
      rw [wholePart?, List.takeWhile_cons_of_neg hc] at hwhole
      cases hwhole

end ValidatorWatch.Document.Json
