/-!
# Doubles as exact fractions

A finite double is a whole number times a power of two. `Binary` is that reading, taken from the
bits. `nearestBits` goes the other way: the bits of the double nearest to a fraction, a tie going to
the even neighbour. Both work in exact arithmetic on natural numbers, so the text of a double and
the double of a text can be reasoned about without a machine float.
-/

namespace ValidatorWatch.Decimal

/-- Which neighbour an exact half goes to. -/
inductive Tie where
  | toEven
  | up
  deriving DecidableEq

/-- The whole number nearest to `num / den`, for a positive `den`. -/
def roundDiv (tie : Tie) (num den : Nat) : Nat :=
  let whole := num / den
  let twice := 2 * (num % den)
  if twice < den then whole
  else if den < twice then whole + 1
  else
    match tie with
    | .toEven => whole + whole % 2
    | .up => whole + 1

/-- The value `mantissa · 2 ^ exponent`, or its negative. -/
structure Binary where
  negative : Bool
  mantissa : Nat
  exponent : Int
  deriving DecidableEq

namespace Binary

/-- The exponent field of a double that is infinite or not a number. -/
def specialField : Nat := 2047

/-- A finite double as an exact value. -/
def ofFloat? (x : Float) : Option Binary :=
  let bits := x.toBits.toNat
  let fraction := bits % Nat.pow 2 52
  let field := bits / Nat.pow 2 52 % Nat.pow 2 11
  let negative := bits / Nat.pow 2 63 = 1
  if field = specialField then none
  else if field = 0 then some ⟨negative, fraction, -1074⟩
  else some ⟨negative, fraction + Nat.pow 2 52, (field : Int) - 1075⟩

/-- The numerator of the absolute value. -/
def num (b : Binary) : Nat :=
  b.mantissa * Nat.pow 2 b.exponent.toNat

/-- The denominator of the absolute value. -/
def den (b : Binary) : Nat :=
  Nat.pow 2 (-b.exponent).toNat

end Binary

/-- The bits of positive infinity. -/
def infinityBits : Nat := 2047 * Nat.pow 2 52

/-- A numerator and a denominator for `num / den / 2 ^ e`. -/
def scaleDown (num den : Nat) (e : Int) : Nat × Nat :=
  (num * Nat.pow 2 (-e).toNat, den * Nat.pow 2 e.toNat)

/-- The exponent at which a positive `num / den` has a mantissa of 53 bits, or the least one. -/
def mantissaExponent (num den : Nat) : Int :=
  let d : Int := (Nat.log2 num : Int) - (Nat.log2 den : Int)
  let scaled := scaleDown num den d
  max (if scaled.2 ≤ scaled.1 then d - 52 else d - 53) (-1074)

/-- The bits of the positive double nearest to `num / den`. Counting bit patterns from zero, a
mantissa that rounds up to the next power of two carries into the exponent by itself. -/
def nearestBits (num den : Nat) : Nat :=
  if num = 0 then 0
  else
    let e := mantissaExponent num den
    let scaled := scaleDown num den e
    min ((e + 1074).toNat * Nat.pow 2 52 + roundDiv .toEven scaled.1 scaled.2) infinityBits

/-- The double nearest to a fraction. -/
def nearest (negative : Bool) (num den : Nat) : Float :=
  Float.ofBits (UInt64.ofNat (nearestBits num den + if negative then Nat.pow 2 63 else 0))

/-- How many decimal digits a number has. -/
def digitCount (n : Nat) : Nat :=
  (Nat.toDigits 10 n).length

/-- The double nearest to `± digits · 10 ^ exponent`. Beyond the outermost doubles the power of ten
is not computed: such a value is infinite or zero in any case. -/
def ofScientific (negative : Bool) (digits : Nat) (exponent : Int) : Float :=
  let magnitude : Int := digitCount digits + exponent
  if digits = 0 || magnitude < -400 then nearest negative 0 1
  else if 400 < magnitude then
    Float.ofBits (UInt64.ofNat (infinityBits + if negative then Nat.pow 2 63 else 0))
  else nearest negative (digits * Nat.pow 10 exponent.toNat) (Nat.pow 10 (-exponent).toNat)

/-! ## Rounding values -/

/-- The nearest whole number, an exact half going away from zero. -/
def roundToWhole (x : Float) : Float :=
  match Binary.ofFloat? x with
  | none => x
  | some b =>
    if 0 ≤ b.exponent then x
    else
      let whole := (UInt64.ofNat (roundDiv .up b.num b.den)).toFloat
      if b.negative then -whole else whole

/-- A figure at two decimal places. -/
def roundToHundredths (x : Float) : Float :=
  roundToWhole (x * 100.0) / 100.0

/-- A count as a double. -/
def ofCount (n : Nat) : Float :=
  nearest false n 1

/-- `part` of `whole` in percent, at two decimal places. -/
def percentOf (part whole : Nat) : Float :=
  roundToHundredths (ofCount part / ofCount whole * 100.0)

end ValidatorWatch.Decimal
