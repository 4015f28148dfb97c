import ValidatorWatch.Decimal.Binary
/-!
# The fewest digits that read back

A double is written with the fewest decimal digits that still read back as that double, and of those
the ones nearest to its value. The grid of all decimals with `n` digits has one point at or below
the value and one above it. If any point of the grid reads back, one of these two does.

`shortest` takes a grid point only after reading it back. Should no grid up to seventeen digits do,
the exact decimal expansion is taken, so the digits chosen always stand for the double itself.
-/

namespace ValidatorWatch.Decimal

/-- The value `digits · 10 ^ exponent`. -/
structure Digits where
  digits : Nat
  exponent : Int
  deriving DecidableEq

namespace Digits

/-- The numerator of the value. -/
def num (d : Digits) : Nat :=
  d.digits * Nat.pow 10 d.exponent.toNat

/-- The denominator of the value. -/
def den (d : Digits) : Nat :=
  Nat.pow 10 (-d.exponent).toNat

/-- The bits of the nearest double. -/
def bits (d : Digits) : Nat :=
  nearestBits d.num d.den

end Digits

/-- The power of ten at or below a positive `num / den`. -/
def decimalExponent (num den : Nat) : Int :=
  if den ≤ num then (digitCount (num / den) : Int) - 1
  else
    let k := digitCount (den / num)
    if den ≤ num * Nat.pow 10 (k - 1) then -((k : Int) - 1) else -(k : Int)

/-- The grid point at or below `num / den` with `10 ^ exponent` between points. -/
def gridFloor (num den : Nat) (exponent : Int) : Nat :=
  num * Nat.pow 10 (-exponent).toNat / (den * Nat.pow 10 exponent.toNat)

/-- Of the two grid points beside the value, the one that reads back; of two, the nearer. -/
def onGrid? (tie : Tie) (num den : Nat) (exponent : Int) : Option Digits :=
  let bits := nearestBits num den
  let low : Digits := ⟨gridFloor num den exponent, exponent⟩
  let high : Digits := ⟨low.digits + 1, exponent⟩
  let near : Digits :=
    ⟨roundDiv tie (num * Nat.pow 10 (-exponent).toNat) (den * Nat.pow 10 exponent.toNat), exponent⟩
  if low.bits = bits then
    if high.bits = bits then some near else some low
  else if high.bits = bits then some high
  else none

/-- Tries one more digit at a time. -/
def shortestFrom (tie : Tie) (num den : Nat) (top : Int) : Nat → Nat → Option Digits
  | 0, _ => none
  | fuel + 1, digits =>
    match onGrid? tie num den (top - digits + 1) with
    | some d => some d
    | none => shortestFrom tie num den top fuel (digits + 1)

/-- The exact decimal expansion of `mantissa · 2 ^ exponent`. -/
def expansion (b : Binary) : Digits :=
  if 0 ≤ b.exponent then ⟨b.num, 0⟩
  else ⟨b.mantissa * Nat.pow 5 (-b.exponent).toNat, b.exponent⟩

/-- Whether digits stand for the double again when they are read. -/
def readsBack (b : Binary) (d : Digits) : Bool :=
  d.bits = nearestBits b.num b.den

/-- The fewest digits of a positive value that read back. The first grid has the next power of ten
as its only point, for a value just below it. -/
def shortest (tie : Tie) (b : Binary) : Digits :=
  ((shortestFrom tie b.num b.den (decimalExponent b.num b.den) 18 0).filter (readsBack b)).getD
    (expansion b)

end ValidatorWatch.Decimal
