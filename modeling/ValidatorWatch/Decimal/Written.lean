import ValidatorWatch.Decimal.Shortest
/-!
# Figures in text

Three ways to write a double. `plain` gives the fewest digits that read back and never an exponent;
messages and exported gauges use it. `fixed` gives a set number of decimal places, an exact half
going to the even digit; percentages in messages use it. `marked` always shows that the figure is a
real number, with a point or an exponent; stored documents use it.
-/

namespace ValidatorWatch.Decimal

/-- The decimal digits of a number. -/
def digitsText (n : Nat) : List Char :=
  Nat.toDigits 10 n

/-- Digits with a point that leaves `places` of them behind it. -/
def pointed (ds : List Char) (places : Nat) : List Char :=
  if places = 0 then ds
  else
    let padded := List.replicate (places + 1 - ds.length) '0' ++ ds
    let front := padded.length - places
    padded.take front ++ '.' :: padded.drop front

/-- The value of digits without an exponent. -/
def positional (d : Digits) : List Char :=
  if 0 ≤ d.exponent then digitsText d.digits ++ List.replicate d.exponent.toNat '0'
  else pointed (digitsText d.digits) (-d.exponent).toNat

/-- The sign in front of a text. -/
def signed (negative : Bool) (text : List Char) : List Char :=
  if negative then '-' :: text else text

/-- What is written for a double without digits. -/
def specialText (x : Float) : List Char :=
  if x.isNaN then "NaN".toList
  else if x < 0.0 then "-inf".toList
  else "inf".toList

/-- The fewest digits that read back, without an exponent. -/
def plain (x : Float) : String :=
  String.ofList <|
    match Binary.ofFloat? x with
    | none => specialText x
    | some b =>
      signed b.negative (if b.mantissa = 0 then ['0'] else positional (shortest .up b))

/-- A set number of decimal places. -/
def fixed (places : Nat) (x : Float) : String :=
  String.ofList <|
    match Binary.ofFloat? x with
    | none => specialText x
    | some b =>
      signed b.negative
        (pointed (digitsText (roundDiv .toEven (b.num * Nat.pow 10 places) b.den)) places)

/-- One digit before the point and a power of ten behind. -/
def exponential (ds : List Char) (exponent : Int) : List Char :=
  let front := ds.take 1
  let back := ds.drop 1
  let power := exponent + ((ds.length : Int) - 1)
  front ++ (if back.isEmpty then [] else '.' :: back) ++ 'e' :: signed (power < 0)
    (digitsText power.natAbs)

/-- Fewest digits, as a real number: positional from `1e-5` up to below `1e16`. -/
def markedChars (b : Binary) : List Char :=
  if b.mantissa = 0 then "0.0".toList
  else
    let d := shortest .toEven b
    let ds := digitsText d.digits
    let point : Int := (ds.length : Int) + d.exponent
    if 0 ≤ d.exponent && point ≤ 16 then
      ds ++ List.replicate d.exponent.toNat '0' ++ ".0".toList
    else if -5 < point && point ≤ 16 then positional d
    else exponential ds d.exponent

/-- A finite double that reads back as a real number; nothing for the others. -/
def marked? (x : Float) : Option String :=
  (Binary.ofFloat? x).map fun b => String.ofList (signed b.negative (markedChars b))

end ValidatorWatch.Decimal
