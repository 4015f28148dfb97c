import ValidatorWatch.Decimal.Binary
import ValidatorWatch.Text.Blank
/-!
# Reading figures

A decimal literal is a sign, digits with at most one point, and a power of ten. `Literal` is what
was written; `Literal.toFloat` is the nearest double. `readFloat?` is the reading used on metric
pages, which also knows the words for infinity and for a missing number, in any case.
-/

namespace ValidatorWatch.Decimal

/-- The value `± digits · 10 ^ exponent`. -/
structure Literal where
  negative : Bool
  digits : Nat
  exponent : Int
  deriving DecidableEq

namespace Literal

/-- The nearest double. -/
def toFloat (l : Literal) : Float :=
  ofScientific l.negative l.digits l.exponent

end Literal

/-- The digits at the start and the rest. -/
def spanDigits (cs : List Char) : List Char × List Char :=
  (cs.takeWhile Char.isDigit, cs.dropWhile Char.isDigit)

/-- A sign at the start, if there is one, and the rest. -/
def spanSign : List Char → Bool × List Char
  | '-' :: rest => (true, rest)
  | '+' :: rest => (false, rest)
  | rest => (false, rest)

/-- A power of ten at the end of a literal: nothing, or a mark, a sign and digits. -/
def readPower? : List Char → Option Int
  | [] => some 0
  | c :: rest =>
    if c = 'e' || c = 'E' then
      let (negative, ds) := spanSign rest
      if ds.isEmpty || !ds.all Char.isDigit then none
      else
        let n : Int := Text.natOfDigits ds
        some (if negative then -n else n)
    else none

/-- Digits, a point and digits, of which one side may be empty, then a power of ten. -/
def readUnsigned? (cs : List Char) : Option (Nat × Int) :=
  let (front, rest) := spanDigits cs
  let (back, rest) :=
    match rest with
    | '.' :: more => spanDigits more
    | _ => ([], rest)
  if front.isEmpty && back.isEmpty then none
  else (readPower? rest).map fun power => (Text.natOfDigits (front ++ back), power - back.length)

/-- A literal, one of the words for infinity, or the word for no number. -/
def readFloat? (cs : List Char) : Option Float :=
  let (negative, rest) := spanSign cs
  match readUnsigned? rest with
  | some (digits, exponent) => some (Literal.toFloat ⟨negative, digits, exponent⟩)
  | none =>
    let word := String.ofList (rest.map Char.toLower)
    if word = "inf" || word = "infinity" then
      some (if negative then -(1.0 / 0.0) else 1.0 / 0.0)
    else if word = "nan" then some (0.0 / 0.0)
    else none

end ValidatorWatch.Decimal
