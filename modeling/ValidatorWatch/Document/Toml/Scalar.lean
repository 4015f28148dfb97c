import ValidatorWatch.Decimal.Literal
import ValidatorWatch.Document.Value
import ValidatorWatch.Time.Calendar
/-!
# Values without quotes in settings files

A value without quotes is one of two truth values, a number or a date. Numbers may have an
underscore between two digits. Whole numbers have no zero in front and may be written to the base
sixteen, eight or two. A number that is too great to be kept is garbled.

A date may have a time of day and an offset, and a time of day may stand alone. However it is
written, a date has one text: a `T` before the time, seconds, as few digits in the fraction as hold
it and at most nine, and no minus sign before an offset of nothing.
-/

namespace ValidatorWatch.Document.Toml

/-! ## Numbers -/

/-- Digits, perhaps with single underscores between them, which do not count. -/
def grouped? (isDigit : Char → Bool) : List Char → Option (List Char)
  | [] => none
  | [c] => if isDigit c then some [c] else none
  | c :: '_' :: rest => if isDigit c then (grouped? isDigit rest).map (c :: ·) else none
  | c :: rest => if isDigit c then (grouped? isDigit rest).map (c :: ·) else none

/-- Decimal digits without a zero in front. -/
def wholeDigits? (cs : List Char) : Option (List Char) :=
  match grouped? Char.isDigit cs with
  | some ('0' :: _ :: _) => none
  | ds => ds

/-- A digit or an underscore. -/
def isNumberChar (c : Char) : Bool :=
  c.isDigit || c = '_'

/-- A whole number to a base. -/
def inBase? (base : Nat) (isDigit : Char → Bool) (cs : List Char) : Option Value := do
  let ds ← grouped? isDigit cs
  let values ← ds.mapM Text.hexValue?
  return .nat (values.foldl (fun n d => n * base + d) 0)

/-- Digits of the base eight. -/
def isOctal (c : Char) : Bool :=
  '0' ≤ c && c ≤ '7'

/-- Digits of the base two. -/
def isBinary (c : Char) : Bool :=
  c = '0' || c = '1'

/-- A power of ten: a mark, a sign and digits, or nothing. -/
def power? : List Char → Option Int
  | [] => some 0
  | c :: rest =>
    if c = 'e' || c = 'E' then
      let (negative, ds) := Decimal.spanSign rest
      (grouped? Char.isDigit ds).map fun ds =>
        let n : Int := Text.natOfDigits ds
        if negative then -n else n
    else none

/-- The nearest real number, unless it is too great. -/
def realNumber (negative : Bool) (ds : List Char) (power : Int) : Value :=
  let x := Decimal.ofScientific negative (Text.natOfDigits ds) power
  if x.isFinite then .float x else .garbled

/-- A decimal number after its sign. -/
def unsigned? (negative : Bool) (cs : List Char) : Option Value := do
  let whole ← wholeDigits? (cs.takeWhile isNumberChar)
  match cs.dropWhile isNumberChar with
  | [] =>
    let n : Int := Text.natOfDigits whole
    return .int (if negative then -n else n)
  | '.' :: rest => do
    let back ← grouped? Char.isDigit (rest.takeWhile isNumberChar)
    let power ← power? (rest.dropWhile isNumberChar)
    return realNumber negative (whole ++ back) (power - back.length)
  | rest => do
    let power ← power? rest
    return realNumber negative whole power

/-- A number as it is kept: a whole number has at most 128 bits. -/
def kept : Value → Value
  | .int n => if -(Nat.pow 2 127 : Nat) ≤ n ∧ n < (Nat.pow 2 128 : Nat) then .int n else .garbled
  | v => v

/-- A number. -/
def number? (cs : List Char) : Option Value :=
  let v : Option Value :=
    match cs with
    | '0' :: 'x' :: rest => inBase? 16 Text.isHexDigit rest
    | '0' :: 'o' :: rest => inBase? 8 isOctal rest
    | '0' :: 'b' :: rest => inBase? 2 isBinary rest
    | _ =>
      let (negative, rest) := Decimal.spanSign cs
      match rest with
      | ['i', 'n', 'f'] => some (.float (if negative then -(1.0 / 0.0) else 1.0 / 0.0))
      | ['n', 'a', 'n'] => some (.float (0.0 / 0.0))
      | _ => unsigned? negative rest
  v.map kept

/-! ## Dates -/

/-- So many digits and no more than a bound. -/
def part? (width most : Nat) (cs : List Char) : Option (Nat × List Char) :=
  let ds := cs.take width
  if ds.length = width && ds.all Char.isDigit && Text.natOfDigits ds ≤ most then
    some (Text.natOfDigits ds, cs.drop width)
  else none

/-- A date that is on the calendar: its text, and what follows it. -/
def date? (cs : List Char) : Option (List Char × List Char) := do
  match ← part? 4 9999 cs with
  | (year, '-' :: rest) =>
    match ← part? 2 12 rest with
    | (month, '-' :: rest) => do
      let (day, rest) ← part? 2 31 rest
      let date : Time.Date := ⟨year, month, day⟩
      if date.Valid then some (cs.take 10, rest) else none
    | _ => none
  | _ => none

/-- The digits of a fraction that count: nine at most, and no zeros at the end. -/
def countingDigits (ds : List Char) : List Char :=
  ((ds.take 9).reverse.dropWhile (· = '0')).reverse

/-- A fraction of a second, or nothing. -/
def fraction? : List Char → Option (List Char × List Char)
  | '.' :: rest =>
    match rest.takeWhile Char.isDigit with
    | [] => none
    | ds =>
      let text :=
        match countingDigits ds with
        | [] => []
        | ds => '.' :: ds
      some (text, rest.dropWhile Char.isDigit)
  | rest => some ([], rest)

/-- A time of day; seconds may be left out. -/
def time? (cs : List Char) : Option (List Char × List Char) := do
  match ← part? 2 23 cs with
  | (_, ':' :: rest) =>
    match ← part? 2 59 rest with
    | (_, ':' :: rest) => do
      let (_, rest) ← part? 2 60 rest
      (fraction? rest).map fun r => (cs.take 8 ++ r.1, r.2)
    | (_, rest) => some (cs.take 5 ++ [':', '0', '0'], rest)
  | _ => none

/-- An offset: a letter, or a sign, hours and minutes. -/
def offset? : List Char → Option (List Char × List Char)
  | 'Z' :: rest | 'z' :: rest => some (['Z'], rest)
  | sign :: digits =>
    if sign = '+' || sign = '-' then do
      match ← part? 2 23 digits with
      | (hours, ':' :: rest) => do
        let (minutes, rest) ← part? 2 59 rest
        let sign := if hours = 0 && minutes = 0 then '+' else sign
        some (sign :: digits.take 5, rest)
      | _ => none
    else none
  | [] => none

/-- The text of a part that nothing follows. -/
def ending? : Option (List Char × List Char) → Option (List Char)
  | some (text, []) => some text
  | _ => none

/-- The text of a time of day with or without an offset, up to the end. -/
def timeWithOffset? (cs : List Char) : Option (List Char) :=
  match time? cs with
  | some (text, []) => some text
  | some (text, rest) => (ending? (offset? rest)).map (text ++ ·)
  | none => none

/-- The text of a date, a date with a time of day, or a time of day. -/
def dateText? (cs : List Char) : Option (List Char) :=
  match date? cs with
  | some (text, []) => some text
  | some (text, c :: rest) =>
    if c = 'T' || c = 't' || c = ' ' then (timeWithOffset? rest).map fun t => text ++ 'T' :: t
    else none
  | none => ending? (time? cs)

/-- The name of the only member of the record that stands for a date. -/
def dateMember : String := "$__toml_private_datetime"

/-! ## Both -/

/-- Characters of a value without quotes. -/
def isScalarChar (c : Char) : Bool :=
  c.isAlphanum || c = '+' || c = '-' || c = '_' || c = '.' || c = ':'

/-- The text of a value without quotes, and what follows it. A blank between date and time belongs
to it. -/
def spanScalar (cs : List Char) : List Char × List Char :=
  let front := cs.takeWhile isScalarChar
  match date? front, cs.dropWhile isScalarChar with
  | some (_, []), ' ' :: c :: rest =>
    if c.isDigit then
      (front ++ ' ' :: (c :: rest).takeWhile isScalarChar, (c :: rest).dropWhile isScalarChar)
    else (front, ' ' :: c :: rest)
  | _, rest => (front, rest)

/-- A value without quotes. -/
def ofScalar? (cs : List Char) : Option Value :=
  if cs = "true".toList then some (.bool true)
  else if cs = "false".toList then some (.bool false)
  else
    match dateText? cs with
    | some text => some (.obj [(dateMember, .str (String.ofList text))])
    | none => number? cs

end ValidatorWatch.Document.Toml
