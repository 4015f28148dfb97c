import ValidatorWatch.Decimal.Written
import ValidatorWatch.Text.Blank
import ValidatorWatch.Time.Instant
/-!
# Time stamps

Instants are written as date, `T`, time of day and offset from Coordinated Universal Time, the form
of RFC 3339. The fraction of the second has no digits, three, six or nine: the fewest groups of
three that lose nothing. Two stamps of the same offset text and with years of four digits are in the
order of their instants when they are compared character by character.

Reading is more liberal than writing. It takes any offset, one digit where two are usual, blanks
between the parts, a blank for the `T`, and any number of digits in the fraction, of which nine
count. A leap second has the number sixty.
-/

namespace ValidatorWatch.Time

/-! ## Writing -/

/-- A number with zeros in front, at least `width` digits long. -/
def padded (width n : Nat) : List Char :=
  let ds := Decimal.digitsText n
  List.replicate (width - ds.length) '0' ++ ds

/-- Years from 0 to 9999 have four digits; others have a sign and at least five characters. -/
def yearText (year : Int) : List Char :=
  if 0 ≤ year && year ≤ 9999 then padded 4 year.toNat
  else (if year < 0 then '-' else '+') :: padded 4 year.natAbs

/-- The fraction of a second, in groups of three digits, as few as hold it. -/
def fractionText (nanos : Nat) : List Char :=
  if nanos = 0 then []
  else if nanos % 1000000 = 0 then '.' :: padded 3 (nanos / 1000000)
  else if nanos % 1000 = 0 then '.' :: padded 6 (nanos / 1000)
  else '.' :: padded 9 nanos

namespace Instant

/-- The stamp without its offset. -/
def localText (t : Instant) : List Char :=
  let d := t.date
  let s := t.secondOfDay
  yearText d.year ++ '-' :: padded 2 d.month ++ '-' :: padded 2 d.day ++
    'T' :: padded 2 (s / 3600) ++ ':' :: padded 2 (s / 60 % 60) ++
    ':' :: padded 2 (s % 60 + t.nanos / 1000000000) ++ fractionText (t.nanos % 1000000000)

/-- The stamp that ends in `Z`; stored documents use it. -/
def stamp (t : Instant) : String :=
  String.ofList (t.localText ++ ['Z'])

/-- The stamp that spells out the offset; answers and history rows use it. -/
def offsetStamp (t : Instant) : String :=
  String.ofList (t.localText ++ "+00:00".toList)

end Instant

/-! ## Reading -/

/-- One digit up to `most` of them, as a number. -/
def readDigits? (most : Nat) (cs : List Char) : Option (Nat × List Char) :=
  let ds := (cs.take most).takeWhile Char.isDigit
  if ds.isEmpty then none else some (Text.natOfDigits ds, cs.drop ds.length)

/-- The given character, with blanks in front of it and behind it skipped. -/
def readMark? (mark : Char) (cs : List Char) : Option (List Char) :=
  match Text.trimStart cs with
  | c :: rest => if c = mark then some (Text.trimStart rest) else none
  | [] => none

/-- A year: four digits at most, or a sign and any number of them. -/
def readYear? (cs : List Char) : Option (Int × List Char) :=
  match cs with
  | '-' :: rest => (readDigits? rest.length rest).map fun (n, rest) => (-(n : Int), rest)
  | '+' :: rest => (readDigits? rest.length rest).map fun (n, rest) => ((n : Int), rest)
  | _ => (readDigits? 4 cs).map fun (n, rest) => ((n : Int), rest)

/-- A number of at most two digits within bounds. -/
def readPart? (least most : Nat) (cs : List Char) : Option (Nat × List Char) :=
  match readDigits? 2 cs with
  | some (n, rest) => if least ≤ n && n ≤ most then some (n, rest) else none
  | none => none

/-- The fraction of a second in nanoseconds; without a point there is none. -/
def readFraction? : List Char → Option (Nat × List Char)
  | '.' :: rest =>
    let ds := rest.takeWhile Char.isDigit
    if ds.isEmpty then none
    else
      let kept := ds.take 9
      some (Text.natOfDigits kept * Nat.pow 10 (9 - kept.length), rest.dropWhile Char.isDigit)
  | rest => some (0, rest)

/-- Two digits, exactly. -/
def readTwo? : List Char → Option (Nat × List Char)
  | a :: b :: rest =>
    if a.isDigit && b.isDigit then some (Text.natOfDigits [a, b], rest) else none
  | _ => none

/-- An offset in minutes: `Z`, the word `UTC`, or a sign, hours and minutes. -/
def readOffset? (cs : List Char) : Option (Int × List Char) :=
  if (cs.take 3).map Char.toLower = "utc".toList then some (0, cs.drop 3)
  else
    match cs with
    | 'Z' :: rest | 'z' :: rest => some (0, rest)
    | sign :: rest =>
      if sign = '+' || sign = '-' || sign = '−' then do
        let (hours, rest) ← readTwo? rest
        let (minutes, rest) ← readTwo? (rest.dropWhile fun c => c = ':' || Text.isBlank c)
        if 60 ≤ minutes || 24 ≤ hours then none
        else
          let total : Int := hours * 60 + minutes
          some (if sign = '+' then total else -total, rest)
      else none
    | [] => none

/-- The separator of date and time. -/
def readSeparator? : List Char → Option (List Char)
  | c :: rest => if c = 'T' || c = 't' || c = ' ' then some rest else none
  | [] => none

namespace Instant

/-- Reads a stamp; nothing may follow it but blanks. -/
def ofChars? (cs : List Char) : Option Instant := do
  let (year, cs) ← readYear? (Text.trimStart cs)
  let cs ← readMark? '-' cs
  let (month, cs) ← readPart? 1 12 cs
  let cs ← readMark? '-' cs
  let (day, cs) ← readPart? 1 31 cs
  let cs ← readSeparator? cs
  let (hour, cs) ← readPart? 0 23 (Text.trimStart cs)
  let cs ← readMark? ':' cs
  let (minute, cs) ← readPart? 0 59 cs
  let cs ← readMark? ':' cs
  let (second, cs) ← readPart? 0 60 cs
  let (nanos, cs) ← readFraction? cs
  let (offset, cs) ← readOffset? (Text.trimStart cs)
  let date : Date := ⟨year, month, day⟩
  let (second, nanos) := if second = 60 then (59, nanos + 1000000000) else (second, nanos)
  let ofDay : Int := (hour * 60 + minute) * 60 + second
  let t ← ofSecond? (date.toDay * 86400 + ofDay - offset * 60) nanos
  if cs.all Text.isBlank && decide date.Valid && decide (InYears year) &&
      decide (InYears t.date.year) then
    some t
  else none

/-- Reads a stamp from a string. -/
def ofStamp? (s : String) : Option Instant :=
  ofChars? s.toList

end Instant

end ValidatorWatch.Time
