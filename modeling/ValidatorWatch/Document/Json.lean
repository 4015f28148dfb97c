import ValidatorWatch.Decimal.Literal
import ValidatorWatch.Decimal.Written
import ValidatorWatch.Document.Value
/-!
# JSON

The text form of documents. `render` writes a value, compact or one member per line; `parse?` reads
one. Reading keeps every member, also one whose name occurs twice, and refuses what the format does
not have, such as a number with a zero in front or a control character in a string.

A whole number that does not fit into 64 bits is read as a real number. What has the form of a value
but stands for none is garbled: a number too large for a real number, a string with half of a
surrogate pair, a record with such a string for a name, and a value nested more than 127 deep.
-/

namespace ValidatorWatch.Document.Json

/-! ## Writing -/

/-- Where line breaks go. -/
inductive Style where
  | compact
  | indented
  deriving DecidableEq

/-- What stands before an element at a depth of nesting. -/
def Style.gap (style : Style) (depth : Nat) : List Char :=
  match style with
  | .compact => []
  | .indented => '\n' :: List.replicate (2 * depth) ' '

/-- What stands between a member's name and its value. -/
def Style.colon : Style → List Char
  | .compact => [':']
  | .indented => [':', ' ']

/-- One of the sixteen digits. -/
def hexDigit (n : Nat) : Char :=
  if n < 10 then Char.ofNat (48 + n) else Char.ofNat (87 + n)

/-- A character of a string: the quote, the backslash and control characters are escaped. -/
def escapeChar (c : Char) : List Char :=
  if c = '"' then ['\\', '"']
  else if c = '\\' then ['\\', '\\']
  else if c = '\n' then ['\\', 'n']
  else if c = '\r' then ['\\', 'r']
  else if c = '\t' then ['\\', 't']
  else if c = '\x08' then ['\\', 'b']
  else if c = '\x0c' then ['\\', 'f']
  else if c.toNat < 32 then ['\\', 'u', '0', '0', hexDigit (c.toNat / 16), hexDigit (c.toNat % 16)]
  else [c]

/-- A string between quotes. -/
def renderString (s : String) : List Char :=
  '"' :: s.toList.flatMap escapeChar ++ ['"']

/-- A whole number. -/
def renderInt (n : Int) : List Char :=
  Decimal.signed (n < 0) (Decimal.digitsText n.natAbs)

/-- A real number; one that is not finite has no text and is written as nothing. -/
def renderFloat (x : Float) : List Char :=
  match Decimal.marked? x with
  | some s => s.toList
  | none => "null".toList

mutual

/-- The text of a value at a depth of nesting. -/
def renderAt (style : Style) (depth : Nat) : Value → List Char
  | .null => "null".toList
  | .bool b => if b then "true".toList else "false".toList
  | .int n => renderInt n
  | .float x => renderFloat x
  | .str s => renderString s
  | .arr [] => ['[', ']']
  | .arr (v :: vs) =>
    '[' :: style.gap (depth + 1) ++ renderAt style (depth + 1) v ++
      renderItems style (depth + 1) vs ++ style.gap depth ++ [']']
  | .obj [] => ['\x7b', '\x7d']
  | .obj ((name, v) :: ms) =>
    '\x7b' :: style.gap (depth + 1) ++ renderString name ++ style.colon ++
      renderAt style (depth + 1) v ++ renderMembers style (depth + 1) ms ++ style.gap depth ++
      ['\x7d']
  | .garbled => "null".toList

/-- The elements after the first. -/
def renderItems (style : Style) (depth : Nat) : List Value → List Char
  | [] => []
  | v :: vs => ',' :: style.gap depth ++ renderAt style depth v ++ renderItems style depth vs

/-- The members after the first. -/
def renderMembers (style : Style) (depth : Nat) : List (String × Value) → List Char
  | [] => []
  | (name, v) :: ms =>
    ',' :: style.gap depth ++ renderString name ++ style.colon ++ renderAt style depth v ++
      renderMembers style depth ms

end

/-- The text of a document. -/
def render (style : Style) (v : Value) : String :=
  String.ofList (renderAt style 0 v)

/-! ## Reading -/

/-- The blanks between the parts of a document. -/
def isSpace (c : Char) : Bool :=
  c = ' ' || c = '\n' || c = '\t' || c = '\r'

/-- Skips blanks. -/
def skip (cs : List Char) : List Char :=
  cs.dropWhile isSpace

/-- Four hexadecimal digits. -/
def hexUnit? (a b c d : Char) : Option Nat := do
  let a ← Text.hexValue? a
  let b ← Text.hexValue? b
  let c ← Text.hexValue? c
  let d ← Text.hexValue? d
  some (((a * 16 + b) * 16 + c) * 16 + d)

/-- The character of a pair of surrogates. -/
def pairChar (high low : Nat) : Char :=
  Char.ofNat (0x10000 + (high - 0xD800) * 0x400 + (low - 0xDC00))

/-- What an escape of one letter stands for. -/
def simpleEscape? (c : Char) : Option Char :=
  match c with
  | '"' => some '"'
  | '\\' => some '\\'
  | '/' => some '/'
  | 'b' => some '\x08'
  | 'f' => some '\x0c'
  | 'n' => some '\n'
  | 'r' => some '\r'
  | 't' => some '\t'
  | _ => none

/-- What a string holds, unless it is garbled, and what follows it. -/
abbrev StringRest := Option (List Char) × List Char

/-- Puts a character in front of what a string still holds. -/
def consChar (c : Char) (r : StringRest) : StringRest :=
  (r.1.map (c :: ·), r.2)

/-- Marks a string as garbled. -/
def garble (r : StringRest) : StringRest :=
  (none, r.2)

/-- The characters up to the closing quote, and what follows it. -/
def stringBody? : List Char → Option StringRest
  | '"' :: rest => some (some [], rest)
  | '\\' :: 'u' :: a :: b :: c :: d :: rest =>
    match hexUnit? a b c d with
    | none => none
    | some n =>
      if 0xD800 ≤ n && n < 0xDC00 then
        match rest with
        | '\\' :: 'u' :: e :: f :: g :: h :: more =>
          match hexUnit? e f g h with
          | none => none
          | some m =>
            if 0xDC00 ≤ m && m < 0xE000 then (stringBody? more).map (consChar (pairChar n m))
            else (stringBody? more).map garble
        | rest => (stringBody? rest).map garble
      else if 0xDC00 ≤ n && n < 0xE000 then (stringBody? rest).map garble
      else (stringBody? rest).map (consChar (Char.ofNat n))
  | '\\' :: c :: rest =>
    match simpleEscape? c with
    | some e => (stringBody? rest).map (consChar e)
    | none => none
  | c :: rest =>
    if c.toNat < 32 || c = '\\' then none else (stringBody? rest).map (consChar c)
  | [] => none

/-- The value of a string. -/
def stringValue : Option (List Char) → Value
  | some cs => .str (String.ofList cs)
  | none => .garbled

/-- The digits before the point: a single zero, or no zero in front. -/
def wholePart? (cs : List Char) : Option (List Char × List Char) :=
  match cs.takeWhile Char.isDigit with
  | [] => none
  | '0' :: _ :: _ => none
  | ds => some (ds, cs.dropWhile Char.isDigit)

/-- A point and at least one digit, or neither. -/
def fraction? : List Char → Option (List Char × List Char)
  | '.' :: rest =>
    match rest.takeWhile Char.isDigit with
    | [] => none
    | ds => some (ds, rest.dropWhile Char.isDigit)
  | rest => some ([], rest)

/-- A mark, a sign and at least one digit, or none of them. -/
def power? : List Char → Option (Option Int × List Char)
  | c :: rest =>
    if c = 'e' || c = 'E' then
      let (negative, rest) := Decimal.spanSign rest
      match rest.takeWhile Char.isDigit with
      | [] => none
      | ds =>
        let n : Int := Text.natOfDigits ds
        some (some (if negative then -n else n), rest.dropWhile Char.isDigit)
    else some (none, c :: rest)
  | [] => some (none, [])

/-- A whole number if it fits into 64 bits, otherwise the nearest real number. -/
def wholeNumber (negative : Bool) (n : Nat) : Value :=
  if negative then
    if n = 0 || Nat.pow 2 63 < n then .float (Decimal.ofScientific true n 0) else .int (-(n : Int))
  else if n < Nat.pow 2 64 then .int n
  else .float (Decimal.ofScientific false n 0)

/-- A number after its sign. -/
def unsigned? (negative : Bool) (cs : List Char) : Option (Value × List Char) := do
  let (whole, rest) ← wholePart? cs
  let (back, rest) ← fraction? rest
  let (power, rest) ← power? rest
  let v :=
    if back.isEmpty && power.isNone then wholeNumber negative (Text.natOfDigits whole)
    else
      .float (Decimal.ofScientific negative (Text.natOfDigits (whole ++ back))
        (power.getD 0 - back.length))
  match v with
  | .float x => some (if x.isFinite then v else .garbled, rest)
  | _ => some (v, rest)

/-- A number. -/
def number? : List Char → Option (Value × List Char)
  | '-' :: rest => unsigned? true rest
  | rest => unsigned? false rest

/-- How deep values may be nested. -/
def depthLimit : Nat := 127

/-- A list or record at a depth that may be too great. -/
def nested (depth : Nat) (v : Value) : Value :=
  if depth = 0 then .garbled else v

/-- A record with a member of a name that may be garbled. -/
def consMember (name : Option (List Char)) (v : Value) : Value → Value
  | .obj members =>
    match name with
    | some cs => .obj ((String.ofList cs, v) :: members)
    | none => .garbled
  | other => other

mutual

/-- A value at the start of the text and what follows it. Every step takes a character, so the
length of the text is enough fuel. -/
def value? (fuel depth : Nat) (cs : List Char) : Option (Value × List Char) :=
  match fuel with
  | 0 => none
  | fuel + 1 =>
    match cs with
    | 'n' :: 'u' :: 'l' :: 'l' :: rest => some (.null, rest)
    | 't' :: 'r' :: 'u' :: 'e' :: rest => some (.bool true, rest)
    | 'f' :: 'a' :: 'l' :: 's' :: 'e' :: rest => some (.bool false, rest)
    | '"' :: rest => (stringBody? rest).map fun r => (stringValue r.1, r.2)
    | '[' :: rest =>
      match skip rest with
      | ']' :: rest => some (nested depth (.arr []), rest)
      | start =>
        match value? fuel (depth - 1) start with
        | none => none
        | some (v, rest) =>
          (items? fuel (depth - 1) (skip rest)).map fun r => (nested depth (.arr (v :: r.1)), r.2)
    | '\x7b' :: rest =>
      match skip rest with
      | '\x7d' :: rest => some (nested depth (.obj []), rest)
      | start =>
        match member? fuel (depth - 1) start with
        | none => none
        | some ((name, v), rest) =>
          (members? fuel (depth - 1) (skip rest)).map fun r =>
            (nested depth (consMember name v r.1), r.2)
    | _ => number? cs

/-- A name, a colon and a value. -/
def member? (fuel depth : Nat) (cs : List Char) :
    Option ((Option (List Char) × Value) × List Char) :=
  match fuel with
  | 0 => none
  | fuel + 1 =>
    match cs with
    | '"' :: rest =>
      match stringBody? rest with
      | none => none
      | some (name, rest) =>
        match skip rest with
        | ':' :: rest => (value? fuel depth (skip rest)).map fun r => ((name, r.1), r.2)
        | _ => none
    | _ => none

/-- The elements after the first, up to the closing bracket. -/
def items? (fuel depth : Nat) (cs : List Char) : Option (List Value × List Char) :=
  match fuel with
  | 0 => none
  | fuel + 1 =>
    match cs with
    | ']' :: rest => some ([], rest)
    | ',' :: rest =>
      match value? fuel depth (skip rest) with
      | none => none
      | some (v, rest) => (items? fuel depth (skip rest)).map fun r => (v :: r.1, r.2)
    | _ => none

/-- The record of the members after the first, up to the closing brace. -/
def members? (fuel depth : Nat) (cs : List Char) : Option (Value × List Char) :=
  match fuel with
  | 0 => none
  | fuel + 1 =>
    match cs with
    | '\x7d' :: rest => some (.obj [], rest)
    | ',' :: rest =>
      match member? fuel depth (skip rest) with
      | none => none
      | some ((name, v), rest) =>
        (members? fuel depth (skip rest)).map fun r => (consMember name v r.1, r.2)
    | _ => none

end

/-- A whole text: one value, with blanks around it. -/
def parseChars? (cs : List Char) : Option Value :=
  match value? (cs.length + 1) depthLimit (skip cs) with
  | some (v, rest) => if (skip rest).isEmpty then some v else none
  | none => none

/-- Reads a document. -/
def parse? (s : String) : Option Value :=
  parseChars? s.toList

end ValidatorWatch.Document.Json
