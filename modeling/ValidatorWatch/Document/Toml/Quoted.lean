import ValidatorWatch.Text.Blank
/-!
# Quoted strings of settings files

A string stands between double quotes, where a backslash escapes, or between single quotes, where
nothing does. Three quotes open a string of several lines, whose line breaks are kept as they are
written: only one right after the opening quotes does not count. Up to two quotes may stand right
before the closing three. Between double quotes a backslash at the end of a line takes the break and
all blanks after it away.
-/

namespace ValidatorWatch.Document.Toml

/-- The blanks within a line. -/
def isSpace (c : Char) : Bool :=
  c = ' ' || c = '\t'

/-- Characters that stand for themselves: the tabulator and all but control characters. -/
def isPlain (c : Char) : Bool :=
  c = '\t' || (32 ≤ c.toNat && c.toNat ≠ 127)

/-- A line break at the start, and what follows it. -/
def spanBreak? : List Char → Option (List Char × List Char)
  | '\n' :: rest => some (['\n'], rest)
  | '\r' :: '\n' :: rest => some (['\r', '\n'], rest)
  | _ => none

/-- What follows a line break at the start, if there is one. -/
def lineBreak? (cs : List Char) : Option (List Char) :=
  (spanBreak? cs).map Prod.snd

/-- The text without a line break at its start. -/
def dropBreak (cs : List Char) : List Char :=
  (lineBreak? cs).getD cs

/-- The character with the code that these hexadecimal digits spell. -/
def charOfHex? (ds : List Char) : Option Char := do
  let values ← ds.mapM Text.hexValue?
  let code := values.foldl (fun n d => n * 16 + d) 0
  if code < 0x110000 && !(0xD800 ≤ code && code < 0xE000) then some (Char.ofNat code) else none

/-- What an escape stands for, and what follows it. -/
def escape? : List Char → Option (Char × List Char)
  | 'b' :: rest => some ('\x08', rest)
  | 't' :: rest => some ('\t', rest)
  | 'n' :: rest => some ('\n', rest)
  | 'f' :: rest => some ('\x0c', rest)
  | 'r' :: rest => some ('\r', rest)
  | 'e' :: rest => some ('\x1b', rest)
  | '"' :: rest => some ('"', rest)
  | '\\' :: rest => some ('\\', rest)
  | 'x' :: a :: b :: rest => (charOfHex? [a, b]).map fun c => (c, rest)
  | 'u' :: a :: b :: c :: d :: rest => (charOfHex? [a, b, c, d]).map fun c => (c, rest)
  | 'U' :: a :: b :: c :: d :: e :: f :: g :: h :: rest =>
    (charOfHex? [a, b, c, d, e, f, g, h]).map fun c => (c, rest)
  | _ => none

/-- Puts characters in front of what a string still holds. -/
def before (cs : List Char) (r : List Char × List Char) : List Char × List Char :=
  (cs ++ r.1, r.2)

/-- A string of one line between double quotes, after the first. Every step takes a character, so
the length of the text is enough fuel; that holds for all readers here. -/
def basicLine? (fuel : Nat) (cs : List Char) : Option (List Char × List Char) :=
  match fuel with
  | 0 => none
  | fuel + 1 =>
    match cs with
    | [] => none
    | '"' :: rest => some ([], rest)
    | '\\' :: rest =>
      match escape? rest with
      | some (c, rest) => (basicLine? fuel rest).map (before [c])
      | none => none
    | c :: rest => if isPlain c then (basicLine? fuel rest).map (before [c]) else none

/-- A string of one line between single quotes, after the first. -/
def literalLine? (cs : List Char) : Option (List Char × List Char) :=
  match cs.dropWhile fun c => isPlain c && c ≠ '\'' with
  | '\'' :: rest => some (cs.takeWhile fun c => isPlain c && c ≠ '\'', rest)
  | _ => none

/-- Quotes within or at the end of a string of several lines: fewer than three stand for themselves,
and of more the last three close, with at most two before them. -/
def quoteRun (quote : Char) (cs : List Char) : Nat × Bool :=
  let n := (cs.takeWhile (· = quote)).length
  if n < 3 then (n, false) else (min (n - 3) 2, true)

/-- What is left after blanks and line breaks. -/
def dropGap : List Char → List Char
  | [] => []
  | '\r' :: '\n' :: rest => dropGap rest
  | c :: rest => if isSpace c || c = '\n' then dropGap rest else c :: rest

/-- A string of several lines between double quotes, after the first three. -/
def basicLines? (fuel : Nat) (cs : List Char) : Option (List Char × List Char) :=
  match fuel with
  | 0 => none
  | fuel + 1 =>
    match cs with
    | [] => none
    | '"' :: _ =>
      let (inside, closes) := quoteRun '"' cs
      let quotes := List.replicate inside '"'
      if closes then some (quotes, cs.drop (inside + 3))
      else (basicLines? fuel (cs.drop inside)).map (before quotes)
    | '\\' :: rest =>
      match lineBreak? (rest.dropWhile isSpace) with
      | some rest => basicLines? fuel (dropGap rest)
      | none =>
        match escape? rest with
        | some (c, rest) => (basicLines? fuel rest).map (before [c])
        | none => none
    | c :: rest =>
      match spanBreak? cs with
      | some (mark, rest) => (basicLines? fuel rest).map (before mark)
      | none => if isPlain c then (basicLines? fuel rest).map (before [c]) else none

/-- A string of several lines between single quotes, after the first three. -/
def literalLines? (fuel : Nat) (cs : List Char) : Option (List Char × List Char) :=
  match fuel with
  | 0 => none
  | fuel + 1 =>
    match cs with
    | [] => none
    | '\'' :: _ =>
      let (inside, closes) := quoteRun '\'' cs
      let quotes := List.replicate inside '\''
      if closes then some (quotes, cs.drop (inside + 3))
      else (literalLines? fuel (cs.drop inside)).map (before quotes)
    | c :: rest =>
      match spanBreak? cs with
      | some (mark, rest) => (literalLines? fuel rest).map (before mark)
      | none => if isPlain c then (literalLines? fuel rest).map (before [c]) else none

/-- A string of one line, as names may be. -/
def quotedLine? : List Char → Option (List Char × List Char)
  | '"' :: rest => basicLine? (rest.length + 1) rest
  | '\'' :: rest => literalLine? rest
  | _ => none

/-- A string of any kind. -/
def quoted? (cs : List Char) : Option (List Char × List Char) :=
  match cs with
  | '"' :: '"' :: '"' :: rest => basicLines? (rest.length + 1) (dropBreak rest)
  | '\'' :: '\'' :: '\'' :: rest => literalLines? (rest.length + 1) (dropBreak rest)
  | _ => quotedLine? cs

end ValidatorWatch.Document.Toml
