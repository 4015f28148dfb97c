import ValidatorWatch.Text.Percent
/-!
# Targets of requests

The target of a request is a path and perhaps a query; a scheme and a host may stand in front of
them. Path and query may have bytes written as a percent sign and two hexadecimal digits; in a query
a plus sign is a blank. What does not decode to text cannot be read.
-/

namespace ValidatorWatch.Web

/-- A text in a query: a plus sign is a blank. -/
def decodeQuery? (cs : List Char) : Option String :=
  Text.decodePercent? (cs.map fun c => if c = '+' then ' ' else c)

/-- The target of a request: the pieces of its path, and its query. -/
structure Target where
  path : List (List Char)
  query : List Char
  deriving DecidableEq

/-- Characters of a scheme. -/
def isSchemeChar (c : Char) : Bool :=
  c.isAlphanum || c = '+' || c = '-' || c = '.'

/-- A target without scheme and host, if it has them. -/
def withoutHost (cs : List Char) : List Char :=
  match cs.dropWhile isSchemeChar with
  | ':' :: '/' :: '/' :: rest => rest.dropWhile fun c => c ≠ '/' && c ≠ '?'
  | _ => cs

/-- Reads a target. What stands behind a number sign does not belong to it. -/
def Target.ofString (s : String) : Target :=
  let cs := withoutHost (s.toList.takeWhile (· ≠ '#'))
  ⟨Text.pieces '/' (cs.takeWhile (· ≠ '?')), (cs.dropWhile (· ≠ '?')).drop 1⟩

/-- A part of a query, a name and a value with an equals sign between them. -/
def queryPart (cs : List Char) : Option String × Option String :=
  (decodeQuery? (cs.takeWhile (· ≠ '=')), decodeQuery? ((cs.dropWhile (· ≠ '=')).drop 1))

/-- The parts of a query. -/
def queryParts (query : List Char) : List (Option String × Option String) :=
  ((Text.pieces '&' query).filter fun part => !part.isEmpty).map queryPart

/-- A value from a query. It may be missing, but it may not be there twice or be of another form. -/
def queryValue? {α : Type} (query : List Char) (name : String) (default : α)
    (read : String → Option α) : Option α :=
  match (queryParts query).filter fun part => part.1 = some name with
  | [] => some default
  | [(_, value)] => value.bind read
  | _ => none

/-- One of the two words for truth values. -/
def readFlag? : String → Option Bool
  | "true" => some true
  | "false" => some false
  | _ => none

/-- A count of 32 bits, perhaps with a plus sign. -/
def readCount? (s : String) : Option Nat :=
  let ds :=
    match s.toList with
    | '+' :: rest => rest
    | rest => rest
  if ds.isEmpty || !ds.all Char.isDigit then none
  else
    let n := Text.natOfDigits ds
    if n < Nat.pow 2 32 then some n else none

end ValidatorWatch.Web
