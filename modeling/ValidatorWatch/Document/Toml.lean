import ValidatorWatch.Document.Toml.Quoted
import ValidatorWatch.Document.Toml.Scalar
import ValidatorWatch.Document.Toml.Table
/-!
# Settings files

The text form of settings. A statement stands on a line of its own, perhaps with a comment behind
it: a table header in brackets, or a name, an equals sign and a value. A value may be a list or a
record, which may take several lines. `parse?` reads a whole file, and any fault anywhere is a fault
of the whole.
-/

namespace ValidatorWatch.Document.Toml

/-! ## Blanks and comments -/

/-- Skips blanks. -/
def skip (cs : List Char) : List Char :=
  cs.dropWhile isSpace

/-- Skips a comment up to the end of its line. -/
def skipComment : List Char → List Char
  | '#' :: rest => rest.dropWhile isPlain
  | cs => cs

/-- The end of a statement: blanks, perhaps a comment, and a line break or the end of the text. -/
def lineEnd? (cs : List Char) : Option (List Char) :=
  match skipComment (skip cs) with
  | [] => some []
  | rest => lineBreak? rest

/-- Skips blanks, line breaks and comments. Every step takes a character, so the length of the text
is enough fuel; that holds for all readers here. -/
def skipLines (fuel : Nat) (cs : List Char) : List Char :=
  match fuel with
  | 0 => cs
  | fuel + 1 =>
    let cs := skipComment (skip cs)
    match lineBreak? cs with
    | some rest => skipLines fuel rest
    | none => cs

/-- Skips all blanks, line breaks and comments. -/
def skipAll (cs : List Char) : List Char :=
  skipLines cs.length cs

/-! ## Names -/

/-- Characters of a name without quotes. -/
def isNameChar (c : Char) : Bool :=
  c.isAlphanum || c = '_' || c = '-'

/-- A name. -/
def name? (cs : List Char) : Option (String × List Char) :=
  match quotedLine? cs with
  | some (s, rest) => some (String.ofList s, rest)
  | none =>
    match cs.takeWhile isNameChar with
    | [] => none
    | s => some (String.ofList s, cs.dropWhile isNameChar)

/-- How many names there may be with dots between them. -/
def pathLimit : Nat := 80

/-- Names with dots between them, the last one apart. -/
def path? (fuel : Nat) (cs : List Char) : Option ((List String × String) × List Char) :=
  match fuel with
  | 0 => none
  | fuel + 1 =>
    match name? cs with
    | none => none
    | some (name, rest) =>
      match skip rest with
      | '.' :: more => (path? fuel (skip more)).map fun r => ((name :: r.1.1, r.1.2), r.2)
      | _ => some (([], name), rest)

/-! ## Values -/

/-- How deep values may be nested. -/
def depthLimit : Nat := 80

mutual

/-- A value and what follows it. -/
def value? (fuel depth : Nat) (cs : List Char) : Option (Value × List Char) :=
  match fuel with
  | 0 => none
  | fuel + 1 =>
    match cs with
    | '"' :: _ | '\'' :: _ => (quoted? cs).map fun r => (.str (String.ofList r.1), r.2)
    | '[' :: rest =>
      if depth = 0 then none
      else (items? fuel (depth - 1) rest).map fun r => (.arr r.1, r.2)
    | '\x7b' :: rest =>
      if depth = 0 then none
      else
        match inline? fuel (depth - 1) rest with
        | none => none
        | some (entries, rest) => (inlineTable? entries).map fun v => (v, rest)
    | _ =>
      let (text, rest) := spanScalar cs
      (ofScalar? text).map fun v => (v, rest)

/-- The elements of a list up to the closing bracket; a comma may stand behind the last. -/
def items? (fuel depth : Nat) (cs : List Char) : Option (List Value × List Char) :=
  match fuel with
  | 0 => none
  | fuel + 1 =>
    match skipAll cs with
    | ']' :: rest => some ([], rest)
    | start =>
      match value? fuel depth start with
      | none => none
      | some (v, rest) =>
        match skipAll rest with
        | ']' :: rest => some ([v], rest)
        | ',' :: rest => (items? fuel depth rest).map fun r => (v :: r.1, r.2)
        | _ => none

/-- A name, an equals sign and a value. What may stand around the sign depends on the place. -/
def pair? (gap : List Char → List Char) (fuel depth : Nat) (cs : List Char) :
    Option ((List String × String × Value) × List Char) :=
  match fuel with
  | 0 => none
  | fuel + 1 =>
    match path? pathLimit cs with
    | none => none
    | some ((path, name), rest) =>
      match gap rest with
      | '=' :: rest => (value? fuel depth (gap rest)).map fun r => ((path, name, r.1), r.2)
      | _ => none

/-- The entries of a record up to the closing brace; a comma may stand behind the last. -/
def inline? (fuel depth : Nat) (cs : List Char) :
    Option (List (List String × String × Value) × List Char) :=
  match fuel with
  | 0 => none
  | fuel + 1 =>
    match skipAll cs with
    | '\x7d' :: rest => some ([], rest)
    | start =>
      match pair? skipAll fuel depth start with
      | none => none
      | some (e, rest) =>
        match skipAll rest with
        | '\x7d' :: rest => some ([e], rest)
        | ',' :: rest => (inline? fuel depth rest).map fun r => (e :: r.1, r.2)
        | _ => none

end

/-! ## Statements -/

/-- The path between the brackets of a header. -/
def headerPath? (cs : List Char) : Option ((List String × String) × List Char) :=
  (path? pathLimit (skip cs)).map fun r => (r.1, skip r.2)

/-- A statement and what follows it on its line. -/
def statement? (cs : List Char) : Option (Statement × List Char) :=
  match cs with
  | '[' :: '[' :: rest =>
    match headerPath? rest with
    | some ((path, name), ']' :: ']' :: rest) => some (.tables path name, rest)
    | _ => none
  | '[' :: rest =>
    match headerPath? rest with
    | some ((path, name), ']' :: rest) => some (.table path name, rest)
    | _ => none
  | _ =>
    (pair? skip (2 * cs.length + 2) depthLimit cs).map fun r =>
      (.entry r.1.1 r.1.2.1 r.1.2.2, r.2)

/-- The statements of a file. -/
def statements? (fuel : Nat) (cs : List Char) : Option (List Statement) :=
  match fuel with
  | 0 => none
  | fuel + 1 =>
    match skipAll cs with
    | [] => some []
    | start =>
      match statement? start with
      | none => none
      | some (s, rest) =>
        match lineEnd? rest with
        | none => none
        | some rest => (statements? fuel rest).map (s :: ·)

/-- A file without the mark of its byte order. -/
def dropByteOrderMark : List Char → List Char
  | '\ufeff' :: rest => rest
  | cs => cs

/-- Reads a settings file. -/
def parse? (s : String) : Option Value :=
  let cs := dropByteOrderMark s.toList
  (statements? (cs.length + 1) cs).bind build?

end ValidatorWatch.Document.Toml
