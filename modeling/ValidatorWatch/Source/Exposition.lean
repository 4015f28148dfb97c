import ValidatorWatch.Decimal.Literal
import ValidatorWatch.NameMap
/-!
# Metric pages

Nodes and hosts tell their figures on a page of text, one sample a line: a name, labels in braces, a
value, and perhaps a time, which is passed over. Lines that are not of this form are passed over
too, and so are comments.
-/

namespace ValidatorWatch

/-- One sample. The value is unknown if the page has no finite number there. -/
structure Sample where
  name : String
  labels : NameMap String
  value : Option Float

namespace Sample

/-- Whether a sample has the label with that value. -/
def hasLabel (s : Sample) (key value : String) : Bool :=
  s.labels.get? key = some value

end Sample

/-- The samples of a page, in order. -/
structure Exposition where
  samples : List Sample

namespace Exposition

/-- The words for values without digits. -/
def isSpecial (word : List Char) : Bool :=
  let s := String.ofList word
  s = "NaN" || s = "+Inf" || s = "-Inf" || s = "Inf"

/-- A value: a finite number, or one of the words for values without digits. -/
def value? (word : List Char) : Option (Option Float) :=
  match Decimal.readFloat? word with
  | some x => if x.isFinite then some (some x) else if isSpecial word then some none else none
  | none => if isSpecial word then some none else none

/-- The characters of a label's value up to the closing quote, and what follows it. -/
def quoted? : List Char → Option (List Char × List Char)
  | [] => none
  | '"' :: rest => some ([], rest)
  | '\\' :: c :: rest =>
    (quoted? rest).map fun r => ((if c = 'n' then '\n' else c) :: r.1, r.2)
  | ['\\'] => none
  | c :: rest => (quoted? rest).map fun r => (c :: r.1, r.2)

/-- The characters up to an equals sign, and what follows it. -/
def upToEquals? : List Char → Option (List Char × List Char)
  | [] => none
  | c :: rest =>
    if c = '=' then some ([], rest)
    else (upToEquals? rest).map fun r => (c :: r.1, r.2)

/-- Blanks and commas may stand before a label. -/
def skipSeparators (cs : List Char) : List Char :=
  cs.dropWhile fun c => Text.isBlank c || c = ','

/-- Labels up to the closing brace, and what follows it. Every label takes a character, so the
length of the text is enough fuel. -/
def labels? (fuel : Nat) (found : NameMap String) (cs : List Char) :
    Option (NameMap String × List Char) :=
  match fuel with
  | 0 => none
  | fuel + 1 =>
    match skipSeparators cs with
    | [] => none
    | '\x7d' :: rest => some (found, rest)
    | first :: rest => do
      let (key, rest) ← upToEquals? rest
      match rest with
      | '"' :: rest => do
        let (value, rest) ← quoted? rest
        let name := String.ofList (Text.trimChars (first :: key))
        labels? fuel (found.insert name (String.ofList value)) rest
      | _ => none

/-- A character that ends a sample's name. -/
def endsName (c : Char) : Bool :=
  c = '\x7b' || Text.isBlank c

/-- The sample of a line, if it has one. -/
def sample? (line : List Char) : Option Sample :=
  let line := Text.trimChars line
  let name := line.takeWhile fun c => !endsName c
  let rest := line.dropWhile fun c => !endsName c
  if name.isEmpty || name.head? = some '#' then none
  else do
    let (labels, rest) ←
      match rest with
      | '\x7b' :: rest => labels? (rest.length + 1) .empty rest
      | rest => some (.empty, rest)
    let word ← Text.firstWord rest
    let value ← value? word
    return ⟨String.ofList name, labels, value⟩

/-- The samples of a page. -/
def parse (text : String) : Exposition :=
  ⟨(Text.lines text.toList).filterMap sample?⟩

/-- The samples of that name. -/
def named (e : Exposition) (name : String) : List Sample :=
  e.samples.filter fun s => s.name = name

/-- The value of the first sample of that name. -/
def first? (e : Exposition) (name : String) : Option Float :=
  (e.named name).head?.bind Sample.value

/-- The value of the first sample of that name with that label. -/
def withLabel? (e : Exposition) (name key value : String) : Option Float :=
  ((e.named name).find? fun s => s.hasLabel key value).bind Sample.value

end Exposition

end ValidatorWatch
