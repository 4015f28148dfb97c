import ValidatorWatch.Document.Value
import ValidatorWatch.Time.Stamp
/-!
# Records in documents

How the members of a record are read. A record may be written with names or as a list of its members
in their order. With names, a member that occurs twice is refused, and a member that may be missing
counts as nothing. A member with a default may be missing but not empty.

One of a fixed set of words is written as the word, or as a record whose only member is the word
with nothing in it.

JSON and TOML differ in three points. JSON passes over unknown members unread, and a list may not be
longer than the record it stands for; what nothing is, is `null`. TOML reads unknown members too,
but leaves the rest of a list that is too long unread; nothing is an empty list or record.
-/

namespace ValidatorWatch.Document

/-- The text form that a document was read from. -/
inductive Format where
  | json
  | toml
  deriving DecidableEq

namespace Format

/-- What may stand in a record beside its members. -/
def passesOver : Format → Value → Bool
  | .json, _ => true
  | .toml, v => v.isSound

/-- Whether a list of a length may stand for a record of so many members. -/
def fits (format : Format) (length members : Nat) : Bool :=
  format = .toml || length ≤ members

/-- What stands for nothing. -/
def isNothing : Format → Value → Bool
  | .json, .null => true
  | .toml, .arr [] => true
  | .toml, .obj [] => true
  | _, _ => false

end Format

/-- The members of a record, found by name or by place. -/
structure Fields where
  lookup : String → Option Value
  byPlace : Bool

namespace Value

/-- The members of a record that has these names. -/
def fieldsIn? (format : Format) (names : List String) : Value → Option Fields
  | .obj members =>
    if names.any fun n => 2 ≤ members.countP (fun m => m.1 = n) then none
    else if members.all fun m => names.contains m.1 || format.passesOver m.2 then
      some ⟨fun n => members.lookup n, false⟩
    else none
  | .arr items =>
    if format.fits items.length names.length then
      some ⟨fun n => (names.zip items).lookup n, true⟩
    else none
  | _ => none

/-- The members of a record of a JSON document. -/
def fields? (names : List String) : Value → Option Fields :=
  fieldsIn? .json names

/-- Any value without garbled parts. -/
def sound? (v : Value) : Option Value :=
  if v.isSound then some v else none

/-- A real number; a whole number of 64 bits will do. -/
def real? : Value → Option Float
  | .float x => some x
  | .int n =>
    if -(Nat.pow 2 63 : Nat) ≤ n ∧ n < (Nat.pow 2 64 : Nat) then
      some (Decimal.ofScientific (n < 0) n.natAbs 0)
    else none
  | _ => none

/-- Nothing, or what the reader takes. -/
def optional? {α : Type} (read : Value → Option α) : Value → Option (Option α)
  | .null => some none
  | v => (read v).map some

/-- A list of what the reader takes. -/
def listOf? {α : Type} (read : Value → Option α) : Value → Option (List α)
  | .arr items => items.mapM read
  | _ => none

/-- A record of any names; of equal names the last one counts. -/
def mapOf? {α : Type} (read : Value → Option α) : Value → Option (NameMap α)
  | .obj members =>
    (members.mapM fun m => (read m.2).map fun a => (m.1, a)).map NameMap.ofList
  | _ => none

/-- One of a set of words. -/
def wordIn? {α : Type} (format : Format) (ofWord? : String → Option α) : Value → Option α
  | .str s => ofWord? s
  | .obj [(s, v)] => if format.isNothing v then ofWord? s else none
  | _ => none

/-- One of a set of words in a JSON document. -/
def word? {α : Type} (ofWord? : String → Option α) : Value → Option α :=
  wordIn? .json ofWord?

/-- A time stamp. -/
def instant? : Value → Option Time.Instant
  | .str s => Time.Instant.ofStamp? s
  | _ => none

/-- The document form of an instant. -/
def ofInstant (t : Time.Instant) : Value :=
  .str t.stamp

end Value

namespace Fields

variable {α : Type}

/-- A member that must be there. -/
def required? (f : Fields) (name : String) (read : Value → Option α) : Option α :=
  (f.lookup name).bind read

/-- A member that may be empty, or missing from a record with names. -/
def optional? (f : Fields) (name : String) (read : Value → Option α) : Option (Option α) :=
  match f.lookup name with
  | some v => v.optional? read
  | none => if f.byPlace then none else some none

/-- A member that has a default. -/
def withDefault? (f : Fields) (name : String) (default : α) (read : Value → Option α) : Option α :=
  match f.lookup name with
  | some v => read v
  | none => some default

end Fields

end ValidatorWatch.Document
