import ValidatorWatch.NameMap
/-!
# Documents

State files, settings and answers of other services are documents: texts, numbers, lists and records
nested in each other. A `Value` keeps the members of a record in the order in which they were
written, and a whole number apart from a real one.

A text may be well formed and yet have parts that stand for nothing, such as a number too great to
be kept. Such a part is `garbled`. No reader takes it, but a document is not spoilt by what its
reader passes over.
-/

namespace ValidatorWatch.Document

/-- A document or a part of one. -/
inductive Value where
  | null
  | bool (b : Bool)
  | int (n : Int)
  | float (x : Float)
  | str (s : String)
  | arr (items : List Value)
  | obj (members : List (String × Value))
  | garbled
  deriving Inhabited

namespace Value

/-- The first member of that name. -/
def get? (name : String) : Value → Option Value
  | .obj members => members.lookup name
  | _ => none

/-- A count. -/
def nat (n : Nat) : Value :=
  .int n

/-- Nothing, or a value. -/
def ofOption {α : Type} (f : α → Value) : Option α → Value
  | none => .null
  | some a => f a

/-- A record with the names of a map, in their order. -/
def ofNameMap {α : Type} (f : α → Value) (m : NameMap α) : Value :=
  .obj (m.entries.map fun e => (e.1, f e.2))

/-- A list. -/
def ofList {α : Type} (f : α → Value) (xs : List α) : Value :=
  .arr (xs.map f)

/-- A text, if it is one. -/
def text? : Value → Option String
  | .str s => some s
  | _ => none

/-- A truth value, if it is one. -/
def bool? : Value → Option Bool
  | .bool b => some b
  | _ => none

/-- A whole number of at most `bits` bits, without sign. -/
def nat? (bits : Nat) : Value → Option Nat
  | .int n => if 0 ≤ n ∧ n < (Nat.pow 2 bits : Nat) then some n.toNat else none
  | _ => none

/-- A whole number of 64 bits, one of them the sign. -/
def int64? : Value → Option Int
  | .int n => if -(Nat.pow 2 63 : Nat) ≤ n ∧ n < (Nat.pow 2 63 : Nat) then some n else none
  | _ => none

/-- A record. -/
def members? : Value → Option (List (String × Value))
  | .obj members => some members
  | _ => none

/-- The elements of a list. -/
def items? : Value → Option (List Value)
  | .arr items => some items
  | _ => none

mutual

/-- Whether no part of a document is garbled. -/
def isSound : Value → Bool
  | .garbled => false
  | .arr items => areSound items
  | .obj members => areSoundMembers members
  | _ => true

/-- Whether no part of a list is garbled. -/
def areSound : List Value → Bool
  | [] => true
  | v :: rest => v.isSound && areSound rest

/-- Whether no part of any member is garbled. -/
def areSoundMembers : List (String × Value) → Bool
  | [] => true
  | (_, v) :: rest => v.isSound && areSoundMembers rest

end

mutual

/-- A document in which every name of a record occurs once. Of equal names the last one counts. -/
def settle : Value → Value
  | .arr items => .arr (settleItems items)
  | .obj members => .obj (settleMembers members)
  | v => v

/-- Settles the elements of a list. -/
def settleItems : List Value → List Value
  | [] => []
  | v :: rest => settle v :: settleItems rest

/-- Drops a member if its name comes again, and settles the others. -/
def settleMembers : List (String × Value) → List (String × Value)
  | [] => []
  | (name, v) :: rest =>
    if rest.any fun m => m.1 = name then settleMembers rest
    else (name, settle v) :: settleMembers rest

end

end Value

end ValidatorWatch.Document
