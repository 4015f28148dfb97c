import ValidatorWatch.Document.Value
/-!
# Tables of settings files

A settings file is a sequence of statements: headers, which name the table that follows, and entries
of that table. `build?` puts the tables together. What is defined once cannot be defined again: an
entry has one value, a table one header, and a table that dotted names made has no header at all. A
table that only longer headers mention may still get a header of its own.
-/

namespace ValidatorWatch.Document.Toml

/-- How a table came about: by its header, because a longer header mentions it, or by dotted
names. -/
inductive Origin where
  | header
  | mention
  | dotted
  deriving DecidableEq

/-- What a name stands for: a value, a table, or a list of tables, the last one first. -/
inductive Node where
  | value (v : Value)
  | table (origin : Origin) (entries : List (String × Node))
  | tables (last : List (String × Node)) (earlier : List (List (String × Node)))

/-- The entries of a table, in the order in which they were written. -/
abbrev Entries := List (String × Node)

/-- A statement. -/
inductive Statement where
  | entry (path : List String) (name : String) (value : Value)
  | table (path : List String) (name : String)
  | tables (path : List String) (name : String)

namespace Entries

/-- Sets what a name stands for. -/
def put (name : String) (node : Node) : Entries → Entries
  | [] => [(name, node)]
  | (n, old) :: rest => if n = name then (n, node) :: rest else (n, old) :: put name node rest

/-- Changes the table at the end of a path. Headers may pass through any table, and through the last
one of a list; dotted names may not pass through a table that has a header. Tables that are missing
come about. -/
def changeAt? (dotted : Bool) (change : Origin → Entries → Option Entries) (origin : Origin) :
    List String → Entries → Option Entries
  | [], es => change origin es
  | name :: path, es =>
    match es.lookup name with
    | none =>
      let origin := if dotted then Origin.dotted else Origin.mention
      (changeAt? dotted change origin path []).map fun sub => es.put name (.table origin sub)
    | some (.table origin sub) =>
      if dotted && origin = .header then none
      else (changeAt? dotted change origin path sub).map fun sub => es.put name (.table origin sub)
    | some (.tables last earlier) =>
      (changeAt? dotted change .header path last).map fun last =>
        es.put name (.tables last earlier)
    | some (.value _) => none

/-- Adds an entry; dotted names must end in a table that dotted names made. -/
def addEntry? (path : List String) (name : String) (v : Value) (es : Entries) : Option Entries :=
  changeAt? true
    (fun origin es =>
      if !path.isEmpty && origin ≠ .dotted then none
      else
        match es.lookup name with
        | some _ => none
        | none => some (es.put name (.value v)))
    .header path es

/-- Adds a table by its header. -/
def addTable? (path : List String) (name : String) (es : Entries) : Option Entries :=
  changeAt? false
    (fun _ es =>
      match es.lookup name with
      | none => some (es.put name (.table .header []))
      | some (.table .mention sub) => some (es.put name (.table .header sub))
      | some _ => none)
    .header path es

/-- Adds a table to a list of tables by its header. -/
def addTables? (path : List String) (name : String) (es : Entries) : Option Entries :=
  changeAt? false
    (fun _ es =>
      match es.lookup name with
      | none => some (es.put name (.tables [] []))
      | some (.tables last earlier) => some (es.put name (.tables [] (last :: earlier)))
      | some _ => none)
    .header path es

end Entries

/-- The entries so far, and the header that the next entry belongs to. -/
structure Building where
  entries : Entries := []
  current : List String := []

namespace Building

/-- Adds a statement. -/
def add? (b : Building) : Statement → Option Building
  | .entry path name v =>
    (Entries.changeAt? false (fun _ es => es.addEntry? path name v) .header b.current
      b.entries).map fun es => { b with entries := es }
  | .table path name => (b.entries.addTable? path name).map fun es => ⟨es, path ++ [name]⟩
  | .tables path name => (b.entries.addTables? path name).map fun es => ⟨es, path ++ [name]⟩

end Building

mutual

/-- The document form of a name's meaning. -/
def Node.toValue : Node → Value
  | .value v => v
  | .table _ es => .obj (entriesValue es)
  | .tables last earlier => .arr ((tablesValue earlier).reverse ++ [.obj (entriesValue last)])

/-- The document form of entries. -/
def entriesValue : List (String × Node) → List (String × Value)
  | [] => []
  | (name, node) :: rest => (name, node.toValue) :: entriesValue rest

/-- The document form of a list of tables. -/
def tablesValue : List (List (String × Node)) → List Value
  | [] => []
  | es :: rest => .obj (entriesValue es) :: tablesValue rest

end

/-- Puts the tables of a file together. -/
def build? (statements : List Statement) : Option Value :=
  (statements.foldlM Building.add? {}).map fun b => .obj (entriesValue b.entries)

/-- The record that entries between braces make. -/
def inlineTable? (entries : List (List String × String × Value)) : Option Value :=
  (entries.foldlM (fun es e => Entries.addEntry? e.1 e.2.1 e.2.2 es) []).map fun es =>
    .obj (entriesValue es)

end ValidatorWatch.Document.Toml
