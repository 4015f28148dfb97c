import ValidatorWatch.Store.Folder
import ValidatorWatch.Store.History
import ValidatorWatch.Text.Percent
/-!
# Where the history is kept

The history is a file, named by a path below a folder. Opening it makes the folders on the way to it
and then the file. The folders are named as the path is written, but the file is named by what the
path decodes to: percent signs in it stand for bytes. So the file of a path whose folders have
percent signs in their names is looked for where no folder was made. A question mark would end the
path and begin options, and none may be given.
-/

namespace ValidatorWatch

namespace HistoryPath

/-- The names in a path; single points and nothing at all are no names. -/
def names (path : List Char) : List (List Char) :=
  (Text.pieces '/' path).filter fun name => !name.isEmpty && name ≠ ['.']

/-- The name of the folder above. -/
def above : List Char := ['.', '.']

/-- A place below or above a folder, innermost name first. -/
abbrev Place := List (List Char)

/-- Goes one name further. -/
def Place.step (place : Place) (name : List Char) : Place :=
  if name = above then
    match place with
    | inner :: rest => if inner = above then name :: place else rest
    | [] => [name]
  else name :: place

/-- The place that names lead to. -/
def Place.ofNames (names : List (List Char)) : Place :=
  names.foldl Place.step []

/-- The folders made on the way to a path. -/
def madeFolders (path : List Char) : List Place :=
  let way := (names path).dropLast
  (List.range way.length).map fun n => Place.ofNames (way.take (n + 1))

/-- Whether a place is a folder once these are made. Those above are there anyway. -/
def isFolder (made : List Place) (place : Place) : Bool :=
  place.all (· = above) || made.contains place

/-- Bytes that the name of a journal has more than that of its file. -/
def journalSuffix : Nat := 8

/-- How many bytes a name has. -/
def bytes (name : List Char) : Nat :=
  (String.ofList name).utf8ByteSize

/-- Whether a file can be made at a place, with a journal beside it. -/
def canHold (made : List Place) (place : Place) : Bool :=
  match place with
  | [] => false
  | name :: folder =>
    isFolder made folder && !isFolder made place &&
      bytes name + journalSuffix ≤ Folder.nameLimit

/-- Whether the operating system takes a text as a path. -/
def isPath (path : List Char) : Bool :=
  !path.contains '\x00' && (names path).all fun name => bytes name ≤ Folder.nameLimit

/-- Whether a history can be kept at a path below a folder in which there is nothing yet. -/
def isUsable (path : String) : Bool :=
  let cs := path.toList
  isPath cs && !cs.contains '?' &&
    match Text.decodePercent? cs with
    | some decoded =>
      isPath decoded.toList &&
        canHold (madeFolders cs) (Place.ofNames (names decoded.toList))
    | none => false

end HistoryPath

/-- A new history at a path below a folder in which there is nothing yet. -/
def History.create? (path : String) : Option History :=
  if HistoryPath.isUsable path then some {} else none

end ValidatorWatch
