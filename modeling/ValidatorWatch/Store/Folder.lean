import ValidatorWatch.NameMap
/-!
# Folders

The files that the monitor reads and writes, as values. A folder has entries by name, each of them a
text or a folder. Reading and writing fail the way the operating system says.
-/

namespace ValidatorWatch

/-- What a name in a folder stands for. -/
inductive FolderEntry where
  | file (text : String)
  | folder
  deriving DecidableEq, Inhabited

/-- A folder. -/
abbrev Folder := NameMap FolderEntry

/-- Why a file cannot be used. -/
inductive FileFault where
  | missing
  | exists
  | notFolder
  | isFolder
  | nameTooLong
  deriving DecidableEq, Inhabited

namespace FileFault

/-- The words of the operating system. -/
def message : FileFault → String
  | .missing => "No such file or directory (os error 2)"
  | .exists => "File exists (os error 17)"
  | .notFolder => "Not a directory (os error 20)"
  | .isFolder => "Is a directory (os error 21)"
  | .nameTooLong => "File name too long (os error 36)"

end FileFault

namespace Folder

/-- The most bytes that a name may have. -/
def nameLimit : Nat := 255

/-- The text of a file. -/
def read (d : Folder) (name : String) : Except FileFault String :=
  if nameLimit < name.utf8ByteSize then .error .nameTooLong
  else
    match d.get? name with
    | some (.file text) => .ok text
    | some .folder => .error .isFolder
    | none => .error .missing

/-- Writes a file. -/
def write (d : Folder) (name text : String) : Except FileFault Folder :=
  if nameLimit < name.utf8ByteSize then .error .nameTooLong
  else
    match d.get? name with
    | some .folder => .error .isFolder
    | _ => .ok (d.insert name (.file text))

/-- Gives a file another name, in one step; what had that name is gone. -/
def rename (d : Folder) (source target : String) : Except FileFault Folder :=
  match d.get? source, d.get? target with
  | some (.file text), some (.file _) | some (.file text), none =>
    .ok ((d.erase source).insert target (.file text))
  | some (.file _), some .folder => .error .isFolder
  | _, _ => .error .missing

end Folder

end ValidatorWatch
