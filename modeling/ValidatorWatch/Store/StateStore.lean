import ValidatorWatch.Document.Json
import ValidatorWatch.Store.Folder
import ValidatorWatch.Validator.Encoding
/-!
# The state store

The state of each validator is a file in the state folder, so that the monitor goes on after a
restart where it was. A file is written under another name first and then takes its own name in one
step: what is there under that name is always a whole file, the old one or the new one.

The name of a file is made of the validator's name. Characters that are not ASCII letters, digits,
hyphens or underscores become underscores, so two names may share a file.
-/

namespace ValidatorWatch

open Document
open Time (Instant)

/-- Why a state could not be written or read. -/
inductive PersistenceError where
  | writeFailed (path : String) (reason : String)
  | readFailed (path : String) (reason : String)
  | corrupt (path : String) (reason : String)
  deriving DecidableEq, Inhabited

namespace PersistenceError

/-- The words for it. -/
def message : PersistenceError → String
  | .writeFailed path reason => s!"Failed to write state '{path}': {reason}"
  | .readFailed path reason => s!"Failed to read state '{path}': {reason}"
  | .corrupt path reason => s!"State file '{path}' is corrupt: {reason}"

end PersistenceError

/-- What is where the state folder belongs: nothing yet, a file in its place, or the folder. -/
inductive StatePlace where
  | absent
  | occupied
  | folder (files : Folder)

/-- The state folder. -/
structure StateStore where
  path : String
  place : StatePlace

/-- What a state file holds. -/
structure StateFile where
  version : Nat
  validator : String
  savedAt : Instant
  state : State
  deriving DecidableEq

/-- Trouble of the operating system during one save: it cannot make the folder, breaks off while it
writes and may leave any text in the temporary file, or cannot rename. -/
inductive SaveTrouble where
  | creating (reason : String)
  | writing (left : Option String) (reason : String)
  | renaming (reason : String)
  deriving DecidableEq

namespace StateFile

/-- The version of the form below. -/
def currentVersion : Nat := 1

/-- The members of a state file, in order. -/
def memberNames : List String :=
  ["version", "validator", "saved_at", "state"]

/-- Writes a state file. -/
def toValue (f : StateFile) : Value :=
  .obj [("version", .nat f.version), ("validator", .str f.validator),
    ("saved_at", .ofInstant f.savedAt), ("state", f.state.toValue)]

/-- Reads a state file. -/
def ofValue? (v : Value) : Option StateFile := do
  let f ← v.fields? memberNames
  return {
    version := ← f.required? "version" (Value.nat? 32)
    validator := ← f.required? "validator" Value.text?
    savedAt := ← f.required? "saved_at" Value.instant?
    state := ← f.required? "state" State.ofValue? }

/-- The text of a state file. -/
def text (f : StateFile) : String :=
  Json.render .indented f.toValue

/-- Reads the text of a state file. -/
def ofText? (s : String) : Option StateFile :=
  (Json.parse? s).bind ofValue?

end StateFile

namespace StateStore

/-! ## Names -/

/-- Characters of a validator's name that stay. -/
def isSafe (c : Char) : Bool :=
  c.isAlphanum || c = '-' || c = '_'

/-- A validator's name as part of a file name. -/
def safeName (validator : String) : List Char :=
  validator.toList.map fun c => if isSafe c then c else '_'

/-- The name of a validator's file. -/
def fileName (validator : String) : String :=
  String.ofList ("state_".toList ++ safeName validator ++ ".json".toList)

/-- The name under which a validator's file is written first. -/
def temporaryName (validator : String) : String :=
  String.ofList ((fileName validator).toList ++ ".tmp".toList)

/-- Where a validator's file is. -/
def filePath (s : StateStore) (validator : String) : String :=
  let name := fileName validator
  s!"{s.path}/{name}"

/-! ## The folder -/

/-- The names of the files. -/
def fileNames (s : StateStore) : List String :=
  match s.place with
  | .folder files => files.names
  | _ => []

/-- The folder, made if it is not there. -/
def makeFolder : StatePlace → Except FileFault Folder
  | .absent => .ok .empty
  | .occupied => .error .exists
  | .folder files => .ok files

/-! ## Writing -/

/-- Writes a text under a temporary name and gives it its own name, as far as that goes. The folder
is what it is then, also after a failure. -/
def replaceFile (trouble : Option SaveTrouble) (temporary name text : String) (place : StatePlace) :
    Except String Unit × StatePlace :=
  match trouble, makeFolder place with
  | some (.creating reason), _ => (.error reason, place)
  | _, .error fault => (.error fault.message, place)
  | some (.writing left reason), .ok files =>
    (.error reason,
      .folder (match left.map (files.write temporary) with
        | some (.ok files) => files
        | _ => files))
  | trouble, .ok files =>
    match files.write temporary text with
    | .error fault => (.error fault.message, .folder files)
    | .ok written =>
      match trouble with
      | some (.renaming reason) => (.error reason, .folder written)
      | _ =>
        match written.rename temporary name with
        | .error fault => (.error fault.message, .folder written)
        | .ok files => (.ok (), .folder files)

/-- Saves the state of a validator. -/
def save (s : StateStore) (trouble : Option SaveTrouble) (now : Instant) (validator : String)
    (state : State) : Except PersistenceError Unit × StateStore :=
  let file : StateFile := ⟨StateFile.currentVersion, validator, now, state⟩
  let (outcome, place) :=
    replaceFile trouble (temporaryName validator) (fileName validator) file.text s.place
  (outcome.mapError (.writeFailed (s.filePath validator)), { s with place := place })

/-! ## Reading -/

/-- Reads a file. -/
def readFile (s : StateStore) (name : String) : Except FileFault String :=
  match s.place with
  | .absent => .error .missing
  | .occupied => .error .notFolder
  | .folder files => files.read name

/-- Loads the state of a validator; none if it was never saved. -/
def load (s : StateStore) (validator : String) : Except PersistenceError (Option State) :=
  match s.readFile (fileName validator) with
  | .error .missing => .ok none
  | .error fault => .error (.readFailed (s.filePath validator) fault.message)
  | .ok text =>
    match StateFile.ofText? text with
    | some file => .ok (some file.state)
    | none => .error (.corrupt (s.filePath validator) "not a state file of the expected form")

/-- The state of a validator after a restart; a file that cannot be used counts as none. -/
def restore (s : StateStore) (validator : String) : Option State :=
  match s.load validator with
  | .ok state => state
  | .error _ => none

end StateStore

end ValidatorWatch
