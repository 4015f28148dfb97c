import ValidatorWatch.Document.Toml
import ValidatorWatch.Settings.Credentials
import ValidatorWatch.Settings.Encoding
import ValidatorWatch.Settings.Validation
import ValidatorWatch.Store.Folder
/-!
# Loading settings

Settings are a folder of files. The main file has everything but the validators, a second one may
have credentials, and every other file whose name ends in `.toml` declares validators. Files are
read in the order of their names, and a validator may be declared only once. What is loaded is
validated.
-/

namespace ValidatorWatch

open Document

/-- A folder of settings files, and where it is. -/
structure SettingsFolder where
  path : String
  files : Folder

namespace SettingsFolder

/-- The name of the main file. -/
def mainFile : String := "main.toml"

/-- The name of the file of credentials. -/
def secretsFile : String := "secrets.toml"

/-- Where a file is. -/
def filePath (d : SettingsFolder) (name : String) : String :=
  s!"{d.path}/{name}"

/-- What is said of a file that is not of the expected form. -/
def notSettings : String :=
  "not a settings file of the expected form"

/-- Reads a text with a reader of documents. -/
def parse {α : Type} (d : SettingsFolder) (name : String) (read : Value → Option α)
    (text : String) : Except SettingsError α :=
  match (Toml.parse? text).bind read with
  | some a => .ok a
  | none => .error (.parseError (d.filePath name) notSettings)

/-- Loads a file that has to be there. -/
def loadFile {α : Type} (d : SettingsFolder) (name : String) (read : Value → Option α) :
    Except SettingsError α :=
  match d.files.read name with
  | .ok text => d.parse name read text
  | .error fault => .error (.loadFailed (d.filePath name) fault.message)

/-- Loads the file of credentials, if there is one. -/
def loadCredentials (d : SettingsFolder) : Except SettingsError Credentials :=
  match d.files.read secretsFile with
  | .ok text => d.parse secretsFile (Credentials.ofValue? .toml) text
  | .error .missing => .ok {}
  | .error fault => .error (.parseError (d.filePath secretsFile) fault.message)

/-- Whether a file declares validators. -/
def isValidatorFile (name : String) : Bool :=
  ".toml".toList.isSuffixOf name.toList && name ≠ mainFile && name ≠ secretsFile

/-- Adds a validator of a file. -/
def addValidator (file : String) (known : NameMap ValidatorEntry) (e : String × ValidatorEntry) :
    Except SettingsError (NameMap ValidatorEntry) :=
  if known.contains e.1 then .error (.duplicateValidator e.1)
  else .ok (known.insert e.1 { e.2 with file := file })

/-- Adds the validators of a file. -/
def addFile (d : SettingsFolder) (known : NameMap ValidatorEntry) (file : String) :
    Except SettingsError (NameMap ValidatorEntry) := do
  let declared ← d.loadFile file (Settings.readValidators? .toml)
  declared.entries.foldlM (addValidator file) known

/-- Loads all validators. -/
def loadValidators (d : SettingsFolder) : Except SettingsError (NameMap ValidatorEntry) :=
  (d.files.names.filter isValidatorFile).foldlM d.addFile .empty

/-- Loads settings, with the credentials of the environment. -/
def load (d : SettingsFolder) (environment : Credentials) : Except SettingsError Settings := do
  let main ← d.loadFile mainFile (Settings.ofValue? .toml)
  let secrets ← d.loadCredentials
  let validators ← d.loadValidators
  let s := { environment.overlay (secrets.overlay main) with validators := validators }
  s.validate
  return s

end SettingsFolder

end ValidatorWatch
