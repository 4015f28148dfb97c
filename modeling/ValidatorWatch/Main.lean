import ValidatorWatch.Document.Json
import ValidatorWatch.Settings.Loading
import ValidatorWatch.Settings.Overview
/-!
# The command line

Loads settings and prints what they come to, or what is wrong with them. The arguments are the
folder and the files in it that declare validators; the folder may also be named by the environment.
-/

namespace ValidatorWatch

open Document

/-- The variable that names the folder. -/
def folderVariable : String := "CONFIG_DIR"

/-- The folder that is read unless another one is named. -/
def defaultFolder : String := "config"

/-- The variables that may hold credentials. -/
def credentialVariables : List String :=
  ["TELEGRAM_TOKEN", "TELEGRAM_CHAT_ID", "PUSHOVER_USER_KEY", "PUSHOVER_APP_TOKEN",
    "DISCORD_WEBHOOK_URL"]

/-- Adds a file to a folder, if it can be read. -/
def readInto (path : String) (files : Folder) (name : String) : IO Folder := do
  try
    return files.insert name (.file (← IO.FS.readFile s!"{path}/{name}"))
  catch _ => return files

/-- The credentials in the environment. -/
def readEnvironment : IO Credentials := do
  let found ← credentialVariables.mapM fun name => return (name, ← IO.getEnv name)
  return .ofEnvironment fun name => (found.lookup name).join

/-- Loads the settings of a folder with these files. -/
def readSettings (path : String) (names : List String) : IO (Except SettingsError Settings) := do
  let all := SettingsFolder.mainFile :: SettingsFolder.secretsFile :: names
  let files ← all.foldlM (readInto path) .empty
  return SettingsFolder.load ⟨path, files⟩ (← readEnvironment)

end ValidatorWatch

open ValidatorWatch ValidatorWatch.Document

/-- Prints an overview of the settings, or an error. -/
def main (args : List String) : IO UInt32 := do
  let path := (args.head?.or (← IO.getEnv folderVariable)).getD defaultFolder
  match ← readSettings path args.tail with
  | .ok s =>
    IO.println (Json.render .indented (.obj s.overview))
    return 0
  | .error e =>
    IO.eprintln e.message
    return 1
