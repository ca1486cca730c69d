import CommandPlan.Definition.Reader
import CommandPlan.Fragment
import CommandPlan.Settings
import CommandPlan.Structure

/-! A run over the files of a workspace. What was done before a failure stays
done, and its records stay in the log. -/
namespace CommandPlan

inductive RunError where
  | files (error : FileError)
  | configurationUnreadable (path : Path) (error : FileError)
  | configurationMalformed (path : Path) (error : Yaml.ReadError)
  | settingsMalformed (path : Path) (error : Yaml.ReadError)
  | invalid (error : StructureError)
  | unknownCommand (name : String)
  /-- A question was to be asked, and nobody is there to answer. -/
  | noTerminal
deriving Repr

namespace RunError

def message : RunError → String
  | files error => "IO Error: " ++ error.message
  | configurationUnreadable path error =>
    "Could not read configuration '" ++ path.text ++ "': " ++ error.message
  | configurationMalformed path error =>
    "Could not parse configuration '" ++ path.text ++ "': " ++ error.message
  | settingsMalformed path error =>
    "Could not parse settings file '" ++ path.text ++ "': " ++ error.message
  | invalid error => error.message
  | unknownCommand name => "No command named '" ++ name ++ "' in the configuration"
  | noTerminal => "User interaction failed: IO error: not a terminal"

end RunError

/-- The files, the records so far, and what was printed. -/
structure Workspace where
  files : FileSystem
  log : List Record := []
  output : String := ""
deriving Repr, Inhabited

abbrev Run := ExceptT RunError (StateM Workspace)

namespace Run

def files : Run FileSystem := do
  pure (← get).files

def record (record : Record) : Run Unit :=
  modify fun workspace => { workspace with log := workspace.log ++ [record] }

def print (text : String) : Run Unit :=
  modify fun workspace => { workspace with output := workspace.output ++ text }

def ofLogged {α : Type} (logged : Logged α) : Run α := do
  modify fun workspace => { workspace with log := workspace.log ++ logged.log }
  pure logged.value

def ofExcept {α : Type} : Except RunError α → Run α
  | .ok value => pure value
  | .error error => throw error

def setFiles (files : FileSystem) : Run Unit :=
  modify fun workspace => { workspace with files }

/-- Creates a directory with its parents. Those made before a failure stay. -/
def makeDirectories (path : Path) : Run Unit := do
  let (files, result) := (← files).makeDirectories path
  setFiles files
  ofExcept (result.mapError .files)

/-- Writes a text to a file, or fails without a change. -/
def writeText (path : Path) (text : String) : Run Unit := do
  setFiles (← ofExcept (((← files).writeText path text).mapError .files))

end Run

/-- The definition in a configuration file. -/
def readConfiguration (files : FileSystem) (path : Path) : Except RunError Definition := do
  let text ← (files.readText path).mapError (.configurationUnreadable path)
  (Definition.read text).mapError (.configurationMalformed path)

/-- The command tree of a configuration file, if it keeps the rules. -/
def loadTree (files : FileSystem) (path : Path) : Except RunError Command := do
  let root := Command.root (← readConfiguration files path)
  root.verifyTree.mapError .invalid
  pure root

end CommandPlan
