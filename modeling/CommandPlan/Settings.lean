import CommandPlan.FileSystem
import CommandPlan.Text.Blank
import CommandPlan.Yaml.Reader

/-! The settings of a run, from four layers: the command line, the environment,
the user's own file, and what holds without any of them. -/
namespace CommandPlan

open Yaml

/-- Defaults from the user's own file. -/
structure UserSettings where
  sourceDirectory : Option Path := none
  /-- The configuration's name, relative to the source directory. -/
  configurationFile : Option String := none
  color : Option Bool := none
deriving DecidableEq, Repr, Inhabited

namespace UserSettings

/-- The settings as far as they are read. -/
structure Draft where
  sourceDirectory : Option (Option String) := none
  configurationFile : Option (Option String) := none
  color : Option (Option Bool) := none

def Draft.add (draft : Draft) (key : String) (trail : Trail) (node : Node) : Read Draft :=
  match key with
  | "sourceDir" => do
    pure { draft with
      sourceDirectory := ←
        Read.once key draft.sourceDirectory (Read.optional (Read.text "path string") trail node) }
  | "configFile" => do
    pure { draft with
      configurationFile := ←
        Read.once key draft.configurationFile (Read.optional Read.string trail node) }
  | "color" => do
    pure { draft with color := ← Read.once key draft.color (Read.optional Read.bool trail node) }
  | _ => do
    Read.ignore node
    pure draft

def Draft.finish (draft : Draft) : UserSettings :=
  { sourceDirectory := draft.sourceDirectory.join.map Path.mk
    configurationFile := draft.configurationFile.join
    color := draft.color.join }

def keys : List String := ["sourceDir", "configFile", "color"]

/-- Settings from a document, where a key with no meaning is a mistake. -/
def read (text : String) : Except ReadError UserSettings :=
  Read.run
    (Read.record "struct UserSettings" (some keys) {} (some Draft.add) fun draft => .ok draft.finish)
    text

/-- Why the user's own file is no use. -/
inductive LoadError where
  | unreadable (error : FileError)
  | malformed (error : ReadError)
deriving Repr

/-- Settings from a file. One that is not there, or that is blank, sets nothing. -/
def load (files : FileSystem) (path : Path) : Except LoadError UserSettings :=
  if files.isFile path then do
    let text ← (files.readText path).mapError .unreadable
    if text.toList.all Text.isBlank then .ok {} else (read text).mapError .malformed
  else .ok {}

end UserSettings

structure Settings where
  sourceDirectory : Path
  configuration : Path
  color : Bool
deriving DecidableEq, Repr, Inhabited

namespace Settings

def defaultSourceDirectory : Path := ⟨"src"⟩

def defaultConfigurationFile : String := "shcraft.yml"

/-- The first layer that says something decides. The configuration lies in the
source directory unless its path is given, and colours need a terminal. -/
def ofLayers (sourceDirectory configuration : Option Path) (noColor : Bool) (user : UserSettings)
    (isTerminal : Bool) : Settings :=
  let sourceDirectory := (sourceDirectory <|> user.sourceDirectory).getD defaultSourceDirectory
  let file : Path := ⟨user.configurationFile.getD defaultConfigurationFile⟩
  { sourceDirectory
    configuration := configuration.getD (sourceDirectory.join file)
    color := !noColor && user.color.getD true && isTerminal }

/-- Whether errors are coloured. Before there are settings, the command line and
the terminal decide. -/
def reportColor (settings : Option Settings) (noColor isTerminal : Bool) : Bool :=
  match settings with
  | some settings => settings.color
  | none => !noColor && isTerminal

/-- The user's own file in the directory for configurations. -/
def userFile (configHome : Path) : Path :=
  (configHome.join ⟨"shcraft"⟩).join ⟨"settings.yaml"⟩

end Settings
end CommandPlan
