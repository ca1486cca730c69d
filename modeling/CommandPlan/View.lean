import CommandPlan.Command
import CommandPlan.Log

/-! The plan of a command tree: for every command the texts that a generator
needs, in the order in which it needs them. -/
namespace CommandPlan

structure ArgumentView where
  name : String
  usage : String
  required : Bool
  defaultText : Option String
  summary : String
deriving DecidableEq, Repr

structure FlagView where
  name : String
  usage : String
  aliases : List String
  required : Bool
  takesValue : Bool
  defaultText : Option String
  summary : String
deriving DecidableEq, Repr

structure CommandView where
  fullName : String
  functionName : String
  caption : String
  usage : String
  aliases : List String
  commandNames : List String
  requiredArguments : List String
  requiredFlags : List String
  arguments : List ArgumentView
  flags : List FlagView
  /-- The user's code of a leaf, if it was asked for. -/
  fragment : Option String
  commands : List CommandView
deriving Repr

/-- The text of a default. A collection has none, which is worth a record. -/
def shownDefault (value : Option Yaml.Value) : Logged (Option String) :=
  match value with
  | none => pure none
  | some value => do
    if value.untagged.isCollection then
      Logged.record (.warn ("Ignoring non-scalar default value: " ++ value.untagged.describe))
    pure value.scalarText?

def Argument.view (argument : Argument) : Logged ArgumentView := do
  let defaultText ← shownDefault argument.defaultValue
  pure {
    name := argument.name, usage := argument.usage, required := argument.required
    defaultText, summary := argument.summary }

def Flag.view (flag : Flag) : Logged FlagView := do
  let defaultText ← shownDefault flag.defaultValue
  pure {
    name := flag.name, usage := flag.usage, aliases := flag.aliases, required := flag.required
    takesValue := flag.takesValue, defaultText, summary := flag.summary }

/-- How a fragment file is loaded, if fragments are asked for. -/
abbrev Loader := Option (String → Logged String)

namespace Command

/-- The code of a command, which only leaves have. -/
def loadFragment (loader : Loader) (command : Command) : Logged (Option String) :=
  match loader with
  | some load => if command.isLeaf then some <$> load command.fragmentFile else pure none
  | none => pure none

mutual

def view (loader : Loader) : Command → Logged CommandView
  | command@⟨_, _, _, _, _, _, commands⟩ => do
    let fragment ← command.loadFragment loader
    let arguments ← command.arguments.mapM Argument.view
    let flags ← command.flags.mapM Flag.view
    let views ← viewsOf loader commands
    pure {
      fullName := command.fullName, functionName := command.functionName
      caption := command.caption, usage := command.usage, aliases := command.aliases
      commandNames := command.commandNames
      requiredArguments := command.requiredArguments.map (·.name)
      requiredFlags := command.requiredFlags.map (·.name)
      arguments, flags, fragment, commands := views }

def viewsOf (loader : Loader) : List Command → Logged (List CommandView)
  | [] => pure []
  | command :: commands => do
    let first ← view loader command
    let rest ← viewsOf loader commands
    pure (first :: rest)

end

end Command
end CommandPlan
