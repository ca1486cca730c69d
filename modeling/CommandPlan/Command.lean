import CommandPlan.Definition
import CommandPlan.Text.SnakeCase

/-! The command tree that a definition gives. A command knows the full name of
its parent, so every text about it follows from the command alone. -/
namespace CommandPlan

structure Command where
  name : String
  short : Option String
  help : Option String
  /-- The full name of the parent, unless that is empty or there is none. -/
  parentName : Option String
  arguments : List Argument
  flags : List Flag
  commands : List Command
deriving Repr, Inhabited

namespace Command

/-- A name behind that of its parent. -/
def qualify (parentName : Option String) (name : String) : String :=
  match parentName with
  | some parent => parent ++ " " ++ name
  | none => name

/-- An empty parent is none. -/
def parentNameOf (parent : Option String) : Option String :=
  parent.filter (!·.isEmpty)

mutual

/-- The command of a definition, and all below it, under a parent's full name. -/
def ofDefinition (parent : Option String) : Definition → Command
  | ⟨name, short, help, arguments, flags, commands⟩ =>
    let parentName := parentNameOf parent
    { name, short, help, parentName, arguments, flags
      commands := ofDefinitions (some (qualify parentName name)) commands }

def ofDefinitions (parent : Option String) : List Definition → List Command
  | [] => []
  | definition :: definitions => ofDefinition parent definition :: ofDefinitions parent definitions

end

def root (definition : Definition) : Command :=
  ofDefinition none definition

def isRoot (command : Command) : Bool :=
  command.parentName.isNone

/-- A leaf has no subcommands; its code is the user's. -/
def isLeaf (command : Command) : Bool :=
  command.commands.isEmpty

def fullName (command : Command) : String :=
  qualify command.parentName command.name

/-- The name, and the short name if there is one. -/
def aliases (command : Command) : List String :=
  command.name :: command.short.toList

/-- The name of the functions generated for the command. -/
def functionName (command : Command) : String :=
  Text.snakeCase command.fullName

/-- What the name of every fragment file ends with. -/
def fragmentSuffix : String := "_command.sh"

/-- The file that holds the user's code of the command. -/
def fragmentFile (command : Command) : String :=
  command.functionName ++ fragmentSuffix

def summary (command : Command) : String :=
  summaryOf command.help

/-- The full name, and the summary behind a dash if there is any help. -/
def caption (command : Command) : String :=
  if command.help.isSome then command.fullName ++ " - " ++ command.summary else command.fullName

def commandNames (command : Command) : List String :=
  command.commands.map (·.name)

/-- The parts of the usage line: the full name, a mark for subcommands, the
arguments in order, and a mark for options. -/
def usageParts (command : Command) : List String :=
  [command.fullName] ++ (if command.isLeaf then [] else ["[command]"]) ++
    command.arguments.map Argument.usage ++ ["[options]"]

def usage (command : Command) : String :=
  " ".intercalate command.usageParts

def requiredArguments (command : Command) : List Argument :=
  command.arguments.filter (·.required)

def requiredFlags (command : Command) : List Flag :=
  command.flags.filter (·.required)

mutual

/-- The command and everything below it, parents before their children. -/
def nodes : Command → List Command
  | command@⟨_, _, _, _, _, _, commands⟩ => command :: nodesOf commands

def nodesOf : List Command → List Command
  | [] => []
  | command :: commands => nodes command ++ nodesOf commands

end

def leaves (command : Command) : List Command :=
  command.nodes.filter (·.isLeaf)

/-- The first node with the given full name. -/
def find? (command : Command) (fullName : String) : Option Command :=
  command.nodes.find? (·.fullName = fullName)

end Command
end CommandPlan
