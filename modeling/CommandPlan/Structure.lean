import CommandPlan.Command
import CommandPlan.Markup

/-! The rules that every command tree must keep. A command with subcommands has
no arguments and no flags of its own, and only the root may have subcommands. -/
namespace CommandPlan

inductive StructureError where
  | argumentsBesideCommands (fullName : String)
  | nestedCommands (fullName : String)
deriving DecidableEq, Repr

namespace StructureError

def fullName : StructureError → String
  | argumentsBesideCommands fullName | nestedCommands fullName => fullName

/-- The message, with its names painted. -/
def message (error : StructureError) : String :=
  let place := "Error in the " ++ Markup.highlight error.fullName ++ " command.\n"
  match error with
  | argumentsBesideCommands _ =>
    place ++ "The " ++ Markup.highlight "commands" ++ " key cannot be at the same level as the " ++
      Markup.highlight "args" ++ " or " ++ Markup.highlight "flags" ++ " keys."
  | nestedCommands _ => place ++ "Nested commands are not supported."

end StructureError

namespace Command

/-- Checks one node. The rule about arguments and flags comes first. -/
def verify (command : Command) : Except StructureError Unit :=
  if command.isLeaf then .ok ()
  else if !command.arguments.isEmpty || !command.flags.isEmpty then
    .error (.argumentsBesideCommands command.fullName)
  else if !command.isRoot then .error (.nestedCommands command.fullName)
  else .ok ()

/-- Checks a list of nodes up to the first that breaks a rule. -/
def verifyAll : List Command → Except StructureError Unit
  | [] => .ok ()
  | command :: commands =>
    match command.verify with
    | .ok () => verifyAll commands
    | .error error => .error error

def verifyTree (command : Command) : Except StructureError Unit :=
  verifyAll command.nodes

end Command
end CommandPlan
