import CommandPlan.Run
import CommandPlan.View.Outline

/-! Printing the plan of a configuration, or of one of its commands. -/
namespace CommandPlan

/-- The loader for the fragments of a source directory, if they are asked for. -/
def fragmentLoader (files : FileSystem) (sourceDirectory : Path) (wanted : Bool) : Loader :=
  if wanted then some (Fragment.loadText files sourceDirectory) else none

/-- The command that a full name selects; without a name it is the root. -/
def Command.select (root : Command) (fullName : Option String) : Except RunError Command :=
  match fullName with
  | none => .ok root
  | some fullName => (root.find? fullName).elim (.error (.unknownCommand fullName)) .ok

def inspect (settings : Settings) (fullName : Option String) (fragments : Bool) : Run Unit := do
  Run.record (.info "Running inspect command...")
  let files ← Run.files
  let root ← Run.ofExcept (loadTree files settings.configuration)
  let command ← Run.ofExcept (root.select fullName)
  let view ← Run.ofLogged (command.view (fragmentLoader files settings.sourceDirectory fragments))
  Run.print view.text

end CommandPlan
