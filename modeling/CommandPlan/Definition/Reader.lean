import CommandPlan.Definition
import CommandPlan.Yaml.Value.Reader

/-! Definitions read from a document. Each record has its own fields, given at
most once; a key that is none of them is passed over with its value. -/
namespace CommandPlan

open Yaml

/-- An argument as far as it is read. -/
structure ArgumentDraft where
  name : Option String := none
  required : Option Bool := none
  defaultValue : Option (Option Value) := none
  help : Option (Option String) := none

namespace ArgumentDraft

/-- Adds one field; values of any shape nest as deep as the number says. -/
def add (depth : Nat) (draft : ArgumentDraft) (key : String) (trail : Trail) (node : Node) :
    Read ArgumentDraft :=
  match key with
  | "name" => do pure { draft with name := ← Read.once key draft.name (Read.string trail node) }
  | "required" => do pure { draft with required := ← Read.once key draft.required (Read.bool trail node) }
  | "default" => do
    pure { draft with
      defaultValue := ← Read.once key draft.defaultValue (Read.optional (Read.value depth) trail node) }
  | "help" => do pure { draft with help := ← Read.once key draft.help (Read.optional Read.string trail node) }
  | _ => do
    Read.ignore node
    pure draft

def finish (draft : ArgumentDraft) : Except Problem Argument :=
  match draft.name with
  | none => .error (.missingField "name")
  | some name => .ok {
      name
      required := draft.required.getD false
      defaultValue := draft.defaultValue.join
      help := draft.help.join }

end ArgumentDraft

/-- A flag as far as it is read. -/
structure FlagDraft where
  name : Option String := none
  short : Option (Option String) := none
  required : Option Bool := none
  defaultValue : Option (Option Value) := none
  help : Option (Option String) := none
  placeholder : Option (Option String) := none

namespace FlagDraft

def add (depth : Nat) (draft : FlagDraft) (key : String) (trail : Trail) (node : Node) :
    Read FlagDraft :=
  match key with
  | "name" => do pure { draft with name := ← Read.once key draft.name (Read.string trail node) }
  | "short" => do pure { draft with short := ← Read.once key draft.short (Read.optional Read.string trail node) }
  | "required" => do pure { draft with required := ← Read.once key draft.required (Read.bool trail node) }
  | "default" => do
    pure { draft with
      defaultValue := ← Read.once key draft.defaultValue (Read.optional (Read.value depth) trail node) }
  | "help" => do pure { draft with help := ← Read.once key draft.help (Read.optional Read.string trail node) }
  | "arg" => do
    pure { draft with
      placeholder := ← Read.once key draft.placeholder (Read.optional Read.string trail node) }
  | _ => do
    Read.ignore node
    pure draft

def finish (draft : FlagDraft) : Except Problem Flag :=
  match draft.name with
  | none => .error (.missingField "name")
  | some name => .ok {
      name
      short := draft.short.join
      required := draft.required.getD false
      defaultValue := draft.defaultValue.join
      help := draft.help.join
      placeholder := draft.placeholder.join }

end FlagDraft

/-- A command as far as it is read. -/
structure CommandDraft where
  name : Option String := none
  short : Option (Option String) := none
  help : Option (Option String) := none
  arguments : Option (List Argument) := none
  flags : Option (List Flag) := none
  commands : Option (List Definition) := none

namespace CommandDraft

def finish (draft : CommandDraft) : Except Problem Definition :=
  match draft.name with
  | none => .error (.missingField "name")
  | some name => .ok {
      name
      short := draft.short.join
      help := draft.help.join
      arguments := draft.arguments.getD []
      flags := draft.flags.getD []
      commands := draft.commands.getD [] }

end CommandDraft

namespace Yaml.Read

/-- A reader of what is inside a collection, if one may be entered. -/
def inside {α : Type} (read : Nat → α) : Nat → Option α
  | 0 => none
  | depth + 1 => some (read depth)

def argument (depth : Nat) : Trail → Node → Read Argument :=
  record "struct ArgConfig" none {} (inside ArgumentDraft.add depth) ArgumentDraft.finish

def flag (depth : Nat) : Trail → Node → Read Flag :=
  record "struct FlagConfig" none {} (inside FlagDraft.add depth) FlagDraft.finish

/-- Adds one field of a command, with the reader of its subcommands. -/
def commandField (commands : Trail → Node → Read (List Definition)) (depth : Nat)
    (draft : CommandDraft) (key : String) (trail : Trail) (node : Node) : Read CommandDraft :=
  match key with
  | "name" => do pure { draft with name := ← once key draft.name (string trail node) }
  | "short" => do pure { draft with short := ← once key draft.short (optional string trail node) }
  | "help" => do pure { draft with help := ← once key draft.help (optional string trail node) }
  | "args" => do
    pure { draft with
      arguments := ← once key draft.arguments (list (inside argument depth) trail node) }
  | "flags" => do pure { draft with flags := ← once key draft.flags (list (inside flag depth) trail node) }
  | "commands" => do pure { draft with commands := ← once key draft.commands (commands trail node) }
  | _ => do
    ignore node
    pure draft

mutual

/-- A command and everything below it. A level of commands is two levels of
collections. -/
def definition : Nat → Trail → Node → Read Definition
  | 0 => record "struct CommandConfig" none {} none CommandDraft.finish
  | depth + 1 =>
    record "struct CommandConfig" none {} (some (commandField (definitions depth) depth)) CommandDraft.finish

def definitions : Nat → Trail → Node → Read (List Definition)
  | 0 => list none
  | depth + 1 => list (some (definition depth))

end

end Yaml.Read

namespace Definition

def read (text : String) : Except ReadError Definition :=
  Read.run (Read.definition Read.depthLimit) text

end Definition

namespace Argument

def read (text : String) : Except ReadError Argument :=
  Read.run (Read.argument Read.depthLimit) text

end Argument

namespace Flag

def read (text : String) : Except ReadError Flag :=
  Read.run (Read.flag Read.depthLimit) text

end Flag
end CommandPlan
