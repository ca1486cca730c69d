import CommandPlan.Text.LetterCase
import CommandPlan.Text.Lines
import CommandPlan.Yaml.Value

/-! The definition of a command line program: a tree of commands with their
arguments and flags, and the texts that follow from an argument or a flag alone. -/
namespace CommandPlan

/-- The first line of a help text, or nothing without help. -/
def summaryOf (help : Option String) : String :=
  help.elim "" Text.firstLine

/-- The text of a default value. Collections and null are none. -/
def defaultTextOf (value : Option Yaml.Value) : Option String :=
  value.bind Yaml.Value.scalarText?

/-- A positional parameter. Its place among the arguments of its command is its
place on the command line. -/
structure Argument where
  name : String
  required : Bool := false
  defaultValue : Option Yaml.Value := none
  help : Option String := none
deriving Repr, Inhabited

namespace Argument

def defaultText (argument : Argument) : Option String :=
  defaultTextOf argument.defaultValue

def summary (argument : Argument) : String :=
  summaryOf argument.help

/-- The name, in brackets unless the argument is required. -/
def usage (argument : Argument) : String :=
  if argument.required then argument.name else "[" ++ argument.name ++ "]"

end Argument

/-- A named option. It is a switch unless it has a placeholder for a value. -/
structure Flag where
  /-- The long name, without its dashes. -/
  name : String
  short : Option String := none
  required : Bool := false
  defaultValue : Option Yaml.Value := none
  help : Option String := none
  placeholder : Option String := none
deriving Repr, Inhabited

namespace Flag

def defaultText (flag : Flag) : Option String :=
  defaultTextOf flag.defaultValue

def summary (flag : Flag) : String :=
  summaryOf flag.help

def takesValue (flag : Flag) : Bool :=
  flag.placeholder.isSome

/-- The long form and then the short one, if there is one. -/
def aliases (flag : Flag) : List String :=
  ("--" ++ flag.name) :: (flag.short.map ("-" ++ ·)).toList

/-- The aliases, and the placeholder in capitals. -/
def usage (flag : Flag) : String :=
  ", ".intercalate flag.aliases ++
    flag.placeholder.elim "" fun placeholder => " " ++ Text.uppercase placeholder

end Flag

/-- What a configuration says about one command. -/
structure Definition where
  name : String
  short : Option String := none
  help : Option String := none
  arguments : List Argument := []
  flags : List Flag := []
  commands : List Definition := []
deriving Repr, Inhabited

end CommandPlan
