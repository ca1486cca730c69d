import CommandPlan.Command
import CommandPlan.Markup

/-! Findings about a command tree that keeps the rules but may not do what its
author meant: names that meet in one function, letter or word, arguments in an
order that no command line can satisfy, and names that a shell cannot take. -/
namespace CommandPlan

inductive Warning where
  | sharedFunction (earlier later parent functionName : String)
  | takenAlias (token command owner parent : String)
  | longCommandShort (short command : String)
  | repeatedFlag (flag command : String)
  | longFlagShort (short flag command : String)
  | sharedFlagShort (short command : String)
  | lateRequired (argument optional command : String)
  | invalidName (name command : String)
deriving DecidableEq, Repr

namespace Warning

open Markup

def message : Warning → String
  | sharedFunction earlier later parent functionName =>
    "The " ++ highlight earlier ++ " and " ++ highlight later ++ " subcommands of " ++ highlight parent ++
      " both generate the " ++ highlight functionName ++ " function."
  | takenAlias token command owner parent =>
    "The " ++ highlight token ++ " alias of the " ++ highlight command ++
      " subcommand is already used by " ++ highlight owner ++ " in the " ++ highlight parent ++ " command."
  | longCommandShort short command =>
    "The short alias " ++ highlight short ++ " of the " ++ highlight command ++
      " command should be a single character."
  | repeatedFlag flag command =>
    "The " ++ highlight command ++ " command declares the " ++ highlight ("--" ++ flag) ++
      " flag more than once."
  | longFlagShort short flag command =>
    "The short alias " ++ highlight short ++ " of the " ++ highlight ("--" ++ flag) ++ " flag in the " ++
      highlight command ++ " command should be a single character."
  | sharedFlagShort short command =>
    "The " ++ highlight command ++ " command uses the short alias " ++ highlight ("-" ++ short) ++
      " for more than one flag."
  | lateRequired argument optional command =>
    "In the " ++ highlight command ++ " command, the required " ++ highlight argument ++
      " argument comes after the optional " ++ highlight optional ++ " argument."
  | invalidName name command =>
    "The name " ++ highlight name ++ " in the " ++ highlight command ++
      " command is not a valid shell identifier."

end Warning

/-- A word of the command line that selects a subcommand. -/
structure Selector where
  word : String
  isShort : Bool
  /-- The place of the subcommand among its siblings, and its name. -/
  index : Nat
  owner : String
deriving DecidableEq, Repr

namespace Lint

def isSingleCharacter (text : String) : Bool :=
  text.length = 1

/-- ASCII letters and digits, with underscores and dashes after the first. -/
def isPlainName (name : String) : Bool :=
  match name.toList with
  | [] => false
  | first :: rest => first.isAlphanum && rest.all fun c => c.isAlphanum || c = '_' || c = '-'

/-- One finding for each subcommand whose function is that of an earlier one. Each
function in use is kept with the name of its first owner. -/
def sharedFunctions (parent : String) : List (String × String) → List Command → List Warning
  | _, [] => []
  | owners, command :: later =>
    match owners.lookup command.functionName with
    | some first =>
      .sharedFunction first command.name parent command.functionName :: sharedFunctions parent owners later
    | none => sharedFunctions parent ((command.functionName, command.name) :: owners) later

/-- The words of one subcommand, its name first. -/
def selectorsOf (index : Nat) (command : Command) : List Selector :=
  ⟨command.name, false, index, command.name⟩ ::
    (command.short.map fun short => ⟨short, true, index, command.name⟩).toList

/-- The words of all subcommands in order. -/
def selectors (commands : List Command) : List Selector :=
  commands.zipIdx.flatMap fun (command, index) => selectorsOf index command

/-- One finding for each word whose first use belongs to another subcommand,
unless both are names, which share a function anyway. Each word in use is kept with
its first use. -/
def takenAliases (parent : String) : List (String × Selector) → List Selector → List Warning
  | _, [] => []
  | owners, selector :: later =>
    match owners.lookup selector.word with
    | some first =>
      if first.index ≠ selector.index ∧ (selector.isShort ∨ first.isShort) then
        .takenAlias selector.word selector.owner first.owner parent :: takenAliases parent owners later
      else takenAliases parent owners later
    | none => takenAliases parent ((selector.word, selector) :: owners) later

def commandShort (command : Command) : List Warning :=
  match command.short with
  | some short => if isSingleCharacter short then [] else [.longCommandShort short command.fullName]
  | none => []

/-- The short forms in use behind a flag, and the finding about its own. One that is
no single character is not kept, and so none is held against it. -/
def flagShort (command : String) (shorts : List String) (flag : Flag) : List String × List Warning :=
  match flag.short with
  | none => (shorts, [])
  | some short =>
    if !isSingleCharacter short then (shorts, [.longFlagShort short flag.name command])
    else (shorts.insert short, if shorts.contains short then [.sharedFlagShort short command] else [])

/-- For each flag the findings about its name and then about its short form, with the
names and the short forms in use before it. -/
def flagFindings (command : String) : List String → List String → List Flag → List Warning
  | _, _, [] => []
  | names, shorts, flag :: later =>
    let (kept, found) := flagShort command shorts flag
    (if names.contains flag.name then [.repeatedFlag flag.name command] else []) ++ found ++
      flagFindings command (names.insert flag.name) kept later

/-- One finding for each required argument behind an optional one, naming the
first of those, which is kept. -/
def argumentOrder (command : String) : Option String → List Argument → List Warning
  | _, [] => []
  | optional, argument :: later =>
    match argument.required, optional with
    | true, some optional =>
      .lateRequired argument.name optional command :: argumentOrder command (some optional) later
    | false, none => argumentOrder command (some argument.name) later
    | _, optional => argumentOrder command optional later

/-- The names that a command brings, its own first. -/
def namesOf (command : Command) : List String :=
  command.name :: command.arguments.map (·.name) ++ command.flags.map (·.name)

def invalidNames (command : Command) : List Warning :=
  ((namesOf command).filter (!isPlainName ·)).map (.invalidName · command.fullName)

end Lint

namespace Command

open Lint in
/-- The findings about one node and its children. -/
def lintNode (command : Command) : List Warning :=
  sharedFunctions command.fullName [] command.commands ++
    takenAliases command.fullName [] (selectors command.commands) ++
    commandShort command ++
    flagFindings command.fullName [] [] command.flags ++
    argumentOrder command.fullName none command.arguments ++
    invalidNames command

def lint (command : Command) : List Warning :=
  command.nodes.flatMap lintNode

end Command
end CommandPlan
