import CommandPlan.CommandLine
import CommandPlan.Inspect
import CommandPlan.Scaffold
import CommandPlan.Validate

/-! The whole program, from the words of its command line to what it prints and
to the files that it leaves. -/
namespace CommandPlan

/-- What the program learns from its surroundings. -/
structure Environment where
  sourceDirectory : Option String := none
  configuration : Option String := none
  /-- The directory for the users' own configurations, if there is one. -/
  configHome : Option Path := none
  isTerminal : Bool := false
  /-- Whether a user at the terminal agrees to what is asked. -/
  agrees : Bool := false
deriving Repr, Inhabited

/-- What is answered to a question; nothing without a terminal. -/
def Environment.answer? (environment : Environment) : Option Bool :=
  if environment.isTerminal then some environment.agrees else none

/-- How a run ends. The texts of the command line's own help and usage errors are left
out: a run that ends with them has no output and no error text. -/
structure Outcome where
  code : Nat
  output : String := ""
  log : List Record := []
  /-- The text of an error, if there was one. -/
  errorText : Option String := none
  files : FileSystem
deriving Repr, Inhabited

namespace Program

def name : String := "shcraft"

def version : String := "0.3.0"

/-- Does one task. -/
def perform (environment : Environment) (settings : Settings) : Task → Run Unit
  | .init force => scaffold settings force environment.answer?
  | .validate => validate settings
  | .inspect command fragments => inspect settings command fragments

def errorText (color : Bool) (error : RunError) : String :=
  Markup.colorize color ("!txtred!error:!txtrst! " ++ error.message)

/-- The user's own settings. -/
def userSettings (environment : Environment) (files : FileSystem) : Except RunError UserSettings :=
  match environment.configHome with
  | none => .ok {}
  | some configHome =>
    let path := Settings.userFile configHome
    (UserSettings.load files path).mapError fun
      | .unreadable error => .files error
      | .malformed error => .settingsMalformed path error

def settings (environment : Environment) (invocation : Invocation) (user : UserSettings) : Settings :=
  .ofLayers (invocation.sourceDirectory.map Path.mk) (invocation.configuration.map Path.mk)
    invocation.noColor user environment.isTerminal

/-- What a run with these words asks a user at the terminal, if anything. -/
def question? (environment : Environment) (files : FileSystem) (words : List String) : Option String :=
  match Invocation.read environment.sourceDirectory environment.configuration words,
      userSettings environment files with
  | .ok invocation, .ok user =>
    let configuration := (settings environment invocation user).configuration
    match invocation.task with
    | .init force =>
      if environment.isTerminal && asksToOverwrite files configuration force then
        some (overwriteQuestion configuration)
      else none
    | _ => none
  | _, _ => none

def run (environment : Environment) (files : FileSystem) (words : List String) : Outcome :=
  match Invocation.read environment.sourceDirectory environment.configuration words with
  | .error .usage => { code := 2, files }
  | .error .help => { code := 0, files }
  | .error .version => { code := 0, output := name ++ " " ++ version ++ "\n", files }
  | .ok invocation =>
    match userSettings environment files with
    | .error error =>
      let color := Settings.reportColor none invocation.noColor environment.isTerminal
      { code := 1, errorText := some (errorText color error), files }
    | .ok user =>
      let settings := settings environment invocation user
      let (result, workspace) := (perform environment settings invocation.task).run.run { files }
      let color := Settings.reportColor (some settings) invocation.noColor environment.isTerminal
      let outcome : Outcome :=
        { code := 0, output := workspace.output, log := workspace.log, files := workspace.files }
      match result with
      | .ok () => outcome
      | .error error => { outcome with code := 1, errorText := some (errorText color error) }

end Program
end CommandPlan
