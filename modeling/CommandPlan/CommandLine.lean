/-! The command line of the program. Options are read from left to right, some
of them on either side of the subcommand; whatever cannot be read ends the
reading, and so does a wish for help or for the version. -/
namespace CommandPlan

/-- What the user wants done. -/
inductive Task where
  | init (force : Bool)
  | validate
  | inspect (command : Option String) (fragments : Bool)
deriving DecidableEq, Repr

/-- A command line that makes sense, with the environment's values in it. -/
structure Invocation where
  task : Task
  sourceDirectory : Option String
  configuration : Option String
  noColor : Bool
deriving DecidableEq, Repr

/-- Why no task is to be done. -/
inductive Refusal where
  | usage
  | help
  | version
deriving DecidableEq, Repr

namespace CommandLine

inductive Switch where
  | sourceDirectory
  | configuration
  | noColor
  | verbose
  | help
  | version
  | force
  | fragments
  | command
deriving DecidableEq, Repr

/-- Where an option stands: before the subcommand or behind it. -/
inductive Scope where
  | program
  | init
  | validate
  | inspect
deriving DecidableEq, Repr

namespace Switch

def takesValue : Switch → Bool
  | sourceDirectory | configuration | command => true
  | _ => false

/-- Paths must not be empty. -/
def allowsEmpty : Switch → Bool
  | command => true
  | _ => false

def repeats : Switch → Bool
  | verbose => true
  | _ => false

def ofLong? (scope : Scope) (name : String) : Option Switch :=
  match name, scope with
  | "source-dir", _ => some sourceDirectory
  | "config", _ => some configuration
  | "no-color", _ => some noColor
  | "verbose", _ => some verbose
  | "help", _ => some help
  | "version", .program => some version
  | "force", .init => some force
  | "fragments", .inspect => some fragments
  | "command", .inspect => some command
  | _, _ => none

def ofShort? (scope : Scope) (letter : Char) : Option Switch :=
  match letter, scope with
  | 'v', _ => some verbose
  | 'h', _ => some help
  | 'V', .program => some version
  | 'f', .init => some force
  | 'f', .inspect => some fragments
  | 'c', .inspect => some command
  | _, _ => none

end Switch

def scopeOf? (word : String) : Option Scope :=
  match word with
  | "init" => some .init
  | "validate" => some .validate
  | "inspect" => some .inspect
  | _ => none

/-- The options of one scope so far, each with its value if it takes one. -/
abbrev Given := List (Switch × String)

/-- Adds an option. Help and version take effect at once. -/
def give (given : Given) (switch : Switch) (value : String) : Except Refusal Given :=
  if switch = .help then .error .help
  else if switch = .version then .error .version
  else if (given.lookup switch).isSome && !switch.repeats then .error .usage
  else if switch.takesValue && value.isEmpty && !switch.allowsEmpty then .error .usage
  else .ok (given ++ [(switch, value)])

/-- One argument as the options in it; the last of them may still wait for its
value. -/
structure Options where
  given : Given
  waiting : Option Switch := none

/-- A long option, with the value behind an equals sign if there is one. -/
def readLong (scope : Scope) (given : Given) (text : List Char) : Except Refusal Options :=
  let name := text.takeWhile (· ≠ '=')
  match Switch.ofLong? scope (String.ofList name), text.drop name.length with
  | none, _ => .error .usage
  | some switch, [] =>
    if switch.takesValue then .ok ⟨given, some switch⟩ else (give given switch "").map (⟨·, none⟩)
  | some switch, _ :: value =>
    if switch.takesValue then (give given switch (String.ofList value)).map (⟨·, none⟩)
    else .error .usage

/-- Short options in a row. The rest of the row is the value of the first one
that takes any, with or without an equals sign in front. -/
def readShort (scope : Scope) (given : Given) : List Char → Except Refusal Options
  | [] => .ok ⟨given, none⟩
  | letter :: rest =>
    match Switch.ofShort? scope letter with
    | none => .error .usage
    | some switch =>
      if switch.takesValue then
        match rest with
        | [] => .ok ⟨given, some switch⟩
        | '=' :: value | value => (give given switch (String.ofList value)).map (⟨·, none⟩)
      else do readShort scope (← give given switch "") rest

/-- Whether an argument is made of options. A lone dash is a value. -/
def isOption (word : String) : Bool :=
  match word.toList with
  | '-' :: _ :: _ => true
  | _ => false

def readOptions (scope : Scope) (given : Given) (word : String) : Except Refusal Options :=
  match word.toList with
  | '-' :: '-' :: name => readLong scope given name
  | _ :: letters => readShort scope given letters
  | [] => .error .usage

/-- Whether the words behind `help` name a subcommand, or nothing. -/
def helpTopic : List String → Bool
  | [] => true
  | ["help"] => true
  | [word] => (scopeOf? word).isSome
  | _ => false

/-- The options of a scope, up to the end or to a subcommand, which is given with
the words behind it. Behind two dashes only values could follow, and there are
none to take. -/
def readScope (scope : Scope) : Given → Option Switch → List String →
    Except Refusal (Given × Option (Scope × List String))
  | given, none, [] => .ok (given, none)
  | _, some _, [] => .error .usage
  | given, some switch, word :: words => do
    if isOption word then .error .usage
    readScope scope (← give given switch word) none words
  | given, none, word :: words =>
    if word = "--" then if words.isEmpty then .ok (given, none) else .error .usage
    else if isOption word then do
      let options ← readOptions scope given word
      readScope scope options.given options.waiting words
    else if scope = .program then
      if word = "help" then .error (if helpTopic words then .help else .usage)
      else
        match scopeOf? word with
        | some inner => .ok (given, some (inner, words))
        | none => .error .usage
    else .error .usage

/-- A value of the environment, which stands in where a scope gives none. -/
def checkEnvironment (given : Given) (switch : Switch) (value : Option String) : Except Refusal Unit :=
  if (given.lookup switch).isNone && value = some "" then .error .usage else .ok ()

end CommandLine

open CommandLine

/-- Reads the words behind the program's name. Behind the subcommand an option
counts more than in front of it, and anywhere more than in the environment. -/
def Invocation.read (sourceDirectory configuration : Option String) (words : List String) :
    Except Refusal Invocation := do
  match ← readScope .program [] none words with
  | (_, none) => .error .usage
  | (outer, some (scope, rest)) =>
    let (inner, _) ← readScope scope [] none rest
    for given in [outer, inner] do
      checkEnvironment given .sourceDirectory sourceDirectory
      checkEnvironment given .configuration configuration
    let valueOf (switch : Switch) : Option String := inner.lookup switch <|> outer.lookup switch
    let has (switch : Switch) : Bool := (valueOf switch).isSome
    let task : Task ← match scope with
      | .init => .ok (.init (has .force))
      | .validate => .ok .validate
      | .inspect => .ok (.inspect (valueOf .command) (has .fragments))
      | .program => .error .usage
    .ok {
      task
      sourceDirectory := valueOf .sourceDirectory <|> sourceDirectory
      configuration := valueOf .configuration <|> configuration
      noColor := has .noColor }

end CommandPlan
