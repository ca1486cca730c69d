import CommandPlan.Run

/-! Starting a project: a sample configuration, and a stub for every leaf that
has no fragment yet. No fragment that exists is touched, and a configuration that
exists is not written over without force or consent. -/
namespace CommandPlan

def sampleConfiguration : String :=
"name: cli
help: Sample application
commands:
  - name: download
    short: d
    help: Download a file
    args:
      - name: source
        required: true
        help: URL to download from
      - name: target
        help: \"Target filename (default: same as source)\"
    flags:
      - name: force
        short: f
        help: Overwrite existing files

  - name: upload
    short: u
    help: Upload a file
    args:
      - name: source
        required: true
        help: File to upload
    flags:
      - name: user
        short: u
        arg: user
        required: true
        help: Username to use for logging in
      - name: password
        short: p
        arg: password
        help: Password to use for logging in
"

/-- The first content of a fragment. -/
def stubText (path : Path) (fullName : String) : String :=
  "echo \"# this file is located in '" ++ path.text ++ "'\"\necho \"# code for '" ++ fullName ++
    "' goes here\"\n"

/-- Writes the stub of one leaf. -/
def writeStub (sourceDirectory path : Path) (leaf : Command) : Run Unit := do
  if !sourceDirectory.text.isEmpty then Run.makeDirectories sourceDirectory
  match (← Run.files).writeText path (stubText path leaf.fullName) with
  | .ok files => Run.setFiles files
  | .error error =>
    Run.record (.warn ("Could not create fragment stub " ++ path.text ++ ": " ++ error.message))
    throw (.files error)
  Run.record (.info ("Created fragment stub " ++ path.text))

/-- Writes a stub for every leaf whose fragment does not exist, and gives the
paths of those written. -/
def writeStubs (sourceDirectory : Path) : List Command → Run (List Path)
  | [] => pure []
  | leaf :: leaves => do
    let path := sourceDirectory.join ⟨leaf.fragmentFile⟩
    if (← Run.files).pathExists path then writeStubs sourceDirectory leaves
    else do
      writeStub sourceDirectory path leaf
      (path :: ·) <$> writeStubs sourceDirectory leaves

/-- Writes the stubs of the commands of the configuration that is there. -/
def completeProject (settings : Settings) : Run Unit := do
  let root ← Run.ofExcept (loadTree (← Run.files) settings.configuration)
  let created ← writeStubs settings.sourceDirectory root.leaves
  Run.record (.info ("Created " ++ toString created.length ++ " fragment stub(s)."))

/-- Writes the sample configuration, and the stubs of its commands. -/
def writeProject (settings : Settings) : Run Unit := do
  let configuration := settings.configuration
  Run.writeText configuration sampleConfiguration
  Run.record (.info ("Wrote sample configuration to " ++ configuration.text))
  completeProject settings

/-- Writes a project, with the directory of its configuration. -/
def makeProject (settings : Settings) : Run Unit := do
  match settings.configuration.parent? with
  | some parent => if !parent.text.isEmpty then Run.makeDirectories parent
  | none => pure ()
  writeProject settings

/-- Keeps the configuration that is there, and writes the stubs of its commands. -/
def keepProject (settings : Settings) : Run Unit := do
  Run.record (.info ("Keeping existing configuration " ++ settings.configuration.text))
  completeProject settings

/-- What is asked before a configuration is written over. -/
def overwriteQuestion (configuration : Path) : String :=
  "'" ++ configuration.text ++ "' already exists. Overwrite it with the sample?"

/-- Whether the user has to be asked before the sample is written. -/
def asksToOverwrite (files : FileSystem) (configuration : Path) (force : Bool) : Bool :=
  !force && files.pathExists configuration

/-- Starts a project. An existing configuration is written over if that is forced or
agreed to. Where the user has to be asked and there is no answer, for want of a
terminal, that is a failure. -/
def scaffold (settings : Settings) (force : Bool) (answer? : Option Bool := none) : Run Unit := do
  Run.record (.info "Running init command...")
  if asksToOverwrite (← Run.files) settings.configuration force then
    match answer? with
    | none => throw .noTerminal
    | some true => makeProject settings
    | some false => keepProject settings
  else makeProject settings

end CommandPlan
