import CommandPlan.Program

/-! The program on a real system: the files that a run may touch are read, the
run is computed, and the files that it changed are written. Links are passed by
the system, so no link is seen here. -/
namespace CommandPlan.Surroundings

/-- The location of a path, with its dots resolved by name alone. -/
def locationOf (directory : Location) (path : Path) : Location :=
  path.steps.foldl
    (fun location step =>
      if step = "." then location else if step = ".." then location.dropLast else location ++ [step])
    (if path.isAbsolute then [] else directory)

def textOf (location : Location) : String :=
  "/" ++ "/".intercalate location

def octetsOf (bytes : ByteArray) : List UInt8 :=
  bytes.toList

/-- What is at a location, if anything. -/
def entryAt (location : Location) : IO (Option Entry) := do
  let path := (← IO.currentDir) / textOf location
  if ← path.isDir then return some .directory
  if ← path.pathExists then return some (.file (octetsOf (← IO.FS.readBinFile path)))
  return none

/-- Adds the entries on the way to a path. -/
def observe (files : FileSystem) (path : Path) : IO FileSystem := do
  let location := locationOf files.workingDirectory path
  let mut files := files
  for length in List.range location.length do
    let place := location.take (length + 1)
    if let some entry ← entryAt place then
      files := files.put place entry
  return files

/-- Adds a directory with what is directly in it. -/
def observeDirectory (files : FileSystem) (path : Path) : IO FileSystem := do
  let mut files ← observe files path
  let directory := (← IO.currentDir) / textOf (locationOf files.workingDirectory path)
  if ← directory.isDir then
    for entry in ← directory.readDir do
      files ← observe files (path.join ⟨entry.fileName⟩)
  return files

/-- Writes what differs from the files before. -/
def apply (before after : FileSystem) : IO Unit := do
  for (location, entry) in after.entries do
    if before.entry? location ≠ some entry then
      match entry with
      | .directory => IO.FS.createDirAll (textOf location)
      | .file content => IO.FS.writeBinFile (textOf location) ⟨content.toArray⟩
      | .link _ => pure ()

/-- The directory for the users' own configurations: the one that the desktop
names, or the usual one in the home directory. -/
def configHome : IO (Option Path) := do
  let desktop := (← IO.getEnv "XDG_CONFIG_HOME").map Path.mk
  let home := (← IO.getEnv "HOME").map Path.mk
  return (desktop.filter Path.isAbsolute) <|> (home.filter (!·.text.isEmpty)).map (·.join ⟨".config"⟩)

def environment : IO Environment := do
  return {
    sourceDirectory := ← IO.getEnv "SHCRAFT_SOURCE_DIR"
    configuration := ← IO.getEnv "SHCRAFT_CONFIG"
    configHome := ← configHome
    isTerminal := ← (← IO.getStderr).isTty }

/-- The answer of a user at the terminal, who may just go on to refuse. -/
def ask (question : String) : IO Bool := do
  (← IO.getStderr).putStr (question ++ " [y/N] ")
  let line ← (← IO.getStdin).getLine
  return line.startsWith "y" || line.startsWith "Y"

/-- The files that a run with these words may look at. -/
def observeAll (environment : Environment) (words : List String) : IO FileSystem := do
  let here : Path := ⟨toString (← IO.currentDir)⟩
  let mut files : FileSystem := { workingDirectory := locationOf [] here }
  files ← observe files here
  if let some home := environment.configHome then
    files ← observe files (Settings.userFile home)
  match Invocation.read environment.sourceDirectory environment.configuration words,
      Program.userSettings environment files with
  | .ok invocation, .ok user =>
    let settings := Program.settings environment invocation user
    files ← observe files settings.configuration
    observeDirectory files settings.sourceDirectory
  | _, _ => return files

end CommandPlan.Surroundings

open CommandPlan Surroundings in
def main (words : List String) : IO UInt32 := do
  let environment ← environment
  let files ← observeAll environment words
  let agrees ← match Program.question? environment files words with
    | some question => ask question
    | none => pure false
  let outcome := Program.run { environment with agrees } files words
  apply files outcome.files
  for record in outcome.log do
    IO.eprintln ("[" ++ record.level.text ++ "] " ++ record.message)
  IO.print outcome.output
  if let some text := outcome.errorText then
    IO.eprintln text
  return UInt32.ofNat outcome.code
