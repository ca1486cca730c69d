import CommandPlan.Path
import CommandPlan.Text.Utf8

/-! A tree of files, directories and symbolic links. A location is the list of
names on the way from the root; a path is walked step by step, through the links
that it meets. -/
namespace CommandPlan

inductive Entry where
  | file (content : List UInt8)
  | directory
  /-- A symbolic link with the text of its target. -/
  | link (target : Path)
deriving DecidableEq, Repr, Inhabited

abbrev Location := List String

theorem nodup_nil_unspelled : (([] : List ((Location × List UInt8) × Entry)).map (·.1)).Nodup :=
  List.nodup_nil

theorem no_text_nil : ∀ held ∈ ([] : List ((Location × List UInt8) × Entry)), Utf8.decode? held.1.2 = none :=
  List.forall_mem_nil _

/-- The root is a directory without an entry of its own. -/
structure FileSystem where
  entries : List (Location × Entry) := []
  /-- What has a name that no text spells: its directory, the octets of its name, and
  the entry. No path leads there, but a listing of the directory tells of it. -/
  unspelled : List ((Location × List UInt8) × Entry) := []
  /-- Where relative paths start. -/
  workingDirectory : Location := []
  /-- A location has one entry, and so has a name in a directory. -/
  unique : (entries.map (·.1)).Nodup := by exact List.nodup_nil
  uniqueUnspelled : (unspelled.map (·.1)).Nodup := by exact nodup_nil_unspelled
  noText : ∀ held ∈ unspelled, Utf8.decode? held.1.2 = none := by exact no_text_nil
deriving Repr

/-- Why an operation on a file fails. -/
inductive FileError where
  | notFound
  | alreadyExists
  | notDirectory
  | isDirectory
  | nameTooLong
  | tooManyLinks
  | nulByte
  | notText
  | wholeTree
deriving DecidableEq, Repr

namespace FileError

def message : FileError → String
  | notFound => "No such file or directory (os error 2)"
  | alreadyExists => "File exists (os error 17)"
  | notDirectory => "Not a directory (os error 20)"
  | isDirectory => "Is a directory (os error 21)"
  | nameTooLong => "File name too long (os error 36)"
  | tooManyLinks => "Too many levels of symbolic links (os error 40)"
  | nulByte => "file name contained an unexpected NUL byte"
  | notText => "stream did not contain valid UTF-8"
  | wholeTree => "failed to create whole tree"

end FileError

namespace FileSystem

instance : Inhabited FileSystem := ⟨{}⟩

def entry? (files : FileSystem) (location : Location) : Option Entry :=
  if location = [] then some .directory else files.entries.lookup location

/-- The entries with one of them put in, in place of the one at its location. -/
def putEntry (location : Location) (entry : Entry) :
    List (Location × Entry) → List (Location × Entry)
  | [] => [(location, entry)]
  | (other, old) :: rest =>
    if other = location then (location, entry) :: rest else (other, old) :: putEntry location entry rest

theorem mem_putEntry {location other : Location} {entry : Entry} {entries : List (Location × Entry)} :
    other ∈ (putEntry location entry entries).map (·.1) ↔
      other = location ∨ other ∈ entries.map (·.1) := by
  induction entries with
  | nil => simp [putEntry]
  | cons head rest ih =>
    by_cases h : head.1 = location
    · simp [putEntry, h]
    · simp only [putEntry, h, if_false, List.map_cons, List.mem_cons, ih]
      exact or_left_comm

theorem nodup_putEntry {location : Location} {entry : Entry} {entries : List (Location × Entry)}
    (unique : (entries.map (·.1)).Nodup) : ((putEntry location entry entries).map (·.1)).Nodup := by
  induction entries with
  | nil => simp [putEntry]
  | cons head rest ih =>
    simp only [List.map_cons, List.nodup_cons] at unique
    by_cases h : head.1 = location
    · subst h
      simpa [putEntry] using unique
    · rw [putEntry, if_neg h, List.map_cons, List.nodup_cons, mem_putEntry]
      exact ⟨fun member => member.elim h unique.1, ih unique.2⟩

/-- Puts an entry at a location, in place of the one there. -/
def put (files : FileSystem) (location : Location) (entry : Entry) : FileSystem :=
  { files with
    entries := putEntry location entry files.entries
    unique := nodup_putEntry files.unique }

/-- Removes an entry and all below it. -/
def erase (files : FileSystem) (location : Location) : FileSystem :=
  { files with
    entries := files.entries.filter fun (other, _) => !location.isPrefixOf other
    unspelled := files.unspelled.filter fun ((directory, _), _) => !location.isPrefixOf directory
    unique := files.unique.sublist (List.filter_sublist.map _)
    uniqueUnspelled := files.uniqueUnspelled.sublist (List.filter_sublist.map _)
    noText := fun held member => files.noText held (List.mem_filter.mp member).1 }

/-- The names in a directory that are texts. -/
def spelledNames (files : FileSystem) (location : Location) : List (String × Entry) :=
  files.entries.filterMap fun (other, entry) =>
    if other.dropLast = location then other.getLast?.map (·, entry) else none

/-- The names in a directory that are no texts, by their octets. -/
def unspelledNames (files : FileSystem) (location : Location) : List (List UInt8 × Entry) :=
  files.unspelled.filterMap fun ((directory, name), entry) =>
    if directory = location then some (name, entry) else none

/-- The names in a directory by their octets, in no particular order. -/
def names (files : FileSystem) (location : Location) : List (List UInt8 × Entry) :=
  (files.spelledNames location).map (fun (name, entry) => (Utf8.encode name.toList, entry)) ++
    files.unspelledNames location

/-! ## Walking a path -/

/-- What a walk is for. Creating a file passes through a link at the end only if
no separator follows it; creating a directory never does. -/
inductive Purpose where
  | look
  | createFile
  | createDirectory
deriving DecidableEq, Repr

namespace Purpose

def followsLast (purpose : Purpose) (slash : Bool) : Bool :=
  match purpose with
  | look => true
  | createFile => !slash
  | createDirectory => false

end Purpose

/-- Where a path leads: to an entry, or to a free place in a directory. -/
structure Target where
  location : Location
  entry : Option Entry
  /-- Whether a separator follows the last name. -/
  slash : Bool
deriving DecidableEq, Repr

/-- How far a walk comes without passing a link. -/
inductive Walk where
  | arrived (location : Location) (entry : Option Entry)
  | link (directory : Location) (target : Path) (rest : List String)
  | failed (error : FileError)
deriving DecidableEq, Repr

/-- The longest name that a directory can hold, in octets. -/
def nameLimit : Nat := 255

/-- Walks until a link is met; one at the end counts if `followLast` says so. -/
def walk (files : FileSystem) (followLast : Bool) : Location → List String → Walk
  | directory, [] => .arrived directory (some .directory)
  | directory, name :: rest =>
    if name = "." then walk files followLast directory rest
    else if name = ".." then walk files followLast directory.dropLast rest
    else if nameLimit < name.utf8ByteSize then .failed .nameTooLong
    else
      let location := directory ++ [name]
      match files.entry? location with
      | none => if rest.isEmpty then .arrived location none else .failed .notFound
      | some .directory => walk files followLast location rest
      | some (.file content) =>
        if rest.isEmpty then .arrived location (some (.file content)) else .failed .notDirectory
      | some (.link target) =>
        if rest.isEmpty && !followLast then .arrived location (some (.link target))
        else .link directory target rest

/-- Walks through at most the given number of links. -/
def follow (files : FileSystem) (purpose : Purpose) :
    Nat → Bool → Location → List String → Except FileError Target
  | links, slash, start, steps =>
    match files.walk (purpose.followsLast slash) start steps with
    | .arrived location entry => .ok ⟨location, entry, slash⟩
    | .failed error => .error error
    | .link directory target rest =>
      match links with
      | 0 => .error .tooManyLinks
      | links + 1 =>
        follow files purpose links (if rest.isEmpty then slash || target.endsWithSlash else slash)
          (if target.isAbsolute then [] else directory) (target.steps ++ rest)

/-- How many links one walk may pass. -/
def linkLimit : Nat := 40

/-- The length that no path may reach, in octets. -/
def pathLimit : Nat := 4096

/-- Where a path leads. -/
def locate (files : FileSystem) (purpose : Purpose) (path : Path) : Except FileError Target :=
  if path.text.toList.contains (Char.ofNat 0) then .error .nulByte
  else if path.text.isEmpty then .error .notFound
  else if pathLimit ≤ path.text.utf8ByteSize then .error .nameTooLong
  else
    files.follow purpose linkLimit path.endsWithSlash
      (if path.isAbsolute then [] else files.workingDirectory) path.steps

/-! ## Looking -/

/-- The entry that a path leads to. Only a directory may have a separator behind
its name. -/
def look (files : FileSystem) (path : Path) : Except FileError (Location × Entry) := do
  let target ← files.locate .look path
  match target.entry with
  | none => .error .notFound
  | some (.file content) =>
    if target.slash then .error .notDirectory else .ok (target.location, .file content)
  | some entry => .ok (target.location, entry)

def pathExists (files : FileSystem) (path : Path) : Bool :=
  (files.look path).toOption.isSome

def isDirectory (files : FileSystem) (path : Path) : Bool :=
  match files.look path with
  | .ok (_, .directory) => true
  | _ => false

def isFile (files : FileSystem) (path : Path) : Bool :=
  match files.look path with
  | .ok (_, .file _) => true
  | _ => false

def read (files : FileSystem) (path : Path) : Except FileError (List UInt8) := do
  match ← files.look path with
  | (_, .file content) => .ok content
  | (_, .directory) => .error .isDirectory
  | (_, .link _) => .error .tooManyLinks

/-- The content of a file that must be text. -/
def readText (files : FileSystem) (path : Path) : Except FileError String := do
  match Utf8.decode? (← files.read path) with
  | some text => .ok (String.ofList text)
  | none => .error .notText

/-- The entries of the directory that a path leads to. -/
def list (files : FileSystem) (path : Path) : Except FileError (List (List UInt8 × Entry)) := do
  match ← files.look path with
  | (location, .directory) => .ok (files.names location)
  | _ => .error .notDirectory

/-! ## Changing -/

/-- Writes a file, in place of the one there. -/
def write (files : FileSystem) (path : Path) (content : List UInt8) :
    Except FileError FileSystem := do
  let target ← files.locate .createFile path
  if target.slash then .error .isDirectory
  else
    match target.entry with
    | some .directory => .error .isDirectory
    | some (.link _) => .error .tooManyLinks
    | some (.file _) | none => .ok (files.put target.location (.file content))

def writeText (files : FileSystem) (path : Path) (text : String) : Except FileError FileSystem :=
  files.write path (Utf8.encode text.toList)

def makeDirectory (files : FileSystem) (path : Path) : Except FileError FileSystem := do
  let target ← files.locate .createDirectory path
  match target.entry with
  | some _ => .error .alreadyExists
  | none => .ok (files.put target.location .directory)

/-- A failure to create a directory counts for nothing where one is. -/
def unlessDirectory (files : FileSystem) (path : Path) (error : FileError) : Except FileError Unit :=
  if files.isDirectory path then .ok () else .error error

/-- Creates a directory with its parents. Those made before a failure stay. The
fuel is the number of steps of the path, each of which has a parent of fewer. -/
def makeDirectoriesWithin (files : FileSystem) : Nat → Path → FileSystem × Except FileError Unit
  | fuel, path =>
    if path.text.isEmpty then (files, .ok ())
    else
      match files.makeDirectory path with
      | .ok made => (made, .ok ())
      | .error .notFound =>
        match fuel, path.parent? with
        | fuel + 1, some parent =>
          match makeDirectoriesWithin files fuel parent with
          | (files, .ok ()) =>
            match files.makeDirectory path with
            | .ok made => (made, .ok ())
            | .error error => (files, files.unlessDirectory path error)
          | (files, .error error) => (files, .error error)
        | _, _ => (files, .error .wholeTree)
      | .error error => (files, files.unlessDirectory path error)

def makeDirectories (files : FileSystem) (path : Path) : FileSystem × Except FileError Unit :=
  files.makeDirectoriesWithin (path.steps.length + 1) path

/-- Creates a symbolic link. -/
def makeLink (files : FileSystem) (path target : Path) : Except FileError FileSystem := do
  let place ← files.locate .createDirectory path
  match place.entry with
  | some _ => .error .alreadyExists
  | none => .ok (files.put place.location (.link target))

/-- Removes a file, a link or a whole directory. -/
def remove (files : FileSystem) (path : Path) : Except FileError FileSystem := do
  let target ← files.locate .createDirectory path
  match target.entry with
  | some _ => .ok (files.erase target.location)
  | none => .error .notFound

end FileSystem
end CommandPlan
