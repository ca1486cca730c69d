/-! Paths of files as texts. Two texts may spell one path: doubled separators
and dots between them count for nothing, and paths are compared by their
components. -/
namespace CommandPlan

structure Path where
  text : String
deriving DecidableEq, Repr, Inhabited

namespace Path

/-- A step of a path. The order of the constructors is the order of paths. -/
inductive Component where
  | root
  | here
  | parent
  | name (text : String)
deriving DecidableEq, Repr

namespace Component

def text : Component → String
  | root => "/"
  | here => "."
  | parent => ".."
  | name text => text

def rank : Component → Nat
  | root => 0
  | here => 1
  | parent => 2
  | name _ => 3

/-- Names are in the order of their characters. -/
def lt : Component → Component → Bool
  | name a, name b => decide (a.toList < b.toList)
  | a, b => decide (a.rank < b.rank)

end Component

/-- The pieces of a text between its separators, the empty ones included. -/
def splitText : List Char → List (List Char)
  | [] => [[]]
  | c :: rest =>
    if c = '/' then [] :: splitText rest
    else
      match splitText rest with
      | piece :: pieces => (c :: piece) :: pieces
      | [] => [[c]]

/-- The pieces that are steps for a walk through directories. -/
def steps (path : Path) : List String :=
  ((splitText path.text.toList).filter (!·.isEmpty)).map String.ofList

def isAbsolute (path : Path) : Bool :=
  path.text.toList.head? = some '/'

/-- Whether the text ends with a separator, as only directories may. -/
def endsWithSlash (path : Path) : Bool :=
  path.text.toList.getLast? = some '/'

/-- The path of a file that is given relative to this one. An absolute file
replaces it; otherwise a separator is put in between, unless there is one. -/
def join (base file : Path) : Path :=
  if file.isAbsolute || base.text.isEmpty then file
  else if base.endsWithSlash then ⟨base.text ++ file.text⟩
  else ⟨base.text ++ "/" ++ file.text⟩

def componentOf (step : String) : Component :=
  if step = "." then .here else if step = ".." then .parent else .name step

/-- The components; a dot is one only at the head of a relative path. -/
def components (path : Path) : List Component :=
  let all := path.steps.map componentOf
  if path.isAbsolute then .root :: all.filter (· ≠ .here)
  else
    match all with
    | [] => []
    | first :: rest => first :: rest.filter (· ≠ .here)

def ofRelative (components : List Component) : String :=
  "/".intercalate (components.map Component.text)

/-- A path with the given components. -/
def ofComponents : List Component → Path
  | .root :: rest => ⟨"/" ++ ofRelative rest⟩
  | components => ⟨ofRelative components⟩

/-- The path without its last component. The root and the empty path have no
parent. -/
def parent? (path : Path) : Option Path :=
  match path.components with
  | [] => none
  | [.root] => none
  | components => some (ofComponents components.dropLast)

/-- Whether two texts spell one path. -/
def same (a b : Path) : Bool :=
  a.components = b.components

def ltComponents : List Component → List Component → Bool
  | _, [] => false
  | [], _ :: _ => true
  | a :: as, b :: bs => a.lt b || (a = b && ltComponents as bs)

def lt (a b : Path) : Bool :=
  ltComponents a.components b.components

end Path
end CommandPlan
