import CommandPlan.FileSystem
import CommandPlan.Log

/-! Fragments: the files with the user's code of the leaf commands. A fragment
that cannot be read has a text all the same, and only the log tells why. -/
namespace CommandPlan

inductive Fragment where
  | loaded (path : Path) (content : String)
  | missing (path : Path)
deriving DecidableEq, Repr

namespace Fragment

def path : Fragment → Path
  | loaded path _ | missing path => path

def isMissing : Fragment → Bool
  | loaded .. => false
  | missing _ => true

/-- What stands for the content of a missing fragment. -/
def missingText : String := "# error: cannot load file"

def content : Fragment → String
  | loaded _ content => content
  | missing _ => missingText

/-- The text for a generated program: a comment with the path, and the content. -/
def text (fragment : Fragment) : String :=
  "# :" ++ fragment.path.text ++ "\n" ++ fragment.content

/-- The fragment in a file of the source directory. Octets that are no text are
replaced, with a warning. -/
def load (files : FileSystem) (sourceDirectory : Path) (file : String) : Logged Fragment :=
  let path := sourceDirectory.join ⟨file⟩
  match files.read path with
  | .ok octets =>
    match Utf8.decode? octets with
    | some content => pure (.loaded path (String.ofList content))
    | none => do
      Logged.record (.warn ("Fragment " ++ path.text ++ " is not valid UTF-8, decoding lossily"))
      pure (.loaded path (String.ofList (Utf8.decodeLossy octets)))
  | .error error => do
    Logged.record (.warn ("Cannot load fragment " ++ path.text ++ ": " ++ error.message))
    pure (.missing path)

/-- The text of the fragment in a file. -/
def loadText (files : FileSystem) (sourceDirectory : Path) (file : String) : Logged String := do
  let fragment ← load files sourceDirectory file
  pure fragment.text

end Fragment
end CommandPlan
