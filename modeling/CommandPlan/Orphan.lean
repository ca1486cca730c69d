import CommandPlan.Command
import CommandPlan.FileSystem

/-! Orphans: fragment files in the source directory that belong to no command. -/
namespace CommandPlan

/-- Whether a file is a fragment by its name. -/
def isFragmentName (name : String) : Bool :=
  Command.fragmentSuffix.toList.isSuffixOf name.toList

/-- The name of a fragment by the octets of it, if they are a text and it is one. -/
def fragmentName? (octets : List UInt8) : Option String :=
  ((Utf8.decode? octets).map String.ofList).filter isFragmentName

/-- The path of an entry of a directory, if it is the file of a fragment. Links and
directories are no fragments, and neither is a file whose name is no text. -/
def fragmentFile? (directory : Path) : List UInt8 × Entry → Option Path
  | (octets, .file _) => (fragmentName? octets).map fun name => directory.join ⟨name⟩
  | _ => none

/-- The fragment files directly in a directory that are not among the expected
paths, in order. A source directory that does not exist has none. -/
def orphans (files : FileSystem) (sourceDirectory : Path) (expected : List Path) : List Path :=
  if files.isDirectory sourceDirectory then
    match files.list sourceDirectory with
    | .ok entries =>
      let found := entries.filterMap (fragmentFile? sourceDirectory)
      (found.filter fun path => !expected.any path.same).mergeSort fun a b => !b.lt a
    | .error _ => []
  else []

end CommandPlan
