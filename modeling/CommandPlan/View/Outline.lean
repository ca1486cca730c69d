import CommandPlan.View
import CommandPlan.Yaml.Outline

/-! The text of a plan. Lists without items and texts that are missing have no
field; a summary has one unless it is empty. -/
namespace CommandPlan

open Yaml (Outline)

namespace Yaml.Outline

def textField (key value : String) : List (String × Outline) :=
  [(key, .text value)]

/-- No field for a list without items. -/
def listField (key : String) (items : List Outline) : List (String × Outline) :=
  if items.isEmpty then [] else [(key, .list items)]

/-- No field for a text that is missing. -/
def optionField (key : String) (value : Option String) : List (String × Outline) :=
  value.elim [] (textField key)

/-- No field for an empty text. -/
def summaryField (summary : String) : List (String × Outline) :=
  if summary.isEmpty then [] else textField "summary" summary

end Yaml.Outline

open Yaml.Outline

def ArgumentView.fields (view : ArgumentView) : List (String × Outline) :=
  textField "name" view.name ++ textField "usage" view.usage ++ [("required", .bool view.required)] ++
    optionField "default" view.defaultText ++ summaryField view.summary

def FlagView.fields (view : FlagView) : List (String × Outline) :=
  textField "name" view.name ++ textField "usage" view.usage ++ [("aliases", .list (view.aliases.map .text))] ++
    [("required", .bool view.required), ("takesValue", .bool view.takesValue)] ++
    optionField "default" view.defaultText ++ summaryField view.summary

namespace CommandView

mutual

def fields : CommandView → List (String × Outline)
  | ⟨fullName, functionName, caption, usage, aliases, commandNames, requiredArguments, requiredFlags,
      arguments, flags, fragment, commands⟩ =>
    textField "fullName" fullName ++ textField "functionName" functionName ++
      textField "caption" caption ++ textField "usage" usage ++
      [("aliases", .list (aliases.map .text))] ++
      listField "commandNames" (commandNames.map .text) ++
      listField "requiredArgs" (requiredArguments.map .text) ++
      listField "requiredFlags" (requiredFlags.map .text) ++
      listField "args" (arguments.map fun view => .record view.fields) ++
      listField "flags" (flags.map fun view => .record view.fields) ++
      optionField "fragment" fragment ++
      listField "commands" (outlines commands)

def outlines : List CommandView → List Outline
  | [] => []
  | view :: views => .record (fields view) :: outlines views

end

/-- The plan as a document. -/
def text (view : CommandView) : String :=
  Outline.document view.fields

end CommandView
end CommandPlan
