import CommandPlan.Yaml.Fault

/-! Line folding in scalars without a header. A single line end between two
words reads as a space, several as one line feed less, and the blanks around
them are lost; blanks within a line stay as they are. -/
namespace CommandPlan.Yaml

/-- What separates two words of a scalar: blanks of one line, or line ends. An
escaped line end is the first one of its gap and is not kept. -/
inductive Gap where
  | blanks (text : List Char)
  | lines (first : Option Char) (more : List Char)
deriving DecidableEq, Repr

namespace Gap

def none : Gap := .blanks []

def isLines : Gap → Bool
  | blanks _ => false
  | lines .. => true

/-- What the gap leaves in the scalar. -/
def text : Gap → List Char
  | blanks text => text
  | lines (some '\n') [] => [' ']
  | lines (some '\n') more => more
  | lines (some c) more => c :: more
  | lines .none more => more

end Gap

namespace Cursor

/-- The line ends from here on, with the blanks between them passed. A tab is
refused to the left of the given column. Every turn passes a line end. -/
def readBreaks (indent : Nat) : Nat → Cursor → Except SyntaxError (List Char × Cursor)
  | 0, cursor => .ok ([], cursor)
  | fuel + 1, cursor =>
    let (blanks, next) := cursor.takeWhile isBlank
    let spaces := blanks.takeWhile (· = ' ')
    if spaces.length < blanks.length ∧ cursor.column + spaces.length < indent then
      (cursor.advance spaces.length).fail .tabIndentation
    else
      match next.lineBreak? with
      | some (c, next) => do
        let (more, last) ← readBreaks indent fuel next
        .ok (c :: more, last)
      | none => .ok ([], next)

/-- The gap after a word. -/
def readGap (fuel indent : Nat) (cursor : Cursor) : Except SyntaxError (Gap × Cursor) :=
  let (blanks, next) := cursor.takeWhile isBlank
  match next.lineBreak? with
  | none => .ok (.blanks blanks, next)
  | some (c, next) => do
    let (more, last) ← next.readBreaks indent fuel
    .ok (.lines (some c) more, last)

end Cursor
end CommandPlan.Yaml
