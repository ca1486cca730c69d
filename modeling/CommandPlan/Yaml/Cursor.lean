/-! Places in a document, and a reader of its text that knows its place. A line
ends at a line feed, a carriage return, both in this order, or one of the line
ends beyond ASCII; a scalar keeps the first four of these as a line feed. -/
namespace CommandPlan.Yaml

/-- A place in a document, counted from zero. -/
structure Position where
  index : Nat := 0
  line : Nat := 0
  column : Nat := 0
deriving DecidableEq, Repr, Inhabited

namespace Position

/-- The place as a message names it, counted from one. -/
def text (position : Position) : String :=
  if position.line = 0 ∧ position.column = 0 then "position " ++ toString position.index
  else "line " ++ toString (position.line + 1) ++ " column " ++ toString (position.column + 1)

/-- What a message adds about the place; the start of a document is not worth
a mention. -/
def suffix (position : Position) : String :=
  if position.line = 0 ∧ position.column = 0 then "" else " at " ++ position.text

end Position

def isBreak (c : Char) : Bool :=
  c = '\n' || c = '\r' || c = Char.ofNat 0x85 || c = Char.ofNat 0x2028 || c = Char.ofNat 0x2029

def isBlank (c : Char) : Bool :=
  c = ' ' || c = '\t'

/-- Letters and digits of names: handles, anchors and directives. -/
def isNameChar (c : Char) : Bool :=
  c.isAlphanum || c = '_' || c = '-'

/-- Whether a word ends here. -/
def atWordEnd : List Char → Bool
  | [] => true
  | c :: _ => isBlank c || isBreak c

/-- Whether the text goes on with one of the given characters. -/
def startsWithAny (options : String) : List Char → Bool
  | [] => false
  | c :: _ => options.toList.contains c

/-- Text that is still to be read, and its place. -/
structure Cursor where
  position : Position
  rest : List Char
deriving DecidableEq, Repr, Inhabited

namespace Cursor

def ofText (text : List Char) : Cursor :=
  ⟨{}, text⟩

def column (cursor : Cursor) : Nat :=
  cursor.position.column

/-- Passes characters of the current line. -/
def advance (count : Nat) (cursor : Cursor) : Cursor :=
  { position := { cursor.position with
      index := cursor.position.index + count, column := cursor.position.column + count }
    rest := cursor.rest.drop count }

def nextLine (width : Nat) (position : Position) : Position :=
  { index := position.index + width, line := position.line + 1, column := 0 }

/-- The line end at this place, in the form a scalar keeps, and the next line. -/
def lineBreak? (cursor : Cursor) : Option (Char × Cursor) :=
  match cursor.rest with
  | '\r' :: '\n' :: rest => some ('\n', ⟨nextLine 2 cursor.position, rest⟩)
  | c :: rest =>
    if isBreak c then
      some (if 0x2028 ≤ c.toNat then c else '\n', ⟨nextLine 1 cursor.position, rest⟩)
    else none
  | [] => none

/-- The longest run of characters of a class that has no line ends. -/
def takeWhile (inClass : Char → Bool) (cursor : Cursor) : List Char × Cursor :=
  let run := cursor.rest.takeWhile inClass
  (run, cursor.advance run.length)

def skipWhile (inClass : Char → Bool) (cursor : Cursor) : Cursor :=
  (cursor.takeWhile inClass).2

def startsWith (c : Char) (cursor : Cursor) : Bool :=
  cursor.rest.head? = some c

/-- Three equal marks alone at the start of a line, which end any document. -/
def atDocumentMark (mark : Char) (cursor : Cursor) : Bool :=
  cursor.column = 0 && cursor.rest.take 3 = [mark, mark, mark] && atWordEnd (cursor.rest.drop 3)

def atDocumentEdge (cursor : Cursor) : Bool :=
  cursor.atDocumentMark '-' || cursor.atDocumentMark '.'

/-- Passes a comment up to the end of its line. -/
def skipComment (cursor : Cursor) : Cursor :=
  if cursor.startsWith '#' then cursor.skipWhile (!isBreak ·) else cursor

/-- Where the cursor would stand if the text ended with a line end. -/
def lineEndPosition (cursor : Cursor) : Position :=
  if cursor.column = 0 then cursor.position
  else { cursor.position with line := cursor.position.line + 1, column := 0 }

end Cursor
end CommandPlan.Yaml
