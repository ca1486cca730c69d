import CommandPlan.Yaml.Fault

/-! Block scalars. A header line tells whether lines are kept or folded, what
becomes of the line ends at the tail, and how far the text is indented; without
a number the first line that is not empty decides. -/
namespace CommandPlan.Yaml

/-- What becomes of the line ends behind the last line of text. -/
inductive Chomping where
  | strip
  | clip
  | keep
deriving DecidableEq, Repr

structure BlockHeader where
  chomping : Chomping
  /-- Columns beyond the enclosing block, if the header gives them. -/
  increment : Option Nat
deriving DecidableEq, Repr

def chomping? (c : Char) : Option Chomping :=
  if c = '-' then some .strip else if c = '+' then some .keep else none

/-- A digit of the header; zero is refused by the caller. -/
def headerDigit? (c : Char) : Option Nat :=
  if c.isDigit then some (c.toNat - '0'.toNat) else none

/-- The marks of a header, in either order, and their number. -/
def blockMarks : List Char → BlockHeader × Nat
  | [] => (⟨.clip, none⟩, 0)
  | c :: rest =>
    match chomping? c, headerDigit? c with
    | some chomping, _ =>
      match rest.head?.bind headerDigit? with
      | some digit => (⟨chomping, some digit⟩, 2)
      | none => (⟨chomping, none⟩, 1)
    | none, some digit =>
      match rest.head?.bind chomping? with
      | some chomping => (⟨chomping, some digit⟩, 2)
      | none => (⟨.clip, some digit⟩, 1)
    | none, none => (⟨.clip, none⟩, 0)

namespace Cursor

/-- The header, and the line behind it. -/
def readBlockHeader (cursor : Cursor) : Except SyntaxError (BlockHeader × Cursor) :=
  let (header, width) := blockMarks cursor.rest
  let next := ((cursor.advance width).skipWhile isBlank).skipComment
  if header.increment = some 0 then cursor.fail .blockHeader
  else
    match next.lineBreak? with
    | some (_, next) => .ok (header, next)
    | none => if next.rest.isEmpty then .ok (header, next) else next.fail .blockHeader

/-- The empty lines from here on, with the indentation of the line behind them
passed, and the greatest number of spaces met. Without a given indentation
every space belongs to it. -/
def readEmptyLines (indent : Option Nat) :
    Nat → Nat → Cursor → Except SyntaxError (List Char × Nat × Cursor)
  | 0, widest, cursor => .ok ([], widest, cursor)
  | fuel + 1, widest, cursor =>
    let spaces := (cursor.rest.takeWhile (· = ' ')).length
    let passed := match indent with
      | some indent => min spaces (indent - cursor.column)
      | none => spaces
    let next := cursor.advance passed
    let widest := max widest next.column
    let unfinished := match indent with
      | some indent => decide (next.column < indent)
      | none => true
    if unfinished && next.startsWith '\t' then next.fail .tabIndentation
    else
      match next.lineBreak? with
      | some (c, after) => do
        let (more, last) ← readEmptyLines indent fuel widest after
        .ok (c :: more, last)
      | none => .ok ([], widest, next)

/-- The text of the lines indented to the given column. `pending` is the line
end of the line before, `empty` the empty lines after it, and `indented` tells
whether that line began with a blank; lines that do are not folded. The result
still lacks the tail, whose line ends are given separately. -/
def blockLines (folded : Bool) (indent : Nat) :
    Nat → List Char → List Char → Bool → Cursor →
      Except SyntaxError (List Char × List Char × List Char × Cursor)
  | 0, pending, empty, _, cursor => .ok ([], pending, empty, cursor)
  | fuel + 1, pending, empty, indented, cursor =>
    if cursor.column ≠ indent ∨ cursor.rest = [] then .ok ([], pending, empty, cursor)
    else do
      let blank := startsWithAny " \t" cursor.rest
      let joint :=
        if folded ∧ pending = ['\n'] ∧ ¬ indented ∧ ¬ blank then
          if empty = [] then [' '] else empty
        else pending ++ empty
      let (line, atEnd) := cursor.takeWhile (!isBreak ·)
      let (ending, next) := match atEnd.lineBreak? with
        | some (c, next) => ([c], next)
        | none => ([], atEnd)
      let (more, _, after) ← next.readEmptyLines (some indent) (fuel + 1) 0
      let (text, tail) ← blockLines folded indent fuel ending more blank after
      .ok (joint ++ line ++ text, tail)

/-- A block scalar from its mark on. The enclosing block starts at the column
before `outer`, which is zero at the top. -/
def readBlock (fuel : Nat) (folded : Bool) (outer : Nat) (cursor : Cursor) :
    Except SyntaxError (List Char × Cursor) := do
  let (header, start) ← (cursor.advance 1).readBlockHeader
  let given := header.increment.map (outer - 1 + ·)
  let (empty, widest, body) ← start.readEmptyLines given fuel 0
  let indent := given.getD (max widest (max outer 1))
  let (text, ending, more, last) ← body.blockLines folded indent fuel [] empty false
  let tail := match header.chomping with
    | .strip => []
    | .clip => ending
    | .keep => ending ++ more
  .ok (text ++ tail, last)

end Cursor
end CommandPlan.Yaml
