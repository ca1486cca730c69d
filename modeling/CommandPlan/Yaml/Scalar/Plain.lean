import CommandPlan.Yaml.Scalar.Folding

/-! Scalars without quotes. In block context they end before a line that is
indented too little, in flow context before a bracket or a comma, and in both
before a comment, before a colon that ends its word, and at a document's edge. -/
namespace CommandPlan.Yaml

/-- The characters up to the next blank, line end or mark. A colon right before
a bracket or comma is refused, since two readings of it are in use. -/
def plainWord (inFlow : Bool) : List Char → Option (List Char)
  | [] => some []
  | c :: rest =>
    if isBlank c || isBreak c then some []
    else if inFlow && c = ':' && startsWithAny ",?[]\x7b\x7d" rest then none
    else if (c = ':' && atWordEnd rest) || (inFlow && startsWithAny ",[]\x7b\x7d" [c]) then some []
    else (plainWord inFlow rest).map (c :: ·)

/-- The words of a plain scalar after a gap. The gap counts only when another
word follows; otherwise it is given back with the place behind it. -/
def Cursor.plainWords (inFlow : Bool) (indent : Nat) :
    Nat → Gap → Cursor → Except SyntaxError (List Char × Gap × Cursor)
  | 0, gap, cursor => .ok ([], gap, cursor)
  | fuel + 1, gap, cursor =>
    if cursor.atDocumentEdge || cursor.startsWith '#' then .ok ([], gap, cursor)
    else
      match plainWord inFlow cursor.rest with
      | none => cursor.fail .colonInFlow
      | some [] => .ok ([], gap, cursor)
      | some word => do
        let (next, after) ← (cursor.advance word.length).readGap (fuel + 1) indent
        let (words, last) ←
          if !inFlow && after.column < indent then .ok ([], next, after)
          else Cursor.plainWords inFlow indent fuel next after
        .ok (gap.text ++ word ++ words, last)

/-- A plain scalar from its first character on, and whether line ends follow it. -/
def Cursor.readPlain (fuel : Nat) (inFlow : Bool) (indent : Nat) (cursor : Cursor) :
    Except SyntaxError (List Char × Bool × Cursor) := do
  let (words, gap, last) ← cursor.plainWords inFlow indent fuel .none
  .ok (words, gap.isLines, last)

end CommandPlan.Yaml
