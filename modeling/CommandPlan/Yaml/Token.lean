import CommandPlan.Yaml.Cursor

/-! The tokens of a document. Block collections, which the text marks by
indentation alone, have tokens for their start and their end. -/
namespace CommandPlan.Yaml

/-- How a scalar is written. -/
inductive ScalarStyle where
  | plain
  | quoted
  | literal
  | folded
deriving DecidableEq, Repr

inductive TokenKind where
  | version (major minor : Nat)
  | tagDirective (handle : List Char) (expansion : List UInt8)
  | documentStart
  | documentEnd
  | streamEnd
  | blockSequenceStart
  | blockMappingStart
  | blockEnd
  | flowSequenceStart
  | flowSequenceEnd
  | flowMappingStart
  | flowMappingEnd
  | blockEntry
  | flowEntry
  | key
  | value
  | reference (name : List Char)
  | anchor (name : List Char)
  | tag (handle : List Char) (suffix : List UInt8)
  | scalar (text : List Char) (style : ScalarStyle)
deriving DecidableEq, Repr

structure Token where
  kind : TokenKind
  start : Position
deriving DecidableEq, Repr

namespace Token

/-- The place behind an indicator, which is one character wide except for a
`key` that the text only implies. -/
def finish (token : Token) : Position :=
  { token.start with index := token.start.index + 1, column := token.start.column + 1 }

end Token
end CommandPlan.Yaml
