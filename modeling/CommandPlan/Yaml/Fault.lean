import CommandPlan.Yaml.Cursor

/-! What makes a text no document at all, apart from what the document says. -/
namespace CommandPlan.Yaml

inductive Fault where
  | character
  | tokenStart
  | tabIndentation
  | unclosedQuote
  | documentMarkInQuotes
  | escape
  | colonInFlow
  | keyWithoutColon
  | sequenceEntryHere
  | keyHere
  | valueHere
  | blockHeader
  | directive
  | documentStart
  | anchorName
  | unknownAnchor
  | tag
  | tagHandle
  | nodeContent
  | sequenceEntry
  | mappingKey
  | flowSequenceEnd
  | flowMappingEnd
deriving DecidableEq, Repr

namespace Fault

def message : Fault → String
  | character => "control characters are not allowed"
  | tokenStart => "found character that cannot start any token"
  | tabIndentation => "found a tab character where an indentation space is expected"
  | unclosedQuote => "found unexpected end of stream"
  | documentMarkInQuotes => "found unexpected document indicator"
  | escape => "found unknown escape character"
  | colonInFlow => "found unexpected ':'"
  | keyWithoutColon => "could not find expected ':'"
  | sequenceEntryHere => "block sequence entries are not allowed in this context"
  | keyHere => "mapping keys are not allowed in this context"
  | valueHere => "mapping values are not allowed in this context"
  | blockHeader => "did not find expected comment or line break"
  | directive => "found unknown directive name"
  | documentStart => "did not find expected <document start>"
  | anchorName => "did not find expected alphabetic or numeric character"
  | unknownAnchor => "unknown anchor"
  | tag => "did not find expected tag URI"
  | tagHandle => "found undefined tag handle"
  | nodeContent => "did not find expected node content"
  | sequenceEntry => "did not find expected '-' indicator"
  | mappingKey => "did not find expected key"
  | flowSequenceEnd => "did not find expected ',' or ']'"
  | flowMappingEnd => "did not find expected ',' or '\x7d'"

end Fault

structure SyntaxError where
  fault : Fault
  position : Position
deriving DecidableEq, Repr

namespace SyntaxError

def message (error : SyntaxError) : String :=
  error.fault.message ++ " at " ++ error.position.text

end SyntaxError

def Cursor.fail (cursor : Cursor) (fault : Fault) {α : Type} : Except SyntaxError α :=
  .error ⟨fault, cursor.position⟩

end CommandPlan.Yaml
