import CommandPlan.Yaml.Node.Parser

/-! The first document of a text. Directives in front of it tell the version and
the handles of its tags. -/
namespace CommandPlan.Yaml

structure Document where
  root : Node
  /-- Whether the text ends with the document; what else follows is not read. -/
  isOnly : Bool
deriving Repr, Inhabited

namespace Document

/-- The nodes that aliases may name. Of several in one slot the last one has it. -/
def anchors (document : Document) : List (Nat × Node) :=
  document.root.anchored.reverse

def defaultHandles : List (List Char × List UInt8) :=
  [(['!'], Utf8.encode ['!']), (['!', '!'], Utf8.encode Tag.coreHandle.toList)]

open Parse

/-- The directives of a document. Each handle may be declared once, and the
version once. -/
def parseDirectives :
    Nat → Bool → List (List Char × List UInt8) → Parse (List (List Char × List UInt8))
  | 0, _, _ => fail .directive
  | fuel + 1, versioned, handles => do
    match (← peek).kind with
    | .version major minor =>
      if versioned || !(major = 1 && (minor = 1 || minor = 2)) then fail .directive
      skip
      parseDirectives fuel true handles
    | .tagDirective handle expansion =>
      if (handles.lookup handle).isSome then fail .directive
      skip
      parseDirectives fuel versioned (handles ++ [(handle, expansion)])
    | _ => pure handles

def useHandles (handles : List (List Char × List UInt8)) : Parse Unit :=
  modify fun reading => { reading with handles := handles ++ defaultHandles }

/-- The first document of a text, without what ends it. A text without any
counts as a document without content. -/
def parseRoot (fuel : Nat) : StateM Reading Node := node do
  match (← peek).kind with
  | .streamEnd => pure (.empty (← peek).start)
  | .version .. | .tagDirective .. | .documentStart =>
    useHandles (← parseDirectives fuel false [])
    if (← peek).kind ≠ .documentStart then fail .documentStart
    skip
    match (← peek).kind with
    | .version .. | .tagDirective .. | .documentStart | .documentEnd | .streamEnd =>
      pure (.empty (← peek).start)
    | _ => Node.parse fuel .block
  | _ =>
    useHandles []
    Node.parse fuel .block

/-- The mark behind a document, if there is one. -/
def parseEnd : Parse Unit := do
  if (← peek).kind = .documentEnd then skip

/-- Whether nothing but the end follows. -/
def isLast (reading : Reading) : Bool :=
  match reading.tokens.dropWhile (·.kind = .documentEnd) with
  | token :: _ => token.kind = .streamEnd
  | [] => false

/-- The first document of a text as far as it goes, and what is left behind it. -/
def readRoot (text : List Char) : Node × Reading :=
  let lexed := scan text
  parseRoot (3 * lexed.tokens.length + 3) ⟨lexed.tokens, lexed.error, [], []⟩

/-- The document of a root, and the fault in the root or behind it, if there is one. -/
def close (root : Node) (reading : Reading) : Document × Option SyntaxError :=
  match parseEnd reading with
  | .ok ((), reading) => (⟨root, isLast reading⟩, root.fault?)
  | .error error => (⟨root, false⟩, root.fault? <|> some error)

/-- The first document of a text, and the fault that keeps it from its end, if there is
one. -/
def load (text : List Char) : Document × Option SyntaxError :=
  let (root, reading) := readRoot text
  close root reading

/-- The first document of a text, if there is no fault in it. -/
def parse (text : String) : Except SyntaxError Document :=
  match load text.toList with
  | (document, none) => .ok document
  | (_, some error) => .error error

theorem load_of_parse {text : String} {document : Document} (parsed : parse text = .ok document) :
    load text.toList = (document, none) := by
  unfold parse at parsed
  split at parsed
  · cases parsed
    assumption
  · cases parsed

theorem parse_of_root {text : String} {root : Node} {reading : Reading} {document : Document}
    (read : readRoot text.toList = (root, reading)) (closed : close root reading = (document, none)) :
    parse text = .ok document := by
  rw [parse, load, read]
  dsimp only
  rw [closed]

theorem close_whole {root : Node} {reading : Reading} {document : Document}
    (closed : close root reading = (document, none)) : document.root = root ∧ root.fault? = none := by
  unfold close at closed
  split at closed
  · obtain ⟨rfl, whole⟩ := Prod.mk.inj closed
    exact ⟨rfl, whole⟩
  · cases fault : root.fault? <;> rw [fault] at closed <;> cases closed

/-- A document without a fault is all there. -/
theorem whole_of_parse {text : String} {document : Document} (parsed : parse text = .ok document) :
    document.root.fault? = none := by
  obtain ⟨same, whole⟩ := close_whole (load_of_parse parsed)
  rw [same, whole]

end Document
end CommandPlan.Yaml
