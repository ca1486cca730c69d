import CommandPlan.Yaml.Problem

/-! Reading nodes as values of a given shape. A reader follows aliases, and at
most a hundred of them for each item of the document, so that a short text
cannot stand for an endless one. Collections nest to a limited depth. -/
namespace CommandPlan.Yaml

/-- A reader of one document: it knows the anchored nodes, and counts the
aliases that it may still follow. -/
abbrev Read := ReaderT (List (Nat × Node)) (StateT Nat (Except ReadError))

namespace Read

def fail {α : Type} (problem : Problem) : Read α :=
  throw (.schema problem none)

/-- Gives a problem without a place this one. -/
def located {α : Type} (trail : Trail) (position : Position) (read : Read α) : Read α :=
  fun anchors left => (read anchors left).mapError (·.locate ⟨trail, position⟩)

/-- The node itself, or the one that an alias names. Where the text breaks off there
is nothing to read. -/
def follow : Node → Read Node
  | .cut error => throw (.malformed error)
  | .reference position slot => do
    match ← get with
    | 0 => throw .tooManyRepetitions
    | left + 1 =>
      set left
      match (← read).lookup slot with
      | some node => pure node
      | none => throw (.malformed ⟨.unknownAnchor, position⟩)
  | node => pure node

/-- How deep collections may nest. -/
def depthLimit : Nat := 128

/-- How many aliases may be followed for each item of the document. -/
def aliasFactor : Nat := 100

end Read

/-- The meaning of a scalar. A tag of a core type demands that type, a private
one leaves the text to be judged, and any other asks for a string. -/
def meaning (tag : Option Tag) (text : String) (style : ScalarStyle) : Except Problem Atom :=
  let judged := if style = .plain then resolve text else .text text
  let chars := text.toList
  match tag with
  | none => .ok judged
  | some tag =>
    match tag.core? with
    | some .bool => ((boolOf? chars).map Atom.bool).elim (.error (.malformedScalar text "a boolean")) .ok
    | some .int => (integerAtom? chars).elim (.error (.malformedScalar text "an integer")) .ok
    | some .float => ((floatOf? chars).map Atom.float).elim (.error (.malformedScalar text "a float")) .ok
    | some .null => if isNullText chars then .ok .null else .error (.malformedScalar text "null")
    | none => .ok (if tag.isLocal then judged else .text text)

/-- The problem with a node that is not what was expected. -/
def mismatch (node : Node) (expected : String) : Problem :=
  match node with
  | .scalar properties text style =>
    match meaning properties.tag text style with
    | .ok atom => .unexpected (.ofAtom atom) expected
    | .error problem => problem
  | .mapping .. => .unexpected .mapping expected
  | .sequence .. | .reference .. | .cut .. => .unexpected .sequence expected

namespace Read

/-- Reads a node after following its alias; problems inside are at its place
unless they have one. -/
def atNode {α : Type} (trail : Trail) (node : Node) (read : Node → Read α) : Read α := do
  let node ← follow node
  (read node).located trail node.position

/-- Passes over a node, which may be anything but has to be there to its end. -/
def ignore (node : Node) : Read Unit :=
  match node.fault? with
  | none => pure ()
  | some error => throw (.malformed error)

theorem ignore_whole {node : Node} (whole : node.fault? = none) : ignore node = pure () := by
  rw [ignore, whole]

/-- Any scalar, by its text. -/
def text (expected : String) (trail : Trail) (node : Node) : Read String :=
  atNode trail node fun
    | .scalar _ text _ => pure text
    | node => fail (mismatch node expected)

def string (trail : Trail) (node : Node) : Read String :=
  text "a string" trail node

/-- A truth value without quotes, or below a tag that says it is one. -/
def bool (trail : Trail) (node : Node) : Read Bool :=
  atNode trail node fun node =>
    let value? := match node with
      | .scalar properties text style =>
        let admitted := style = .plain ∨ (style = .literal ∧ properties.tag.bind Tag.core? = some .bool)
        if admitted then boolOf? text.toList else none
      | _ => none
    match value? with
    | some value => pure value
    | none => fail (mismatch node "a boolean")

/-- Nothing where null or nothing is written, and a value elsewhere. The null
type admits no other text. -/
def optional {α : Type} (read : Trail → Node → Read α) (trail : Trail) (node : Node) :
    Read (Option α) := do
  let node ← follow node
  match node with
  | .scalar properties text .plain =>
    match properties.tag with
    | none => if text.isEmpty || isNullText text.toList then pure none else some <$> read trail node
    | some tag =>
      if tag.core? = some .null then
        if isNullText text.toList then pure none else fail (.malformedScalar text "null")
      else some <$> read trail node
  | _ => some <$> read trail node

/-- The items of a sequence, each read with its place in it. -/
def items {α : Type} (read : Trail → Node → Read α) (trail : Trail) :
    Nat → List Node → Read (List α)
  | _, [] => pure []
  | index, node :: nodes => do
    let value ← read (trail.item index) node
    (value :: ·) <$> items read trail (index + 1) nodes

/-- A sequence; nothing at all is an empty one. There is no reader of items
where nothing may nest any more. -/
def list {α : Type} (read? : Option (Trail → Node → Read α)) (trail : Trail) (node : Node) :
    Read (List α) :=
  atNode trail node fun node =>
    match node, read? with
    | .sequence _ nodes, some read => items read trail 0 nodes
    | .sequence properties _, none => throw (.tooDeep properties.position)
    | node, _ => if node.isVacant then pure [] else fail (mismatch node "a sequence")

/-- A key of a record. A closed record refuses the keys that it does not know. -/
def key (known? : Option (List String)) (trail : Trail) (node : Node) : Read String :=
  atNode trail node fun
    | .scalar _ text _ =>
      match known? with
      | some known => if known.contains text then pure text else fail (.unknownField text known)
      | none => pure text
    | node => fail (mismatch node "field identifier")

/-- The entries of a record in their order, each added to a draft of it. -/
def entries {σ : Type} (known? : Option (List String)) (add : σ → String → Trail → Node → Read σ)
    (trail : Trail) : σ → List (Node × Node) → Read σ
  | draft, [] => pure draft
  | draft, (keyNode, value) :: rest => do
    let name ← key known? trail keyNode
    let draft ← add draft name (trail.child keyNode) value
    entries known? add trail draft rest

/-- A record: a mapping from names to fields, which are added to a draft that is
finished at the end. Nothing at all is a record without fields. -/
def record {σ α : Type} (expected : String) (known? : Option (List String)) (draft : σ)
    (add? : Option (σ → String → Trail → Node → Read σ)) (finish : σ → Except Problem α)
    (trail : Trail) (node : Node) : Read α :=
  let finished (draft : σ) : Read α := match finish draft with
    | .ok record => pure record
    | .error problem => fail problem
  atNode trail node fun node =>
    match node, add? with
    | .mapping _ fields, some add => entries known? add trail draft fields >>= finished
    | .mapping properties _, none => throw (.tooDeep properties.position)
    | node, _ => if node.isVacant then finished draft else fail (mismatch node expected)

/-- A field that may be given once. -/
def once {α : Type} (name : String) (present : Option α) (read : Read α) : Read (Option α) :=
  if present.isSome then fail (.duplicateField name) else some <$> read

/-- Reads the one document of a text. A problem in the first document comes before a
fault behind it, and before the finding that there is a second document. -/
def run {α : Type} (read : Trail → Node → Read α) (text : String) : Except ReadError α := do
  let (document, fault?) := Document.load text.toList
  let limit := document.root.size * aliasFactor
  let (value, _) ← read .root document.root document.anchors limit
  match fault? with
  | some error => .error (.malformed error)
  | none => if document.isOnly then .ok value else .error .severalDocuments

end Read
end CommandPlan.Yaml
