import CommandPlan.Yaml.Reader

/-! Reading values of any shape. -/
namespace CommandPlan.Yaml

/-- The value of a scalar without a private tag. A wide integer is no value. -/
def Value.ofAtom : Atom → Except Problem Value
  | .null => .ok .null
  | .bool value => .ok (.bool value)
  | .integer value => .ok (.number (.integer value))
  | .wide value => .error (.unexpected (.wide value) "any YAML value")
  | .float value => .ok (.number (.float value))
  | .text text => .ok (.string text)

namespace Read

def ofExcept {α : Type} : Except Problem α → Read α
  | .ok value => pure value
  | .error problem => fail problem

/-- Puts the private tag of a node, if it has one, around the value below it. A
mark in front of the name is not repeated. -/
def underTag (properties : Properties) (read : Option Tag → Read Value) : Read Value :=
  match properties.tag.bind Tag.localName? with
  | none => read properties.tag
  | some [] => fail .emptyTag
  | some name => do
    let name := match name with
      | '!' :: c :: rest => c :: rest
      | name => name
    .tagged (String.ofList name) <$> read none

/-- The entries of a mapping; `seen` holds the keys in front of them. -/
def valueEntries (read : Trail → Node → Read Value) (trail : Trail) :
    List Value → List (Node × Node) → Read (List (Value × Value))
  | _, [] => pure []
  | seen, (keyNode, valueNode) :: rest => do
    let key ← read trail keyNode
    match seen.find? (·.sameKey key) with
    | some present => fail (.duplicateKey present)
    | none => pure ()
    let value ← read (trail.child keyNode) valueNode
    ((key, value) :: ·) <$> valueEntries read trail (key :: seen) rest

/-- A value; collections may nest as deep as the number says. -/
def value : Nat → Trail → Node → Read Value
  | depth, trail, node => atNode trail node fun
    | .scalar properties text style =>
      underTag properties fun tag => ofExcept (meaning tag text style >>= Value.ofAtom)
    | .sequence properties nodes => underTag properties fun _ =>
      match depth with
      | 0 => throw (.tooDeep properties.position)
      | depth + 1 => .sequence <$> items (value depth) trail 0 nodes
    | .mapping properties nodes => underTag properties fun _ =>
      match depth with
      | 0 => throw (.tooDeep properties.position)
      | depth + 1 => .mapping <$> valueEntries (value depth) trail [] nodes
    | .reference position _ => throw (.malformed ⟨.unknownAnchor, position⟩)
    | .cut error => throw (.malformed error)

end Read

def readValue (text : String) : Except ReadError Value :=
  Read.run (Read.value Read.depthLimit) text

end CommandPlan.Yaml
