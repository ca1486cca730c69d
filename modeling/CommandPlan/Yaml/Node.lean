import CommandPlan.Text.Utf8
import CommandPlan.Yaml.Fault
import CommandPlan.Yaml.Token

/-! The nodes of a document: scalars, sequences and mappings as they are written,
and aliases of nodes elsewhere. What a scalar means is left to its reader. A text
that breaks off is known up to there: the last node of every collection that has
not ended tells of the fault. -/
namespace CommandPlan.Yaml

/-- A tag with its handle expanded. -/
structure Tag where
  octets : List UInt8
deriving DecidableEq, Repr

/-- The types whose tags a reader of scalars knows. -/
inductive CoreType where
  | bool
  | int
  | float
  | null
deriving DecidableEq, Repr

namespace Tag

def ofText (text : String) : Tag :=
  ⟨Utf8.encode text.toList⟩

/-- What the handle of the core types stands for. -/
def coreHandle : String := "tag:yaml.org,2002:"

/-- A mark that stands alone, which asks for no type. -/
def isNonSpecific (tag : Tag) : Bool :=
  tag = ofText "!"

def core? (tag : Tag) : Option CoreType :=
  if tag = ofText (coreHandle ++ "bool") then some .bool
  else if tag = ofText (coreHandle ++ "int") then some .int
  else if tag = ofText (coreHandle ++ "float") then some .float
  else if tag = ofText (coreHandle ++ "null") then some .null
  else none

/-- Whether the tag is private to its document. -/
def isLocal (tag : Tag) : Bool :=
  tag.octets.head? = some 0x21

/-- The name of a private tag, without its mark. -/
def localName? (tag : Tag) : Option (List Char) :=
  if tag.isLocal then Utf8.decode? (tag.octets.drop 1) else none

end Tag

/-- The place of a node, and what is written in front of its content. Anchors
are known by the number of the slot that their name has at this place. -/
structure Properties where
  position : Position
  anchor : Option Nat := none
  tag : Option Tag := none
deriving DecidableEq, Repr

inductive Node where
  | scalar (properties : Properties) (text : String) (style : ScalarStyle)
  | sequence (properties : Properties) (items : List Node)
  | mapping (properties : Properties) (entries : List (Node × Node))
  | reference (position : Position) (slot : Nat)
  /-- Where the text breaks off. -/
  | cut (error : SyntaxError)
deriving Repr, Inhabited

namespace Node

/-- A value that is left out. -/
def empty (position : Position) : Node :=
  .scalar { position } "" .plain

def position : Node → Position
  | scalar properties .. | sequence properties _ | mapping properties _ => properties.position
  | reference position _ => position
  | cut error => error.position

/-- Whether the node is a plain scalar without text, which may stand for an
empty collection. -/
def isVacant : Node → Bool
  | scalar _ text .plain => text.isEmpty
  | _ => false

mutual

/-- The size of a document's text in items: one for a scalar or an alias, and
one for either end of a collection. What breaks off has no end. -/
def size : Node → Nat
  | scalar .. | reference .. => 1
  | sequence _ items => 1 + sizeItems items
  | mapping _ entries => 1 + sizeEntries entries
  | cut _ => 0

def sizeItems : List Node → Nat
  | [] => 1
  | cut _ :: _ => 0
  | item :: items => size item + sizeItems items

def sizeEntries : List (Node × Node) → Nat
  | [] => 1
  | (cut _, _) :: _ => 0
  | (key, value) :: entries => size key + size value + sizeEntries entries

end

mutual

/-- A node and all that is in it, in the order of the text. -/
def parts : Node → List Node
  | node@(sequence _ items) => node :: partsOfItems items
  | node@(mapping _ entries) => node :: partsOfEntries entries
  | node => [node]

def partsOfItems : List Node → List Node
  | [] => []
  | item :: items => parts item ++ partsOfItems items

def partsOfEntries : List (Node × Node) → List Node
  | [] => []
  | (key, value) :: entries => parts key ++ parts value ++ partsOfEntries entries

end

def anchor? : Node → Option Nat
  | scalar properties .. | sequence properties _ | mapping properties _ => properties.anchor
  | reference .. | cut _ => none

/-- The nodes with an anchor in the order of the text, each with its slot. -/
def anchored (node : Node) : List (Nat × Node) :=
  node.parts.filterMap fun part => part.anchor?.map (·, part)

def error? : Node → Option SyntaxError
  | cut error => some error
  | _ => none

/-- The fault that a node breaks off at, if it does. -/
def fault? (node : Node) : Option SyntaxError :=
  node.parts.findSome? error?

end Node
end CommandPlan.Yaml
