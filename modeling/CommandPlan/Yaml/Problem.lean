import CommandPlan.Yaml.Cursor
import CommandPlan.Yaml.Document
import CommandPlan.Yaml.Scalar.Resolution
import CommandPlan.Yaml.Value

/-! Why a well-formed document is not what its reader expects, and where. -/
namespace CommandPlan.Yaml

/-- The way from the root of a document to a value. A key that is no scalar of
its own leaves an unknown step. -/
inductive Trail where
  | root
  | item (parent : Trail) (index : Nat)
  | field (parent : Trail) (key : String)
  | unknown (parent : Trail)
deriving DecidableEq, Repr

namespace Trail

mutual

def text : Trail → String
  | root => "."
  | item parent index => text parent ++ "[" ++ toString index ++ "]"
  | field parent key => stem parent ++ key
  | unknown parent => stem parent ++ "?"

/-- A trail in front of a key. -/
def stem : Trail → String
  | root => ""
  | item parent index => text parent ++ "[" ++ toString index ++ "]" ++ "."
  | field parent key => stem parent ++ key ++ "."
  | unknown parent => stem parent ++ "?" ++ "."

end

/-- The trail of the value behind a key. -/
def child (trail : Trail) : Node → Trail
  | .scalar _ text _ => trail.field text
  | _ => trail.unknown

end Trail

/-- What stands where something else was expected. -/
inductive Found where
  | bool (value : Bool)
  | integer (value : Int)
  | wide (value : Int)
  | float (value : Binary64)
  | string (text : String)
  | unit
  | sequence
  | mapping
deriving DecidableEq, Repr

namespace Found

def ofAtom : Atom → Found
  | .null => unit
  | .bool value => bool value
  | .integer value => integer value
  | .wide value => wide value
  | .float value => float value
  | .text text => string text

/-- A wide integer is named with the room it takes. -/
def text : Found → String
  | bool value => "boolean \x60" ++ boolText value ++ "\x60"
  | integer value => "integer \x60" ++ toString value ++ "\x60"
  | wide value => "integer \x60" ++ toString value ++ "\x60 as " ++ (if value < 0 then "i128" else "u128")
  | float value => "floating point \x60" ++ value.messageText ++ "\x60"
  | string text => "string " ++ Text.quote text
  | unit => "unit value"
  | sequence => "sequence"
  | mapping => "map"

end Found

inductive Problem where
  | unexpected (found : Found) (expected : String)
  | malformedScalar (text : String) (expected : String)
  | missingField (name : String)
  | duplicateField (name : String)
  | unknownField (name : String) (known : List String)
  | duplicateKey (key : Value)
  | emptyTag
deriving Repr

namespace Problem

def backticked (name : String) : String :=
  "\x60" ++ name ++ "\x60"

def keyText : Value → String
  | .null => "with null key"
  | .bool value => "with key " ++ backticked (boolText value)
  | .number value => "with key " ++ value.text
  | .string text => "with key " ++ Text.quote text
  | _ => "in YAML map"

def message : Problem → String
  | unexpected found expected => "invalid type: " ++ found.text ++ ", expected " ++ expected
  | malformedScalar text expected => "invalid value: string " ++ Text.quote text ++ ", expected " ++ expected
  | missingField name => "missing field " ++ backticked name
  | duplicateField name => "duplicate field " ++ backticked name
  | unknownField name known =>
    "unknown field " ++ backticked name ++ ", expected one of " ++ ", ".intercalate (known.map backticked)
  | duplicateKey key => "duplicate entry " ++ keyText key
  | emptyTag => "empty YAML tag is not allowed"

end Problem

structure Place where
  trail : Trail
  position : Position
deriving DecidableEq, Repr

/-- Why reading a text fails. -/
inductive ReadError where
  | malformed (error : SyntaxError)
  | severalDocuments
  | tooDeep (position : Position)
  | tooManyRepetitions
  | schema (problem : Problem) (place : Option Place)
deriving Repr

namespace ReadError

/-- A problem whose place is not known yet is at the given one. -/
def locate (place : Place) : ReadError → ReadError
  | schema problem none => schema problem (some place)
  | error => error

def message : ReadError → String
  | malformed error => error.message
  | severalDocuments => "deserializing from YAML containing more than one document is not supported"
  | tooDeep position => "recursion limit exceeded at " ++ position.text
  | tooManyRepetitions => "repetition limit exceeded"
  | schema problem none => problem.message
  | schema problem (some place) =>
    let trail := place.trail.text
    (if trail = "." then "" else trail ++ ": ") ++ problem.message ++ place.position.suffix

end ReadError
end CommandPlan.Yaml
