import CommandPlan.Number.Decimal
import CommandPlan.Text.Quoted

/-! Values of any shape, as a document gives them for a default. -/
namespace CommandPlan.Yaml

inductive Number where
  | integer (value : Int)
  | float (value : Binary64)
deriving DecidableEq, Repr, Inhabited

namespace Number

def text : Number → String
  | integer value => toString value
  | float value => value.documentText

/-- Whether two numbers are one key. An integer differs from every floating
point number. -/
def sameKey : Number → Number → Bool
  | integer a, integer b => a == b
  | float a, float b => a.sameKey b
  | _, _ => false

end Number

/-- The entries of a mapping are in the order of the document, and no key occurs
twice. The tag of a value is given without its mark. -/
inductive Value where
  | null
  | bool (value : Bool)
  | number (value : Number)
  | string (text : String)
  | sequence (items : List Value)
  | mapping (entries : List (Value × Value))
  | tagged (tag : String) (value : Value)
deriving Repr, Inhabited

def boolText (value : Bool) : String :=
  if value then "true" else "false"

namespace Value

/-- The value below all its tags. -/
def untagged : Value → Value
  | tagged _ value => value.untagged
  | value => value

/-- The text of a string, number or truth value, whatever its tags; collections
and null have none. -/
def scalarText? (value : Value) : Option String :=
  match value.untagged with
  | bool value => some (boolText value)
  | number value => some value.text
  | string text => some text
  | _ => none

def isCollection : Value → Bool
  | sequence _ | mapping _ => true
  | _ => false

/-- The tag as a message shows it. -/
def tagText (tag : String) : String :=
  "!" ++ tag

mutual

/-- The full description of a value in a message. Keys that are strings, numbers
or truth values do without the name of their kind. -/
def describe : Value → String
  | null => "Null"
  | bool value => "Bool(" ++ boolText value ++ ")"
  | number value => "Number(" ++ value.text ++ ")"
  | string text => "String(" ++ Text.quote text ++ ")"
  | sequence items => "Sequence [" ++ ", ".intercalate (describeItems items) ++ "]"
  | mapping entries => "Mapping \x7b" ++ ", ".intercalate (describeEntries entries) ++ "\x7d"
  | tagged tag value =>
    "TaggedValue \x7b tag: " ++ tagText tag ++ ", value: " ++ describe value ++ " \x7d"

def describeItems : List Value → List String
  | [] => []
  | item :: items => describe item :: describeItems items

def describeEntries : List (Value × Value) → List String
  | [] => []
  | (key, value) :: entries =>
    (describeKey key ++ ": " ++ describe value) :: describeEntries entries

def describeKey : Value → String
  | bool value => boolText value
  | number value => value.text
  | string text => Text.quote text
  | key => describe key

end

mutual

/-- Whether two values are one key. Sequences are compared item by item and
mappings as sets of entries. -/
def sameKey : Value → Value → Bool
  | null, null => true
  | bool a, bool b => a == b
  | number a, number b => a.sameKey b
  | string a, string b => a == b
  | sequence a, sequence b => sameItems a b
  | mapping a, mapping b => a.length == b.length && sameEntries a b
  | tagged s a, tagged t b => s == t && sameKey a b
  | _, _ => false

def sameItems : List Value → List Value → Bool
  | [], [] => true
  | a :: as, b :: bs => sameKey a b && sameItems as bs
  | _, _ => false

/-- Whether every entry has an equal one on the other side. -/
def sameEntries : List (Value × Value) → List (Value × Value) → Bool
  | [], _ => true
  | (key, value) :: entries, others =>
    others.any (fun (otherKey, other) => sameKey key otherKey && sameKey value other) &&
      sameEntries entries others

end

end Value
end CommandPlan.Yaml
