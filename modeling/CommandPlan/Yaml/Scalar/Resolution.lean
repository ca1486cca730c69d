import CommandPlan.Number.Decimal
import CommandPlan.Yaml.Scalar.Quoted

/-! What a plain scalar means by its text: nothing, a truth value, a number, or
just the text. -/
namespace CommandPlan.Yaml

/-- The meaning of a scalar. An integer is `wide` when it needs more than the
sixty-four bits that values have room for, up to twice as many. -/
inductive Atom where
  | null
  | bool (value : Bool)
  | integer (value : Int)
  | wide (value : Int)
  | float (value : Binary64)
  | text (value : String)
deriving DecidableEq, Repr

def isNullText (text : List Char) : Bool :=
  text = "null".toList || text = "Null".toList || text = "NULL".toList || text = "~".toList

def boolOf? (text : List Char) : Option Bool :=
  if text = "true".toList ∨ text = "True".toList ∨ text = "TRUE".toList then some true
  else if text = "false".toList ∨ text = "False".toList ∨ text = "FALSE".toList then some false
  else none

/-- The number that digits below the given base spell; there is at least one. -/
def natOf? (base : Nat) (digits : List Char) : Option Nat :=
  if digits.isEmpty then none
  else
    digits.foldlM (fun value digit => do
      let digit ← hexValue? digit
      guard (digit < base)
      some (value * base + digit)) 0

def dropSign : List Char → List Char
  | '+' :: rest | '-' :: rest => rest
  | text => text

/-- Digits with a leading zero, which are no number. -/
def isPaddedDigits (text : List Char) : Bool :=
  match dropSign text with
  | '0' :: digit :: rest => (digit :: rest).all Char.isDigit
  | _ => false

/-- An integer without a sign, in one of four bases. -/
def unsignedOf? (text : List Char) : Option Nat :=
  match text with
  | '0' :: 'x' :: digits => natOf? 16 digits
  | '0' :: 'o' :: digits => natOf? 8 digits
  | '0' :: 'b' :: digits => natOf? 2 digits
  | _ => if isPaddedDigits text then none else natOf? 10 text

def integerOf? (text : List Char) : Option Int :=
  match text with
  | '+' :: rest => (unsignedOf? rest).map Int.ofNat
  | '-' :: rest => (unsignedOf? rest).map fun value => -Int.ofNat value
  | _ => (unsignedOf? text).map Int.ofNat

/-- The integers that a value has room for: with a sign or without one. -/
def fitsValue (value : Int) : Bool :=
  -0x8000000000000000 ≤ value && value < 0x10000000000000000

def fitsWide (value : Int) : Bool :=
  -0x80000000000000000000000000000000 ≤ value && value < 0x100000000000000000000000000000000

/-- Digits around a decimal point, as a number and a power of ten; one side may
be empty, but not both. -/
def fractionOf? (text : List Char) : Option (Nat × Int) :=
  let whole := text.takeWhile Char.isDigit
  let fraction := match text.drop whole.length with
    | [] => some []
    | '.' :: digits => if digits.all Char.isDigit then some digits else none
    | _ => none
  fraction.bind fun fraction =>
    (natOf? 10 (whole ++ fraction)).map (·, -(fraction.length : Int))

/-- The power of ten after an `e`, with an optional sign. -/
def exponentOf? (text : List Char) : Option Int :=
  match text with
  | '+' :: digits => (natOf? 10 digits).map Int.ofNat
  | '-' :: digits => (natOf? 10 digits).map fun value => -Int.ofNat value
  | _ => (natOf? 10 text).map Int.ofNat

/-- A decimal number with an optional exponent. -/
def decimalOf? (negative : Bool) (text : List Char) : Option Binary64 :=
  let mantissa := text.takeWhile fun c => c ≠ 'e' && c ≠ 'E'
  let exponent := match text.drop mantissa.length with
    | [] => some 0
    | _ :: rest => exponentOf? rest
  match fractionOf? mantissa, exponent with
  | some (digits, power), some exponent => some (.ofDecimal negative digits (power + exponent))
  | _, _ => none

/-- A floating point number. Those beyond the greatest finite one are none, and
infinity is written as such. -/
def floatOf? (text : List Char) : Option Binary64 :=
  let infinity (text : List Char) : Bool :=
    text = ".inf".toList || text = ".Inf".toList || text = ".INF".toList
  let finite (negative : Bool) (text : List Char) : Option Binary64 :=
    (decimalOf? negative text).filter Binary64.isFinite
  match text with
  | '+' :: rest => if infinity rest then some (.infinite false) else finite false rest
  | '-' :: rest => if infinity rest then some (.infinite true) else finite true rest
  | _ =>
    if infinity text then some (.infinite false)
    else if text = ".nan".toList ∨ text = ".NaN".toList ∨ text = ".NAN".toList then some .nan
    else finite false text

def integerAtom? (text : List Char) : Option Atom :=
  match integerOf? text with
  | some value =>
    if fitsValue value then some (.integer value)
    else if fitsWide value then some (.wide value) else none
  | none => none

/-- The meaning of a plain scalar. Integers too wide for any room are read as
floating point numbers. -/
def resolve (text : String) : Atom :=
  let chars := text.toList
  if chars.isEmpty || isNullText chars then .null
  else
    match boolOf? chars, integerAtom? chars with
    | some value, _ => .bool value
    | none, some atom => atom
    | none, none =>
      if isPaddedDigits chars then .text text
      else
        match floatOf? chars with
        | some value => .float value
        | none => .text text

end CommandPlan.Yaml
