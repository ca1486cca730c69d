import CommandPlan.Yaml.Scalar.Folding
import CommandPlan.Text.Utf8

/-! Scalars in quotes. Between single quotes only the quote itself needs care,
and is written twice; between double quotes a backslash starts an escape, and
one at the end of a line joins it with the next. -/
namespace CommandPlan.Yaml

inductive Quotes where
  | single
  | double
deriving DecidableEq, Repr

namespace Quotes

def char : Quotes → Char
  | single => '\''
  | double => '"'

end Quotes

/-- Escapes of one letter. -/
def shortEscape? (c : Char) : Option Char :=
  match c with
  | '0' => some (Char.ofNat 0)
  | 'a' => some (Char.ofNat 7)
  | 'b' => some (Char.ofNat 8)
  | 't' => some '\t'
  | '\t' => some '\t'
  | 'n' => some '\n'
  | 'v' => some (Char.ofNat 0xB)
  | 'f' => some (Char.ofNat 0xC)
  | 'r' => some '\r'
  | 'e' => some (Char.ofNat 0x1B)
  | ' ' => some ' '
  | '"' => some '"'
  | '/' => some '/'
  | '\\' => some '\\'
  | 'N' => some (Char.ofNat 0x85)
  | '_' => some (Char.ofNat 0xA0)
  | 'L' => some (Char.ofNat 0x2028)
  | 'P' => some (Char.ofNat 0x2029)
  | _ => none

/-- The number of hexadecimal digits after the letter of a numeric escape. -/
def escapeWidth? (c : Char) : Option Nat :=
  match c with
  | 'x' => some 2
  | 'u' => some 4
  | 'U' => some 8
  | _ => none

def hexValue? (c : Char) : Option Nat :=
  if '0' ≤ c ∧ c ≤ '9' then some (c.toNat - '0'.toNat)
  else if 'a' ≤ c ∧ c ≤ 'f' then some (c.toNat - 'a'.toNat + 10)
  else if 'A' ≤ c ∧ c ≤ 'F' then some (c.toNat - 'A'.toNat + 10)
  else none

def hexNumber? (digits : List Char) : Option Nat :=
  digits.foldlM (fun value digit => (hexValue? digit).map (value * 16 + ·)) 0

/-- The character with a code point; halves of a surrogate pair are none. -/
def scalarValue? (code : Nat) : Option Char :=
  if code.isValidChar then some (Char.ofNat code) else none

/-- The escape after a backslash, as its character and its length. -/
def escape? : List Char → Option (Char × Nat)
  | [] => none
  | c :: rest =>
    match shortEscape? c, escapeWidth? c with
    | some char, _ => some (char, 1)
    | none, some width => do
      let digits := rest.take width
      guard (digits.length = width)
      let char ← (hexNumber? digits).bind scalarValue?
      some (char, 1 + width)
    | none, none => none

/-- The characters up to the next blank, line end or closing quote, and whether
they end with an escaped line end, which is passed. -/
def Cursor.quotedWord (quotes : Quotes) :
    Nat → Cursor → Except SyntaxError (List Char × Bool × Cursor)
  | 0, cursor => .ok ([], false, cursor)
  | fuel + 1, cursor =>
    let go (c : Char) (width : Nat) : Except SyntaxError (List Char × Bool × Cursor) := do
      let (word, last) ← Cursor.quotedWord quotes fuel (cursor.advance width)
      .ok (c :: word, last)
    match cursor.rest with
    | [] => .ok ([], false, cursor)
    | c :: rest =>
      if isBlank c || isBreak c then .ok ([], false, cursor)
      else if c = quotes.char then
        if quotes = .single ∧ rest.head? = some c then go c 2 else .ok ([], false, cursor)
      else if quotes = .double ∧ c = '\\' then
        match (cursor.advance 1).lineBreak? with
        | some (_, next) => .ok ([], true, next)
        | none =>
          match escape? rest with
          | some (char, width) => go char (1 + width)
          | none => cursor.fail .escape
      else go c 1

/-- The words of a quoted scalar up to its closing quote, which is passed. -/
def Cursor.quotedWords (quotes : Quotes) : Nat → Cursor → Except SyntaxError (List Char × Cursor)
  | 0, cursor => cursor.fail .unclosedQuote
  | fuel + 1, cursor => do
    if cursor.atDocumentEdge then cursor.fail .documentMarkInQuotes
    if cursor.rest.isEmpty then cursor.fail .unclosedQuote
    let (word, escaped, next) ← cursor.quotedWord quotes (fuel + 1)
    if next.startsWith quotes.char then .ok (word, next.advance 1)
    else
      let (gap, after) ←
        if escaped then (next.readBreaks 0 (fuel + 1)).map fun (more, after) => (Gap.lines none more, after)
        else next.readGap (fuel + 1) 0
      let (words, last) ← Cursor.quotedWords quotes fuel after
      .ok (word ++ gap.text ++ words, last)

/-- A quoted scalar from its opening quote on. -/
def Cursor.readQuoted (fuel : Nat) (quotes : Quotes) (cursor : Cursor) :
    Except SyntaxError (List Char × Cursor) :=
  (cursor.advance 1).quotedWords quotes fuel

end CommandPlan.Yaml
