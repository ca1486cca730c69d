import CommandPlan.Yaml.Scalar.Resolution

/-! Outlines and their text as a document. Lines may have any length. A text of
several lines becomes a literal block, one that would read as anything but itself
is quoted, and every other one is plain. -/
namespace CommandPlan.Yaml

/-- What is written: texts and truth values in lists and records. -/
inductive Outline where
  | text (value : String)
  | bool (value : Bool)
  | list (items : List Outline)
  | record (fields : List (String × Outline))
deriving Repr, Inhabited

/-- Characters that need no escape. Tabs and carriage returns are not among
them. -/
def isPrintable (c : Char) : Bool :=
  c = '\n' || (0x20 ≤ c.toNat && c.toNat ≤ 0x7E) ||
    (0xA0 ≤ c.toNat && c.toNat ≤ 0xFFFD && c.toNat ≠ 0xFEFF) || 0x10000 ≤ c.toNat

/-- How a text is written. -/
inductive WrittenStyle where
  | plain
  | singleQuoted
  | doubleQuoted
  | literal
deriving DecidableEq, Repr

namespace WrittenStyle

/-- Whether a mark at the head of a text would be read as one. -/
def headIsMark : List Char → Bool
  | [] => false
  | c :: rest =>
    startsWithAny "#,[]\x7b\x7d&*!|>'\"%@\x60" [c] || (startsWithAny "?:-" [c] && atWordEnd rest)

/-- Whether a mark inside a text would be read as one: a colon at the end of a
word, or a number sign at its start. The flag tells whether a word starts here. -/
def hasInnerMark : Bool → List Char → Bool
  | _, [] => false
  | atWordStart, c :: rest =>
    (c = ':' && atWordEnd rest) || (c = '#' && atWordStart) || hasInnerMark (isBlank c || isBreak c) rest

def hasMark (text : List Char) : Bool :=
  text.take 3 = ['-', '-', '-'] || text.take 3 = ['.', '.', '.'] || headIsMark text ||
    hasInnerMark false (text.drop 1)

/-- Whether the text has one character of the first class right before one of
the second. -/
def hasPair (first second : Char → Bool) : List Char → Bool
  | [] => false
  | [_] => false
  | a :: b :: rest => (first a && second b) || hasPair first second (b :: rest)

def isSpace (c : Char) : Bool := c = ' '

def endsWithSpace (text : List Char) : Bool := text.getLast?.any isSpace

/-- Texts that only escapes can express. -/
def needsEscapes (text : List Char) : Bool :=
  text.any (!isPrintable ·) || hasPair isSpace isBreak text

def allowsPlain (text : List Char) : Bool :=
  !(hasMark text || text.any isBreak || text.head?.any isSpace || endsWithSpace text || needsEscapes text)

def allowsSingleQuoted (text : List Char) : Bool :=
  !(needsEscapes text || hasPair isBreak isSpace text)

def allowsLiteral (text : List Char) : Bool :=
  !(needsEscapes text || endsWithSpace text)

/-- Whether a plain text would be read as the same text. -/
def readsAsText (text : String) : Bool :=
  resolve text = .text text && !isPaddedDigits text.toList

def ofText (text : String) : WrittenStyle :=
  let chars := text.toList
  if chars.contains '\n' then if allowsLiteral chars then literal else doubleQuoted
  else if readsAsText text && allowsPlain chars then plain
  else if allowsSingleQuoted chars then singleQuoted
  else doubleQuoted

end WrittenStyle

namespace Outline

def spaces (count : Nat) : List Char :=
  List.replicate count ' '

/-- A literal block's lines; an empty one is not indented. -/
def literalLines (indent : Nat) : Bool → List Char → List Char
  | _, [] => []
  | atLineStart, c :: rest =>
    if isBreak c then c :: literalLines indent true rest
    else if atLineStart then spaces indent ++ c :: literalLines indent false rest
    else c :: literalLines indent false rest

/-- What the header says: that the first line is indented further than it
seems, and how the text ends. -/
def literalHints (text : List Char) : List Char :=
  let increment := if text.head?.any fun c => c = ' ' || isBreak c then ['2'] else []
  let chomping := match text.reverse with
    | [] => ['-']
    | last :: before =>
      if !isBreak last then ['-']
      else if before.head?.all isBreak then ['+']
      else []
  increment ++ chomping

/-- The inside of single quotes. A line end is followed by the indentation of the
next line, even of the closing quote. -/
def singleQuotedText (indent : Nat) : Bool → List Char → List Char
  | atLineStart, [] => if atLineStart then spaces indent else []
  | atLineStart, c :: rest =>
    if isBreak c then c :: singleQuotedText indent true rest
    else
      (if atLineStart then spaces indent else []) ++ (if c = '\'' then ['\'', '\''] else [c]) ++
        singleQuotedText indent false rest

def upperHex (width value : Nat) : List Char :=
  let digits := (Nat.toDigits 16 value).map Char.toUpper
  List.replicate (width - digits.length) '0' ++ digits

/-- The letter of a short escape. -/
def escapeLetter? (c : Char) : Option Char :=
  match c.toNat with
  | 0x00 => some '0'
  | 0x07 => some 'a'
  | 0x08 => some 'b'
  | 0x09 => some 't'
  | 0x0A => some 'n'
  | 0x0B => some 'v'
  | 0x0C => some 'f'
  | 0x0D => some 'r'
  | 0x1B => some 'e'
  | 0x22 => some '"'
  | 0x5C => some '\\'
  | 0x85 => some 'N'
  | 0x2028 => some 'L'
  | 0x2029 => some 'P'
  | _ => none

def doubleQuotedChar (c : Char) : List Char :=
  if isPrintable c && !isBreak c && c ≠ '"' && c ≠ '\\' then [c]
  else
    match escapeLetter? c with
    | some letter => ['\\', letter]
    | none =>
      if c.toNat ≤ 0xFF then ['\\', 'x'] ++ upperHex 2 c.toNat
      else if c.toNat ≤ 0xFFFF then ['\\', 'u'] ++ upperHex 4 c.toNat
      else ['\\', 'U'] ++ upperHex 8 c.toNat

/-- A text behind its key or dash, to the end of its last line. -/
def textLines (indent : Nat) (text : String) : List Char :=
  let chars := text.toList
  match WrittenStyle.ofText text with
  | .plain => ' ' :: chars ++ ['\n']
  | .singleQuoted => [' ', '\''] ++ singleQuotedText indent false chars ++ ['\'', '\n']
  | .doubleQuoted => [' ', '"'] ++ chars.flatMap doubleQuotedChar ++ ['"', '\n']
  | .literal =>
    [' ', '|'] ++ literalHints chars ++ ['\n'] ++ literalLines indent true chars ++
      (if chars.getLast?.any isBreak then [] else ['\n'])

mutual

/-- An outline behind a key at the given column, or behind a dash; there the
first field of a record stays on the line of the dash. -/
def lines (indent : Nat) (behindDash : Bool) : Outline → List Char
  | text value => textLines (indent + 2) value
  | bool value => (' ' :: (if value then "true" else "false").toList) ++ ['\n']
  | list [] => [' ', '[', ']', '\n']
  | list items =>
    if behindDash then ' ' :: (itemLines (indent + 2) items).drop (indent + 2)
    else '\n' :: itemLines indent items
  | record [] => [' ', '\x7b', '\x7d', '\n']
  | record fields =>
    if behindDash then ' ' :: (fieldLines (indent + 2) fields).drop (indent + 2)
    else '\n' :: fieldLines (indent + 2) fields

def itemLines (indent : Nat) : List Outline → List Char
  | [] => []
  | item :: items => spaces indent ++ '-' :: lines indent true item ++ itemLines indent items

def fieldLines (indent : Nat) : List (String × Outline) → List Char
  | [] => []
  | (key, value) :: fields =>
    spaces indent ++ key.toList ++ ':' :: lines indent false value ++ fieldLines indent fields

end

/-- The document of a record. -/
def document (fields : List (String × Outline)) : String :=
  String.ofList (fieldLines 0 fields)

end Outline
end CommandPlan.Yaml
