import CommandPlan.Yaml.Fault
import CommandPlan.Yaml.Token
import CommandPlan.Yaml.Scalar.Quoted

/-! Tokens that name something: anchors, aliases, tags and directives. Tags are
kept as octets, since their escapes need not spell any character. -/
namespace CommandPlan.Yaml.Cursor

/-- An anchor or an alias after its mark. -/
def readAnchorName (cursor : Cursor) : Except SyntaxError (List Char × Cursor) :=
  let (name, next) := (cursor.advance 1).takeWhile isNameChar
  if name.isEmpty then cursor.fail .anchorName
  else if atWordEnd next.rest || startsWithAny "?:,]\x7d%@\x60" next.rest then .ok (name, next)
  else cursor.fail .anchorName

/-- Characters of a tag. Brackets and commas belong to it only between angle
brackets and in directives. -/
def isUriChar (verbatim : Bool) (c : Char) : Bool :=
  isNameChar c || startsWithAny ";/?:@&=+$.!~*'()" [c] || (verbatim && startsWithAny ",[]" [c])

/-- One octet written as a percent sign and two digits. -/
def escapedOctet? : List Char → Option Nat
  | '%' :: high :: low :: _ => hexNumber? [high, low]
  | _ => none

/-- The number of octets that the first one of an escaped character announces. -/
def announcedOctets (octet : Nat) : Nat :=
  if octet < 0x80 then 1
  else if 0xC0 ≤ octet ∧ octet < 0xE0 then 2
  else if 0xE0 ≤ octet ∧ octet < 0xF0 then 3
  else if 0xF0 ≤ octet ∧ octet < 0xF8 then 4
  else 0

/-- The octets of a tag. `pending` of them are still to follow in escapes. -/
def readUri (verbatim : Bool) : Nat → Nat → Cursor → Except SyntaxError (List UInt8 × Cursor)
  | 0, _, cursor => .ok ([], cursor)
  | fuel + 1, pending, cursor =>
    match escapedOctet? cursor.rest with
    | some octet => do
      let pending ←
        if pending = 0 then
          match announcedOctets octet with
          | 0 => cursor.fail .tag
          | width + 1 => .ok width
        else if 0x80 ≤ octet ∧ octet < 0xC0 then .ok (pending - 1)
        else cursor.fail .tag
      let (octets, last) ← readUri verbatim fuel pending (cursor.advance 3)
      .ok (UInt8.ofNat octet :: octets, last)
    | none =>
      match cursor.rest with
      | c :: _ =>
        if pending ≠ 0 ∨ c = '%' then cursor.fail .tag
        else if isUriChar verbatim c then do
          let (octets, last) ← readUri verbatim fuel 0 (cursor.advance 1)
          .ok (UInt8.ofNat c.toNat :: octets, last)
        else .ok ([], cursor)
      | [] => if pending ≠ 0 then cursor.fail .tag else .ok ([], cursor)

/-- Octets of a tag up to a zero, which ends it, and whether there were any. -/
def readTagText (verbatim : Bool) (cursor : Cursor) :
    Except SyntaxError (List UInt8 × Bool × Cursor) := do
  let (octets, next) ← cursor.readUri verbatim (cursor.rest.length + 1) 0
  .ok (octets.takeWhile (· ≠ 0), !octets.isEmpty, next)

/-- A tag from its mark on, as handle and suffix. `!<…>` has no handle; a mark
that no second mark follows is a handle of its own, and alone stands for
itself. -/
def readTag (inFlow : Bool) (cursor : Cursor) :
    Except SyntaxError (List Char × List UInt8 × Cursor) := do
  let (handle, suffix, next) ←
    if cursor.rest.take 2 = ['!', '<'] then do
      let (suffix, found, next) ← (cursor.advance 2).readTagText true
      if found && next.startsWith '>' then .ok ([], suffix, next.advance 1) else next.fail .tag
    else do
      let (name, next) := (cursor.advance 1).takeWhile isNameChar
      if next.startsWith '!' then
        let (suffix, found, last) ← (next.advance 1).readTagText false
        if found then .ok (['!'] ++ name ++ ['!'], suffix, last) else last.fail .tag
      else
        let (suffix, _, last) ← (cursor.advance 1).readTagText false
        if suffix.isEmpty then .ok ([], [UInt8.ofNat '!'.toNat], last) else .ok (['!'], suffix, last)
  if (inFlow && next.startsWith ',') || atWordEnd next.rest then .ok (handle, suffix, next)
  else next.fail .tag

/-- A decimal number of at most nine digits. -/
def readVersionNumber (cursor : Cursor) : Except SyntaxError (Nat × Cursor) :=
  let (digits, next) := cursor.takeWhile Char.isDigit
  if digits.isEmpty ∨ 9 < digits.length then cursor.fail .directive
  else .ok (digits.foldl (fun value digit => value * 10 + (digit.toNat - '0'.toNat)) 0, next)

def readVersion (cursor : Cursor) : Except SyntaxError (TokenKind × Cursor) := do
  let (major, next) ← (cursor.skipWhile isBlank).readVersionNumber
  if !next.startsWith '.' then next.fail .directive
  let (minor, last) ← (next.advance 1).readVersionNumber
  .ok (.version major minor, last)

def readTagDirective (cursor : Cursor) : Except SyntaxError (TokenKind × Cursor) := do
  let start := cursor.skipWhile isBlank
  if !start.startsWith '!' then start.fail .directive
  let (name, next) := (start.advance 1).takeWhile isNameChar
  let (handle, next) ←
    if next.startsWith '!' then .ok (['!'] ++ name ++ ['!'], next.advance 1)
    else if name.isEmpty then .ok (['!'], next)
    else next.fail .directive
  if !startsWithAny " \t" next.rest then next.fail .directive
  let (expansion, found, last) ← (next.skipWhile isBlank).readTagText true
  if found && atWordEnd last.rest then .ok (.tagDirective handle expansion, last)
  else last.fail .directive

/-- A directive from its mark to the end of its line. -/
def readDirective (cursor : Cursor) : Except SyntaxError (TokenKind × Cursor) := do
  let (name, next) := (cursor.advance 1).takeWhile isNameChar
  if !atWordEnd next.rest then next.fail .directive
  let (kind, last) ←
    if name = "YAML".toList then next.readVersion
    else if name = "TAG".toList then next.readTagDirective
    else cursor.fail .directive
  let last := (last.skipWhile isBlank).skipComment
  match last.lineBreak? with
  | some (_, next) => .ok (kind, next)
  | none => if last.rest.isEmpty then .ok (kind, last) else last.fail .directive

end CommandPlan.Yaml.Cursor
