import CommandPlan.Yaml.Token.Name
import CommandPlan.Yaml.Scalar.Plain
import CommandPlan.Yaml.Scalar.Block

/-! The text of a document cut into tokens. A key is known as such only when its
colon comes, so the place of every token that may start one is kept until its
line ends or a colon follows; `key` and the start of a mapping are then put in
front of it. -/
namespace CommandPlan.Yaml

/-- A token that a colon may still turn into a key. -/
structure PendingKey where
  /-- The number of tokens in front of it. -/
  number : Nat
  position : Position
  /-- Whether it stands where a block collection expects its next entry, so that
  no other reading is left. -/
  required : Bool
deriving DecidableEq, Repr

namespace PendingKey

/-- A key and its colon share a line and are at most 1024 characters apart. -/
def isStale (key : PendingKey) (position : Position) : Bool :=
  key.position.line < position.line || key.position.index + 1024 < position.index

end PendingKey

structure Lexer where
  cursor : Cursor
  /-- More than the characters of the text. No reader of a token takes more
  turns, since each of them passes some character. -/
  fuel : Nat
  /-- The columns of the open block collections, innermost first. -/
  blocks : List Nat
  pendingKey : Option PendingKey
  /-- The pending keys around the open flow collections, innermost first. -/
  outerKeys : List (Option PendingKey)
  keyAllowed : Bool
  /-- The tokens so far, newest first, and their number. -/
  tokens : List Token
  count : Nat
deriving Repr

/-- The tokens of a text up to its end or to a fault. Of the tokens before a
fault only those count that no colon could have moved any more. -/
structure Lexed where
  tokens : List Token
  error : Option SyntaxError
deriving Repr

namespace Lexer

def ofText (text : List Char) : Lexer :=
  { cursor := .ofText text, fuel := text.length + 1, blocks := [], pendingKey := none
    outerKeys := [], keyAllowed := true
    tokens := [], count := 0 }

def inFlow (lexer : Lexer) : Bool :=
  !lexer.outerKeys.isEmpty

/-- The first column that is inside the innermost block collection. -/
def indent (lexer : Lexer) : Nat :=
  match lexer.blocks with
  | [] => 0
  | column :: _ => column + 1

def push (kind : TokenKind) (position : Position) (lexer : Lexer) : Lexer :=
  { lexer with tokens := ⟨kind, position⟩ :: lexer.tokens, count := lexer.count + 1 }

/-- Puts a token in front of the one with the given number. -/
def insert (number : Nat) (kind : TokenKind) (position : Position) (lexer : Lexer) : Lexer :=
  { lexer with
    tokens := lexer.tokens.insertIdx (lexer.count - number) ⟨kind, position⟩
    count := lexer.count + 1 }

/-- Ends the block collections to the right of a column. -/
def closeBlocks (column : Nat) (lexer : Lexer) : Lexer :=
  if lexer.inFlow then lexer
  else
    let closed := (lexer.blocks.takeWhile (column < ·)).length
    (List.range closed).foldl (fun lexer _ => lexer.push .blockEnd lexer.cursor.position)
      { lexer with blocks := lexer.blocks.drop closed }

def closeAllBlocks (lexer : Lexer) : Lexer :=
  if lexer.inFlow then lexer
  else
    lexer.blocks.foldl (fun lexer _ => lexer.push .blockEnd lexer.cursor.position)
      { lexer with blocks := [] }

/-- Starts a block collection in front of the token with the given number,
unless one is open at that column already. -/
def openBlock (number : Nat) (kind : TokenKind) (position : Position) (lexer : Lexer) : Lexer :=
  if lexer.inFlow || decide (position.column < lexer.indent) then lexer
  else { lexer.insert number kind position with blocks := position.column :: lexer.blocks }

/-- Gives up the pending key; one that is required is a fault. -/
def dropKey (lexer : Lexer) : Except SyntaxError Lexer :=
  match lexer.pendingKey with
  | some key =>
    if key.required then lexer.cursor.fail .keyWithoutColon else .ok { lexer with pendingKey := none }
  | none => .ok lexer

/-- Takes the next token for a possible key. -/
def saveKey (lexer : Lexer) : Except SyntaxError Lexer :=
  if lexer.keyAllowed then do
    let required := !lexer.inFlow && lexer.blocks.head? = some lexer.cursor.column
    let lexer ← lexer.dropKey
    .ok { lexer with pendingKey := some ⟨lexer.count, lexer.cursor.position, required⟩ }
  else .ok lexer

def dropIfStale (cursor : Cursor) : Option PendingKey → Except SyntaxError (Option PendingKey)
  | none => .ok none
  | some key =>
    if key.isStale cursor.position then
      if key.required then cursor.fail .keyWithoutColon else .ok none
    else .ok (some key)

def dropStaleKeys (lexer : Lexer) : Except SyntaxError Lexer := do
  let pendingKey ← dropIfStale lexer.cursor lexer.pendingKey
  let outerKeys ← lexer.outerKeys.mapM (dropIfStale lexer.cursor)
  .ok { lexer with pendingKey, outerKeys }

/-- Passes blanks, comments and line ends, and tells whether a key may follow.
Tabs count as blanks only where they cannot be taken for indentation, and a byte
order mark may start any line. -/
def skipToToken (inFlow : Bool) : Nat → Bool → Cursor → Bool × Cursor
  | 0, keyAllowed, cursor => (keyAllowed, cursor)
  | fuel + 1, keyAllowed, cursor =>
    let cursor :=
      if cursor.column = 0 ∧ cursor.rest.head? = some (Char.ofNat 0xFEFF) then cursor.advance 1 else cursor
    let cursor := cursor.skipWhile fun c => c = ' ' || ((inFlow || !keyAllowed) && c = '\t')
    let cursor := cursor.skipComment
    match cursor.lineBreak? with
    | some (_, next) => skipToToken inFlow fuel (keyAllowed || !inFlow) next
    | none => (keyAllowed, cursor)

/-- Passes characters that form one token. -/
def take (kind : TokenKind) (width : Nat) (lexer : Lexer) : Lexer :=
  { lexer.push kind lexer.cursor.position with cursor := lexer.cursor.advance width }

def takeStreamEnd (lexer : Lexer) : Except SyntaxError Lexer := do
  let cursor := { lexer.cursor with position := lexer.cursor.lineEndPosition }
  let lexer ← ({ lexer with cursor }).closeAllBlocks.dropKey
  .ok ({ lexer with keyAllowed := false }.push .streamEnd cursor.position)

def takeDirective (lexer : Lexer) : Except SyntaxError Lexer := do
  let lexer ← lexer.closeAllBlocks.dropKey
  let (kind, cursor) ← lexer.cursor.readDirective
  .ok { lexer.push kind lexer.cursor.position with cursor, keyAllowed := false }

def takeDocumentMark (kind : TokenKind) (lexer : Lexer) : Except SyntaxError Lexer := do
  let lexer ← lexer.closeAllBlocks.dropKey
  .ok { lexer.take kind 3 with keyAllowed := false }

def takeFlowStart (kind : TokenKind) (lexer : Lexer) : Except SyntaxError Lexer := do
  let lexer ← lexer.saveKey
  .ok { lexer.take kind 1 with
    pendingKey := none, outerKeys := lexer.pendingKey :: lexer.outerKeys, keyAllowed := true }

def takeFlowEnd (kind : TokenKind) (lexer : Lexer) : Except SyntaxError Lexer := do
  let lexer ← lexer.dropKey
  let (pendingKey, outerKeys) := match lexer.outerKeys with
    | [] => (lexer.pendingKey, [])
    | outer :: rest => (outer, rest)
  .ok { lexer.take kind 1 with pendingKey, outerKeys, keyAllowed := false }

def takeFlowEntry (lexer : Lexer) : Except SyntaxError Lexer := do
  let lexer ← lexer.dropKey
  .ok { lexer.take .flowEntry 1 with keyAllowed := true }

def takeBlockEntry (lexer : Lexer) : Except SyntaxError Lexer := do
  if !lexer.inFlow && !lexer.keyAllowed then lexer.cursor.fail .sequenceEntryHere
  let lexer ← (lexer.openBlock lexer.count .blockSequenceStart lexer.cursor.position).dropKey
  .ok { lexer.take .blockEntry 1 with keyAllowed := true }

def takeKey (lexer : Lexer) : Except SyntaxError Lexer := do
  if !lexer.inFlow && !lexer.keyAllowed then lexer.cursor.fail .keyHere
  let lexer ← (lexer.openBlock lexer.count .blockMappingStart lexer.cursor.position).dropKey
  .ok { lexer.take .key 1 with keyAllowed := !lexer.inFlow }

/-- A colon makes a key of the pending token. Without one it follows an
explicit or an empty key. -/
def takeValue (lexer : Lexer) : Except SyntaxError Lexer :=
  match lexer.pendingKey with
  | some key =>
    let lexer := (lexer.insert key.number .key key.position).openBlock key.number
      .blockMappingStart key.position
    .ok { lexer.take .value 1 with pendingKey := none, keyAllowed := false }
  | none => do
    if !lexer.inFlow && !lexer.keyAllowed then lexer.cursor.fail .valueHere
    let lexer := lexer.openBlock lexer.count .blockMappingStart lexer.cursor.position
    .ok { lexer.take .value 1 with keyAllowed := !lexer.inFlow }

def takeAnchor (kind : List Char → TokenKind) (lexer : Lexer) : Except SyntaxError Lexer := do
  let lexer ← lexer.saveKey
  let (name, cursor) ← lexer.cursor.readAnchorName
  .ok { lexer.push (kind name) lexer.cursor.position with cursor, keyAllowed := false }

def takeTag (lexer : Lexer) : Except SyntaxError Lexer := do
  let lexer ← lexer.saveKey
  let (handle, suffix, cursor) ← lexer.cursor.readTag lexer.inFlow
  .ok { lexer.push (.tag handle suffix) lexer.cursor.position with cursor, keyAllowed := false }

def takeBlockScalar (folded : Bool) (lexer : Lexer) : Except SyntaxError Lexer := do
  let lexer ← lexer.dropKey
  let (text, cursor) ← lexer.cursor.readBlock lexer.fuel folded lexer.indent
  let style := if folded then ScalarStyle.folded else .literal
  .ok { lexer.push (.scalar text style) lexer.cursor.position with cursor, keyAllowed := true }

def takeQuoted (quotes : Quotes) (lexer : Lexer) : Except SyntaxError Lexer := do
  let lexer ← lexer.saveKey
  let (text, cursor) ← lexer.cursor.readQuoted lexer.fuel quotes
  .ok { lexer.push (.scalar text .quoted) lexer.cursor.position with cursor, keyAllowed := false }

def takePlain (lexer : Lexer) : Except SyntaxError Lexer := do
  let lexer ← lexer.saveKey
  let (text, atLineStart, cursor) ← lexer.cursor.readPlain lexer.fuel lexer.inFlow lexer.indent
  .ok { lexer.push (.scalar text .plain) lexer.cursor.position with cursor, keyAllowed := atLineStart }

/-- Whether a character may start a plain scalar. Some that mean something
elsewhere may, and a tab, which is met only where a key could follow, may not. -/
def startsPlain (inFlow : Bool) (c : Char) (rest : List Char) : Bool :=
  if c = '-' then !startsWithAny " \t" rest
  else if c = '?' || c = ':' then !inFlow && !atWordEnd rest
  else c ≠ '\t' && !startsWithAny ",[]\x7b\x7d#&*!|>'\"%@\x60" [c]

/-- The token at the cursor, by its first character. -/
def takeToken (lexer : Lexer) : Except SyntaxError Lexer :=
  let cursor := lexer.cursor
  match cursor.rest with
  | [] => lexer.takeStreamEnd
  | c :: rest =>
    let alone := atWordEnd rest
    if cursor.column = 0 ∧ c = '%' then lexer.takeDirective
    else if cursor.atDocumentMark '-' then lexer.takeDocumentMark .documentStart
    else if cursor.atDocumentMark '.' then lexer.takeDocumentMark .documentEnd
    else if c = '[' then lexer.takeFlowStart .flowSequenceStart
    else if c = '\x7b' then lexer.takeFlowStart .flowMappingStart
    else if c = ']' then lexer.takeFlowEnd .flowSequenceEnd
    else if c = '\x7d' then lexer.takeFlowEnd .flowMappingEnd
    else if c = ',' then lexer.takeFlowEntry
    else if c = '-' ∧ alone then lexer.takeBlockEntry
    else if c = '?' ∧ (lexer.inFlow ∨ alone) then lexer.takeKey
    else if c = ':' ∧ (lexer.inFlow ∨ alone) then lexer.takeValue
    else if c = '*' then lexer.takeAnchor .reference
    else if c = '&' then lexer.takeAnchor .anchor
    else if c = '!' then lexer.takeTag
    else if c = '|' ∧ ¬ lexer.inFlow then lexer.takeBlockScalar false
    else if c = '>' ∧ ¬ lexer.inFlow then lexer.takeBlockScalar true
    else if c = '\'' then lexer.takeQuoted .single
    else if c = '"' then lexer.takeQuoted .double
    else if startsPlain lexer.inFlow c rest then lexer.takePlain
    else cursor.fail .tokenStart

/-- Passes what separates tokens and takes the next one. -/
def step (lexer : Lexer) : Except SyntaxError Lexer := do
  let (keyAllowed, cursor) :=
    skipToToken lexer.inFlow lexer.fuel lexer.keyAllowed lexer.cursor
  let lexer ← ({ lexer with keyAllowed, cursor }).dropStaleKeys
  (lexer.closeBlocks lexer.cursor.column).takeToken

/-- The tokens that no later colon can move. -/
def settled (lexer : Lexer) : List Token :=
  let pending := (lexer.pendingKey :: lexer.outerKeys).filterMap fun key =>
    key.bind fun key => if key.isStale lexer.cursor.position then none else some key.number
  lexer.tokens.reverse.take (pending.foldl min lexer.count)

/-- Every token but the last passes at least one character. -/
def run : Nat → Lexer → Lexed
  | 0, lexer => ⟨lexer.settled, some ⟨.tokenStart, lexer.cursor.position⟩⟩
  | fuel + 1, lexer =>
    match lexer.step with
    | .error error => ⟨lexer.settled, some error⟩
    | .ok next =>
      match next.tokens with
      | ⟨.streamEnd, _⟩ :: _ => ⟨next.tokens.reverse, none⟩
      | _ => run fuel next

end Lexer

/-- The characters that a document may hold. -/
def isDocumentChar (c : Char) : Bool :=
  c = '\t' || c = '\n' || c = '\r' || (0x20 ≤ c.toNat && c.toNat ≤ 0x7E) || c.toNat = 0x85 ||
    (0xA0 ≤ c.toNat && c.toNat ≤ 0xFFFD) || 0x10000 ≤ c.toNat

/-- The tokens of a text. A character that no document holds spoils the whole. -/
def scan (text : List Char) : Lexed :=
  let valid := text.takeWhile isDocumentChar
  if valid.length < text.length then
    ⟨[], some ⟨.character, { ({} : Position) with index := valid.length }⟩⟩
  else
    let lexer := Lexer.ofText text
    lexer.run lexer.fuel

end CommandPlan.Yaml
