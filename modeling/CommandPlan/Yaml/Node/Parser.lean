import CommandPlan.Yaml.Node
import CommandPlan.Yaml.Token.Lexer

/-! Nodes read from tokens. The recursion follows the nesting of the text; its
fuel counts the tokens, since every turn passes some. A reader of nodes does not
fail: it reads what stands in front of a fault, and then that the text is cut. -/
namespace CommandPlan.Yaml

/-- What is left to read, and the names in use. -/
structure Reading where
  tokens : List Token
  /-- What lies behind the last token, if not the end. -/
  failure : Option SyntaxError
  /-- The handles of tags with what they stand for, the document's own first. -/
  handles : List (List Char × List UInt8)
  /-- The slot of each anchor's name. -/
  slots : List (List Char × Nat)

abbrev Parse := StateT Reading (Except SyntaxError)

namespace Parse

/-- The next token, which stays. -/
def peek : Parse Token := do
  let reading ← get
  match reading.tokens, reading.failure with
  | token :: _, _ => pure token
  | [], some error => throw error
  | [], none => throw ⟨.nodeContent, {}⟩

def skip : Parse Unit :=
  modify fun reading => { reading with tokens := reading.tokens.drop 1 }

def fail {α : Type} (fault : Fault) : Parse α := do
  let token ← peek
  throw ⟨fault, token.start⟩

instance : MonadLift (StateM Reading) Parse where
  monadLift read := fun reading => .ok (read reading)

/-- What is read, or in its place what tells of the fault, behind which there is
nothing more to read. -/
def orCut {α : Type} (cut : SyntaxError → α) (parse : Parse α) : StateM Reading α := fun reading =>
  match parse reading with
  | .ok result => result
  | .error error => (cut error, { reading with tokens := [], failure := some error })

def node (parse : Parse Node) : StateM Reading Node :=
  orCut .cut parse

def items (parse : Parse (List Node)) : StateM Reading (List Node) :=
  orCut (fun error => [.cut error]) parse

def entries (parse : Parse (List (Node × Node))) : StateM Reading (List (Node × Node)) :=
  orCut (fun error => [(.cut error, .cut error)]) parse

/-- The slot of a name from now on. A new name takes the first slot behind those
in use, and so does a name that is used again, which may then share its slot
with the next new one. -/
def defineAnchor (name : List Char) : Parse Nat := do
  let reading ← get
  let slot := reading.slots.length
  set { reading with slots := (name, slot) :: reading.slots.filter (·.1 ≠ name) }
  pure slot

def slotOf (name : List Char) : Parse Nat := do
  match (← get).slots.lookup name with
  | some slot => pure slot
  | none => fail .unknownAnchor

def expandTag (handle : List Char) (suffix : List UInt8) : Parse Tag := do
  if handle.isEmpty then pure ⟨suffix⟩
  else
    match (← get).handles.lookup handle with
    | some expansion => pure ⟨expansion ++ suffix⟩
    | none => fail .tagHandle

def anchorProperty : Parse (Option (List Char)) := do
  match (← peek).kind with
  | .anchor name => skip; pure (some name)
  | _ => pure none

def tagProperty : Parse (Option (List Char × List UInt8)) := do
  match (← peek).kind with
  | .tag handle suffix => skip; pure (some (handle, suffix))
  | _ => pure none

/-- An anchor and a tag in either order, and the place where they start. -/
def properties : Parse Properties := do
  let start := (← peek).start
  let first ← anchorProperty
  let written ← tagProperty
  let name ← match first with
    | some name => pure (some name)
    | none => if written.isSome then anchorProperty else pure none
  let tag ← match written with
    | some (handle, suffix) => some <$> expandTag handle suffix
    | none => pure none
  let anchor ← match name with
    | some name => some <$> defineAnchor name
    | none => pure none
  pure { position := start, anchor, tag }

end Parse

/-- Where a node stands. Between brackets indentation means nothing; the value
of a block mapping may be a sequence that is not indented further. -/
inductive NodeContext where
  | flow
  | block
  | blockValue
deriving DecidableEq, Repr

/-- Whether the token ends an entry of a block mapping. -/
def TokenKind.endsBlockEntry : TokenKind → Bool
  | .key | .value | .blockEnd => true
  | _ => false

def TokenKind.endsFlowItem : TokenKind → Bool
  | .flowEntry | .flowSequenceEnd => true
  | _ => false

def TokenKind.endsFlowEntry : TokenKind → Bool
  | .flowEntry | .flowMappingEnd => true
  | _ => false

open Parse

mutual

def Node.parse : Nat → NodeContext → StateM Reading Node
  | 0, _ => node (fail .nodeContent)
  | fuel + 1, context => node do
    match (← peek).kind with
    | .reference name =>
      let position := (← peek).start
      let slot ← slotOf name
      skip
      pure (.reference position slot)
    | _ =>
      let properties ← properties
      match (← peek).kind, context with
      | .blockEntry, .blockValue => .sequence properties <$> parseUnindented fuel
      | .scalar text style, _ =>
        skip
        let tag := properties.tag.filter (!·.isNonSpecific)
        pure (.scalar { properties with tag } (String.ofList text) style)
      | .flowSequenceStart, _ => skip; .sequence properties <$> parseFlowSequence fuel true
      | .flowMappingStart, _ => skip; .mapping properties <$> parseFlowMapping fuel true
      | .blockSequenceStart, .block | .blockSequenceStart, .blockValue =>
        skip; .sequence properties <$> parseBlockSequence fuel
      | .blockMappingStart, .block | .blockMappingStart, .blockValue =>
        skip; .mapping properties <$> parseBlockMapping fuel
      | _, _ =>
        if properties.anchor.isSome || properties.tag.isSome then pure (.scalar properties "" .plain)
        else fail .nodeContent

/-- The items of a block sequence after its start. -/
def parseBlockSequence : Nat → StateM Reading (List Node)
  | 0 => items (fail .nodeContent)
  | fuel + 1 => items do
    let token ← peek
    match token.kind with
    | .blockEntry =>
      skip
      let item ← node do
        match (← peek).kind with
        | .blockEntry | .blockEnd => pure (.empty token.finish)
        | _ => Node.parse fuel .block
      (item :: ·) <$> parseBlockSequence fuel
    | .blockEnd => skip; pure []
    | _ => fail .sequenceEntry

/-- The items of a sequence in the column of the mapping around it. -/
def parseUnindented : Nat → StateM Reading (List Node)
  | 0 => items (fail .nodeContent)
  | fuel + 1 => items do
    let token ← peek
    match token.kind with
    | .blockEntry =>
      skip
      let item ← node do
        let next := (← peek).kind
        if next = .blockEntry ∨ next.endsBlockEntry then pure (.empty token.finish)
        else Node.parse fuel .block
      (item :: ·) <$> parseUnindented fuel
    | _ => pure []

/-- The entries of a block mapping after its start. -/
def parseBlockMapping : Nat → StateM Reading (List (Node × Node))
  | 0 => entries (fail .nodeContent)
  | fuel + 1 => entries do
    let token ← peek
    match token.kind with
    | .key =>
      skip
      let key ← node do
        if (← peek).kind.endsBlockEntry then pure (.empty token.finish) else Node.parse fuel .blockValue
      let value ← node do
        let colon ← peek
        if colon.kind = .value then
          skip
          if (← peek).kind.endsBlockEntry then pure (.empty colon.finish) else Node.parse fuel .blockValue
        else pure (.empty colon.start)
      ((key, value) :: ·) <$> parseBlockMapping fuel
    | .blockEnd => skip; pure []
    | _ => fail .mappingKey

/-- The items of a flow sequence, with the comma before each but the first. -/
def parseFlowSequence : Nat → Bool → StateM Reading (List Node)
  | 0, _ => items (fail .nodeContent)
  | fuel + 1, first => items do
    if (← peek).kind = .flowSequenceEnd then skip; pure []
    else
      if !first then
        if (← peek).kind = .flowEntry then skip else fail .flowSequenceEnd
      let token ← peek
      match token.kind with
      | .flowSequenceEnd => skip; pure []
      | .key =>
        skip
        let pair ← parseFlowPair fuel
        (.mapping { position := token.start } pair :: ·) <$> parseFlowSequence fuel false
      | _ =>
        let item ← Node.parse fuel .flow
        (item :: ·) <$> parseFlowSequence fuel false

/-- The single entry of a mapping that stands in a flow sequence without
brackets of its own. A key that is left out takes the token behind it along, and
there has to be a token behind the entry. -/
def parseFlowPair : Nat → StateM Reading (List (Node × Node))
  | 0 => entries (fail .nodeContent)
  | fuel + 1 => do
    let key ← node do
      let token ← peek
      if token.kind = .value ∨ token.kind.endsFlowItem then skip; pure (.empty token.finish)
      else Node.parse fuel .flow
    let value ← node do
      if (← peek).kind = .value then
        skip
        let next ← peek
        if next.kind.endsFlowItem then pure (.empty next.start) else Node.parse fuel .flow
      else pure (.empty (← peek).start)
    ((key, value) :: ·) <$> entries do
      let _ ← peek
      pure []

/-- The entries of a flow mapping, with the comma before each but the first. -/
def parseFlowMapping : Nat → Bool → StateM Reading (List (Node × Node))
  | 0, _ => entries (fail .nodeContent)
  | fuel + 1, first => entries do
    if (← peek).kind = .flowMappingEnd then skip; pure []
    else
      if !first then
        if (← peek).kind = .flowEntry then skip else fail .flowMappingEnd
      match (← peek).kind with
      | .flowMappingEnd => skip; pure []
      | .key =>
        skip
        let key ← node do
          let next ← peek
          if next.kind = .value ∨ next.kind.endsFlowEntry then pure (.empty next.start)
          else Node.parse fuel .flow
        let value ← node do
          if (← peek).kind = .value then
            skip
            let next ← peek
            if next.kind.endsFlowEntry then pure (.empty next.start) else Node.parse fuel .flow
          else pure (.empty (← peek).start)
        ((key, value) :: ·) <$> parseFlowMapping fuel false
      | _ =>
        let key ← Node.parse fuel .flow
        let value ← node do pure (.empty (← peek).start)
        ((key, value) :: ·) <$> parseFlowMapping fuel false

end

end CommandPlan.Yaml
