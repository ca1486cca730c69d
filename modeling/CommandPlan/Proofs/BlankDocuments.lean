import CommandPlan.Proofs.RunEffects
import CommandPlan.Text.Blank

/-! Blank texts as documents. White space of other scripts is no separator of a document,
so a blank text may hold plain scalars, but no mark of a collection: its tokens are
scalars, and so is its root. -/
namespace CommandPlan.Yaml
open RunEffects

namespace Cursor

variable {cursor next : Cursor}

/-- Reading goes on within the text that was left. -/
theorem advance_within (count : Nat) (cursor : Cursor) : (cursor.advance count).rest ⊆ cursor.rest :=
  List.drop_subset count cursor.rest

theorem line_break_within {c : Char} (broken : cursor.lineBreak? = some (c, next)) : next.rest ⊆ cursor.rest := by
  unfold lineBreak? at broken
  split at broken
  · rename_i rest text
    cases broken
    rw [text]
    exact fun c member => List.mem_cons_of_mem _ (List.mem_cons_of_mem _ member)
  · rename_i c rest _ text
    split at broken
    · cases broken
      rw [text]
      exact List.subset_cons_self c rest
    · cases broken
  · cases broken

theorem line_break_after {c : Char} {count : Nat}
    (broken : (cursor.advance count).lineBreak? = some (c, next)) : next.rest ⊆ cursor.rest :=
  List.Subset.trans (line_break_within broken) (advance_within count cursor)

theorem skip_comment_within (cursor : Cursor) : cursor.skipComment.rest ⊆ cursor.rest := by
  unfold skipComment
  split
  · exact advance_within _ cursor
  · exact List.Subset.refl _

theorem read_breaks_within {indent fuel : Nat} {breaks : List Char}
    (read : cursor.readBreaks indent fuel = .ok (breaks, next)) : next.rest ⊆ cursor.rest := by
  induction fuel generalizing cursor breaks next with
  | zero =>
    cases read
    exact List.Subset.refl _
  | succ fuel ih =>
    unfold readBreaks at read
    dsimp only [takeWhile] at read
    split at read
    · cases read
    · split at read
      · rename_i c behind broken
        obtain ⟨⟨more, last⟩, further, same⟩ := bind_eq_ok_iff.mp read
        cases same
        exact List.Subset.trans (ih further) (line_break_after broken)
      · cases read
        exact advance_within _ cursor

theorem read_gap_within {fuel indent : Nat} {gap : Gap} (read : cursor.readGap fuel indent = .ok (gap, next)) :
    next.rest ⊆ cursor.rest := by
  unfold readGap at read
  dsimp only [takeWhile] at read
  split at read
  · cases read
    exact advance_within _ cursor
  · rename_i c behind broken
    obtain ⟨⟨more, last⟩, further, same⟩ := bind_eq_ok_iff.mp read
    cases same
    exact List.Subset.trans (read_breaks_within further) (line_break_after broken)

theorem plain_words_within {inFlow : Bool} {indent fuel : Nat} {gap last : Gap} {words : List Char}
    (read : cursor.plainWords inFlow indent fuel gap = .ok (words, last, next)) : next.rest ⊆ cursor.rest := by
  induction fuel generalizing cursor gap words last next with
  | zero =>
    cases read
    exact List.Subset.refl _
  | succ fuel ih =>
    unfold plainWords at read
    split at read
    · cases read
      exact List.Subset.refl _
    · split at read
      · cases read
      · cases read
        exact List.Subset.refl _
      · rename_i word _ _
        obtain ⟨⟨between, after⟩, passed, read⟩ := bind_eq_ok_iff.mp read
        have start : after.rest ⊆ cursor.rest := List.Subset.trans (read_gap_within passed) (advance_within _ cursor)
        dsimp only at read
        split at read
        · cases read
          exact start
        · obtain ⟨⟨more, behind, stop⟩, further, same⟩ := bind_eq_ok_iff.mp read
          cases same
          exact List.Subset.trans (ih further) start

theorem read_plain_within {inFlow atLineStart : Bool} {indent fuel : Nat} {text : List Char}
    (read : cursor.readPlain fuel inFlow indent = .ok (text, atLineStart, next)) : next.rest ⊆ cursor.rest := by
  obtain ⟨⟨words, gap, last⟩, passed, same⟩ := bind_eq_ok_iff.mp read
  cases same
  exact plain_words_within passed

end Cursor

namespace Lexer

theorem skip_to_token_within (inFlow keyAllowed : Bool) (fuel : Nat) (cursor : Cursor) :
    (skipToToken inFlow fuel keyAllowed cursor).2.rest ⊆ cursor.rest := by
  induction fuel generalizing keyAllowed cursor with
  | zero => exact List.Subset.refl _
  | succ fuel ih =>
    unfold skipToToken
    extract_lets start blank comment
    have passed : comment.rest ⊆ cursor.rest := by
      refine List.Subset.trans blank.skip_comment_within (List.Subset.trans (start.advance_within _) ?_)
      unfold start
      split
      · exact cursor.advance_within 1
      · exact List.Subset.refl _
    split
    · rename_i broken
      exact List.Subset.trans (ih _ _) (List.Subset.trans (Cursor.line_break_within broken) passed)
    · exact passed

/-- Tokens of scalars, and of the end. -/
def IsScalar (token : Token) : Prop :=
  token.kind = .streamEnd ∨ ∃ text style, token.kind = .scalar text style

/-- Where a blank text is read, no collection is open and none has been. -/
structure Blank (lexer : Lexer) : Prop where
  rest : ∀ c ∈ lexer.cursor.rest, Text.isBlank c = true
  blocks : lexer.blocks = []
  flows : lexer.outerKeys = []
  tokens : ∀ token ∈ lexer.tokens, IsScalar token

variable {lexer next : Lexer}

theorem blank_drop_key (blank : Blank lexer) (dropped : lexer.dropKey = .ok next) :
    Blank next ∧ next.cursor = lexer.cursor := by
  unfold dropKey at dropped
  split at dropped
  · split at dropped
    · cases dropped
    · cases dropped
      exact ⟨⟨blank.rest, blank.blocks, blank.flows, blank.tokens⟩, rfl⟩
  · cases dropped
    exact ⟨blank, rfl⟩

theorem blank_save_key (blank : Blank lexer) (saved : lexer.saveKey = .ok next) :
    Blank next ∧ next.cursor = lexer.cursor := by
  unfold saveKey at saved
  split at saved
  · obtain ⟨between, dropped, same⟩ := bind_eq_ok_iff.mp saved
    cases same
    obtain ⟨blank, stays⟩ := blank_drop_key blank dropped
    exact ⟨⟨blank.rest, blank.blocks, blank.flows, blank.tokens⟩, stays⟩
  · cases saved
    exact ⟨blank, rfl⟩

theorem blank_drop_stale_keys (blank : Blank lexer) (dropped : lexer.dropStaleKeys = .ok next) : Blank next := by
  obtain ⟨pending, _, dropped⟩ := bind_eq_ok_iff.mp dropped
  rw [blank.flows] at dropped
  cases dropped
  exact ⟨blank.rest, blank.blocks, rfl, blank.tokens⟩

theorem blank_push {kind : TokenKind} {position : Position} (blank : Blank lexer) (scalar : IsScalar ⟨kind, position⟩) :
    Blank (lexer.push kind position) :=
  ⟨blank.rest, blank.blocks, blank.flows, by simpa [push] using ⟨scalar, blank.tokens⟩⟩

theorem close_blocks_blank (blank : Blank lexer) (column : Nat) : lexer.closeBlocks column = lexer := by
  obtain ⟨cursor, fuel, blocks, pendingKey, outerKeys, keyAllowed, tokens, count⟩ := lexer
  cases blank.blocks
  cases blank.flows
  rfl

theorem close_all_blocks_blank (blank : Blank lexer) : lexer.closeAllBlocks = lexer := by
  obtain ⟨cursor, fuel, blocks, pendingKey, outerKeys, keyAllowed, tokens, count⟩ := lexer
  cases blank.blocks
  cases blank.flows
  rfl

theorem blank_take_stream_end (blank : Blank lexer) (taken : lexer.takeStreamEnd = .ok next) : Blank next := by
  have start : Blank { lexer with cursor := { lexer.cursor with position := lexer.cursor.lineEndPosition } } :=
    ⟨blank.rest, blank.blocks, blank.flows, blank.tokens⟩
  unfold takeStreamEnd at taken
  dsimp only at taken
  rw [close_all_blocks_blank start] at taken
  obtain ⟨between, dropped, same⟩ := bind_eq_ok_iff.mp taken
  cases same
  have dropped := (blank_drop_key start dropped).1
  exact blank_push ⟨dropped.rest, dropped.blocks, dropped.flows, dropped.tokens⟩ (.inl rfl)

theorem blank_take_plain (blank : Blank lexer) (taken : lexer.takePlain = .ok next) : Blank next := by
  obtain ⟨between, saved, taken⟩ := bind_eq_ok_iff.mp taken
  obtain ⟨⟨text, atLineStart, cursor⟩, read, same⟩ := bind_eq_ok_iff.mp taken
  cases same
  have pushed : Blank (between.push (.scalar text .plain) between.cursor.position) :=
    blank_push (blank_save_key blank saved).1 (.inr ⟨text, .plain, rfl⟩)
  exact ⟨fun c member => pushed.rest c (Cursor.read_plain_within read member), pushed.blocks, pushed.flows,
    pushed.tokens⟩

theorem blank_take_token (blank : Blank lexer) (taken : lexer.takeToken = .ok next) : Blank next := by
  unfold takeToken at taken
  dsimp only at taken
  split at taken
  · exact blank_take_stream_end blank taken
  · rename_i c rest text
    have space : Text.isBlank c = true := blank.rest c (by rw [text]; exact List.mem_cons_self)
    -- A mark is not white space, so no branch but the last but one takes a token.
    have unmarked (mark : Char) (marks : Text.isBlank mark = false) : c ≠ mark := by
      rintro rfl
      rw [space] at marks
      cases marks
    have unruled (mark : Char) (marks : Text.isBlank mark = false) : lexer.cursor.atDocumentMark mark = false := by
      simp [Cursor.atDocumentMark, text, unmarked mark marks]
    simp only [unruled '-' rfl, unruled '.' rfl, unmarked '%' rfl, unmarked '[' rfl, unmarked '\x7b' rfl,
      unmarked ']' rfl, unmarked '\x7d' rfl, unmarked ',' rfl, unmarked '-' rfl, unmarked '?' rfl,
      unmarked ':' rfl, unmarked '*' rfl, unmarked '&' rfl, unmarked '!' rfl, unmarked '|' rfl,
      unmarked '>' rfl, unmarked '\'' rfl, unmarked '"' rfl, and_false, false_and, if_false,
      Bool.false_eq_true] at taken
    split at taken
    · exact blank_take_plain blank taken
    · cases taken

theorem blank_step (blank : Blank lexer) (stepped : lexer.step = .ok next) : Blank next := by
  obtain ⟨between, dropped, taken⟩ := bind_eq_ok_iff.mp stepped
  have start : Blank { lexer with
      keyAllowed := (skipToToken lexer.inFlow lexer.fuel lexer.keyAllowed lexer.cursor).1
      cursor := (skipToToken lexer.inFlow lexer.fuel lexer.keyAllowed lexer.cursor).2 } :=
    ⟨fun c member => blank.rest c (skip_to_token_within _ _ _ _ member), blank.blocks, blank.flows, blank.tokens⟩
  have between_blank := blank_drop_stale_keys start dropped
  rw [close_blocks_blank between_blank] at taken
  exact blank_take_token between_blank taken

theorem settled_scalars (blank : Blank lexer) : ∀ token ∈ lexer.settled, IsScalar token :=
  fun token member => blank.tokens token (List.mem_reverse.mp (List.mem_of_mem_take member))

theorem run_scalars (fuel : Nat) (blank : Blank lexer) : ∀ token ∈ (lexer.run fuel).tokens, IsScalar token := by
  induction fuel generalizing lexer with
  | zero => exact settled_scalars blank
  | succ fuel ih =>
    unfold run
    split
    · exact settled_scalars blank
    · rename_i next stepped
      have after := blank_step blank stepped
      split
      · exact fun token member => after.tokens token (List.mem_reverse.mp member)
      · exact ih after

end Lexer

theorem scan_scalars {text : List Char} (blank : ∀ c ∈ text, Text.isBlank c = true) :
    ∀ token ∈ (scan text).tokens, Lexer.IsScalar token := by
  unfold scan
  dsimp only
  split
  · exact List.forall_mem_nil _
  · exact Lexer.run_scalars _ ⟨blank, rfl, rfl, List.forall_mem_nil _⟩

namespace Document
open Parse

theorem parse_scalar (fuel : Nat) (text : List Char) (style : ScalarStyle) (start : Position) (rest : List Token)
    (failure : Option SyntaxError) (handles : List (List Char × List UInt8)) (slots : List (List Char × Nat)) :
    Node.parse (fuel + 1) .block ⟨⟨.scalar text style, start⟩ :: rest, failure, handles, slots⟩ =
      (.scalar { position := start } (String.ofList text) style, ⟨rest, failure, handles, slots⟩) := by
  rw [Node.parse]
  rfl

/-- A document of scalars is a scalar, unless it breaks off at once. -/
theorem parse_root_scalar {fuel : Nat} {reading : Reading}
    (scalars : ∀ token ∈ reading.tokens, Lexer.IsScalar token)
    (whole : (parseRoot fuel reading).1.fault? = none) :
    ∃ properties text style, (parseRoot fuel reading).1 = .scalar properties text style := by
  obtain ⟨tokens, failure, handles, slots⟩ := reading
  cases tokens with
  | nil => cases failure <;> cases whole
  | cons token rest =>
    obtain ⟨kind, start⟩ := token
    obtain ended | ⟨text, style, written⟩ := scalars _ List.mem_cons_self
    · cases ended
      exact ⟨_, _, _, rfl⟩
    · cases written
      cases fuel with
      | zero => cases whole
      | succ fuel =>
        have begun : parseRoot (fuel + 1) ⟨⟨.scalar text style, start⟩ :: rest, failure, handles, slots⟩ =
            Node.parse (fuel + 1) .block ⟨⟨.scalar text style, start⟩ :: rest, failure, [] ++ defaultHandles, slots⟩ :=
          rfl
        rw [begun, parse_scalar]
        exact ⟨_, _, _, rfl⟩

/-- The root of a blank document is a scalar. -/
theorem blank_root {text : String} {document : Document} (blank : text.toList.all Text.isBlank = true)
    (parsed : parse text = .ok document) :
    ∃ properties content style, document.root = .scalar properties content style := by
  obtain ⟨same, whole⟩ := close_whole (load_of_parse parsed)
  rw [same]
  exact parse_root_scalar (scan_scalars (List.all_eq_true.mp blank)) whole

end Document
end CommandPlan.Yaml
