import CommandPlan.Proofs.MarkPieces

/-! Messages with painted names. The marks around a name share their form with every
other mark, and marks are replaced in the whole message, whatever it is about; so what
a message shows depends on its names. Without exclamation marks in the names, one word
alone can go wrong: a name that is the inside of the reset mark takes the exclamation
marks of its neighbours, and the mark behind it is left over. -/
namespace CommandPlan.PaintedNames
open Markup MarkPieces

/-- A name and what follows it, up to the next name. -/
structure Span where
  name : List Char
  after : List Char

/-- A message: its start, and its names with what follows each of them. -/
structure Phrase where
  start : List Char
  spans : List Span

namespace Phrase

/-- The message with its names painted in some way. -/
def text (paint : List Char → List Char) (phrase : Phrase) : List Char :=
  phrase.start ++ phrase.spans.flatMap fun span => paint span.name ++ span.after

/-- No exclamation mark stands in the message, and a blank somewhere behind every name. -/
structure Legible (phrase : Phrase) : Prop where
  start : Unmarked phrase.start
  names : ∀ span ∈ phrase.spans, Unmarked span.name
  after : ∀ span ∈ phrase.spans, Unmarked span.after
  spaced : ∀ span ∈ phrase.spans, ' ' ∈ span.after

end Phrase

def green : Mark := .paint .regular .green

/-- A name between the marks that paint it green. -/
def highlighted (name : List Char) : List Char :=
  green.text ++ name ++ Mark.reset.text

/-- A name as it is shown: between escapes on a colour terminal, and as it is elsewhere. -/
def shown (enabled : Bool) (name : List Char) : List Char :=
  shownMark enabled green ++ name ++ shownMark enabled .reset

variable {enabled : Bool} {phrase : Phrase} {start : List Char} {spans : List Span} {piece : List Char}

/-! ## Pieces -/

/-- The pieces behind the start of a message with highlighted names. -/
def piecesOf (spans : List Span) : List (List Char) :=
  spans.flatMap fun span => [bodyOf green, span.name, bodyOf .reset, span.after]

/-- A name with what follows it once the reset mark between them is gone. -/
def spanText (enabled : Bool) (span : Span) : List Char :=
  span.name ++ shownMark enabled .reset ++ span.after

/-- The pieces once all reset marks are gone. -/
def openPieces (enabled : Bool) (spans : List Span) : List (List Char) :=
  spans.flatMap fun span => [bodyOf green, spanText enabled span]

theorem highlighted_joined : joined (start :: piecesOf spans) = Phrase.text highlighted ⟨start, spans⟩ := by
  induction spans generalizing start with
  | nil => simp [piecesOf, Phrase.text, joined_single]
  | cons span spans ih =>
    have rest : joined (span.after :: piecesOf spans) = Phrase.text highlighted ⟨span.after, spans⟩ := ih
    rw [piecesOf, List.flatMap_cons, ← piecesOf]
    simp only [List.cons_append, List.nil_append]
    rw [joined_cons (by simp), joined_cons (by simp), joined_cons (by simp), joined_cons (by simp), rest]
    simp [Phrase.text, highlighted, mark_text, written]

theorem substitute_reset (others : ∀ span ∈ spans, span.name ≠ bodyOf .reset) :
    substitute (bodyOf .reset) (shownMark enabled .reset) start (piecesOf spans) =
      start :: openPieces enabled spans := by
  induction spans generalizing start with
  | nil => rfl
  | cons span spans ih =>
    obtain ⟨other, later⟩ := List.forall_mem_cons.mp others
    have differ : bodyOf green ≠ bodyOf .reset := by decide
    rw [piecesOf, List.flatMap_cons, ← piecesOf]
    simp only [List.cons_append, List.nil_append]
    rw [substitute_miss differ, substitute_miss other, substitute_hit, ih later]
    rfl

theorem substitute_green : substitute (bodyOf green) (shownMark enabled green) start (openPieces enabled spans) =
    [Phrase.text (shown enabled) ⟨start, spans⟩] := by
  induction spans generalizing start with
  | nil => simp [openPieces, substitute, Phrase.text]
  | cons span spans ih =>
    rw [openPieces, List.flatMap_cons, ← openPieces, List.cons_append, List.cons_append, List.nil_append,
      substitute_hit, ih]
    simp [Phrase.text, shown, spanText]

namespace Phrase.Legible

variable (legible : phrase.Legible)

include legible

theorem pieces_unmarked : ∀ piece ∈ piecesOf phrase.spans, Unmarked piece := by
  intro piece member
  obtain ⟨span, inSpans, inPieces⟩ := List.mem_flatMap.mp member
  simp only [List.mem_cons, List.not_mem_nil, or_false] at inPieces
  rcases inPieces with rfl | rfl | rfl | rfl
  · exact body_unmarked green
  · exact legible.names span inSpans
  · exact body_unmarked .reset
  · exact legible.after span inSpans

theorem span_text_unmarked {span : Span} (inSpans : span ∈ phrase.spans) : Unmarked (spanText enabled span) := by
  have name := legible.names span inSpans
  have reset := shown_mark_unmarked enabled .reset
  exact unmarked_append.mpr ⟨unmarked_append.mpr ⟨name, reset⟩, legible.after span inSpans⟩

theorem open_pieces_unmarked : ∀ piece ∈ openPieces enabled phrase.spans, Unmarked piece := by
  intro piece member
  obtain ⟨span, inSpans, inPieces⟩ := List.mem_flatMap.mp member
  simp only [List.mem_cons, List.not_mem_nil, or_false] at inPieces
  rcases inPieces with rfl | rfl
  · exact body_unmarked green
  · exact legible.span_text_unmarked inSpans

/-- Marks of another colour are said nowhere: what stands between two names has a blank. -/
theorem not_mem_open_pieces {body : List Char} (differ : body ≠ bodyOf green) (noBlank : ' ' ∉ body) :
    body ∉ openPieces enabled phrase.spans := by
  intro member
  obtain ⟨span, inSpans, inPieces⟩ := List.mem_flatMap.mp member
  simp only [List.mem_cons, List.not_mem_nil, or_false] at inPieces
  rcases inPieces with rfl | rfl
  · exact differ rfl
  · exact noBlank (List.mem_append_right _ (legible.spaced span inSpans))

theorem shown_unmarked : Unmarked (phrase.text (shown enabled)) := by
  refine unmarked_append.mpr ⟨legible.start, fun bang => ?_⟩
  obtain ⟨span, inSpans, inSpan⟩ := List.mem_flatMap.mp bang
  have painted := shown_mark_unmarked enabled green
  have text : Unmarked (spanText enabled span) := legible.span_text_unmarked inSpans
  refine unmarked_append.mpr ⟨painted, text⟩ ?_
  simpa [shown, spanText] using inSpan

/-- A message without exclamation marks but for those of its highlighted names, none of
which is the inside of the reset mark, shows its names as they are, between escapes on
a colour terminal. -/
theorem replace_marks_highlighted (others : ∀ span ∈ phrase.spans, span.name ≠ bodyOf .reset) :
    replaceMarks enabled (phrase.text highlighted) = phrase.text (shown enabled) := by
  obtain ⟨rest, order⟩ : ∃ rest, marks =
      .reset :: .paint .regular .black :: .paint .regular .red :: green :: rest := ⟨_, rfl⟩
  have behind : ∀ mark, bodyOf mark ≠ bodyOf green → ' ' ∉ bodyOf mark →
      replaceMark enabled (joined (phrase.start :: openPieces enabled phrase.spans)) mark =
        joined (phrase.start :: openPieces enabled phrase.spans) := by
    intro mark differ noBlank
    rw [replace_mark_joined enabled mark legible.start legible.open_pieces_unmarked,
      substitute_absent (legible.not_mem_open_pieces differ noBlank)]
  have message : phrase.text highlighted = joined (phrase.start :: piecesOf phrase.spans) :=
    highlighted_joined.symm
  calc marks.foldl (replaceMark enabled) (phrase.text highlighted)
      = (.paint .regular .black :: .paint .regular .red :: green :: rest).foldl (replaceMark enabled)
          (joined (phrase.start :: openPieces enabled phrase.spans)) := by
        rw [order, message, List.foldl_cons,
          replace_mark_joined enabled _ legible.start legible.pieces_unmarked, substitute_reset others]
    _ = rest.foldl (replaceMark enabled) (phrase.text (shown enabled)) := by
        rw [List.foldl_cons, behind _ (by decide) (by decide), List.foldl_cons,
          behind _ (by decide) (by decide), List.foldl_cons,
          replace_mark_joined enabled _ legible.start legible.open_pieces_unmarked, substitute_green,
          joined_single]
    _ = phrase.text (shown enabled) := replace_marks_unmarked enabled rest legible.shown_unmarked

end Phrase.Legible

end CommandPlan.PaintedNames
