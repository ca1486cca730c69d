import CommandPlan.Markup

/-! Texts cut at their exclamation marks. A mark is a piece of the text between two of
them, so replacing one is a walk over the pieces: where a piece is what the mark says,
both exclamation marks go with it, and its neighbours become one piece. The walk goes
on behind, so no exclamation mark serves two marks. -/
namespace CommandPlan.MarkPieces
open Markup

/-- A piece has no exclamation mark. -/
def Unmarked (piece : List Char) : Prop :=
  '!' ∉ piece

/-- The text of some pieces. -/
def joined (pieces : List (List Char)) : List Char :=
  ['!'].intercalate pieces

/-- How a mark is written that says the given. -/
def written (body : List Char) : List Char :=
  '!' :: (body ++ ['!'])

/-- What a mark says between its exclamation marks. -/
def bodyOf : Mark → List Char
  | .reset => ['t', 'x', 't', 'r', 's', 't']
  | .paint style colour => style.code.toList ++ colour.code.toList

/-- The pieces once the first one is settled: wherever a later one is what the mark
says, the replacement joins its neighbours. -/
def substitute (body replacement first : List Char) : List (List Char) → List (List Char)
  | [] => [first]
  | [last] => [first, last]
  | piece :: next :: rest =>
    if piece = body then substitute body replacement (first ++ replacement ++ next) rest
    else first :: substitute body replacement piece (next :: rest)

variable {body replacement first piece tail : List Char} {pieces rest : List (List Char)}

/-! ## Texts -/

theorem joined_single : joined [first] = first :=
  List.intercalate_singleton

theorem joined_cons (some_ : pieces ≠ []) : joined (first :: pieces) = first ++ '!' :: joined pieces := by
  simp [joined, List.intercalate_cons_of_ne_nil some_]

theorem joined_prefix (next : List Char) : joined ((first ++ next) :: rest) = first ++ joined (next :: rest) := by
  cases rest with
  | nil => rw [joined_single, joined_single]
  | cons other rest =>
    have more := List.cons_ne_nil other rest
    rw [joined_cons more, joined_cons more, List.append_assoc]

theorem unmarked_append {after : List Char} : Unmarked (first ++ after) ↔ Unmarked first ∧ Unmarked after := by
  simp [Unmarked]

theorem mark_text (mark : Mark) : mark.text = written (bodyOf mark) := by
  cases mark with
  | reset => decide
  | paint style colour =>
    change ['!'] ++ style.code.toList ++ colour.code.toList ++ ['!'] = _
    simp [written, bodyOf]

theorem body_unmarked (mark : Mark) : Unmarked (bodyOf mark) := by
  cases mark with
  | reset => unfold Unmarked; decide
  | paint style colour => cases style <;> cases colour <;> (unfold Unmarked; decide)

theorem escape_unmarked (mark : Mark) : Unmarked mark.escape := by
  cases mark with
  | reset => unfold Unmarked; decide
  | paint style colour => cases style <;> cases colour <;> (unfold Unmarked; decide)

/-- The first piece of a text is what stands before its first exclamation mark. -/
theorem first_piece_unique {other after : List Char} (pieceUnmarked : Unmarked piece)
    (otherUnmarked : Unmarked other) (same : piece ++ '!' :: tail = other ++ '!' :: after) : piece = other := by
  have cut := congrArg (List.splitOn '!') same
  rw [List.splitOn_append_cons_self_of_not_mem pieceUnmarked,
    List.splitOn_append_cons_self_of_not_mem otherUnmarked] at cut
  exact (List.cons.inj cut).1

theorem written_prefix_iff (bodyUnmarked : Unmarked body) (pieceUnmarked : Unmarked piece) :
    (written body).isPrefixOf ('!' :: (piece ++ '!' :: tail)) = true ↔ piece = body := by
  rw [written, List.isPrefixOf_iff_prefix, List.cons_prefix_cons]
  constructor
  · rintro ⟨-, after, split⟩
    rw [List.append_assoc, List.singleton_append] at split
    exact first_piece_unique pieceUnmarked bodyUnmarked split.symm
  · rintro rfl
    exact ⟨rfl, tail, by simp⟩

/-- Behind the last exclamation mark no mark is written. -/
theorem not_written_last (pieceUnmarked : Unmarked piece) : (written body).isPrefixOf ('!' :: piece) = false := by
  rw [Bool.eq_false_iff, Ne, written, List.isPrefixOf_iff_prefix, List.cons_prefix_cons]
  rintro ⟨-, within⟩
  exact pieceUnmarked (within.subset (by simp))

/-! ## One mark -/

theorem replace_here {pattern : List Char} (c : Char) :
    replaceFrom pattern replacement 0 (c :: tail) =
      if pattern.isPrefixOf (c :: tail) then
        replacement ++ replaceFrom pattern replacement (pattern.length - 1) tail
      else c :: replaceFrom pattern replacement 0 tail :=
  rfl

/-- Up to the next exclamation mark nothing is replaced. -/
theorem replace_behind (unmarked : Unmarked first) :
    replaceFrom (written body) replacement 0 (first ++ tail) =
      first ++ replaceFrom (written body) replacement 0 tail := by
  induction first with
  | nil => rfl
  | cons c first ih =>
    obtain ⟨notHere, later⟩ : '!' ≠ c ∧ Unmarked first := by simpa [Unmarked] using unmarked
    have skips : (written body).isPrefixOf (c :: (first ++ tail)) = false := by
      simp [written, List.isPrefixOf, notHere]
    rw [List.cons_append, replace_here, skips, if_neg Bool.false_ne_true, ih later, List.cons_append]

/-- The rest of an occurrence is passed over. -/
theorem replace_skip {pattern : List Char} (passed : List Char) :
    replaceFrom pattern replacement passed.length (passed ++ tail) =
      replaceFrom pattern replacement 0 tail := by
  induction passed with
  | nil => rfl
  | cons c passed ih => exact ih

theorem replace_unmarked (unmarked : Unmarked first) :
    replaceFrom (written body) replacement 0 first = first := by
  have whole : replaceFrom (written body) replacement 0 (first ++ []) = first ++ [] := replace_behind unmarked
  rwa [List.append_nil] at whole

theorem replace_written :
    replaceFrom (written body) replacement 0 (written body ++ tail) =
      replacement ++ replaceFrom (written body) replacement 0 tail := by
  have here : (written body).isPrefixOf (written body ++ tail) = true := by simp
  have passed : replaceFrom (written body) replacement (body ++ ['!']).length (body ++ ['!'] ++ tail) =
      replaceFrom (written body) replacement 0 tail := replace_skip (body ++ ['!'])
  rw [written, List.cons_append] at here ⊢
  rw [replace_here, if_pos here]
  exact congrArg (replacement ++ ·) passed

theorem substitute_hit (next : List Char) : substitute body replacement first (body :: next :: rest) =
    substitute body replacement (first ++ replacement ++ next) rest := by
  rw [substitute, if_pos rfl]

theorem substitute_miss (other : piece ≠ body) :
    substitute body replacement first (piece :: rest) = first :: substitute body replacement piece rest := by
  cases rest with
  | nil => rfl
  | cons next rest => rw [substitute, if_neg other]

theorem substitute_ne_nil : substitute body replacement first pieces ≠ [] := by
  fun_induction substitute body replacement first pieces with
  | case1 | case2 | case4 => simp
  | case3 first next rest ih => exact ih

theorem substitute_unmarked (replacementUnmarked : Unmarked replacement)
    (firstUnmarked : Unmarked first) (unmarked : ∀ piece ∈ pieces, Unmarked piece) :
    ∀ piece ∈ substitute body replacement first pieces, Unmarked piece := by
  fun_induction substitute body replacement first pieces with
  | case1 first => simpa using firstUnmarked
  | case2 first last => simpa using ⟨firstUnmarked, unmarked last List.mem_cons_self⟩
  | case3 first next rest ih =>
    obtain ⟨-, nextUnmarked, restUnmarked⟩ : _ ∧ Unmarked next ∧ ∀ piece ∈ rest, Unmarked piece := by
      simpa only [List.forall_mem_cons] using unmarked
    have headUnmarked := unmarked_append.mpr ⟨firstUnmarked, replacementUnmarked⟩
    exact ih (unmarked_append.mpr ⟨headUnmarked, nextUnmarked⟩) restUnmarked
  | case4 first piece next rest other ih =>
    obtain ⟨pieceUnmarked, restUnmarked⟩ := List.forall_mem_cons.mp unmarked
    exact List.forall_mem_cons.mpr ⟨firstUnmarked, ih pieceUnmarked restUnmarked⟩

/-- Replacing a mark in a text is substituting it among the pieces. -/
theorem replace_all_joined (bodyUnmarked : Unmarked body) (replacementUnmarked : Unmarked replacement)
    (firstUnmarked : Unmarked first) (unmarked : ∀ piece ∈ pieces, Unmarked piece) :
    replaceAll (written body) replacement (joined (first :: pieces)) =
      joined (substitute body replacement first pieces) := by
  unfold replaceAll
  fun_induction substitute body replacement first pieces with
  | case1 first => rw [joined_single, replace_unmarked firstUnmarked]
  | case2 first last =>
    have lastUnmarked := unmarked last List.mem_cons_self
    rw [joined_cons (by simp), joined_single, replace_behind firstUnmarked, replace_here,
      not_written_last lastUnmarked, if_neg Bool.false_ne_true, replace_unmarked lastUnmarked]
  | case3 first next rest ih =>
    obtain ⟨-, nextUnmarked, restUnmarked⟩ : _ ∧ Unmarked next ∧ ∀ piece ∈ rest, Unmarked piece := by
      simpa only [List.forall_mem_cons] using unmarked
    have headUnmarked := unmarked_append.mpr ⟨firstUnmarked, replacementUnmarked⟩
    have text : joined (first :: body :: next :: rest) = first ++ (written body ++ joined (next :: rest)) := by
      rw [joined_cons (by simp), joined_cons (by simp)]
      simp [written]
    rw [← ih (unmarked_append.mpr ⟨headUnmarked, nextUnmarked⟩) restUnmarked, text,
      replace_behind firstUnmarked, replace_written, joined_prefix, replace_behind headUnmarked,
      List.append_assoc]
  | case4 first piece next rest other ih =>
    obtain ⟨pieceUnmarked, restUnmarked⟩ := List.forall_mem_cons.mp unmarked
    have skips : (written body).isPrefixOf ('!' :: (piece ++ '!' :: joined (next :: rest))) = false := by
      rw [Bool.eq_false_iff, Ne, written_prefix_iff bodyUnmarked pieceUnmarked]
      exact other
    rw [joined_cons (by simp), joined_cons (by simp), replace_behind firstUnmarked, replace_here, skips,
      if_neg Bool.false_ne_true, ← joined_cons (by simp), ih pieceUnmarked restUnmarked,
      joined_cons substitute_ne_nil]

/-- What stands in the place of a mark. -/
def shownMark (enabled : Bool) (mark : Mark) : List Char :=
  if enabled then mark.escape else []

theorem shown_mark_unmarked (enabled : Bool) (mark : Mark) : Unmarked (shownMark enabled mark) := by
  unfold shownMark
  split
  · exact escape_unmarked mark
  · exact List.not_mem_nil

theorem replace_mark_joined (enabled : Bool) (mark : Mark) (firstUnmarked : Unmarked first)
    (unmarked : ∀ piece ∈ pieces, Unmarked piece) :
    replaceMark enabled (joined (first :: pieces)) mark =
      joined (substitute (bodyOf mark) (shownMark enabled mark) first pieces) := by
  rw [replaceMark, mark_text]
  exact replace_all_joined (body_unmarked mark) (shown_mark_unmarked enabled mark) firstUnmarked unmarked

/-- A mark that no piece says changes nothing. -/
theorem substitute_absent (absent : body ∉ pieces) :
    substitute body replacement first pieces = first :: pieces := by
  induction pieces generalizing first with
  | nil => rfl
  | cons piece rest ih =>
    have other : piece ≠ body := fun same => absent (same ▸ List.mem_cons_self)
    rw [substitute_miss other, ih (List.not_mem_of_not_mem_cons absent)]

/-- In a text without exclamation marks no mark is replaced. -/
theorem replace_marks_unmarked (enabled : Bool) (marks : List Mark) (unmarked : Unmarked first) :
    marks.foldl (replaceMark enabled) first = first := by
  induction marks with
  | nil => rfl
  | cons mark marks ih =>
    have same : replaceMark enabled (joined [first]) mark = joined [first] :=
      replace_mark_joined enabled mark unmarked (List.forall_mem_nil _)
    rw [joined_single] at same
    rw [List.foldl_cons, same, ih]

end CommandPlan.MarkPieces
