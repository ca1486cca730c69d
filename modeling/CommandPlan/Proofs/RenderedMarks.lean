import CommandPlan.Proofs.StrippedMarks

/-! Marks turned into escapes. An escape has no exclamation mark, and no mark has the
character that an escape starts with. So a turn makes no mark, whatever stands around
the one that it replaces, and what is left has had its turn in vain. Where no two marks
share an exclamation mark, a turn takes nothing from the marks of the later ones
either, and all turns together are one pass over the text. -/
namespace CommandPlan.RenderedMarks
open Markup MarkPieces StrippedMarks

/-- The mark is written at the place. -/
def WrittenAt (text : List Char) (place : Nat) (mark : Mark) : Prop :=
  mark.text <+: text.drop place

instance {text : List Char} {place : Nat} {mark : Mark} : Decidable (WrittenAt text place mark) :=
  inferInstanceAs (Decidable (_ <+: _))

/-- No two marks of the text have a character in common. -/
def MarksApart (text : List Char) : Prop :=
  ∀ first mark, WrittenAt text first mark → ∀ later other, WrittenAt text later other → first < later →
    first + mark.text.length ≤ later

/-- One pass that turns each mark into its own escape and keeps all else; `skip` counts
the characters of the current mark that are still to be passed. -/
def renderFrom (skip : Nat) : List Char → List Char
  | [] => []
  | c :: rest =>
    match skip with
    | skip + 1 => renderFrom skip rest
    | 0 =>
      match marks.find? (·.text.isPrefixOf (c :: rest)) with
      | some mark => mark.escape ++ renderFrom (mark.text.length - 1) rest
      | none => c :: renderFrom 0 rest

def render (text : List Char) : List Char :=
  renderFrom 0 text

/-- The escape for a piece that one of the marks says. -/
def escapeOf (turns : List Mark) (piece : List Char) : Option (List Char) :=
  (turns.find? (bodyOf · = piece)).map Mark.escape

/-- The pieces once the first one is settled: wherever a later one has an escape, it joins
its neighbours. -/
def renderPieces (shown : List Char → Option (List Char)) (first : List Char) : List (List Char) → List (List Char)
  | [] => [first]
  | [last] => [first, last]
  | piece :: next :: rest =>
    match shown piece with
    | some escape => renderPieces shown (first ++ escape ++ next) rest
    | none => first :: renderPieces shown piece (next :: rest)

/-- No two marks stand side by side among the pieces behind the first; the last piece is
not behind an exclamation mark of its own. -/
def Sparse : List (List Char) → Prop
  | piece :: next :: last :: rest =>
    (∀ mark other, bodyOf mark = piece → bodyOf other ≠ next) ∧ Sparse (next :: last :: rest)
  | _ => True

variable {mark removed : Mark} {text first piece next tail : List Char} {pieces rest : List (List Char)}
variable {turns : List Mark} {shown : List Char → Option (List Char)}

/-! ## Pieces and their escapes -/

theorem escape_starts (mark : Mark) : '\x1b' ∈ mark.escape := by
  cases mark <;> simp [Mark.escape]

theorem body_without_escape (mark : Mark) : '\x1b' ∉ bodyOf mark := by
  cases mark with
  | reset => decide
  | paint style colour => cases style <;> cases colour <;> decide

theorem escapes_start (turns : List Mark) (piece escape : List Char) (given : escapeOf turns piece = some escape) :
    '\x1b' ∈ escape := by
  obtain ⟨mark, -, rfl⟩ := Option.map_eq_some_iff.mp given
  exact escape_starts mark

theorem escape_of_unmarked {escape : List Char} (given : escapeOf turns piece = some escape) : Unmarked escape := by
  obtain ⟨mark, -, rfl⟩ := Option.map_eq_some_iff.mp given
  exact escape_unmarked mark

theorem escape_of_none_iff : escapeOf turns piece = none ↔ ∀ mark ∈ turns, bodyOf mark ≠ piece := by
  simp [escapeOf]

/-- A later turn has its escape where none of the earlier ones has. -/
theorem escape_of_concat (turns : List Mark) (removed : Mark) (piece : List Char) :
    escapeOf (turns ++ [removed]) piece =
      (escapeOf turns piece).or (if bodyOf removed = piece then some removed.escape else none) := by
  unfold escapeOf
  rw [List.find?_append, Option.map_or]
  by_cases same : bodyOf removed = piece <;> simp [same]

theorem render_hit {escape : List Char} (given : shown piece = some escape) :
    renderPieces shown first (piece :: next :: rest) = renderPieces shown (first ++ escape ++ next) rest := by
  rw [renderPieces, given]

theorem render_miss (none : rest ≠ [] → shown piece = none) :
    renderPieces shown first (piece :: rest) = first :: renderPieces shown piece rest := by
  cases rest with
  | nil => rfl
  | cons next rest => rw [renderPieces, none (List.cons_ne_nil next rest)]

theorem render_nothing (none : ∀ piece, shown piece = none) : renderPieces shown first pieces = first :: pieces := by
  induction pieces generalizing first with
  | nil => rfl
  | cons piece rest ih => rw [render_miss fun _ => none piece, ih]

/-- What stands in front of the first piece stays there. -/
theorem render_behind (before : List Char) : renderPieces shown (before ++ first) pieces =
    (renderPieces shown first pieces).modifyHead (before ++ ·) := by
  fun_induction renderPieces shown first pieces with
  | case1 first => rfl
  | case2 first last => rfl
  | case3 first piece next rest escape given ih => rw [render_hit given, ← ih]; simp
  | case4 first piece next rest none ih => rw [render_miss fun _ => none]; rfl

/-- To substitute one mark is to render it alone. -/
theorem substitute_renders (body replacement first : List Char) (pieces : List (List Char)) :
    substitute body replacement first pieces =
      renderPieces (fun piece => if body = piece then some replacement else none) first pieces := by
  fun_induction substitute body replacement first pieces with
  | case1 first => rfl
  | case2 first last => rfl
  | case3 first next rest ih => rw [render_hit (if_pos rfl), ih]
  | case4 first piece next rest other ih => rw [render_miss fun _ => if_neg (Ne.symm other), ih]

/-- The first piece goes on with an escape or not at all. -/
theorem render_head (escapes : ∀ piece escape, shown piece = some escape → '\x1b' ∈ escape)
    (first : List Char) (pieces : List (List Char)) : ∃ more later, renderPieces shown first pieces =
      (first ++ more) :: later ∧ (more = [] ∨ '\x1b' ∈ more) := by
  fun_induction renderPieces shown first pieces with
  | case1 first => exact ⟨[], [], by simp⟩
  | case2 first last => exact ⟨[], [last], by simp⟩
  | case3 first piece next rest escape given ih =>
    obtain ⟨more, later, shape, -⟩ := ih
    refine ⟨escape ++ next ++ more, later, by simpa using shape, .inr ?_⟩
    simp [escapes piece escape given]
  | case4 first piece next rest none ih => exact ⟨[], renderPieces shown piece (next :: rest), by simp, .inl rfl⟩

theorem render_ne_nil (shown : List Char → Option (List Char)) (first : List Char) (pieces : List (List Char)) :
    renderPieces shown first pieces ≠ [] := by
  fun_induction renderPieces shown first pieces with
  | case1 | case2 | case4 => simp
  | case3 first piece next rest escape given ih => exact ih

/-- A piece between two exclamation marks that has no escape in it was there before, and
has none of its own. -/
theorem render_keeps (escapes : ∀ piece escape, shown piece = some escape → '\x1b' ∈ escape)
    (member : piece ∈ inner (renderPieces shown first pieces)) (plain : '\x1b' ∉ piece) :
    piece ∈ pieces.dropLast ∧ shown piece = none := by
  fun_induction renderPieces shown first pieces with
  | case1 first => exact absurd member List.not_mem_nil
  | case2 first last => exact absurd member List.not_mem_nil
  | case3 first said next rest escape given ih =>
    obtain ⟨within, none⟩ := ih member
    refine ⟨?_, none⟩
    have more : rest ≠ [] := by
      rintro rfl
      exact List.not_mem_nil within
    rw [List.dropLast_cons_of_ne_nil (by simp), List.dropLast_cons_of_ne_nil more]
    exact List.mem_cons_of_mem _ (List.mem_cons_of_mem _ within)
  | case4 first said next rest none ih =>
    -- Either it is the piece that goes on with an escape or not at all, or one behind it.
    obtain ⟨more, later, shape, joins⟩ := render_head escapes said (next :: rest)
    rw [shape] at member ih
    rw [List.dropLast_cons_of_ne_nil (by simp)]
    cases later with
    | nil => exact absurd member List.not_mem_nil
    | cons other later =>
      rw [StrippedMarks.inner, List.tail_cons, List.dropLast_cons_of_ne_nil (by simp)] at member
      rcases List.mem_cons.mp member with rfl | behind
      · rcases joins with rfl | inMore
        · rw [List.append_nil] at *
          exact ⟨List.mem_cons_self, none⟩
        · exact absurd (List.mem_append_right said inMore) plain
      · obtain ⟨within, none⟩ := ih behind
        exact ⟨List.mem_cons_of_mem _ within, none⟩

/-! ## No marks are left -/

/-- A turn makes no mark, and leaves none of its own. -/
theorem occurs_rendered (occurs : Occurs mark (replaceMark true text removed)) : Occurs mark text ∧ mark ≠ removed := by
  obtain ⟨first, rest, split⟩ := List.exists_cons_of_ne_nil (List.splitOn_ne_nil '!' text)
  obtain ⟨firstUnmarked, restUnmarked⟩ : Unmarked first ∧ ∀ piece ∈ rest, Unmarked piece := by
    simpa only [split, List.forall_mem_cons] using split_unmarked text
  have replaced : replaceMark true text removed = joined (substitute (bodyOf removed) removed.escape first rest) := by
    rw [← joined_split text, split]
    exact replace_mark_joined true removed firstUnmarked restUnmarked
  rw [occurs_iff, replaced, split_joined (substitute_unmarked (escape_unmarked removed) firstUnmarked restUnmarked)
    substitute_ne_nil, substitute_renders] at occurs
  obtain ⟨within, none⟩ := render_keeps (by simp [escape_starts]) occurs (body_without_escape mark)
  refine ⟨?_, fun same => ?_⟩
  · rw [occurs_iff, split]
    exact within
  · simp [same] at none

theorem not_occurs_rendered (hadTurn : mark ∈ turns) : ¬ Occurs mark (turns.foldl (replaceMark true) text) := by
  induction turns using List.reverseRecOn with
  | nil => exact absurd hadTurn List.not_mem_nil
  | append_singleton turns last ih =>
    rw [List.foldl_append, List.foldl_cons, List.foldl_nil]
    intro occurs
    obtain ⟨before, differs⟩ := occurs_rendered occurs
    have earlier : mark ∈ turns := by simpa [differs] using hadTurn
    exact ih earlier before

/-- Where there is no mark, there is nothing to do. -/
theorem replace_marks_none (enabled : Bool) (none : ∀ mark ∈ turns, ¬ Occurs mark text) :
    turns.foldl (replaceMark enabled) text = text := by
  induction turns with
  | nil => rfl
  | cons turn turns ih =>
    obtain ⟨absent, later⟩ := List.forall_mem_cons.mp none
    have same : replaceMark enabled text turn = text := replace_absent absent
    rw [List.foldl_cons, same, ih later]

/-! ## One pass -/

theorem render_here (c : Char) : renderFrom 0 (c :: tail) =
    match marks.find? (·.text.isPrefixOf (c :: tail)) with
    | some mark => mark.escape ++ renderFrom (mark.text.length - 1) tail
    | none => c :: renderFrom 0 tail :=
  rfl

theorem render_none {c : Char} (none : ∀ mark : Mark, mark.text.isPrefixOf (c :: tail) = false) :
    renderFrom 0 (c :: tail) = c :: renderFrom 0 tail := by
  have unfound : marks.find? (·.text.isPrefixOf (c :: tail)) = .none := by simp [none]
  rw [render_here, unfound]

/-- Up to the next exclamation mark all is kept. -/
theorem render_plain (unmarked : Unmarked first) : renderFrom 0 (first ++ tail) = first ++ renderFrom 0 tail := by
  induction first with
  | nil => rfl
  | cons c first ih =>
    obtain ⟨notHere, later⟩ : '!' ≠ c ∧ Unmarked first := by simpa [Unmarked] using unmarked
    have skips : ∀ mark : Mark, mark.text.isPrefixOf (c :: (first ++ tail)) = false := by
      intro mark
      simp [mark_text, written, List.isPrefixOf, notHere]
    rw [List.cons_append, render_none skips, ih later, List.cons_append]

theorem render_skip (passed : List Char) : renderFrom passed.length (passed ++ tail) = renderFrom 0 tail := by
  induction passed with
  | nil => rfl
  | cons c passed ih => exact ih

theorem render_unmarked (unmarked : Unmarked first) : renderFrom 0 first = first := by
  have whole : renderFrom 0 (first ++ []) = first ++ [] := render_plain unmarked
  rwa [List.append_nil] at whole

/-- The mark that is written at an exclamation mark is the one that the piece behind it says. -/
theorem find_written (pieceUnmarked : Unmarked piece) :
    marks.find? (·.text.isPrefixOf ('!' :: (piece ++ '!' :: tail))) = marks.find? (bodyOf · = piece) := by
  refine congrArg (marks.find? ·) (funext fun mark => ?_)
  rw [Bool.eq_iff_iff, mark_text, written_prefix_iff (body_unmarked mark) pieceUnmarked, decide_eq_true_eq]
  exact eq_comm

/-- The pass is a walk over the pieces. -/
theorem render_joined (firstUnmarked : Unmarked first) (unmarked : ∀ piece ∈ pieces, Unmarked piece) :
    render (joined (first :: pieces)) = joined (renderPieces (escapeOf marks) first pieces) := by
  unfold render
  fun_induction renderPieces (escapeOf marks) first pieces with
  | case1 first => rw [joined_single, render_unmarked firstUnmarked]
  | case2 first last =>
    have lastUnmarked := unmarked last List.mem_cons_self
    have skips : ∀ mark : Mark, mark.text.isPrefixOf ('!' :: last) = false := by
      intro mark
      rw [mark_text, not_written_last lastUnmarked]
    rw [joined_cons (by simp), joined_single, render_plain firstUnmarked, render_none skips,
      render_unmarked lastUnmarked]
  | case3 first piece next rest escape given ih =>
    obtain ⟨pieceUnmarked, nextUnmarked, restUnmarked⟩ :
        Unmarked piece ∧ Unmarked next ∧ ∀ piece ∈ rest, Unmarked piece := by
      simpa only [List.forall_mem_cons] using unmarked
    have headUnmarked := unmarked_append.mpr ⟨firstUnmarked, escape_of_unmarked given⟩
    obtain ⟨mark, found, rfl⟩ := Option.map_eq_some_iff.mp given
    obtain rfl : bodyOf mark = piece := by simpa using List.find?_some found
    have passed : renderFrom (mark.text.length - 1) (bodyOf mark ++ '!' :: joined (next :: rest)) =
        renderFrom 0 (joined (next :: rest)) := by
      have skip : renderFrom (bodyOf mark ++ ['!']).length (bodyOf mark ++ ['!'] ++ joined (next :: rest)) =
          renderFrom 0 (joined (next :: rest)) := render_skip (bodyOf mark ++ ['!'])
      rw [mark_text, written]
      simpa using skip
    rw [← ih (unmarked_append.mpr ⟨headUnmarked, nextUnmarked⟩) restUnmarked, joined_cons (by simp),
      joined_cons (by simp), render_plain firstUnmarked, render_here, find_written pieceUnmarked, found]
    dsimp only
    rw [passed, joined_prefix, render_plain headUnmarked, List.append_assoc]
  | case4 first piece next rest none ih =>
    obtain ⟨pieceUnmarked, restUnmarked⟩ := List.forall_mem_cons.mp unmarked
    have unfound : marks.find? (bodyOf · = piece) = .none := Option.map_eq_none_iff.mp none
    rw [joined_cons (by simp), joined_cons (by simp), render_plain firstUnmarked, render_here,
      find_written pieceUnmarked, unfound]
    dsimp only
    rw [← joined_cons (by simp), ih pieceUnmarked restUnmarked, joined_cons (render_ne_nil _ _ _)]

/-! ## Turns and the pass -/

theorem Sparse.later (sparse : Sparse (piece :: pieces)) : Sparse pieces := by
  match pieces with
  | [] | [_] => trivial
  | _ :: _ :: _ => exact sparse.2

/-- One more turn on a sparse text: all turns so far are one walk over the pieces. -/
theorem render_turn (turns : List Mark) (removed : Mark) : ∀ (first : List Char) (pieces : List (List Char)),
    Sparse pieces → ∀ head later, renderPieces (escapeOf turns) first pieces = head :: later →
      substitute (bodyOf removed) removed.escape head later = renderPieces (escapeOf (turns ++ [removed])) first pieces
  | first, [], _, head, later, shape => by
    obtain ⟨rfl, rfl⟩ := List.cons.inj shape
    rfl
  | first, [last], _, head, later, shape => by
    obtain ⟨rfl, rfl⟩ := List.cons.inj shape
    rfl
  | first, piece :: next :: rest, sparse, head, later, shape => by
    have combined := escape_of_concat turns removed piece
    cases given : escapeOf turns piece with
    | some escape =>
      rw [given, Option.some_or] at combined
      rw [render_hit given] at shape
      rw [render_hit combined]
      exact render_turn turns removed _ rest sparse.later.later head later shape
    | none =>
      rw [given, Option.none_or] at combined
      rw [render_miss fun _ => given] at shape
      obtain ⟨rfl, rfl⟩ := List.cons.inj shape
      by_cases said : bodyOf removed = piece
      · -- The piece behind is no mark, so it stands alone when the turn comes to this one.
        subst said
        have single : rest ≠ [] → escapeOf turns next = none := by
          intro more
          obtain ⟨last, rest, rfl⟩ := List.exists_cons_of_ne_nil more
          exact escape_of_none_iff.mpr fun mark _ => sparse.1 removed mark rfl
        obtain ⟨here, behind, walk⟩ := List.exists_cons_of_ne_nil (render_ne_nil (escapeOf turns) next rest)
        have turned := render_turn turns removed next rest sparse.later.later here behind walk
        rw [if_pos rfl] at combined
        rw [render_miss single, walk, substitute_hit, render_hit combined, render_behind, ← turned,
          substitute_renders, substitute_renders, render_behind]
      · obtain ⟨more, behind, walk, joins⟩ := render_head (escapes_start turns) piece (next :: rest)
        have differs : piece ++ more ≠ bodyOf removed := by
          rcases joins with rfl | inMore
          · rw [List.append_nil]
            exact Ne.symm said
          · intro same
            exact body_without_escape removed (same ▸ List.mem_append_right piece inMore)
        rw [if_neg said] at combined
        rw [walk, substitute_miss differs, render_miss fun _ => combined]
        exact congrArg (first :: ·) (render_turn turns removed piece (next :: rest) sparse.later _ behind walk)

theorem render_unmarked_pieces (turns : List Mark) (firstUnmarked : Unmarked first)
    (unmarked : ∀ piece ∈ pieces, Unmarked piece) :
    ∀ piece ∈ renderPieces (escapeOf turns) first pieces, Unmarked piece := by
  fun_induction renderPieces (escapeOf turns) first pieces with
  | case1 first => simpa using firstUnmarked
  | case2 first last => simpa using ⟨firstUnmarked, unmarked last List.mem_cons_self⟩
  | case3 first piece next rest escape given ih =>
    obtain ⟨-, nextUnmarked, restUnmarked⟩ : _ ∧ Unmarked next ∧ ∀ piece ∈ rest, Unmarked piece := by
      simpa only [List.forall_mem_cons] using unmarked
    have headUnmarked := unmarked_append.mpr ⟨firstUnmarked, escape_of_unmarked given⟩
    exact ih (unmarked_append.mpr ⟨headUnmarked, nextUnmarked⟩) restUnmarked
  | case4 first piece next rest none ih =>
    obtain ⟨pieceUnmarked, restUnmarked⟩ := List.forall_mem_cons.mp unmarked
    exact List.forall_mem_cons.mpr ⟨firstUnmarked, ih pieceUnmarked restUnmarked⟩

/-- On a sparse text any number of turns is one walk over the pieces. -/
theorem turns_joined (sparse : Sparse pieces) (firstUnmarked : Unmarked first)
    (unmarked : ∀ piece ∈ pieces, Unmarked piece) (turns : List Mark) :
    turns.foldl (replaceMark true) (joined (first :: pieces)) = joined (renderPieces (escapeOf turns) first pieces) := by
  induction turns using List.reverseRecOn with
  | nil =>
    have none : ∀ piece, escapeOf [] piece = none := fun _ => rfl
    rw [List.foldl_nil, render_nothing none]
  | append_singleton turns removed ih =>
    obtain ⟨head, later, walk⟩ := List.exists_cons_of_ne_nil (render_ne_nil (escapeOf turns) first pieces)
    obtain ⟨headUnmarked, laterUnmarked⟩ : Unmarked head ∧ ∀ piece ∈ later, Unmarked piece := by
      have all := render_unmarked_pieces turns firstUnmarked unmarked
      rwa [walk, List.forall_mem_cons] at all
    rw [List.foldl_append, ih, List.foldl_cons, List.foldl_nil, walk,
      replace_mark_joined true removed headUnmarked laterUnmarked]
    exact congrArg joined (render_turn turns removed first pieces sparse head later walk)

/-! ## Marks that stand apart -/

theorem body_length_mark (mark : Mark) : mark.text.length = 8 := by
  rw [mark_text, written, List.length_cons, List.length_append, body_length]
  rfl

theorem written_at_inside {place : Nat} (here : WrittenAt text place mark) : place < text.length := by
  have fits := here.length_le
  rw [body_length_mark, List.length_drop] at fits
  omega

theorem marks_apart_iff : MarksApart text ↔ ∀ first < text.length, ∀ mark ∈ marks, WrittenAt text first mark →
    ∀ later < text.length, ∀ other ∈ marks, WrittenAt text later other → first < later → first + 8 ≤ later := by
  constructor
  · intro apart first _ mark _ here later _ other _ there less
    rw [← body_length_mark mark]
    exact apart first mark here later other there less
  · intro apart first mark here later other there less
    rw [body_length_mark]
    exact apart first (written_at_inside here) mark (mem_marks mark) here later (written_at_inside there) other
      (mem_marks other) there less

instance : DecidablePred MarksApart :=
  fun _ => decidable_of_iff _ marks_apart_iff.symm

theorem MarksApart.behind {before : List Char} (apart : MarksApart (before ++ text)) : MarksApart text := by
  intro first mark here later other there less
  have bound := apart (before.length + first) mark (by rwa [WrittenAt, List.drop_length_add_append])
    (before.length + later) other (by rwa [WrittenAt, List.drop_length_add_append]) (by omega)
  omega

theorem written_at_start (mark : Mark) (tail : List Char) : WrittenAt (written (bodyOf mark) ++ tail) 0 mark := by
  rw [WrittenAt, mark_text]
  exact ⟨tail, rfl⟩

/-- Marks that stand apart have a piece between them that is none. -/
theorem sparse_of_apart (apart : MarksApart (joined (first :: pieces))) : Sparse pieces := by
  induction pieces generalizing first with
  | nil => trivial
  | cons piece pieces ih =>
    rw [joined_cons (by simp)] at apart
    match pieces with
    | [] | [_] => trivial
    | next :: last :: rest =>
      have fromPiece : MarksApart (joined (piece :: next :: last :: rest)) := by
        rw [← List.singleton_append] at apart
        exact apart.behind.behind
      refine ⟨?_, ih fromPiece⟩
      rintro mark other rfl rfl
      -- The exclamation mark between them is the last of the one and the first of the other.
      have text : '!' :: joined (bodyOf mark :: bodyOf other :: last :: rest) =
          written (bodyOf mark) ++ (bodyOf other ++ '!' :: joined (last :: rest)) := by
        rw [joined_cons (by simp), joined_cons (by simp)]
        simp [written]
      have fromMark := apart.behind
      rw [text] at fromMark
      have there : WrittenAt (written (bodyOf mark) ++ (bodyOf other ++ '!' :: joined (last :: rest))) 7 other := by
        have shape : written (bodyOf mark) ++ (bodyOf other ++ '!' :: joined (last :: rest)) =
            ('!' :: bodyOf mark) ++ (written (bodyOf other) ++ joined (last :: rest)) := by
          simp [written]
        have length : ('!' :: bodyOf mark).length = 7 := by rw [List.length_cons, body_length]
        rw [shape, WrittenAt, List.drop_left' length]
        exact written_at_start other _
      have bound := fromMark 0 mark (written_at_start mark _) 7 other there (by omega)
      rw [body_length_mark] at bound
      omega

/-- With colours no mark is left in a text, so a second pass of either kind changes
nothing; and where no two marks overlap, all turns together are one pass that turns each
mark into its own escape. -/
theorem rendered_for_good (text : String) :
    (∀ mark, ¬ Occurs mark (colorize true text).toList) ∧
      (∀ enabled, colorize enabled (colorize true text) = colorize true text) ∧
      (MarksApart text.toList → colorize true text = String.ofList (render text.toList)) := by
  have shown : ∀ enabled, ∀ other : String,
      (colorize enabled other).toList = marks.foldl (replaceMark enabled) other.toList := by
    intro enabled other
    rw [colorize, String.toList_ofList, replaceMarks]
  have none : ∀ mark, ¬ Occurs mark (colorize true text).toList := by
    intro mark
    rw [shown]
    exact not_occurs_rendered (mem_marks mark)
  refine ⟨none, fun enabled => ?_, fun apart => ?_⟩
  · rw [← String.toList_inj, shown enabled, replace_marks_none enabled fun mark _ => none mark]
  · obtain ⟨first, rest, split⟩ := List.exists_cons_of_ne_nil (List.splitOn_ne_nil '!' text.toList)
    obtain ⟨firstUnmarked, restUnmarked⟩ : Unmarked first ∧ ∀ piece ∈ rest, Unmarked piece := by
      simpa only [split, List.forall_mem_cons] using split_unmarked text.toList
    have pieces : joined (first :: rest) = text.toList := by rw [← split, joined_split]
    rw [← pieces] at apart
    rw [← String.toList_inj, shown true, String.toList_ofList, ← pieces,
      turns_joined (sparse_of_apart apart) firstUnmarked restUnmarked marks, render_joined firstUnmarked restUnmarked]

theorem rendered_status : MarksApart "!txtgrn!ok!txtrst! !bldred!no!txtrst!".toList ∧
    colorize true "!txtgrn!ok!txtrst! !bldred!no!txtrst!" = "\x1b[0;32mok\x1b[0m \x1b[1;31mno\x1b[0m" := by
  have apart : MarksApart "!txtgrn!ok!txtrst! !bldred!no!txtrst!".toList := by decide +kernel
  obtain ⟨-, -, onePass⟩ := rendered_for_good "!txtgrn!ok!txtrst! !bldred!no!txtrst!"
  refine ⟨apart, (onePass apart).trans ?_⟩
  decide +kernel

/-- Of two marks with an exclamation mark in common, the one whose turn is first has it,
and one pass would give it to the one that stands first. -/
example : colorize true "!txtred!txtrst!" = "!txtred\x1b[0m" ∧
    render "!txtred!txtrst!".toList = "\x1b[0;31mtxtrst!".toList := by
  decide +kernel

end CommandPlan.RenderedMarks
