import Mathlib.Data.List.Induction
import CommandPlan.Proofs.MarkPieces

/-! What is left of the marks once they are taken out. Each mark has one turn, and a
turn goes through the text once: where it takes a mark out, the pieces around it run
together, and what they then say may be a mark whose turn is over. Every mark that
stays in a text was respelled so, and a second pass finds it. -/
namespace CommandPlan.StrippedMarks
open Markup MarkPieces

/-- The mark is written somewhere in the text. -/
def Occurs (mark : Mark) (text : List Char) : Prop :=
  mark.text <:+: text

instance {mark : Mark} {text : List Char} : Decidable (Occurs mark text) :=
  inferInstanceAs (Decidable (_ <:+: _))

/-- The text after the turns of some marks. -/
def strip (turns : List Mark) (text : List Char) : List Char :=
  turns.foldl (replaceMark false) text

/-- What stands in a list between its first item and its last. -/
def inner {α : Type} (items : List α) : List α :=
  items.tail.dropLast

/-- The pieces that run together as a mark is taken out: where a piece says the mark,
the piece behind it goes on with the run before it. -/
def runs (body : List Char) (run : List (List Char)) : List (List Char) → List (List (List Char))
  | [] => [run]
  | [last] => [run, [last]]
  | piece :: next :: rest =>
    if piece = body then runs body (run ++ [next]) rest else run :: runs body [piece] (next :: rest)

/-- The runs of a whole text. -/
def runsOf (removed : Mark) (text : List Char) : List (List (List Char)) :=
  match text.splitOn '!' with
  | [] => []
  | first :: rest => runs (bodyOf removed) [first] rest

/-- Taking out a mark makes another: two or more pieces run together and say it. -/
def Respells (removed mark : Mark) (text : List Char) : Prop :=
  ∃ run ∈ inner (runsOf removed text), 2 ≤ run.length ∧ run.flatten = bodyOf mark

/-- Taking out a mark leaves another in its place: a piece that says it runs together
with none. -/
def Keeps (removed mark : Mark) (text : List Char) : Prop :=
  [bodyOf mark] ∈ inner (runsOf removed text)

/-- The mark stays in the text through all of the turns. -/
def Outlasts (mark : Mark) : List Mark → List Char → Prop
  | [], _ => True
  | removed :: later, text => Keeps removed mark text ∧ Outlasts mark later (replaceMark false text removed)

/-- A turn no earlier than that of the mark respells it, and it stays from then on. -/
def LeftBehind (turns : List Mark) (mark : Mark) (text : List Char) : Prop :=
  ∃ front removed back, turns = front ++ removed :: back ∧ mark ∈ front ++ [removed] ∧
    Respells removed mark (strip front text) ∧ Outlasts mark back (strip (front ++ [removed]) text)

/-- Between two exclamation marks there is no proper part of what a mark says, so no
pieces could run together into one. -/
def Harmless (text : List Char) : Prop :=
  ∀ piece ∈ inner (text.splitOn '!'), ∀ mark, piece <:+: bodyOf mark → piece = bodyOf mark

variable {mark removed : Mark} {text body first : List Char} {run rest pieces : List (List Char)}
  {turns : List Mark}

/-! ## Pieces of a text -/

theorem inner_map {α β : Type} (f : α → β) (items : List α) : inner (items.map f) = (inner items).map f := by
  rw [inner, ← List.map_tail, ← List.map_dropLast, ← inner]

theorem split_unmarked (text : List Char) : ∀ piece ∈ text.splitOn '!', Unmarked piece := by
  induction text with
  | nil => simp [Unmarked]
  | cons c text ih =>
    rw [List.splitOn_cons_eq_if_modifyHead]
    split
    case isTrue => exact List.forall_mem_cons.mpr ⟨List.not_mem_nil, ih⟩
    case isFalse other =>
      obtain ⟨first, rest, split⟩ := List.exists_cons_of_ne_nil (List.splitOn_ne_nil '!' text)
      rw [split] at ih ⊢
      obtain ⟨firstUnmarked, restUnmarked⟩ := List.forall_mem_cons.mp ih
      have differ : '!' ≠ c := fun same => other (by simp [← same])
      have headUnmarked : Unmarked (c :: first) := by simpa [Unmarked] using ⟨differ, firstUnmarked⟩
      exact List.forall_mem_cons.mpr ⟨headUnmarked, restUnmarked⟩

theorem split_joined (unmarked : ∀ piece ∈ pieces, Unmarked piece) (some_ : pieces ≠ []) :
    (joined pieces).splitOn '!' = pieces :=
  List.splitOn_intercalate '!' unmarked some_

theorem joined_split (text : List Char) : joined (text.splitOn '!') = text :=
  List.intercalate_splitOn '!'

theorem mem_inner_iff {α : Type} {item : α} {items : List α} :
    item ∈ inner items ↔ ∃ before after, items = before ++ item :: after ∧ before ≠ [] ∧ after ≠ [] := by
  constructor
  · intro within
    cases items with
    | nil => exact absurd within List.not_mem_nil
    | cons head rest =>
      have some_ : rest ≠ [] := by
        rintro rfl
        exact List.not_mem_nil within
      obtain ⟨before, after, split⟩ := List.append_of_mem (show item ∈ rest.dropLast from within)
      have whole : rest = before ++ item :: (after ++ [rest.getLast some_]) := by
        simpa [split] using (List.dropLast_concat_getLast some_).symm
      exact ⟨head :: before, after ++ [rest.getLast some_], congrArg (head :: ·) whole, by simp, by simp⟩
  · rintro ⟨before, after, rfl, beforeSome, afterSome⟩
    obtain ⟨head, before, rfl⟩ := List.exists_cons_of_ne_nil beforeSome
    rw [inner, List.cons_append, List.tail_cons, List.dropLast_append_of_ne_nil (by simp),
      List.dropLast_cons_of_ne_nil afterSome]
    simp

theorem joined_append {before after : List (List Char)} (beforeSome : before ≠ []) (afterSome : after ≠ []) :
    joined (before ++ after) = joined before ++ '!' :: joined after := by
  induction before with
  | nil => exact absurd rfl beforeSome
  | cons first before ih =>
    by_cases more : before = []
    · rw [more, List.singleton_append, joined_cons afterSome, joined_single]
    · rw [List.cons_append, joined_cons (by simp [more]), ih more, joined_cons more]
      simp

/-- A mark is written in a text where a piece between two exclamation marks says it. -/
theorem occurs_iff : Occurs mark text ↔ bodyOf mark ∈ inner (text.splitOn '!') := by
  rw [Occurs, mark_text, mem_inner_iff]
  constructor
  · rintro ⟨before, after, rfl⟩
    refine ⟨before.splitOn '!', after.splitOn '!', ?_, List.splitOn_ne_nil _ _, List.splitOn_ne_nil _ _⟩
    have shape : before ++ written (bodyOf mark) ++ after = before ++ '!' :: (bodyOf mark ++ '!' :: after) := by
      simp [written]
    rw [shape, List.splitOn_append_cons_self, List.splitOn_append_cons_self_of_not_mem (body_unmarked mark)]
  · rintro ⟨before, after, split, beforeSome, afterSome⟩
    refine ⟨joined before, joined after, ?_⟩
    rw [← joined_split text, split, joined_append beforeSome (by simp), joined_cons afterSome]
    simp [written]

/-! ## One turn -/

theorem runs_flatten (body : List Char) (run pieces : List (List Char)) :
    (runs body run pieces).map List.flatten = substitute body [] run.flatten pieces := by
  fun_induction runs body run pieces with
  | case1 => rfl
  | case2 => simp [substitute]
  | case3 run next rest ih => simpa [substitute_hit] using ih
  | case4 run piece next rest other ih => simpa [substitute_miss other] using ih

/-- After a turn the pieces of the text are its runs. -/
theorem split_replaced : (replaceMark false text removed).splitOn '!' = (runsOf removed text).map List.flatten := by
  obtain ⟨first, rest, split⟩ := List.exists_cons_of_ne_nil (List.splitOn_ne_nil '!' text)
  obtain ⟨firstUnmarked, restUnmarked⟩ : Unmarked first ∧ ∀ piece ∈ rest, Unmarked piece := by
    simpa only [split, List.forall_mem_cons] using split_unmarked text
  have pieces : (runsOf removed text).map List.flatten = substitute (bodyOf removed) [] first rest := by
    simp only [runsOf, split]
    simpa using runs_flatten (bodyOf removed) [first] rest
  have replaced : replaceMark false text removed = joined (substitute (bodyOf removed) [] first rest) := by
    rw [← joined_split text, split]
    exact replace_mark_joined false removed firstUnmarked restUnmarked
  rw [pieces, replaced, split_joined (substitute_unmarked List.not_mem_nil firstUnmarked restUnmarked)
    substitute_ne_nil]

/-- The run starts with a piece other than the given, and takes its pieces from the list. -/
structure Standing (body : List Char) (pieces run : List (List Char)) : Prop where
  start : ∃ piece later, run = piece :: later ∧ piece ≠ body
  within : run ⊆ pieces

theorem Standing.mono {more : List (List Char)} (standing : Standing body pieces run) (subset : pieces ⊆ more) :
    Standing body more run :=
  ⟨standing.start, List.Subset.trans standing.within subset⟩

theorem dropLast_subset_cons {piece : List Char} : rest.dropLast ⊆ (piece :: rest).dropLast := by
  cases rest with
  | nil => exact List.nil_subset _
  | cons next rest => exact List.subset_cons_self _ _

/-- What a walk over the pieces makes of them: the run it began with goes on for a
while, and every later one but the last stands between two exclamation marks. -/
theorem runs_shape (body : List Char) (run pieces : List (List Char)) :
    ∃ more later, runs body run pieces = (run ++ more) :: later ∧
      (later ≠ [] → more ⊆ pieces.dropLast) ∧ ∀ other ∈ later.dropLast, Standing body pieces.dropLast other := by
  fun_induction runs body run pieces with
  | case1 run => exact ⟨[], [], by simp⟩
  | case2 run last => exact ⟨[], [[last]], by simp⟩
  | case3 run next rest ih =>
    obtain ⟨more, later, shape, moreWithin, standing⟩ := ih
    refine ⟨next :: more, later, by simpa using shape, fun some_ => ?_, fun other member => ?_⟩
    · -- Nothing stands behind a run that takes the last piece.
      have restSome : rest ≠ [] := by
        rintro rfl
        exact some_ (List.cons.inj shape).2.symm
      rw [List.dropLast_cons_of_ne_nil (by simp), List.dropLast_cons_of_ne_nil restSome]
      exact List.subset_cons_of_subset _ (List.cons_subset_cons next (moreWithin some_))
    · exact (standing other member).mono (List.Subset.trans dropLast_subset_cons dropLast_subset_cons)
  | case4 run piece next rest differs ih =>
    obtain ⟨more, later, shape, moreWithin, standing⟩ := ih
    refine ⟨[], (piece :: more) :: later, by simpa using shape, by simp, fun other member => ?_⟩
    have some_ : later ≠ [] := by
      rintro rfl
      exact List.not_mem_nil member
    rw [List.dropLast_cons_of_ne_nil some_, List.mem_cons] at member
    rcases member with rfl | member
    · refine ⟨⟨piece, more, rfl, differs⟩, ?_⟩
      rw [List.dropLast_cons_of_ne_nil (by simp)]
      exact List.cons_subset_cons piece (moreWithin some_)
    · exact (standing other member).mono dropLast_subset_cons

/-- Between two exclamation marks of the text after a turn stand pieces that stood
between two before, the first of them not the mark that was taken out. -/
theorem run_standing (member : run ∈ inner (runsOf removed text)) :
    Standing (bodyOf removed) (inner (text.splitOn '!')) run := by
  obtain ⟨first, rest, split⟩ := List.exists_cons_of_ne_nil (List.splitOn_ne_nil '!' text)
  obtain ⟨more, later, shape, -, standing⟩ := runs_shape (bodyOf removed) [first] rest
  simp only [runsOf, split, shape, inner, List.tail_cons] at member ⊢
  exact standing run member

theorem occurs_replaced_iff : Occurs mark (replaceMark false text removed) ↔
    ∃ run ∈ inner (runsOf removed text), run.flatten = bodyOf mark := by
  rw [occurs_iff, split_replaced, inner_map, List.mem_map]

/-- What a turn leaves of a mark was there before it, or is the turn's own doing. -/
theorem occurs_step : Occurs mark (replaceMark false text removed) ↔
    Keeps removed mark text ∨ Respells removed mark text := by
  rw [occurs_replaced_iff]
  constructor
  · rintro ⟨run, member, spells⟩
    obtain ⟨piece, later, rfl, -⟩ := (run_standing member).start
    cases later with
    | nil =>
      rw [List.flatten_singleton] at spells
      refine .inl ?_
      rwa [Keeps, ← spells]
    | cons next later => exact .inr ⟨_, member, by simp, spells⟩
  · rintro (kept | ⟨run, member, -, spells⟩)
    · exact ⟨_, kept, List.flatten_singleton⟩
    · exact ⟨run, member, spells⟩

theorem Keeps.occurs (kept : Keeps removed mark text) : Occurs mark text :=
  occurs_iff.mpr ((run_standing kept).within List.mem_cons_self)

/-- A turn keeps nothing of its own mark: what is left of it was respelled. -/
theorem Keeps.ne (kept : Keeps removed mark text) : mark ≠ removed := by
  rintro rfl
  obtain ⟨piece, later, same, differs⟩ := (run_standing kept).start
  exact differs (List.cons.inj same).1.symm

/-! ## All turns -/

theorem mem_marks (mark : Mark) : mark ∈ marks := by
  cases mark with
  | reset => decide
  | paint style colour => cases style <;> cases colour <;> decide

theorem strip_append {later : List Mark} : strip (turns ++ later) text = strip later (strip turns text) :=
  List.foldl_append

theorem strip_concat : strip (turns ++ [removed]) text = replaceMark false (strip turns text) removed :=
  strip_append

theorem outlasts_concat : Outlasts mark (turns ++ [removed]) text ↔
    Outlasts mark turns text ∧ Keeps removed mark (strip turns text) := by
  induction turns generalizing text with
  | nil => simp [Outlasts, strip]
  | cons turn turns ih => simp [Outlasts, ih, and_assoc, strip]

theorem outlasts_occurs (before : Occurs mark text) (outlasts : Outlasts mark turns text) :
    Occurs mark (strip turns text) := by
  induction turns generalizing text with
  | nil => exact before
  | cons turn turns ih =>
    obtain ⟨kept, later⟩ := outlasts
    exact ih (occurs_step.mpr (.inl kept)) later

/-- A mark that has had its turn and is still there was respelled at that turn or
after it, and stayed from the last time on. -/
theorem left_behind_of_occurs (hadTurn : mark ∈ turns) (left : Occurs mark (strip turns text)) :
    LeftBehind turns mark text := by
  -- From the last turn back: as long as a turn keeps the mark, look at the one before.
  induction turns using List.reverseRecOn with
  | nil => exact absurd hadTurn List.not_mem_nil
  | append_singleton turns last ih =>
    rw [strip_concat, occurs_step] at left
    rcases left with kept | respelled
    · have earlier : mark ∈ turns := by simpa [kept.ne] using hadTurn
      obtain ⟨front, removed, back, rfl, turned, respelled, stayed⟩ := ih earlier kept.occurs
      refine ⟨front, removed, back ++ [last], by simp, turned, respelled, outlasts_concat.mpr ⟨stayed, ?_⟩⟩
      rwa [← strip_append, List.append_assoc, List.singleton_append]
    · exact ⟨turns, last, [], rfl, hadTurn, respelled, trivial⟩

theorem occurs_of_left_behind (leftBehind : LeftBehind turns mark text) : Occurs mark (strip turns text) := by
  obtain ⟨front, removed, back, rfl, -, respelled, stayed⟩ := leftBehind
  have respelt : Occurs mark (strip (front ++ [removed]) text) := by
    rw [strip_concat]
    exact occurs_step.mpr (.inr respelled)
  rw [← List.singleton_append, ← List.append_assoc, strip_append]
  exact outlasts_occurs respelt stayed

/-! ## A second pass -/

theorem replace_absent {pattern replacement : List Char} (absent : ¬ pattern <:+: text) :
    replaceAll pattern replacement text = text := by
  unfold replaceAll
  induction text with
  | nil => rfl
  | cons c text ih =>
    rw [List.infix_cons_iff, not_or, ← List.isPrefixOf_iff_prefix] at absent
    obtain ⟨notHere, notLater⟩ := absent
    rw [replace_here, if_neg notHere, ih notLater]

theorem replace_length_le {pattern : List Char} {skip : Nat} :
    (replaceFrom pattern [] skip text).length ≤ text.length := by
  induction text generalizing skip with
  | nil => exact Nat.le_refl 0
  | cons c text ih =>
    cases skip with
    | succ skip => exact Nat.le_succ_of_le ih
    | zero =>
      rw [replace_here]
      split
      · exact Nat.le_succ_of_le ih
      · exact Nat.succ_le_succ ih

theorem replace_shorter {pattern : List Char} (occurs : pattern <:+: text) (some_ : pattern ≠ []) :
    (replaceAll pattern [] text).length < text.length := by
  unfold replaceAll
  induction text with
  | nil => exact absurd (List.infix_nil.mp occurs) some_
  | cons c text ih =>
    rw [replace_here]
    split
    case isTrue => exact Nat.lt_succ_of_le replace_length_le
    case isFalse notHere =>
      rw [List.infix_cons_iff, ← List.isPrefixOf_iff_prefix] at occurs
      exact Nat.succ_lt_succ (ih (occurs.resolve_left notHere))

theorem strip_length_le : (strip turns text).length ≤ text.length := by
  induction turns generalizing text with
  | nil => exact Nat.le_refl _
  | cons turn turns ih => exact Nat.le_trans ih replace_length_le

/-- A pass changes a text if and only if it finds a mark. -/
theorem strip_eq_self_iff : strip turns text = text ↔ ∀ mark ∈ turns, ¬ Occurs mark text := by
  induction turns generalizing text with
  | nil => simp [strip]
  | cons turn turns ih =>
    rw [List.forall_mem_cons]
    by_cases found : Occurs turn text
    · have shorter : (replaceMark false text turn).length < text.length :=
        replace_shorter found (by simp [mark_text, written])
      have differs : strip (turn :: turns) text ≠ text := by
        intro same
        have bound : (strip turns (replaceMark false text turn)).length ≤ (replaceMark false text turn).length :=
          strip_length_le
        have whole : strip turns (replaceMark false text turn) = text := same
        rw [whole] at bound
        omega
      simp [found, differs]
    · have same : replaceMark false text turn = text := replace_absent found
      have tail : strip (turn :: turns) text = strip turns text := congrArg (strip turns) same
      rw [tail, ih]
      simp [found]

/-! ## Texts without parts of marks -/

theorem harmless_iff : Harmless text ↔
    ∀ piece ∈ inner (text.splitOn '!'), ∀ mark ∈ marks, piece <:+: bodyOf mark → piece = bodyOf mark := by
  simp only [Harmless, mem_marks, forall_const]

theorem body_length (mark : Mark) : (bodyOf mark).length = 6 := by
  cases mark with
  | reset => rfl
  | paint style colour => cases style <;> cases colour <;> rfl

/-- Several pieces of a harmless text are too long for a mark to say them. -/
theorem harmless_run (harmless : Harmless text) (within : run ⊆ inner (text.splitOn '!'))
    (part : run.flatten <:+: bodyOf mark) : run.length ≤ 1 := by
  match run with
  | [] | [_] => simp
  | piece :: next :: later =>
    have pieceLength : piece.length = 6 := by
      have inBody : piece <:+: bodyOf mark := List.IsInfix.trans ⟨[], (next :: later).flatten, by simp⟩ part
      rw [harmless piece (within (by simp)) mark inBody, body_length]
    have nextLength : next.length = 6 := by
      have inBody : next <:+: bodyOf mark := List.IsInfix.trans ⟨piece, later.flatten, by simp⟩ part
      rw [harmless next (within (by simp)) mark inBody, body_length]
    have bound := part.length_le
    rw [body_length] at bound
    simp only [List.flatten_cons, List.length_append] at bound
    omega

theorem harmless_replaced (harmless : Harmless text) : Harmless (replaceMark false text removed) := by
  intro piece member mark part
  rw [split_replaced, inner_map] at member
  obtain ⟨run, inRuns, rfl⟩ := List.mem_map.mp member
  have standing := run_standing inRuns
  obtain ⟨piece, later, rfl, -⟩ := standing.start
  have single : later = [] := by simpa using harmless_run harmless standing.within part
  subst single
  rw [List.flatten_singleton] at part ⊢
  exact harmless piece (standing.within List.mem_cons_self) mark part

theorem harmless_stripped (harmless : Harmless text) : Harmless (strip turns text) := by
  induction turns generalizing text with
  | nil => exact harmless
  | cons turn turns ih => exact ih (harmless_replaced harmless)

theorem harmless_not_respelled (harmless : Harmless text) : ¬ Respells removed mark text := by
  rintro ⟨run, member, several, spells⟩
  have part : run.flatten <:+: bodyOf mark := by simp [spells]
  have few := harmless_run harmless (run_standing member).within part
  omega

/-- The marks that are left in a text without colours are those that were respelled
once their turn had come, and stayed; a second pass changes nothing if and only if
there are none. Where no piece between two exclamation marks is a proper part of a
mark, none is left. -/
theorem stripped_unless_respelled (text : String) :
    (∀ mark, Occurs mark (colorize false text).toList ↔ LeftBehind marks mark text.toList) ∧
      (colorize false (colorize false text) = colorize false text ↔ ∀ mark, ¬ LeftBehind marks mark text.toList) ∧
      (Harmless text.toList → ∀ mark, ¬ LeftBehind marks mark text.toList) := by
  have shown : ∀ other : String, (colorize false other).toList = strip marks other.toList := by
    intro other
    simp [colorize, replaceMarks, strip]
  have left : ∀ mark, Occurs mark (colorize false text).toList ↔ LeftBehind marks mark text.toList := by
    intro mark
    rw [shown]
    exact ⟨left_behind_of_occurs (mem_marks mark), occurs_of_left_behind⟩
  refine ⟨left, ?_, ?_⟩
  · rw [← String.toList_inj, shown (colorize false text), strip_eq_self_iff]
    simp only [mem_marks, forall_const, left]
  · rintro harmless mark ⟨front, removed, back, -, -, respelled, -⟩
    exact harmless_not_respelled (harmless_stripped harmless) respelled

theorem painted_name_leaves_none : Harmless "Unknown command: !txtgrn!git!txtrst!".toList ∧
    ∀ mark, ¬ Occurs mark (colorize false "Unknown command: !txtgrn!git!txtrst!").toList := by
  have harmless : Harmless "Unknown command: !txtgrn!git!txtrst!".toList := by
    rw [harmless_iff]
    decide +kernel
  obtain ⟨left, -, none_⟩ := stripped_unless_respelled "Unknown command: !txtgrn!git!txtrst!"
  exact ⟨harmless, fun mark found => none_ harmless mark ((left mark).mp found)⟩

/-- Red has its turn after black: taking it out leaves a black mark behind, and a
second pass takes that. -/
theorem nested_mark_left_behind : Occurs (.paint .regular .black) (colorize false "!txt!txtred!blk!").toList ∧
    colorize false (colorize false "!txt!txtred!blk!") ≠ colorize false "!txt!txtred!blk!" := by
  decide +kernel

end CommandPlan.StrippedMarks
