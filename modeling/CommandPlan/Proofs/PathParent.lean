import CommandPlan.Proofs.PathJoin

/-! The parent of a path, step by step. It is spelled anew from the components, so
it has the steps of the path without the last one and without dots that count for
nothing. -/
namespace CommandPlan.PathParent
open CommandPlan.Path PathJoin

/-- The second steps are the first without some of the dots. -/
inductive Skips : List String → List String → Prop where
  | done : Skips [] []
  | keep {steps fewer : List String} (name : String) (rest : Skips steps fewer) :
      Skips (name :: steps) (name :: fewer)
  | dot {steps fewer : List String} (rest : Skips steps fewer) : Skips ("." :: steps) fewer

/-- A text between two separators, and not nothing. -/
structure Piece (text : String) : Prop where
  noSlash : '/' ∉ text.toList
  filled : text ≠ ""

/-- The steps of a path without the dots that are no components. -/
def trimmed (path : Path) : List String :=
  if path.isAbsolute then path.steps.filter (· ≠ ".")
  else
    match path.steps with
    | [] => []
    | first :: rest => first :: rest.filter (· ≠ ".")

variable {path parent : Path} {text piece : List Char} {pieces : List String} {steps fewer : List String}

/-! ## Dots -/

theorem Skips.refl (steps : List String) : Skips steps steps := by
  induction steps with
  | nil => exact .done
  | cons name steps ih => exact .keep name ih

theorem Skips.append (skips : Skips steps fewer) (rest : List String) : Skips (rest ++ steps) (rest ++ fewer) := by
  induction rest with
  | nil => exact skips
  | cons name rest ih => exact .keep name ih

theorem skips_filter (steps : List String) : Skips steps (steps.filter (· ≠ ".")) := by
  induction steps with
  | nil => exact .done
  | cons name steps ih =>
    by_cases dot : name = "."
    · subst dot
      exact .dot ih
    · rw [List.filter_cons_of_pos (by simpa using dot)]
      exact .keep name ih

theorem skips_trimmed (path : Path) : Skips path.steps (trimmed path) := by
  unfold trimmed
  split
  · exact skips_filter path.steps
  · cases path.steps with
    | nil => exact .done
    | cons first rest => exact .keep first (skips_filter rest)

theorem mem_of_skips {name : String} (skips : Skips steps fewer) (member : name ∈ fewer) : name ∈ steps := by
  induction skips with
  | done => exact member
  | keep other rest ih =>
    rcases List.mem_cons.mp member with rfl | later
    · exact List.mem_cons_self
    · exact List.mem_cons_of_mem _ (ih later)
  | dot rest ih => exact List.mem_cons_of_mem _ (ih member)

/-! ## Pieces -/

theorem no_slash_of_split (member : piece ∈ splitText text) : '/' ∉ piece := by
  induction text generalizing piece with
  | nil =>
    rw [List.mem_singleton.mp member]
    exact List.not_mem_nil
  | cons c text ih =>
    rw [splitText] at member
    split at member
    · rcases List.mem_cons.mp member with rfl | later
      · exact List.not_mem_nil
      · exact ih later
    · rename_i other
      split at member
      · rename_i head pieces split
        rcases List.mem_cons.mp member with rfl | later
        · have plain : '/' ∉ head := ih (split ▸ List.mem_cons_self)
          simp [plain, Ne.symm other]
        · exact ih (split ▸ List.mem_cons_of_mem _ later)
      · rw [List.mem_singleton.mp member]
        simp [Ne.symm other]

theorem steps_are_pieces {step : String} (member : step ∈ path.steps) : Piece step := by
  obtain ⟨letters, found, rfl⟩ := List.mem_map.mp member
  obtain ⟨split, filled⟩ := List.mem_filter.mp found
  refine ⟨?_, ?_⟩
  · rw [String.toList_ofList]
    exact no_slash_of_split split
  · intro empty
    have none : letters = [] := by
      rw [← String.toList_ofList (l := letters), empty]
      rfl
    simp [none] at filled

/-- Pieces with separators between them are the steps again. -/
theorem split_pieces (plain : ∀ piece ∈ pieces, Piece piece) (some : pieces ≠ []) :
    splitText ("/".intercalate pieces).toList = pieces.map String.toList := by
  induction pieces with
  | nil => exact absurd rfl some
  | cons first pieces ih =>
    cases pieces with
    | nil =>
      rw [String.intercalate_singleton, split_text_plain (plain first List.mem_cons_self).noSlash]
      rfl
    | cons second pieces =>
      have later := ih (fun piece member => plain piece (List.mem_cons_of_mem first member)) (List.cons_ne_nil _ _)
      rw [String.intercalate_cons_cons, String.toList_append, String.toList_append, List.append_assoc]
      have cut := split_text_append_slash first.toList ("/".intercalate (second :: pieces)).toList
      simp only [show "/".toList = ['/'] from rfl, List.singleton_append, cut, later,
        split_text_plain (plain first List.mem_cons_self).noSlash, List.map_cons]

theorem steps_of_split (plain : ∀ piece ∈ pieces, Piece piece) :
    ((pieces.map String.toList).filter (!·.isEmpty)).map String.ofList = pieces := by
  have all : ∀ letters ∈ pieces.map String.toList, (!letters.isEmpty) = true := by
    refine List.forall_mem_map.mpr fun piece member => ?_
    simpa using (plain piece member).filled
  rw [List.filter_eq_self.mpr all, List.map_map]
  simp

theorem steps_relative (plain : ∀ piece ∈ pieces, Piece piece) :
    (⟨"/".intercalate pieces⟩ : Path).steps = pieces := by
  cases pieces with
  | nil => rw [String.intercalate_nil]; rfl
  | cons first rest => rw [steps, split_pieces plain (List.cons_ne_nil _ _), steps_of_split plain]

theorem steps_rooted (plain : ∀ piece ∈ pieces, Piece piece) :
    (⟨"/" ++ "/".intercalate pieces⟩ : Path).steps = pieces := by
  have relative := steps_relative plain
  rw [steps] at relative ⊢
  rw [String.toList_append]
  have cut := split_text_append_slash [] ("/".intercalate pieces).toList
  simp only [List.nil_append] at cut
  simp only [show "/".toList = ['/'] from rfl, List.singleton_append, cut]
  exact relative

theorem rooted_is_absolute (text : String) : (⟨"/" ++ text⟩ : Path).isAbsolute = true := by
  simp [isAbsolute, String.toList_append]

theorem relative_is_relative (plain : ∀ piece ∈ pieces, Piece piece) :
    (⟨"/".intercalate pieces⟩ : Path).isAbsolute = false := by
  cases pieces with
  | nil => rw [String.intercalate_nil]; rfl
  | cons first rest =>
    have piece := plain first List.mem_cons_self
    obtain ⟨c, letters, spelled⟩ := List.exists_cons_of_ne_nil (by simpa using piece.filled : first.toList ≠ [])
    have other : c ≠ '/' := fun slash => piece.noSlash (by simp [spelled, slash])
    cases rest with
    | nil => simp [isAbsolute, String.intercalate_singleton, spelled, other]
    | cons second rest =>
      simp [isAbsolute, String.intercalate_cons_cons, String.toList_append, spelled, other]

/-! ## The parent -/

theorem component_text (step : String) : (componentOf step).text = step := by
  unfold componentOf
  split
  · rename_i here
    exact here.symm
  · split
    · rename_i parent
      exact parent.symm
    · rfl

theorem component_here_iff {step : String} : componentOf step = .here ↔ step = "." := by
  unfold componentOf
  split
  · simp [*]
  · split <;> simp [*]

theorem component_ne_root (step : String) : componentOf step ≠ .root := by
  unfold componentOf
  split
  · exact nofun
  · split <;> exact nofun

theorem filter_components (steps : List String) :
    (steps.map componentOf).filter (· ≠ .here) = (steps.filter (· ≠ ".")).map componentOf := by
  rw [List.filter_map]
  congr 1
  refine List.filter_congr fun step _ => ?_
  simp [component_here_iff]

theorem components_trimmed (path : Path) :
    path.components = (if path.isAbsolute then [.root] else []) ++ (trimmed path).map componentOf := by
  unfold components trimmed
  split
  · dsimp only
    rw [filter_components]
    rfl
  · cases path.steps with
    | nil => rfl
    | cons first rest =>
      dsimp only
      rw [List.nil_append, List.map_cons, List.map_cons, ← filter_components]

theorem map_component_text (names : List String) : (names.map componentOf).map Component.text = names := by
  rw [List.map_map]
  exact (List.map_congr_left fun step _ => component_text step).trans (List.map_id names)

theorem of_components_rooted (names : List String) :
    ofComponents (.root :: names.map componentOf) = ⟨"/" ++ "/".intercalate names⟩ := by
  rw [ofComponents, ofRelative, map_component_text]

theorem of_components_relative (names : List String) :
    ofComponents (names.map componentOf) = ⟨"/".intercalate names⟩ := by
  have texts := map_component_text names
  unfold ofComponents
  split
  · rename_i rest split
    cases names with
    | nil => cases split
    | cons first names => exact absurd (List.cons.inj split).1 (component_ne_root first)
  · rw [ofRelative, texts]

theorem parent_of_components (held : path.parent? = some parent) :
    path.components ≠ [] ∧ path.components ≠ [.root] ∧ parent = ofComponents path.components.dropLast := by
  unfold parent? at held
  split at held
  · cases held
  · cases held
  · rename_i some notRoot
    exact ⟨some, notRoot, (Option.some.inj held).symm⟩

/-- The parent is spelled from all names but the last. -/
theorem parent_spelled (held : path.parent? = some parent) : trimmed path ≠ [] ∧
    parent = if path.isAbsolute then ⟨"/" ++ "/".intercalate (trimmed path).dropLast⟩
      else ⟨"/".intercalate (trimmed path).dropLast⟩ := by
  obtain ⟨some, notRoot, rfl⟩ := parent_of_components held
  rw [components_trimmed] at some notRoot ⊢
  cases absolute : path.isAbsolute with
  | true =>
    simp only [absolute, if_true, List.singleton_append] at notRoot ⊢
    have names : trimmed path ≠ [] := fun none => notRoot (by rw [none]; rfl)
    refine ⟨names, ?_⟩
    rw [List.dropLast_cons_of_ne_nil (by simpa using names), ← List.map_dropLast, of_components_rooted]
  | false =>
    simp only [absolute, Bool.false_eq_true, if_false, List.nil_append] at some ⊢
    refine ⟨by simpa using some, ?_⟩
    rw [← List.map_dropLast, of_components_relative]

theorem not_dot_of_filter {name : String} (member : name ∈ steps.filter (· ≠ ".")) : name ≠ "." := by
  simpa using (List.mem_filter.mp member).2

/-- A dot is the last name of a path only where it is the only one. -/
theorem last_of_trimmed (some : trimmed path ≠ []) :
    (path.isAbsolute = false ∧ (trimmed path).dropLast = []) ∨ (trimmed path).getLast some ≠ "." := by
  revert some
  unfold trimmed
  split
  · exact fun some => .inr (not_dot_of_filter (List.getLast_mem some))
  · rename_i relative
    cases path.steps with
    | nil => exact fun some => absurd rfl some
    | cons first rest =>
      intro some
      by_cases alone : rest.filter (· ≠ ".") = []
      · exact .inl ⟨by simpa using relative, by simp only [alone, List.dropLast_singleton]⟩
      · refine .inr ?_
        simp only [List.getLast_cons alone]
        exact not_dot_of_filter (List.getLast_mem alone)

/-- The steps of the parent are those of the path without the last one, and it starts
where the path does. -/
theorem parent_steps (held : path.parent? = some parent) :
    path.isAbsolute = parent.isAbsolute ∧ parent.steps = (trimmed path).dropLast := by
  obtain ⟨-, spelled⟩ := parent_spelled held
  have plain : ∀ piece ∈ (trimmed path).dropLast, Piece piece := fun piece member =>
    steps_are_pieces (mem_of_skips (skips_trimmed path) (List.dropLast_subset _ member))
  rw [spelled]
  split
  · rename_i absolute
    exact ⟨by rw [rooted_is_absolute, absolute], steps_rooted plain⟩
  · rename_i relative
    exact ⟨by rw [relative_is_relative plain]; simpa using relative, steps_relative plain⟩

/-- Without steps to a parent, a path is the one of its parent with a name behind
it and dots in between, if its parent is any path at all. -/
theorem parent_cases (held : path.parent? = some parent) (forward : ".." ∉ path.steps) :
    ".." ∉ parent.steps ∧
      (parent.text.isEmpty = true ∨ ∃ name, name ≠ "." ∧ name ≠ ".." ∧
        path.isAbsolute = parent.isAbsolute ∧ Skips path.steps (parent.steps ++ [name])) := by
  obtain ⟨some, spelled⟩ := parent_spelled held
  obtain ⟨sameStart, parentSteps⟩ := parent_steps held
  have within : ∀ name ∈ trimmed path, name ∈ path.steps := fun _ => mem_of_skips (skips_trimmed path)
  refine ⟨fun member => forward (within _ (List.dropLast_subset _ (parentSteps ▸ member))), ?_⟩
  obtain ⟨relative, alone⟩ | notHere := last_of_trimmed some
  · left
    rw [spelled, if_neg (by simp [relative]), alone, String.intercalate_nil]
    rfl
  · have member := within _ (List.getLast_mem some)
    refine .inr ⟨_, notHere, fun same => forward (same ▸ member), sameStart, ?_⟩
    rw [parentSteps, List.dropLast_concat_getLast some]
    exact skips_trimmed path

end CommandPlan.PathParent
