import CommandPlan.Path

/-! A file name that is one component stays one where it is joined to a
directory: the components of the joined path are those of the directory and the
name behind them. -/
namespace CommandPlan.PathJoin
open CommandPlan.Path

/-- A name that stands for one entry of a directory: no separator in it, and
neither nothing, the directory itself nor the one above. -/
structure PlainName (name : String) : Prop where
  noSlash : '/' ∉ name.toList
  notEmpty : name ≠ ""
  notHere : name ≠ "."
  notParent : name ≠ ".."

variable {front back text : List Char} {name : String} {base : Path}

theorem split_text_ne_nil (text : List Char) : splitText text ≠ [] := by
  cases text with
  | nil => simp [splitText]
  | cons c text =>
    simp only [splitText]
    split
    · simp
    · split <;> simp

/-- A separator cuts the pieces of a text in two. -/
theorem split_text_append_slash (front back : List Char) :
    splitText (front ++ '/' :: back) = splitText front ++ splitText back := by
  induction front with
  | nil => simp [splitText]
  | cons c front ih =>
    by_cases slash : c = '/'
    · simp [splitText, slash, ih]
    · obtain ⟨piece, pieces, pieced⟩ := List.exists_cons_of_ne_nil (split_text_ne_nil front)
      simp only [List.cons_append, splitText, slash, if_false, ih, pieced]

theorem split_text_plain (plain : '/' ∉ text) : splitText text = [text] := by
  induction text with
  | nil => rfl
  | cons c text ih =>
    simp only [List.mem_cons, not_or] at plain
    simp [splitText, Ne.symm plain.1, ih plain.2]

/-! ## Steps and components -/

theorem plain_is_relative (plain : PlainName name) : (⟨name⟩ : Path).isAbsolute = false := by
  have unlike : name.toList.head? ≠ some '/' := fun head => plain.noSlash (List.mem_of_mem_head? head)
  simpa [isAbsolute] using unlike

theorem steps_plain (plain : PlainName name) : (⟨name⟩ : Path).steps = [name] := by
  have filled : name.toList ≠ [] := by simpa using plain.notEmpty
  simp [steps, split_text_plain plain.noSlash, filled]

/-- Joining a plain name to a directory adds one step. -/
theorem steps_join (plain : PlainName name) : (base.join ⟨name⟩).steps = base.steps ++ [name] := by
  have filled : name.toList ≠ [] := by simpa using plain.notEmpty
  have last := split_text_plain plain.noSlash
  by_cases empty : base.text = ""
  · have none : base.steps = [] := by simp [steps, empty, splitText]
    rw [join, if_pos (by simp [empty]), steps_plain plain, none, List.nil_append]
  · have relative := plain_is_relative plain
    by_cases slash : base.endsWithSlash = true
    · obtain ⟨front, text⟩ : ∃ front, base.text.toList = front ++ ['/'] :=
        List.getLast?_eq_some_iff.mp (by simpa [endsWithSlash] using slash)
      rw [join, if_neg (by simp [relative, empty]), if_pos slash]
      simp only [steps, String.toList_append, text, List.append_assoc, List.singleton_append,
        split_text_append_slash, last]
      simp [splitText, filled]
    · rw [join, if_neg (by simp [relative, empty]), if_neg slash]
      simp only [steps, String.toList_append, List.append_assoc]
      have joined := split_text_append_slash base.text.toList name.toList
      simp only [show "/".toList = ['/'] from rfl, List.singleton_append, joined, last]
      simp [filled]

theorem absolute_join (plain : PlainName name) : (base.join ⟨name⟩).isAbsolute = base.isAbsolute := by
  have relative := plain_is_relative plain
  by_cases empty : base.text = ""
  · rw [join, if_pos (by simp [empty]), relative]
    simp [isAbsolute, empty]
  · obtain ⟨c, rest, text⟩ : ∃ c rest, base.text.toList = c :: rest :=
      List.exists_cons_of_ne_nil (by simpa using empty)
    rw [join, if_neg (by simp [relative, empty])]
    split <;> simp [isAbsolute, text]

theorem component_of_plain (plain : PlainName name) : componentOf name = .name name := by
  simp [componentOf, plain.notHere, plain.notParent]

/-- The components of a joined path are those of the directory and then the name. -/
theorem components_join (plain : PlainName name) :
    (base.join ⟨name⟩).components = base.components ++ [.name name] := by
  simp only [components, steps_join plain, absolute_join plain, List.map_append, List.map_cons,
    List.map_nil, component_of_plain plain]
  split
  · simp
  · cases base.steps.map componentOf with
    | nil => simp
    | cons first rest => simp

/-- Two plain names in one directory lead to different paths, however the
directory is spelled. -/
theorem same_join_iff {other : String} (plain : PlainName name) (otherPlain : PlainName other) :
    (base.join ⟨name⟩).same (base.join ⟨other⟩) = true ↔ name = other := by
  simp [same, components_join plain, components_join otherPlain]

end CommandPlan.PathJoin
