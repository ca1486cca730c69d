import CommandPlan.Proofs.FullNames
import CommandPlan.Proofs.FragmentNames
import CommandPlan.Proofs.PaintedNames

/-! What the message about a broken rule looks like. It names the command that breaks
the rule, which is legible under every plain name but one: a root named `txtrst` takes
the marks of its own highlight for a reset mark. -/
namespace CommandPlan.ErrorMessages
open Command TreeSites TreeRules CleanTrees FullNames MarkPieces PaintedNames

/-- The sentences about a broken rule, with the names in them painted in some way. -/
def sentence (paint : String → String) : StructureError → String
  | .argumentsBesideCommands name =>
    "Error in the " ++ paint name ++ " command.\nThe " ++ paint "commands" ++
      " key cannot be at the same level as the " ++ paint "args" ++ " or " ++ paint "flags" ++ " keys."
  | .nestedCommands name =>
    "Error in the " ++ paint name ++ " command.\nNested commands are not supported."

/-- A name as a reader sees it: green on a colour terminal, and as it is elsewhere. -/
def shownName (enabled : Bool) (name : String) : String :=
  if enabled then "\x1b[0;32m" ++ name ++ "\x1b[0m" else name

/-- The names in the sentences, with what follows each of them. -/
def phraseOf : StructureError → Phrase
  | .argumentsBesideCommands name =>
    ⟨"Error in the ".toList, [⟨name.toList, " command.\nThe ".toList⟩,
      ⟨"commands".toList, " key cannot be at the same level as the ".toList⟩,
      ⟨"args".toList, " or ".toList⟩, ⟨"flags".toList, " keys.".toList⟩]⟩
  | .nestedCommands name =>
    ⟨"Error in the ".toList, [⟨name.toList, " command.\nNested commands are not supported.".toList⟩]⟩

variable {error : StructureError} {enabled : Bool} {commands : List Command} {node : Command}
variable {definition : Definition}

-- The texts are long, so definitions by cases are opened with `delta`: their equations
-- would compare the texts character by character.
theorem sentence_text {paint : String → String} {painted : List Char → List Char}
    (same : ∀ name, (paint name).toList = painted name.toList) :
    (sentence paint error).toList = (phraseOf error).text painted := by
  cases error <;>
  · delta sentence phraseOf
    dsimp only
    simp only [String.toList_append, same, Phrase.text, List.flatMap_cons, List.flatMap_nil,
      List.append_assoc, List.append_nil]

theorem highlight_text (name : String) : (Markup.highlight name).toList = highlighted name.toList := by
  simp [Markup.highlight, highlighted, mark_text, written, bodyOf, green, Markup.Style.code, Markup.Colour.code]

theorem shown_name_text (name : String) : (shownName enabled name).toList = shown enabled name.toList := by
  cases enabled <;> simp [shownName, shown, shownMark, Markup.Mark.escape, green, Markup.Style.weight, Markup.Colour.index]

theorem message_sentence : error.message = sentence Markup.highlight error := by
  cases error <;>
  · delta StructureError.message sentence StructureError.fullName
    dsimp only
    simp only [String.append_assoc]
    rfl

/-! ## One message -/

theorem phrase_legible (unmarked : Unmarked error.fullName.toList) : (phraseOf error).Legible := by
  cases error with
  | argumentsBesideCommands name =>
    refine ⟨?_, ?_, ?_, ?_⟩ <;> delta phraseOf Unmarked <;>
      simp only [List.forall_mem_cons, List.not_mem_nil, false_imp_iff, implies_true, and_true]
    · decide
    · exact ⟨unmarked, by decide, by decide, by decide⟩
    · decide
    · decide
  | nestedCommands name =>
    refine ⟨?_, ?_, ?_, ?_⟩ <;> delta phraseOf Unmarked <;>
      simp only [List.forall_mem_cons, List.not_mem_nil, false_imp_iff, implies_true, and_true]
    · decide
    · exact unmarked
    · decide
    · decide

theorem colorize_message : Markup.colorize enabled error.message = sentence (shownName enabled) error ↔
    Markup.replaceMarks enabled ((phraseOf error).text highlighted) = (phraseOf error).text (shown enabled) := by
  rw [Markup.colorize, message_sentence, sentence_text highlight_text, ← sentence_text shown_name_text,
    ← String.toList_inj, String.toList_ofList]

theorem reset_body_iff {name : String} : name.toList = bodyOf .reset ↔ name = "txtrst" := by
  have spelled : bodyOf .reset = "txtrst".toList := by decide
  rw [spelled, String.toList_inj]

/-- The words in the sentences are other than the inside of the reset mark, if the name is. -/
theorem spans_named (other : error.fullName ≠ "txtrst") :
    ∀ span ∈ (phraseOf error).spans, span.name ≠ bodyOf .reset := by
  have differs := mt reset_body_iff.mp other
  cases error with
  | argumentsBesideCommands name =>
    delta phraseOf
    simp only [List.forall_mem_cons, List.not_mem_nil, false_imp_iff, implies_true, and_true]
    exact ⟨differs, by decide, by decide, by decide⟩
  | nestedCommands name =>
    delta phraseOf
    simp only [List.forall_mem_cons, List.not_mem_nil, false_imp_iff, implies_true, and_true]
    exact differs

/-- A message shows its names unless it is about the inside of the reset mark. -/
theorem message_legible_iff (unmarked : Unmarked error.fullName.toList) :
    Markup.colorize enabled error.message = sentence (shownName enabled) error ↔ error.fullName ≠ "txtrst" := by
  rw [colorize_message]
  constructor
  · intro same reset
    cases error <;> cases reset <;> cases enabled <;> exact absurd same (by decide +kernel)
  · intro other
    exact (phrase_legible unmarked).replace_marks_highlighted (spans_named other)

/-! ## The node that fails -/

theorem verify_all_error_iff : verifyAll commands = .error error ↔
    ∃ before node after, commands = before ++ node :: after ∧
      (∀ passed ∈ before, passed.verify = .ok ()) ∧ node.verify = .error error := by
  constructor
  · intro fails
    have broken : ¬ ∀ command ∈ commands, command.verify = .ok () := by
      rw [← verify_all_ok_iff, fails]
      nofun
    obtain ⟨before, node, after, rfl, passed, breaks⟩ := exists_first_of_not_all broken
    cases failure : node.verify with
    | ok => exact absurd failure breaks
    | error own =>
      have same : Except.error own = Except.error error := (verify_all_first passed failure).symm.trans fails
      exact ⟨before, node, after, rfl, passed, same ▸ failure⟩
  · rintro ⟨before, node, after, rfl, passed, failure⟩
    exact verify_all_first passed failure

theorem verify_error_name (fails : node.verify = .error error) : error.fullName = node.fullName := by
  unfold verify at fails
  split at fails
  · cases fails
  · split at fails
    · cases fails
      rfl
    · split at fails
      · cases fails
        rfl
      · cases fails

/-! ## Plain trees -/

/-- The full name of a command is its trail, and that of the root is one name. -/
theorem full_name_words (named : ∀ node ∈ (root definition).nodes, ShellName node.name)
    (member : node ∈ (root definition).nodes) :
    ∃ rest, node.fullName = " ".intercalate (definition.name :: rest) ∧
      (∀ word ∈ definition.name :: rest, ShellName word) ∧ (rest = [] → node = root definition) := by
  rw [nodes_of_root] at member
  obtain ⟨site, inSites, rfl⟩ := List.mem_map.mp member
  obtain ⟨rest, goesOn, words⟩ := sites_continue [] definition site inSites
  have shell : ∀ word ∈ definition.name :: rest, ShellName word := by
    intro word inTrail
    obtain ⟨other, otherIn, rfl⟩ := words word inTrail
    have plain := named other.command (by rw [nodes_of_root]; exact List.mem_map_of_mem otherIn)
    rwa [(Site.command_fields other).1] at plain
  refine ⟨rest, ?_, shell, ?_⟩
  · rw [Site.command_full_name, ← trail, goesOn, List.nil_append,
      join_names_named (shell_name_ne_empty (shell _ List.mem_cons_self))]
  · rintro rfl
    rw [sites_head] at inSites
    rcases List.mem_cons.mp inSites with rfl | below
    · rw [root_at_site]
    · obtain ⟨child, -, later, longer, -⟩ := sites_of_continue _ definition.commands site below
      have lengths := congrArg List.length (goesOn.symm.trans longer)
      simp at lengths

theorem full_name_unmarked (named : ∀ node ∈ (root definition).nodes, ShellName node.name)
    (member : node ∈ (root definition).nodes) : Unmarked node.fullName.toList := by
  obtain ⟨rest, name, words, -⟩ := full_name_words named member
  intro bang
  rw [name, String.toList_intercalate] at bang
  rcases FragmentNames.mem_of_mem_intercalate bang with blank | ⟨piece, inPieces, inPiece⟩
  · revert blank
    decide
  · obtain ⟨word, inTrail, rfl⟩ := List.mem_map.mp inPieces
    have plain := shell_name_char (words word inTrail) inPiece
    unfold LetterOrDigit at plain
    revert plain
    decide

theorem root_full_name (definition : Definition) : (root definition).fullName = definition.name := by
  obtain ⟨name, short, help, arguments, flags, commands⟩ := definition
  rfl

theorem root_first (definition : Definition) : ∃ below, (root definition).nodes = root definition :: below := by
  rw [nodes_of_root, sites_head, List.map_cons, ← root_at_site]
  exact ⟨_, rfl⟩

/-- The root alone can have the name that no message shows, and it fails under this name
because of its arguments and flags. -/
theorem fails_as_reset_iff (named : ∀ node ∈ (root definition).nodes, ShellName node.name)
    (fails : (root definition).verifyTree = .error error) :
    error.fullName = "txtrst" ↔ definition.name = "txtrst" ∧ ¬ Bare definition := by
  constructor
  · intro reset
    obtain ⟨before, node, after, split, -, failure⟩ := verify_all_error_iff.mp fails
    obtain ⟨rest, name, words, alone⟩ := full_name_words named (show node ∈ _ by simp [split])
    have resetWords : ∀ word ∈ ["txtrst"], ShellName word := by
      simp only [List.mem_singleton, forall_eq]
      exact plain_name_iff.mp (by decide)
    rw [verify_error_name failure, name] at reset
    have single : definition.name :: rest = ["txtrst"] :=
      joined_words_inj words resetWords (by simp) (by simp) (reset.trans String.intercalate_singleton.symm)
    obtain ⟨isReset, rfl⟩ := List.cons.inj single
    rw [alone rfl, root_at_site] at failure
    refine ⟨isReset, fun bare => ?_⟩
    rw [verify_site_ok (root_keeps_rules_iff.mpr fun _ => bare)] at failure
    cases failure
  · rintro ⟨isReset, crowded⟩
    have inner : definition.commands ≠ [] := by
      intro leaf
      rw [root, leaf_passes leaf] at fails
      cases fails
    obtain ⟨own, failure, -⟩ := verify_site_error (mt root_keeps_rules_iff.mp fun rule => crowded (rule inner))
    rw [← root_at_site] at failure
    obtain ⟨below, nodes⟩ := root_first definition
    have atRoot : (root definition).verifyTree = .error own := by
      rw [verifyTree, nodes]
      exact verify_all_first (List.forall_mem_nil _) failure
    have same : error = own := Except.error.inj (fails.symm.trans atRoot)
    rw [same, verify_error_name failure, root_full_name, isReset]

/-- If a tree of plain names breaks a rule, the message is about the first node that does.
It shows the full name of this node as it is, and in green on a colour terminal, unless
the root is named `txtrst` and has arguments or flags beside its subcommands. -/
theorem message_shows_name_unless_reset (definition : Definition)
    (named : ∀ node ∈ (root definition).nodes, ShellName node.name)
    (fails : (root definition).verifyTree = .error error) :
    (∃ before node after, (root definition).nodes = before ++ node :: after ∧
      (∀ passed ∈ before, passed.verify = .ok ()) ∧ node.verify = .error error ∧
        error.fullName = node.fullName) ∧
    ∀ enabled, Markup.colorize enabled error.message = sentence (shownName enabled) error ↔
      ¬ (definition.name = "txtrst" ∧ ¬ Bare definition) := by
  obtain ⟨before, node, after, split, passed, failure⟩ := verify_all_error_iff.mp fails
  have name := verify_error_name failure
  refine ⟨⟨before, node, after, split, passed, failure, name⟩, fun enabled => ?_⟩
  have unmarked : Unmarked error.fullName.toList := by
    rw [name]
    exact full_name_unmarked named (by simp [split])
  rw [message_legible_iff unmarked, ← fails_as_reset_iff named fails]

/-- A command two levels down, named as its message shows it. -/
theorem message_shows_remote :
    let definition : Definition :=
      { name := "git", commands := [{ name := "remote", commands := [{ name := "add_1-b" }] }] }
    let error : StructureError := .nestedCommands "git remote"
    (∀ node ∈ (root definition).nodes, ShellName node.name) ∧ (root definition).verifyTree = .error error ∧
      Markup.colorize false error.message =
        "Error in the git remote command.\nNested commands are not supported." ∧
      Markup.colorize true error.message =
        "Error in the \x1b[0;32mgit remote\x1b[0m command.\nNested commands are not supported." := by
  intro definition error
  have named : ∀ node ∈ (root definition).nodes, ShellName node.name := by
    simp only [← plain_name_iff]
    decide
  have fails : (root definition).verifyTree = .error error := rfl
  have other : ¬ (definition.name = "txtrst" ∧ ¬ Bare definition) := fun reset => by simp [definition] at reset
  have shows := (message_shows_name_unless_reset definition named fails).2
  exact ⟨named, fails, (shows false).mpr other, (shows true).mpr other⟩

/-- A root named `txtrst` with an argument beside its subcommand. -/
theorem message_hides_reset_name :
    let definition : Definition :=
      { name := "txtrst", arguments := [{ name := "file" }], commands := [{ name := "run" }] }
    let error : StructureError := .argumentsBesideCommands "txtrst"
    (∀ node ∈ (root definition).nodes, ShellName node.name) ∧ (root definition).verifyTree = .error error ∧
      ∀ enabled, Markup.colorize enabled error.message ≠ sentence (shownName enabled) error := by
  intro definition error
  refine ⟨?_, rfl, fun enabled => ?_⟩
  · simp only [← plain_name_iff]
    decide
  · have unmarked : Unmarked error.fullName.toList := by
      unfold Unmarked
      decide
    exact fun same => (message_legible_iff unmarked).mp same rfl

end CommandPlan.ErrorMessages
