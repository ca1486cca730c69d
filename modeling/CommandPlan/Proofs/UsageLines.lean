import CommandPlan.Proofs.FullNames
import CommandPlan.Structure

/-! What a usage line tells about its command. The words behind the full name are read back
one by one, and each tells an argument with its brackets, so a line tells all arguments. One
word can mean two things: an optional argument named `command` is written as the mark for
subcommands is. -/
namespace CommandPlan.UsageLines
open Command CleanTrees FullNames

/-- The mark for subcommands. -/
def commandMark : String := "[command]"

/-- The mark for options, at the end of every line. -/
def optionMark : String := "[options]"

/-- The words between the full name and the mark for options. -/
def usageWords (command : Command) : List String :=
  (if command.isLeaf then [] else [commandMark]) ++ command.arguments.map Argument.usage

/-- Both commands have subcommands or none has, and their arguments agree one by one in what
they are named and in whether they are required. -/
def Alike (first second : Command) : Prop :=
  first.isLeaf = second.isLeaf ∧
    first.arguments.map (fun argument => (argument.name, argument.required)) =
      second.arguments.map fun argument => (argument.name, argument.required)

/-- An argument that is written as the mark for subcommands. -/
def ReadsAsMark (argument : Argument) : Prop :=
  argument.name = "command" ∧ argument.required = false

/-- The first command is a leaf whose one argument makes it look like the second, which has
subcommands. -/
def PosesAs (leaf group : Command) : Prop :=
  leaf.isLeaf = true ∧ group.isLeaf = false ∧ ∃ argument, leaf.arguments = [argument] ∧ ReadsAsMark argument

/-- The mark for subcommands stands right behind the full name. -/
def MarkFollows (command : Command) : Prop :=
  ∃ rest, command.usage = command.fullName ++ " " ++ commandMark ++ " " ++ rest

variable {command first second : Command} {argument other : Argument} {arguments others : List Argument}

/-! ## Words -/

/-- The line is the full name and its words, and the last word is the mark for options. -/
theorem usage_line (command : Command) :
    command.usage = command.fullName ++ " " ++ " ".intercalate (usageWords command ++ [optionMark]) := by
  have parts : command.usageParts = command.fullName :: (usageWords command ++ [optionMark]) := by
    simp [usageParts, usageWords, commandMark, optionMark]
  obtain ⟨head, tail, cut⟩ : ∃ head tail, usageWords command ++ [optionMark] = head :: tail :=
    List.exists_cons_of_ne_nil (by simp)
  rw [usage, parts, cut, String.intercalate_cons_cons]

theorem no_bracket_of_shell_name {name : String} (named : ShellName name) : '[' ∉ name.toList := by
  intro member
  have bracket := shell_name_char named member
  unfold LetterOrDigit at bracket
  revert bracket
  decide

theorem required_usage (required : argument.required = true) : argument.usage = argument.name := by
  rw [Argument.usage, if_pos required]

theorem optional_usage (optional : argument.required = false) : argument.usage = "[" ++ argument.name ++ "]" := by
  rw [Argument.usage, if_neg (by simp [optional])]

theorem bracketed_inj {a b : String} : "[" ++ a ++ "]" = "[" ++ b ++ "]" ↔ a = b := by
  rw [String.append_left_inj, String.append_right_inj]

theorem bracketed_ne_plain {a name : String} (named : ShellName name) : "[" ++ a ++ "]" ≠ name := by
  rintro rfl
  exact no_bracket_of_shell_name named (by simp)

/-- The word of an argument tells its name and whether it is required. -/
theorem argument_usage_inj (named : ShellName argument.name) (otherNamed : ShellName other.name) :
    argument.usage = other.usage ↔ (argument.name, argument.required) = (other.name, other.required) := by
  rw [Prod.mk.injEq]
  cases required : argument.required with
  | true =>
    rw [required_usage required]
    cases otherRequired : other.required with
    | true => simp [required_usage otherRequired]
    | false =>
      rw [optional_usage otherRequired]
      have apart := bracketed_ne_plain (a := other.name) named
      exact ⟨fun same => absurd same.symm apart, fun ⟨_, impossible⟩ => by cases impossible⟩
  | false =>
    rw [optional_usage required]
    cases otherRequired : other.required with
    | true =>
      rw [required_usage otherRequired]
      have apart := bracketed_ne_plain (a := argument.name) otherNamed
      exact ⟨fun same => absurd same apart, fun ⟨_, impossible⟩ => by cases impossible⟩
    | false => simp [optional_usage otherRequired]

theorem mark_usage_iff (named : ShellName argument.name) : argument.usage = commandMark ↔ ReadsAsMark argument := by
  have mark : commandMark = "[" ++ "command" ++ "]" := by decide
  cases required : argument.required with
  | true =>
    rw [required_usage required, mark]
    have apart := bracketed_ne_plain (a := "command") named
    constructor
    · intro same
      exact absurd same.symm apart
    · rintro ⟨-, optional⟩
      rw [required] at optional
      cases optional
  | false =>
    rw [optional_usage required, mark, bracketed_inj]
    exact ⟨fun same => ⟨same, required⟩, And.left⟩

theorem blankless_usage (named : ShellName argument.name) : ' ' ∉ argument.usage.toList := by
  have plain := no_blank_of_shell_name named
  cases required : argument.required with
  | true => rwa [required_usage required]
  | false =>
    rw [optional_usage required]
    simpa using plain

theorem blankless_words (named : ∀ argument ∈ command.arguments, ShellName argument.name) :
    ∀ word ∈ usageWords command ++ [optionMark], ' ' ∉ word.toList := by
  have ofArguments : ∀ word ∈ command.arguments.map Argument.usage, ' ' ∉ word.toList := by
    intro word member
    obtain ⟨argument, among, rfl⟩ := List.mem_map.mp member
    exact blankless_usage (named argument among)
  intro word member
  rcases List.mem_append.mp member with inWords | atEnd
  · rcases List.mem_append.mp inWords with isMark | ofArgument
    · have mark : word = commandMark := by
        split at isMark
        · cases isMark
        · exact List.mem_singleton.mp isMark
      rw [mark]
      decide
    · exact ofArguments word ofArgument
  · rw [List.mem_singleton.mp atEnd]
    decide

/-- Under one full name, equal lines have equal words. -/
theorem words_of_usage (sameName : first.fullName = second.fullName)
    (firstNamed : ∀ argument ∈ first.arguments, ShellName argument.name)
    (secondNamed : ∀ argument ∈ second.arguments, ShellName argument.name) :
    first.usage = second.usage ↔ usageWords first = usageWords second := by
  constructor
  · intro same
    rw [usage_line, usage_line, sameName, String.append_right_inj] at same
    have words := blankless_words_inj (blankless_words firstNamed) (blankless_words secondNamed)
      (by simp) (by simp) same
    exact List.append_cancel_right words
  · intro same
    rw [usage_line, usage_line, sameName, same]

/-! ## Arguments -/

theorem arguments_of_words (named : ∀ argument ∈ arguments, ShellName argument.name)
    (othersNamed : ∀ argument ∈ others, ShellName argument.name) :
    arguments.map Argument.usage = others.map Argument.usage ↔
      arguments.map (fun argument => (argument.name, argument.required)) =
        others.map fun argument => (argument.name, argument.required) := by
  induction arguments generalizing others with
  | nil => cases others <;> simp
  | cons argument arguments ih =>
    cases others with
    | nil => simp
    | cons other others =>
      obtain ⟨here, later⟩ := List.forall_mem_cons.mp named
      obtain ⟨otherHere, othersLater⟩ := List.forall_mem_cons.mp othersNamed
      simp only [List.map_cons, List.cons.injEq]
      rw [argument_usage_inj here otherHere, ih later othersLater]

/-- A command that is verified has no arguments beside its subcommands. -/
theorem group_without_arguments (verified : command.verify = .ok ()) (group : command.isLeaf = false) :
    command.arguments = [] := by
  unfold verify at verified
  rw [if_neg (by simp [group])] at verified
  split at verified
  · cases verified
  · rename_i bare
    simp only [Bool.or_eq_true, Bool.not_eq_true', not_or, Bool.not_eq_false, List.isEmpty_iff] at bare
    exact bare.1

theorem group_words (verified : command.verify = .ok ()) (group : command.isLeaf = false) :
    usageWords command = [commandMark] := by
  rw [usageWords, group, group_without_arguments verified group]
  rfl

theorem leaf_words (leaf : command.isLeaf = true) : usageWords command = command.arguments.map Argument.usage := by
  rw [usageWords, if_pos leaf, List.nil_append]

/-- A leaf has the words of a group if and only if it poses as one. -/
theorem poses_iff (leaf : first.isLeaf = true) (group : second.isLeaf = false)
    (named : ∀ argument ∈ first.arguments, ShellName argument.name) :
    usageWords first = [commandMark] ↔ PosesAs first second := by
  rw [leaf_words leaf, List.map_eq_singleton_iff]
  constructor
  · rintro ⟨argument, alone, written⟩
    have plain := named argument (by simp [alone])
    exact ⟨leaf, group, argument, alone, (mark_usage_iff plain).mp written⟩
  · rintro ⟨-, -, argument, alone, reads⟩
    have plain := named argument (by simp [alone])
    exact ⟨argument, alone, (mark_usage_iff plain).mpr reads⟩

theorem alike_words (verified : first.verify = .ok ()) (otherVerified : second.verify = .ok ())
    (kind : first.isLeaf = second.isLeaf)
    (firstNamed : ∀ argument ∈ first.arguments, ShellName argument.name)
    (secondNamed : ∀ argument ∈ second.arguments, ShellName argument.name) :
    usageWords first = usageWords second ↔ Alike first second := by
  cases leaf : first.isLeaf with
  | true =>
    have otherLeaf : second.isLeaf = true := kind.symm.trans leaf
    rw [leaf_words leaf, leaf_words otherLeaf, arguments_of_words firstNamed secondNamed]
    exact ⟨fun same => ⟨kind, same⟩, And.right⟩
  | false =>
    have otherGroup : second.isLeaf = false := kind.symm.trans leaf
    have bare := group_without_arguments verified leaf
    have otherBare := group_without_arguments otherVerified otherGroup
    rw [group_words verified leaf, group_words otherVerified otherGroup]
    simp [Alike, kind, bare, otherBare]

/-- Verified commands of one full name have the same usage line if and only if they are
alike, or one of them poses as the other. -/
theorem same_usage_iff (verified : first.verify = .ok ()) (otherVerified : second.verify = .ok ())
    (sameName : first.fullName = second.fullName)
    (firstNamed : ∀ argument ∈ first.arguments, ShellName argument.name)
    (secondNamed : ∀ argument ∈ second.arguments, ShellName argument.name) :
    first.usage = second.usage ↔ Alike first second ∨ PosesAs first second ∨ PosesAs second first := by
  rw [words_of_usage sameName firstNamed secondNamed]
  by_cases kind : first.isLeaf = second.isLeaf
  · have neither : ¬ (PosesAs first second ∨ PosesAs second first) := by
      rintro (⟨leaf, group, -⟩ | ⟨leaf, group, -⟩) <;> simp [leaf, group] at kind
    rw [alike_words verified otherVerified kind firstNamed secondNamed]
    exact (or_iff_left neither).symm
  · have notAlike : ¬ Alike first second := fun alike => kind alike.1
    rw [or_iff_right notAlike]
    cases leaf : first.isLeaf with
    | true =>
      have group : second.isLeaf = false := by simpa [leaf] using kind
      have other : ¬ PosesAs second first := fun poses => by simp [poses.1] at group
      rw [group_words otherVerified group, poses_iff leaf group firstNamed, or_iff_left other]
    | false =>
      have otherLeaf : second.isLeaf = true := by simpa [leaf] using kind
      have other : ¬ PosesAs first second := fun poses => by simp [poses.1] at leaf
      rw [group_words verified leaf, or_iff_right other, ← poses_iff otherLeaf leaf secondNamed]
      exact eq_comm

/-! ## The mark -/

/-- The first word of a line ends at its first blank. -/
theorem first_word_unique {word mark rest tail : String} (wordBlankless : ' ' ∉ word.toList)
    (markBlankless : ' ' ∉ mark.toList) (same : word ++ " " ++ rest = mark ++ " " ++ tail) : word = mark := by
  have cut := congrArg (List.splitOn ' ' ·.toList) same
  have blank : " ".toList = [' '] := rfl
  simp only [String.toList_append, blank, List.append_assoc, List.singleton_append] at cut
  rw [List.splitOn_append_cons_self_of_not_mem wordBlankless,
    List.splitOn_append_cons_self_of_not_mem markBlankless] at cut
  exact String.toList_inj.mp (List.cons.inj cut).1

/-- The mark stands behind the full name if and only if it is the first word. -/
theorem mark_follows_iff (named : ∀ argument ∈ command.arguments, ShellName argument.name) :
    MarkFollows command ↔ ∃ later, usageWords command = commandMark :: later := by
  have markBlankless : ' ' ∉ commandMark.toList := by decide
  have blankless := blankless_words named
  rw [MarkFollows, usage_line]
  constructor
  · rintro ⟨rest, same⟩
    simp only [String.append_assoc, String.append_right_inj] at same
    cases words : usageWords command with
    | nil =>
      -- The line ends with its first word, and behind the mark there is a blank.
      rw [words, List.nil_append, String.intercalate_singleton] at same
      have blank : ' ' ∈ optionMark.toList := by
        rw [same]
        simp
      exact absurd blank (by decide)
    | cons word later =>
      obtain ⟨second, tail, cut⟩ : ∃ second tail, later ++ [optionMark] = second :: tail :=
        List.exists_cons_of_ne_nil (by simp)
      rw [words, List.cons_append, cut, String.intercalate_cons_cons, ← String.append_assoc] at same
      have wordBlankless : ' ' ∉ word.toList := blankless word (by simp [words])
      obtain rfl := first_word_unique wordBlankless markBlankless same
      exact ⟨later, rfl⟩
  · rintro ⟨later, words⟩
    obtain ⟨second, tail, cut⟩ : ∃ second tail, later ++ [optionMark] = second :: tail :=
      List.exists_cons_of_ne_nil (by simp)
    refine ⟨" ".intercalate (second :: tail), ?_⟩
    rw [words, List.cons_append, cut, String.intercalate_cons_cons]
    simp only [String.append_assoc]

/-- So it is for a command with subcommands, and for a leaf whose first argument reads as
the mark. -/
theorem mark_follows_cases (named : ∀ argument ∈ command.arguments, ShellName argument.name) :
    MarkFollows command ↔
      command.isLeaf = false ∨ ∃ argument later, command.arguments = argument :: later ∧ ReadsAsMark argument := by
  rw [mark_follows_iff named]
  constructor
  · rintro ⟨later, words⟩
    cases leaf : command.isLeaf with
    | false => exact .inl rfl
    | true =>
      rw [leaf_words leaf] at words
      obtain ⟨argument, behind, split, written, -⟩ := List.map_eq_cons_iff.mp words
      have plain := named argument (by simp [split])
      exact .inr ⟨argument, behind, split, (mark_usage_iff plain).mp written⟩
  · intro follows
    cases leaf : command.isLeaf with
    | false => exact ⟨command.arguments.map Argument.usage, by simp [usageWords, leaf]⟩
    | true =>
      obtain ⟨argument, later, split, reads⟩ := follows.resolve_left (by simp [leaf])
      have plain := named argument (by simp [split])
      refine ⟨later.map Argument.usage, ?_⟩
      rw [leaf_words leaf, split, List.map_cons, (mark_usage_iff plain).mpr reads]

/-- Two verified commands of one full name have the same usage line if and only if they are
alike or one of them poses as the other. So a line tells the arguments, and whether there
are subcommands, exactly where neither poses as the other; and the mark for subcommands
stands behind the full name exactly if there are some or the first argument reads as it. -/
theorem usage_tells_arguments_unless_posing (verified : first.verify = .ok ()) (otherVerified : second.verify = .ok ())
    (sameName : first.fullName = second.fullName)
    (firstNamed : ∀ argument ∈ first.arguments, ShellName argument.name)
    (secondNamed : ∀ argument ∈ second.arguments, ShellName argument.name) :
    (first.usage = second.usage ↔ Alike first second ∨ PosesAs first second ∨ PosesAs second first) ∧
    ((first.usage = second.usage → Alike first second) ↔ ¬ (PosesAs first second ∨ PosesAs second first)) ∧
    (MarkFollows first ↔
      first.isLeaf = false ∨ ∃ argument later, first.arguments = argument :: later ∧ ReadsAsMark argument) := by
  have usage := same_usage_iff verified otherVerified sameName firstNamed secondNamed
  refine ⟨usage, ?_, mark_follows_cases firstNamed⟩
  rw [usage]
  constructor
  · intro tells poses
    have kind := (tells (.inr poses)).1
    rcases poses with ⟨leaf, group, -⟩ | ⟨leaf, group, -⟩ <;> simp [leaf, group] at kind
  · intro neither same
    exact same.resolve_right neither

/-- A leaf with the optional argument `command`. -/
def posingLeaf : Command :=
  root { name := "x", arguments := [{ name := "command" }] }

/-- A command with a subcommand. -/
def plainGroup : Command :=
  root { name := "x", commands := [{ name := "a" }] }

/-- The line of the leaf is that of the group. -/
theorem posing_leaf_reads_as_group :
    posingLeaf.verify = .ok () ∧ plainGroup.verify = .ok () ∧ posingLeaf.fullName = plainGroup.fullName ∧
      (∀ argument ∈ posingLeaf.arguments ++ plainGroup.arguments, ShellName argument.name) ∧
      posingLeaf.usage = plainGroup.usage ∧ ¬ Alike posingLeaf plainGroup ∧
      MarkFollows posingLeaf ∧ posingLeaf.isLeaf = true := by
  have named : ∀ argument ∈ posingLeaf.arguments ++ plainGroup.arguments, ShellName argument.name := by
    simp only [← plain_name_iff]
    decide
  have differ : ¬ Alike posingLeaf plainGroup := fun alike => absurd alike.1 (by decide)
  have follows : MarkFollows posingLeaf := ⟨"[options]", by decide⟩
  exact ⟨rfl, rfl, rfl, named, by decide, differ, follows, rfl⟩

/-- With an argument of nearly the same name, the lines of a leaf and of a group differ. -/
theorem usage_tells_commands :
    let leaf := root { name := "x", arguments := [{ name := "commands" }, { name := "command" }] }
    leaf.verify = .ok () ∧ plainGroup.verify = .ok () ∧ leaf.fullName = plainGroup.fullName ∧
      (∀ argument ∈ leaf.arguments, ShellName argument.name) ∧
      (∀ argument ∈ plainGroup.arguments, ShellName argument.name) ∧
      leaf.usage ≠ plainGroup.usage ∧ ¬ MarkFollows leaf := by
  intro leaf
  have named : ∀ argument ∈ leaf.arguments, ShellName argument.name := by
    simp only [← plain_name_iff]
    decide
  have groupNamed : ∀ argument ∈ plainGroup.arguments, ShellName argument.name := nofun
  have verified : leaf.verify = .ok () := rfl
  have groupVerified : plainGroup.verify = .ok () := rfl
  obtain ⟨-, tells, follows⟩ := usage_tells_arguments_unless_posing verified groupVerified rfl named groupNamed
  refine ⟨verified, groupVerified, rfl, named, groupNamed, fun same => ?_, fun mark => ?_⟩
  · have neither : ¬ (PosesAs leaf plainGroup ∨ PosesAs plainGroup leaf) := by
      rintro (⟨-, -, argument, alone, -⟩ | ⟨isLeaf, -, -⟩)
      · have two : leaf.arguments.length = 2 := rfl
        rw [alone] at two
        cases two
      · exact absurd isLeaf (by decide)
    exact absurd (tells.mpr neither same).1 (by decide)
  · rcases follows.mp mark with group | ⟨argument, later, split, reads, -⟩
    · exact absurd group (by decide)
    · obtain ⟨rfl, -⟩ := List.cons.inj split
      exact absurd reads (by decide)

end CommandPlan.UsageLines
