import CommandPlan.Proofs.LintLoops

/-! What a tree without findings is known to keep, rule by rule. A loop that reports
clashes with an earlier item is silent where no two items clash. The loop over words
lets two names meet, so it is silent on distinct owners only where names differ. -/
namespace CommandPlan.LintSilence
open Lint LintLoops

variable {parent name : String} {command node : Command} {commands : List Command}
variable {flags : List Flag} {arguments : List Argument} {selector : Selector} {selectors : List Selector}

/-! ## Functions -/

theorem function_finding_nil_iff {earlier : List Command} : functionFinding parent earlier command = [] ↔
    ∀ first ∈ earlier, first.functionName ≠ command.functionName := by
  unfold functionFinding
  split
  · rename_i first found
    have same := List.find?_some found
    have member := List.mem_of_find?_eq_some found
    simp only [decide_eq_true_eq] at same
    simp only [List.cons_ne_nil, false_iff]
    exact fun distinct => distinct first member same
  · rename_i unused
    simpa using unused

/-- No finding about functions means that no two subcommands share one. -/
theorem shared_functions_nil_iff : sharedFunctions parent [] commands = [] ↔
    commands.Pairwise fun first second => first.functionName ≠ second.functionName := by
  rw [shared_functions_gather, gather_nil_iff, pairwise_iff_behind]
  simp only [List.nil_append, function_finding_nil_iff]

/-! ## Words -/

theorem alias_finding_nil_iff {earlier : List Selector} : aliasFinding parent earlier selector = [] ↔
    ∀ first, earlier.find? (·.word = selector.word) = some first →
      first.index = selector.index ∨ selector.isShort = false ∧ first.isShort = false := by
  unfold aliasFinding
  cases earlier.find? (·.word = selector.word) with
  | none => simp
  | some first =>
    simp only [ite_eq_right_iff, List.cons_ne_nil, imp_false, Option.some.injEq, forall_eq']
    rw [Classical.not_and_iff_not_or_not, Classical.not_not, not_or, Bool.not_eq_true, Bool.not_eq_true]

/-- Every word selects one subcommand only. -/
def Owned (selectors : List Selector) : Prop :=
  ∀ first ∈ selectors, ∀ second ∈ selectors, first.word = second.word → first.index = second.index

/-- No two subcommands have the same name. -/
def NamesApart (selectors : List Selector) : Prop :=
  ∀ first ∈ selectors, ∀ second ∈ selectors, first.word = second.word →
    first.isShort = false → second.isShort = false → first.index = second.index

/-- In a silent list the first use of a word decides who owns it. -/
theorem owner_of_first (apart : NamesApart selectors) (quiet : takenAliases parent [] selectors = [])
    {first : Selector} (member : selector ∈ selectors)
    (found : selectors.find? (·.word = selector.word) = some first) : first.index = selector.index := by
  rw [taken_aliases_gather, gather_nil_iff] at quiet
  obtain ⟨before, after, split⟩ := List.append_of_mem member
  have silent := quiet before selector after split
  rw [List.nil_append, alias_finding_nil_iff] at silent
  rw [split, List.find?_append, List.find?_cons_of_pos (by simp)] at found
  cases behind : before.find? (·.word = selector.word) with
  | none =>
    rw [behind, Option.none_or] at found
    rw [Option.some.inj found]
  | some other =>
    rw [behind, Option.some_or] at found
    obtain rfl := Option.some.inj found
    rcases silent other behind with same | ⟨ownName, otherName⟩
    · exact same
    · have word : other.word = selector.word := by simpa using List.find?_some behind
      have firstMember : other ∈ selectors := by
        rw [split]
        exact List.mem_append_left _ (List.mem_of_find?_eq_some behind)
      exact apart other firstMember selector member word otherName ownName

theorem taken_aliases_nil_iff (apart : NamesApart selectors) :
    takenAliases parent [] selectors = [] ↔ Owned selectors := by
  constructor
  · intro quiet first firstMember second secondMember word
    have used : (selectors.find? (·.word = second.word)).isSome := by
      rw [List.find?_isSome]
      exact ⟨second, secondMember, by simp⟩
    obtain ⟨owner, found⟩ := Option.isSome_iff_exists.mp used
    have owns := owner_of_first apart quiet secondMember found
    rw [← word] at found
    exact (owner_of_first apart quiet firstMember found).symm.trans owns
  · intro owned
    rw [taken_aliases_gather, gather_nil_iff]
    intro before item after split
    rw [List.nil_append, alias_finding_nil_iff]
    intro first found
    have word : first.word = item.word := by simpa using List.find?_some found
    have earlier := List.mem_of_find?_eq_some found
    exact .inl (owned first (by simp [split, earlier]) item (by simp [split]) word)

theorem mem_selectors_of {index : Nat} : selector ∈ selectorsOf index command ↔
    selector.index = index ∧ selector.owner = command.name ∧
      (selector.isShort = false ∧ selector.word = command.name ∨
        selector.isShort = true ∧ command.short = some selector.word) := by
  obtain ⟨word, isShort, place, owner⟩ := selector
  cases short : command.short <;> simp only [selectorsOf, short] <;> grind

theorem mem_selectors : selector ∈ Lint.selectors commands ↔
    ∃ command, commands[selector.index]? = some command ∧ selector.owner = command.name ∧
      (selector.isShort = false ∧ selector.word = command.name ∨
        selector.isShort = true ∧ command.short = some selector.word) := by
  simp only [Lint.selectors, List.mem_flatMap, Prod.exists, List.mem_zipIdx_iff_getElem?, mem_selectors_of]
  constructor
  · rintro ⟨command, index, at_, rfl, rest⟩
    exact ⟨command, at_, rest⟩
  · rintro ⟨command, at_, rest⟩
    exact ⟨command, selector.index, at_, rfl, rest⟩

/-! ## Flags and arguments -/

theorem is_single_character_iff {text : String} : isSingleCharacter text = true ↔ text.length = 1 := by
  simp [isSingleCharacter]

theorem flag_finding_nil_iff {earlier : List Flag} {flag : Flag} : flagFinding name earlier flag = [] ↔
    (∀ first ∈ earlier, first.name ≠ flag.name) ∧ (∀ short, flag.short = some short → short.length = 1) ∧
      ∀ first ∈ earlier, ∀ short, flag.short = some short → first.short ≠ some short := by
  unfold flagFinding shortFinding
  rw [List.append_eq_nil_iff]
  refine and_congr (by simp) ?_
  cases flag.short with
  | none => simp
  | some short =>
    by_cases single : short.length = 1
    · simp [is_single_character_iff.mpr single, single]
    · have long : isSingleCharacter short = false := by simpa [isSingleCharacter] using single
      simp [long, single]

theorem flag_findings_nil_iff : flagFindings name [] [] flags = [] ↔
    (flags.Pairwise fun first second => first.name ≠ second.name) ∧
      (∀ flag ∈ flags, ∀ short, flag.short = some short → short.length = 1) ∧
      flags.Pairwise fun first second => ∀ short, second.short = some short → first.short ≠ some short := by
  rw [flag_findings_gather, gather_nil_iff]
  simp only [pairwise_iff_behind, forall_mem_iff_behind, List.nil_append, flag_finding_nil_iff, forall_and]

theorem order_finding_nil_iff {earlier : List Argument} {argument : Argument} :
    orderFinding name earlier argument = [] ↔
      ∀ first ∈ earlier, argument.required = true → first.required = true := by
  unfold orderFinding
  split
  · rename_i optional required found
    have member := List.mem_of_find?_eq_some found
    have skipped := List.find?_some found
    simp only [List.cons_ne_nil, false_iff]
    intro kept
    simp [kept optional member required] at skipped
  · rename_i other
    simp only [true_iff]
    intro first member required
    refine Classical.byContradiction fun skipped => ?_
    have found : (earlier.find? (!·.required)).isSome := by
      rw [List.find?_isSome]
      exact ⟨first, member, by simpa using skipped⟩
    obtain ⟨optional, atFirst⟩ := Option.isSome_iff_exists.mp found
    exact other optional required atFirst

theorem argument_order_nil_iff : argumentOrder name none arguments = [] ↔
    arguments.Pairwise fun first second => second.required = true → first.required = true := by
  rw [argument_order_gather, gather_nil_iff, pairwise_iff_behind]
  simp only [List.nil_append, order_finding_nil_iff]

/-! ## One node -/

theorem command_short_nil_iff :
    commandShort command = [] ↔ ∀ short, command.short = some short → short.length = 1 := by
  unfold commandShort
  cases command.short <;> simp [is_single_character_iff]

theorem invalid_names_nil_iff :
    invalidNames command = [] ↔ ∀ name ∈ namesOf command, isPlainName name = true := by
  simp [invalidNames, List.filter_eq_nil_iff]

theorem lint_nil_iff : command.lint = [] ↔ ∀ node ∈ command.nodes, node.lintNode = [] := by
  simp [Command.lint, List.flatMap_eq_nil_iff]

/-- A node without findings brings only plain names, and its subcommands generate
different functions. -/
theorem quiet_node (quiet : node.lintNode = []) : isPlainName node.name = true ∧
    node.commands.Pairwise fun first second => first.functionName ≠ second.functionName := by
  simp only [Command.lintNode, List.append_eq_nil_iff] at quiet
  obtain ⟨⟨⟨⟨⟨functions, -⟩, -⟩, -⟩, -⟩, names⟩ := quiet
  exact ⟨invalid_names_nil_iff.mp names node.name (by simp [namesOf]),
    shared_functions_nil_iff.mp functions⟩

theorem not_plain_empty : isPlainName "" = false := by
  rfl

end CommandPlan.LintSilence
