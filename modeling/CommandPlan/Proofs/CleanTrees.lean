import CommandPlan.Proofs.LintSilence
import CommandPlan.Proofs.TreeSites

/-! A tree gives no finding if and only if every node of it is clean. The findings
come from loops that remember what they have seen; being clean is a condition on any
two items and on each item alone. Names of subcommands may meet in the loop over
words, which is no gap: in a tree that was built from a definition, subcommands of
one name share their function. -/
namespace CommandPlan.CleanTrees
open Command TreeSites Lint LintSilence

/-! ## What it is to be clean -/

def LetterOrDigit (c : Char) : Prop :=
  'A' ≤ c ∧ c ≤ 'Z' ∨ 'a' ≤ c ∧ c ≤ 'z' ∨ '0' ≤ c ∧ c ≤ '9'

/-- A letter or digit, and after it letters, digits, underscores and dashes. -/
def ShellName (name : String) : Prop :=
  ∃ first rest, name.toList = first :: rest ∧ LetterOrDigit first ∧
    ∀ c ∈ rest, LetterOrDigit c ∨ c = '_' ∨ c = '-'

/-- No required argument stands behind an optional one. -/
def RequiredFirst (arguments : List Argument) : Prop :=
  arguments.Pairwise fun first second => second.required = true → first.required = true

/-- A node that nothing can be said against, but for what is below its children. -/
structure Clean (node : Command) : Prop where
  functions : node.commands.Pairwise fun first second => first.functionName ≠ second.functionName
  words : node.commands.Pairwise fun first second => ∀ word ∈ first.aliases, word ∉ second.aliases
  short : ∀ short, node.short = some short → short.length = 1
  flags : node.flags.Pairwise fun first second => first.name ≠ second.name
  flagShort : ∀ flag ∈ node.flags, ∀ short, flag.short = some short → short.length = 1
  flagShorts : node.flags.Pairwise fun first second =>
    ∀ short, second.short = some short → first.short ≠ some short
  arguments : RequiredFirst node.arguments
  ownName : ShellName node.name
  argumentNames : ∀ argument ∈ node.arguments, ShellName argument.name
  flagNames : ∀ flag ∈ node.flags, ShellName flag.name

variable {parent : Option String} {definition : Definition} {node first second : Command}
variable {commands : List Command} {name : String} {c : Char}

/-! ## Names -/

theorem letter_or_digit_iff : c.isAlphanum = true ↔ LetterOrDigit c := by
  unfold Char.isAlphanum Char.isAlpha Char.isUpper Char.isLower Char.isDigit LetterOrDigit
  simp only [Bool.or_eq_true, Bool.and_eq_true, decide_eq_true_eq, Char.le_def]
  exact or_assoc

theorem plain_name_iff : isPlainName name = true ↔ ShellName name := by
  unfold isPlainName ShellName
  cases name.toList with
  | nil => simp
  | cons first rest =>
    simp only [Bool.and_eq_true, List.all_eq_true, Bool.or_eq_true, decide_eq_true_eq, or_assoc,
      letter_or_digit_iff]
    constructor
    · rintro ⟨atFirst, behind⟩
      exact ⟨first, rest, rfl, atFirst, behind⟩
    · rintro ⟨_, _, cut, atFirst, behind⟩
      obtain ⟨rfl, rfl⟩ := List.cons.inj cut
      exact ⟨atFirst, behind⟩

theorem shell_name_char (named : ShellName name) (member : c ∈ name.toList) :
    LetterOrDigit c ∨ c = '_' ∨ c = '-' := by
  obtain ⟨first, rest, cut, atFirst, behind⟩ := named
  rw [cut] at member
  rcases List.mem_cons.mp member with rfl | inRest
  · exact .inl atFirst
  · exact behind c inRest

theorem shell_name_ne_empty (named : ShellName name) : name ≠ "" := by
  rintro rfl
  obtain ⟨first, rest, cut, -⟩ := named
  cases cut

/-! ## Words -/

theorem index_of_clash {items : List α} {related : α → α → Prop} {i j : Nat} {a b : α}
    (pairwise : items.Pairwise related) (first : items[i]? = some a) (second : items[j]? = some b)
    (clash : ¬ related a b) (back : ¬ related b a) : i = j := by
  obtain ⟨hi, rfl⟩ := List.getElem?_eq_some_iff.mp first
  obtain ⟨hj, rfl⟩ := List.getElem?_eq_some_iff.mp second
  rw [List.pairwise_iff_getElem] at pairwise
  rcases Nat.lt_trichotomy i j with less | same | more
  · exact absurd (pairwise i j hi hj less) clash
  · exact same
  · exact absurd (pairwise j i hj hi more) back

/-- Every word of a subcommand selects it. -/
theorem selector_of_alias {i : Nat} {word : String} (place : commands[i]? = some first)
    (member : word ∈ first.aliases) :
    ∃ selector ∈ selectors commands, selector.word = word ∧ selector.index = i := by
  rcases List.mem_cons.mp member with rfl | inShort
  · exact ⟨⟨first.name, false, i, first.name⟩, mem_selectors.mpr ⟨first, place, rfl, .inl ⟨rfl, rfl⟩⟩, rfl, rfl⟩
  · have short : first.short = some word := by simpa using inShort
    exact ⟨⟨word, true, i, first.name⟩, mem_selectors.mpr ⟨first, place, rfl, .inr ⟨rfl, short⟩⟩, rfl, rfl⟩

theorem alias_of_selector {selector : Selector} (member : selector ∈ selectors commands) :
    ∃ command, commands[selector.index]? = some command ∧ selector.word ∈ command.aliases := by
  obtain ⟨command, place, -, ⟨-, word⟩ | ⟨-, short⟩⟩ := mem_selectors.mp member
  · exact ⟨command, place, by simp [aliases, word]⟩
  · exact ⟨command, place, by simp [aliases, short]⟩

theorem owned_iff : Owned (selectors commands) ↔
    commands.Pairwise fun first second => ∀ word ∈ first.aliases, word ∉ second.aliases := by
  constructor
  · intro owned
    rw [List.pairwise_iff_getElem]
    intro i j hi hj less word inFirst inSecond
    obtain ⟨one, oneMember, oneWord, oneIndex⟩ :=
      selector_of_alias (List.getElem?_eq_getElem hi) inFirst
    obtain ⟨two, twoMember, twoWord, twoIndex⟩ :=
      selector_of_alias (List.getElem?_eq_getElem hj) inSecond
    have same := owned one oneMember two twoMember (oneWord.trans twoWord.symm)
    omega
  · intro pairwise one oneMember two twoMember word
    obtain ⟨first, firstPlace, inFirst⟩ := alias_of_selector oneMember
    obtain ⟨second, secondPlace, inSecond⟩ := alias_of_selector twoMember
    rw [word] at inFirst
    exact index_of_clash pairwise firstPlace secondPlace (fun apart => apart _ inFirst inSecond)
      (fun apart => apart _ inSecond inFirst)

/-- In a built tree, subcommands of one command with the same name have the same function. -/
theorem function_of_name (inTree : node ∈ (ofDefinition parent definition).nodes)
    (firstMember : first ∈ node.commands) (secondMember : second ∈ node.commands)
    (same : first.name = second.name) : first.functionName = second.functionName := by
  have fullNames : first.fullName = second.fullName := by
    rw [child_full_name inTree firstMember, child_full_name inTree secondMember, same]
  rw [functionName, functionName, fullNames]

theorem names_apart (inTree : node ∈ (ofDefinition parent definition).nodes)
    (functions : node.commands.Pairwise fun first second => first.functionName ≠ second.functionName) :
    NamesApart (selectors node.commands) := by
  intro one oneMember two twoMember word oneName twoName
  obtain ⟨first, firstPlace, -, ⟨-, firstWord⟩ | ⟨short, -⟩⟩ := mem_selectors.mp oneMember
  · obtain ⟨second, secondPlace, -, ⟨-, secondWord⟩ | ⟨short, -⟩⟩ := mem_selectors.mp twoMember
    · have same : first.functionName = second.functionName :=
        function_of_name inTree (List.mem_of_getElem? firstPlace) (List.mem_of_getElem? secondPlace)
          (firstWord.symm.trans (word.trans secondWord))
      exact index_of_clash functions firstPlace secondPlace (fun differ => differ same)
        (fun differ => differ same.symm)
    · rw [twoName] at short
      cases short
  · rw [oneName] at short
    cases short

/-! ## Nodes and trees -/

theorem lint_node_nil_iff (inTree : node ∈ (ofDefinition parent definition).nodes) :
    node.lintNode = [] ↔ Clean node := by
  simp only [lintNode, List.append_eq_nil_iff, and_assoc, shared_functions_nil_iff,
    command_short_nil_iff, flag_findings_nil_iff, argument_order_nil_iff, invalid_names_nil_iff,
    namesOf, List.forall_mem_cons, List.forall_mem_append, List.forall_mem_map, plain_name_iff]
  constructor
  · rintro ⟨functions, words, short, flags, flagShort, flagShorts, order, own, inArguments, inFlags⟩
    rw [taken_aliases_nil_iff (names_apart inTree functions), owned_iff] at words
    exact ⟨functions, words, short, flags, flagShort, flagShorts, order, own, inArguments, inFlags⟩
  · intro clean
    refine ⟨clean.functions, ?_, clean.short, clean.flags, clean.flagShort, clean.flagShorts,
      clean.arguments, clean.ownName, clean.argumentNames, clean.flagNames⟩
    rw [taken_aliases_nil_iff (names_apart inTree clean.functions), owned_iff]
    exact clean.words

/-- Where no required argument is late, the required ones come first. -/
theorem required_then_optional {arguments : List Argument} (ordered : RequiredFirst arguments) :
    arguments = arguments.filter (·.required) ++ arguments.filter (!·.required) := by
  induction arguments with
  | nil => rfl
  | cons argument later ih =>
    obtain ⟨behind, rest⟩ := List.pairwise_cons.mp ordered
    cases required : argument.required with
    | true => simpa [required] using ih rest
    | false =>
      have optional : ∀ other ∈ later, other.required = false := by
        intro other member
        refine Bool.eq_false_iff.mpr fun late => ?_
        rw [behind other member late] at required
        cases required
      have none_required : later.filter (·.required) = [] :=
        List.filter_eq_nil_iff.mpr fun other member => by simp [optional other member]
      have all_optional : later.filter (!·.required) = later :=
        List.filter_eq_self.mpr fun other member => by simp [optional other member]
      simp [required, none_required, all_optional]

/-- The long form of a flag is never the short form of another: behind its two dashes
stands at least one character. -/
theorem long_ne_short {long short : String} (named : ShellName long) (single : short.length = 1) :
    "--" ++ long ≠ "-" ++ short := by
  intro same
  have sameLength := congrArg String.length same
  rw [String.length_append, String.length_append, single] at sameLength
  have empty : long.length = 0 := by
    have dashes : "--".length = 2 := rfl
    have dash : "-".length = 1 := rfl
    omega
  exact shell_name_ne_empty named (String.length_eq_zero_iff.mp empty)

theorem flag_aliases_apart (clean : Clean node) : node.flags.Pairwise fun first second =>
    ∀ word ∈ first.aliases, word ∉ second.aliases := by
  have both := clean.flags.and clean.flagShorts
  refine both.imp_of_mem fun {first second} firstMember secondMember ⟨names, shorts⟩ word inFirst inSecond => ?_
  simp only [Flag.aliases, List.mem_cons, Option.mem_toList, Option.map_eq_some_iff] at inFirst inSecond
  rcases inFirst with rfl | ⟨short, firstShort, rfl⟩
  · rcases inSecond with same | ⟨short, secondShort, same⟩
    · exact names ((String.append_right_inj "--").mp same)
    · exact long_ne_short (clean.flagNames first firstMember)
        (clean.flagShort second secondMember short secondShort) same.symm
  · rcases inSecond with same | ⟨other, secondShort, same⟩
    · exact long_ne_short (clean.flagNames second secondMember)
        (clean.flagShort first firstMember short firstShort) same.symm
    · have equal : other = short := (String.append_right_inj "-").mp same
      exact shorts other secondShort (by rw [firstShort, equal])

/-- A tree gives no finding if and only if all its nodes are clean. In such a tree the
required arguments of a command come before its optional ones, and no two of its flags
have an alias in common. -/
theorem lint_silent_iff_clean (parent : Option String) (definition : Definition) :
    ((ofDefinition parent definition).lint = [] ↔
      ∀ node ∈ (ofDefinition parent definition).nodes, Clean node) ∧
    ((ofDefinition parent definition).lint = [] →
      ∀ node ∈ (ofDefinition parent definition).nodes,
        node.arguments = node.requiredArguments ++ node.arguments.filter (!·.required) ∧
        node.flags.Pairwise fun first second => ∀ word ∈ first.aliases, word ∉ second.aliases) := by
  have silent : (ofDefinition parent definition).lint = [] ↔
      ∀ node ∈ (ofDefinition parent definition).nodes, Clean node := by
    rw [lint_nil_iff]
    exact forall₂_congr fun node inTree => lint_node_nil_iff inTree
  refine ⟨silent, fun quiet node inTree => ?_⟩
  have clean := silent.mp quiet node inTree
  exact ⟨required_then_optional clean.arguments, flag_aliases_apart clean⟩

/-- A command may repeat its own name as its short name. -/
example : (Command.root ⟨"git", none, none, [], [], [⟨"a", some "a", none, [], [], []⟩]⟩).lint = [] := by
  decide +kernel

end CommandPlan.CleanTrees
