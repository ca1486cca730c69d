import CommandPlan.Proofs.Addresses
import CommandPlan.Proofs.CleanTrees
import CommandPlan.Proofs.TreeRules

/-! Full names and the places that they stand for. A full name is the names on the way
to a place, joined with blanks, so places meet in one full name as soon as names may
hold blanks or be empty. In a tree without findings they may not, and siblings differ
in their names because they differ in their functions: there a full name tells the
place, under any name that the whole tree is built below. -/
namespace CommandPlan.FullNames
open Command TreeSites TreeRules Lint LintSilence CleanTrees Addresses

/-- The names on the way to a place, its own included. -/
def trail (site : Site) : List String :=
  site.above ++ [site.definition.name]

variable {parent : Option String} {definition : Definition} {site : Site} {above own : List String}
variable {first second : List String}

/-! ## Trails -/

/-- Below a place all trails go on from its own, with names that stand in the tree. -/
def Continues (above : List String) (among : List Site) (site : Site) (name : String) : Prop :=
  ∃ rest, trail site = above ++ name :: rest ∧
    ∀ word ∈ name :: rest, ∃ other ∈ among, other.definition.name = word

mutual

theorem sites_continue (above : List String) : ∀ definition : Definition,
    ∀ site ∈ sites above definition, Continues above (sites above definition) site definition.name
  | ⟨name, short, help, arguments, flags, commands⟩ => by
    intro site member
    rw [sites] at member ⊢
    rcases List.mem_cons.mp member with rfl | below
    · exact ⟨[], rfl, by simp⟩
    · obtain ⟨child, -, rest, goesOn, named⟩ := sites_of_continue (above ++ [name]) commands site below
      refine ⟨child.name :: rest, by simpa using goesOn, fun word inTrail => ?_⟩
      rcases List.mem_cons.mp inTrail with rfl | later
      · exact ⟨_, List.mem_cons_self, rfl⟩
      · obtain ⟨other, otherBelow, same⟩ := named word later
        exact ⟨other, List.mem_cons_of_mem _ otherBelow, same⟩

theorem sites_of_continue (above : List String) : ∀ definitions : List Definition,
    ∀ site ∈ sitesOf above definitions, ∃ child ∈ definitions,
      Continues above (sitesOf above definitions) site child.name
  | [] => nofun
  | definition :: definitions => by
    intro site member
    rw [sitesOf] at member ⊢
    rcases List.mem_append.mp member with inFirst | inRest
    · obtain ⟨rest, goesOn, named⟩ := sites_continue above definition site inFirst
      refine ⟨definition, List.mem_cons_self, rest, goesOn, fun word inTrail => ?_⟩
      obtain ⟨other, otherFirst, same⟩ := named word inTrail
      exact ⟨other, List.mem_append_left _ otherFirst, same⟩
    · obtain ⟨child, childMember, rest, goesOn, named⟩ := sites_of_continue above definitions site inRest
      refine ⟨child, List.mem_cons_of_mem _ childMember, rest, goesOn, fun word inTrail => ?_⟩
      obtain ⟨other, otherRest, same⟩ := named word inTrail
      exact ⟨other, List.mem_append_right _ otherRest, same⟩

end

/-- The subcommands at a place have different names. -/
def SiblingsDiffer (site : Site) : Prop :=
  site.definition.commands.Pairwise fun first second => first.name ≠ second.name

mutual

/-- Where siblings have different names, places have different trails. -/
theorem trails_differ (above : List String) : ∀ definition : Definition,
    (∀ site ∈ sites above definition, SiblingsDiffer site) →
      (sites above definition).Pairwise fun first second => trail first ≠ trail second
  | ⟨name, short, help, arguments, flags, commands⟩ => by
    intro differ
    rw [sites] at differ ⊢
    obtain ⟨here, below⟩ := List.forall_mem_cons.mp differ
    refine List.pairwise_cons.mpr ⟨fun site member same => ?_, trails_of_differ (above ++ [name]) commands here below⟩
    -- Whatever is below has a longer trail.
    obtain ⟨child, -, rest, goesOn, -⟩ := sites_of_continue (above ++ [name]) commands site member
    have lengths := congrArg List.length (same.trans goesOn)
    simp only [trail, List.length_append, List.length_cons, List.length_nil] at lengths
    omega

theorem trails_of_differ (above : List String) : ∀ definitions : List Definition,
    definitions.Pairwise (fun first second => first.name ≠ second.name) →
      (∀ site ∈ sitesOf above definitions, SiblingsDiffer site) →
        (sitesOf above definitions).Pairwise fun first second => trail first ≠ trail second
  | [] => fun _ _ => List.Pairwise.nil
  | definition :: definitions => by
    intro apart differ
    obtain ⟨fromFirst, apartRest⟩ := List.pairwise_cons.mp apart
    rw [sitesOf] at differ ⊢
    obtain ⟨inFirst, inRest⟩ := List.forall_mem_append.mp differ
    refine List.pairwise_append.mpr ⟨trails_differ above definition inFirst,
      trails_of_differ above definitions apartRest inRest, fun one oneMember two twoMember same => ?_⟩
    obtain ⟨oneRest, oneGoesOn, -⟩ := sites_continue above definition one oneMember
    obtain ⟨child, childMember, twoRest, twoGoesOn, -⟩ := sites_of_continue above definitions two twoMember
    have tails := List.append_cancel_left (oneGoesOn.symm.trans (same.trans twoGoesOn))
    exact fromFirst child childMember (List.cons.inj tails).1

end

/-! ## Words -/

theorem no_blank_of_shell_name {name : String} (named : ShellName name) : ' ' ∉ name.toList := by
  intro member
  have blank := shell_name_char named member
  unfold LetterOrDigit at blank
  revert blank
  decide

/-- Joined words are read back at the blanks, if they have none of their own. -/
theorem blankless_words_inj (firstWords : ∀ word ∈ first, ' ' ∉ word.toList)
    (secondWords : ∀ word ∈ second, ' ' ∉ word.toList) (firstSome : first ≠ []) (secondSome : second ≠ [])
    (same : " ".intercalate first = " ".intercalate second) : first = second := by
  have cut : first.map String.toList = second.map String.toList := by
    have texts := congrArg (List.splitOn ' ' ·.toList) same
    have blank : " ".toList = [' '] := rfl
    simp only [String.toList_intercalate, blank] at texts
    rwa [List.splitOn_intercalate ' ' (List.forall_mem_map.mpr firstWords) (by simpa using firstSome),
      List.splitOn_intercalate ' ' (List.forall_mem_map.mpr secondWords) (by simpa using secondSome)] at texts
  exact (List.map_inj_right fun _ _ => String.toList_inj.mp).mp cut

theorem joined_words_inj (firstWords : ∀ word ∈ first, ShellName word)
    (secondWords : ∀ word ∈ second, ShellName word) (firstSome : first ≠ []) (secondSome : second ≠ [])
    (same : " ".intercalate first = " ".intercalate second) : first = second :=
  blankless_words_inj (fun word member => no_blank_of_shell_name (firstWords word member))
    (fun word member => no_blank_of_shell_name (secondWords word member)) firstSome secondSome same

/-- What a tree is built below stands in front of every full name. -/
theorem join_names_below (parent : Option String) (words : ∀ word ∈ own, ShellName word) (some_ : own ≠ []) :
    joinNames (parent.toList ++ own) =
      (parentNameOf parent).elim "" (· ++ " ") ++ " ".intercalate own := by
  obtain ⟨head, rest, rfl⟩ := List.exists_cons_of_ne_nil some_
  have named : head ≠ "" := shell_name_ne_empty (words head List.mem_cons_self)
  cases parent with
  | none => simp [parentNameOf, join_names_named named]
  | some parent =>
    by_cases empty : parent = ""
    · subst empty
      simp [parentNameOf, Option.filter, join_names_blank, join_names_named named]
    · simp [parentNameOf, Option.filter, empty, join_names_named empty, String.intercalate_cons_cons]

/-! ## Silent trees -/

theorem quiet_site (quiet : (ofDefinition parent definition).lint = [])
    (member : site ∈ sites parent.toList definition) :
    ShellName site.definition.name ∧ SiblingsDiffer site := by
  have inTree : site.command ∈ (ofDefinition parent definition).nodes := by
    rw [nodes_of_definition]
    exact List.mem_map_of_mem member
  obtain ⟨plain, functions⟩ := quiet_node (lint_nil_iff.mp quiet _ inTree)
  rw [(Site.command_fields site).1, plain_name_iff] at plain
  rw [Site.command_commands, List.pairwise_map] at functions
  refine ⟨plain, functions.imp fun {one two} apart same => apart ?_⟩
  simp only [functionName, Site.command_full_name, same]

theorem full_names_differ (quiet : (ofDefinition parent definition).lint = []) :
    (ofDefinition parent definition).nodes.Pairwise fun first second => first.fullName ≠ second.fullName := by
  have trails := trails_differ parent.toList definition fun site member => (quiet_site quiet member).2
  rw [nodes_of_definition, List.pairwise_map]
  refine trails.imp_of_mem fun {one two} oneMember twoMember differ same => differ ?_
  obtain ⟨oneRest, oneTrail, oneNames⟩ := sites_continue parent.toList definition one oneMember
  obtain ⟨twoRest, twoTrail, twoNames⟩ := sites_continue parent.toList definition two twoMember
  have words : ∀ own : List String,
      (∀ word ∈ own, ∃ other ∈ sites parent.toList definition, other.definition.name = word) →
        ∀ word ∈ own, ShellName word := by
    intro own named word inOwn
    obtain ⟨other, member, rfl⟩ := named word inOwn
    exact (quiet_site quiet member).1
  have oneWords := words _ oneNames
  have twoWords := words _ twoNames
  rw [Site.command_full_name, Site.command_full_name, ← trail, ← trail, oneTrail, twoTrail,
    join_names_below parent oneWords (by simp), join_names_below parent twoWords (by simp),
    String.append_right_inj] at same
  rw [oneTrail, twoTrail, joined_words_inj oneWords twoWords (by simp) (by simp) same]

/-- Looking up a full name finds the first node that has it: the one with the least
address. In a tree without findings a full name belongs to one address only, so a
node is what its own full name finds. -/
theorem find_first_and_silent_tree_names_once (parent : Option String) (definition : Definition) :
    (∀ fullName node, (ofDefinition parent definition).find? fullName = some node ↔
      ∃ address, at? address (ofDefinition parent definition) = some node ∧ node.fullName = fullName ∧
        ∀ other < address, ∀ earlier, at? other (ofDefinition parent definition) = some earlier →
          earlier.fullName ≠ fullName) ∧
    (∀ fullName, (ofDefinition parent definition).find? fullName = none ↔
      ∀ address node, at? address (ofDefinition parent definition) = some node →
        node.fullName ≠ fullName) ∧
    ((ofDefinition parent definition).lint = [] →
      (∀ address other node second, at? address (ofDefinition parent definition) = some node →
        at? other (ofDefinition parent definition) = some second →
          node.fullName = second.fullName → address = other) ∧
      ∀ address node, at? address (ofDefinition parent definition) = some node →
        (ofDefinition parent definition).find? node.fullName = some node) := by
  refine ⟨fun fullName node => find?_eq_some_iff, fun fullName => find?_eq_none_iff, fun quiet => ?_⟩
  have apart := full_names_differ quiet
  have unique : ∀ address other node second, at? address (ofDefinition parent definition) = some node →
      at? other (ofDefinition parent definition) = some second →
        node.fullName = second.fullName → address = other :=
    fun address other node second => address_of_full_name apart
  refine ⟨unique, fun address node reached => ?_⟩
  refine find?_eq_some_iff.mpr ⟨address, reached, rfl, fun other less earlier there same => ?_⟩
  rw [unique other address earlier node there reached same] at less
  exact List.lt_irrefl _ less

end CommandPlan.FullNames
