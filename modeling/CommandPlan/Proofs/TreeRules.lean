import CommandPlan.Proofs.TreeSites
import CommandPlan.Structure

/-! Checking a tree finds the first place, parents before their children, that
breaks a rule. What counts as a parent is a name, so a command without a name is
none: what stands below it is checked like a root, at any depth. -/
namespace CommandPlan.TreeRules
open Command TreeSites

/-- No arguments and no flags. -/
def Bare (definition : Definition) : Prop :=
  definition.arguments = [] ∧ definition.flags = []

/-- A place with subcommands has neither arguments nor flags, and no name above it. -/
def KeepsRules (site : Site) : Prop :=
  site.definition.commands ≠ [] → Bare site.definition ∧ site.Topmost

/-- The error about a place that breaks a rule. Arguments and flags count before
the names above. -/
def FaultAt (site : Site) (fullName : String) (error : StructureError) : Prop :=
  (¬ Bare site.definition ∧ error = .argumentsBesideCommands fullName) ∨
    (Bare site.definition ∧ error = .nestedCommands fullName)

variable {site : Site} {definition : Definition} {parent : Option String}
variable {commands before after : List Command} {command : Command} {error : StructureError}

/-! ## One place -/

theorem bare_iff : Bare site.definition ↔
    (!site.command.arguments.isEmpty || !site.command.flags.isEmpty) = false := by
  obtain ⟨-, sameArguments, sameFlags⟩ := Site.command_fields site
  simp [Bare, sameArguments, sameFlags]

theorem verify_site_ok (keeps : KeepsRules site) : site.command.verify = .ok () := by
  by_cases leaf : site.definition.commands = []
  · simp [verify, Site.command_is_leaf, leaf]
  · obtain ⟨bare, topmost⟩ := keeps leaf
    have isRoot := Site.command_is_root_iff.mpr topmost
    simp [verify, bare_iff.mp bare, isRoot]

theorem verify_site_error (breaks : ¬ KeepsRules site) :
    ∃ error, site.command.verify = .error error ∧ FaultAt site site.command.fullName error := by
  obtain ⟨inner, fault⟩ := Classical.not_imp.mp breaks
  have notLeaf : site.command.isLeaf = false := by
    simpa [Site.command_is_leaf] using inner
  by_cases bare : Bare site.definition
  · have nested : site.command.isRoot = false := by
      rw [Bool.eq_false_iff, Ne, Site.command_is_root_iff]
      exact fun topmost => fault ⟨bare, topmost⟩
    refine ⟨.nestedCommands site.command.fullName, ?_, .inr ⟨bare, rfl⟩⟩
    simp [verify, notLeaf, bare_iff.mp bare, nested]
  · have crowded := (Bool.not_eq_false _).mp (mt bare_iff.mpr bare)
    refine ⟨.argumentsBesideCommands site.command.fullName, ?_, .inl ⟨bare, rfl⟩⟩
    simp only [verify, notLeaf, crowded, Bool.false_eq_true, if_false, if_true]

theorem verify_site_ok_iff : site.command.verify = .ok () ↔ KeepsRules site := by
  refine ⟨fun passes => Classical.byContradiction fun breaks => ?_, verify_site_ok⟩
  obtain ⟨error, fails, -⟩ := verify_site_error breaks
  rw [passes] at fails
  cases fails

/-! ## A list of nodes -/

theorem verify_all_ok_iff : verifyAll commands = .ok () ↔ ∀ command ∈ commands, command.verify = .ok () := by
  induction commands with
  | nil => simp [verifyAll]
  | cons command commands ih =>
    cases first : command.verify with
    | ok => simp [verifyAll, first, ih]
    | error error => simp [verifyAll, first]

/-- Only the first node that breaks a rule decides. -/
theorem verify_all_first (passed : ∀ earlier ∈ before, earlier.verify = .ok ())
    (fails : command.verify = .error error) :
    verifyAll (before ++ command :: after) = .error error := by
  induction before with
  | nil => simp [verifyAll, fails]
  | cons earlier before ih =>
    have first := passed earlier (by simp)
    simpa [verifyAll, first] using ih fun later member => passed later (by simp [member])

open Classical in
theorem exists_first_of_not_all {α : Type} {P : α → Prop} {items : List α}
    (fails : ¬ ∀ item ∈ items, P item) :
    ∃ before item after, items = before ++ item :: after ∧ (∀ earlier ∈ before, P earlier) ∧ ¬ P item := by
  have found : (items.find? fun item => decide (¬ P item)).isSome := by simpa using fails
  obtain ⟨item, first⟩ := Option.isSome_iff_exists.mp found
  obtain ⟨breaks, before, after, split, keep⟩ := List.find?_eq_some_iff_append.mp first
  exact ⟨before, item, after, split, by simpa using keep, by simpa using breaks⟩

/-! ## A tree -/

theorem verify_tree_ok_iff : (ofDefinition parent definition).verifyTree = .ok () ↔
    ∀ site ∈ sites parent.toList definition, KeepsRules site := by
  simp only [verifyTree, verify_all_ok_iff, nodes_of_definition, List.forall_mem_map, verify_site_ok_iff]

/-- A tree passes if and only if every place keeps the rules. Otherwise the error
is that of the first place that does not, with the full name of its node, and
every node before it passes. -/
theorem verify_tree_finds_first_fault (parent : Option String) (definition : Definition) :
    ((ofDefinition parent definition).verifyTree = .ok () ↔
      ∀ site ∈ sites parent.toList definition, KeepsRules site) ∧
    ((ofDefinition parent definition).verifyTree ≠ .ok () →
      ∃ before site after, sites parent.toList definition = before ++ site :: after ∧
        (∀ earlier ∈ before, KeepsRules earlier) ∧ ¬ KeepsRules site ∧
        ∃ earlier node later error, (ofDefinition parent definition).nodes = earlier ++ node :: later ∧
          earlier.length = before.length ∧ (∀ passed ∈ earlier, passed.verify = .ok ()) ∧
          node.fullName = joinNames (site.above ++ [site.definition.name]) ∧
          (ofDefinition parent definition).verifyTree = .error error ∧ FaultAt site node.fullName error) := by
  refine ⟨verify_tree_ok_iff, fun fails => ?_⟩
  obtain ⟨before, site, after, split, keep, breaks⟩ :=
    exists_first_of_not_all (mt verify_tree_ok_iff.mpr fails)
  obtain ⟨error, failure, fault⟩ := verify_site_error breaks
  have nodes : (ofDefinition parent definition).nodes =
      before.map Site.command ++ site.command :: after.map Site.command := by
    rw [nodes_of_definition, split, List.map_append, List.map_cons]
  have passed : ∀ command ∈ before.map Site.command, command.verify = .ok () :=
    List.forall_mem_map.mpr fun earlier member => verify_site_ok (keep earlier member)
  refine ⟨before, site, after, split, keep, breaks, before.map Site.command, site.command,
    after.map Site.command, error, nodes, by simp, passed, Site.command_full_name, ?_, fault⟩
  rw [verifyTree, nodes]
  exact verify_all_first passed failure

/-! ## Levels -/

/-- A tree of at most two levels: a leaf, or a bare command above leaves. -/
def TwoLevels (definition : Definition) : Prop :=
  definition.commands = [] ∨
    Bare definition ∧ ∀ child ∈ definition.commands, child.commands = []

/-- A bare command without a name above trees of which some have levels of their
own, and of which each would pass alone. -/
def NamelessGroup (definition : Definition) : Prop :=
  definition.name = "" ∧ Bare definition ∧ (∃ child ∈ definition.commands, child.commands ≠ []) ∧
    ∀ child ∈ definition.commands, (root child).verifyTree = .ok ()

theorem sites_of_leaf {above : List String} (leaf : definition.commands = []) :
    sites above definition = [⟨above, definition⟩] := by
  obtain ⟨name, short, help, arguments, flags, commands⟩ := definition
  cases leaf
  rfl

theorem sites_head (above : List String) (definition : Definition) :
    sites above definition = ⟨above, definition⟩ ::
      sitesOf (above ++ [definition.name]) definition.commands := by
  obtain ⟨name, short, help, arguments, flags, commands⟩ := definition
  rfl

theorem mem_sites_of {above : List String} {definitions : List Definition} :
    site ∈ sitesOf above definitions ↔ ∃ child ∈ definitions, site ∈ sites above child := by
  induction definitions with
  | nil => simp [sitesOf]
  | cons child children ih => simp [sitesOf, ih]

theorem root_keeps_rules_iff :
    KeepsRules ⟨[], definition⟩ ↔ (definition.commands ≠ [] → Bare definition) := by
  simp [KeepsRules, Site.Topmost]

/-- A tree passes if its top does and each child passes under the name above it. -/
theorem root_passes_iff : (root definition).verifyTree = .ok () ↔
    (definition.commands ≠ [] → Bare definition) ∧
      ∀ child ∈ definition.commands, (ofDefinition (some definition.name) child).verifyTree = .ok () := by
  simp only [root, verify_tree_ok_iff, Option.toList]
  rw [sites_head, List.forall_mem_cons, root_keeps_rules_iff]
  simp only [mem_sites_of, List.nil_append]
  refine and_congr_right fun _ => ⟨fun all child member site below => all site ⟨child, member, below⟩, ?_⟩
  rintro all site ⟨child, member, below⟩
  exact all child member site below

theorem leaf_passes (leaf : definition.commands = []) :
    (ofDefinition parent definition).verifyTree = .ok () := by
  rw [verify_tree_ok_iff, sites_of_leaf leaf]
  intro site member
  rw [List.mem_singleton] at member
  subst member
  exact fun inner => absurd leaf inner

/-- Below a name only a leaf passes. -/
theorem passes_below_name_iff {name : String} (named : name ≠ "") :
    (ofDefinition (some name) definition).verifyTree = .ok () ↔ definition.commands = [] := by
  refine ⟨fun passes => Classical.byContradiction fun inner => ?_, leaf_passes⟩
  have keeps : KeepsRules ⟨[name], definition⟩ :=
    verify_tree_ok_iff.mp passes _ (by rw [sites_head]; exact List.mem_cons_self)
  exact named ((keeps inner).2 name (by simp))

/-- Below no name a tree is checked like one of its own. -/
theorem below_empty_name : ofDefinition (some "") definition = root definition := by
  rw [root, of_definition_parent (some ""), of_definition_parent none]
  rfl

theorem two_levels_pass (shape : TwoLevels definition) : (root definition).verifyTree = .ok () := by
  rcases shape with leaf | ⟨bare, shallow⟩
  · exact leaf_passes leaf
  · exact root_passes_iff.mpr ⟨fun _ => bare, fun child member => leaf_passes (shallow child member)⟩

theorem nameless_group_passes (group : NamelessGroup definition) :
    (root definition).verifyTree = .ok () := by
  obtain ⟨nameless, bare, -, children⟩ := group
  refine root_passes_iff.mpr ⟨fun _ => bare, fun child member => ?_⟩
  rw [nameless, below_empty_name]
  exact children child member

theorem shape_of_passing (passes : (root definition).verifyTree = .ok ()) :
    TwoLevels definition ∨ NamelessGroup definition := by
  obtain ⟨bare, children⟩ := root_passes_iff.mp passes
  by_cases leaf : definition.commands = []
  · exact .inl (.inl leaf)
  by_cases shallow : ∀ child ∈ definition.commands, child.commands = []
  · exact .inl (.inr ⟨bare leaf, shallow⟩)
  · obtain ⟨deep, member, inner⟩ : ∃ child ∈ definition.commands, child.commands ≠ [] := by
      simpa using shallow
    have nameless : definition.name = "" := Classical.byContradiction fun named =>
      inner ((passes_below_name_iff named).mp (children deep member))
    refine .inr ⟨nameless, bare leaf, ⟨deep, member, inner⟩, fun child below => ?_⟩
    rw [← below_empty_name, ← nameless]
    exact children child below

theorem nameless_group_is_deep (group : NamelessGroup definition) : ¬ TwoLevels definition := by
  obtain ⟨-, -, ⟨child, member, inner⟩, -⟩ := group
  rintro (leaf | ⟨-, shallow⟩)
  · rw [leaf] at member
    cases member
  · exact inner (shallow child member)

/-- The trees that pass are those of at most two levels and, beside them, the
groups without a name. So the check keeps a tree to two levels exactly where it
is no such group: a name is what tells a subcommand from a root. -/
theorem root_passes_iff_two_levels_unless_nameless_group (definition : Definition) :
    ((root definition).verifyTree = .ok () ↔ TwoLevels definition ∨ NamelessGroup definition) ∧
      (((root definition).verifyTree = .ok () ↔ TwoLevels definition) ↔ ¬ NamelessGroup definition) := by
  refine ⟨⟨shape_of_passing, ?_⟩, ?_, ?_⟩
  · exact fun shape => shape.elim two_levels_pass nameless_group_passes
  · intro exactly group
    exact nameless_group_is_deep group (exactly.mp (nameless_group_passes group))
  · intro ordinary
    exact ⟨fun passes => (shape_of_passing passes).resolve_right ordinary, two_levels_pass⟩

/-- Three levels under a root without a name pass. -/
theorem nameless_root_passes_with_three_levels :
    let definition : Definition :=
      { name := "", commands := [{ name := "a", commands := [{ name := "b" }] }] }
    (root definition).verifyTree = .ok () ∧ ¬ TwoLevels definition := by
  refine ⟨rfl, ?_⟩
  rintro (leaf | ⟨-, shallow⟩)
  · cases leaf
  · cases shallow _ (List.mem_singleton.mpr rfl)

end CommandPlan.TreeRules
