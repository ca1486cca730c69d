import CommandPlan.Command

/-! The places of a definition, each with the names above it. Building a command
tree goes through them in the same order, parents before their children, and the
names above a place decide the full name of the command that is built there. -/
namespace CommandPlan.TreeSites
open Command

/-- A place in a definition: what stands there, and the names above it, the
outermost first. A parent's name from outside counts as the outermost. -/
structure Site where
  above : List String
  definition : Definition

/-- Names joined with blanks, without the empty ones in front. -/
def joinNames (names : List String) : String :=
  " ".intercalate (names.dropWhile (·.isEmpty))

mutual

/-- The places of a definition, parents before their children. -/
def sites (above : List String) : Definition → List Site
  | definition@⟨name, _, _, _, _, commands⟩ =>
    ⟨above, definition⟩ :: sitesOf (above ++ [name]) commands

def sitesOf (above : List String) : List Definition → List Site
  | [] => []
  | definition :: definitions => sites above definition ++ sitesOf above definitions

end

namespace Site

/-- The command that is built at a place. -/
def command (site : Site) : Command :=
  ofDefinition (some (joinNames site.above)) site.definition

/-- A place is topmost if nothing above it has a name. -/
def Topmost (site : Site) : Prop :=
  ∀ name ∈ site.above, name = ""

end Site

variable {above names : List String} {name : String} {definition : Definition} {site : Site}

theorem join_names_blank : joinNames ("" :: names) = joinNames names := by
  simp [joinNames]

theorem join_names_named {first : String} {rest : List String} (named : first ≠ "") :
    joinNames (first :: rest) = " ".intercalate (first :: rest) := by
  simp [joinNames, named]

theorem join_names_eq_empty_iff : joinNames names = "" ↔ ∀ name ∈ names, name = "" := by
  induction names with
  | nil => simp [joinNames]
  | cons first rest ih =>
    by_cases empty : first = ""
    · subst empty
      rw [join_names_blank, ih]
      simp
    · rw [join_names_named empty]
      cases rest with
      | nil => simp [empty]
      | cons second rest => simp [empty, String.intercalate_cons_cons]

/-- The full name of a child is that of its parent with one more name, unless
nothing is named so far. -/
theorem join_names_snoc : joinNames (above ++ [name]) =
    if joinNames above = "" then name else joinNames above ++ " " ++ name := by
  induction above with
  | nil => by_cases empty : name = "" <;> simp [joinNames, empty]
  | cons first rest ih =>
    by_cases empty : first = ""
    · subst empty
      rw [List.cons_append, join_names_blank, join_names_blank]
      exact ih
    · have named : joinNames (first :: rest) ≠ "" := by
        intro nameless
        exact empty (join_names_eq_empty_iff.mp nameless first (by simp))
      rw [if_neg named, List.cons_append, join_names_named empty, join_names_named empty,
        ← List.cons_append, String.intercalate_append_of_ne_nil (by simp) (by simp),
        String.intercalate_singleton]

theorem parent_name_of_join : parentNameOf (some (joinNames above)) =
    if joinNames above = "" then none else some (joinNames above) := by
  by_cases empty : joinNames above = "" <;> simp [parentNameOf, Option.filter, empty]

theorem qualify_join_names :
    qualify (parentNameOf (some (joinNames above))) name = joinNames (above ++ [name]) := by
  rw [parent_name_of_join, join_names_snoc]
  split <;> rfl

theorem of_definition_parent (parent : Option String) :
    ofDefinition parent definition = ofDefinition (some (joinNames parent.toList)) definition := by
  have same : parentNameOf parent = parentNameOf (some (joinNames parent.toList)) := by
    rw [parent_name_of_join]
    cases parent with
    | none => simp [parentNameOf, joinNames]
    | some parent => by_cases empty : parent = "" <;> simp [parentNameOf, Option.filter, joinNames, empty]
  obtain ⟨name, short, help, arguments, flags, commands⟩ := definition
  simp only [ofDefinition, same]

namespace Site

theorem command_fields (site : Site) : site.command.name = site.definition.name ∧
    site.command.arguments = site.definition.arguments ∧ site.command.flags = site.definition.flags := by
  obtain ⟨above, name, short, help, arguments, flags, commands⟩ := site
  exact ⟨rfl, rfl, rfl⟩

theorem command_full_name :
    site.command.fullName = joinNames (site.above ++ [site.definition.name]) := by
  obtain ⟨above, name, short, help, arguments, flags, commands⟩ := site
  exact qualify_join_names

/-- A command knows no parent exactly where nothing above it has a name. -/
theorem command_is_root_iff : site.command.isRoot = true ↔ site.Topmost := by
  obtain ⟨above, name, short, help, arguments, flags, commands⟩ := site
  rw [Topmost, ← join_names_eq_empty_iff]
  simp only [Command.isRoot, command, ofDefinition, parent_name_of_join]
  split <;> simp_all

/-- The subcommands are built at the places below, each under the name of this one. -/
theorem command_commands : site.command.commands =
    site.definition.commands.map fun child =>
      (⟨site.above ++ [site.definition.name], child⟩ : Site).command := by
  obtain ⟨above, name, short, help, arguments, flags, commands⟩ := site
  simp only [command, ofDefinition, qualify_join_names]
  induction commands with
  | nil => rfl
  | cons child children ih => simp only [ofDefinitions, List.map_cons, ih]

theorem command_is_leaf : site.command.isLeaf = site.definition.commands.isEmpty := by
  rw [Command.isLeaf, command_commands]
  cases site.definition.commands <;> rfl

end Site

mutual

theorem nodes_of_sites (above : List String) : ∀ definition : Definition,
    (ofDefinition (some (joinNames above)) definition).nodes =
      (sites above definition).map Site.command
  | ⟨name, short, help, arguments, flags, commands⟩ => by
    simp only [ofDefinition, nodes, sites, List.map_cons, qualify_join_names]
    rw [nodes_of_sites_of (above ++ [name]) commands]
    simp only [Site.command, ofDefinition, qualify_join_names]

theorem nodes_of_sites_of (above : List String) : ∀ definitions : List Definition,
    nodesOf (ofDefinitions (some (joinNames above)) definitions) =
      (sitesOf above definitions).map Site.command
  | [] => rfl
  | definition :: definitions => by
    simp only [ofDefinitions, nodesOf, sitesOf, List.map_append]
    rw [nodes_of_sites above definition, nodes_of_sites_of above definitions]

end

/-- The nodes of a built tree are the commands at the places of its definition,
in the same order. -/
theorem nodes_of_definition (parent : Option String) (definition : Definition) :
    (ofDefinition parent definition).nodes = (sites parent.toList definition).map Site.command := by
  rw [of_definition_parent]
  exact nodes_of_sites parent.toList definition

/-- The full name of a subcommand of a built tree, under that of its command. -/
theorem child_full_name {parent : Option String} {node child : Command}
    (inTree : node ∈ (ofDefinition parent definition).nodes) (member : child ∈ node.commands) :
    child.fullName = if node.fullName = "" then child.name else node.fullName ++ " " ++ child.name := by
  rw [nodes_of_definition] at inTree
  obtain ⟨site, -, rfl⟩ := List.mem_map.mp inTree
  rw [Site.command_commands] at member
  obtain ⟨below, -, rfl⟩ := List.mem_map.mp member
  rw [Site.command_full_name, Site.command_full_name, (Site.command_fields _).1]
  exact join_names_snoc

theorem nodes_of_root (definition : Definition) :
    (root definition).nodes = (sites [] definition).map Site.command :=
  nodes_of_definition none definition

theorem root_at_site (definition : Definition) : root definition = Site.command ⟨[], definition⟩ := by
  rw [root, of_definition_parent none]
  rfl

end CommandPlan.TreeSites
