import CommandPlan.Proofs.Addresses
import CommandPlan.Proofs.TreeSites

/-! What an address says about the names of a node. A command only keeps the full name
of its parent, and an empty one not at all, at every level anew. Still the names that
stand on the way to it are all that counts, and of those only the empty ones in front
are lost. -/
namespace CommandPlan.NodeNames
open Command TreeSites Addresses

/-- The names on the way to an address, that of the top first. -/
def namesAlong : Address → Definition → Option (List String)
  | [], definition => some [definition.name]
  | index :: below, definition =>
    definition.commands[index]?.bind fun child => (namesAlong below child).map (definition.name :: ·)

variable {definition : Definition} {address higher : Address} {above names blanks : List String}
variable {index : Nat} {command node : Command} {first : String}

/-! ## Addresses -/

theorem at_append : at? (higher ++ address) command = (at? higher command).bind (at? address) := by
  induction higher generalizing command with
  | nil => rfl
  | cons index higher ih =>
    rw [List.cons_append, at?, at?, Option.bind_assoc]
    exact Option.bind_congr fun child _ => ih

/-- One step further down an address leads to a subcommand. -/
theorem at_snoc : at? (higher ++ [index]) command = some node ↔
    ∃ upper, at? higher command = some upper ∧ upper.commands[index]? = some node := by
  simp [at_append, at?, Option.bind_eq_some_iff]

theorem child_at_site (site : Site) (index : Nat) : site.command.commands[index]? =
    site.definition.commands[index]?.map fun child =>
      (⟨site.above ++ [site.definition.name], child⟩ : Site).command := by
  rw [Site.command_commands, List.getElem?_map]

/-- What an address of a built tree leads to is built at a place below the names on the
way. -/
theorem node_at_address (reached : at? address (Site.command ⟨above, definition⟩) = some node) :
    ∃ between found, namesAlong address definition = some (between ++ [found.name]) ∧
      node = Site.command ⟨above ++ between, found⟩ := by
  induction address generalizing above definition with
  | nil =>
    cases reached
    exact ⟨[], definition, rfl, by rw [List.append_nil]⟩
  | cons index below ih =>
    rw [at?, child_at_site] at reached
    cases child : definition.commands[index]? with
    | none =>
      rw [child] at reached
      cases reached
    | some child_ =>
      rw [child] at reached
      obtain ⟨between, found, along, rfl⟩ := ih reached
      refine ⟨definition.name :: between, found, ?_, ?_⟩
      · rw [namesAlong, child, Option.bind_some, along]
        rfl
      · rw [List.append_assoc, List.singleton_append]

/-- A built tree has the addresses of its definition. -/
theorem address_of_tree : (at? address (Site.command ⟨above, definition⟩)).isSome =
    (namesAlong address definition).isSome := by
  induction address generalizing above definition with
  | nil => rfl
  | cons index below ih =>
    rw [at?, namesAlong, child_at_site]
    cases definition.commands[index]? with
    | none => rfl
    | some child =>
      rw [Option.map_some, Option.bind_some, Option.bind_some, Option.isSome_map]
      exact ih

/-! ## Names -/

/-- No name behind the first that is not empty is lost. -/
theorem join_names_keep (empty : ∀ name ∈ blanks, name = "") (named : first ≠ "") :
    joinNames (blanks ++ first :: names) = " ".intercalate (first :: names) := by
  induction blanks with
  | nil => exact join_names_named named
  | cons blank blanks ih =>
    obtain ⟨rfl, later⟩ := List.forall_mem_cons.mp empty
    rw [List.cons_append, join_names_blank, ih later]

theorem site_parent_name (site : Site) : site.command.parentName =
    if joinNames site.above = "" then none else some (joinNames site.above) := by
  obtain ⟨above, name, short, help, arguments, flags, commands⟩ := site
  exact parent_name_of_join

/-- A parent that is known to the top is the one from outside, -/
theorem parent_of_top {parent : Option String} (named : (ofDefinition parent definition).parentName ≠ none) :
    (ofDefinition parent definition).parentName = parent := by
  obtain ⟨name, short, help, arguments, flags, commands⟩ := definition
  cases parent with
  | none => rfl
  | some parent =>
    by_cases empty : parent = "" <;> simp_all [ofDefinition, parentNameOf, Option.filter]

/-- and one that is known to a subcommand is the full name of the command above. -/
theorem parent_of_child {site : Site} (child : site.command.commands[index]? = some node)
    (named : node.parentName ≠ none) : node.parentName = some site.command.fullName := by
  rw [child_at_site] at child
  obtain ⟨below, -, rfl⟩ := Option.map_eq_some_iff.mp child
  rw [site_parent_name] at named ⊢
  rw [Site.command_full_name]
  split
  · simp_all
  · rfl

/-- A built tree has the addresses of its definition. Where one leads, the full name
joins the names on the way, behind that of a parent from outside, without the empty ones
in front. The command has no parent if all names above its own are empty, and else knows
the full name of the node above. -/
theorem names_of_address (parent : Option String) (definition : Definition) (address : Address) :
    (at? address (ofDefinition parent definition)).isSome = (namesAlong address definition).isSome ∧
    ∀ node, at? address (ofDefinition parent definition) = some node →
      ∃ above, namesAlong address definition = some (above ++ [node.name]) ∧
        node.fullName = joinNames (parent.toList ++ above ++ [node.name]) ∧
        (∀ blanks first names, (∀ name ∈ blanks, name = "") → first ≠ "" →
          parent.toList ++ above ++ [node.name] = blanks ++ first :: names →
            node.fullName = " ".intercalate (first :: names)) ∧
        (node.parentName = none ↔ (∀ name ∈ parent, name = "") ∧ ∀ name ∈ above, name = "") ∧
        (address = [] → node.parentName ≠ none → node.parentName = parent) ∧
        ∀ higher index, address = higher ++ [index] →
          ∃ upper, at? higher (ofDefinition parent definition) = some upper ∧
            upper.commands[index]? = some node ∧
            (node.parentName ≠ none → node.parentName = some upper.fullName) := by
  have built : ofDefinition parent definition = Site.command ⟨parent.toList, definition⟩ :=
    of_definition_parent parent
  have topParent : (ofDefinition parent definition).parentName ≠ none →
      (ofDefinition parent definition).parentName = parent := parent_of_top
  rw [built] at topParent ⊢
  refine ⟨address_of_tree, fun node reached => ?_⟩
  obtain ⟨above, found, along, rfl⟩ := node_at_address reached
  obtain ⟨sameName, -⟩ := Site.command_fields ⟨parent.toList ++ above, found⟩
  have fullName : (Site.command ⟨parent.toList ++ above, found⟩).fullName =
      joinNames (parent.toList ++ above ++ [found.name]) := Site.command_full_name
  rw [sameName]
  refine ⟨above, along, fullName, ?_, ?_, ?_, ?_⟩
  · intro blanks first names empty named split
    rw [fullName, ← join_names_keep empty named, ← split]
  · have topmost : (Site.command ⟨parent.toList ++ above, found⟩).isRoot = true ↔
        ∀ name ∈ parent.toList ++ above, name = "" := Site.command_is_root_iff
    rw [isRoot, Option.isNone_iff_eq_none, List.forall_mem_append] at topmost
    simpa using topmost
  · rintro rfl
    rwa [← Option.some.inj reached]
  · rintro higher index rfl
    obtain ⟨upper, atHigher, child⟩ := at_snoc.mp reached
    obtain ⟨between, upperFound, -, rfl⟩ := node_at_address atHigher
    exact ⟨_, atHigher, child, parent_of_child child⟩

/-- Commands without a name at the top, in the middle and at the end. -/
def patchyDefinition : Definition :=
  { name := "", commands := [{ name := "a" }, { name := "b", commands := [
      { name := "", commands := [{ name := "c" }, { name := "" }] }] }] }

/-- Under a parent without a name, only the empty names in front are gone. -/
theorem names_of_address_patchy :
    ∃ node, at? [1, 0, 1] (ofDefinition (some "") patchyDefinition) = some node ∧
      node.fullName = "b  " ∧ node.parentName = some "b " := by
  obtain ⟨sameAddresses, names⟩ := names_of_address (some "") patchyDefinition [1, 0, 1]
  obtain ⟨node, reached⟩ := Option.isSome_iff_exists.mp (sameAddresses.trans rfl)
  obtain ⟨above, along, -, kept, parentless, -, below⟩ := names node reached
  obtain ⟨rfl, own⟩ : above = ["", "b", ""] ∧ node.name = "" := by
    have listed : ["", "b", ""] ++ [""] = above ++ [node.name] := Option.some.inj along
    obtain ⟨same, last⟩ := List.append_inj' listed rfl
    exact ⟨same.symm, (List.cons.inj last).1.symm⟩
  obtain ⟨upper, atUpper, -, known⟩ := below [1, 0] 1 rfl
  have upperName : upper.fullName = "b " := by
    cases atUpper
    rfl
  have named : node.parentName ≠ none := fun none => absurd ((parentless.mp none).2 "b" (by simp)) (by decide)
  refine ⟨node, reached, ?_, by rw [known named, upperName]⟩
  exact kept ["", ""] "b" ["", ""] (by simp) (by decide) (by rw [own]; rfl)

end CommandPlan.NodeNames
