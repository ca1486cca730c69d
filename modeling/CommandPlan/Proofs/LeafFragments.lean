import CommandPlan.Proofs.FragmentNames
import CommandPlan.Proofs.LintSilence
import CommandPlan.Proofs.TreeRules

/-! No two leaves share a fragment in a tree that keeps the rules and gives no
finding. Findings compare the functions of siblings only, and different names may
meet in one function; it is the rules that make all leaves siblings, and they do
so because a plain name is not empty. -/
namespace CommandPlan.LeafFragments
open Command TreeSites TreeRules LintSilence FragmentNames PathJoin

variable {definition : Definition}

theorem leaves_of_leaf (leaf : definition.commands = []) : (root definition).leaves = [root definition] := by
  have isLeaf : (root definition).isLeaf = true := by
    rw [root_at_site, Site.command_is_leaf, leaf]
    rfl
  rw [leaves, nodes_of_root, sites_of_leaf leaf, List.map_cons, List.map_nil, ← root_at_site]
  exact List.filter_cons_of_pos isLeaf

theorem sites_of_leaves {above : List String} {definitions : List Definition}
    (shallow : ∀ child ∈ definitions, child.commands = []) :
    sitesOf above definitions = definitions.map (Site.mk above) := by
  induction definitions with
  | nil => rfl
  | cons child children ih =>
    obtain ⟨leaf, later⟩ := List.forall_mem_cons.mp shallow
    rw [sitesOf, sites_of_leaf leaf, ih later]
    rfl

/-- The leaves of a tree of two levels are the subcommands of its root. -/
theorem leaves_of_group (inner : definition.commands ≠ [])
    (shallow : ∀ child ∈ definition.commands, child.commands = []) :
    (root definition).leaves = (root definition).commands := by
  have notLeaf : (root definition).isLeaf = false := by
    rw [root_at_site, Site.command_is_leaf]
    simpa using inner
  have nodes : (root definition).nodes = root definition :: (root definition).commands := by
    rw [nodes_of_root, sites_head, sites_of_leaves shallow, List.map_cons, List.map_map, root_at_site,
      Site.command_commands]
    rfl
  rw [leaves, nodes, List.filter_cons_of_neg (by simp [notLeaf]), List.filter_eq_self, root_at_site,
    Site.command_commands]
  refine List.forall_mem_map.mpr fun child member => ?_
  rw [Site.command_is_leaf, shallow child member]
  rfl

/-- Leaves with different functions have different fragments, on disk too. -/
theorem fragments_differ {first second : Command} (differ : first.functionName ≠ second.functionName) :
    first.fragmentFile ≠ second.fragmentFile ∧ ∀ directory : Path,
      (directory.join ⟨first.fragmentFile⟩).same (directory.join ⟨second.fragmentFile⟩) = false := by
  have files : first.fragmentFile ≠ second.fragmentFile := mt fragment_file_inj.mp differ
  refine ⟨files, fun directory => ?_⟩
  rw [Bool.eq_false_iff, Ne, same_join_iff (fragment_file_plain first) (fragment_file_plain second)]
  exact files

/-- Any two leaves differ in their function, in their fragment file, and in the
path of that file under every source directory. -/
theorem leaves_share_no_fragment (definition : Definition)
    (passes : (root definition).verifyTree = .ok ()) (quiet : (root definition).lint = []) :
    (root definition).leaves.Pairwise fun first second =>
      first.functionName ≠ second.functionName ∧ first.fragmentFile ≠ second.fragmentFile ∧
        ∀ directory : Path,
          (directory.join ⟨first.fragmentFile⟩).same (directory.join ⟨second.fragmentFile⟩) = false := by
  have rootQuiet : (root definition).lintNode = [] := by
    refine lint_nil_iff.mp quiet _ ?_
    rw [nodes_of_root, sites_head, List.map_cons, ← root_at_site]
    exact List.mem_cons_self
  obtain ⟨plain, functions⟩ := quiet_node rootQuiet
  have named : definition.name ≠ "" := by
    intro empty
    rw [root_at_site, (Site.command_fields _).1, empty, not_plain_empty] at plain
    cases plain
  rcases shape_of_passing passes with (leaf | ⟨-, shallow⟩) | ⟨empty, -⟩
  · rw [leaves_of_leaf leaf]
    exact List.pairwise_singleton ..
  · by_cases leaf : definition.commands = []
    · rw [leaves_of_leaf leaf]
      exact List.pairwise_singleton ..
    · rw [leaves_of_group leaf shallow]
      exact functions.imp fun differ => ⟨differ, fragments_differ differ⟩
  · contradiction

/-- Three leaves, one of which has the words of the other two in its function. -/
theorem leaves_share_no_fragment_of_archive :
    let definition : Definition :=
      { name := "ar-chive", commands := [{ name := "pack" }, { name := "unPack" }, { name := "un" }] }
    (root definition).verifyTree = .ok () ∧ (root definition).lint = [] ∧
      (root definition).leaves.Pairwise fun first second =>
        first.functionName ≠ second.functionName ∧ first.fragmentFile ≠ second.fragmentFile ∧
          ∀ directory : Path,
            (directory.join ⟨first.fragmentFile⟩).same (directory.join ⟨second.fragmentFile⟩) = false :=
  ⟨rfl, by decide +kernel, leaves_share_no_fragment _ rfl (by decide +kernel)⟩

end CommandPlan.LeafFragments
