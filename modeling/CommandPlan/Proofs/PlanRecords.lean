import CommandPlan.Proofs.FragmentLoads
import CommandPlan.Proofs.PlanNodes

/-! What is recorded while a plan is made. Two things are worth a record: a fragment in
trouble, and a default that is a collection. Each is found out once, at the node it belongs
to, so the records are those of the nodes one after the other, in the order of the plan. -/
namespace CommandPlan.PlanRecords
open Command Yaml FragmentLoads PlanNodes

/-- The first value is the second one inside any number of tags. -/
inductive Wraps : Value → Value → Prop where
  | bare (value : Value) : Wraps value value
  | tagged {value inner : Value} (tag : String) (wraps : Wraps value inner) : Wraps (.tagged tag value) inner

/-- Below its tags the value is a sequence or a mapping. -/
def HoldsCollection (value : Value) : Prop :=
  (∃ items, Wraps value (.sequence items)) ∨ ∃ entries, Wraps value (.mapping entries)

/-- Below its tags the value is a text, a number or a truth value. -/
def HoldsScalar (value : Value) : Prop :=
  (∃ text, Wraps value (.string text)) ∨ (∃ number, Wraps value (.number number)) ∨
    ∃ truth, Wraps value (.bool truth)

variable {files : FileSystem} {directory : Path} {fragments : Bool} {node : Command}
variable {value inner : Value} {loader : Loader}

/-! ## Tags -/

theorem untagged_of_wraps (wraps : Wraps value inner) : value.untagged = inner.untagged := by
  induction wraps with
  | bare value => rfl
  | tagged tag wraps ih => exact ih

theorem wraps_untagged : ∀ value : Value, Wraps value value.untagged
  | .tagged tag value => .tagged tag (wraps_untagged value)
  | .null | .bool _ | .number _ | .string _ | .sequence _ | .mapping _ => .bare _

/-- What a value without a tag of its own is inside of, is found by taking off all tags. -/
theorem wraps_iff (bare : inner.untagged = inner) : Wraps value inner ↔ value.untagged = inner := by
  constructor
  · intro wraps
    rw [untagged_of_wraps wraps, bare]
  · rintro rfl
    exact wraps_untagged value

theorem holds_collection_iff : HoldsCollection value ↔ value.untagged.isCollection = true := by
  unfold HoldsCollection
  have sequence : ∀ items, Wraps value (.sequence items) ↔ value.untagged = .sequence items := fun _ => wraps_iff rfl
  have mapping : ∀ entries, Wraps value (.mapping entries) ↔ value.untagged = .mapping entries := fun _ => wraps_iff rfl
  simp only [sequence, mapping]
  cases value.untagged <;> simp [Value.isCollection]

instance (value : Value) : Decidable (HoldsCollection value) :=
  decidable_of_iff (value.untagged.isCollection = true) holds_collection_iff.symm

theorem holds_scalar_iff : HoldsScalar value ↔ value.scalarText?.isSome = true := by
  unfold HoldsScalar Value.scalarText?
  have string : ∀ text, Wraps value (.string text) ↔ value.untagged = .string text := fun _ => wraps_iff rfl
  have number : ∀ number, Wraps value (.number number) ↔ value.untagged = .number number := fun _ => wraps_iff rfl
  have bool : ∀ flag, Wraps value (.bool flag) ↔ value.untagged = .bool flag := fun _ => wraps_iff rfl
  simp only [string, number, bool]
  cases value.untagged <;> simp

/-! ## The records of a node -/

/-- What is said about a default that is not shown. -/
def ignoredNote (value : Value) : Record :=
  .warn ("Ignoring non-scalar default value: " ++ value.untagged.describe)

/-- One record for each default that is a collection. -/
def defaultWarnings (defaults : List (Option Value)) : List Record :=
  ((defaults.filterMap id).filter (HoldsCollection ·)).map ignoredNote

/-- One record if the fragment of a leaf is asked for and in trouble. -/
def planFragmentWarnings (files : FileSystem) (directory : Path) (fragments : Bool) (node : Command) : List Record :=
  if fragments ∧ node.isLeaf ∧ isTroubled files directory node then [fragmentWarning files directory node] else []

/-- The records of one node: about its fragment, its arguments and its flags. -/
def nodeWarnings (files : FileSystem) (directory : Path) (fragments : Bool) (node : Command) : List Record :=
  planFragmentWarnings files directory fragments node ++
    defaultWarnings (node.arguments.map (·.defaultValue)) ++ defaultWarnings (node.flags.map (·.defaultValue))

theorem shown_default_log (value : Option Value) : (shownDefault value).log = defaultWarnings [value] := by
  cases value with
  | none => rfl
  | some value =>
    have holds := @holds_collection_iff value
    cases collection : value.untagged.isCollection with
    | false =>
      rw [collection] at holds
      simp [shownDefault, collection, defaultWarnings, holds, pure]
    | true =>
      rw [collection] at holds
      simp [shownDefault, collection, defaultWarnings, holds, bind, pure, Logged.record, ignoredNote]

/-- The records about some defaults are those about each of them. -/
theorem default_warnings_each (defaults : List (Option Value)) :
    defaultWarnings defaults = defaults.flatMap fun value => (shownDefault value).log := by
  induction defaults with
  | nil => rfl
  | cons value defaults ih =>
    rw [List.flatMap_cons, shown_default_log, ← ih]
    simp only [defaultWarnings, ← List.map_append, ← List.filter_append, ← List.filterMap_append]
    rfl

theorem argument_logs (arguments : List Argument) : (arguments.flatMap fun argument => argument.view.log) =
    defaultWarnings (arguments.map (·.defaultValue)) := by
  rw [default_warnings_each, List.flatMap_map]
  refine congrArg (List.flatMap · arguments) (funext fun argument => ?_)
  exact List.append_nil _

theorem flag_logs (flags : List Flag) : (flags.flatMap fun flag => flag.view.log) =
    defaultWarnings (flags.map (·.defaultValue)) := by
  rw [default_warnings_each, List.flatMap_map]
  refine congrArg (List.flatMap · flags) (funext fun flag => ?_)
  exact List.append_nil _

theorem load_fragment_log : (node.loadFragment (fragmentLoader files directory fragments)).log =
    planFragmentWarnings files directory fragments node := by
  unfold planFragmentWarnings
  cases fragments with
  | false => simp [fragmentLoader, loadFragment, pure]
  | true =>
    cases leaf : node.isLeaf with
    | false => simp [fragmentLoader, loadFragment, leaf, pure]
    | true =>
      obtain ⟨fragment, -, -, loaded⟩ := load_fragment files directory node
      have text : Fragment.loadText files directory node.fragmentFile =
          ⟨fragment.text, if isTroubled files directory node then [fragmentWarning files directory node] else []⟩ := by
        rw [Fragment.loadText, loaded, logged_bind]
        simp [pure]
      simp [fragmentLoader, loadFragment, leaf, text, Functor.map]

/-! ## The records of a tree -/

/-- The records that a node adds by itself. -/
theorem view_log (loader : Loader) (command : Command) : (command.view loader).log =
    (command.loadFragment loader).log ++ defaultWarnings (command.arguments.map (·.defaultValue)) ++
      defaultWarnings (command.flags.map (·.defaultValue)) ++
        command.commands.flatMap fun child => (child.view loader).log := by
  obtain ⟨name, short, help, parentName, arguments, flags, commands⟩ := command
  rw [view, logged_each, logged_each, views_of_each, argument_logs, flag_logs]
  simp only [bind, pure, List.append_nil, List.append_assoc]

mutual

theorem view_log_nodes : ∀ command : Command,
    (command.view (fragmentLoader files directory fragments)).log =
      command.nodes.flatMap (nodeWarnings files directory fragments)
  | ⟨name, short, help, parentName, arguments, flags, commands⟩ => by
    rw [view_log, nodes, List.flatMap_cons, load_fragment_log]
    exact congrArg (_ ++ ·) (view_logs_nodes commands)

theorem view_logs_nodes : ∀ commands : List Command,
    (commands.flatMap fun child => (child.view (fragmentLoader files directory fragments)).log) =
      (nodesOf commands).flatMap (nodeWarnings files directory fragments)
  | [] => rfl
  | command :: commands => by
    rw [List.flatMap_cons, nodesOf, List.flatMap_append, view_log_nodes command, view_logs_nodes commands]

end

theorem node_warnings_warn : ∀ record ∈ nodeWarnings files directory fragments node, record.level = .warn := by
  have defaults : ∀ values, ∀ record ∈ defaultWarnings values, record.level = .warn := by
    intro values record member
    obtain ⟨value, -, rfl⟩ := List.mem_map.mp member
    rfl
  have fragment : ∀ record ∈ planFragmentWarnings files directory fragments node, record.level = .warn := by
    intro record member
    by_cases troubled : fragments ∧ node.isLeaf ∧ isTroubled files directory node
    · rw [planFragmentWarnings, if_pos troubled] at member
      rw [List.mem_singleton.mp member]
      exact fragment_warning_level
    · rw [planFragmentWarnings, if_neg troubled] at member
      exact absurd member List.not_mem_nil
  intro record member
  rcases List.mem_append.mp member with ahead | inFlags
  · rcases List.mem_append.mp ahead with inFragment | inArguments
    · exact fragment record inFragment
    · exact defaults _ record inArguments
  · exact defaults _ record inFlags

/-- A default has a text if and only if it is a scalar below its tags. -/
theorem default_text_iff (default : Option Value) :
    (defaultTextOf default).isSome = true ↔ ∃ value, default = some value ∧ HoldsScalar value := by
  cases default with
  | none => simp [defaultTextOf]
  | some value => simp [defaultTextOf, holds_scalar_iff]

/-- The defaults that a view shows are the scalars among those of the node. -/
structure ShowsDefaults (node : Command) (view : CommandView) : Prop where
  arguments : List.Forall₂
    (fun argument shown => shown.defaultText.isSome = true ↔
      ∃ value, argument.defaultValue = some value ∧ HoldsScalar value) node.arguments view.arguments
  flags : List.Forall₂
    (fun flag shown => shown.defaultText.isSome = true ↔
      ∃ value, flag.defaultValue = some value ∧ HoldsScalar value) node.flags view.flags

theorem plan_shows_defaults (loader : Loader) (node : Command) : ShowsDefaults node (plan loader node) := by
  have shown := plan_shows loader node
  constructor
  · refine shown.arguments.imp fun argument view shows => ?_
    rw [shows.defaultText]
    exact default_text_iff _
  · refine shown.flags.imp fun flag view shows => ?_
    rw [shows.defaultText]
    exact default_text_iff _

/-- While a plan is made, each node in turn has its trouble recorded: that of the fragment,
if it is a leaf and fragments are asked for, then the defaults of its arguments and those of
its flags that are collections below their tags. All these records are warnings, and there
are no others. A default is shown if and only if it is a scalar below its tags. -/
theorem plan_records_in_order (files : FileSystem) (directory : Path) (fragments : Bool) (command : Command) :
    let loader := fragmentLoader files directory fragments
    (command.view loader).log = command.nodes.flatMap (nodeWarnings files directory fragments) ∧
    (∀ record ∈ (command.view loader).log, record.level = .warn) ∧
    List.Forall₂ ShowsDefaults command.nodes (listed (plan loader command)) := by
  intro loader
  have log := @view_log_nodes files directory fragments command
  refine ⟨log, fun record member => ?_, ?_⟩
  · rw [log] at member
    obtain ⟨node, -, inNode⟩ := List.mem_flatMap.mp member
    exact node_warnings_warn record inNode
  · rw [listed_plan, List.forall₂_map_right_iff]
    exact List.forall₂_same.mpr fun node _ => plan_shows_defaults loader node

end CommandPlan.PlanRecords
