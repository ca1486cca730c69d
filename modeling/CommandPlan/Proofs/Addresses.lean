import CommandPlan.Command
import Mathlib.Data.List.Pairwise

/-! Addresses in a command tree: the indices of the subcommands on the way down from
its top. Addresses are ordered as words are in a dictionary, so a command stands
before what is below it, and that before the next sibling. The nodes of a tree are
what its addresses lead to, in this order. -/
namespace CommandPlan.Addresses
open Command

abbrev Address := List Nat

/-- The node that an address leads to. -/
def at? : Address → Command → Option Command
  | [], command => some command
  | index :: below, command => command.commands[index]?.bind (at? below)

mutual

/-- The addresses of a tree, in the order in which its nodes are listed. -/
def addresses : Command → List Address
  | ⟨_, _, _, _, _, _, commands⟩ => [] :: addressesOf 0 commands

/-- The addresses in a list of trees of which the first has the given index. -/
def addressesOf (index : Nat) : List Command → List Address
  | [] => []
  | command :: commands => (addresses command).map (index :: ·) ++ addressesOf (index + 1) commands

end

variable {command node : Command} {commands : List Command} {address : Address} {index : Nat}

theorem addresses_head (command : Command) : addresses command = [] :: addressesOf 0 command.commands := by
  obtain ⟨name, short, help, parentName, arguments, flags, commands⟩ := command
  rfl

/-- Below some trees lie the addresses of each, behind its index. -/
theorem mem_addresses_of : address ∈ addressesOf index commands ↔
    ∃ place below child, address = (index + place) :: below ∧ commands[place]? = some child ∧
      below ∈ addresses child := by
  induction commands generalizing index with
  | nil => simp [addressesOf]
  | cons first rest ih =>
    rw [addressesOf, List.mem_append, List.mem_map, ih]
    constructor
    · rintro (⟨below, member, rfl⟩ | ⟨place, below, child, rfl, found, member⟩)
      · exact ⟨0, below, first, rfl, rfl, member⟩
      · exact ⟨place + 1, below, child, by rw [Nat.add_right_comm, Nat.add_assoc], found, member⟩
    · rintro ⟨place, below, child, rfl, found, member⟩
      cases place with
      | zero =>
        obtain rfl := Option.some.inj found
        exact .inl ⟨below, member, rfl⟩
      | succ place =>
        exact .inr ⟨place, below, child, by rw [Nat.add_right_comm, Nat.add_assoc], found, member⟩

theorem mem_addresses_iff : address ∈ addresses command ↔ ∃ node, at? address command = some node := by
  induction address generalizing command with
  | nil => simp [addresses_head, at?]
  | cons index below ih =>
    rw [addresses_head, List.mem_cons, mem_addresses_of]
    simp only [at?, Option.bind_eq_some_iff]
    constructor
    · rintro (impossible | ⟨place, rest, child, same, found, member⟩)
      · cases impossible
      · obtain ⟨rfl, rfl⟩ := List.cons.inj same
        obtain ⟨node, reached⟩ := ih.mp member
        exact ⟨node, child, by rwa [Nat.zero_add], reached⟩
    · rintro ⟨node, child, found, reached⟩
      exact .inr ⟨index, below, child, by rw [Nat.zero_add], found, ih.mpr ⟨node, reached⟩⟩

mutual

theorem addresses_sorted : ∀ command : Command, (addresses command).Pairwise (· < ·)
  | ⟨_, _, _, _, _, _, commands⟩ => by
    rw [addresses, List.pairwise_cons]
    refine ⟨fun address member => ?_, addresses_of_sorted 0 commands⟩
    obtain ⟨place, below, child, rfl, -⟩ := mem_addresses_of.mp member
    exact List.nil_lt_cons ..

theorem addresses_of_sorted (index : Nat) : ∀ commands : List Command,
    (addressesOf index commands).Pairwise (· < ·)
  | [] => List.Pairwise.nil
  | command :: commands => by
    rw [addressesOf, List.pairwise_append, List.pairwise_map]
    refine ⟨?_, addresses_of_sorted (index + 1) commands, ?_⟩
    · exact (addresses_sorted command).imp fun less => List.cons_lt_cons_iff.mpr (.inr ⟨rfl, less⟩)
    · intro first firstMember second secondMember
      obtain ⟨below, -, rfl⟩ := List.mem_map.mp firstMember
      obtain ⟨place, rest, child, rfl, -⟩ := mem_addresses_of.mp secondMember
      exact List.cons_lt_cons_iff.mpr (.inl (by omega))

end

mutual

/-- The nodes of a tree are what its addresses lead to, in the same order. -/
theorem nodes_at_addresses : ∀ command : Command,
    (addresses command).map (at? · command) = command.nodes.map some
  | ⟨name, short, help, parentName, arguments, flags, commands⟩ => by
    rw [addresses, nodes, List.map_cons, List.map_cons]
    congr 1
    exact nodes_of_at_addresses ⟨name, short, help, parentName, arguments, flags, commands⟩ []
      commands rfl

theorem nodes_of_at_addresses (parent : Command) (before : List Command) : ∀ commands : List Command,
    parent.commands = before ++ commands →
      (addressesOf before.length commands).map (at? · parent) = (nodesOf commands).map some
  | [], _ => rfl
  | command :: commands, split => by
    have first : parent.commands[before.length]? = some command := by
      rw [split, List.getElem?_append_right (Nat.le_refl _), Nat.sub_self]
      rfl
    have below : (fun address => at? (before.length :: address) parent) = (at? · command) := by
      funext address
      rw [at?, first, Option.bind_some]
    have later := nodes_of_at_addresses parent (before ++ [command]) commands (by simp [split])
    rw [List.length_append, List.length_singleton] at later
    rw [addressesOf, nodesOf, List.map_append, List.map_append, List.map_map, later,
      ← nodes_at_addresses command]
    exact congrArg (List.map · _ ++ _) below

end

theorem nodes_eq_filter_map (command : Command) :
    command.nodes = (addresses command).filterMap (at? · command) := by
  have listed := congrArg (List.filterMap id) (nodes_at_addresses command)
  simpa [List.filterMap_map] using listed.symm

theorem mem_nodes_iff : node ∈ command.nodes ↔ ∃ address, at? address command = some node := by
  rw [nodes_eq_filter_map, List.mem_filterMap]
  constructor
  · rintro ⟨address, -, reached⟩
    exact ⟨address, reached⟩
  · rintro ⟨address, reached⟩
    exact ⟨address, mem_addresses_iff.mpr ⟨node, reached⟩, reached⟩

/-- In a sorted list the first item with a property is the least one. -/
theorem find?_sorted {α : Type} {before : α → α → Prop} {items : List α} {item : α} {holds : α → Bool}
    (strict : ∀ {first second}, before first second → ¬ before second first) (sorted : items.Pairwise before) :
    items.find? holds = some item ↔
      item ∈ items ∧ holds item = true ∧ ∀ other ∈ items, before other item → holds other = false := by
  rw [List.find?_eq_some_iff_append]
  constructor
  · rintro ⟨found, front, back, rfl, skipped⟩
    refine ⟨by simp, found, fun other member less => ?_⟩
    obtain ⟨-, fromHere, -⟩ := List.pairwise_append.mp sorted
    rcases List.mem_append.mp member with earlier | here
    · simpa using skipped other earlier
    · rcases List.mem_cons.mp here with rfl | later
      · exact absurd less (strict less)
      · exact absurd less (strict ((List.pairwise_cons.mp fromHere).1 other later))
  · rintro ⟨member, found, least⟩
    obtain ⟨front, back, rfl⟩ := List.append_of_mem member
    refine ⟨found, front, back, rfl, fun other earlier => ?_⟩
    have less := (List.pairwise_append.mp sorted).2.2 other earlier item List.mem_cons_self
    simp [least other (by simp [earlier]) less]

/-- Looking up a full name finds the node with the least address of those that have it. -/
theorem find?_eq_some_iff {fullName : String} : command.find? fullName = some node ↔
    ∃ address, at? address command = some node ∧ node.fullName = fullName ∧
      ∀ other < address, ∀ earlier, at? other command = some earlier → earlier.fullName ≠ fullName := by
  rw [find?, nodes_eq_filter_map, List.find?_filterMap, Option.bind_eq_some_iff]
  simp only [find?_sorted List.lt_asymm (addresses_sorted command), Option.any_eq_true, decide_eq_true_eq]
  refine exists_congr fun address => ?_
  constructor
  · rintro ⟨⟨-, ⟨found, reached, named⟩, least⟩, same⟩
    obtain rfl := Option.some.inj (reached.symm.trans same)
    refine ⟨same, named, fun other less earlier there name => ?_⟩
    have skipped := least other (mem_addresses_iff.mpr ⟨earlier, there⟩) less
    simp [there, name] at skipped
  · rintro ⟨reached, named, least⟩
    refine ⟨⟨mem_addresses_iff.mpr ⟨node, reached⟩, ⟨node, reached, named⟩, fun other member less => ?_⟩, reached⟩
    obtain ⟨earlier, there⟩ := mem_addresses_iff.mp member
    simpa [there] using least other less earlier there

theorem find?_eq_none_iff {fullName : String} : command.find? fullName = none ↔
    ∀ address node, at? address command = some node → node.fullName ≠ fullName := by
  rw [find?, List.find?_eq_none]
  simp only [mem_nodes_iff, decide_eq_true_eq]
  exact ⟨fun all address node reached => all node ⟨address, reached⟩,
    fun all node ⟨address, reached⟩ => all address node reached⟩

/-- Where no two nodes share a full name, it tells the address. -/
theorem address_of_full_name {other : Address} {second : Command}
    (apart : command.nodes.Pairwise fun first second => first.fullName ≠ second.fullName)
    (first : at? address command = some node) (next : at? other command = some second)
    (same : node.fullName = second.fullName) : address = other := by
  rw [nodes_eq_filter_map, List.pairwise_filterMap] at apart
  have symmetric : Std.Symm fun a b : Address => ∀ n, at? a command = some n →
      ∀ m, at? b command = some m → n.fullName ≠ m.fullName :=
    ⟨fun a b differ m atB n atA name => differ n atA m atB name.symm⟩
  refine Classical.byContradiction fun different => ?_
  exact apart.forall (mem_addresses_iff.mpr ⟨node, first⟩) (mem_addresses_iff.mpr ⟨second, next⟩)
    different node first second next same

end CommandPlan.Addresses
