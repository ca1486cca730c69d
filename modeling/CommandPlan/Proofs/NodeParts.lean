import CommandPlan.Yaml.Node
import Mathlib.Data.List.Basic

/-! What is in a node. A property of all parts of a collection is one of all parts of what
stands in it; a node is all there if no part of it is where the text breaks off. -/
namespace CommandPlan.Yaml.Node

def isAlias : Node → Bool
  | reference .. => true
  | _ => false

/-- Whether an alias stands in a node, or is one. -/
def hasAlias (node : Node) : Bool :=
  node.parts.any isAlias

/-- Whether the node says something of its own. -/
def speaks : Node → Bool
  | scalar .. | sequence .. | mapping .. => true
  | reference .. | cut .. => false

theorem parts_of_items_append (front back : List Node) :
    partsOfItems (front ++ back) = partsOfItems front ++ partsOfItems back := by
  induction front with
  | nil => rfl
  | cons item front ih => rw [List.cons_append, partsOfItems, partsOfItems, ih, List.append_assoc]

theorem parts_of_entries_append (front back : List (Node × Node)) :
    partsOfEntries (front ++ back) = partsOfEntries front ++ partsOfEntries back := by
  induction front with
  | nil => rfl
  | cons entry front ih => simp only [List.cons_append, partsOfEntries, ih, List.append_assoc]

theorem mem_parts_of_entries {entries : List (Node × Node)} {part : Node} :
    part ∈ partsOfEntries entries ↔ ∃ entry ∈ entries, part ∈ entry.1.parts ∨ part ∈ entry.2.parts := by
  induction entries with
  | nil => simp [partsOfEntries]
  | cons entry entries ih => simp only [partsOfEntries, List.mem_append, ih, List.exists_mem_cons_iff]

section Throughout

variable {holds : Node → Prop} {properties : Properties} {key value item : Node}
  {front back : List (Node × Node)} {before after : List Node}

/-- What holds throughout a mapping holds throughout the value of an entry and what is around it. -/
theorem value_parts (all : ∀ part ∈ (mapping properties (front ++ (key, value) :: back)).parts, holds part) :
    (∀ part ∈ partsOfEntries front, holds part) ∧ (∀ part ∈ value.parts, holds part) ∧
      ∀ part ∈ partsOfEntries back, holds part := by
  rw [parts, parts_of_entries_append, partsOfEntries, List.forall_mem_cons] at all
  simp only [List.forall_mem_append] at all
  obtain ⟨-, atFront, ⟨-, atValue⟩, atBack⟩ := all
  exact ⟨atFront, atValue, atBack⟩

/-- What holds throughout a sequence holds throughout an item of it and what is around that. -/
theorem item_parts (all : ∀ part ∈ (sequence properties (before ++ item :: after)).parts, holds part) :
    (∀ part ∈ partsOfItems before, holds part) ∧ (∀ part ∈ item.parts, holds part) ∧
      ∀ part ∈ partsOfItems after, holds part := by
  rw [parts, parts_of_items_append, partsOfItems, List.forall_mem_cons] at all
  simp only [List.forall_mem_append] at all
  exact all.2

end Throughout

theorem fault_eq_none_iff {node : Node} : node.fault? = none ↔ ∀ part ∈ node.parts, part.error? = none :=
  List.findSome?_eq_none_iff

/-- Every part speaks for itself in a node that is all there and does without aliases. -/
theorem parts_speak {node : Node} (free : node.hasAlias = false) (whole : node.fault? = none) :
    ∀ part ∈ node.parts, part.speaks = true := by
  intro part member
  have noAlias := List.any_eq_false.mp free part member
  have noFault := fault_eq_none_iff.mp whole part member
  cases part <;> simp_all [isAlias, error?, speaks]

end CommandPlan.Yaml.Node
