import CommandPlan.Definition.Reader
import CommandPlan.Proofs.NodeParts
import CommandPlan.Proofs.ReadOutcomes
import Mathlib.Data.List.Forall2
import Mathlib.Data.List.Perm.Basic

/-! Places and anchors make no difference. Two nodes are alike that say the same wherever
they are written; a reader of values reads the same from both, as long as the first does
without aliases and is all there. -/
namespace CommandPlan.Yaml

/-- The tag alone. -/
def Properties.bare (properties : Properties) : Properties :=
  { position := {}, tag := properties.tag }

namespace Node

mutual

/-- A node without the places and the anchors in it. -/
def bare : Node → Node
  | scalar properties text style => scalar properties.bare text style
  | sequence properties items => sequence properties.bare (bareItems items)
  | mapping properties entries => mapping properties.bare (bareEntries entries)
  | reference _ slot => reference {} slot
  | cut error => cut error

def bareItems : List Node → List Node
  | [] => []
  | item :: items => bare item :: bareItems items

def bareEntries : List (Node × Node) → List (Node × Node)
  | [] => []
  | (key, value) :: entries => (bare key, bare value) :: bareEntries entries

end

theorem bare_items_eq_map (items : List Node) : bareItems items = items.map bare := by
  induction items with
  | nil => rfl
  | cons item items ih => rw [bareItems, ih, List.map_cons]

theorem bare_entries_eq_map (entries : List (Node × Node)) :
    bareEntries entries = entries.map fun entry => (entry.1.bare, entry.2.bare) := by
  induction entries with
  | nil => rfl
  | cons entry entries ih => rw [bareEntries, ih, List.map_cons]

mutual

theorem parts_of_bare : ∀ node : Node, node.bare.parts = node.parts.map bare
  | .scalar .. | .reference .. | .cut _ => rfl
  | .sequence _ items => by
    rw [bare, parts, parts, parts_of_bare_items items]
    rfl
  | .mapping _ entries => by
    rw [bare, parts, parts, parts_of_bare_entries entries]
    rfl

theorem parts_of_bare_items : ∀ items : List Node, partsOfItems (bareItems items) = (partsOfItems items).map bare
  | [] => rfl
  | item :: items => by
    rw [bareItems, partsOfItems, partsOfItems, parts_of_bare item, parts_of_bare_items items, List.map_append]

theorem parts_of_bare_entries : ∀ entries : List (Node × Node),
    partsOfEntries (bareEntries entries) = (partsOfEntries entries).map bare
  | [] => rfl
  | (key, value) :: entries => by
    rw [bareEntries, partsOfEntries, partsOfEntries, parts_of_bare key, parts_of_bare value,
      parts_of_bare_entries entries, List.map_append, List.map_append]

end

/-- A fault does not go with the places. -/
theorem bare_fault_iff {node : Node} : node.bare.fault? = none ↔ node.fault? = none := by
  rw [fault_eq_none_iff, fault_eq_none_iff, parts_of_bare, List.forall_mem_map]
  have same (part : Node) : part.bare.error? = part.error? := by cases part <;> rfl
  simp only [same]

/-! ## Nodes that are alike -/

mutual

/-- Two nodes, all there and without aliases, that differ in places and anchors at most. -/
inductive Alike : Node → Node → Prop
  | scalar {properties properties' : Properties} (text : String) (style : ScalarStyle)
      (tag : properties.tag = properties'.tag) :
      Alike (.scalar properties text style) (.scalar properties' text style)
  | sequence {properties properties' : Properties} {items items' : List Node}
      (tag : properties.tag = properties'.tag) (inside : List.Forall₂ Alike items items') :
      Alike (.sequence properties items) (.sequence properties' items')
  | mapping {properties properties' : Properties} {entries entries' : List (Node × Node)}
      (tag : properties.tag = properties'.tag) (inside : List.Forall₂ AlikeEntry entries entries') :
      Alike (.mapping properties entries) (.mapping properties' entries')

inductive AlikeEntry : Node × Node → Node × Node → Prop
  | mk {key key' value value' : Node} (keys : Alike key key') (values : Alike value value') :
      AlikeEntry (key, value) (key', value')

end

theorem tag_of_bare {properties properties' : Properties} (same : properties.bare = properties'.bare) :
    properties.tag = properties'.tag :=
  congrArg (·.tag) same

mutual

theorem alike_of_bare : ∀ {node node' : Node}, (∀ part ∈ node.parts, part.speaks = true) → node.bare = node'.bare →
    Alike node node'
  | .scalar properties text style, node', _, same => by
    cases node' <;> simp only [bare, reduceCtorEq, scalar.injEq] at same
    obtain ⟨tag, rfl, rfl⟩ := same
    exact .scalar _ _ (tag_of_bare tag)
  | .sequence properties items, node', spoken, same => by
    cases node' <;> simp only [bare, reduceCtorEq, sequence.injEq] at same
    rw [parts, List.forall_mem_cons] at spoken
    exact .sequence (tag_of_bare same.1) (alike_items spoken.2 same.2)
  | .mapping properties entries, node', spoken, same => by
    cases node' <;> simp only [bare, reduceCtorEq, mapping.injEq] at same
    rw [parts, List.forall_mem_cons] at spoken
    exact .mapping (tag_of_bare same.1) (alike_entries spoken.2 same.2)
  | .reference .., _, spoken, _ => by simp [parts, speaks] at spoken
  | .cut _, _, spoken, _ => by simp [parts, speaks] at spoken

theorem alike_items : ∀ {items items' : List Node}, (∀ part ∈ partsOfItems items, part.speaks = true) →
    bareItems items = bareItems items' → List.Forall₂ Alike items items'
  | [], items', _, same => by
    cases items' <;> simp only [bareItems, reduceCtorEq] at same
    exact .nil
  | item :: items, items', spoken, same => by
    cases items' <;> simp only [bareItems, reduceCtorEq, List.cons.injEq] at same
    rw [partsOfItems, List.forall_mem_append] at spoken
    exact .cons (alike_of_bare spoken.1 same.1) (alike_items spoken.2 same.2)

theorem alike_entries : ∀ {entries entries' : List (Node × Node)},
    (∀ part ∈ partsOfEntries entries, part.speaks = true) → bareEntries entries = bareEntries entries' →
      List.Forall₂ AlikeEntry entries entries'
  | [], entries', _, same => by
    cases entries' <;> simp only [bareEntries, reduceCtorEq] at same
    exact .nil
  | (key, value) :: entries, entries', spoken, same => by
    cases entries' <;> simp only [bareEntries, reduceCtorEq, List.cons.injEq, Prod.mk.injEq] at same
    rw [partsOfEntries, List.forall_mem_append, List.forall_mem_append] at spoken
    exact .cons ⟨alike_of_bare spoken.1.1 same.1.1, alike_of_bare spoken.1.2 same.1.2⟩
      (alike_entries spoken.2 same.2)

end

mutual

/-- Neither of two nodes that are alike breaks off. -/
theorem alike_whole : ∀ {node node' : Node}, Alike node node' →
    (∀ part ∈ node.parts, part.error? = none) ∧ ∀ part ∈ node'.parts, part.error? = none
  | _, _, .scalar _ _ _ => by simp [parts, error?]
  | _, _, .sequence _ inside => by
    simp only [parts, List.forall_mem_cons]
    exact ⟨⟨rfl, (alike_items_whole inside).1⟩, rfl, (alike_items_whole inside).2⟩
  | _, _, .mapping _ inside => by
    simp only [parts, List.forall_mem_cons]
    exact ⟨⟨rfl, (alike_entries_whole inside).1⟩, rfl, (alike_entries_whole inside).2⟩

theorem alike_items_whole : ∀ {items items' : List Node}, List.Forall₂ Alike items items' →
    (∀ part ∈ partsOfItems items, part.error? = none) ∧ ∀ part ∈ partsOfItems items', part.error? = none
  | _, _, .nil => by simp [partsOfItems]
  | _, _, .cons head tail => by
    simp only [partsOfItems, List.forall_mem_append]
    exact ⟨⟨(alike_whole head).1, (alike_items_whole tail).1⟩, (alike_whole head).2, (alike_items_whole tail).2⟩

theorem alike_entries_whole : ∀ {entries entries' : List (Node × Node)}, List.Forall₂ AlikeEntry entries entries' →
    (∀ part ∈ partsOfEntries entries, part.error? = none) ∧ ∀ part ∈ partsOfEntries entries', part.error? = none
  | _, _, .nil => by simp [partsOfEntries]
  | _, _, .cons (.mk keys values) tail => by
    simp only [partsOfEntries, List.forall_mem_append]
    exact ⟨⟨⟨(alike_whole keys).1, (alike_whole values).1⟩, (alike_entries_whole tail).1⟩,
      ⟨(alike_whole keys).2, (alike_whole values).2⟩, (alike_entries_whole tail).2⟩

end

variable {node : Node} {properties : Properties}

theorem scalar_of_bare {text : String} {style : ScalarStyle} (bare : node.bare = .scalar properties text style) :
    ∃ properties, node = .scalar properties text style := by
  cases node <;> simp only [Node.bare, reduceCtorEq, scalar.injEq] at bare
  obtain ⟨-, rfl, rfl⟩ := bare
  exact ⟨_, rfl⟩

theorem sequence_of_bare {items : List Node} (bare : node.bare = .sequence properties items) :
    ∃ properties items', node = .sequence properties items' ∧ bareItems items' = items := by
  cases node <;> simp only [Node.bare, reduceCtorEq, sequence.injEq] at bare
  exact ⟨_, _, rfl, bare.2⟩

theorem mapping_of_bare {entries : List (Node × Node)} (bare : node.bare = .mapping properties entries) :
    ∃ properties entries', node = .mapping properties entries' ∧ bareEntries entries' = entries := by
  cases node <;> simp only [Node.bare, reduceCtorEq, mapping.injEq] at bare
  exact ⟨_, _, rfl, bare.2⟩

/-- An entry among bare ones is one of the entries, with bare ones around it. -/
theorem entries_of_bare {entries front back : List (Node × Node)} {entry : Node × Node}
    (bare : bareEntries entries = front ++ entry :: back) :
    ∃ front' key value back', entries = front' ++ (key, value) :: back' ∧ bareEntries front' = front ∧
      key.bare = entry.1 ∧ value.bare = entry.2 ∧ bareEntries back' = back := by
  rw [bare_entries_eq_map] at bare
  obtain ⟨front', rest, rfl, atFront, atRest⟩ := List.map_eq_append_iff.mp bare
  obtain ⟨⟨key, value⟩, back', rfl, atEntry, atBack⟩ := List.map_eq_cons_iff.mp atRest
  cases atEntry
  exact ⟨front', key, value, back', rfl, by rw [bare_entries_eq_map, atFront], rfl, rfl,
    by rw [bare_entries_eq_map, atBack]⟩

theorem items_of_bare {items before after : List Node} {item : Node}
    (bare : bareItems items = before ++ item :: after) :
    ∃ before' item' after', items = before' ++ item' :: after' ∧ bareItems before' = before ∧
      item'.bare = item ∧ bareItems after' = after := by
  rw [bare_items_eq_map] at bare
  obtain ⟨before', rest, rfl, atBefore, atRest⟩ := List.map_eq_append_iff.mp bare
  obtain ⟨item', after', rfl, atItem, atAfter⟩ := List.map_eq_cons_iff.mp atRest
  exact ⟨before', item', after', rfl, by rw [bare_items_eq_map, atBefore], atItem,
    by rw [bare_items_eq_map, atAfter]⟩

/-- An item of a sequence behind a key is written as one, with all around it. -/
theorem nested_of_bare {keyProperties listProperties : Properties} {text : String} {style : ScalarStyle}
    {front back : List (Node × Node)} {before after : List Node} {item : Node}
    (bare : node.bare = .mapping properties
      (front ++ (.scalar keyProperties text style, .sequence listProperties (before ++ item :: after)) :: back)) :
    ∃ properties keyProperties listProperties front' before' item' after' back',
      node = .mapping properties
        (front' ++ (.scalar keyProperties text style, .sequence listProperties (before' ++ item' :: after')) :: back') ∧
      bareEntries front' = front ∧ bareItems before' = before ∧ item'.bare = item ∧ bareItems after' = after ∧
      bareEntries back' = back := by
  obtain ⟨_, entries, rfl, same⟩ := mapping_of_bare bare
  obtain ⟨front', key, list, back', rfl, atFront, atKey, atList, atBack⟩ := entries_of_bare same
  obtain ⟨_, rfl⟩ := scalar_of_bare atKey
  obtain ⟨_, items, rfl, inList⟩ := sequence_of_bare atList
  obtain ⟨before', item', after', rfl, atBefore, atItem, atAfter⟩ := items_of_bare inList
  exact ⟨_, _, _, front', before', item', after', back', rfl, atFront, atBefore, atItem, atAfter, atBack⟩

theorem bare_entries_append (front back : List (Node × Node)) :
    bareEntries (front ++ back) = bareEntries front ++ bareEntries back := by
  simp only [bare_entries_eq_map, List.map_append]

/-- Entries in another order, apart from their places, are alike after they change places. -/
theorem entries_reordered {fields fields' : List (Node × Node)}
    (spoken : ∀ part ∈ partsOfEntries fields, part.speaks = true)
    (order : (bareEntries fields).Perm (bareEntries fields')) :
    ∃ moved, fields.Perm moved ∧ List.Forall₂ AlikeEntry moved fields' := by
  rw [bare_entries_eq_map fields] at order
  have found := congrFun (congrFun (List.eq_map_comp_perm fun entry : Node × Node => (entry.1.bare, entry.2.bare))
    (bareEntries fields')) fields
  obtain ⟨moved, same, moves⟩ := found.mpr order.symm
  rw [← bare_entries_eq_map] at same
  have spokenAgain : ∀ part ∈ partsOfEntries moved, part.speaks = true := fun part member => by
    obtain ⟨entry, among, inside⟩ := mem_parts_of_entries.mp member
    exact spoken part (mem_parts_of_entries.mpr ⟨entry, moves.mem_iff.mp among, inside⟩)
  exact ⟨moved, moves.symm, alike_entries spokenAgain same.symm⟩

end Node

namespace Read
open Node

variable {α σ : Type} {trail trail' : Trail} {node node' : Node}

/-- A reader that reads the same from nodes that are alike, wherever they stand. -/
def Placeless (read : Trail → Node → Read α) : Prop :=
  ∀ trail trail' {node node' : Node}, Alike node node' → Agree (read trail node) (read trail' node')

/-- What is alike is passed over. -/
theorem ignore_alike (alike : Alike node node') : ignore node = pure () ∧ ignore node' = pure () := by
  obtain ⟨whole, whole'⟩ := alike_whole alike
  exact ⟨ignore_whole (fault_eq_none_iff.mpr whole), ignore_whole (fault_eq_none_iff.mpr whole')⟩

theorem at_node_agree {read read' : Node → Read α} (alike : Alike node node')
    (agree : Agree (read node) (read' node')) :
    Agree (atNode trail node read) (atNode trail' node' read') := by
  cases alike <;> exact agree.located _ _ _ _

theorem text_placeless (expected : String) : Placeless (text expected) := by
  intro trail trail' node node' alike
  refine at_node_agree alike ?_
  cases alike with
  | scalar text => exact .pure text
  | sequence => exact .fail _ _
  | mapping => exact .fail _ _

theorem string_placeless : Placeless string :=
  text_placeless _

theorem bool_placeless : Placeless bool := by
  intro trail trail' node node' alike
  refine at_node_agree alike ?_
  cases alike with
  | scalar text style tag =>
    dsimp only
    rw [tag]
    split
    · exact .pure _
    · exact .fail _ _
  | sequence => exact .fail _ _
  | mapping => exact .fail _ _

theorem optional_placeless {read : Trail → Node → Read α} (placeless : Placeless read) :
    Placeless (optional read) := by
  intro trail trail' node node' alike
  have present : Agree (some <$> read trail node) (some <$> read trail' node') :=
    (placeless trail trail' alike).map some
  cases alike with
  | scalar text style tag =>
    unfold optional follow
    simp only [pure_bind]
    cases style with
    | plain =>
      dsimp only
      rw [tag]
      split
      · split
        · exact .pure _
        · exact present
      · split
        · split
          · exact .pure _
          · exact .fail _ _
        · exact present
    | quoted => exact present
    | literal => exact present
    | folded => exact present
  | sequence => exact present
  | mapping => exact present

/-- Items are read alike one by one. -/
theorem items_agree {read : Trail → Node → Read α} {nodes nodes' : List Node}
    (agree : List.Forall₂ (fun node node' => ∀ trail trail', Agree (read trail node) (read trail' node')) nodes nodes')
    (index index' : Nat) : Agree (items read trail index nodes) (items read trail' index' nodes') := by
  induction agree generalizing index index' with
  | nil => exact .pure []
  | cons head _ ih => exact (head _ _).bind fun value => (ih _ _).map (value :: ·)

theorem Placeless.items {read : Trail → Node → Read α} (placeless : Placeless read) {nodes nodes' : List Node}
    (alike : List.Forall₂ Alike nodes nodes') :
    Agree (items read trail 0 nodes) (items read trail' 0 nodes') :=
  items_agree (alike.imp fun _ _ alike trail trail' => placeless trail trail' alike) 0 0

theorem list_agree {read? : Option (Trail → Node → Read α)} {properties properties' : Properties}
    {nodes nodes' : List Node}
    (agree : ∀ read ∈ read?, Agree (items read trail 0 nodes) (items read trail' 0 nodes')) :
    Agree (list read? trail (.sequence properties nodes)) (list read? trail' (.sequence properties' nodes')) := by
  refine Agree.located ?_ _ _ _ _
  cases read? with
  | none => exact .throw _ _
  | some read => exact agree read rfl

/-- What may be left out is read alike where nothing stands. -/
theorem vacant_agree (alike : Alike node node') {read read' : Read α} (agree : Agree read read')
    (problem problem' : Problem) :
    Agree (if node.isVacant then read else fail problem) (if node'.isVacant then read' else fail problem') := by
  have same : node.isVacant = node'.isVacant := by
    cases alike with
    | scalar text style => cases style <;> rfl
    | sequence => rfl
    | mapping => rfl
  rw [same]
  split
  · exact agree
  · exact .fail _ _

theorem list_placeless {read? : Option (Trail → Node → Read α)} (placeless : ∀ read ∈ read?, Placeless read) :
    Placeless (list read?) := by
  intro trail trail' node node' alike
  cases alike with
  | scalar text style tag => exact at_node_agree (.scalar text style tag) (vacant_agree (.scalar text style tag) (.pure []) _ _)
  | sequence _ inside => exact list_agree fun read member => (placeless read member).items inside
  | mapping tag inside => exact at_node_agree (.mapping tag inside) (vacant_agree (.mapping tag inside) (.pure []) _ _)

theorem under_tag_agree {properties properties' : Properties} (tag : properties.tag = properties'.tag)
    {read read' : Option Tag → Read Value} (agree : ∀ tag, Agree (read tag) (read' tag)) :
    Agree (underTag properties read) (underTag properties' read') := by
  unfold underTag
  rw [tag]
  split
  · exact agree _
  · exact .fail _ _
  · exact (agree none).map _

theorem value_entries_agree {read : Trail → Node → Read Value} (placeless : Placeless read)
    {nodes nodes' : List (Node × Node)} (alike : List.Forall₂ AlikeEntry nodes nodes') (seen : List Value) :
    Agree (valueEntries read trail seen nodes) (valueEntries read trail' seen nodes') := by
  induction alike generalizing seen with
  | nil => exact .pure []
  | cons head _ ih =>
    obtain ⟨keys, values⟩ := head
    refine (placeless _ _ keys).bind fun key => ?_
    cases seen.find? (·.sameKey key) with
    | none => exact (placeless _ _ values).bind fun value => (ih _).map _
    | some present => exact .fail _ _

theorem of_except_agree (result : Except Problem α) : Agree (ofExcept result) (ofExcept result) := by
  cases result with
  | error problem => exact .fail _ _
  | ok value => exact .pure value

theorem value_placeless (depth : Nat) : Placeless (value depth) := by
  intro trail trail' node node' alike
  unfold value
  refine at_node_agree alike ?_
  cases alike with
  | scalar text style tag => exact under_tag_agree tag fun tag => of_except_agree _
  | sequence tag inside =>
    refine under_tag_agree tag fun _ => ?_
    cases depth with
    | zero => exact .throw _ _
    | succ depth => exact ((value_placeless depth).items inside).map _
  | mapping tag inside =>
    refine under_tag_agree tag fun _ => ?_
    cases depth with
    | zero => exact .throw _ _
    | succ depth => exact (value_entries_agree (value_placeless depth) inside []).map _

end Read
end CommandPlan.Yaml
