import CommandPlan.Proofs.NodePlaces
import Mathlib.Data.List.Pairwise
import Mathlib.Tactic.MkIffOfInductiveProp

/-! Records as tables of fields. Each field is kept at a place of its own in the draft, so
two of them may be read in either order, and one may not be read twice. What the table does
not name is passed over. -/
namespace CommandPlan.Yaml.Read
open Node

/-- One field of a record: where a draft keeps its content, and how it is read. -/
structure RecordField (σ : Type) where
  name : String
  Content : Type
  get : σ → Option Content
  set : σ → Option Content → σ
  read : Trail → Node → Read Content

variable {σ : Type}

namespace RecordField

def add (field : RecordField σ) (draft : σ) (trail : Trail) (node : Node) : Read σ := do
  pure (field.set draft (← once field.name (field.get draft) (field.read trail node)))

/-- Neither of two fields touches the other. -/
@[mk_iff]
structure Apart (field other : RecordField σ) : Prop where
  frame : ∀ draft content, other.get (field.set draft content) = other.get draft
  frame' : ∀ draft content, field.get (other.set draft content) = field.get draft
  turns : ∀ draft content content',
    other.set (field.set draft content) content' = field.set (other.set draft content') content

instance : Std.Symm (@Apart σ) where
  symm _ _ apart :=
    ⟨apart.frame', apart.frame, fun draft content content' => (apart.turns draft content' content).symm⟩

end RecordField

/-- Adds a field by its name in a table, or passes over it. -/
def addTo (table : List (RecordField σ)) (draft : σ) (name : String) (trail : Trail) (node : Node) : Read σ :=
  match table.find? (·.name = name) with
  | some field => field.add draft trail node
  | none => do
    ignore node
    pure draft

/-- A table of fields that places make no difference to, each with a place of its own. -/
structure Lawful (table : List (RecordField σ)) : Prop where
  placeless : ∀ field ∈ table, Placeless field.read
  filled : ∀ field ∈ table, ∀ draft content, field.get (field.set draft content) = content
  apart : table.Pairwise RecordField.Apart

section OneField

variable {field other : RecordField σ} {trail trail' : Trail} {node node' : Node} {draft : σ}

theorem once_agree {α : Type} {read read' : Read α} (name : String) (present : Option α)
    (agree : Agree read read') : Agree (once name present read) (once name present read') := by
  unfold once
  split
  · exact .fail _ _
  · exact agree.map some

theorem field_agree (placeless : Placeless field.read) (alike : Alike node node') :
    Agree (field.add draft trail node) (field.add draft trail' node') :=
  (once_agree _ _ (placeless trail trail' alike)).bind fun _ => .pure _

theorem fields_swap (apart : field.Apart other) (placeless : Placeless field.read)
    (placeless' : Placeless other.read) (alike : Alike node node) (alike' : Alike node' node') :
    Agree (field.add draft trail node >>= fun draft => other.add draft trail' node')
      (other.add draft trail' node' >>= fun draft => field.add draft trail node) := by
  -- Neither finds what the other has set, so either order is the same two readings in turn.
  simp only [RecordField.add, bind_assoc, pure_bind, apart.frame, apart.frame']
  refine Agree.swap (once_agree _ _ (placeless trail trail alike))
    (once_agree _ _ (placeless' trail' trail' alike')) fun content content' => ?_
  rw [apart.turns]
  exact .pure _

/-- A field that is given twice is a mistake. -/
theorem field_twice (filled : ∀ draft content, field.get (field.set draft content) = content) :
    Fails (field.add draft trail node >>= fun draft => field.add draft trail' node') := by
  unfold RecordField.add
  simp only [bind_assoc, pure_bind, filled]
  unfold once
  split
  · exact (Fails.fail _).bind _
  · rw [map_eq_pure_bind, bind_assoc]
    refine Fails.after _ fun content => ?_
    rw [pure_bind, Option.isSome_some, if_pos rfl]
    exact (Fails.fail _).bind _

end OneField

section Table

variable {table : List (RecordField σ)} {field : RecordField σ} {trail trail' : Trail} {node node' : Node} {draft : σ}

theorem add_to_some {name : String} (found : table.find? (·.name = name) = some field) :
    addTo table draft name trail node = field.add draft trail node := by
  rw [addTo, found]

theorem add_to_none {name : String} (absent : table.find? (·.name = name) = none)
    (passed : ignore node = pure ()) : addTo table draft name trail node = pure draft := by
  rw [addTo, absent]
  change (ignore node >>= fun _ => pure draft) = _
  rw [passed, pure_bind]

theorem add_to_placeless (lawful : Lawful table) (draft : σ) (name : String) :
    Placeless (addTo table draft name) := by
  intro trail trail' node node' alike
  cases found : table.find? (·.name = name) with
  | none =>
    obtain ⟨passed, passed'⟩ := ignore_alike alike
    rw [add_to_none found passed, add_to_none found passed']
    exact .pure draft
  | some field =>
    rw [add_to_some found, add_to_some found]
    exact field_agree (lawful.placeless field (List.mem_of_find?_eq_some found)) alike

/-- What is no field is passed over. -/
theorem add_to_unknown {name : String} (unknown : name ∉ table.map (·.name)) (whole : node.fault? = none) :
    addTo table draft name trail node = pure draft := by
  refine add_to_none ?_ (ignore_whole whole)
  rw [List.find?_eq_none]
  intro field member same
  exact unknown (List.mem_map.mpr ⟨field, member, of_decide_eq_true same⟩)

theorem add_to_swap (lawful : Lawful table) (name name' : String) (alike : Alike node node)
    (alike' : Alike node' node') :
    Agree (addTo table draft name trail node >>= fun draft => addTo table draft name' trail' node')
      (addTo table draft name' trail' node' >>= fun draft => addTo table draft name trail node) := by
  cases found : table.find? (·.name = name) with
  | none =>
    simp only [add_to_none found (ignore_alike alike).1, pure_bind, bind_pure]
    exact add_to_placeless lawful draft name' trail' trail' alike'
  | some field =>
    have member := List.mem_of_find?_eq_some found
    cases found' : table.find? (·.name = name') with
    | none =>
      simp only [add_to_some found, add_to_none found' (ignore_alike alike').1, pure_bind, bind_pure]
      exact field_agree (lawful.placeless field member) alike
    | some other =>
      simp only [add_to_some found, add_to_some found']
      have member' := List.mem_of_find?_eq_some found'
      -- One field that is given twice fails in either order, and two fields are apart.
      by_cases same : field = other
      · subst same
        exact (field_twice (lawful.filled field member)).agree (field_twice (lawful.filled field member))
      · have apart := lawful.apart.forall member member' same
        exact fields_swap apart (lawful.placeless field member) (lawful.placeless other member') alike alike'

/-- The reading of one entry. -/
def addEntry (table : List (RecordField σ)) (trail : Trail) (draft : σ) (entry : Node × Node) : Read σ :=
  key none trail entry.1 >>= fun name => addTo table draft name (trail.child entry.1) entry.2

theorem entries_cons (entry : Node × Node) (rest : List (Node × Node)) :
    entries none (addTo table) trail draft (entry :: rest) =
      addEntry table trail draft entry >>= fun draft => entries none (addTo table) trail draft rest := by
  rw [addEntry, bind_assoc]
  rfl

theorem entries_append (front back : List (Node × Node)) :
    entries none (addTo table) trail draft (front ++ back) =
      entries none (addTo table) trail draft front >>= fun draft => entries none (addTo table) trail draft back := by
  induction front generalizing draft with
  | nil => exact (pure_bind _ _).symm
  | cons entry front ih =>
    rw [List.cons_append, entries_cons, entries_cons, bind_assoc]
    simp only [ih]

variable {entry entry' : Node × Node} {fields fields' : List (Node × Node)}

theorem key_placeless : Placeless (key none) :=
  text_placeless "field identifier"

theorem entry_agree (lawful : Lawful table) (alike : AlikeEntry entry entry') :
    Agree (addEntry table trail draft entry) (addEntry table trail' draft entry') := by
  obtain ⟨keys, values⟩ := alike
  exact (key_placeless _ _ keys).bind fun name => add_to_placeless lawful draft name _ _ values

/-- Entries are read alike one by one. -/
theorem entries_agree
    (agree : List.Forall₂ (fun entry entry' => ∀ draft,
      Agree (addEntry table trail draft entry) (addEntry table trail' draft entry')) fields fields') :
    Agree (entries none (addTo table) trail draft fields) (entries none (addTo table) trail' draft fields') := by
  induction agree generalizing draft with
  | nil => exact .pure draft
  | cons head _ ih =>
    rw [entries_cons, entries_cons]
    exact (head draft).bind fun draft => ih

theorem entries_placeless (lawful : Lawful table) (alike : List.Forall₂ AlikeEntry fields fields') :
    Agree (entries none (addTo table) trail draft fields) (entries none (addTo table) trail' draft fields') :=
  entries_agree (alike.imp fun _ _ alike _ => entry_agree lawful alike)

/-- A key is the text of a scalar, or a mistake. -/
theorem key_cases (trail : Trail) (alike : Alike node node') :
    (∃ text, key none trail node = pure text) ∨ Fails (key none trail node) := by
  cases alike with
  | scalar text => exact .inl ⟨text, rfl⟩
  | sequence => exact .inr ((Fails.fail _).located _ _)
  | mapping => exact .inr ((Fails.fail _).located _ _)

theorem entries_swap (lawful : Lawful table) (alike : AlikeEntry entry entry) (alike' : AlikeEntry entry' entry') :
    Agree (addEntry table trail draft entry >>= fun draft => addEntry table trail draft entry')
      (addEntry table trail draft entry' >>= fun draft => addEntry table trail draft entry) := by
  obtain ⟨keys, values⟩ := alike
  obtain ⟨keys', values'⟩ := alike'
  unfold addEntry
  -- A key that is no scalar fails in front of the other entry as well as behind it.
  obtain ⟨name, named⟩ | failed := key_cases trail keys
  · obtain ⟨name', named'⟩ | failed' := key_cases trail keys'
    · simp only [named, named', pure_bind]
      exact add_to_swap lawful name name' values values'
    · exact (Fails.after _ fun _ => failed'.bind _).agree ((failed'.bind _).bind _)
  · exact ((failed.bind _).bind _).agree (Fails.after _ fun _ => failed.bind _)

/-- The order of the entries makes no difference. -/
theorem entries_perm (lawful : Lawful table) (alike : ∀ entry ∈ fields, AlikeEntry entry entry)
    (order : fields.Perm fields') :
    Agree (entries none (addTo table) trail draft fields) (entries none (addTo table) trail draft fields') := by
  induction order generalizing draft with
  | nil => exact .pure draft
  | cons entry order ih =>
    rw [entries_cons, entries_cons]
    rw [List.forall_mem_cons] at alike
    exact (entry_agree lawful alike.1).bind fun draft => ih alike.2
  | swap entry entry' fields =>
    simp only [List.forall_mem_cons] at alike
    obtain ⟨one, other, rest⟩ := alike
    simp only [entries_cons, ← bind_assoc]
    exact (entries_swap lawful one other).bind fun draft =>
      entries_placeless lawful (List.forall₂_same.mpr rest)
  | trans order order' ih ih' =>
    exact (ih alike).trans (ih' fun entry member => alike entry (order.mem_iff.mpr member))

/-- An entry with a key that the table does not name makes no difference, whatever its value. -/
theorem entries_unknown {properties : Properties} {text : String} {style : ScalarStyle} {value : Node}
    (unknown : text ∉ table.map (·.name)) (whole : value.fault? = none) (front back : List (Node × Node)) :
    entries none (addTo table) trail draft (front ++ (.scalar properties text style, value) :: back) =
      entries none (addTo table) trail draft (front ++ back) := by
  have passed (draft : σ) : addEntry table trail draft (.scalar properties text style, value) = pure draft := by
    change addTo table draft text _ value = _
    exact add_to_unknown unknown whole
  rw [entries_append, entries_append]
  simp only [entries_cons, passed, pure_bind]

end Table

section Record

variable {α : Type} {expected : String} {draft : σ} {add? : Option (σ → String → Trail → Node → Read σ)}
  {finish : σ → Except Problem α} {trail trail' : Trail}

theorem finish_agree (finish : σ → Except Problem α) (draft : σ) :
    Agree (match finish draft with | .ok record => pure record | .error problem => fail problem)
      (match finish draft with | .ok record => pure record | .error problem => fail problem : Read α) := by
  cases finish draft with
  | error problem => exact .fail _ _
  | ok value => exact .pure value

/-- A record is read alike where its entries are. -/
theorem record_agree {properties properties' : Properties} {fields fields' : List (Node × Node)}
    (agree : ∀ add ∈ add?, Agree (entries none add trail draft fields) (entries none add trail' draft fields')) :
    Agree (record expected none draft add? finish trail (.mapping properties fields))
      (record expected none draft add? finish trail' (.mapping properties' fields')) := by
  refine Agree.located ?_ _ _ _ _
  cases add? with
  | none => exact .throw _ _
  | some add => exact (agree add rfl).bind (finish_agree finish)

theorem record_placeless (lawful : ∀ add ∈ add?, ∃ table, Lawful table ∧ add = addTo table) :
    Placeless (record expected none draft add? finish) := by
  intro trail trail' node node' alike
  cases alike with
  | scalar text style tag =>
    exact (vacant_agree (.scalar text style tag) (finish_agree finish draft) _ _).located _ _ _ _
  | sequence tag inside =>
    exact (vacant_agree (.sequence tag inside) (finish_agree finish draft) _ _).located _ _ _ _
  | mapping tag inside =>
    refine record_agree fun add member => ?_
    obtain ⟨table, lawful, rfl⟩ := lawful add member
    exact entries_placeless lawful inside

end Record
end CommandPlan.Yaml.Read
