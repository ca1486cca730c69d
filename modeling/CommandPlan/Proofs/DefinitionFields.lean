import CommandPlan.Proofs.RecordFields

/-! The records of a definition by their tables of fields. Commands, arguments and flags
are read by one reader that differs in its table alone, so what holds of tables holds of
all three, at every depth. -/
namespace CommandPlan.DefinitionFields
open Yaml Yaml.Read Yaml.Node

def argumentTable (depth : Nat) : List (RecordField ArgumentDraft) := [
  ⟨"name", String, (·.name), fun draft name => { draft with name }, string⟩,
  ⟨"required", Bool, (·.required), fun draft required => { draft with required }, bool⟩,
  ⟨"default", Option Value, (·.defaultValue), fun draft defaultValue => { draft with defaultValue },
    optional (value depth)⟩,
  ⟨"help", Option String, (·.help), fun draft help => { draft with help }, optional string⟩]

def flagTable (depth : Nat) : List (RecordField FlagDraft) := [
  ⟨"name", String, (·.name), fun draft name => { draft with name }, string⟩,
  ⟨"short", Option String, (·.short), fun draft short => { draft with short }, optional string⟩,
  ⟨"required", Bool, (·.required), fun draft required => { draft with required }, bool⟩,
  ⟨"default", Option Value, (·.defaultValue), fun draft defaultValue => { draft with defaultValue },
    optional (value depth)⟩,
  ⟨"help", Option String, (·.help), fun draft help => { draft with help }, optional string⟩,
  ⟨"arg", Option String, (·.placeholder), fun draft placeholder => { draft with placeholder }, optional string⟩]

def commandTable (commands : Trail → Node → Read (List Definition)) (depth : Nat) : List (RecordField CommandDraft) := [
  ⟨"name", String, (·.name), fun draft name => { draft with name }, string⟩,
  ⟨"short", Option String, (·.short), fun draft short => { draft with short }, optional string⟩,
  ⟨"help", Option String, (·.help), fun draft help => { draft with help }, optional string⟩,
  ⟨"args", List Argument, (·.arguments), fun draft arguments => { draft with arguments },
    list (inside argument depth)⟩,
  ⟨"flags", List Flag, (·.flags), fun draft flags => { draft with flags }, list (inside flag depth)⟩,
  ⟨"commands", List Definition, (·.commands), fun draft commands => { draft with commands }, commands⟩]

theorem argument_add_eq (depth : Nat) : ArgumentDraft.add depth = addTo (argumentTable depth) := by
  funext draft key trail node
  unfold ArgumentDraft.add
  split
  case h_5 => simp_all [addTo, argumentTable, eq_comm]
  all_goals rfl

theorem flag_add_eq (depth : Nat) : FlagDraft.add depth = addTo (flagTable depth) := by
  funext draft key trail node
  unfold FlagDraft.add
  split
  case h_7 => simp_all [addTo, flagTable, eq_comm]
  all_goals rfl

theorem command_field_eq (commands : Trail → Node → Read (List Definition)) (depth : Nat) :
    commandField commands depth = addTo (commandTable commands depth) := by
  funext draft key trail node
  unfold commandField
  split
  case h_7 => simp_all [addTo, commandTable, eq_comm]
  all_goals rfl

theorem argument_table_lawful (depth : Nat) : Lawful (argumentTable depth) where
  placeless := by
    simp only [argumentTable, List.forall_mem_cons]
    exact ⟨string_placeless, bool_placeless, optional_placeless (value_placeless depth),
      optional_placeless string_placeless, List.forall_mem_nil _⟩
  filled := by simp [argumentTable]
  apart := by simp [argumentTable, RecordField.apart_iff]

theorem flag_table_lawful (depth : Nat) : Lawful (flagTable depth) where
  placeless := by
    simp only [flagTable, List.forall_mem_cons]
    exact ⟨string_placeless, optional_placeless string_placeless, bool_placeless,
      optional_placeless (value_placeless depth), optional_placeless string_placeless,
      optional_placeless string_placeless, List.forall_mem_nil _⟩
  filled := by simp [flagTable]
  apart := by simp [flagTable, RecordField.apart_iff]

/-- A record that is read by a table: the table depends on how deep values may nest. -/
structure Form where
  Draft : Type
  Result : Type
  expected : String
  empty : Draft
  table : Nat → List (RecordField Draft)
  finish : Draft → Except Problem Result

def Form.read (form : Form) (depth : Nat) : Trail → Node → Read form.Result :=
  record form.expected none form.empty (inside (fun depth => addTo (form.table depth)) depth) form.finish

def argumentForm : Form :=
  ⟨ArgumentDraft, Argument, "struct ArgConfig", {}, argumentTable, ArgumentDraft.finish⟩

def flagForm : Form :=
  ⟨FlagDraft, Flag, "struct FlagConfig", {}, flagTable, FlagDraft.finish⟩

def commandForm : Form :=
  ⟨CommandDraft, Definition, "struct CommandConfig", {}, fun depth => commandTable (definitions depth) depth,
    CommandDraft.finish⟩

theorem argument_eq : argument = argumentForm.read := by
  funext depth
  cases depth with
  | zero => rfl
  | succ depth =>
    rw [argument, inside, argument_add_eq]
    rfl

theorem flag_eq : flag = flagForm.read := by
  funext depth
  cases depth with
  | zero => rfl
  | succ depth =>
    rw [flag, inside, flag_add_eq]
    rfl

theorem definition_eq : definition = commandForm.read := by
  funext depth
  cases depth with
  | zero => rw [definition]; rfl
  | succ depth =>
    rw [definition, command_field_eq]
    rfl

theorem definitions_eq (depth : Nat) : definitions depth = list (inside definition depth) := by
  cases depth with
  | zero => rw [definitions]; rfl
  | succ depth => rw [definitions]; rfl

theorem mem_inside {α : Type} {read : Nat → α} {depth : Nat} {reader : α} (member : reader ∈ inside read depth) :
    ∃ depth, reader = read depth := by
  cases depth with
  | zero => cases member
  | succ depth =>
    cases member
    exact ⟨depth, rfl⟩

theorem form_placeless {form : Form} (lawful : ∀ depth, Lawful (form.table depth)) (depth : Nat) :
    Placeless (form.read depth) := by
  refine record_placeless fun add member => ?_
  obtain ⟨depth, rfl⟩ := mem_inside member
  exact ⟨form.table depth, lawful depth, rfl⟩

/-- At a mapping two readings agree when those of its entries do, whatever the depth. -/
theorem form_agree {form : Form} {properties properties' : Properties} {fields fields' : List (Node × Node)}
    (agree : ∀ depth draft trail trail', Agree (entries none (addTo (form.table depth)) trail draft fields)
      (entries none (addTo (form.table depth)) trail' draft fields'))
    (depth : Nat) (trail trail' : Trail) :
    Agree (form.read depth trail (.mapping properties fields))
      (form.read depth trail' (.mapping properties' fields')) := by
  refine record_agree fun add member => ?_
  obtain ⟨depth, rfl⟩ := mem_inside member
  exact agree depth _ trail trail'

theorem inside_placeless {α : Type} {read : Nat → Trail → Node → Read α}
    (placeless : ∀ depth, Placeless (read depth)) (depth : Nat) : Placeless (list (inside read depth)) := by
  refine list_placeless fun reader member => ?_
  obtain ⟨depth, rfl⟩ := mem_inside member
  exact placeless depth

theorem inside_agree {α : Type} {read : Nat → Trail → Node → Read α} {properties properties' : Properties}
    {items items' : List Node} {trail trail' : Trail}
    (agree : ∀ depth trail trail', Agree (Read.items (read depth) trail 0 items) (Read.items (read depth) trail' 0 items'))
    (depth : Nat) :
    Agree (list (inside read depth) trail (.sequence properties items))
      (list (inside read depth) trail' (.sequence properties' items')) := by
  refine list_agree fun reader member => ?_
  obtain ⟨depth, rfl⟩ := mem_inside member
  exact agree depth trail trail'

theorem command_table_lawful {commands : Trail → Node → Read (List Definition)} (placeless : Placeless commands)
    (depth : Nat) : Lawful (commandTable commands depth) where
  placeless := by
    simp only [commandTable, List.forall_mem_cons, argument_eq, flag_eq]
    exact ⟨string_placeless, optional_placeless string_placeless, optional_placeless string_placeless,
      inside_placeless (form_placeless argument_table_lawful) depth,
      inside_placeless (form_placeless flag_table_lawful) depth, placeless, List.forall_mem_nil _⟩
  filled := by simp [commandTable]
  apart := by simp [commandTable, RecordField.apart_iff]

mutual

theorem definition_placeless : ∀ depth, Placeless (definition depth)
  | 0 => by
    rw [definition]
    exact record_placeless (by simp)
  | depth + 1 => by
    rw [definition, command_field_eq]
    refine record_placeless ?_
    rintro _ ⟨⟩
    exact ⟨_, command_table_lawful (definitions_placeless depth) depth, rfl⟩

theorem definitions_placeless : ∀ depth, Placeless (definitions depth)
  | 0 => by
    rw [definitions]
    exact list_placeless (by simp)
  | depth + 1 => by
    rw [definitions]
    refine list_placeless ?_
    rintro _ ⟨⟩
    exact definition_placeless depth

end

end CommandPlan.DefinitionFields
