import CommandPlan.Definition

/-! Definitions can be compared. A definition nests in lists, and so do the values of
its defaults, so the comparison goes through both trees side by side. -/
namespace CommandPlan.DefinitionEquality
open Yaml

mutual

/-- Whether two values are written alike, tags included. -/
def sameValue : Value → Value → Bool
  | .null, .null => true
  | .bool value, .bool other => value = other
  | .number value, .number other => value = other
  | .string text, .string other => text = other
  | .sequence items, .sequence others => sameItems items others
  | .mapping entries, .mapping others => sameEntries entries others
  | .tagged tag value, .tagged otherTag other => tag = otherTag && sameValue value other
  | _, _ => false

def sameItems : List Value → List Value → Bool
  | [], [] => true
  | item :: items, other :: others => sameValue item other && sameItems items others
  | _, _ => false

def sameEntries : List (Value × Value) → List (Value × Value) → Bool
  | [], [] => true
  | (key, value) :: entries, (otherKey, other) :: others =>
    sameValue key otherKey && sameValue value other && sameEntries entries others
  | _, _ => false

end

mutual

theorem same_value_iff : ∀ value other : Value, sameValue value other = true ↔ value = other
  | .null, other => by cases other <;> simp [sameValue]
  | .bool value, other => by cases other <;> simp [sameValue]
  | .number value, other => by cases other <;> simp [sameValue]
  | .string text, other => by cases other <;> simp [sameValue]
  | .sequence items, other => by cases other <;> simp [sameValue, same_items_iff items]
  | .mapping entries, other => by cases other <;> simp [sameValue, same_entries_iff entries]
  | .tagged tag value, other => by cases other <;> simp [sameValue, same_value_iff value]

theorem same_items_iff : ∀ items others : List Value, sameItems items others = true ↔ items = others
  | [], others => by cases others <;> simp [sameItems]
  | item :: items, others => by
    cases others <;> simp [sameItems, same_value_iff item, same_items_iff items]

theorem same_entries_iff : ∀ entries others : List (Value × Value), sameEntries entries others = true ↔ entries = others
  | [], others => by cases others <;> simp [sameEntries]
  | (key, value) :: entries, others => by
    cases others <;> simp [sameEntries, same_value_iff key, same_value_iff value, same_entries_iff entries, Prod.ext_iff]

end

instance : DecidableEq Value :=
  fun value other => decidable_of_iff (sameValue value other = true) (same_value_iff value other)

deriving instance DecidableEq for Argument

deriving instance DecidableEq for Flag

mutual

def sameDefinition : Definition → Definition → Bool
  | ⟨name, short, help, arguments, flags, commands⟩, ⟨name', short', help', arguments', flags', commands'⟩ =>
    name = name' && short = short' && help = help' && arguments = arguments' && flags = flags' &&
      sameDefinitions commands commands'

def sameDefinitions : List Definition → List Definition → Bool
  | [], [] => true
  | definition :: definitions, other :: others =>
    sameDefinition definition other && sameDefinitions definitions others
  | _, _ => false

end

mutual

theorem same_definition_iff : ∀ definition other : Definition, sameDefinition definition other = true ↔ definition = other
  | ⟨_, _, _, _, _, commands⟩, ⟨_, _, _, _, _, others⟩ => by
    simp [sameDefinition, same_definitions_iff commands others, and_assoc]

theorem same_definitions_iff : ∀ definitions others : List Definition,
    sameDefinitions definitions others = true ↔ definitions = others
  | [], others => by cases others <;> simp [sameDefinitions]
  | definition :: definitions, others => by
    cases others <;> simp [sameDefinitions, same_definition_iff definition, same_definitions_iff definitions]

end

instance : DecidableEq Definition :=
  fun definition other => decidable_of_iff (sameDefinition definition other = true) (same_definition_iff definition other)

end CommandPlan.DefinitionEquality
