import CommandPlan.Proofs.BlankDocuments
import CommandPlan.Proofs.DefinitionEquality
import CommandPlan.Proofs.DefinitionFields
import CommandPlan.Settings
import Mathlib.Logic.Relation

/-! Keys without a meaning. A definition passes over them, and over the order of its keys:
a document and its edit are both no definition, or the same one. The user's own settings
refuse them. -/
namespace CommandPlan.UnknownKeys
open Yaml Yaml.Read Yaml.Node DefinitionFields

/-- What a mapping inside a definition describes. -/
inductive Role where
  | command
  | argument
  | flag

namespace Role

/-- The keys that have a meaning. -/
def keys : Role → List String
  | command => ["name", "short", "help", "args", "flags", "commands"]
  | argument => ["name", "required", "default", "help"]
  | flag => ["name", "short", "required", "default", "help", "arg"]

/-- What the items of the sequence behind a key describe. -/
def below : Role → String → Option Role
  | command, "args" => some argument
  | command, "flags" => some flag
  | command, "commands" => some command
  | _, _ => none

end Role

/-- An edit at one mapping of a definition, of the whole or of any item below it. -/
inductive Edited : Role → Node → Node → Prop
  /-- An entry is put in whose key has no meaning; its value may be any. -/
  | inserted {role : Role} {text : String} (properties keyProperties : Properties) (style : ScalarStyle)
      (value : Node) (front back : List (Node × Node)) (unknown : text ∉ role.keys) :
      Edited role (.mapping properties (front ++ back))
        (.mapping properties (front ++ (.scalar keyProperties text style, value) :: back))
  /-- The entries change their order. -/
  | reordered {role : Role} {entries entries' : List (Node × Node)} (properties : Properties)
      (order : entries.Perm entries') : Edited role (.mapping properties entries) (.mapping properties entries')
  /-- An item is edited of the sequence behind a key. -/
  | inside {role inner : Role} {text : String} {item item' : Node}
      (properties keyProperties listProperties : Properties) (style : ScalarStyle)
      (front back : List (Node × Node)) (before after : List Node) (nested : role.below text = some inner)
      (edited : Edited inner item item') :
      Edited role
        (.mapping properties
          (front ++ (.scalar keyProperties text style, .sequence listProperties (before ++ item :: after)) :: back))
        (.mapping properties
          (front ++ (.scalar keyProperties text style, .sequence listProperties (before ++ item' :: after)) :: back))

/-- One edit of a definition without aliases. Places and anchors do not count, and what is
put in may hold aliases. -/
def EditedOnce (node node' : Node) : Prop :=
  node.hasAlias = false ∧ Edited .command node.bare node'.bare

def Role.form : Role → Form
  | command => commandForm
  | argument => argumentForm
  | flag => flagForm

theorem form_lawful (role : Role) (depth : Nat) : Lawful (role.form.table depth) := by
  cases role with
  | command => exact command_table_lawful (definitions_placeless depth) depth
  | argument => exact argument_table_lawful depth
  | flag => exact flag_table_lawful depth

theorem form_keys (role : Role) (depth : Nat) : (role.form.table depth).map (·.name) = role.keys := by
  cases role <;> rfl

section Edits

variable {role inner : Role} {node node' : Node}

/-- What is behind a key matters only as the items that it is read as. -/
theorem below_agree {text : String} {properties properties' : Properties} {items items' : List Node}
    (nested : role.below text = some inner)
    (agree : ∀ depth trail trail', Agree (Read.items (inner.form.read depth) trail 0 items)
      (Read.items (inner.form.read depth) trail' 0 items'))
    (depth : Nat) (draft : role.form.Draft) (trail trail' : Trail) :
    Agree (addTo (role.form.table depth) draft text trail (.sequence properties items))
      (addTo (role.form.table depth) draft text trail' (.sequence properties' items')) := by
  unfold Role.below at nested
  split at nested
  · cases nested
    refine (once_agree _ _ (inside_agree ?_ depth)).bind fun _ => .pure _
    rw [argument_eq]
    exact agree
  · cases nested
    refine (once_agree _ _ (inside_agree ?_ depth)).bind fun _ => .pure _
    rw [flag_eq]
    exact agree
  · cases nested
    refine (once_agree "commands" draft.commands ?_).bind fun _ => .pure _
    change Agree (definitions depth trail _) (definitions depth trail' _)
    rw [definitions_eq, definition_eq]
    exact inside_agree agree depth
  · cases nested

/-- A sequence is read alike where one of its items is, and the others are alike. -/
theorem one_item_agree {front front' back back' : List Node} {item item' : Node}
    (atFront : List.Forall₂ Alike front front') (atBack : List.Forall₂ Alike back back')
    (agree : ∀ depth trail trail', Agree (role.form.read depth trail item) (role.form.read depth trail' item'))
    (depth : Nat) (trail trail' : Trail) :
    Agree (Read.items (role.form.read depth) trail 0 (front ++ item :: back))
      (Read.items (role.form.read depth) trail' 0 (front' ++ item' :: back')) := by
  have read {node node' : Node} (alike : Alike node node') (trail trail' : Trail) :
      Agree (role.form.read depth trail node) (role.form.read depth trail' node') :=
    form_placeless (form_lawful role) depth trail trail' alike
  exact items_agree (List.rel_append (atFront.imp fun _ _ => read)
    (.cons (agree depth) (atBack.imp fun _ _ => read))) 0 0

/-- A mapping is read alike where the value behind one of its keys is, and the rest is alike. -/
theorem one_entry_agree {front front' back back' : List (Node × Node)} {text : String} {style : ScalarStyle}
    {keyProperties keyProperties' properties properties' : Properties} {value value' : Node}
    (atFront : List.Forall₂ AlikeEntry front front') (atBack : List.Forall₂ AlikeEntry back back')
    (agree : ∀ depth draft trail trail', Agree (addTo (role.form.table depth) draft text trail value)
      (addTo (role.form.table depth) draft text trail' value'))
    (depth : Nat) (trail trail' : Trail) :
    Agree
      (role.form.read depth trail
        (.mapping properties (front ++ (.scalar keyProperties text style, value) :: back)))
      (role.form.read depth trail'
        (.mapping properties' (front' ++ (.scalar keyProperties' text style, value') :: back'))) := by
  refine form_agree (fun depth draft trail trail' => entries_agree ?_) depth trail trail'
  have read {entry entry' : Node × Node} (alike : AlikeEntry entry entry') (draft : role.form.Draft) :
      Agree (addEntry (role.form.table depth) trail draft entry)
        (addEntry (role.form.table depth) trail' draft entry') :=
    entry_agree (form_lawful role depth) alike
  exact List.rel_append (atFront.imp fun _ _ => read)
    (.cons (fun draft => agree depth draft _ _) (atBack.imp fun _ _ => read))

/-- An edit takes no fault away. -/
theorem edited_whole (edited : Edited role node node') (whole : ∀ part ∈ node'.parts, part.error? = none) :
    ∀ part ∈ node.parts, part.error? = none := by
  induction edited with
  | inserted properties keyProperties style value front back unknown =>
    obtain ⟨atFront, -, atBack⟩ := value_parts whole
    rw [parts, parts_of_entries_append, List.forall_mem_cons, List.forall_mem_append]
    exact ⟨rfl, atFront, atBack⟩
  | reordered properties order =>
    rw [parts, List.forall_mem_cons] at whole ⊢
    refine ⟨rfl, fun part member => ?_⟩
    obtain ⟨entry, among, inside⟩ := mem_parts_of_entries.mp member
    exact whole.2 part (mem_parts_of_entries.mpr ⟨entry, order.mem_iff.mp among, inside⟩)
  | inside properties keyProperties listProperties style front back before after nested edited ih =>
    obtain ⟨atFront, inList, atBack⟩ := value_parts whole
    obtain ⟨atBefore, atItem, atAfter⟩ := item_parts inList
    have item := ih atItem
    simp only [parts, parts_of_entries_append, partsOfEntries, parts_of_items_append, partsOfItems,
      List.forall_mem_cons, List.forall_mem_append]
    exact ⟨rfl, atFront, ⟨⟨rfl, List.forall_mem_nil _⟩, rfl, atBefore, item, atAfter⟩, atBack⟩

/-- An edit changes nothing that is read: by induction on the way to the mapping that it is at. -/
theorem edited_agree {bare bare' : Node} (edited : Edited role bare bare') {node node' : Node}
    (atNode : node.bare = bare) (atNode' : node'.bare = bare') (spoken : ∀ part ∈ node.parts, part.speaks = true)
    (whole : ∀ part ∈ node'.parts, part.error? = none) (depth : Nat) (trail trail' : Trail) :
    Agree (role.form.read depth trail node) (role.form.read depth trail' node') := by
  induction edited generalizing node node' depth trail trail' with
  | inserted properties keyProperties style value front back unknown =>
    obtain ⟨_, fields, rfl, same⟩ := mapping_of_bare atNode
    obtain ⟨_, fields', rfl, same'⟩ := mapping_of_bare atNode'
    obtain ⟨front', key, value', back', rfl, atFront, atKey, -, atBack⟩ := entries_of_bare same'
    obtain ⟨_, rfl⟩ := scalar_of_bare atKey
    have wholeValue := fault_eq_none_iff.mpr (value_parts whole).2.1
    rw [parts, List.forall_mem_cons] at spoken
    -- The entry that is put in is passed over, and the others are alike.
    refine form_agree (fun depth draft trail trail' => ?_) depth trail trail'
    rw [← form_keys _ depth] at unknown
    rw [entries_unknown unknown wholeValue]
    refine entries_placeless (form_lawful _ depth) (alike_entries spoken.2 ?_)
    rw [same, bare_entries_append, atFront, atBack]
  | reordered properties order =>
    obtain ⟨_, fields, rfl, rfl⟩ := mapping_of_bare atNode
    obtain ⟨_, fields', rfl, rfl⟩ := mapping_of_bare atNode'
    rw [parts, List.forall_mem_cons] at spoken
    obtain ⟨moved, moves, alike⟩ := entries_reordered spoken.2 order
    have reflexive := List.forall₂_same.mp (alike_entries spoken.2 rfl)
    refine form_agree (fun depth draft trail trail' => ?_) depth trail trail'
    exact (entries_perm (form_lawful _ depth) reflexive moves).trans
      (entries_placeless (form_lawful _ depth) alike)
  | inside properties keyProperties listProperties style front back before after nested edited ih =>
    obtain ⟨_, _, _, front, before, item, after, back, rfl, rfl, rfl, rfl, rfl, rfl⟩ := nested_of_bare atNode
    obtain ⟨_, _, _, front', before', item', after', back', rfl, atFront, atBefore, rfl, atAfter, atBack⟩ :=
      nested_of_bare atNode'
    obtain ⟨spokenFront, spokenList, spokenBack⟩ := value_parts spoken
    obtain ⟨spokenBefore, spokenItem, spokenAfter⟩ := item_parts spokenList
    have wholeItem := (item_parts (value_parts whole).2.1).2.1
    have items := one_item_agree (alike_items spokenBefore atBefore.symm) (alike_items spokenAfter atAfter.symm)
      (ih rfl rfl spokenItem wholeItem)
    exact one_entry_agree (alike_entries spokenFront atFront.symm) (alike_entries spokenBack atBack.symm)
      (below_agree nested items) depth trail trail'

theorem edited_once_whole (edit : EditedOnce node node') (whole : node'.fault? = none) : node.fault? = none := by
  rw [← bare_fault_iff, fault_eq_none_iff] at whole ⊢
  exact edited_whole edit.2 whole

theorem edited_once_agree (edit : EditedOnce node node') (whole : node'.fault? = none) (depth : Nat) (trail : Trail) :
    Agree (commandForm.read depth trail node) (commandForm.read depth trail node') :=
  edited_agree edit.2 rfl rfl (parts_speak edit.1 (edited_once_whole edit whole)) (fault_eq_none_iff.mp whole) depth
    trail trail

theorem edits_agree (edits : Relation.TransGen EditedOnce node node') (whole : node'.fault? = none) (depth : Nat)
    (trail : Trail) : Agree (definition depth trail node) (definition depth trail node') := by
  rw [definition_eq]
  induction edits with
  | single edit => exact edited_once_agree edit whole depth trail
  | tail _ edit ih =>
    exact (ih (edited_once_whole edit whole)).trans (edited_once_agree edit whole depth trail)

end Edits

section Settings

variable {σ α : Type} {known : List String} {add : σ → String → Trail → Node → Read σ} {trail : Trail} {draft : σ}
  {fields : List (Node × Node)} {properties keyProperties : Properties} {text : String} {style : ScalarStyle}
  {value : Node}

/-- A closed record fails at a key that it does not know, unless it has failed before. -/
theorem closed_entries_fail (present : (.scalar keyProperties text style, value) ∈ fields) (unknown : text ∉ known) :
    Fails (entries (some known) add trail draft fields) := by
  induction fields generalizing draft with
  | nil => cases present
  | cons entry fields ih =>
    obtain ⟨keyNode, valueNode⟩ := entry
    obtain here | there := List.mem_cons.mp present
    · cases here
      have refused : Fails (key (some known) trail (.scalar keyProperties text style)) := by
        refine Fails.located ?_ _ _
        dsimp only
        rw [if_neg (by simpa using unknown)]
        exact .fail _
      exact refused.bind _
    · exact Fails.after _ fun name => Fails.after _ fun draft => ih there

theorem settings_fail {document : Document} {content : String} (parsed : Document.parse content = .ok document)
    (mapping : document.root = .mapping properties fields)
    (present : (.scalar keyProperties text style, value) ∈ fields) (unknown : text ∉ UserSettings.keys) :
    ∃ error, UserSettings.read content = .error error := by
  have refused : (UserSettings.read content).toOption = none := by
    rw [UserSettings.read, run_to_option, parsed, Except.toOption, Option.bind_some, mapping]
    split
    · exact ((closed_entries_fail present unknown).bind _).located _ _ _ _
    · rfl
  cases read : UserSettings.read content with
  | error error => exact ⟨error, rfl⟩
  | ok settings =>
    rw [read] at refused
    cases refused

end Settings

/-- Edits of a definition without aliases, each of which puts in an entry with a key without
a meaning or changes the order of the entries, at any command, argument or flag of it, make
no difference: both texts are no definition, or both are the same one, and so are the tree
and all that is said of it. A mapping of the user's own settings that holds such a key is
never read. -/
theorem unknown_keys_pass_but_in_settings :
    (∀ (text edit : String) (document edited : Document),
      Document.parse text = .ok document → Document.parse edit = .ok edited →
      document.isOnly = edited.isOnly → Relation.TransGen EditedOnce document.root edited.root →
        (Definition.read text).toOption = (Definition.read edit).toOption) ∧
    ∀ (files : FileSystem) (path : Path) (text : String) (document : Document) (properties : Properties)
      (entries : List (Node × Node)) (keyProperties : Properties) (key : String) (style : ScalarStyle) (value : Node),
      files.isFile path = true → files.readText path = .ok text → Document.parse text = .ok document →
      document.root = .mapping properties entries → (.scalar keyProperties key style, value) ∈ entries →
      key ∉ UserSettings.keys →
        ∃ error, UserSettings.load files path = .error (.malformed error) := by
  constructor
  · intro text edit document edited parsed parsed' only edits
    rw [Definition.read, Definition.read, run_to_option, run_to_option, parsed, parsed', Except.toOption,
      Except.toOption, Option.bind_some, Option.bind_some, only]
    split
    · exact edits_agree edits (Document.whole_of_parse parsed') depthLimit .root _ _ _ _
    · rfl
  · intro files path text document properties entries keyProperties key style value isFile found parsed mapping
      present unknown
    obtain ⟨error, refused⟩ := settings_fail parsed mapping present unknown
    have speaks : text.toList.all Text.isBlank = false := by
      rw [← Bool.not_eq_true]
      intro blank
      obtain ⟨_, _, _, scalar⟩ := Document.blank_root blank parsed
      rw [mapping] at scalar
      cases scalar
    refine ⟨error, ?_⟩
    rw [UserSettings.load, if_pos isFile, found]
    change (if text.toList.all Text.isBlank then .ok {}
      else (UserSettings.read text).mapError UserSettings.LoadError.malformed) = _
    rw [speaks, refused]
    rfl

/-- A definition of two commands. -/
def plainText : String := "name: a\ncommands:\n- name: b\n"

/-- The same definition, with a key that it has no meaning for. -/
def coloredText : String := "name: a\ncommands:\n- color: [red]\n  name: b\n"

def plainDocument : Document where
  root := .mapping { position := ⟨0, 0, 0⟩ } [
    (.scalar { position := ⟨0, 0, 0⟩ } "name" .plain, .scalar { position := ⟨6, 0, 6⟩ } "a" .plain),
    (.scalar { position := ⟨8, 1, 0⟩ } "commands" .plain, .sequence { position := ⟨18, 2, 0⟩ } [
      .mapping { position := ⟨20, 2, 2⟩ } [
        (.scalar { position := ⟨20, 2, 2⟩ } "name" .plain, .scalar { position := ⟨26, 2, 8⟩ } "b" .plain)]])]
  isOnly := true

def coloredDocument : Document where
  root := .mapping { position := ⟨0, 0, 0⟩ } [
    (.scalar { position := ⟨0, 0, 0⟩ } "name" .plain, .scalar { position := ⟨6, 0, 6⟩ } "a" .plain),
    (.scalar { position := ⟨8, 1, 0⟩ } "commands" .plain, .sequence { position := ⟨18, 2, 0⟩ } [
      .mapping { position := ⟨20, 2, 2⟩ } [
        (.scalar { position := ⟨20, 2, 2⟩ } "color" .plain, .sequence { position := ⟨27, 2, 9⟩ } [
          .scalar { position := ⟨28, 2, 10⟩ } "red" .plain]),
        (.scalar { position := ⟨35, 3, 2⟩ } "name" .plain, .scalar { position := ⟨41, 3, 8⟩ } "b" .plain)]])]
  isOnly := true

/-- What is left behind a document that ends with its text. -/
def nothingLeft (position : Position) : Reading :=
  ⟨[⟨.streamEnd, position⟩], none, Document.defaultHandles, []⟩

theorem plain_parsed : Document.parse plainText = .ok plainDocument := by
  have read : Document.readRoot plainText.toList = (plainDocument.root, nothingLeft ⟨28, 3, 0⟩) := by
    unfold plainText plainDocument
    rfl
  exact Document.parse_of_root read rfl

theorem colored_parsed : Document.parse coloredText = .ok coloredDocument := by
  have read : Document.readRoot coloredText.toList = (coloredDocument.root, nothingLeft ⟨43, 4, 0⟩) := by
    unfold coloredText coloredDocument
    rfl
  exact Document.parse_of_root read rfl

theorem colored_edited : EditedOnce plainDocument.root coloredDocument.root :=
  ⟨rfl, .inside { position := {} } { position := {} } { position := {} } .plain
    [(.scalar { position := {} } "name" .plain, .scalar { position := {} } "a" .plain)] [] [] [] rfl
    (.inserted { position := {} } { position := {} } .plain
      (.sequence { position := {} } [.scalar { position := {} } "red" .plain]) []
      [(.scalar { position := {} } "name" .plain, .scalar { position := {} } "b" .plain)] (by decide))⟩

theorem plain_read : Definition.read plainText = .ok { name := "a", commands := [{ name := "b" }] } := by
  rw [← RunEffects.to_option_eq_some_iff, show plainText = String.ofList _ from rfl]
  rw [Definition.read, run, String.toList_ofList]
  decide +kernel

/-- Settings with a key that only looks like one of theirs. -/
def wordyText : String := "sourceDirectory: scripts\n"

def wordyDocument : Document where
  root := .mapping { position := ⟨0, 0, 0⟩ }
    [(.scalar { position := ⟨0, 0, 0⟩ } "sourceDirectory" .plain, .scalar { position := ⟨17, 0, 17⟩ } "scripts" .plain)]
  isOnly := true

def wordyFiles : FileSystem where
  entries := [(["settings.yaml"], .file (Utf8.encode wordyText.toList))]
  unique := by decide

theorem colored_text_passes_and_wordy_settings_fail :
    Definition.read coloredText = .ok { name := "a", commands := [{ name := "b" }] } ∧
      ∃ error, UserSettings.load wordyFiles ⟨"settings.yaml"⟩ = .error (.malformed error) := by
  obtain ⟨passes, refuses⟩ := unknown_keys_pass_but_in_settings
  have isFile : wordyFiles.isFile ⟨"settings.yaml"⟩ = true := by decide +kernel
  have text : wordyFiles.readText ⟨"settings.yaml"⟩ = .ok wordyText := by
    rw [← RunEffects.to_option_eq_some_iff]
    decide +kernel
  have read : Document.readRoot wordyText.toList = (wordyDocument.root, nothingLeft ⟨25, 1, 0⟩) := rfl
  have parsed : Document.parse wordyText = .ok wordyDocument := Document.parse_of_root read rfl
  constructor
  · have same := passes _ _ _ _ plain_parsed colored_parsed rfl (.single colored_edited)
    rw [← RunEffects.to_option_eq_some_iff, ← same, plain_read]
    rfl
  · exact refuses _ _ _ _ _ _ _ _ _ _ isFile text parsed rfl List.mem_cons_self (by decide)

end CommandPlan.UnknownKeys
