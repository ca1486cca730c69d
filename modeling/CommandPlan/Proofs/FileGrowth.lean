import CommandPlan.FileSystem

/-! How the entries of a file system change. Making a directory adds one where
nothing was; writing adds a file or gives one another content. Nothing is removed
or becomes something else, so a path that leads somewhere keeps doing so. -/
namespace CommandPlan.FileGrowth
open FileSystem

/-- Two entries of one kind. Only the content of a file may differ. -/
inductive SameKind : Entry → Entry → Prop where
  | file (old new : List UInt8) : SameKind (.file old) (.file new)
  | directory : SameKind .directory .directory
  | link (target : Path) : SameKind (.link target) (.link target)

/-- Every entry that was there is still there, and the same. -/
structure Extends (before after : FileSystem) : Prop where
  workingDirectory : after.workingDirectory = before.workingDirectory
  unspelled : after.unspelled = before.unspelled
  entries : ∀ location entry, before.entry? location = some entry → after.entry? location = some entry

/-- Every entry that was there is still there and of its kind. -/
structure Grows (before after : FileSystem) : Prop where
  workingDirectory : after.workingDirectory = before.workingDirectory
  unspelled : after.unspelled = before.unspelled
  entries : ∀ location entry, before.entry? location = some entry →
    ∃ later, after.entry? location = some later ∧ SameKind entry later

/-- Every directory and every link is still there. Nothing is said about files. -/
structure KeepsFrame (before after : FileSystem) : Prop where
  workingDirectory : after.workingDirectory = before.workingDirectory
  directory : ∀ location, before.entry? location = some .directory → after.entry? location = some .directory
  link : ∀ location target, before.entry? location = some (.link target) → after.entry? location = some (.link target)

/-- Texts laid over files, the last one first: each file that was there holds the
first of them at its location, and without one its content. Nothing is said about
places where no file was. -/
structure LaidOver (texts : List (Location × List UInt8)) (before after : FileSystem) : Prop where
  grows : Grows before after
  files : ∀ location content, before.entry? location = some (.file content) →
    after.entry? location = some (.file ((texts.lookup location).getD content))

/-- What is laid over the file at a place, if a place is given. -/
def laid (place : Option Location) (content : List UInt8) : List (Location × List UInt8) :=
  place.toList.map (·, content)

/-- Every file that was there is still there with its content, but for the one at
a location that is excepted. -/
def KeepsExcept (exception : Option Location) (before after : FileSystem) : Prop :=
  ∀ location content, exception ≠ some location → before.entry? location = some (.file content) →
    after.entry? location = some (.file content)

/-- No text differs from the content of the file that it is laid over, but for the
file at a location that is excepted. -/
def Harmless (exception : Option Location) (before : FileSystem) (texts : List (Location × List UInt8)) : Prop :=
  ∀ location content text, exception ≠ some location → before.entry? location = some (.file content) →
    texts.lookup location = some text → text = content

variable {files before middle after : FileSystem} {location other : Location} {entry : Entry}
variable {old new : List UInt8} {first second : List (Location × List UInt8)}

theorem SameKind.refl (entry : Entry) : SameKind entry entry := by
  cases entry with
  | file content => exact .file content content
  | directory => exact .directory
  | link target => exact .link target

theorem SameKind.trans {third second first : Entry} (left : SameKind first second)
    (right : SameKind second third) : SameKind first third := by
  cases left with
  | file => cases right with | file => exact .file _ _
  | directory => exact right
  | link => exact right

theorem Extends.refl (files : FileSystem) : Extends files files :=
  ⟨rfl, rfl, fun _ _ held => held⟩

theorem Extends.trans (left : Extends before middle) (right : Extends middle after) : Extends before after :=
  ⟨right.workingDirectory.trans left.workingDirectory, right.unspelled.trans left.unspelled,
    fun location entry held => right.entries location entry (left.entries location entry held)⟩

theorem Extends.grows (adds : Extends before after) : Grows before after :=
  ⟨adds.workingDirectory, adds.unspelled,
    fun location entry held => ⟨entry, adds.entries location entry held, .refl entry⟩⟩

theorem Extends.laid_over (adds : Extends before after) : LaidOver [] before after :=
  ⟨adds.grows, fun location _ held => adds.entries location _ held⟩

theorem Grows.refl (files : FileSystem) : Grows files files :=
  (Extends.refl files).grows

theorem Grows.trans (left : Grows before middle) (right : Grows middle after) : Grows before after := by
  refine ⟨right.workingDirectory.trans left.workingDirectory, right.unspelled.trans left.unspelled,
    fun location entry held => ?_⟩
  obtain ⟨between, heldBetween, kind⟩ := left.entries location entry held
  obtain ⟨later, heldLater, laterKind⟩ := right.entries location between heldBetween
  exact ⟨later, heldLater, kind.trans laterKind⟩

theorem Grows.directory (grows : Grows before after) (held : before.entry? location = some .directory) :
    after.entry? location = some .directory := by
  obtain ⟨later, heldLater, kind⟩ := grows.entries location _ held
  cases kind
  exact heldLater

theorem Grows.link {target : Path} (grows : Grows before after)
    (held : before.entry? location = some (.link target)) :
    after.entry? location = some (.link target) := by
  obtain ⟨later, heldLater, kind⟩ := grows.entries location _ held
  cases kind
  exact heldLater

theorem Grows.file (grows : Grows before after) (held : before.entry? location = some (.file old)) :
    ∃ new, after.entry? location = some (.file new) := by
  obtain ⟨later, heldLater, kind⟩ := grows.entries location _ held
  cases kind with
  | file _ new => exact ⟨new, heldLater⟩

theorem Grows.frame (grows : Grows before after) : KeepsFrame before after :=
  ⟨grows.workingDirectory, fun _ => grows.directory, fun _ _ => grows.link⟩

theorem KeepsFrame.trans (left : KeepsFrame before middle) (right : KeepsFrame middle after) : KeepsFrame before after :=
  ⟨right.workingDirectory.trans left.workingDirectory,
    fun location held => right.directory location (left.directory location held),
    fun location target held => right.link location target (left.link location target held)⟩

theorem LaidOver.refl (files : FileSystem) : LaidOver [] files files :=
  (Extends.refl files).laid_over

theorem laid_none : laid none new = [] :=
  rfl

theorem laid_some : laid (some location) new = [(location, new)] :=
  rfl

theorem text_of_laid {place : Option Location} {text : Location × List UInt8} (member : text ∈ laid place new) :
    text.2 = new := by
  obtain ⟨location, -, rfl⟩ := List.mem_map.mp member
  rfl

/-- What is laid over later hides what was laid over before. -/
theorem LaidOver.trans (left : LaidOver first before middle) (right : LaidOver second middle after) :
    LaidOver (second ++ first) before after := by
  refine ⟨left.grows.trans right.grows, fun location content held => ?_⟩
  rw [right.files location _ (left.files location content held), List.lookup_append]
  cases second.lookup location <;> rfl

theorem LaidOver.of_extended (adds : Extends before middle) (right : LaidOver second middle after) :
    LaidOver second before after := by
  have both := adds.laid_over.trans right
  rwa [List.append_nil] at both

theorem lookup_at {α : Type} {held : α} {rest : List (Location × α)} :
    List.lookup other ((location, held) :: rest) =
      if other = location then some held else rest.lookup other := by
  by_cases same : other = location
  · simp [same]
  · rw [List.lookup_cons, beq_eq_false_iff_ne.mpr same, if_neg same]

/-- A file keeps its content under other texts if and only if none is laid over it. -/
theorem kept_under_others_iff {texts : List (Location × List UInt8)} (others : ∀ text ∈ texts, text.2 ≠ old) :
    (texts.lookup location).getD old = old ↔ (texts.any fun text => some location == some text.1) = false := by
  induction texts with
  | nil => simp
  | cons text texts ih =>
    obtain ⟨first, later⟩ := List.forall_mem_cons.mp others
    obtain ⟨place, octets⟩ := text
    rw [lookup_at, List.any_cons]
    by_cases here : location = place
    · simpa [here] using first
    · simpa [here] using ih later

/-- Files keep their contents if and only if what is laid over them says the same.
One file is left out of account, and so is the text that is laid over it. -/
theorem keeps_iff_harmless {texts : List (Location × List UInt8)} {exception : Option Location}
    (covers : LaidOver (texts ++ laid exception new) before after) :
    KeepsExcept exception before after ↔ Harmless exception before texts := by
  have elsewhere : ∀ location, exception ≠ some location →
      (texts ++ laid exception new).lookup location = texts.lookup location := by
    intro location other
    rw [List.lookup_append]
    cases exception with
    | none => simp [laid_none]
    | some place =>
      have apart : location ≠ place := fun same => other (congrArg some same.symm)
      simp [laid, lookup_at, apart]
  constructor
  · intro keeps location content text other held found
    have kept := keeps location content other held
    rw [covers.files location content held, elsewhere location other, found] at kept
    simpa using kept
  · intro harmless location content other held
    rw [covers.files location content held, elsewhere location other]
    cases found : texts.lookup location with
    | none => rfl
    | some text => rw [harmless location content text other held found]; rfl

/-! ## Putting an entry -/

theorem lookup_put_entry {entries : List (Location × Entry)} :
    (putEntry location entry entries).lookup other =
      if other = location then some entry else entries.lookup other := by
  induction entries with
  | nil => exact lookup_at
  | cons head rest ih =>
    obtain ⟨place, held⟩ := head
    by_cases here : place = location
    · subst here
      rw [putEntry, if_pos rfl, lookup_at, lookup_at]
      split <;> rfl
    · rw [putEntry, if_neg here, lookup_at, lookup_at, ih]
      by_cases same : other = place
      · simp [same, here]
      · simp [same]

theorem entry_top (files : FileSystem) : files.entry? [] = some .directory :=
  if_pos rfl

/-- Below the top, an entry is one of those that are listed. -/
theorem entry_below (files : FileSystem) (location : Location) (name : String) :
    files.entry? (location ++ [name]) = files.entries.lookup (location ++ [name]) :=
  if_neg (by simp)

theorem entry_put : FileSystem.entry? (files.put location entry) other =
    if other = [] then some .directory else if other = location then some entry else files.entry? other := by
  unfold entry?
  by_cases top : other = []
  · simp [top]
  · simp [top, put, lookup_put_entry]

theorem put_entry_same {entries : List (Location × Entry)} (held : entries.lookup location = some entry) :
    putEntry location entry entries = entries := by
  induction entries with
  | nil => cases held
  | cons head rest ih =>
    obtain ⟨place, old⟩ := head
    rw [lookup_at] at held
    by_cases here : location = place
    · rw [if_pos here] at held
      cases held
      rw [putEntry, if_pos here.symm, here]
    · rw [if_neg here] at held
      rw [putEntry, if_neg (Ne.symm here), ih held]

/-- To put an entry where it is changes nothing. -/
theorem put_same (below : location ≠ []) (held : files.entry? location = some entry) :
    files.put location entry = files := by
  have listed : files.entries.lookup location = some entry := (if_neg below).symm.trans held
  simp only [put, put_entry_same listed]

/-- An entry that is put where nothing was is there. -/
theorem entry_put_here (free : files.entry? location = none) (fresh : Entry) :
    FileSystem.entry? (files.put location fresh) location = some fresh := by
  have below : location ≠ [] := by
    rintro rfl
    rw [entry_top] at free
    cases free
  rw [entry_put, if_neg below, if_pos rfl]

/-- Putting an entry where nothing was leaves all others as they are. -/
theorem entry_put_free (free : files.entry? location = none) (held : files.entry? other = some entry)
    (fresh : Entry) : FileSystem.entry? (files.put location fresh) other = some entry := by
  rw [entry_put]
  by_cases top : other = []
  · rw [if_pos top, ← held, top, entry_top]
  · have different : other ≠ location := by
      rintro rfl
      rw [free] at held
      cases held
    rw [if_neg top, if_neg different, held]

theorem extends_put_free (free : files.entry? location = none) (fresh : Entry) :
    Extends files (files.put location fresh) :=
  ⟨rfl, rfl, fun _ _ held => entry_put_free free held fresh⟩

theorem not_top_of_file (held : files.entry? location = some (.file old)) : location ≠ [] := by
  rintro rfl
  rw [entry_top] at held
  cases held

theorem grows_put_file (held : files.entry? location = some (.file old)) :
    Grows files (files.put location (.file new)) := by
  refine ⟨rfl, rfl, fun other entry heldOther => ?_⟩
  rw [entry_put]
  by_cases top : other = []
  · rw [top, entry_top] at heldOther
    cases heldOther
    exact ⟨.directory, if_pos top, .directory⟩
  rw [if_neg top]
  by_cases same : other = location
  · subst same
    rw [held] at heldOther
    cases heldOther
    exact ⟨.file new, if_pos rfl, .file old new⟩
  · exact ⟨entry, by rw [if_neg same, heldOther], .refl entry⟩

/-- No directory and no link comes with a file. -/
theorem frame_of_put_file : KeepsFrame (files.put location (.file new)) files where
  workingDirectory := rfl
  directory other held := by
    rw [entry_put] at held
    split at held
    · rename_i top
      rw [top, entry_top]
    split at held
    · cases held
    · exact held
  link other target held := by
    rw [entry_put] at held
    split at held
    · cases held
    split at held
    · cases held
    · exact held

theorem laid_over_put (held : files.entry? location = some (.file old)) :
    LaidOver [(location, new)] files (files.put location (.file new)) := by
  refine ⟨grows_put_file held, fun other content heldOther => ?_⟩
  rw [entry_put, if_neg (not_top_of_file heldOther), lookup_at]
  by_cases same : other = location
  · simp [same]
  · simp [same, heldOther]

end CommandPlan.FileGrowth
