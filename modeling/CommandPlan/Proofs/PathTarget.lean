import CommandPlan.Proofs.PathWalk

/-! Where a path leads, for each purpose and after changes. The purposes differ
only at a link behind which nothing follows, so what is found by one is found by
the others. Looking for a file and creating it lead to the same one, but only
while no directory is made in between. -/
namespace CommandPlan.PathTarget
open FileSystem FileGrowth PathWalk

/-- A walk leads to a target, through at most the given number of links. -/
inductive Leads (files : FileSystem) (purpose : Purpose) :
    Nat → Bool → Location → List String → Target → Prop where
  | arrived {links : Nat} {slash : Bool} {start location : Location} {steps : List String}
      {entry : Option Entry}
      (arrived : files.walk (purpose.followsLast slash) start steps = .arrived location entry) :
      Leads files purpose links slash start steps ⟨location, entry, slash⟩
  | through {links : Nat} {slash : Bool} {start directory : Location} {steps rest : List String}
      {linked : Path} {target : Target}
      (met : files.walk (purpose.followsLast slash) start steps = .link directory linked rest)
      (on : Leads files purpose links (if rest.isEmpty then slash || linked.endsWithSlash else slash)
        (if linked.isAbsolute then [] else directory) (linked.steps ++ rest) target) :
      Leads files purpose (links + 1) slash start steps target

variable {files before after : FileSystem} {purpose : Purpose} {links : Nat} {slash : Bool}
variable {start location : Location} {steps : List String} {found entry : Entry} {target : Target} {path : Path}

theorem follow_iff_leads :
    files.follow purpose links slash start steps = .ok target ↔
      Leads files purpose links slash start steps target := by
  constructor
  · intro followed
    fun_induction files.follow purpose links slash start steps with
    | case1 _ _ _ _ _ _ walked => cases followed; exact .arrived walked
    | case2 => cases followed
    | case3 => cases followed
    | case4 _ _ _ _ _ _ walked _ ih => exact .through walked (ih followed)
  · intro leads
    induction leads with
    | arrived arrived => rw [follow, arrived]
    | through met on ih => rw [follow, met]; exact ih

/-- A separator behind the last name stays behind it, whatever links are passed. -/
theorem Leads.slash_of_slash (leads : Leads files purpose links slash start steps target)
    (behind : slash = true) : target.slash = true := by
  induction leads with
  | arrived => exact behind
  | @through _ slash _ _ _ rest linked _ met on ih =>
    refine ih ?_
    split
    · rw [behind, Bool.true_or]
    · exact behind

theorem Leads.entry_held (leads : Leads files purpose links slash start steps target) :
    target.entry = some .directory ∨ files.entry? target.location = target.entry := by
  induction leads with
  | arrived arrived => exact walk_arrived_entry arrived
  | through met on ih => exact ih

/-- Without a separator at the end, the file that a path leads to for creating it
is the one that it leads to for looking. -/
theorem Leads.look_of_create_file (leads : Leads files .createFile links slash start steps target)
    (bare : target.slash = false) : Leads files .look links slash start steps target := by
  induction leads with
  | @arrived _ slash _ _ _ _ arrived =>
    have plain : slash = false := bare
    rw [plain] at arrived
    exact .arrived arrived
  | @through _ slash _ _ _ rest linked _ met on ih =>
    have plain : slash = false := by
      cases slash with
      | false => rfl
      | true => rw [on.slash_of_slash (by simp)] at bare; cases bare
    rw [plain] at met
    exact .through met (ih bare)

/-- Where a directory may be created, a look finds the place free. -/
theorem Leads.look_of_free (leads : Leads files .createDirectory links slash start steps target)
    (free : target.entry = none) : Leads files .look links slash start steps target := by
  induction leads with
  | @arrived _ slash start location steps entry arrived =>
    obtain same | ⟨directory, linked, place, _, stopped⟩ := walk_to_last files start steps
    · rw [Purpose.followsLast, same] at arrived
      exact .arrived arrived
    · rw [Purpose.followsLast, stopped] at arrived
      cases arrived
      cases free
  | @through _ slash start directory steps rest linked target met on ih =>
    obtain same | ⟨directory, linked, place, _, stopped⟩ := walk_to_last files start steps
    · rw [Purpose.followsLast, same] at met
      exact .through met (ih free)
    · rw [Purpose.followsLast, stopped] at met
      cases met

/-- Where a look finds something, no directory can be created. -/
theorem Leads.taken (leads : Leads files .look links slash start steps target)
    (held : target.entry = some found) :
    ∃ other entry, Leads files .createDirectory links slash start steps other ∧ other.entry = some entry := by
  induction leads with
  | @arrived links slash start location steps entry arrived =>
    obtain same | ⟨directory, linked, place, passed, _⟩ := walk_to_last files start steps
    · rw [Purpose.followsLast, ← same] at arrived
      exact ⟨_, found, .arrived arrived, held⟩
    · rw [Purpose.followsLast, passed] at arrived
      cases arrived
  | @through links slash start directory steps rest linked target met on ih =>
    obtain same | ⟨directory, linked, place, _, stopped⟩ := walk_to_last files start steps
    · rw [Purpose.followsLast, ← same] at met
      obtain ⟨other, entry, leads, taken⟩ := ih held
      exact ⟨other, entry, .through met leads, taken⟩
    · exact ⟨_, .link linked, .arrived stopped, rfl⟩

/-- What a path leads to, it leads to later too. -/
theorem Leads.grows (grows : Grows before after) (leads : Leads before purpose links slash start steps target)
    (held : target.entry = some found) :
    ∃ later, Leads after purpose links slash start steps ⟨target.location, some later, target.slash⟩ ∧
      SameKind found later := by
  induction leads with
  | arrived arrived =>
    cases held
    obtain ⟨later, arrivedLater, kind⟩ := walk_arrived_grows grows arrived
    exact ⟨later, .arrived arrivedLater, kind⟩
  | through met on ih =>
    obtain ⟨later, leads, kind⟩ := ih held
    exact ⟨later, .through (walk_link_grows grows met) leads, kind⟩

/-- A path that leads to a directory does so wherever directories and links are kept. -/
theorem Leads.directory_kept (frame : KeepsFrame before after)
    (leads : Leads before purpose links slash start steps target) (held : target.entry = some .directory) :
    Leads after purpose links slash start steps target := by
  induction leads with
  | arrived arrived =>
    cases held
    exact .arrived (walk_directory_kept frame arrived)
  | through met on ih => exact .through (walk_link_kept frame met) (ih held)

/-- A path that leads to a file does so wherever directories, links and that file are
kept. -/
theorem Leads.file_kept {content : List UInt8} (frame : KeepsFrame before after)
    (leads : Leads before purpose links slash start steps target) (held : target.entry = some (.file content))
    (kept : after.entry? target.location = some (.file content)) :
    Leads after purpose links slash start steps target := by
  induction leads with
  | arrived arrived =>
    cases held
    obtain ⟨place, ahead, passes, arrives⟩ := walk_arrived_iff.mp arrived
    cases arrives with
    | file looked content held =>
      exact .arrived (walk_arrived_iff.mpr ⟨_, _, passes.kept frame, .file looked content kept⟩)
  | through met on ih => exact .through (walk_link_kept frame met) (ih held kept)

/-- Where a path leads to a free place, it leads to the entry that is put there, if
that is no link. -/
theorem Leads.filled (grows : Grows before after) (leads : Leads before purpose links slash start steps target)
    (free : target.entry = none) (filled : after.entry? target.location = some found)
    (notLink : ∀ target, found ≠ .link target) :
    Leads after purpose links slash start steps ⟨target.location, some found, target.slash⟩ := by
  induction leads with
  | arrived arrived =>
    cases free
    exact .arrived (walk_filled grows arrived filled notLink)
  | through met on ih => exact .through (walk_link_grows grows met) (ih free filled)

/-- A look never stops at a link. -/
theorem Leads.look_not_link {linked : Path} (leads : Leads files .look links slash start steps target) :
    target.entry ≠ some (.link linked) := by
  induction leads with
  | arrived arrived =>
    rintro rfl
    obtain ⟨place, ahead, passes, arrives⟩ := walk_arrived_iff.mp arrived
    cases arrives with
    | link looked target held stops => cases stops
  | through met on ih => exact ih

/-! ## A path -/

/-- Nothing is ever found at a path with a null character, without a character, or
with too many of them. -/
structure Usable (path : Path) : Prop where
  text : path.text.toList.contains (Char.ofNat 0) = false
  filled : path.text.isEmpty = false
  short : ¬ pathLimit ≤ path.text.utf8ByteSize

theorem locate_iff {path : Path} : files.locate purpose path = .ok target ↔
    Usable path ∧ Leads files purpose linkLimit path.endsWithSlash
      (if path.isAbsolute then [] else files.workingDirectory) path.steps target := by
  rw [← follow_iff_leads]
  constructor
  · intro located
    rw [locate] at located
    split at located
    · cases located
    split at located
    · cases located
    split at located
    · cases located
    rename_i text filled short
    exact ⟨⟨by simpa using text, by simpa using filled, short⟩, located⟩
  · rintro ⟨usable, followed⟩
    rw [locate, if_neg (Bool.eq_false_iff.mp usable.text), if_neg (Bool.eq_false_iff.mp usable.filled),
      if_neg usable.short]
    exact followed

theorem locate_grows (grows : Grows before after) (located : before.locate purpose path = .ok target)
    (held : target.entry = some found) :
    ∃ later, after.locate purpose path = .ok ⟨target.location, some later, target.slash⟩ ∧
      SameKind found later := by
  obtain ⟨usable, leads⟩ := locate_iff.mp located
  obtain ⟨later, leadsLater, kind⟩ := leads.grows grows held
  refine ⟨later, locate_iff.mpr ⟨usable, ?_⟩, kind⟩
  rw [grows.workingDirectory]
  exact leadsLater

theorem locate_filled (grows : Grows before after) (located : before.locate purpose path = .ok target)
    (free : target.entry = none) (filled : after.entry? target.location = some found)
    (notLink : ∀ target, found ≠ .link target) :
    after.locate purpose path = .ok ⟨target.location, some found, target.slash⟩ := by
  obtain ⟨usable, leads⟩ := locate_iff.mp located
  refine locate_iff.mpr ⟨usable, ?_⟩
  rw [grows.workingDirectory]
  exact leads.filled grows free filled notLink

theorem locate_entry_held (located : files.locate purpose path = .ok ⟨location, some found, slash⟩)
    (notDirectory : found ≠ .directory) : files.entry? location = some found := by
  obtain top | held := (locate_iff.mp located).2.entry_held
  · exact absurd (Option.some.inj top) notDirectory
  · exact held

/-- Where a file is to be written, a look comes too. -/
theorem locate_look_of_create_file {held : Option Entry}
    (located : files.locate .createFile path = .ok ⟨location, held, false⟩) :
    files.locate .look path = .ok ⟨location, held, false⟩ := by
  obtain ⟨usable, leads⟩ := locate_iff.mp located
  exact locate_iff.mpr ⟨usable, leads.look_of_create_file rfl⟩

/-! ## What a look finds -/

/-- A look finds what a path leads to, but no file behind whose name a separator
follows. -/
theorem look_iff : files.look path = .ok (location, entry) ↔
    ∃ slash, files.locate .look path = .ok ⟨location, some entry, slash⟩ ∧
      ∀ content, entry = .file content → slash = false := by
  unfold look
  cases located : files.locate .look path with
  | error error => simp [bind, Except.bind]
  | ok target =>
    obtain ⟨place, held, slash⟩ := target
    cases held with
    | none => simp [bind, Except.bind]
    | some held =>
      cases held with
      | directory => simp [bind, Except.bind]; grind
      | link linked => simp [bind, Except.bind]; grind
      | file content => cases slash <;> simp [bind, Except.bind]; grind

/-- And it never finds a link. -/
theorem look_not_link {linked : Path} : files.look path ≠ .ok (location, .link linked) := by
  intro looked
  obtain ⟨slash, located, -⟩ := look_iff.mp looked
  exact (locate_iff.mp located).2.look_not_link rfl

theorem is_directory_iff_look : files.isDirectory path = true ↔ ∃ location, files.look path = .ok (location, .directory) := by
  unfold isDirectory
  cases looked : files.look path with
  | error error => simp
  | ok found =>
    obtain ⟨location, entry⟩ := found
    cases entry <;> simp

theorem read_iff_look {content : List UInt8} :
    files.read path = .ok content ↔ ∃ location, files.look path = .ok (location, .file content) := by
  unfold FileSystem.read
  cases looked : files.look path with
  | error error => simp [bind, Except.bind]
  | ok found =>
    obtain ⟨location, entry⟩ := found
    cases entry <;> simp [bind, Except.bind]

theorem path_exists_iff_look :
    files.pathExists path = true ↔ ∃ location entry, files.look path = .ok (location, entry) := by
  unfold pathExists
  cases files.look path with
  | error error => simp [Except.toOption]
  | ok found => exact ⟨fun _ => ⟨found.1, found.2, rfl⟩, fun _ => rfl⟩

theorem is_directory_iff : files.isDirectory path = true ↔
    ∃ location slash, files.locate .look path = .ok ⟨location, some .directory, slash⟩ := by
  rw [is_directory_iff_look]
  simp [look_iff]

theorem read_iff {content : List UInt8} : files.read path = .ok content ↔
    ∃ location, files.locate .look path = .ok ⟨location, some (.file content), false⟩ := by
  rw [read_iff_look]
  simp [look_iff]

/-- What is there is a directory, or a file that can be read. -/
theorem path_exists_iff : files.pathExists path = true ↔
    files.isDirectory path = true ∨ ∃ content, files.read path = .ok content := by
  rw [path_exists_iff_look]
  constructor
  · rintro ⟨location, entry, looked⟩
    cases entry with
    | directory => exact .inl (is_directory_iff_look.mpr ⟨location, looked⟩)
    | file content => exact .inr ⟨content, read_iff_look.mpr ⟨location, looked⟩⟩
    | link linked => exact absurd looked look_not_link
  · rintro (directory | ⟨content, read⟩)
    · obtain ⟨location, looked⟩ := is_directory_iff_look.mp directory
      exact ⟨location, _, looked⟩
    · obtain ⟨location, looked⟩ := read_iff_look.mp read
      exact ⟨location, _, looked⟩

/-- No directory can be read. -/
theorem not_read_of_directory {content : List UInt8} (held : files.isDirectory path = true) :
    files.read path ≠ .ok content := by
  intro read
  obtain ⟨location, looked⟩ := is_directory_iff_look.mp held
  obtain ⟨other, lookedFile⟩ := read_iff_look.mp read
  rw [looked] at lookedFile
  cases lookedFile

/-- What is there stays there. -/
theorem look_grows (grows : Grows before after) (looked : before.look path = .ok (location, entry)) :
    ∃ later, after.look path = .ok (location, later) ∧ SameKind entry later := by
  obtain ⟨slash, located, bare⟩ := look_iff.mp looked
  obtain ⟨later, locatedLater, kind⟩ := locate_grows grows located rfl
  refine ⟨later, look_iff.mpr ⟨slash, locatedLater, fun content isFile => ?_⟩, kind⟩
  cases kind with
  | file old new => exact bare old rfl
  | directory => cases isFile
  | link target => cases isFile

theorem held_of_look {content : List UInt8} (looked : files.look path = .ok (location, .file content)) :
    files.entry? location = some (.file content) := by
  obtain ⟨slash, located, -⟩ := look_iff.mp looked
  exact locate_entry_held located nofun

/-- A file is found where it was found before, as long as it is kept and what leads to it. -/
theorem look_file_kept {content : List UInt8} (frame : KeepsFrame before after)
    (looked : before.look path = .ok (location, .file content)) (kept : after.entry? location = some (.file content)) :
    after.look path = .ok (location, .file content) := by
  obtain ⟨slash, located, bare⟩ := look_iff.mp looked
  obtain ⟨usable, leads⟩ := locate_iff.mp located
  refine look_iff.mpr ⟨slash, locate_iff.mpr ⟨usable, ?_⟩, bare⟩
  rw [frame.workingDirectory]
  exact leads.file_kept frame rfl kept

theorem look_directory_kept (frame : KeepsFrame before after)
    (looked : before.look path = .ok (location, .directory)) : after.look path = .ok (location, .directory) := by
  obtain ⟨slash, located, bare⟩ := look_iff.mp looked
  obtain ⟨usable, leads⟩ := locate_iff.mp located
  refine look_iff.mpr ⟨slash, locate_iff.mpr ⟨usable, ?_⟩, bare⟩
  rw [frame.workingDirectory]
  exact leads.directory_kept frame rfl

/-- Where nothing changes, the same is found. -/
theorem look_extends (adds : Extends before after) (looked : before.look path = .ok (location, entry)) :
    after.look path = .ok (location, entry) := by
  cases entry with
  | link linked => exact absurd looked look_not_link
  | file content => exact look_file_kept adds.grows.frame looked (adds.entries location _ (held_of_look looked))
  | directory => exact look_directory_kept adds.grows.frame looked

theorem is_directory_kept (frame : KeepsFrame before after) (held : before.isDirectory path = true) :
    after.isDirectory path = true := by
  obtain ⟨location, looked⟩ := is_directory_iff_look.mp held
  exact is_directory_iff_look.mpr ⟨location, look_directory_kept frame looked⟩

theorem is_directory_grows (grows : Grows before after) (held : before.isDirectory path = true) :
    after.isDirectory path = true :=
  is_directory_kept grows.frame held

theorem path_exists_grows (grows : Grows before after) (held : before.pathExists path = true) :
    after.pathExists path = true := by
  obtain ⟨location, entry, looked⟩ := path_exists_iff_look.mp held
  obtain ⟨later, lookedLater, -⟩ := look_grows grows looked
  exact path_exists_iff_look.mpr ⟨location, later, lookedLater⟩

/-- Where the file is whose content a write to the path replaces, if there is one. -/
def fileAt? (files : FileSystem) (path : Path) : Option Location :=
  match files.locate .createFile path with
  | .ok ⟨location, some (.file _), false⟩ => some location
  | _ => none

theorem file_at_iff : fileAt? files path = some location ↔
    ∃ content, files.locate .createFile path = .ok ⟨location, some (.file content), false⟩ := by
  unfold fileAt?
  split
  · rename_i place content located
    rw [located]
    simp
  · rename_i other
    simp
    intro content located
    exact other location content located

/-- A write replaces no file that is not there for a look. -/
theorem looked_of_file_at (held : fileAt? files path = some location) :
    ∃ content, files.locate .look path = .ok ⟨location, some (.file content), false⟩ := by
  obtain ⟨content, located⟩ := file_at_iff.mp held
  exact ⟨content, locate_look_of_create_file located⟩

theorem file_at_grows (grows : Grows before after) (held : fileAt? before path = some location) :
    fileAt? after path = some location := by
  obtain ⟨content, located⟩ := file_at_iff.mp held
  obtain ⟨later, locatedLater, kind⟩ := locate_grows grows located rfl
  cases kind with
  | file old new => exact file_at_iff.mpr ⟨new, locatedLater⟩

/-- The file that a write replaces is the one that is read. -/
theorem read_of_file_at (held : fileAt? files path = some location) :
    ∃ content, files.entry? location = some (.file content) ∧ files.read path = .ok content := by
  obtain ⟨content, looked⟩ := looked_of_file_at held
  exact ⟨content, locate_entry_held looked nofun, read_iff.mpr ⟨location, looked⟩⟩

theorem path_exists_of_file_at (held : fileAt? files path = some location) : files.pathExists path = true := by
  obtain ⟨content, looked⟩ := looked_of_file_at held
  simp [pathExists, look, looked, bind, Except.bind, Except.toOption]

end CommandPlan.PathTarget
