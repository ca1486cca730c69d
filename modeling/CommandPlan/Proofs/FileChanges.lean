import CommandPlan.Proofs.PathTarget

/-! What the operations of a run do to the files. A write gives the file that its
path leads to another content, or adds one. Making directories only adds, and
leaves a directory at the path, so that making them again changes nothing. -/
namespace CommandPlan.FileChanges
open FileSystem FileGrowth PathTarget

variable {files after : FileSystem} {path : Path} {content : List UInt8} {error : FileError}

theorem write_cases (wrote : files.write path content = .ok after) :
    ∃ location, after = files.put location (.file content) ∧
      (files.locate .createFile path = .ok ⟨location, none, false⟩ ∨
        ∃ old, files.locate .createFile path = .ok ⟨location, some (.file old), false⟩) := by
  unfold write at wrote
  cases located : files.locate .createFile path with
  | error error => rw [located] at wrote; cases wrote
  | ok target =>
    obtain ⟨location, entry, slash⟩ := target
    simp only [located, bind, Except.bind] at wrote
    cases slash with
    | true => cases wrote
    | false =>
      cases entry with
      | none => cases wrote; exact ⟨location, rfl, .inl rfl⟩
      | some entry =>
        cases entry with
        | directory => cases wrote
        | link => cases wrote
        | file old => cases wrote; exact ⟨location, rfl, .inr ⟨old, rfl⟩⟩

theorem free_of_locate {purpose : Purpose} {location : Location} {slash : Bool}
    (located : files.locate purpose path = .ok ⟨location, none, slash⟩) : files.entry? location = none := by
  obtain top | held := (locate_iff.mp located).2.entry_held
  · cases top
  · exact held

theorem write_ok (wrote : files.write path content = .ok after) :
    LaidOver (laid (fileAt? files path) content) files after := by
  obtain ⟨location, rfl, free | ⟨old, held⟩⟩ := write_cases wrote
  · have nothing : fileAt? files path = none := by rw [fileAt?, free]
    rw [nothing]
    exact (extends_put_free (free_of_locate free) (.file content)).laid_over
  · rw [file_at_iff.mpr ⟨old, held⟩]
    obtain top | entry := (locate_iff.mp held).2.entry_held
    · cases top
    · exact laid_over_put entry

/-- A write that fails would have replaced nothing. -/
theorem write_error (refused : files.write path content = .error error) : fileAt? files path = none := by
  cases held : fileAt? files path with
  | none => rfl
  | some location =>
    obtain ⟨old, located⟩ := file_at_iff.mp held
    simp [write, located, bind, Except.bind] at refused

/-- What was written is at its path, for writing it again and for reading it. -/
theorem located_written (wrote : files.write path content = .ok after) :
    ∃ location, after = files.put location (.file content) ∧
      after.locate .createFile path = .ok ⟨location, some (.file content), false⟩ := by
  have grows := (write_ok wrote).grows
  obtain ⟨location, rfl, free | ⟨old, held⟩⟩ := write_cases wrote
  · have put := entry_put_here (free_of_locate free) (.file content)
    exact ⟨location, rfl, locate_filled grows free rfl put nofun⟩
  · have filled := not_top_of_file (locate_entry_held held nofun)
    obtain ⟨later, located, kind⟩ := locate_grows grows held rfl
    have there : FileSystem.entry? (files.put location (.file content)) location = some later :=
      locate_entry_held located (by cases kind; exact nofun)
    rw [entry_put, if_neg filled, if_pos rfl] at there
    cases there
    exact ⟨location, rfl, located⟩

theorem read_written (wrote : files.write path content = .ok after) : after.read path = .ok content := by
  obtain ⟨location, -, located⟩ := located_written wrote
  obtain ⟨old, looked⟩ := looked_of_file_at (file_at_iff.mpr ⟨content, located⟩)
  have held := locate_entry_held located nofun
  rw [locate_entry_held looked nofun] at held
  cases held
  exact read_iff.mpr ⟨location, looked⟩

theorem path_exists_written (wrote : files.write path content = .ok after) : after.pathExists path = true :=
  path_exists_iff.mpr (.inr ⟨content, read_written wrote⟩)

/-- What a file holds already is written without a change. -/
theorem write_same {location : Location} (held : fileAt? files path = some location)
    (same : files.read path = .ok content) : files.write path content = .ok files := by
  obtain ⟨old, located⟩ := file_at_iff.mp held
  obtain ⟨found, entry, read⟩ := read_of_file_at held
  rw [same] at read
  cases read
  simp [write, located, bind, Except.bind, put_same (not_top_of_file entry) entry]

/-! ## Directories -/

theorem make_directory_cases (made : files.makeDirectory path = .ok after) :
    ∃ location slash, files.locate .createDirectory path = .ok ⟨location, none, slash⟩ ∧
      after = files.put location .directory := by
  unfold makeDirectory at made
  cases located : files.locate .createDirectory path with
  | error error => rw [located] at made; cases made
  | ok target =>
    obtain ⟨location, entry, slash⟩ := target
    simp only [located, bind, Except.bind] at made
    cases entry with
    | some => cases made
    | none => cases made; exact ⟨location, slash, rfl, rfl⟩

theorem make_directory_ok (made : files.makeDirectory path = .ok after) :
    Extends files after ∧ ∃ location slash, after = files.put location .directory ∧
      files.entry? location = none ∧ after.locate .look path = .ok ⟨location, some .directory, slash⟩ := by
  obtain ⟨location, slash, located, rfl⟩ := make_directory_cases made
  have free := free_of_locate located
  have adds := extends_put_free free .directory
  have filled := entry_put_here free .directory
  obtain ⟨usable, leads⟩ := locate_iff.mp located
  have looked := locate_iff.mpr ⟨usable, leads.look_of_free rfl⟩
  exact ⟨adds, location, slash, rfl, free, locate_filled adds.grows looked rfl filled nofun⟩

theorem make_directory_again (held : files.isDirectory path = true) :
    files.makeDirectory path = .error .alreadyExists := by
  obtain ⟨location, slash, located⟩ := is_directory_iff.mp held
  obtain ⟨usable, leads⟩ := locate_iff.mp located
  obtain ⟨other, entry, leadsOther, taken⟩ := leads.taken rfl
  have locatedOther := locate_iff.mpr ⟨usable, leadsOther⟩
  simp [makeDirectory, locatedOther, taken, bind, Except.bind]

theorem unless_directory_ok (passed : files.unlessDirectory path error = .ok ()) :
    files.isDirectory path = true := by
  unfold unlessDirectory at passed
  split at passed
  · assumption
  · cases passed

/-- A directory that need not be made: the one of a path without any, or one that
is there. -/
def Settled (files : FileSystem) (directory : Path) : Prop :=
  directory.text.isEmpty = true ∨ files.isDirectory directory = true

/-- The result of making directories. What was there stays the same, and if all
went well the path is a directory, unless it is empty. -/
structure Made (before : FileSystem) (path : Path) (result : FileSystem × Except FileError Unit) : Prop where
  adds : Extends before result.1
  done : result.2 = .ok () → Settled result.1 path

theorem make_directories_within (files : FileSystem) (fuel : Nat) (path : Path) :
    Made files path (files.makeDirectoriesWithin fuel path) := by
  fun_induction files.makeDirectoriesWithin fuel path with
  | case1 fuel path empty => exact ⟨.refl files, fun _ => .inl empty⟩
  | case2 fuel path filled made first =>
    obtain ⟨adds, location, slash, -, -, looked⟩ := make_directory_ok first
    exact ⟨adds, fun _ => .inr (is_directory_iff.mpr ⟨location, slash, looked⟩)⟩
  | case3 path filled missing fuel parent above between parents made second ih =>
    rw [parents] at ih
    obtain ⟨adds, location, slash, -, -, looked⟩ := make_directory_ok second
    exact ⟨ih.adds.trans adds, fun _ => .inr (is_directory_iff.mpr ⟨location, slash, looked⟩)⟩
  | case4 path filled missing fuel parent above between parents error refused ih =>
    rw [parents] at ih
    exact ⟨ih.adds, fun passed => .inr (unless_directory_ok passed)⟩
  | case5 path filled missing fuel parent above between error parents ih =>
    rw [parents] at ih
    exact ⟨ih.adds, fun passed => nomatch passed⟩
  | case6 => exact ⟨.refl files, fun passed => nomatch passed⟩
  | case7 => exact ⟨.refl files, fun passed => .inr (unless_directory_ok passed)⟩

/-- What the making of one directory keeps is kept by the making of all of them. -/
theorem make_directories_within_keep {kept : FileSystem → Prop}
    (step : ∀ {files after path}, kept files → files.makeDirectory path = .ok after → kept after)
    (held : kept files) (fuel : Nat) (path : Path) : kept (files.makeDirectoriesWithin fuel path).1 := by
  fun_induction files.makeDirectoriesWithin fuel path with
  | case1 => exact held
  | case2 fuel path filled made first => exact step held first
  | case3 path filled missing fuel parent above between parents made second ih =>
    rw [parents] at ih
    exact step ih second
  | case4 path filled missing fuel parent above between parents error refused ih =>
    rw [parents] at ih
    exact ih
  | case5 path filled missing fuel parent above between error parents ih =>
    rw [parents] at ih
    exact ih
  | case6 => exact held
  | case7 => exact held

theorem make_directories_keep {kept : FileSystem → Prop}
    (step : ∀ {files after path}, kept files → files.makeDirectory path = .ok after → kept after)
    (held : kept files) (path : Path) : kept (files.makeDirectories path).1 :=
  make_directories_within_keep step held _ path

theorem make_directories (files : FileSystem) (path : Path) : Made files path (files.makeDirectories path) :=
  make_directories_within files _ path

theorem Settled.grows (grows : Grows files after) (settled : Settled files path) : Settled after path := by
  cases settled with
  | inl empty => exact .inl empty
  | inr held => exact .inr (is_directory_grows grows held)

theorem Settled.make_within (settled : Settled files path) (fuel : Nat) :
    files.makeDirectoriesWithin fuel path = (files, .ok ()) := by
  unfold makeDirectoriesWithin
  cases settled with
  | inl empty => rw [if_pos empty]
  | inr held =>
    rw [make_directory_again held]
    simp [unlessDirectory, held]

theorem Settled.make_directories (settled : Settled files path) :
    files.makeDirectories path = (files, .ok ()) :=
  settled.make_within _

end CommandPlan.FileChanges
