import CommandPlan.Proofs.DefinitionEquality
import CommandPlan.Proofs.ValidationReport

/-! What is there once the stubs are written. The writing goes by what is at the path
of a fragment, and the loading by what can be read there. The two differ on one kind
of entry only: a directory is there, and no fragment. -/
namespace CommandPlan.StubCompletion
open FileSystem FileGrowth PathTarget FileChanges RunEffects ScaffoldEffects FragmentLoads ValidationReport

variable {files made written : FileSystem} {directory path : Path} {leaf : Command} {leaves : List Command}
variable {workspace after : Workspace} {created : List Path}

/-! ## One stub -/

/-- A stub that is written well is there, in the source directory as it was made. -/
theorem write_stub_ok (done : outcome (writeStub directory path leaf) workspace = (.ok (), after)) :
    ∃ made, workspace.files.makeDirectories directory = (made, .ok ()) ∧
      made.write path (stubOctets path leaf) = .ok after.files := by
  rw [outcome_write_stub] at done
  split at done
  · rename_i made making
    split at done
    · rename_i written wrote
      cases done
      exact ⟨made, making, wrote⟩
    · cases done
  · cases done

/-- The stubs are written if each that is missing is, and after it the others. -/
theorem write_stubs_ok_cons (done : outcome (writeStubs directory (leaf :: leaves)) workspace = (.ok created, after)) :
    (workspace.files.pathExists (fragmentPath directory leaf) = true ∧
        outcome (writeStubs directory leaves) workspace = (.ok created, after)) ∨
      (workspace.files.pathExists (fragmentPath directory leaf) = false ∧ ∃ between later,
        outcome (writeStub directory (fragmentPath directory leaf) leaf) workspace = (.ok (), between) ∧
          outcome (writeStubs directory leaves) between = (.ok later, after) ∧
          created = fragmentPath directory leaf :: later) := by
  rw [outcome_write_stubs] at done
  split at done
  · rename_i there
    exact .inl ⟨there, done⟩
  · rename_i missing
    rw [outcome_bind] at done
    split at done
    · rename_i between first
      rw [outcome_map] at done
      obtain ⟨rest, last⟩ : (outcome (writeStubs directory leaves) between).1.map (fragmentPath directory leaf :: ·) =
          .ok created ∧ (outcome (writeStubs directory leaves) between).2 = after := by
        simpa using done
      cases ended : (outcome (writeStubs directory leaves) between).1 with
      | error error =>
        rw [ended] at rest
        cases rest
      | ok later =>
        rw [ended] at rest
        cases rest
        exact .inr ⟨by simpa using missing, between, later, first, Prod.ext ended last, rfl⟩
    · cases done

/-! ## All of them -/

theorem write_stubs_grow (directory : Path) (leaves : List Command) (workspace : Workspace) :
    Grows workspace.files (outcome (writeStubs directory leaves) workspace).2.files :=
  (write_stubs_lay directory leaves workspace).grows

/-- Once the stubs are written, something is at the path of every fragment. -/
theorem write_stubs_complete (done : outcome (writeStubs directory leaves) workspace = (.ok created, after)) :
    ∀ leaf ∈ leaves, after.files.pathExists (fragmentPath directory leaf) = true := by
  induction leaves generalizing workspace created with
  | nil => exact fun leaf member => absurd member List.not_mem_nil
  | cons first leaves ih =>
    obtain ⟨there, rest⟩ | ⟨-, between, later, wrote, rest, -⟩ := write_stubs_ok_cons done
    · have grows := write_stubs_grow directory leaves workspace
      rw [rest] at grows
      exact List.forall_mem_cons.mpr ⟨path_exists_grows grows there, ih rest⟩
    · have grows := write_stubs_grow directory leaves between
      rw [rest] at grows
      obtain ⟨made, -, written⟩ := write_stub_ok wrote
      exact List.forall_mem_cons.mpr ⟨path_exists_grows grows (path_exists_written written), ih rest⟩

/-- Where nothing is missing, nothing is done. -/
theorem write_stubs_idle (complete : ∀ leaf ∈ leaves, workspace.files.pathExists (fragmentPath directory leaf) = true) :
    outcome (writeStubs directory leaves) workspace = (.ok [], workspace) := by
  induction leaves with
  | nil => rfl
  | cons leaf leaves ih =>
    obtain ⟨there, rest⟩ := List.forall_mem_cons.mp complete
    rw [outcome_write_stubs, if_pos there]
    exact ih rest

/-! ## Directories -/

/-- No stub is a directory: what is one at the end is one once the source directory
is made. -/
theorem write_stubs_frame (done : outcome (writeStubs directory leaves) workspace = (.ok created, after)) :
    KeepsFrame after.files (workspace.files.makeDirectories directory).1 := by
  induction leaves generalizing workspace created with
  | nil =>
    cases done
    exact (make_directories after.files directory).adds.grows.frame
  | cons leaf leaves ih =>
    obtain ⟨-, rest⟩ | ⟨-, between, later, wrote, rest, -⟩ := write_stubs_ok_cons done
    · exact ih rest
    · obtain ⟨made, making, written⟩ := write_stub_ok wrote
      have settled : Settled between.files directory := by
        have settledMade := (make_directories workspace.files directory).done (by rw [making])
        rw [making] at settledMade
        exact settledMade.grows (write_ok written).grows
      have frame := ih rest
      rw [settled.make_directories] at frame
      rw [making]
      obtain ⟨location, same, -⟩ := write_cases written
      rw [same] at frame
      exact frame.trans frame_of_put_file

/-- Nothing happens to the files before the source directory is made. -/
theorem write_stubs_start (done : outcome (writeStubs directory leaves) workspace = (.ok created, after)) :
    after = workspace ∨ Grows (workspace.files.makeDirectories directory).1 after.files := by
  induction leaves generalizing created with
  | nil =>
    cases done
    exact .inl rfl
  | cons leaf leaves ih =>
    obtain ⟨-, rest⟩ | ⟨-, between, later, wrote, rest, -⟩ := write_stubs_ok_cons done
    · exact ih rest
    · obtain ⟨made, making, written⟩ := write_stub_ok wrote
      have grows := write_stubs_grow directory leaves between
      rw [rest] at grows
      rw [making]
      exact .inr ((write_ok written).grows.trans grows)

/-- What is there is a directory at the end exactly if it is one once the source
directory is made. -/
theorem directory_at_end (done : outcome (writeStubs directory leaves) workspace = (.ok created, after))
    (there : after.files.pathExists path = true) :
    after.files.isDirectory path = (workspace.files.makeDirectories directory).1.isDirectory path := by
  rw [Bool.eq_iff_iff]
  constructor
  · exact is_directory_kept (write_stubs_frame done)
  · intro held
    obtain rfl | grows := write_stubs_start done
    · obtain ⟨location, entry, looked⟩ := path_exists_iff_look.mp there
      have adds := (make_directories after.files directory).adds
      obtain ⟨later, lookedLater, kind⟩ := look_grows adds.grows looked
      obtain ⟨place, lookedHeld⟩ := is_directory_iff_look.mp held
      rw [lookedHeld] at lookedLater
      cases lookedLater
      cases kind
      exact is_directory_iff_look.mpr ⟨_, looked⟩
    · exact is_directory_grows grows held

/-! ## The fragments -/

theorem missing_iff_directory (there : files.pathExists (fragmentPath directory leaf) = true) :
    isMissing files directory leaf = files.isDirectory (fragmentPath directory leaf) := by
  obtain held | ⟨octets, read⟩ := path_exists_iff.mp there
  · rw [held]
    cases read : files.read (fragmentPath directory leaf) with
    | ok octets => exact absurd read (not_read_of_directory held)
    | error error => exact missing_of_error read
  · rw [not_missing_of_ok read, eq_comm, Bool.eq_false_iff]
    exact fun held => not_read_of_directory held read

theorem load_is_missing (files : FileSystem) (directory : Path) (leaf : Command) :
    (Fragment.load files directory leaf.fragmentFile).value.isMissing = isMissing files directory leaf := by
  obtain ⟨fragment, -, missing, loaded⟩ := load_fragment files directory leaf
  rw [loaded]
  exact missing

/-- Where a directory takes the place of a fragment once the source directory is made. -/
def isTaken (files : FileSystem) (directory : Path) (leaf : Command) : Bool :=
  (files.makeDirectories directory).1.isDirectory (fragmentPath directory leaf)

/-- When the stubs of a tree are written, the fragment of each leaf is loaded unless a
directory has taken its place. A check of a configuration with this tree then speaks
of missing fragments for just those leaves. -/
theorem stubs_load_unless_taken (settings : Settings) (root : Command) (workspace after : Workspace)
    (created : List Path)
    (done : outcome (writeStubs settings.sourceDirectory root.leaves) workspace = (.ok created, after)) :
    (∀ leaf ∈ root.leaves,
      (Fragment.load after.files settings.sourceDirectory leaf.fragmentFile).value.isMissing =
        isTaken workspace.files settings.sourceDirectory leaf) ∧
    (loadTree after.files settings.configuration = .ok root →
      ∃ records, outcome (validate settings) after = (.ok (), { after with log := after.log ++ records }) ∧
        ∀ count, missingNote count ∈ records ↔
          0 < count ∧ count = root.leaves.countP (isTaken workspace.files settings.sourceDirectory)) := by
  have complete := write_stubs_complete done
  have missing : ∀ leaf ∈ root.leaves, isMissing after.files settings.sourceDirectory leaf =
      isTaken workspace.files settings.sourceDirectory leaf := by
    intro leaf member
    rw [missing_iff_directory (complete leaf member)]
    exact directory_at_end done (complete leaf member)
  refine ⟨fun leaf member => ?_, fun loaded => ?_⟩
  · rw [load_is_missing]
    exact missing leaf member
  · refine ⟨report settings after.files root, validate_loaded loaded, fun count => ?_⟩
    have counted : missingCount settings after.files root =
        root.leaves.countP (isTaken workspace.files settings.sourceDirectory) :=
      List.countP_congr fun leaf member => Bool.eq_iff_iff.mp (missing leaf member)
    rw [missing_note_mem_iff, counted]

/-- A project of two commands, where a directory has taken the place of one fragment. -/
def takenFiles : FileSystem where
  entries := [(["src"], .directory),
    (["src", "shcraft.yml"], .file (Utf8.encode "name: a\ncommands:\n  - name: b\n  - name: c".toList)),
    (["src", "a_b_command.sh"], .directory)]
  unique := by decide

def takenSettings : Settings := ⟨⟨"src"⟩, ⟨"src/shcraft.yml"⟩, false⟩

def takenDefinition : Definition :=
  { name := "a", commands := [{ name := "b" }, { name := "c" }] }

/-- How the writing of the stubs of this project ends. -/
def takenEnd : Except RunError (List Path) × Workspace :=
  outcome (writeStubs ⟨"src"⟩ (Command.root takenDefinition).leaves) { files := takenFiles }

/-- The second stub is written and the first fragment is still missing, as a check says
that asks for stubs to be created. -/
theorem taken_fragment_stays_missing :
    takenEnd.1.toOption = some [⟨"src/a_c_command.sh"⟩] ∧
    (Command.root takenDefinition).leaves.map (fun leaf =>
      (Fragment.load takenEnd.2.files ⟨"src"⟩ leaf.fragmentFile).value.isMissing) = [true, false] ∧
    missingNote 1 ∈ (outcome (validate takenSettings) takenEnd.2).2.log := by
  decide +kernel

theorem other_stub_loads : ∃ created after,
    outcome (writeStubs ⟨"src"⟩ (Command.root takenDefinition).leaves) { files := takenFiles } = (.ok created, after) ∧
    loadTree after.files takenSettings.configuration = .ok (Command.root takenDefinition) ∧
    (∀ leaf ∈ (Command.root takenDefinition).leaves,
      (Fragment.load after.files ⟨"src"⟩ leaf.fragmentFile).value.isMissing = isTaken takenFiles ⟨"src"⟩ leaf) ∧
    ∃ records, outcome (validate takenSettings) after = (.ok (), { after with log := after.log ++ records }) ∧
      ∀ count, missingNote count ∈ records ↔
        0 < count ∧ count = (Command.root takenDefinition).leaves.countP (isTaken takenFiles ⟨"src"⟩) := by
  have wrote : takenEnd.1.toOption = some [⟨"src/a_c_command.sh"⟩] := by decide +kernel
  have text : (takenEnd.2.files.readText takenSettings.configuration).toOption =
      some "name: a\ncommands:\n  - name: b\n  - name: c" := by decide +kernel
  have read : (Definition.read "name: a\ncommands:\n  - name: b\n  - name: c").toOption = some takenDefinition := by
    decide +kernel
  have ended := outcome_of_to_option wrote
  have loaded : loadTree takenEnd.2.files takenSettings.configuration = .ok (Command.root takenDefinition) :=
    load_tree_iff.mpr ⟨_, _, to_option_eq_some_iff.mp text, to_option_eq_some_iff.mp read, rfl, rfl⟩
  obtain ⟨loads, checked⟩ := stubs_load_unless_taken takenSettings (Command.root takenDefinition) _ takenEnd.2 _ ended
  exact ⟨_, takenEnd.2, ended, loaded, loads, checked loaded⟩

end CommandPlan.StubCompletion
