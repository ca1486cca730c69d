import CommandPlan.Proofs.ForwardPaths
import CommandPlan.Proofs.SampleProject
import CommandPlan.Proofs.StubCompletion

/-! A project that is started stands: its configuration is the sample, all its
fragments are there, and starting it by force again changes nothing. That fails in one
case only. A stub may be written over the configuration, where that was not to be seen
at the path of the stub before the source directory was made. -/
namespace CommandPlan.ProjectStart
open FileSystem FileGrowth PathTarget FileChanges RunEffects ScaffoldEffects SampleProject
open StubCompletion ValidationReport DirectoryTree ForwardPaths

variable {settings : Settings} {files written : FileSystem} {workspace after : Workspace} {force : Bool}
variable {root command : Command} {fullName : Option String}

/-! ## The records of a start -/

def startNote : Record :=
  .info "Running init command..."

def wroteNote (settings : Settings) : Record :=
  .info ("Wrote sample configuration to " ++ settings.configuration.text)

def createdNote (count : Nat) : Record :=
  .info ("Created " ++ toString count ++ " fragment stub(s).")

/-- The configuration that was just written is loaded for sure, and gives the sample. -/
theorem outcome_write_project (settings : Settings) (workspace : Workspace) :
    outcome (writeProject settings) workspace =
      match workspace.files.write settings.configuration sampleOctets with
      | .error error => (.error (.files error), workspace)
      | .ok written =>
        match outcome (writeStubs settings.sourceDirectory sampleTree.leaves)
            { workspace with files := written, log := workspace.log ++ [wroteNote settings] } with
        | (.ok created, between) =>
          (.ok (), { between with log := between.log ++ [createdNote created.length] })
        | (.error error, between) => (.error error, between) := by
  rw [writeProject, outcome_bind, outcome_write_text, write_text_sample]
  cases wrote : workspace.files.write settings.configuration sampleOctets with
  | error error => rfl
  | ok written =>
    have loaded := load_sample (read_written wrote)
    dsimp only
    rw [outcome_then (outcome_record _), completeProject, outcome_then outcome_files,
      outcome_then ((outcome_of_except _).trans (by rw [loaded])), outcome_bind, ← wroteNote]
    dsimp only
    generalize outcome (writeStubs settings.sourceDirectory sampleTree.leaves) _ = ended
    obtain ⟨result, between⟩ := ended
    cases result <;> rfl

/-- What happens in a start that ends well. -/
theorem scaffold_ok (done : outcome (scaffold settings force) workspace = (.ok (), after)) :
    ∃ made written created between,
      workspace.files.makeDirectories (directoryOf settings.configuration) = (made, .ok ()) ∧
      made.write settings.configuration sampleOctets = .ok written ∧
      outcome (writeStubs settings.sourceDirectory sampleTree.leaves) { workspace with
        files := written, log := workspace.log ++ [startNote] ++ [wroteNote settings] } = (.ok created, between) ∧
      after = { between with log := between.log ++ [createdNote created.length] } := by
  rw [outcome_scaffold] at done
  split at done
  · cases done
  split at done
  · rename_i made making
    rw [outcome_write_project] at done
    split at done
    · cases done
    · rename_i written wrote
      split at done
      · rename_i created between stubs
        cases done
        exact ⟨made, written, created, between, making, wrote, stubs, rfl⟩
      · cases done
  · cases done

/-! ## The configuration -/

/-- A stub is to be written over the configuration that is written just before. -/
def isBuried (settings : Settings) (files : FileSystem) : Bool :=
  match files.makeDirectories (directoryOf settings.configuration) with
  | (made, .ok ()) =>
    match made.write settings.configuration sampleOctets with
    | .ok written => (stubTexts settings.sourceDirectory sampleTree.leaves written).any fun text =>
        fileAt? written settings.configuration == some text.1
    | .error _ => false
  | (_, .error _) => false

/-- What is written over a file for a stub is the text of one. -/
theorem stub_texts_are_stubs {directory : Path} {leaves : List Command} :
    ∀ text ∈ stubTexts directory leaves files, ∃ path leaf, text.2 = stubOctets path leaf := by
  intro text member
  unfold stubTexts at member
  split at member
  · rename_i leaf missing
    exact ⟨fragmentPath directory leaf, leaf, text_of_laid member⟩
  · cases member

/-- In a start that ends well the configuration stays the sample unless it is buried. -/
theorem read_configuration_iff (done : outcome (scaffold settings force) workspace = (.ok (), after)) :
    after.files.read settings.configuration = .ok sampleOctets ↔ isBuried settings workspace.files = false := by
  obtain ⟨made, written, created, between, making, wrote, stubs, rfl⟩ := scaffold_ok done
  obtain ⟨location, -, located⟩ := located_written wrote
  have held := file_at_iff.mpr ⟨sampleOctets, located⟩
  have lays := write_stubs_lay settings.sourceDirectory sampleTree.leaves { workspace with
    files := written, log := workspace.log ++ [startNote] ++ [wroteNote settings] }
  rw [stubs] at lays
  have kept := lays.files location sampleOctets (locate_entry_held located nofun)
  obtain ⟨content, entry, read⟩ := read_of_file_at (file_at_grows lays.grows held)
  rw [kept] at entry
  cases entry
  have others : ∀ text ∈ stubTexts settings.sourceDirectory sampleTree.leaves written, text.2 ≠ sampleOctets := by
    intro text member
    obtain ⟨path, leaf, same⟩ := stub_texts_are_stubs text member
    rw [same]
    exact stub_is_no_sample path leaf
  unfold isBuried
  simp only [making, wrote, held]
  rw [read, Except.ok.injEq, kept_under_others_iff others]

theorem not_buried_of_clear (clear : ∀ {made written}, files.makeDirectories (directoryOf settings.configuration) =
      (made, .ok ()) → made.write settings.configuration sampleOctets = .ok written →
      stubTexts settings.sourceDirectory sampleTree.leaves written = []) : isBuried settings files = false := by
  unfold isBuried
  split
  · rename_i made making
    split
    · rename_i written wrote
      rw [clear making wrote]
      rfl
    · rfl
  · rfl

/-- A configuration is not buried if the source directory is there before, -/
theorem not_buried_settled (settled : Settled files settings.sourceDirectory) : isBuried settings files = false := by
  refine not_buried_of_clear fun {made written} making wrote => stub_texts_settled ?_ _
  have adds := (make_directories files (directoryOf settings.configuration)).adds
  rw [making] at adds
  exact settled.grows (adds.grows.trans (write_ok wrote).grows)

/-- if it lies in the source directory itself, -/
theorem not_buried_beside (beside : directoryOf settings.configuration = settings.sourceDirectory) :
    isBuried settings files = false := by
  refine not_buried_of_clear fun {made written} making wrote => stub_texts_settled ?_ _
  have settled := (make_directories files (directoryOf settings.configuration)).done (by rw [making])
  rw [making, beside] at settled
  exact settled.grows (write_ok wrote).grows

/-- or if the path of the source directory has no step to a parent. -/
theorem not_buried_forward (rooted : Rooted files) (forward : Forward settings.sourceDirectory) :
    isBuried settings files = false := by
  refine not_buried_of_clear fun {made written} making wrote => stub_texts_forward ?_ forward _
  have rootedMade := rooted.make_directories (directoryOf settings.configuration)
  rw [making] at rootedMade
  exact rootedMade.write wrote

/-! ## The tasks after the start -/

/-- What is there of a project that stands: the sample is checked without a warning of
the rules and inspected, and starting it by force once more changes no file. -/
structure Stands (settings : Settings) (workspace : Workspace) : Prop where
  checked : outcome (validate settings) workspace =
    (.ok (), { workspace with log := workspace.log ++ report settings workspace.files sampleTree })
  unwarned : lintWarnings settings sampleTree = []
  inspected : ∀ fullName command fragments, sampleTree.select fullName = .ok command →
    outcome (inspect settings fullName fragments) workspace =
      let view := command.view (fragmentLoader workspace.files settings.sourceDirectory fragments)
      (.ok (), { workspace with
        log := workspace.log ++ [.info "Running inspect command..."] ++ view.log
        output := workspace.output ++ view.value.text })
  again : outcome (scaffold settings true) workspace =
    (.ok (), { workspace with log := workspace.log ++ [startNote, wroteNote settings, createdNote 0] })

/-- Over itself a project is started without a change. -/
theorem scaffold_again (parent : Settled workspace.files (directoryOf settings.configuration))
    (sample : workspace.files.write settings.configuration sampleOctets = .ok workspace.files)
    (complete : ∀ leaf ∈ sampleTree.leaves,
      workspace.files.pathExists (fragmentPath settings.sourceDirectory leaf) = true) :
    outcome (scaffold settings true) workspace =
      (.ok (), { workspace with log := workspace.log ++ [startNote, wroteNote settings, createdNote 0] }) := by
  have idle : outcome (writeStubs settings.sourceDirectory sampleTree.leaves) { workspace with
      log := workspace.log ++ [startNote] ++ [wroteNote settings] } = (.ok [], { workspace with
      log := workspace.log ++ [startNote] ++ [wroteNote settings] }) := write_stubs_idle complete
  rw [outcome_scaffold, parent.make_directories, ← startNote]
  simp only [Bool.not_true, Bool.false_and, Bool.false_eq_true, if_false, outcome_write_project, sample, idle]
  simp

/-- When a project is started well, a fragment of every leaf is there. The configuration
holds the sample and the project stands, unless a stub is written over it. -/
theorem project_stands_unless_buried (settings : Settings) (force : Bool) (workspace after : Workspace)
    (done : outcome (scaffold settings force) workspace = (.ok (), after)) :
    (∀ leaf ∈ sampleTree.leaves, after.files.pathExists (fragmentPath settings.sourceDirectory leaf) = true) ∧
    (after.files.read settings.configuration = .ok sampleOctets ↔ isBuried settings workspace.files = false) ∧
    (isBuried settings workspace.files = false → Stands settings after) := by
  have kept := read_configuration_iff done
  obtain ⟨made, written, created, between, making, wrote, stubs, rfl⟩ := scaffold_ok done
  have complete := write_stubs_complete stubs
  refine ⟨complete, kept, fun clear => ?_⟩
  have read := kept.mpr clear
  have loaded := load_sample read
  have grows := write_stubs_grow settings.sourceDirectory sampleTree.leaves { workspace with
    files := written, log := workspace.log ++ [startNote] ++ [wroteNote settings] }
  rw [stubs] at grows
  have parent : Settled made (directoryOf settings.configuration) := by
    have settled := (make_directories workspace.files (directoryOf settings.configuration)).done (by rw [making])
    rw [making] at settled
    exact settled
  obtain ⟨location, -, located⟩ := located_written wrote
  have held := file_at_grows grows (file_at_iff.mpr ⟨sampleOctets, located⟩)
  exact {
    checked := validate_loaded loaded
    unwarned := by rw [lintWarnings, sample_silent, List.map_nil]
    inspected := fun fullName command fragments found => inspect_loaded fragments loaded found
    again := scaffold_again (parent.grows ((write_ok wrote).grows.trans grows)) (write_same held read) complete }

/-- A configuration in the place of the first fragment, in a directory that the path of
the fragments comes to by way of a missing one. -/
def buriedSettings : Settings := ⟨⟨"a/../b"⟩, ⟨"b/cli_download_command.sh"⟩, false⟩

def buriedFiles : FileSystem :=
  FileSystem.put {} ["b"] .directory

/-- The start ends well, and the configuration is lost. -/
theorem stub_buries_configuration : ∃ after,
    outcome (scaffold buriedSettings false) { files := buriedFiles } = (.ok (), after) ∧
    after.files.read buriedSettings.configuration ≠ .ok sampleOctets := by
  have passes : (outcome (scaffold buriedSettings false) { files := buriedFiles }).1.toOption = some () := by
    simp only [outcome_scaffold, outcome_write_project]
    decide +kernel
  have buried : isBuried buriedSettings buriedFiles = true := by decide +kernel
  have ended := outcome_of_to_option passes
  refine ⟨_, ended, fun read => ?_⟩
  have clear := (read_configuration_iff ended).mp read
  exact absurd (buried.symm.trans clear) (by decide)

/-- A configuration in the place of a fragment that the path comes to directly. -/
def sharedSettings : Settings := ⟨⟨"src"⟩, ⟨"src/cli_upload_command.sh"⟩, false⟩

def sharedFiles : FileSystem :=
  FileSystem.put {} ["src"] .directory

theorem shared_project_stands : ∃ after,
    outcome (scaffold sharedSettings false) { files := sharedFiles } = (.ok (), after) ∧
    (∀ leaf ∈ sampleTree.leaves, after.files.pathExists (fragmentPath sharedSettings.sourceDirectory leaf) = true) ∧
    after.files.read sharedSettings.configuration = .ok sampleOctets ∧ Stands sharedSettings after := by
  have passes : (outcome (scaffold sharedSettings false) { files := sharedFiles }).1.toOption = some () := by
    simp only [outcome_scaffold, outcome_write_project]
    decide +kernel
  have clear : isBuried sharedSettings sharedFiles = false := not_buried_beside (by decide +kernel)
  have ended := outcome_of_to_option passes
  obtain ⟨complete, kept, stands⟩ := project_stands_unless_buried sharedSettings false _ _ ended
  exact ⟨_, ended, complete, kept.mpr clear, stands clear⟩

end CommandPlan.ProjectStart
