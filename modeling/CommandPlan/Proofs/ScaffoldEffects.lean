import CommandPlan.Proofs.FileChanges
import CommandPlan.Proofs.RunEffects

/-! Which files a new project is written over. Whether a path leads anywhere is
asked before the directories for it are made, and a directory in front of a step
to its parent brings a file within reach that was not there for the question. Only
the configuration and one stub can be hit so: when a stub is there, so is the
directory of all of them. -/
namespace CommandPlan.ScaffoldEffects
open FileSystem FileGrowth PathTarget FileChanges RunEffects

variable {files : FileSystem} {directory path : Path} {workspace : Workspace}

/-- Where the file is whose content a write to the path replaces, once a directory
is made. -/
def fileBehind? (files : FileSystem) (directory path : Path) : Option Location :=
  match files.makeDirectories directory with
  | (made, .ok ()) => fileAt? made path
  | (_, .error _) => none

/-- Where that file is, if there is nothing at the path before. -/
def uncovered? (files : FileSystem) (directory path : Path) : Option Location :=
  if files.pathExists path then none else fileBehind? files directory path

/-- Where a directory need not be made, no file is uncovered. -/
theorem nothing_uncovered (settled : Settled files directory) : uncovered? files directory path = none := by
  unfold uncovered? fileBehind?
  rw [settled.make_directories]
  split
  · rfl
  · rename_i missing
    cases held : fileAt? files path with
    | none => exact held
    | some location => exact absurd (path_exists_of_file_at held) missing

/-! ## Stubs -/

def stubOctets (path : Path) (leaf : Command) : List UInt8 :=
  Utf8.encode (stubText path leaf.fullName).toList

def fragmentPath (sourceDirectory : Path) (leaf : Command) : Path :=
  sourceDirectory.join ⟨leaf.fragmentFile⟩

/-- What the stubs of some leaves are written over: a file uncovered for the first
of them whose fragment is missing. -/
def stubTexts (sourceDirectory : Path) (leaves : List Command) (files : FileSystem) :
    List (Location × List UInt8) :=
  match leaves.find? fun leaf => !files.pathExists (fragmentPath sourceDirectory leaf) with
  | some leaf =>
    let path := fragmentPath sourceDirectory leaf
    laid (uncovered? files sourceDirectory path) (stubOctets path leaf)
  | none => []

/-- Where the source directory need not be made, stubs are written over nothing. -/
theorem stub_texts_settled (settled : Settled files directory) (leaves : List Command) :
    stubTexts directory leaves files = [] := by
  unfold stubTexts
  split
  · dsimp only
    rw [nothing_uncovered settled, laid_none]
  · rfl

/-- An empty path is passed over, but to make its directories would do nothing. -/
theorem outcome_make_unless_empty {α : Type} (directory : Path) (next : Unit → Run α) :
    outcome (if !directory.text.isEmpty then Run.makeDirectories directory >>= next else next ()) workspace =
      match workspace.files.makeDirectories directory with
      | (made, .ok ()) => outcome (next ()) { workspace with files := made }
      | (made, .error error) => (.error (.files error), { workspace with files := made }) := by
  cases empty : directory.text.isEmpty with
  | true =>
    have settled : Settled workspace.files directory := .inl empty
    rw [settled.make_directories]
    rfl
  | false =>
    simp only [Bool.not_false, if_true, outcome_bind, outcome_make_directories]
    obtain ⟨made, result⟩ := workspace.files.makeDirectories directory
    cases result <;> rfl

theorem outcome_write_stub (sourceDirectory path : Path) (leaf : Command) :
    outcome (writeStub sourceDirectory path leaf) workspace =
      match workspace.files.makeDirectories sourceDirectory with
      | (made, .ok ()) =>
        match made.write path (stubOctets path leaf) with
        | .ok written =>
          (.ok (), { workspace with
            files := written
            log := workspace.log ++ [.info ("Created fragment stub " ++ path.text)] })
        | .error error =>
          (.error (.files error), { workspace with
            files := made
            log := workspace.log ++
              [.warn ("Could not create fragment stub " ++ path.text ++ ": " ++ error.message)] })
      | (made, .error error) => (.error (.files error), { workspace with files := made }) := by
  unfold writeStub
  rw [outcome_make_unless_empty]
  obtain ⟨made, result⟩ := workspace.files.makeDirectories sourceDirectory
  cases result with
  | error error => rfl
  | ok =>
    simp only [outcome_bind, outcome_files, writeText, stubOctets]
    cases made.write path (Utf8.encode (stubText path leaf.fullName).toList) <;> rfl

theorem write_stub_lays (sourceDirectory path : Path) (leaf : Command) (workspace : Workspace) :
    LaidOver (laid (fileBehind? workspace.files sourceDirectory path) (stubOctets path leaf)) workspace.files
        (outcome (writeStub sourceDirectory path leaf) workspace).2.files ∧
      ((outcome (writeStub sourceDirectory path leaf) workspace).1 = .ok () →
        Settled (outcome (writeStub sourceDirectory path leaf) workspace).2.files sourceDirectory) := by
  have making := make_directories workspace.files sourceDirectory
  rw [outcome_write_stub, fileBehind?]
  generalize workspace.files.makeDirectories sourceDirectory = ended at making ⊢
  obtain ⟨made, result⟩ := ended
  cases result with
  | error error => exact ⟨making.adds.laid_over, fun passed => nomatch passed⟩
  | ok =>
    cases wrote : made.write path (stubOctets path leaf) with
    | error error =>
      simp only [wrote, write_error wrote]
      exact ⟨making.adds.laid_over, fun passed => nomatch passed⟩
    | ok written =>
      simp only [wrote]
      have covers := write_ok wrote
      exact ⟨.of_extended making.adds covers, fun _ => (making.done rfl).grows covers.grows⟩

theorem outcome_write_stubs (sourceDirectory : Path) (leaf : Command) (leaves : List Command) :
    outcome (writeStubs sourceDirectory (leaf :: leaves)) workspace =
      if workspace.files.pathExists (fragmentPath sourceDirectory leaf) then
        outcome (writeStubs sourceDirectory leaves) workspace
      else
        outcome (writeStub sourceDirectory (fragmentPath sourceDirectory leaf) leaf >>= fun _ =>
          (fragmentPath sourceDirectory leaf :: ·) <$> writeStubs sourceDirectory leaves) workspace := by
  rw [writeStubs, outcome_bind, outcome_files]
  exact apply_ite (outcome · workspace) _ _ _

/-- The stub of the first leaf is written, and after that nothing is written over
anything if the source directory being there is enough for it. -/
theorem write_stubs_missing {sourceDirectory : Path} {leaf : Command} {leaves : List Command}
    (missing : workspace.files.pathExists (fragmentPath sourceDirectory leaf) = false)
    (rest : ∀ between : Workspace, Settled between.files sourceDirectory →
      LaidOver [] between.files (outcome (writeStubs sourceDirectory leaves) between).2.files) :
    LaidOver (laid (uncovered? workspace.files sourceDirectory (fragmentPath sourceDirectory leaf))
        (stubOctets (fragmentPath sourceDirectory leaf) leaf))
      workspace.files (outcome (writeStubs sourceDirectory (leaf :: leaves)) workspace).2.files := by
  obtain ⟨covers, settled⟩ := write_stub_lays sourceDirectory (fragmentPath sourceDirectory leaf) leaf workspace
  rw [outcome_write_stubs, uncovered?, missing]
  rw [if_neg Bool.false_ne_true, if_neg Bool.false_ne_true, outcome_bind]
  generalize outcome (writeStub sourceDirectory (fragmentPath sourceDirectory leaf) leaf) workspace = ended
    at covers settled ⊢
  obtain ⟨result, between⟩ := ended
  cases result with
  | error error => exact covers
  | ok =>
    simp only [outcome_map]
    exact covers.trans (rest between (settled rfl))

/-- Once the source directory is there, stubs are written over nothing. -/
theorem write_stubs_settled (sourceDirectory : Path) (leaves : List Command)
    (settled : Settled workspace.files sourceDirectory) :
    LaidOver [] workspace.files (outcome (writeStubs sourceDirectory leaves) workspace).2.files := by
  induction leaves generalizing workspace with
  | nil => exact .refl workspace.files
  | cons leaf leaves ih =>
    cases there : workspace.files.pathExists (fragmentPath sourceDirectory leaf) with
    | true => rw [outcome_write_stubs, if_pos there]; exact ih settled
    | false =>
      have covers := write_stubs_missing there fun between => ih
      rwa [nothing_uncovered settled] at covers

theorem write_stubs_lay (sourceDirectory : Path) (leaves : List Command) (workspace : Workspace) :
    LaidOver (stubTexts sourceDirectory leaves workspace.files) workspace.files
      (outcome (writeStubs sourceDirectory leaves) workspace).2.files := by
  induction leaves with
  | nil => exact .refl workspace.files
  | cons leaf leaves ih =>
    rw [stubTexts, List.find?_cons]
    cases there : workspace.files.pathExists (fragmentPath sourceDirectory leaf) with
    | true => rw [outcome_write_stubs, if_pos there]; exact ih
    | false => exact write_stubs_missing there fun between => write_stubs_settled sourceDirectory leaves

/-! ## The configuration -/

/-- The directory that is made for a file; the empty path if none is. -/
def directoryOf (file : Path) : Path :=
  file.parent?.getD ⟨""⟩

def sampleOctets : List UInt8 :=
  Utf8.encode sampleConfiguration.toList

-- The sample is a long literal, of which only the first character is looked at.
set_option maxRecDepth 10000 in
theorem sample_starts : ∃ rest, sampleConfiguration = String.ofList ('n' :: rest) :=
  ⟨_, rfl⟩

theorem write_text_sample (files : FileSystem) (path : Path) :
    files.writeText path sampleConfiguration = files.write path sampleOctets :=
  rfl

/-- What the stubs of the configuration that is there are written over. -/
def completedTexts (settings : Settings) (files : FileSystem) : List (Location × List UInt8) :=
  match loadTree files settings.configuration with
  | .ok root => stubTexts settings.sourceDirectory root.leaves files
  | .error _ => []

/-- What the stubs of a project are written over once the sample configuration is
there. -/
def configuredTexts (settings : Settings) (made : FileSystem) : List (Location × List UInt8) :=
  match made.write settings.configuration sampleOctets with
  | .ok written => completedTexts settings written
  | .error _ => []

/-- What a project is written over without being seen: an uncovered fragment, and
unless it may be replaced an uncovered configuration. -/
def uncoveredTexts (settings : Settings) (force : Bool) (files : FileSystem) : List (Location × List UInt8) :=
  if !force && files.pathExists settings.configuration then []
  else
    (match files.makeDirectories (directoryOf settings.configuration) with
      | (made, .ok ()) => configuredTexts settings made
      | (_, .error _) => []) ++
    if force then []
    else laid (uncovered? files (directoryOf settings.configuration) settings.configuration) sampleOctets

/-- A stub is written over nothing if the source directory need not be made. -/
theorem completed_texts_settled {settings : Settings} (settled : Settled files settings.sourceDirectory) :
    completedTexts settings files = [] := by
  unfold completedTexts
  split
  · exact stub_texts_settled settled _
  · rfl

theorem configured_texts_settled {settings : Settings} (settled : Settled files settings.sourceDirectory) :
    configuredTexts settings files = [] := by
  unfold configuredTexts
  split
  · rename_i written wrote
    exact completed_texts_settled (settled.grows (write_ok wrote).grows)
  · rfl

/-- Where both directories are in place, no file is written over without being seen. -/
theorem uncovered_texts_settled {settings : Settings} (force : Bool)
    (source : Settled files settings.sourceDirectory)
    (parent : Settled files (directoryOf settings.configuration)) :
    uncoveredTexts settings force files = [] := by
  unfold uncoveredTexts
  rw [parent.make_directories, nothing_uncovered parent, laid_none]
  simp only [configured_texts_settled source, ite_self, List.append_nil]

/-- Where the configuration lies in the source directory itself, no file is written
over without being seen but an uncovered configuration. -/
theorem uncovered_texts_beside {settings : Settings} (force : Bool)
    (beside : directoryOf settings.configuration = settings.sourceDirectory) :
    uncoveredTexts settings force files =
      if force then [] else
        laid (uncovered? files settings.sourceDirectory settings.configuration) sampleOctets := by
  have making := make_directories files settings.sourceDirectory
  unfold uncoveredTexts
  rw [beside]
  split
  · rename_i asked
    obtain ⟨unforced, present⟩ := Bool.and_eq_true_iff.mp asked
    rw [if_neg (by simpa using unforced), uncovered?, if_pos present, laid_none]
  · split
    · rename_i made ended
      rw [ended] at making
      rw [configured_texts_settled (making.done rfl), List.nil_append]
    · rw [List.nil_append]

/-- Where the configuration is that may be replaced. -/
def replaced? (settings : Settings) (force : Bool) (files : FileSystem) : Option Location :=
  if force then fileBehind? files (directoryOf settings.configuration) settings.configuration else none

theorem outcome_make_parent {α : Type} (file : Path) (next : Unit → Run α) :
    outcome (match file.parent? with
        | some parent => if !parent.text.isEmpty then Run.makeDirectories parent >>= next else next ()
        | none => pure () >>= next) workspace =
      match workspace.files.makeDirectories (directoryOf file) with
      | (made, .ok ()) => outcome (next ()) { workspace with files := made }
      | (made, .error error) => (.error (.files error), { workspace with files := made }) := by
  unfold directoryOf
  cases file.parent? with
  | some parent => exact outcome_make_unless_empty parent next
  | none =>
    have settled : Settled workspace.files ⟨""⟩ := .inl rfl
    rw [Option.getD_none, settled.make_directories]
    rfl

theorem outcome_make_project (settings : Settings) : outcome (makeProject settings) workspace =
    match workspace.files.makeDirectories (directoryOf settings.configuration) with
    | (made, .ok ()) => outcome (writeProject settings) { workspace with files := made }
    | (made, .error error) => (.error (.files error), { workspace with files := made }) :=
  outcome_make_parent settings.configuration fun _ => writeProject settings

/-- What a start comes to by the answer to its question, if it asks one. -/
theorem outcome_scaffold_answered (settings : Settings) (force : Bool) (answer? : Option Bool) :
    outcome (scaffold settings force answer?) workspace =
      let noted := { workspace with log := workspace.log ++ [.info "Running init command..."] }
      if asksToOverwrite workspace.files settings.configuration force then
        match answer? with
        | none => (.error .noTerminal, noted)
        | some true => outcome (makeProject settings) noted
        | some false => outcome (keepProject settings) noted
      else outcome (makeProject settings) noted := by
  unfold scaffold
  rw [outcome_then (outcome_record _), outcome_then outcome_files]
  dsimp only
  split
  · match answer? with
    | none => rfl
    | some true => rfl
    | some false => rfl
  · rfl

/-- Where nobody is asked the answer makes no difference. -/
theorem scaffold_unasked (workspace : Workspace) {settings : Settings} {force : Bool} (answer? : Option Bool)
    (unasked : asksToOverwrite workspace.files settings.configuration force = false) :
    outcome (scaffold settings force answer?) workspace = outcome (scaffold settings force) workspace := by
  simp only [outcome_scaffold_answered, unasked, Bool.false_eq_true, if_false]

/-- To agree is to force. -/
theorem scaffold_agreed (settings : Settings) (force : Bool) :
    outcome (scaffold settings force (some true)) workspace = outcome (scaffold settings true) workspace := by
  have unasked : asksToOverwrite workspace.files settings.configuration true = false := rfl
  rw [outcome_scaffold_answered, outcome_scaffold_answered]
  dsimp only
  rw [if_neg (Bool.eq_false_iff.mp unasked)]
  exact ite_self _

theorem outcome_scaffold (settings : Settings) (force : Bool) :
    outcome (scaffold settings force) workspace =
      if !force && workspace.files.pathExists settings.configuration then
        (.error .noTerminal, { workspace with log := workspace.log ++ [.info "Running init command..."] })
      else
        match workspace.files.makeDirectories (directoryOf settings.configuration) with
        | (made, .ok ()) => outcome (writeProject settings) { workspace with
            files := made, log := workspace.log ++ [.info "Running init command..."] }
        | (made, .error error) => (.error (.files error), { workspace with
            files := made, log := workspace.log ++ [.info "Running init command..."] }) := by
  rw [outcome_scaffold_answered]
  dsimp only
  rw [outcome_make_project]
  rfl

theorem complete_project_lays (settings : Settings) (workspace : Workspace) :
    LaidOver (completedTexts settings workspace.files) workspace.files
      (outcome (completeProject settings) workspace).2.files := by
  rw [completeProject, completedTexts]
  simp only [outcome_bind, outcome_files, outcome_of_except]
  cases loadTree workspace.files settings.configuration with
  | error error => exact .refl workspace.files
  | ok root =>
    have stubs := write_stubs_lay settings.sourceDirectory root.leaves workspace
    dsimp only
    generalize outcome (writeStubs settings.sourceDirectory root.leaves) workspace = ended at stubs ⊢
    obtain ⟨result, after⟩ := ended
    cases result <;> exact stubs

theorem write_project_lays (settings : Settings) (workspace : Workspace) :
    LaidOver (configuredTexts settings workspace.files ++
        laid (fileAt? workspace.files settings.configuration) sampleOctets)
      workspace.files (outcome (writeProject settings) workspace).2.files := by
  rw [writeProject, outcome_bind, outcome_write_text, configuredTexts, write_text_sample]
  cases wrote : workspace.files.write settings.configuration sampleOctets with
  | error error =>
    rw [write_error wrote]
    exact .refl workspace.files
  | ok written =>
    dsimp only
    rw [outcome_then (outcome_record _)]
    exact (write_ok wrote).trans (complete_project_lays settings { workspace with
      files := written
      log := workspace.log ++ [.info ("Wrote sample configuration to " ++ settings.configuration.text)] })

/-- A start that the user refuses writes over nothing but what the stubs of the existing
configuration are written over. -/
theorem scaffold_refused_lays {settings : Settings} {force : Bool} {workspace : Workspace}
    (asked : asksToOverwrite workspace.files settings.configuration force = true) :
    LaidOver (completedTexts settings workspace.files) workspace.files
      (outcome (scaffold settings force (some false)) workspace).2.files := by
  rw [outcome_scaffold_answered]
  dsimp only
  rw [if_pos asked, keepProject, outcome_then (outcome_record _)]
  exact complete_project_lays settings { workspace with
    log := workspace.log ++ [.info "Running init command..."] ++
      [.info ("Keeping existing configuration " ++ settings.configuration.text)] }

/-- Uncovered or replaced, it is the file behind the path that is written over. -/
theorem configuration_texts {settings : Settings} {force : Bool}
    (unasked : (!force && files.pathExists settings.configuration) = false) :
    (if force then []
      else laid (uncovered? files (directoryOf settings.configuration) settings.configuration) sampleOctets) ++
        laid (replaced? settings force files) sampleOctets =
      laid (fileBehind? files (directoryOf settings.configuration) settings.configuration) sampleOctets := by
  cases force with
  | true => rfl
  | false =>
    have missing : files.pathExists settings.configuration = false := unasked
    rw [uncovered?, missing]
    exact List.append_nil _

/-- Whether a project is started or not, only what is told by the texts happens to
the files that were there. -/
theorem scaffold_lays (settings : Settings) (force : Bool) (workspace : Workspace) :
    LaidOver (uncoveredTexts settings force workspace.files ++
        laid (replaced? settings force workspace.files) sampleOctets)
      workspace.files (outcome (scaffold settings force) workspace).2.files := by
  rw [outcome_scaffold, uncoveredTexts]
  cases asked : !force && workspace.files.pathExists settings.configuration with
  | true =>
    have unforced : force = false := by simpa using (Bool.and_eq_true_iff.mp asked).1
    rw [unforced, replaced?, if_pos rfl, if_neg Bool.false_ne_true, laid_none]
    exact .refl workspace.files
  | false =>
    rw [if_neg Bool.false_ne_true, if_neg Bool.false_ne_true, List.append_assoc, configuration_texts asked]
    have making := make_directories workspace.files (directoryOf settings.configuration)
    rw [fileBehind?]
    generalize workspace.files.makeDirectories (directoryOf settings.configuration) = ended at making ⊢
    obtain ⟨made, result⟩ := ended
    cases result with
    | error error => exact making.adds.laid_over
    | ok =>
      have project := write_project_lays settings { workspace with
        files := made
        log := workspace.log ++ [.info "Running init command..."] }
      exact .of_extended making.adds project

/-! ## Nothing but making and writing -/

theorem write_stub_within {allowed : FileSystem → FileSystem → Prop} (respected : Respected allowed)
    (sourceDirectory path : Path) (leaf : Command) : Within allowed (writeStub sourceDirectory path leaf) := by
  intro workspace
  have made := respected.make workspace.files sourceDirectory
  rw [outcome_write_stub]
  generalize workspace.files.makeDirectories sourceDirectory = ended at made ⊢
  obtain ⟨between, result⟩ := ended
  cases result with
  | error error => exact made
  | ok =>
    cases wrote : between.write path (stubOctets path leaf) with
    | error error => simpa only [wrote] using made
    | ok written => simpa only [wrote] using respected.trans made (respected.write wrote)

/-- The stubs are written within what is allowed if each of them is. -/
theorem write_stubs_within_each {allowed : FileSystem → FileSystem → Prop} (steady : Steady allowed)
    {sourceDirectory : Path} {leaves : List Command}
    (each : ∀ leaf ∈ leaves, Within allowed (writeStub sourceDirectory (fragmentPath sourceDirectory leaf) leaf)) :
    Within allowed (writeStubs sourceDirectory leaves) := by
  induction leaves with
  | nil => exact steady.pure []
  | cons leaf leaves ih =>
    obtain ⟨first, later⟩ := List.forall_mem_cons.mp each
    intro workspace
    rw [outcome_write_stubs]
    split
    · exact ih later workspace
    · refine steady.bind first (fun _ => ?_) workspace
      rw [map_eq_pure_bind]
      exact steady.bind (ih later) fun _ => steady.pure _

theorem write_stubs_within {allowed : FileSystem → FileSystem → Prop} (respected : Respected allowed)
    (sourceDirectory : Path) (leaves : List Command) : Within allowed (writeStubs sourceDirectory leaves) :=
  write_stubs_within_each respected.toSteady fun leaf _ => write_stub_within respected sourceDirectory _ leaf

/-- All that starting a project does to the files is to make directories and to
write files. -/
theorem scaffold_within {allowed : FileSystem → FileSystem → Prop} (respected : Respected allowed)
    (settings : Settings) (force : Bool) (answer? : Option Bool) : Within allowed (scaffold settings force answer?) := by
  have complete : Within allowed (completeProject settings) := by
    refine respected.bind respected.files fun files => respected.bind (respected.of_except _) fun root => ?_
    exact respected.bind (write_stubs_within respected _ _) fun created => respected.record _
  have project : Within allowed (writeProject settings) := by
    refine respected.bind (respected.write_text _ _) fun _ => ?_
    exact respected.bind (respected.record _) fun _ => complete
  have kept : Within allowed (keepProject settings) := respected.bind (respected.record _) fun _ => complete
  have made : Within allowed (makeProject settings) := by
    intro workspace
    have parent := respected.make workspace.files (directoryOf settings.configuration)
    rw [outcome_make_project]
    generalize workspace.files.makeDirectories (directoryOf settings.configuration) = ended at parent ⊢
    obtain ⟨between, result⟩ := ended
    cases result with
    | error error => exact parent
    | ok => exact respected.trans parent (project { workspace with files := between })
  intro workspace
  rw [outcome_scaffold_answered]
  dsimp only
  split
  · match answer? with
    | none => exact respected.refl workspace.files
    | some true => exact made { workspace with log := workspace.log ++ [.info "Running init command..."] }
    | some false => exact kept { workspace with log := workspace.log ++ [.info "Running init command..."] }
  · exact made { workspace with log := workspace.log ++ [.info "Running init command..."] }

end CommandPlan.ScaffoldEffects
