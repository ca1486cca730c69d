import CommandPlan.Program

/-! Runs by their outcomes. A run is a chain of steps, and its outcome is that of
the steps one after the other, up to the first that fails. Checking and inspecting
take only steps that leave the files alone. -/
namespace CommandPlan.RunEffects

variable {α β : Type} {workspace : Workspace}

/-- How a run ends that starts in a workspace. -/
def outcome (run : Run α) (workspace : Workspace) : Except RunError α × Workspace :=
  run.run.run workspace

theorem outcome_bind (run : Run α) (next : α → Run β) :
    outcome (run >>= next) workspace =
      match outcome run workspace with
      | (.ok value, between) => outcome (next value) between
      | (.error error, between) => (.error error, between) := by
  change (ExceptT.bindCont next (outcome run workspace).1).run (outcome run workspace).2 = _
  obtain ⟨result, between⟩ := outcome run workspace
  cases result <;> rfl

/-- After a step that ends well the run goes on with its value. -/
theorem outcome_then {run : Run α} {next : α → Run β} {value : α} {between : Workspace}
    (ended : outcome run workspace = (.ok value, between)) :
    outcome (run >>= next) workspace = outcome (next value) between := by
  rw [outcome_bind, ended]

theorem outcome_map (change : α → β) (run : Run α) :
    outcome (change <$> run) workspace = ((outcome run workspace).1.map change, (outcome run workspace).2) := by
  rw [map_eq_pure_bind, outcome_bind]
  obtain ⟨result, after⟩ := outcome run workspace
  cases result <;> rfl

theorem outcome_files : outcome Run.files workspace = (.ok workspace.files, workspace) :=
  rfl

theorem outcome_record (record : Record) :
    outcome (Run.record record) workspace = (.ok (), { workspace with log := workspace.log ++ [record] }) :=
  rfl

theorem outcome_set_files (files : FileSystem) :
    outcome (Run.setFiles files) workspace = (.ok (), { workspace with files }) :=
  rfl

theorem outcome_of_except (result : Except RunError α) :
    outcome (Run.ofExcept result) workspace = (result, workspace) := by
  cases result <;> rfl

theorem outcome_of_logged (logged : Logged α) :
    outcome (Run.ofLogged logged) workspace =
      (.ok logged.value, { workspace with log := workspace.log ++ logged.log }) :=
  rfl

theorem outcome_print (text : String) :
    outcome (Run.print text) workspace = (.ok (), { workspace with output := workspace.output ++ text }) :=
  rfl

/-- A record for each item is their list behind the log. -/
theorem outcome_record_each (record : α → Record) (items : List α) :
    outcome (items.forM fun item => Run.record (record item)) workspace =
      (.ok (), { workspace with log := workspace.log ++ items.map record }) := by
  induction items generalizing workspace with
  | nil =>
    rw [List.map_nil, List.append_nil]
    rfl
  | cons item items ih =>
    change outcome (Run.record (record item) >>= fun _ => items.forM fun item => Run.record (record item)) workspace = _
    rw [outcome_bind, outcome_record]
    dsimp only
    rw [ih, List.map_cons, List.append_assoc, List.singleton_append]

theorem outcome_make_directories (path : Path) :
    outcome (Run.makeDirectories path) workspace =
      ((workspace.files.makeDirectories path).2.mapError .files,
        { workspace with files := (workspace.files.makeDirectories path).1 }) := by
  rw [Run.makeDirectories, outcome_bind, outcome_files]
  simp only [outcome_bind, outcome_set_files, outcome_of_except]

theorem outcome_write_text (path : Path) (text : String) :
    outcome (Run.writeText path text) workspace =
      match workspace.files.writeText path text with
      | .ok files => (.ok (), { workspace with files })
      | .error error => (.error (.files error), workspace) := by
  rw [Run.writeText, outcome_bind, outcome_files]
  simp only [outcome_bind, outcome_of_except, outcome_set_files]
  cases workspace.files.writeText path text <;> rfl

theorem to_option_eq_some_iff {ε : Type} {result : Except ε α} {value : α} :
    result.toOption = some value ↔ result = .ok value := by
  cases result <;> simp [Except.toOption]

/-- A run that is seen to end well ends with its value and in its last workspace. -/
theorem outcome_of_to_option {run : Run α} {value : α} (passes : (outcome run workspace).1.toOption = some value) :
    outcome run workspace = (.ok value, (outcome run workspace).2) :=
  Prod.ext (to_option_eq_some_iff.mp passes) rfl

theorem bind_eq_ok_iff {ε : Type} {first : Except ε α} {next : α → Except ε β} {value : β} :
    first >>= next = .ok value ↔ ∃ between, first = .ok between ∧ next between = .ok value := by
  constructor
  · intro passed
    cases first with
    | error error => cases passed
    | ok between => exact ⟨between, rfl, passed⟩
  · rintro ⟨between, rfl, passed⟩
    exact passed

theorem map_error_eq_ok_iff {ε ζ : Type} {result : Except ε α} {change : ε → ζ} {value : α} :
    result.mapError change = .ok value ↔ result = .ok value := by
  constructor
  · intro passed
    cases result with
    | error error => cases passed
    | ok found =>
      cases passed
      rfl
  · rintro rfl
    rfl

/-- The tree that is loaded is that of the definition in the text, and keeps the rules. -/
theorem load_tree_iff {files : FileSystem} {path : Path} {root : Command} :
    loadTree files path = .ok root ↔ ∃ text definition, files.readText path = .ok text ∧
      Definition.read text = .ok definition ∧ (Command.root definition).verifyTree = .ok () ∧
      root = Command.root definition := by
  unfold loadTree readConfiguration
  simp only [bind_eq_ok_iff, map_error_eq_ok_iff]
  constructor
  · rintro ⟨definition, ⟨text, found, read⟩, ⟨⟩, verified, same⟩
    cases same
    exact ⟨text, definition, found, read, verified, rfl⟩
  · rintro ⟨text, definition, found, read, verified, rfl⟩
    exact ⟨definition, ⟨text, found, read⟩, (), verified, rfl⟩

/-- Where the configuration can be used, an inspection prints the plan of the selected command
and keeps the records that were made on the way to it. -/
theorem inspect_loaded {settings : Settings} {fullName : Option String} {root command : Command}
    (fragments : Bool) (loaded : loadTree workspace.files settings.configuration = .ok root)
    (found : root.select fullName = .ok command) :
    outcome (inspect settings fullName fragments) workspace =
      let view := command.view (fragmentLoader workspace.files settings.sourceDirectory fragments)
      (.ok (), { workspace with
        log := workspace.log ++ [.info "Running inspect command..."] ++ view.log
        output := workspace.output ++ view.value.text }) := by
  rw [inspect, outcome_then (outcome_record _), outcome_then outcome_files,
    outcome_then ((outcome_of_except _).trans (by rw [loaded])),
    outcome_then ((outcome_of_except _).trans (by rw [found])), outcome_then (outcome_of_logged _), outcome_print]

/-! ## What a run does to the files -/

/-- A relation of the files before and after that holds if nothing happens, and if
one thing happens after another. -/
structure Steady (allowed : FileSystem → FileSystem → Prop) : Prop where
  refl : ∀ files, allowed files files
  trans : ∀ {first second third}, allowed first second → allowed second third → allowed first third

/-- A run that does only what is allowed to the files, however it ends. -/
def Within (allowed : FileSystem → FileSystem → Prop) (run : Run α) : Prop :=
  ∀ workspace, allowed workspace.files (outcome run workspace).2.files

namespace Steady

variable {allowed : FileSystem → FileSystem → Prop} (steady : Steady allowed)

include steady

theorem pure (value : α) : Within allowed (Pure.pure value : Run α) :=
  fun workspace => steady.refl workspace.files

theorem bind {run : Run α} {next : α → Run β} (first : Within allowed run)
    (second : ∀ value, Within allowed (next value)) : Within allowed (run >>= next) := by
  intro workspace
  have kept := first workspace
  rw [outcome_bind]
  split
  · rename_i value between ended
    rw [ended] at kept
    exact steady.trans kept (second value between)
  · rename_i error between ended
    rw [ended] at kept
    exact kept

theorem files : Within allowed Run.files :=
  fun workspace => steady.refl workspace.files

theorem record (record : Record) : Within allowed (Run.record record) :=
  fun workspace => steady.refl workspace.files

theorem print (text : String) : Within allowed (Run.print text) :=
  fun workspace => steady.refl workspace.files

theorem of_except (result : Except RunError α) : Within allowed (Run.ofExcept result) := by
  intro workspace
  rw [outcome_of_except]
  exact steady.refl workspace.files

theorem of_logged (logged : Logged α) : Within allowed (Run.ofLogged logged) :=
  fun workspace => steady.refl workspace.files

theorem for_each {items : List α} {action : α → Run PUnit} (each : ∀ item, Within allowed (action item)) :
    Within allowed (items.forM action) := by
  induction items with
  | nil => exact steady.pure ()
  | cons item items ih => exact steady.bind (each item) fun _ => ih

/-- Checking a configuration leaves the files alone. -/
theorem validate (settings : Settings) : Within allowed (CommandPlan.validate settings) := by
  refine steady.bind (steady.record _) fun _ => steady.bind steady.files fun files => ?_
  refine steady.bind (steady.of_except _) fun root => steady.bind (steady.for_each fun warning => steady.record _) ?_
  refine fun _ => steady.bind (steady.of_logged _) fun fragments => ?_
  -- The record of missing fragments may be left out, and what follows it is the same.
  dsimp only
  split
  · exact steady.bind (steady.record _) fun _ =>
      steady.bind (steady.for_each fun orphan => steady.record _) fun _ => steady.record _
  · exact steady.bind (steady.for_each fun orphan => steady.record _) fun _ => steady.record _

/-- So does inspecting one. -/
theorem inspect (settings : Settings) (fullName : Option String) (fragments : Bool) :
    Within allowed (CommandPlan.inspect settings fullName fragments) := by
  refine steady.bind (steady.record _) fun _ => steady.bind steady.files fun files => ?_
  refine steady.bind (steady.of_except _) fun root => steady.bind (steady.of_except _) fun command => ?_
  exact steady.bind (steady.of_logged _) fun view => steady.print _

end Steady

theorem steady_eq : Steady Eq :=
  ⟨fun _ => rfl, fun first second => first.trans second⟩

/-- A relation that also holds if directories are made, and if a file is written. -/
structure Respected (allowed : FileSystem → FileSystem → Prop) : Prop extends Steady allowed where
  make : ∀ files path, allowed files (files.makeDirectories path).1
  write : ∀ {files after path content}, files.write path content = .ok after → allowed files after

/-- So it is for the files before and after if something about the files is kept. -/
theorem respected_of_kept {kept : FileSystem → Prop}
    (make : ∀ {files}, kept files → ∀ path, kept (files.makeDirectories path).1)
    (write : ∀ {files after path content}, kept files → files.write path content = .ok after → kept after) :
    Respected fun before after => kept before → kept after where
  refl _ held := held
  trans first second held := second (first held)
  make _ path held := make held path
  write wrote held := write held wrote

namespace Respected

variable {allowed : FileSystem → FileSystem → Prop} (respected : Respected allowed)

include respected

theorem write_text (path : Path) (text : String) : Within allowed (Run.writeText path text) := by
  intro workspace
  rw [outcome_write_text]
  split
  · rename_i files wrote
    exact respected.write wrote
  · exact respected.refl workspace.files

end Respected

end CommandPlan.RunEffects
