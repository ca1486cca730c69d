import CommandPlan.Proofs.ScaffoldEffects

/-! Calls of the program never remove a file, and they change what is in one only
where a project is started over it. That happens to the configuration that force
is meant for, and to a file that no path led to before a directory was made. A user's
answer matters only to a run that asks for it. -/
namespace CommandPlan.KeptFiles
open FileSystem FileGrowth FileChanges RunEffects ScaffoldEffects

/-! ## Questions -/

section Questions
variable {environment : Environment} {files : FileSystem} {words : List String} {settings : Settings} {task : Task}

/-- The answer matters to one task only. -/
theorem perform_unquestioned (agrees : Bool)
    (silent : ∀ force, task = .init force → environment.isTerminal = true →
      asksToOverwrite files settings.configuration force = false) :
    outcome (Program.perform { environment with agrees } settings task) { files } =
      outcome (Program.perform environment settings task) { files } := by
  cases task with
  | validate => rfl
  | inspect => rfl
  | init force =>
    cases attended : environment.isTerminal with
    | false => simp [Program.perform, Environment.answer?, attended]
    | true =>
      have unasked := silent force rfl attended
      exact (scaffold_unasked { files } _ unasked).trans (scaffold_unasked { files } _ unasked).symm

/-- Where a run asks nothing, the answer makes no difference to it. -/
theorem run_unquestioned (silent : Program.question? environment files words = none) (agrees : Bool) :
    Program.run { environment with agrees } files words = Program.run environment files words := by
  have sameUser : Program.userSettings { environment with agrees } files = Program.userSettings environment files := rfl
  unfold Program.question? at silent
  unfold Program.run
  rw [sameUser]
  dsimp only
  cases understood : Invocation.read environment.sourceDirectory environment.configuration words with
  | error refusal => cases refusal <;> rfl
  | ok invocation =>
    cases set : Program.userSettings environment files with
    | error error => rfl
    | ok user =>
      rw [understood, set] at silent
      dsimp only at silent ⊢
      have same : outcome (Program.perform { environment with agrees } (Program.settings environment invocation user)
          invocation.task) { files } = outcome (Program.perform environment (Program.settings environment invocation user)
          invocation.task) { files } :=
        perform_unquestioned agrees fun force isInit attended => by simpa [isInit, attended] using silent
      rw [outcome, outcome] at same
      have sameSettings : Program.settings { environment with agrees } invocation user =
        Program.settings environment invocation user := rfl
      rw [sameSettings, same]

end Questions

/-! ## One call -/

/-- A call of the program where nobody is there to answer a question. -/
structure Call where
  environment : Environment
  words : List String
  unattended : environment.isTerminal = false

namespace Call

/-- The files behind a call. -/
def run (call : Call) (files : FileSystem) : FileSystem :=
  (Program.run call.environment files call.words).files

def read (call : Call) : Except Refusal Invocation :=
  Invocation.read call.environment.sourceDirectory call.environment.configuration call.words

/-- Whether a call says that an existing configuration may be replaced. -/
def Forces (call : Call) : Prop :=
  ∃ invocation, call.read = .ok invocation ∧ invocation.task = .init true

/-- The project that a call starts, if it comes to that, and whether by force. -/
def project? (call : Call) (files : FileSystem) : Option (Settings × Bool) :=
  match call.read, Program.userSettings call.environment files with
  | .ok invocation, .ok user =>
    match invocation.task with
    | .init force => some (Program.settings call.environment invocation user, force)
    | _ => none
  | _, _ => none

/-- What a call is about to write over files that it does not see. -/
def uncovered (call : Call) (files : FileSystem) : List (Location × List UInt8) :=
  match call.project? files with
  | some (settings, force) => uncoveredTexts settings force files
  | none => []

/-- Where the configuration is that a call may replace. -/
def replaced? (call : Call) (files : FileSystem) : Option Location :=
  match call.project? files with
  | some (settings, force) => ScaffoldEffects.replaced? settings force files
  | none => none

theorem run_refused {call : Call} {refusal : Refusal} (refused : call.read = .error refusal)
    (files : FileSystem) : call.run files = files := by
  unfold read at refused
  unfold run Program.run
  rw [refused]
  cases refusal <;> rfl

theorem run_unset {call : Call} {files : FileSystem} {error : RunError}
    (unset : Program.userSettings call.environment files = .error error) : call.run files = files := by
  cases understood : call.read with
  | error refusal => exact run_refused understood files
  | ok invocation =>
    unfold read at understood
    unfold run Program.run
    rw [understood, unset]

theorem run_performed {call : Call} {files : FileSystem} {invocation : Invocation} {user : UserSettings}
    (understood : call.read = .ok invocation) (set : Program.userSettings call.environment files = .ok user) :
    call.run files = (outcome (Program.perform call.environment (Program.settings call.environment invocation user)
      invocation.task) { files }).2.files := by
  unfold read at understood
  unfold run Program.run outcome
  rw [understood, set]
  dsimp only
  split
  rename_i result workspace ended
  rw [ended]
  cases result <;> rfl

/-- A call that starts no project leaves the files alone. -/
theorem run_project (call : Call) (files : FileSystem) :
    call.run files =
      match call.project? files with
      | some (settings, force) => (outcome (scaffold settings force) { files }).2.files
      | none => files := by
  unfold project?
  cases understood : call.read with
  | error refusal => exact run_refused understood files
  | ok invocation =>
    cases set : Program.userSettings call.environment files with
    | error error => exact run_unset set
    | ok user =>
      rw [run_performed understood set]
      dsimp only
      cases invocation.task with
      | init force =>
        have unanswered : call.environment.answer? = none := if_neg (Bool.eq_false_iff.mp call.unattended)
        rw [Program.perform, unanswered]
      | validate => exact (steady_eq.validate _ _).symm
      | inspect command fragments => exact (steady_eq.inspect _ command fragments _).symm

theorem run_lays (call : Call) (files : FileSystem) :
    LaidOver (call.uncovered files ++ laid (call.replaced? files) sampleOctets) files (call.run files) := by
  rw [run_project, uncovered, replaced?]
  cases call.project? files with
  | none => exact .refl files
  | some project => exact scaffold_lays project.1 project.2 { files }

/-- All that a call does to the files is to make directories and to write files. -/
theorem run_within {allowed : FileSystem → FileSystem → Prop} (respected : Respected allowed) (call : Call)
    (files : FileSystem) : allowed files (call.run files) := by
  rw [run_project]
  cases call.project? files with
  | none => exact respected.refl files
  | some project => exact scaffold_within respected project.1 project.2 none { files }

/-- Without force no configuration may be replaced. -/
theorem nothing_replaced {call : Call} (unforced : ¬ call.Forces) (files : FileSystem) :
    call.replaced? files = none := by
  unfold replaced? project?
  cases understood : call.read with
  | error refusal => rfl
  | ok invocation =>
    cases Program.userSettings call.environment files with
    | error error => rfl
    | ok user =>
      dsimp only
      cases task : invocation.task with
      | validate => rfl
      | inspect => rfl
      | init force =>
        cases force with
        | false => rfl
        | true => exact absurd ⟨invocation, understood, task⟩ unforced

end Call

/-! ## One call after another -/

/-- The files behind a sequence of calls. -/
def runs : List Call → FileSystem → FileSystem
  | [], files => files
  | call :: calls, files => runs calls (call.run files)

/-- What the calls are about to write over files that they do not see, the last
call first. -/
def uncovered : List Call → FileSystem → List (Location × List UInt8)
  | [], _ => []
  | call :: calls, files => uncovered calls (call.run files) ++ call.uncovered files

theorem runs_grow (calls : List Call) (files : FileSystem) : Grows files (runs calls files) := by
  induction calls generalizing files with
  | nil => exact .refl files
  | cons call calls ih => exact (call.run_lays files).grows.trans (ih (call.run files))

theorem runs_lay {calls : List Call} (unforced : ∀ call ∈ calls, ¬ call.Forces) (files : FileSystem) :
    LaidOver (uncovered calls files) files (runs calls files) := by
  induction calls generalizing files with
  | nil => exact .refl files
  | cons call calls ih =>
    have first := call.run_lays files
    rw [Call.nothing_replaced (unforced call List.mem_cons_self)] at first
    have rest := ih (fun other later => unforced other (List.mem_cons_of_mem call later)) (call.run files)
    have both := first.trans rest
    rwa [laid, Option.toList_none, List.map_nil, List.append_nil] at both

/-- Every file stays a file, whatever is called and in whatever order, and what has a
name that is no text stays as it is. Calls without force leave all contents as they are,
and a single call all but that of the configuration that it is forced to replace, exactly
if no uncovered file has another content than the one that is written over it. -/
theorem files_kept_unless_uncovered (calls : List Call) (call : Call) (files : FileSystem) :
    (∀ location content, files.entry? location = some (.file content) →
      ∃ later, FileSystem.entry? (runs calls files) location = some (.file later)) ∧
    FileSystem.unspelled (runs calls files) = files.unspelled ∧
    ((∀ call ∈ calls, ¬ call.Forces) →
      (KeepsExcept none files (runs calls files) ↔ Harmless none files (uncovered calls files))) ∧
    (KeepsExcept (call.replaced? files) files (call.run files) ↔
      Harmless (call.replaced? files) files (call.uncovered files)) := by
  have grows := runs_grow calls files
  refine ⟨fun location content held => grows.file held, grows.unspelled, fun unforced => ?_, ?_⟩
  · have covers : LaidOver (uncovered calls files ++ laid none []) files (runs calls files) := by
      rw [laid_none, List.append_nil]
      exact runs_lay unforced files
    exact keeps_iff_harmless covers
  · exact keeps_iff_harmless (call.run_lays files)

/-- A configuration that somebody wrote. -/
def ownOctets : List UInt8 :=
  Utf8.encode "# my own\nname: tool\n".toList

/-- A directory with that configuration in it. -/
def customized : FileSystem :=
  (FileSystem.put {} ["b"] .directory).put ["b", "shcraft.yml"] (.file ownOctets)

/-- A project in that directory, and another task for it. -/
def direct : List Call :=
  [⟨{}, ["--source-dir", "b", "init"], rfl⟩, ⟨{}, ["validate"], rfl⟩]

/-- A project in the same directory, named by way of one that is missing. -/
def detour : Call :=
  ⟨{}, ["--source-dir", "a/../b", "init"], rfl⟩

theorem not_forces_of_task {call : Call} (task : Task) (read : call.read.toOption.map Invocation.task = some task)
    (unforced : task ≠ .init true) : ¬ call.Forces := by
  rintro ⟨invocation, understood, forced⟩
  rw [understood] at read
  exact unforced ((Option.some.inj read).symm.trans forced)

theorem direct_keeps_files :
    (∀ call ∈ direct, ¬ call.Forces) ∧ KeepsExcept none customized (runs direct customized) := by
  have unforced : ∀ call ∈ direct, ¬ call.Forces := by
    intro call member
    simp only [direct, List.mem_cons, List.not_mem_nil, or_false] at member
    obtain rfl | rfl := member
    · exact not_forces_of_task (.init false) (by decide +kernel) nofun
    · exact not_forces_of_task .validate (by decide +kernel) nofun
  have nothing : uncovered direct customized = [] := by decide +kernel
  refine ⟨unforced, ((files_kept_unless_uncovered direct detour customized).2.2.1 unforced).mpr ?_⟩
  rw [nothing]
  exact fun _ _ _ _ _ found => nomatch found

theorem detour_uncovers : detour.uncovered customized = [(["b", "shcraft.yml"], sampleOctets)] := by
  have project : detour.project? customized = some (⟨⟨"a/../b"⟩, ⟨"a/../b/shcraft.yml"⟩, false⟩, false) := by
    decide +kernel
  have place : uncovered? customized ⟨"a/../b"⟩ ⟨"a/../b/shcraft.yml"⟩ = some ["b", "shcraft.yml"] := by
    decide +kernel
  rw [Call.uncovered, project]
  dsimp only
  rw [uncovered_texts_beside false (by decide +kernel), if_neg Bool.false_ne_true, place, laid_some]

theorem own_is_no_sample : sampleOctets ≠ ownOctets := by
  obtain ⟨sample, starts⟩ := sample_starts
  obtain ⟨own, ownStarts⟩ : ∃ rest, "# my own\nname: tool\n" = String.ofList ('#' :: rest) := ⟨_, rfl⟩
  rw [sampleOctets, starts, ownOctets, ownStarts, String.toList_ofList, String.toList_ofList]
  simp [Utf8.encode, Utf8.encodeChar]

/-- The configuration is lost though nothing forces the call. -/
theorem detour_replaces_configuration :
    (∀ call ∈ [detour], ¬ call.Forces) ∧ ¬ KeepsExcept none customized (runs [detour] customized) := by
  have unforced : ∀ call ∈ [detour], ¬ call.Forces := by
    intro call member
    rw [List.mem_singleton.mp member]
    exact not_forces_of_task (.init false) (by decide +kernel) nofun
  refine ⟨unforced, fun keeps => ?_⟩
  have held : customized.entry? ["b", "shcraft.yml"] = some (.file ownOctets) := rfl
  have kept := keeps _ _ nofun held
  have covers := (runs_lay unforced customized).files _ _ held
  rw [kept, uncovered, uncovered, List.nil_append, detour_uncovers, lookup_at, if_pos rfl, Option.getD_some] at covers
  exact own_is_no_sample (by simpa using covers.symm)

end CommandPlan.KeptFiles
