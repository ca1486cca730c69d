import CommandPlan.Proofs.FragmentLoads
import CommandPlan.Proofs.OrphanScan

/-! What a check of a configuration tells. Three parties warn: the lint rules, the
loading of the fragments and the scan for orphans. The summary counts the findings of
the first and the last and the missing fragments, but not the fragments that are read
in spite of their octets, so the log may hold more warnings than the summary says. -/
namespace CommandPlan.ValidationReport
open FragmentLoads OrphanScan RunEffects ScaffoldEffects

variable {settings : Settings} {files : FileSystem} {root : Command} {workspace : Workspace}

/-! ## The records of a check -/

def opening (settings : Settings) : Record :=
  .info ("Validating configuration " ++ settings.configuration.text ++ "...")

def lintWarnings (settings : Settings) (root : Command) : List Record :=
  root.lint.map fun warning => .warn (Markup.colorize settings.color warning.message)

def fragmentWarnings (settings : Settings) (files : FileSystem) (root : Command) : List Record :=
  (root.leaves.filter (isTroubled files settings.sourceDirectory)).map (fragmentWarning files settings.sourceDirectory)

def missingNote (count : Nat) : Record :=
  .info (toString count ++ " fragment(s) missing; run \x60shcraft init\x60 to create stubs.")

def orphanPaths (settings : Settings) (files : FileSystem) (root : Command) : List Path :=
  orphans files settings.sourceDirectory (root.leaves.map (fragmentPath settings.sourceDirectory))

def orphanWarnings (settings : Settings) (files : FileSystem) (root : Command) : List Record :=
  (orphanPaths settings files root).map fun path =>
    .warn ("Fragment " ++ path.text ++ " does not belong to any command.")

def summary (nodes warnings : Nat) : Record :=
  .info ("✅ Configuration is valid: " ++ toString nodes ++ " command(s), " ++ toString warnings ++ " warning(s).")

def missingCount (settings : Settings) (files : FileSystem) (root : Command) : Nat :=
  root.leaves.countP (isMissing files settings.sourceDirectory)

/-- The note, unless no fragment is missing. -/
def missingNotes (count : Nat) : List Record :=
  if count = 0 then [] else [missingNote count]

def report (settings : Settings) (files : FileSystem) (root : Command) : List Record :=
  [opening settings] ++ lintWarnings settings root ++ fragmentWarnings settings files root ++
    missingNotes (missingCount settings files root) ++ orphanWarnings settings files root ++
    [summary root.nodes.length
      (root.lint.length + missingCount settings files root + (orphanPaths settings files root).length)]

/-- A check that can use the configuration writes its report, and does nothing else. -/
theorem validate_loaded (loaded : loadTree workspace.files settings.configuration = .ok root) :
    outcome (validate settings) workspace =
      (.ok (), { workspace with log := workspace.log ++ report settings workspace.files root }) := by
  obtain ⟨fragments, paths, missing, told⟩ := load_fragments workspace.files settings.sourceDirectory root.leaves
  rw [validate, outcome_then (outcome_record _), outcome_then outcome_files]
  rw [outcome_then ((outcome_of_except _).trans (by rw [loaded])), outcome_then (outcome_record_each _ _)]
  rw [outcome_then ((outcome_of_logged _).trans (by rw [told]))]
  dsimp only
  rw [paths, missing, ← missingCount, ← orphanPaths]
  -- The note is written or left out, and the run goes on in the same way.
  by_cases complete : missingCount settings workspace.files root = 0
  · rw [if_neg (not_not_intro complete), outcome_then (outcome_record_each _ _), outcome_record, report, missingNotes,
      if_pos complete]
    simp only [opening, lintWarnings, fragmentWarnings, orphanWarnings, summary, List.append_assoc, List.nil_append]
  · rw [if_pos complete, outcome_then (outcome_record _), outcome_then (outcome_record_each _ _), outcome_record, report,
      missingNotes, if_neg complete]
    simp only [opening, lintWarnings, fragmentWarnings, missingNote, orphanWarnings, summary, List.append_assoc]

/-- Whatever else there is to find, a check fails as the loading of the tree does. -/
theorem validate_result (settings : Settings) (workspace : Workspace) :
    (outcome (validate settings) workspace).1 =
      (loadTree workspace.files settings.configuration).map fun _ => () := by
  cases loaded : loadTree workspace.files settings.configuration with
  | ok root =>
    rw [validate_loaded loaded]
    rfl
  | error error =>
    rw [validate, outcome_then (outcome_record _), outcome_then outcome_files, outcome_bind, outcome_of_except, loaded]
    rfl

/-- So does the inspection of the whole tree. -/
theorem inspect_result (settings : Settings) (fragments : Bool) (workspace : Workspace) :
    (outcome (inspect settings none fragments) workspace).1 =
      (loadTree workspace.files settings.configuration).map fun _ => () := by
  rw [inspect, outcome_then (outcome_record _), outcome_then outcome_files, outcome_bind, outcome_of_except]
  cases loadTree workspace.files settings.configuration with
  | ok root =>
    dsimp only [Command.select]
    rw [outcome_then (outcome_of_except _), outcome_then (outcome_of_logged _), outcome_print]
    rfl
  | error error => rfl

/-! ## The warnings among them -/

def isWarning (record : Record) : Bool :=
  record.level = .warn

theorem lint_warnings_warn : ∀ record ∈ lintWarnings settings root, isWarning record = true := by
  intro record member
  obtain ⟨warning, -, rfl⟩ := List.mem_map.mp member
  rfl

theorem fragment_warnings_warn : ∀ record ∈ fragmentWarnings settings files root, isWarning record = true := by
  intro record member
  obtain ⟨leaf, -, rfl⟩ := List.mem_map.mp member
  exact decide_eq_true fragment_warning_level

theorem orphan_warnings_warn : ∀ record ∈ orphanWarnings settings files root, isWarning record = true := by
  intro record member
  obtain ⟨path, -, rfl⟩ := List.mem_map.mp member
  rfl

/-- What the three parties say is all that warns. -/
theorem report_warnings (settings : Settings) (files : FileSystem) (root : Command) :
    (report settings files root).filter isWarning =
      lintWarnings settings root ++ fragmentWarnings settings files root ++ orphanWarnings settings files root := by
  have notes : ∀ count, (missingNotes count).filter isWarning = [] := by
    intro count
    rw [missingNotes]
    split <;> rfl
  rw [report]
  simp only [List.filter_append]
  rw [notes, List.filter_eq_self.mpr lint_warnings_warn, List.filter_eq_self.mpr fragment_warnings_warn,
    List.filter_eq_self.mpr orphan_warnings_warn, List.append_nil]
  -- The opening and the summary are no warnings.
  exact List.append_nil _

/-! ## The note of missing fragments among them -/

theorem digit_first (count : Nat) (rest : String) :
    ∃ digit behind, (toString count ++ rest).toList = digit :: behind ∧ digit.isDigit = true := by
  rw [Nat.toString_eq_ofList_toDigits, String.toList_append, String.toList_ofList]
  cases digits : Nat.toDigits 10 count with
  | nil => exact absurd digits Nat.toDigits_ne_nil
  | cons digit behind =>
    have member : digit ∈ Nat.toDigits 10 count := digits ▸ List.mem_cons_self
    exact ⟨digit, behind ++ rest.toList, rfl, Nat.isDigit_of_mem_toDigits (by decide) (by decide) member⟩

theorem missing_note_inj {a b : Nat} (same : missingNote a = missingNote b) : a = b := by
  have texts : toString a = toString b := (String.append_left_inj _).mp (congrArg Record.message same)
  rw [Nat.toString_eq_ofList_toDigits, Nat.toString_eq_ofList_toDigits, String.ofList_inj] at texts
  have numbers := congrArg (fun digits => Nat.ofDigitChars 10 digits 0) texts
  simpa only [Nat.ofDigitChars_ten_toDigits] using numbers

theorem missing_note_not_warning (count : Nat) : isWarning (missingNote count) = false :=
  rfl

theorem missing_notes_mem_iff {count missing : Nat} :
    missingNote count ∈ missingNotes missing ↔ 0 < count ∧ count = missing := by
  rw [missingNotes]
  by_cases complete : missing = 0
  · rw [if_pos complete, complete]
    exact ⟨fun member => absurd member List.not_mem_nil, fun ⟨positive, zero⟩ => absurd positive (by omega)⟩
  · rw [if_neg complete, List.mem_singleton]
    constructor
    · intro same
      obtain rfl := missing_note_inj same
      exact ⟨Nat.pos_of_ne_zero complete, rfl⟩
    · rintro ⟨-, rfl⟩
      rfl

/-- A note begins with a digit, so it is no record that begins otherwise. -/
theorem missing_note_ne {record : Record} {first : Char} {rest : List Char} (count : Nat)
    (text : record.message.toList = first :: rest) (other : first.isDigit = false) : missingNote count ≠ record := by
  rintro rfl
  obtain ⟨digit, behind, digits, isDigit⟩ :=
    digit_first count " fragment(s) missing; run \x60shcraft init\x60 to create stubs."
  obtain ⟨rfl, -⟩ := List.cons.inj (text.symm.trans digits)
  exact absurd (other.symm.trans isDigit) Bool.false_ne_true

theorem opening_first (settings : Settings) : ∃ rest, (opening settings).message.toList = 'V' :: rest := by
  simp [opening, Record.info]

theorem summary_first (nodes warnings : Nat) : ∃ rest, (summary nodes warnings).message.toList = '✅' :: rest := by
  simp [summary, Record.info]

/-- The note is there if and only if a fragment is missing, and with the number of those. -/
theorem missing_note_mem_iff (count : Nat) :
    missingNote count ∈ report settings files root ↔ 0 < count ∧ count = missingCount settings files root := by
  have silent : ∀ records : List Record, (∀ record ∈ records, isWarning record = true) → missingNote count ∉ records :=
    fun records warn member => absurd ((missing_note_not_warning count).symm.trans (warn _ member)) Bool.false_ne_true
  obtain ⟨rest, beginning⟩ := opening_first settings
  have noOpening : missingNote count ≠ opening settings := missing_note_ne count beginning (by decide)
  have noSummary : ∀ nodes warnings, missingNote count ≠ summary nodes warnings := by
    intro nodes warnings
    obtain ⟨rest, ending⟩ := summary_first nodes warnings
    exact missing_note_ne count ending (by decide)
  simp only [report, List.mem_append, List.mem_singleton, noOpening, noSummary, silent _ lint_warnings_warn,
    silent _ fragment_warnings_warn, silent _ orphan_warnings_warn, missing_notes_mem_iff, false_or, or_false]

/-! ## The summary -/

/-- The summary counts all warnings but those of the garbled fragments. -/
theorem warning_count (settings : Settings) (files : FileSystem) (root : Command) :
    (root.lint.length + missingCount settings files root + (orphanPaths settings files root).length) +
        root.leaves.countP (isGarbled files settings.sourceDirectory) =
      ((report settings files root).filter isWarning).length := by
  have fragments : (fragmentWarnings settings files root).length =
      missingCount settings files root + root.leaves.countP (isGarbled files settings.sourceDirectory) := by
    rw [fragmentWarnings, List.length_map, ← List.countP_eq_length_filter, troubled_count, ← missingCount]
  rw [report_warnings, List.length_append, List.length_append, fragments, lintWarnings, orphanWarnings,
    List.length_map, List.length_map]
  omega

/-- What the records of a check tell of a command tree: each warning in its place,
how many there are, and how many fragments there should be besides. -/
structure Tells (settings : Settings) (files : FileSystem) (root : Command) (records : List Record) : Prop where
  warnings : records.filter isWarning =
    lintWarnings settings root ++ fragmentWarnings settings files root ++ orphanWarnings settings files root
  orphan_iff : ∀ path, path ∈ orphanPaths settings files root ↔
    Orphan files settings.sourceDirectory (root.leaves.map (fragmentPath settings.sourceDirectory)) path
  orphans_ordered : (orphanPaths settings files root).Pairwise fun a b => b.lt a = false
  total : records.getLast? = some (summary root.nodes.length
    (root.lint.length + missingCount settings files root + (orphanPaths settings files root).length))
  total_count : root.lint.length + missingCount settings files root + (orphanPaths settings files root).length +
    root.leaves.countP (isGarbled files settings.sourceDirectory) = (records.filter isWarning).length
  note_iff : ∀ count, missingNote count ∈ records ↔ 0 < count ∧ count = missingCount settings files root

theorem report_tells (settings : Settings) (files : FileSystem) (root : Command) :
    Tells settings files root (report settings files root) where
  warnings := report_warnings settings files root
  orphan_iff _ := mem_orphans_iff
  orphans_ordered := orphans_sorted
  total := List.getLast?_concat
  total_count := warning_count settings files root
  note_iff := missing_note_mem_iff

/-- Checking a configuration, and inspecting all of it, fails exactly as the loading
of the tree does. If it does not, the check tells of every lint warning, of every
fragment in trouble and of every orphan, and counts what it tells. -/
theorem validate_fails_as_loading_and_tells (settings : Settings) (workspace : Workspace) :
    (outcome (validate settings) workspace).1 = (loadTree workspace.files settings.configuration).map (fun _ => ()) ∧
    (∀ fragments, (outcome (inspect settings none fragments) workspace).1 =
      (loadTree workspace.files settings.configuration).map fun _ => ()) ∧
    ∀ root, loadTree workspace.files settings.configuration = .ok root →
      ∃ records, (outcome (validate settings) workspace).2.log = workspace.log ++ records ∧
        Tells settings workspace.files root records := by
  refine ⟨validate_result settings workspace, fun fragments => inspect_result settings fragments workspace, ?_⟩
  intro root loaded
  refine ⟨report settings workspace.files root, ?_, report_tells settings workspace.files root⟩
  rw [validate_loaded loaded]

/-- A source directory with trouble of each kind: of two leaves, one has a fragment
that is no text and one has none, and a third fragment belongs to nobody. -/
def untidyFiles : FileSystem where
  entries := [(["src"], .directory),
    (["src", "shcraft.yml"], .file (Utf8.encode "name: a\ncommands:\n  - name: b\n  - name: c".toList)),
    (["src", "a_b_command.sh"], .file [0xFF]), (["src", "x_command.sh"], .file [])]
  unique := by decide

def untidySettings : Settings := ⟨⟨"src"⟩, ⟨"src/shcraft.yml"⟩, false⟩

theorem untidy_files_told :
    ∃ root records, loadTree untidyFiles untidySettings.configuration = .ok root ∧
      (outcome (validate untidySettings) { files := untidyFiles }).2.log = records ∧
      Tells untidySettings untidyFiles root records ∧ missingCount untidySettings untidyFiles root = 1 ∧
      root.leaves.countP (isGarbled untidyFiles untidySettings.sourceDirectory) = 1 ∧
      orphanPaths untidySettings untidyFiles root = [⟨"src/x_command.sh"⟩] := by
  have found : (loadTree untidyFiles untidySettings.configuration).toOption.map (fun root =>
      (missingCount untidySettings untidyFiles root,
        root.leaves.countP (isGarbled untidyFiles untidySettings.sourceDirectory),
        orphanPaths untidySettings untidyFiles root)) = some (1, 1, [⟨"src/x_command.sh"⟩]) := by
    decide +kernel
  cases loaded : loadTree untidyFiles untidySettings.configuration with
  | error error => simp [loaded, Except.toOption] at found
  | ok root =>
    rw [loaded] at found
    obtain ⟨missing, garbled, orphans⟩ : missingCount untidySettings untidyFiles root = 1 ∧
        root.leaves.countP (isGarbled untidyFiles untidySettings.sourceDirectory) = 1 ∧
        orphanPaths untidySettings untidyFiles root = [⟨"src/x_command.sh"⟩] := by
      simpa [Except.toOption] using found
    obtain ⟨-, -, told⟩ := validate_fails_as_loading_and_tells untidySettings { files := untidyFiles }
    obtain ⟨records, log, tells⟩ := told root loaded
    exact ⟨root, records, rfl, log, tells, missing, garbled, orphans⟩

end CommandPlan.ValidationReport
