import CommandPlan.Proofs.EmptyDirectories
import CommandPlan.Proofs.FragmentNames
import CommandPlan.Proofs.KeptFiles

/-! Paths without a step to a parent uncover nothing. A directory that is made for
such a path is empty, so no file can be behind a path into it that was not there
before; and without uncovered files, only force ever costs a content. -/
namespace CommandPlan.ForwardPaths
open FileSystem FileGrowth PathJoin PathTarget FileChanges RunEffects ScaffoldEffects
open FragmentNames DirectoryTree PathParent EmptyDirectories KeptFiles

/-- No step of the path leads to a parent. -/
def Forward (path : Path) : Prop :=
  ".." ∉ path.steps

variable {files made : FileSystem} {directory file : Path} {name : String}

/-- A directory that had to be made for such a path brings nothing to the paths of its
names. -/
theorem missing_once_made (rooted : Rooted files) (forward : Forward directory)
    (done : files.makeDirectories directory = (made, .ok ())) (sameStart : file.isAbsolute = directory.isAbsolute)
    (skips : Skips file.steps (directory.steps ++ [name])) (notHere : name ≠ ".") (notParent : name ≠ "..") :
    Settled files directory ∨ made.pathExists file = false := by
  refine (make_directories_empty rooted forward done).imp_right fun empty => ?_
  rw [Bool.eq_false_iff]
  intro there
  obtain ⟨location, entry, looked⟩ := path_exists_iff_look.mp there
  obtain ⟨slash, located, -⟩ := look_iff.mp looked
  cases empty.nothing_found sameStart skips notHere notParent located

theorem forward_covers (rooted : Rooted files) (forward : Forward directory)
    (sameStart : file.isAbsolute = directory.isAbsolute)
    (skips : Skips file.steps (directory.steps ++ [name])) (notHere : name ≠ ".") (notParent : name ≠ "..") :
    uncovered? files directory file = none := by
  by_cases settled : Settled files directory
  · exact nothing_uncovered settled
  · unfold uncovered? fileBehind?
    split
    · rfl
    split
    · rename_i made done
      obtain settledNow | missing := missing_once_made rooted forward done sameStart skips notHere notParent
      · exact absurd settledNow settled
      · cases held : fileAt? made file with
        | none => rfl
        | some location =>
          rw [path_exists_of_file_at held] at missing
          cases missing
    · rfl

theorem configuration_covered (rooted : Rooted files) (forward : Forward file) :
    uncovered? files (directoryOf file) file = none := by
  unfold directoryOf
  cases above : file.parent? with
  | none => exact nothing_uncovered (.inl rfl)
  | some parent =>
    obtain ⟨forwardParent, empty | ⟨name, notHere, notParent, sameStart, skips⟩⟩ := parent_cases above forward
    · exact nothing_uncovered (.inl empty)
    · exact forward_covers rooted forwardParent sameStart skips notHere notParent

/-- The path of a fragment is the source directory and one name behind it. -/
theorem fragment_skips (directory : Path) (leaf : Command) :
    Skips (fragmentPath directory leaf).steps (directory.steps ++ [leaf.fragmentFile]) := by
  rw [fragmentPath, steps_join (fragment_file_plain leaf)]
  exact .refl _

theorem fragment_covered (rooted : Rooted files) (forward : Forward directory) (leaf : Command) :
    uncovered? files directory (fragmentPath directory leaf) = none := by
  have plain := fragment_file_plain leaf
  exact forward_covers rooted forward (absolute_join plain) (fragment_skips directory leaf) plain.notHere plain.notParent

theorem stub_texts_forward (rooted : Rooted files) (forward : Forward directory) (leaves : List Command) :
    stubTexts directory leaves files = [] := by
  unfold stubTexts
  split
  · rename_i leaf first
    dsimp only
    rw [fragment_covered rooted forward leaf, laid_none]
  · rfl

theorem completed_texts_forward {settings : Settings} (rooted : Rooted files)
    (forward : Forward settings.sourceDirectory) : completedTexts settings files = [] := by
  unfold completedTexts
  split
  · rename_i root loaded
    exact stub_texts_forward rooted forward root.leaves
  · rfl

theorem configured_texts_forward {settings : Settings} (rooted : Rooted files)
    (forward : Forward settings.sourceDirectory) : configuredTexts settings files = [] := by
  unfold configuredTexts
  split
  · rename_i written wrote
    exact completed_texts_forward (rooted.write wrote) forward
  · rfl

/-- Where neither path of the settings has a step to a parent, no file is written
over without being seen. -/
theorem uncovered_texts_forward {settings : Settings} (force : Bool) (rooted : Rooted files)
    (source : Forward settings.sourceDirectory) (configuration : Forward settings.configuration) :
    uncoveredTexts settings force files = [] := by
  have rootedMade := rooted.make_directories (directoryOf settings.configuration)
  unfold uncoveredTexts
  rw [configuration_covered rooted configuration, laid_none, ite_self, List.append_nil]
  split
  · rfl
  split
  · rename_i made done
    rw [done] at rootedMade
    exact configured_texts_forward rootedMade source
  · rfl

/-! ## Calls -/

theorem respected_rooted : Respected fun before after => Rooted before → Rooted after :=
  respected_of_kept Rooted.make_directories Rooted.write

/-- If a call starts a project, then at paths without a step to a parent. -/
def ForwardCall (call : Call) (files : FileSystem) : Prop :=
  ∀ settings force, call.project? files = some (settings, force) →
    Forward settings.sourceDirectory ∧ Forward settings.configuration

/-- So does each of the calls, where it comes to it. -/
def ForwardCalls : List Call → FileSystem → Prop
  | [], _ => True
  | call :: calls, files => ForwardCall call files ∧ ForwardCalls calls (call.run files)

theorem call_uncovers_nothing {call : Call} (rooted : Rooted files) (forward : ForwardCall call files) :
    call.uncovered files = [] := by
  unfold Call.uncovered
  split
  · rename_i settings force started
    obtain ⟨source, configuration⟩ := forward settings force started
    exact uncovered_texts_forward force rooted source configuration
  · rfl

theorem calls_uncover_nothing {calls : List Call} (rooted : Rooted files) (forward : ForwardCalls calls files) :
    uncovered calls files = [] := by
  induction calls generalizing files with
  | nil => rfl
  | cons call calls ih =>
    obtain ⟨first, later⟩ := forward
    have rootedBehind := call.run_within respected_rooted files rooted
    rw [uncovered, call_uncovers_nothing rooted first, ih rootedBehind later, List.append_nil]

/-- Calls without force, at paths without a step to a parent, keep every file with
its content. -/
theorem forward_calls_keep {calls : List Call} (rooted : Rooted files) (forward : ForwardCalls calls files)
    (unforced : ∀ call ∈ calls, ¬ call.Forces) : KeepsExcept none files (runs calls files) := by
  have covers := runs_lay unforced files
  rw [calls_uncover_nothing rooted forward] at covers
  exact fun location content _ held => covers.files location content held

/-- With force, such a call keeps all files but the configuration. -/
theorem forward_call_keeps {call : Call} (rooted : Rooted files) (forward : ForwardCall call files) :
    KeepsExcept (call.replaced? files) files (call.run files) := by
  refine (keeps_iff_harmless (call.run_lays files)).mpr ?_
  rw [call_uncovers_nothing rooted forward]
  exact fun _ _ _ _ _ found => nomatch found

end CommandPlan.ForwardPaths
