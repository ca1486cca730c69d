import CommandPlan.Proofs.ForwardPaths
import CommandPlan.Proofs.MadeDirectories
import CommandPlan.Proofs.StubCompletion

/-! Which stubs are created. The paths of fragments are asked for one after the other,
while the files grow: a stub may be at the path of a later leaf, and with the source
directory a path may come to lead somewhere that led nowhere before. If that does not
happen, the stubs are those of all paths at which nothing was. -/
namespace CommandPlan.StubCreation
open FileSystem FileGrowth PathWalk PathTarget FileChanges PathJoin FragmentNames RunEffects ScaffoldEffects
open DirectoryTree PathParent EmptyDirectories StubPlaces MadeDirectories StubCompletion ForwardPaths

/-- The paths of fragments at which nothing is, each of them once. -/
def absentPaths (files : FileSystem) (directory : Path) (leaves : List Command) : List Path :=
  ((leaves.map (fragmentPath directory)).filter (!files.pathExists ·)).eraseDups

/-- Whose fragment is at a path: that of the first of the leaves that have it. -/
def owner? (directory : Path) (leaves : List Command) (path : Path) : Option Command :=
  leaves.find? (fragmentPath directory · = path)

/-- The stub of its owner is at the path, in a file that was not there before. -/
def StubAt (directory : Path) (leaves : List Command) (before after : FileSystem) (path : Path) : Prop :=
  ∃ leaf location, owner? directory leaves path = some leaf ∧ before.entry? location = none ∧
    after.look path = .ok (location, .file (stubOctets path leaf))

/-- The stubs at the paths are all that is new, but for directories on the way of the
source directory, and nothing that was there has changed. -/
structure CreatedExactly (directory : Path) (leaves : List Command) (created : List Path)
    (before after : FileSystem) : Prop where
  paths : created = absentPaths before directory leaves
  stubs : ∀ path ∈ created, StubAt directory leaves before after path
  kept : Extends before after
  others : ∀ location entry, after.entry? location = some entry →
    before.entry? location = some entry ∨
      (∃ path ∈ created, after.look path = .ok (location, entry)) ∨
        entry = .directory ∧ OnTheWay after directory location

/-- Nothing is at the path of the leaf, but as soon as the source directory is made,
something is. -/
def Uncovers (files : FileSystem) (directory : Path) (leaf : Command) : Prop :=
  files.pathExists (fragmentPath directory leaf) = false ∧
    ∃ made, files.makeDirectories directory = (made, .ok ()) ∧ made.pathExists (fragmentPath directory leaf) = true

variable {files made between after : FileSystem} {directory path : Path} {leaf other : Command}
variable {leaves : List Command} {created later : List Path} {workspace ended : Workspace}
variable {location : Location} {content : List UInt8}

/-! ## Absent paths -/

theorem mem_absent_paths : path ∈ absentPaths files directory leaves ↔
    (∃ leaf ∈ leaves, fragmentPath directory leaf = path) ∧ files.pathExists path = false := by
  rw [absentPaths, List.mem_eraseDups, List.mem_filter, List.mem_map, Bool.not_eq_true']

theorem absent_paths_there (there : files.pathExists (fragmentPath directory leaf) = true) :
    absentPaths files directory (leaf :: leaves) = absentPaths files directory leaves := by
  rw [absentPaths, List.map_cons, List.filter_cons_of_neg (by simp [there]), absentPaths]

/-- An absent path is in the list once, and what else is there is absent without it. -/
theorem absent_paths_missing (missing : files.pathExists (fragmentPath directory leaf) = false)
    (filled : ∀ other ∈ leaves, after.pathExists (fragmentPath directory other) = true ↔
      files.pathExists (fragmentPath directory other) = true ∨
        fragmentPath directory other = fragmentPath directory leaf) :
    absentPaths files directory (leaf :: leaves) =
      fragmentPath directory leaf :: absentPaths after directory leaves := by
  rw [absentPaths, List.map_cons, List.filter_cons_of_pos (by simp [missing]), List.eraseDups_cons,
    List.filter_filter, absentPaths]
  have same : ∀ path ∈ leaves.map (fragmentPath directory),
      (!path == fragmentPath directory leaf && !files.pathExists path) = !after.pathExists path := by
    refine List.forall_mem_map.mpr fun other member => ?_
    have either := filled other member
    by_cases here : fragmentPath directory other = fragmentPath directory leaf
    · rw [here] at either ⊢
      rw [either.mpr (.inr rfl), beq_self_eq_true, Bool.not_true, Bool.false_and]
    · have unchanged :
          after.pathExists (fragmentPath directory other) = files.pathExists (fragmentPath directory other) :=
        Bool.eq_iff_iff.mpr ⟨fun there => (either.mp there).resolve_right here, fun there => either.mpr (.inl there)⟩
      rw [unchanged, beq_eq_false_iff_ne.mpr here, Bool.not_false, Bool.true_and]
  rw [List.filter_congr same]

/-! ## Owners -/

theorem owner_first (leaf : Command) (leaves : List Command) :
    owner? directory (leaf :: leaves) (fragmentPath directory leaf) = some leaf := by
  simp [owner?]

theorem owner_later (apart : fragmentPath directory leaf ≠ path) :
    owner? directory (leaf :: leaves) path = owner? directory leaves path := by
  simp [owner?, apart]

/-! ## One stub -/

/-- What is there behind a stub was there before, or is the stub. -/
theorem found_before_stub (linkFree : NoLinks files)
    (wrote : files.write (fragmentPath directory leaf) content = .ok after)
    (there : after.pathExists (fragmentPath directory other) = true) :
    files.pathExists (fragmentPath directory other) = true ∨
      fragmentPath directory other = fragmentPath directory leaf := by
  have linkFreeAfter := linkFree.write wrote
  obtain ⟨place, -, rfl⟩ := write_in_directory linkFree (fragment_file_plain leaf) wrote
  obtain ⟨location, entry, looked⟩ := path_exists_iff_look.mp there
  cases entry with
  | link target => exact absurd looked look_not_link
  | directory =>
    have held := is_directory_kept frame_of_put_file (is_directory_iff_look.mpr ⟨location, looked⟩)
    exact .inl (path_exists_iff.mpr (.inl held))
  | file found =>
    have held := held_of_look looked
    rw [entry_put] at held
    split at held
    · cases held
    split at held
    · rename_i here
      obtain ⟨slash, located, -⟩ := look_iff.mp looked
      obtain ⟨otherPlace, -, spelled⟩ := locate_in_directory linkFreeAfter (fragment_file_plain other) located nofun
      have same : otherPlace ++ [other.fragmentFile] = place ++ [leaf.fragmentFile] := spelled.symm.trans here
      obtain ⟨-, last⟩ := List.append_inj' same (by rw [List.length_singleton, List.length_singleton])
      right
      rw [fragmentPath, fragmentPath, (List.cons.inj last).1]
    · have lookedBefore := look_file_kept frame_of_put_file looked held
      exact .inl (path_exists_iff_look.mpr ⟨location, _, lookedBefore⟩)

theorem found_behind_stub (linkFree : NoLinks files)
    (wrote : files.write (fragmentPath directory leaf) content = .ok after) (other : Command) :
    after.pathExists (fragmentPath directory other) = true ↔
      files.pathExists (fragmentPath directory other) = true ∨
        fragmentPath directory other = fragmentPath directory leaf := by
  constructor
  · exact found_before_stub linkFree wrote
  · rintro (there | same)
    · exact path_exists_grows (write_ok wrote).grows there
    · rw [same]
      exact path_exists_written wrote

/-- Where nothing was, a write adds a file. -/
theorem write_missing (missing : files.pathExists path = false) (wrote : files.write path content = .ok after) :
    ∃ location, after = files.put location (.file content) ∧ files.entry? location = none ∧
      after.look path = .ok (location, .file content) := by
  obtain ⟨location, rfl, free | ⟨old, held⟩⟩ := write_cases wrote
  · have absent := free_of_locate free
    have located := locate_filled (write_ok wrote).grows (locate_look_of_create_file free) rfl
      (entry_put_here absent (.file content)) nofun
    exact ⟨location, rfl, absent, look_iff.mpr ⟨false, located, fun _ _ => rfl⟩⟩
  · have there := path_exists_of_file_at (file_at_iff.mpr ⟨old, held⟩)
    rw [missing] at there
    cases there

/-! ## The steps of a run -/

theorem created_nothing (complete : ∀ leaf ∈ leaves, files.pathExists (fragmentPath directory leaf) = true) :
    CreatedExactly directory leaves [] files files where
  paths := by
    refine (List.eq_nil_iff_forall_not_mem.mpr fun path member => ?_).symm
    obtain ⟨⟨leaf, isLeaf, rfl⟩, missing⟩ := mem_absent_paths.mp member
    rw [complete leaf isLeaf] at missing
    cases missing
  stubs := nofun
  kept := .refl files
  others := fun _ _ held => .inl held

/-- A leaf with something at its path may be left out. -/
theorem CreatedExactly.cons_there (there : files.pathExists (fragmentPath directory leaf) = true)
    (rest : CreatedExactly directory leaves created files after) :
    CreatedExactly directory (leaf :: leaves) created files after where
  paths := by rw [rest.paths, absent_paths_there there]
  stubs := by
    intro path member
    have apart : fragmentPath directory leaf ≠ path := by
      rintro rfl
      obtain ⟨-, missing⟩ := mem_absent_paths.mp (rest.paths ▸ member)
      rw [there] at missing
      cases missing
    rw [StubAt, owner_later apart]
    exact rest.stubs path member
  kept := rest.kept
  others := rest.others

theorem absent_before (adds : Extends files after) (absent : after.entry? location = none) :
    files.entry? location = none := by
  cases held : files.entry? location with
  | none => rfl
  | some entry =>
    rw [adds.entries location entry held] at absent
    cases absent

/-- A stub is written for the first leaf, and then for the others as if it had been there. -/
theorem CreatedExactly.cons_written (linkFree : NoLinks files)
    (missing : files.pathExists (fragmentPath directory leaf) = false)
    (wrote : files.write (fragmentPath directory leaf) (stubOctets (fragmentPath directory leaf) leaf) = .ok between)
    (rest : CreatedExactly directory leaves later between after) :
    CreatedExactly directory (leaf :: leaves) (fragmentPath directory leaf :: later) files after := by
  obtain ⟨place, same, absent, looked⟩ := write_missing missing wrote
  have adds : Extends files between := by
    rw [same]
    exact extends_put_free absent _
  refine ⟨?_, ?_, adds.trans rest.kept, ?_⟩
  · rw [rest.paths, absent_paths_missing missing fun other _ => found_behind_stub linkFree wrote other]
  · intro path member
    rcases List.mem_cons.mp member with here | inLater
    · rw [here]
      exact ⟨leaf, place, owner_first leaf leaves, absent, look_extends rest.kept looked⟩
    · have apart : fragmentPath directory leaf ≠ path := by
        rintro rfl
        obtain ⟨-, missingLater⟩ := mem_absent_paths.mp (rest.paths ▸ inLater)
        rw [path_exists_written wrote] at missingLater
        cases missingLater
      obtain ⟨owner, location, owns, absentLater, lookedLater⟩ := rest.stubs path inLater
      exact ⟨owner, location, (owner_later apart).trans owns, absent_before adds absentLater, lookedLater⟩
  · intro location entry held
    obtain heldBetween | ⟨path, inLater, found⟩ | directory := rest.others location entry held
    · rw [same, entry_put] at heldBetween
      split at heldBetween
      · rename_i top
        rw [top, entry_top]
        exact .inl heldBetween
      split at heldBetween
      · rename_i here
        rw [here, ← Option.some.inj heldBetween]
        exact .inr (.inl ⟨_, List.mem_cons_self, look_extends rest.kept looked⟩)
      · exact .inl heldBetween
    · exact .inr (.inl ⟨path, List.mem_cons_of_mem _ inLater, found⟩)
    · exact .inr (.inr directory)

/-- The making of the source directory may be put before all if it brings nothing to the
paths of the leaves. -/
theorem CreatedExactly.of_made (rest : CreatedExactly directory leaves created made after) (adds : Extends files made)
    (only : OnlyOnTheWay files made directory)
    (unchanged : ∀ leaf ∈ leaves,
      made.pathExists (fragmentPath directory leaf) = files.pathExists (fragmentPath directory leaf)) :
    CreatedExactly directory leaves created files after where
  paths := by
    have same : ∀ path ∈ leaves.map (fragmentPath directory), (!made.pathExists path) = !files.pathExists path :=
      List.forall_mem_map.mpr fun leaf member => congrArg not (unchanged leaf member)
    rw [rest.paths, absentPaths, absentPaths, List.filter_congr same]
  stubs := by
    intro path member
    obtain ⟨owner, location, owns, absent, looked⟩ := rest.stubs path member
    exact ⟨owner, location, owns, absent_before adds absent, looked⟩
  kept := adds.trans rest.kept
  others := by
    intro location entry held
    obtain heldMade | new := rest.others location entry held
    · obtain old | ⟨isDirectory, onTheWay⟩ := only location entry heldMade
      · exact .inl old
      · exact .inr (.inr ⟨isDirectory, onTheWay.grows rest.kept.grows⟩)
    · exact .inr new

/-! ## Runs -/

/-- Where the source directory need not be made, the stubs created are exactly those
that are missing. -/
theorem created_exactly_settled (done : outcome (writeStubs directory leaves) workspace = (.ok created, ended))
    (linkFree : NoLinks workspace.files) (settled : Settled workspace.files directory) :
    CreatedExactly directory leaves created workspace.files ended.files := by
  induction leaves generalizing workspace created with
  | nil =>
    cases done
    exact created_nothing fun leaf member => absurd member List.not_mem_nil
  | cons leaf leaves ih =>
    obtain ⟨there, rest⟩ | ⟨missing, between, later, wrote, rest, rfl⟩ := write_stubs_ok_cons done
    · exact .cons_there there (ih rest linkFree settled)
    · obtain ⟨made, making, written⟩ := write_stub_ok wrote
      rw [settled.make_directories] at making
      cases making
      have settledBetween := settled.grows (write_ok written).grows
      exact .cons_written linkFree missing written (ih rest (linkFree.write written) settledBetween)

theorem write_stub_from_made (making : workspace.files.makeDirectories directory = (made, .ok ())) :
    outcome (writeStub directory path leaf) { workspace with files := made } =
      outcome (writeStub directory path leaf) workspace := by
  have settled : Settled made directory := by
    have done := (make_directories workspace.files directory).done (by rw [making])
    rwa [making] at done
  rw [outcome_write_stub, outcome_write_stub, making, settled.make_directories]

/-- If the source directory uncovers nothing, the stubs are written as if it were made
at once, unless there is nothing to do. -/
theorem write_stubs_from_made (done : outcome (writeStubs directory leaves) workspace = (.ok created, ended))
    (covered : ∀ leaf ∈ leaves, ¬ Uncovers workspace.files directory leaf) :
    (∀ leaf ∈ leaves, workspace.files.pathExists (fragmentPath directory leaf) = true) ∨
      ∃ made, workspace.files.makeDirectories directory = (made, .ok ()) ∧
        outcome (writeStubs directory leaves) { workspace with files := made } = (.ok created, ended) := by
  induction leaves generalizing created with
  | nil => exact .inl fun leaf member => absurd member List.not_mem_nil
  | cons leaf leaves ih =>
    obtain ⟨first, later⟩ := List.forall_mem_cons.mp covered
    obtain ⟨there, rest⟩ | ⟨missing, between, later, wrote, rest, rfl⟩ := write_stubs_ok_cons done
    · obtain complete | ⟨made, making, fromMade⟩ := ih rest later
      · exact .inl (List.forall_mem_cons.mpr ⟨there, complete⟩)
      · have adds := (make_directories workspace.files directory).adds
        rw [making] at adds
        refine .inr ⟨made, making, ?_⟩
        rw [outcome_write_stubs, if_pos (path_exists_grows adds.grows there), fromMade]
    · obtain ⟨made, making, -⟩ := write_stub_ok wrote
      have missingMade : ¬ made.pathExists (fragmentPath directory leaf) = true :=
        fun there => first ⟨missing, made, making, there⟩
      refine .inr ⟨made, making, ?_⟩
      rw [outcome_write_stubs, if_neg missingMade, outcome_bind, write_stub_from_made making, wrote]
      dsimp only
      rw [outcome_map, rest]
      rfl

theorem created_exactly (done : outcome (writeStubs directory leaves) workspace = (.ok created, ended))
    (linkFree : NoLinks workspace.files) (covered : ∀ leaf ∈ leaves, ¬ Uncovers workspace.files directory leaf) :
    CreatedExactly directory leaves created workspace.files ended.files := by
  obtain complete | ⟨made, making, fromMade⟩ := write_stubs_from_made done covered
  · rw [write_stubs_idle complete] at done
    cases done
    exact created_nothing complete
  · -- The run is the one from the files in which the source directory is made already.
    have result := make_directories workspace.files directory
    have only := make_directories_on_the_way linkFree directory
    have linkFreeMade := linkFree.make_directories directory
    rw [making] at result only linkFreeMade
    have exactly := created_exactly_settled fromMade linkFreeMade (result.done rfl)
    have unchanged : ∀ leaf ∈ leaves,
        made.pathExists (fragmentPath directory leaf) = workspace.files.pathExists (fragmentPath directory leaf) := by
      intro leaf member
      cases missing : workspace.files.pathExists (fragmentPath directory leaf) with
      | true => exact path_exists_grows result.adds.grows missing
      | false =>
        rw [Bool.eq_false_iff]
        exact fun there => covered leaf member ⟨missing, made, making, there⟩
    exact exactly.of_made result.adds only unchanged

/-- If the stubs created are those that were missing, the source directory has uncovered
nothing: what is at the path of an uncovered leaf is not new, or no stub. -/
theorem not_uncovers_of_created (done : outcome (writeStubs directory leaves) workspace = (.ok created, ended))
    (exactly : CreatedExactly directory leaves created workspace.files ended.files) (member : leaf ∈ leaves) :
    ¬ Uncovers workspace.files directory leaf := by
  rintro ⟨missing, made, making, there⟩
  have inCreated : fragmentPath directory leaf ∈ created := by
    rw [exactly.paths]
    exact mem_absent_paths.mpr ⟨⟨leaf, member, rfl⟩, missing⟩
  obtain ⟨owner, location, -, absent, looked⟩ := exactly.stubs _ inCreated
  generalize stubOctets (fragmentPath directory leaf) owner = content at looked
  obtain rfl | grows := write_stubs_start done
  · have complete := write_stubs_complete done leaf member
    rw [missing] at complete
    cases complete
  · rw [making] at grows
    obtain ⟨place, entry, lookedMade⟩ := path_exists_iff_look.mp there
    obtain ⟨later, lookedLater, kind⟩ := look_grows grows lookedMade
    rw [looked] at lookedLater
    cases lookedLater
    cases kind with
    | file old new =>
      have known := no_new_file_make workspace.files directory
      rw [making] at known
      rw [known _ _ (held_of_look lookedMade)] at absent
      cases absent

/-! ## Where nothing is uncovered -/

theorem not_uncovers_settled (settled : Settled files directory) (leaf : Command) :
    ¬ Uncovers files directory leaf := by
  rintro ⟨missing, made, making, there⟩
  rw [settled.make_directories] at making
  cases making
  rw [missing] at there
  cases there

/-- A source directory without steps to a parent is made empty. -/
theorem not_uncovers_forward (rooted : Rooted files) (forward : Forward directory) (leaf : Command) :
    ¬ Uncovers files directory leaf := by
  rintro ⟨missing, made, making, there⟩
  have plain := fragment_file_plain leaf
  have either : Settled files directory ∨ made.pathExists (fragmentPath directory leaf) = false :=
    missing_once_made rooted forward making (absolute_join plain) (fragment_skips directory leaf) plain.notHere
      plain.notParent
  obtain settled | missingMade := either
  · exact not_uncovers_settled settled leaf ⟨missing, made, making, there⟩
  · rw [missingMade] at there
    cases there

/-- When the stubs of a tree are written, something is at the path of each leaf, and to
write them again changes nothing. Where there are no links, the stubs are those of the
paths at which nothing was, and only directories on the way come with them, if and only
if no such path leads to something as soon as the source directory is made. -/
theorem stubs_created_exactly_unless_uncovered (root : Command) (directory : Path) (workspace after : Workspace)
    (created : List Path) (done : outcome (writeStubs directory root.leaves) workspace = (.ok created, after)) :
    (∀ leaf ∈ root.leaves, after.files.pathExists (fragmentPath directory leaf) = true) ∧
    outcome (writeStubs directory root.leaves) after = (.ok [], after) ∧
    (NoLinks workspace.files →
      (CreatedExactly directory root.leaves created workspace.files after.files ↔
        ∀ leaf ∈ root.leaves, ¬ Uncovers workspace.files directory leaf)) := by
  have complete := write_stubs_complete done
  refine ⟨complete, write_stubs_idle complete, fun linkFree => ⟨?_, ?_⟩⟩
  · intro exactly leaf member
    exact not_uncovers_of_created done exactly member
  · intro covered
    exact created_exactly done linkFree covered

/-- Two commands of one function, and a third between them. -/
def resetDefinition : Definition :=
  { name := "git", commands := [{ name := "re-set" }, { name := "add" }, { name := "re_set" }] }

/-- How the writing of their stubs ends where there was nothing. -/
def resetEnd : Except RunError (List Path) × Workspace :=
  outcome (writeStubs ⟨"src/cmd"⟩ (Command.root resetDefinition).leaves) { files := {} }

/-- The two have one stub, which names the first of them. -/
theorem shared_stub_created_once : ∃ created,
    resetEnd = (.ok created, resetEnd.2) ∧
    outcome (writeStubs ⟨"src/cmd"⟩ (Command.root resetDefinition).leaves) resetEnd.2 = (.ok [], resetEnd.2) ∧
    created = [⟨"src/cmd/git_re_set_command.sh"⟩, ⟨"src/cmd/git_add_command.sh"⟩] ∧
    CreatedExactly ⟨"src/cmd"⟩ (Command.root resetDefinition).leaves created {} resetEnd.2.files := by
  have wrote : resetEnd.1.toOption = some [⟨"src/cmd/git_re_set_command.sh"⟩, ⟨"src/cmd/git_add_command.sh"⟩] := by
    decide +kernel
  have ended := outcome_of_to_option wrote
  have forward : Forward ⟨"src/cmd"⟩ := by
    unfold Forward
    decide +kernel
  obtain ⟨-, again, exactly⟩ :=
    stubs_created_exactly_unless_uncovered (Command.root resetDefinition) ⟨"src/cmd"⟩ { files := {} } resetEnd.2 _ ended
  refine ⟨_, ended, again, rfl, (exactly no_links_empty).mpr ?_⟩
  exact fun leaf member => not_uncovers_forward rooted_empty forward leaf

def ownFragment : Entry :=
  .file (Utf8.encode "mine\n".toList)

/-- A directory with the fragments of two commands in it. -/
def ownFragments : FileSystem :=
  ((FileSystem.put {} ["b"] .directory).put ["b", "tool_get_command.sh"] ownFragment).put
    ["b", "tool_put_command.sh"] ownFragment

def toolDefinition : Definition :=
  { name := "tool", commands := [{ name := "get" }, { name := "put" }] }

/-- How the writing of stubs ends in the same directory, named by way of one that is
missing. -/
def detourEnd : Except RunError (List Path) × Workspace :=
  outcome (writeStubs ⟨"a/../b"⟩ (Command.root toolDefinition).leaves) { files := ownFragments }

/-- Of two fragments that are there, one is replaced by a stub and the other is kept. -/
theorem detour_replaces_fragment :
    NoLinks ownFragments ∧ detourEnd.1.toOption = some [⟨"a/../b/tool_get_command.sh"⟩] ∧
    detourEnd.2.files.entry? ["b", "tool_get_command.sh"] ≠ ownFragments.entry? ["b", "tool_get_command.sh"] ∧
    detourEnd.2.files.entry? ["b", "tool_put_command.sh"] = ownFragments.entry? ["b", "tool_put_command.sh"] ∧
    ∀ created,
      ¬ CreatedExactly ⟨"a/../b"⟩ (Command.root toolDefinition).leaves created ownFragments detourEnd.2.files := by
  have replaced : detourEnd.2.files.entry? ["b", "tool_get_command.sh"] ≠
      ownFragments.entry? ["b", "tool_get_command.sh"] := by
    decide +kernel
  have linkFree : NoLinks ownFragments := by
    have notLink : ∀ target, ownFragment ≠ .link target := fun target same => nomatch same
    have inside : NoLinks (FileSystem.put {} ["b"] .directory) := no_links_empty.put nofun
    exact (inside.put notLink).put notLink
  refine ⟨linkFree, by decide +kernel, replaced, by decide +kernel, fun created exactly => replaced ?_⟩
  have held : ownFragments.entry? ["b", "tool_get_command.sh"] = some ownFragment := rfl
  rw [held]
  exact exactly.kept.entries _ _ held

end CommandPlan.StubCreation
