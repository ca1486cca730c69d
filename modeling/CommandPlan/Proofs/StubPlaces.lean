import CommandPlan.Proofs.FragmentNames
import CommandPlan.Proofs.ScaffoldEffects

/-! Where stubs are written. The file of a fragment is one ordinary name, whatever the
commands are called, so its path is the source directory and that name behind it.
Without links a path leads where its steps say, and what is written for a stub lies
directly in the source directory. -/
namespace CommandPlan.StubPlaces
open FileSystem FileGrowth PathWalk PathTarget FileChanges PathJoin FragmentNames RunEffects ScaffoldEffects

variable {files before middle after : FileSystem} {directory path : Path} {name last : String} {content : List UInt8}
variable {start place location : Location} {steps : List String} {entry : Entry} {target : Target}
variable {purpose : Purpose} {links : Nat} {slash : Bool} {names : List String} {workspace : Workspace}

/-! ## Files without links -/

/-- No entry is a link. -/
def NoLinks (files : FileSystem) : Prop :=
  ∀ location target, files.entry? location ≠ some (.link target)

theorem no_links_empty : NoLinks {} := by
  intro location target held
  by_cases top : location = []
  · rw [top, entry_top] at held
    cases held
  · have absent : FileSystem.entry? {} location = none := if_neg top
    rw [absent] at held
    cases held

theorem NoLinks.put (linkFree : NoLinks files) (notLink : ∀ target, entry ≠ .link target) :
    NoLinks (files.put location entry) := by
  intro other target held
  rw [entry_put] at held
  split at held
  · cases held
  split at held
  · exact notLink target (Option.some.inj held)
  · exact linkFree other target held

theorem NoLinks.make_directory (linkFree : NoLinks files) (made : files.makeDirectory path = .ok after) : NoLinks after := by
  obtain ⟨location, slash, located, rfl⟩ := make_directory_cases made
  exact linkFree.put nofun

theorem NoLinks.make_directories (linkFree : NoLinks files) (path : Path) : NoLinks (files.makeDirectories path).1 :=
  make_directories_keep make_directory linkFree path

theorem NoLinks.write (linkFree : NoLinks files) (wrote : files.write path content = .ok after) : NoLinks after := by
  obtain ⟨location, rfl, -⟩ := write_cases wrote
  exact linkFree.put nofun

/-- Where there are no links, a path leads where one walk arrives. -/
theorem NoLinks.arrives (linkFree : NoLinks files) (leads : Leads files purpose links slash start steps target) :
    ∃ place ahead, Passes files start steps place ahead ∧
      Arrives files (purpose.followsLast slash) place ahead target.location target.entry := by
  cases leads with
  | arrived arrived => exact walk_arrived_iff.mp arrived
  | through met on =>
    obtain ⟨name, passes, meets⟩ := walk_link_iff.mp met
    exact absurd meets.held (linkFree _ _)

/-! ## The way to a name in a directory -/

/-- A walk that stops in front of its last step has come through all others. -/
theorem passes_to_last (plain : PlainName name) (passes : Passes files start (steps ++ [name]) place [last]) :
    last = name ∧ Passes files start steps place [] := by
  induction steps generalizing start with
  | nil =>
    cases passes with
    | stay => exact ⟨rfl, .stay _ _⟩
    | here on => exact absurd rfl plain.notHere
    | parent on => exact absurd rfl plain.notParent
    | into looked held on => cases on
  | cons step steps ih =>
    generalize whole : step :: steps ++ [name] = all at passes
    cases passes with
    | stay => cases steps <;> cases whole
    | here on =>
      cases whole
      exact (ih on).imp id .here
    | parent on =>
      cases whole
      exact (ih on).imp id .parent
    | into looked held on =>
      cases whole
      exact (ih on).imp id (.into looked held)

/-- The text of a directory is the beginning of every path in it. -/
theorem join_text (directory : Path) (plain : PlainName name) : ∃ behind, (directory.join ⟨name⟩).text = directory.text ++ behind := by
  have relative := plain_is_relative plain
  by_cases empty : directory.text = ""
  · exact ⟨name, by rw [Path.join, if_pos (by simp [empty]), empty, String.empty_append]⟩
  · rw [Path.join, if_neg (by simp [relative, empty])]
    split
    · exact ⟨name, rfl⟩
    · exact ⟨"/" ++ name, by rw [String.append_assoc]⟩

theorem usable_of_join (plain : PlainName name) (usable : Usable (directory.join ⟨name⟩))
    (filled : directory.text.isEmpty = false) : Usable directory := by
  obtain ⟨behind, text⟩ := join_text directory plain
  obtain ⟨noNul, -, short⟩ := usable
  rw [text] at noNul short
  refine ⟨?_, filled, fun long => short ?_⟩
  · rw [String.toList_append] at noNul
    simp at noNul ⊢
    exact noNul.1
  · rw [String.utf8ByteSize_append]
    omega

/-- Where a directory is. The empty path stands for the one where paths start. -/
def LiesAt (files : FileSystem) (directory : Path) (place : Location) : Prop :=
  (directory.text = "" ∧ place = files.workingDirectory) ∨ files.look directory = .ok (place, .directory)

theorem LiesAt.grows (grows : Grows before after) (lies : LiesAt before directory place) :
    LiesAt after directory place := by
  obtain ⟨empty, here⟩ | looked := lies
  · exact .inl ⟨empty, by rw [here, grows.workingDirectory]⟩
  · obtain ⟨later, lookedLater, kind⟩ := look_grows grows looked
    cases kind
    exact .inr lookedLater

/-- Where a walk through all its steps comes to, there the directory is. -/
theorem lies_at_of_passes (usable : directory.text.isEmpty = false → Usable directory)
    (passes : Passes files (if directory.isAbsolute then [] else files.workingDirectory) directory.steps place []) :
    LiesAt files directory place := by
  by_cases empty : directory.text = ""
  · have noSteps : directory.steps = [] := by simp [Path.steps, empty, Path.splitText]
    have relative : directory.isAbsolute = false := by simp [Path.isAbsolute, empty]
    rw [noSteps, relative] at passes
    cases passes
    exact .inl ⟨empty, rfl⟩
  · have found : files.locate .look directory = .ok ⟨place, some .directory, directory.endsWithSlash⟩ :=
      locate_iff.mpr ⟨usable (by simpa using empty), .arrived (walk_arrived_iff.mpr ⟨place, [], passes, .done⟩)⟩
    exact .inr (look_iff.mpr ⟨_, found, fun content isFile => by cases isFile⟩)

/-- A place in a directory that is no directory itself is one step below it. -/
theorem locate_in_directory (linkFree : NoLinks files) (plain : PlainName name)
    (located : files.locate purpose (directory.join ⟨name⟩) = .ok target) (notDirectory : target.entry ≠ some .directory) :
    ∃ place, LiesAt files directory place ∧ target.location = place ++ [name] := by
  obtain ⟨usable, leads⟩ := locate_iff.mp located
  obtain ⟨place, ahead, passes, arrives⟩ := linkFree.arrives leads
  obtain ⟨last, rfl, spelled⟩ : ∃ last, ahead = [last] ∧ target.location = place ++ [last] := by
    generalize target.location = location, target.entry = entry at arrives notDirectory
    cases arrives with
    | done => exact absurd rfl notDirectory
    | free looked held => exact ⟨_, rfl, rfl⟩
    | file looked content held => exact ⟨_, rfl, rfl⟩
    | link looked target held stops => exact ⟨_, rfl, rfl⟩
  rw [steps_join plain, absolute_join plain] at passes
  obtain ⟨same, through⟩ := passes_to_last plain passes
  exact ⟨place, lies_at_of_passes (usable_of_join plain usable) through, by rw [spelled, same]⟩

/-- So is a file that is written there. -/
theorem write_in_directory (linkFree : NoLinks files) (plain : PlainName name)
    (wrote : files.write (directory.join ⟨name⟩) content = .ok after) :
    ∃ place, LiesAt files directory place ∧ after = files.put (place ++ [name]) (.file content) := by
  obtain ⟨location, rfl, free | ⟨old, held⟩⟩ := write_cases wrote
  · obtain ⟨place, lies, rfl⟩ := locate_in_directory linkFree plain free nofun
    exact ⟨place, lies, rfl⟩
  · obtain ⟨place, lies, rfl⟩ := locate_in_directory linkFree plain held nofun
    exact ⟨place, lies, rfl⟩

/-! ## What is written -/

/-- Every file is one from before, or lies directly in a directory under one of some
names. -/
structure Confined (directory : Path) (names : List String) (before after : FileSystem) : Prop where
  grows : Grows before after
  linkFree : NoLinks after
  files : ∀ location content, after.entry? location = some (.file content) →
    before.entry? location = some (.file content) ∨
      ∃ place, ∃ name ∈ names, LiesAt after directory place ∧ location = place ++ [name]

theorem Confined.trans (left : Confined directory names before middle) (right : Confined directory names middle after) :
    Confined directory names before after := by
  refine ⟨left.grows.trans right.grows, right.linkFree, fun location content held => ?_⟩
  obtain between | placed := right.files location content held
  · obtain kept | ⟨place, name, member, lies, spelled⟩ := left.files location content between
    · exact .inl kept
    · exact .inr ⟨place, name, member, lies.grows right.grows, spelled⟩
  · exact .inr placed

/-- No file is there that was not there before with its content. -/
def NoNewFile (before after : FileSystem) : Prop :=
  ∀ location content, after.entry? location = some (.file content) → before.entry? location = some (.file content)

theorem NoNewFile.make_directory (old : NoNewFile before files) (made : files.makeDirectory path = .ok after) :
    NoNewFile before after := by
  obtain ⟨place, slash, located, rfl⟩ := make_directory_cases made
  intro location content held
  rw [entry_put] at held
  split at held
  · cases held
  split at held
  · cases held
  · exact old location content held

theorem no_new_file_make (files : FileSystem) (path : Path) : NoNewFile files (files.makeDirectories path).1 :=
  make_directories_keep NoNewFile.make_directory (fun _ _ held => held) path

theorem confined_make (linkFree : NoLinks files) (path directory : Path) (names : List String) :
    Confined directory names files (files.makeDirectories path).1 where
  grows := (make_directories files path).adds.grows
  linkFree := linkFree.make_directories path
  files location content held := .inl (no_new_file_make files path location content held)

theorem confined_write (linkFree : NoLinks files) (plain : PlainName name) (member : name ∈ names)
    (wrote : files.write (directory.join ⟨name⟩) content = .ok after) : Confined directory names files after := by
  have grows := (write_ok wrote).grows
  have linkFreeAfter := linkFree.write wrote
  obtain ⟨place, lies, rfl⟩ := write_in_directory linkFree plain wrote
  refine ⟨grows, linkFreeAfter, fun location found held => ?_⟩
  rw [entry_put] at held
  split at held
  · cases held
  split at held
  · rename_i here
    exact .inr ⟨place, name, member, lies.grows grows, here⟩
  · exact .inl held

/-- A run is confined if it is where there are no links. -/
def ConfinedWithoutLinks (directory : Path) (names : List String) (before after : FileSystem) : Prop :=
  NoLinks before → Confined directory names before after

theorem steady_confined (directory : Path) (names : List String) : Steady (ConfinedWithoutLinks directory names) where
  refl files linkFree := ⟨.refl files, linkFree, fun _ _ held => .inl held⟩
  trans first second linkFree := (first linkFree).trans (second (first linkFree).linkFree)

theorem write_stub_confined (leaf : Command) (member : leaf.fragmentFile ∈ names) :
    Within (ConfinedWithoutLinks directory names) (writeStub directory (fragmentPath directory leaf) leaf) := by
  intro workspace linkFree
  have made := confined_make linkFree directory directory names
  rw [outcome_write_stub]
  generalize workspace.files.makeDirectories directory = ended at made ⊢
  obtain ⟨between, result⟩ := ended
  cases result with
  | error error => exact made
  | ok =>
    cases wrote : between.write (fragmentPath directory leaf) (stubOctets (fragmentPath directory leaf) leaf) with
    | error error => simpa only [wrote] using made
    | ok written =>
      simpa only [wrote] using made.trans (confined_write made.linkFree (fragment_file_plain leaf) member wrote)

theorem write_stubs_confined (directory : Path) (leaves : List Command) :
    Within (ConfinedWithoutLinks directory (leaves.map (·.fragmentFile))) (writeStubs directory leaves) :=
  write_stubs_within_each (steady_confined _ _) fun leaf member =>
    write_stub_confined leaf (List.mem_map.mpr ⟨leaf, member, rfl⟩)

/-! ## Names of fragments -/

/-- One ordinary name that ends like those of fragments. -/
structure FragmentName (name : String) : Prop extends PlainName name where
  noNul : Char.ofNat 0 ∉ name.toList
  suffix : Command.fragmentSuffix.toList <:+ name.toList

theorem fragment_name (command : Command) : FragmentName command.fragmentFile :=
  { fragment_file_plain command with
    noNul := fragment_file_no_nul command
    suffix := fragment_file_suffix command }

/-- However the commands of a definition are called, the file of each is one ordinary
name, and its path is the source directory and that name. Where there are no links,
whatever is written for their stubs lies directly in the source directory. -/
theorem stubs_stay_in_directory (parent : Option String) (definition : Definition) :
    (∀ node ∈ (Command.ofDefinition parent definition).nodes,
      FragmentName node.fragmentFile ∧ ∀ directory : Path,
        (fragmentPath directory node).components = directory.components ++ [.name node.fragmentFile] ∧
        (fragmentPath directory node).isAbsolute = directory.isAbsolute) ∧
    ∀ (directory : Path) (workspace after : Workspace), NoLinks workspace.files →
      (outcome (writeStubs directory (Command.ofDefinition parent definition).leaves) workspace).2 = after →
      after.files.unspelled = workspace.files.unspelled ∧
      ∀ location content, after.files.entry? location = some (.file content) →
        workspace.files.entry? location = some (.file content) ∨
          ∃ place, ∃ leaf ∈ (Command.ofDefinition parent definition).leaves,
            LiesAt after.files directory place ∧ location = place ++ [leaf.fragmentFile] := by
  constructor
  · intro node _
    refine ⟨fragment_name node, fun directory => ⟨?_, ?_⟩⟩
    · exact components_join (fragment_file_plain node)
    · exact absolute_join (fragment_file_plain node)
  · rintro directory workspace after linkFree rfl
    have confined := write_stubs_confined directory (Command.ofDefinition parent definition).leaves workspace linkFree
    refine ⟨confined.grows.unspelled, fun location content held => ?_⟩
    obtain kept | ⟨place, name, member, lies, spelled⟩ := confined.files location content held
    · exact .inl kept
    · obtain ⟨leaf, isLeaf, rfl⟩ := List.mem_map.mp member
      exact .inr ⟨place, leaf, isLeaf, lies, spelled⟩

/-- Commands that are called like ways out of a directory, and one that is not called
anything. -/
def waywardDefinition : Definition :=
  { name := "/etc/\x00..", commands := [{ name := "../../b\n" }, { name := "" }] }

def waywardFiles : FileSystem :=
  FileSystem.put {} ["out"] .directory

/-- What there is when the stubs of these commands are written into the directory, which
is named by a detour. -/
def waywardEnd : Workspace :=
  (outcome (writeStubs ⟨"in/../out"⟩ (Command.ofDefinition (some "..") waywardDefinition).leaves)
    { files := waywardFiles }).2

theorem wayward_stubs_stay :
    FragmentName (Command.ofDefinition (some "..") waywardDefinition).fragmentFile ∧
    fileAt? waywardEnd.files ⟨"out/etc_b_command.sh"⟩ = some ["out", "etc_b_command.sh"] ∧
    ∃ place, ∃ leaf ∈ (Command.ofDefinition (some "..") waywardDefinition).leaves,
      LiesAt waywardEnd.files ⟨"in/../out"⟩ place ∧ ["out", "etc_b_command.sh"] = place ++ [leaf.fragmentFile] := by
  obtain ⟨names, stubs⟩ := stubs_stay_in_directory (some "..") waywardDefinition
  have linkFree : NoLinks waywardFiles := no_links_empty.put nofun
  have written : fileAt? waywardEnd.files ⟨"out/etc_b_command.sh"⟩ = some ["out", "etc_b_command.sh"] := by
    decide +kernel
  have new : waywardFiles.entry? ["out", "etc_b_command.sh"] = none := by decide +kernel
  obtain ⟨content, held, -⟩ := read_of_file_at written
  refine ⟨(names _ List.mem_cons_self).1, written, ?_⟩
  obtain ⟨-, placed⟩ := stubs ⟨"in/../out"⟩ { files := waywardFiles } waywardEnd linkFree rfl
  obtain old | placed := placed _ content held
  · rw [new] at old
    cases old
  · exact placed

end CommandPlan.StubPlaces
