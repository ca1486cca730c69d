import CommandPlan.Proofs.FileChanges

/-! File systems in which every entry lies in a directory. Making and writing keep
them so, because a walk comes to a free place only from a directory. And what is
made new in such a file system is empty: nothing can have been below it. -/
namespace CommandPlan.DirectoryTree
open FileSystem FileGrowth PathWalk PathTarget FileChanges

/-- Every entry lies in a directory, and relative paths start in one. -/
structure Rooted (files : FileSystem) : Prop where
  parents : ∀ location name entry, files.entry? (location ++ [name]) = some entry →
    files.entry? location = some .directory
  start : files.entry? files.workingDirectory = some .directory

variable {files before after : FileSystem} {start place location directory : Location}
variable {steps ahead rest : List String} {entry : Option Entry} {followLast slash : Bool} {links : Nat}
variable {purpose : Purpose} {target : Target} {path linked : Path} {name : String}

/-- One with nothing in it is such a file system. -/
theorem rooted_empty : Rooted {} := by
  refine ⟨fun location name entry held => ?_, rfl⟩
  unfold entry? at held
  rw [if_neg (by simp)] at held
  cases held

theorem Rooted.drop_last (rooted : Rooted files) (held : files.entry? location = some .directory) :
    files.entry? location.dropLast = some .directory := by
  obtain rfl | ⟨above, name, rfl⟩ := List.eq_nil_or_concat location
  · exact held
  · rw [List.concat_eq_append] at held ⊢
    rw [List.dropLast_concat]
    exact rooted.parents above name _ held

theorem Rooted.passes (rooted : Rooted files) (held : files.entry? start = some .directory)
    (passes : Passes files start steps place ahead) : files.entry? place = some .directory := by
  induction passes with
  | stay => exact held
  | here on ih => exact ih held
  | parent on ih => exact ih (rooted.drop_last held)
  | into looked below on ih => exact ih below

/-- A walk comes to a free place from the directory that it is in. -/
theorem Rooted.walk_free (rooted : Rooted files) (held : files.entry? start = some .directory)
    (arrived : files.walk followLast start steps = .arrived location none) :
    ∃ place name, location = place ++ [name] ∧ files.entry? place = some .directory := by
  obtain ⟨place, ahead, passes, arrives⟩ := walk_arrived_iff.mp arrived
  cases arrives with
  | @free name looked free => exact ⟨place, name, rfl, rooted.passes held passes⟩

theorem Rooted.walk_link (rooted : Rooted files) (held : files.entry? start = some .directory)
    (met : files.walk followLast start steps = .link directory linked rest) :
    files.entry? directory = some .directory := by
  obtain ⟨name, passes, -⟩ := walk_link_iff.mp met
  exact rooted.passes held passes

theorem Rooted.leads_free (rooted : Rooted files) (held : files.entry? start = some .directory)
    (leads : Leads files purpose links slash start steps target) (free : target.entry = none) :
    ∃ place name, target.location = place ++ [name] ∧ files.entry? place = some .directory := by
  induction leads with
  | arrived arrived =>
    cases free
    exact rooted.walk_free held arrived
  | @through links slash start directory steps rest linked target met on ih =>
    refine ih ?_ free
    split
    · exact entry_top files
    · exact rooted.walk_link held met

theorem Rooted.locate_free (rooted : Rooted files)
    (located : files.locate purpose path = .ok ⟨location, none, slash⟩) :
    ∃ place name, location = place ++ [name] ∧ files.entry? place = some .directory := by
  refine rooted.leads_free ?_ (locate_iff.mp located).2 rfl
  split
  · exact entry_top files
  · exact rooted.start

/-! ## What keeps the entries in directories -/

theorem Rooted.put {fresh : Entry} (rooted : Rooted files) (grows : Grows files (files.put location fresh))
    (inside : ∀ place name, location = place ++ [name] → files.entry? place = some .directory) :
    Rooted (files.put location fresh) := by
  refine ⟨fun place name entry held => grows.directory ?_, ?_⟩
  · rw [entry_put] at held
    split at held
    · simp at *
    split at held
    · rename_i same
      exact inside place name same.symm
    · exact rooted.parents place name entry held
  · rw [grows.workingDirectory]
    exact grows.directory rooted.start

theorem Rooted.put_free {fresh : Entry} (rooted : Rooted files)
    (located : files.locate purpose path = .ok ⟨location, none, slash⟩) : Rooted (files.put location fresh) := by
  refine rooted.put (extends_put_free (free_of_locate located) fresh).grows fun place name split => ?_
  obtain ⟨between, last, ends, inside⟩ := rooted.locate_free located
  rw [ends] at split
  rw [← (List.append_inj' split rfl).1]
  exact inside

theorem Rooted.write {content : List UInt8} (rooted : Rooted files)
    (wrote : files.write path content = .ok after) : Rooted after := by
  obtain ⟨location, rfl, free | ⟨old, held⟩⟩ := write_cases wrote
  · exact rooted.put_free free
  · refine rooted.put (write_ok wrote).grows fun place name split => ?_
    obtain top | entry := (locate_iff.mp held).2.entry_held
    · cases top
    · exact rooted.parents place name _ (split ▸ entry)

theorem Rooted.make_directory (rooted : Rooted files) (made : files.makeDirectory path = .ok after) :
    Rooted after := by
  obtain ⟨location, slash, located, rfl⟩ := make_directory_cases made
  exact rooted.put_free located

theorem Rooted.make_directories_within (rooted : Rooted files) (fuel : Nat) (path : Path) :
    Rooted (files.makeDirectoriesWithin fuel path).1 :=
  make_directories_within_keep make_directory rooted fuel path

theorem Rooted.make_directories (rooted : Rooted files) (path : Path) : Rooted (files.makeDirectories path).1 :=
  rooted.make_directories_within _ path

end CommandPlan.DirectoryTree
