import CommandPlan.Proofs.DirectoryNames
import CommandPlan.Proofs.FragmentNames
import CommandPlan.Proofs.LossyDecoding
import CommandPlan.Proofs.ValidationReport
import Mathlib.Data.List.Nodup

/-! The scan for orphans parts the fragment files of the source directory. The path
of a leaf's fragment and the path of a listed file are built independently, both by
joining one plain name to the same directory, so they spell one path exactly if the
names are the same. The listing has no name twice, and so has the report. A name is
listed by its octets, and where they are no text the scan passes over it. -/
namespace CommandPlan.OrphanPartition
open FileSystem FileGrowth PathJoin PathTarget FragmentNames DirectoryNames OrphanScan RunEffects ScaffoldEffects ValidationReport
open LossyDecoding TextEncoding

/-- An entry of a directory that is the file of a fragment: the octets of its name are
those of a text, which ends as the names of fragments do. -/
structure FragmentFile (files : FileSystem) (place : Location) (octets : List UInt8) (name : String) : Prop where
  isFile : ∃ content, (octets, .file content) ∈ files.names place
  spelled : Utf8.encode name.toList = octets
  suffixed : Command.fragmentSuffix.toList <:+ name.toList

/-- The fragment files of a directory, told apart by the expected paths: each is
expected or reported once, and not both; nothing else that the directory holds is
reported, and what is reported is in strict order. -/
structure Partitioned (files : FileSystem) (directory : Path) (place : Location)
    (expected reported : List Path) : Prop where
  one_side : ∀ octets name, FragmentFile files place octets name →
    ((∃ other ∈ expected, (directory.join ⟨name⟩).same other = true) ∧
        reported.countP (directory.join ⟨name⟩).same = 0) ∨
      ((∀ other ∈ expected, (directory.join ⟨name⟩).same other = false) ∧
        reported.countP (directory.join ⟨name⟩).same = 1)
  nothing_else : ∀ path ∈ reported, ∃ octets name, FragmentFile files place octets name ∧ path = directory.join ⟨name⟩
  ordered : reported.Pairwise fun first second => first.lt second = true

variable {files after : FileSystem} {directory path other : Path} {place : Location} {name : String}
variable {expected paths : List Path} {octets : List UInt8}

/-! ## Paths by their components -/

theorem same_iff : path.same other = true ↔ path.components = other.components := by
  simp [Path.same]

/-- What does not come behind and is not the same comes before. -/
theorem lt_of_not_behind (notBehind : other.lt path = false) (differ : path.components ≠ other.components) :
    path.lt other = true := by
  obtain before | same | behind := lt_components_trichotomy path.components other.components
  · exact before
  · exact absurd same differ
  · rw [Path.lt, behind] at notBehind
    cases notBehind

theorem count_same (path : Path) (paths : List Path) :
    paths.countP path.same = (paths.map Path.components).count path.components := by
  rw [List.count, List.countP_map]
  refine List.countP_congr fun other _ => ?_
  rw [same_iff, Function.comp_apply, beq_iff_eq, eq_comm]

/-- Among paths that differ, one that is there is there once. -/
theorem count_same_of_mem (apart : (paths.map Path.components).Nodup) (member : path ∈ paths) :
    paths.countP path.same = 1 := by
  rw [count_same]
  exact List.count_eq_one_of_mem apart (List.mem_map_of_mem member)

theorem count_same_eq_zero_iff : paths.countP path.same = 0 ↔ ∀ other ∈ paths, path.same other = false := by
  rw [List.countP_eq_zero]
  exact forall₂_congr fun other _ => Bool.eq_false_iff.symm

/-! ## The report -/

theorem fragment_name_iff : fragmentName? octets = some name ↔
    Utf8.encode name.toList = octets ∧ Command.fragmentSuffix.toList <:+ name.toList := by
  rw [fragmentName?, Option.filter_eq_some_iff, Option.map_eq_some_iff, isFragmentName, List.isSuffixOf_iff_suffix]
  refine and_congr_left fun _ => ?_
  constructor
  · rintro ⟨text, decoded, rfl⟩
    rw [String.toList_ofList]
    exact decode_eq_some_iff.mp decoded
  · rintro rfl
    exact ⟨name.toList, decode_encode _, String.ofList_toList⟩

/-- The file of a fragment is where a path can lead to. -/
theorem FragmentFile.held (fragment : FragmentFile files place octets name) :
    ∃ content, files.entry? (place ++ [name]) = some (.file content) := by
  obtain ⟨content, member⟩ := fragment.isFile
  rw [← fragment.spelled] at member
  exact ⟨content, mem_names_encode_iff.mp member⟩

/-- An orphan is a fragment file of the directory that nobody expects. -/
theorem mem_orphans_of_look (looked : files.look directory = .ok (place, .directory)) :
    path ∈ orphans files directory expected ↔ ∃ octets name, FragmentFile files place octets name ∧
      path = directory.join ⟨name⟩ ∧ ∀ other ∈ expected, ¬ path.same other = true := by
  rw [mem_orphans_iff, Orphan, list_of_look looked]
  constructor
  · rintro ⟨entries, octets, name, content, listed, member, named, rest⟩
    cases listed
    obtain ⟨spelled, suffixed⟩ := fragment_name_iff.mp named
    exact ⟨octets, name, ⟨⟨content, member⟩, spelled, suffixed⟩, rest⟩
  · rintro ⟨octets, name, ⟨⟨content, member⟩, spelled, suffixed⟩, rest⟩
    exact ⟨_, octets, name, content, rfl, member, fragment_name_iff.mpr ⟨spelled, suffixed⟩, rest⟩

/-- No two orphans are at one path. -/
theorem orphans_apart (expected : List Path) (plain : PlainNames files)
    (looked : files.look directory = .ok (place, .directory)) :
    ((orphans files directory expected).map Path.components).Nodup := by
  rw [orphans, if_pos (is_directory_iff_look.mpr ⟨place, looked⟩), list_of_look looked]
  dsimp only
  rw [((List.mergeSort_perm _ _).map _).nodup_iff]
  refine List.Nodup.sublist (List.filter_sublist.map _) ?_
  rw [List.Nodup, List.pairwise_map, List.pairwise_filterMap]
  have listed := List.pairwise_map.mp (names_nodup files place)
  have plainFile : ∀ {octets entry path}, (octets, entry) ∈ files.names place →
      fragmentFile? directory (octets, entry) = some path →
        ∃ name, PlainName name ∧ Utf8.encode name.toList = octets ∧ path = directory.join ⟨name⟩ := by
    intro octets entry path member found
    obtain ⟨name, content, rfl, named, rfl⟩ := fragment_file_iff.mp found
    obtain ⟨spelled, suffixed⟩ := fragment_name_iff.mp named
    obtain ⟨held, there⟩ := FragmentFile.held ⟨⟨content, member⟩, spelled, suffixed⟩
    exact ⟨name, plain place name _ there, spelled, rfl⟩
  refine listed.imp_of_mem fun {first second} firstMember secondMember differ firstPath found secondPath also same => ?_
  obtain ⟨firstName, firstPlain, firstSpelled, rfl⟩ := plainFile firstMember found
  obtain ⟨secondName, secondPlain, secondSpelled, rfl⟩ := plainFile secondMember also
  have sameName : firstName = secondName := (same_join_iff firstPlain secondPlain).mp (same_iff.mpr same)
  exact differ (by rw [← firstSpelled, ← secondSpelled, sameName])

theorem orphans_ordered (plain : PlainNames files) (looked : files.look directory = .ok (place, .directory)) :
    (orphans files directory expected).Pairwise fun first second => first.lt second = true := by
  have apart := List.pairwise_map.mp (orphans_apart expected plain looked)
  exact (orphans_sorted.and apart).imp fun both => lt_of_not_behind both.1 both.2

theorem orphans_partition (plain : PlainNames files) (looked : files.look directory = .ok (place, .directory)) :
    Partitioned files directory place expected (orphans files directory expected) where
  one_side octets name fragment := by
    by_cases owned : ∃ other ∈ expected, (directory.join ⟨name⟩).same other = true
    · refine .inl ⟨owned, count_same_eq_zero_iff.mpr fun reported member => ?_⟩
      obtain ⟨other, isExpected, same⟩ := owned
      obtain ⟨_, _, -, -, unexpected⟩ := (mem_orphans_of_look looked).mp member
      rw [Bool.eq_false_iff]
      intro sameReported
      -- What is reported differs from everything expected, the owner's path included.
      exact unexpected other isExpected (same_iff.mpr ((same_iff.mp sameReported).symm.trans (same_iff.mp same)))
    · have unexpected : ∀ other ∈ expected, ¬ (directory.join ⟨name⟩).same other = true :=
        fun other member same => owned ⟨other, member, same⟩
      have reported : directory.join ⟨name⟩ ∈ orphans files directory expected :=
        (mem_orphans_of_look looked).mpr ⟨octets, name, fragment, rfl, unexpected⟩
      refine .inr ⟨fun other member => Bool.eq_false_iff.mpr (unexpected other member), ?_⟩
      exact count_same_of_mem (orphans_apart _ plain looked) reported
  nothing_else path member := by
    obtain ⟨octets, name, fragment, spelled, -⟩ := (mem_orphans_of_look looked).mp member
    exact ⟨octets, name, fragment, spelled⟩
  ordered := orphans_ordered plain looked

/-! ## Names that are no texts -/

theorem unspelled_passed_over (files : FileSystem) (directory : Path) (place : Location) :
    (files.unspelledNames place).filterMap (fragmentFile? directory) = [] := by
  rw [List.filterMap_eq_nil_iff]
  rintro ⟨octets, entry⟩ member
  have noText := files.noText _ (mem_unspelled_names_iff.mp member)
  cases entry with
  | file content => simp [fragmentFile?, fragmentName?, noText]
  | directory => rfl
  | link target => rfl

/-- What has a name that is no text makes no difference to the report. -/
theorem orphans_unspelled (sameEntries : after.entries = files.entries)
    (sameDirectory : after.workingDirectory = files.workingDirectory)
    (looked : files.look directory = .ok (place, .directory)) :
    orphans after directory expected = orphans files directory expected := by
  have same : ∀ location, after.entry? location = files.entry? location := by
    intro location
    unfold entry?
    rw [sameEntries]
  have frame : KeepsFrame files after :=
    ⟨sameDirectory, fun location held => (same location).trans held, fun location _ held => (same location).trans held⟩
  have lookedAfter := look_directory_kept frame looked
  have sameNames : after.spelledNames place = files.spelledNames place := by rw [spelledNames, spelledNames, sameEntries]
  rw [orphans, orphans, if_pos (is_directory_iff_look.mpr ⟨place, lookedAfter⟩),
    if_pos (is_directory_iff_look.mpr ⟨place, looked⟩), list_of_look lookedAfter, list_of_look looked]
  simp only [names, sameNames, List.filterMap_append, unspelled_passed_over]

/-! ## The check of a configuration -/

/-- For every command tree, and however the source directory is spelled, the scan
parts its fragment files into those of the leaves and those that it reports. What has a
name that is no text is not reported, and makes no difference to what is. When a
configuration with that tree is checked, the warnings behind those of lint and of the
fragments are one for each path of the report. -/
theorem scan_parts_fragments (settings : Settings) (workspace : Workspace) (root : Command) (place : Location)
    (plain : PlainNames workspace.files)
    (looked : workspace.files.look settings.sourceDirectory = .ok (place, .directory)) :
    Partitioned workspace.files settings.sourceDirectory place
      (root.leaves.map (fragmentPath settings.sourceDirectory)) (orphanPaths settings workspace.files root) ∧
    (∀ files : FileSystem, files.entries = workspace.files.entries →
      files.workingDirectory = workspace.files.workingDirectory →
        orphanPaths settings files root = orphanPaths settings workspace.files root) ∧
    (loadTree workspace.files settings.configuration = .ok root →
      (outcome (validate settings) workspace).1 = .ok () ∧
      ∃ records, (outcome (validate settings) workspace).2.log = workspace.log ++ records ∧
        records.filter isWarning = lintWarnings settings root ++ fragmentWarnings settings workspace.files root ++
          orphanWarnings settings workspace.files root) := by
  refine ⟨orphans_partition plain looked, fun files sameEntries sameDirectory => ?_, fun loaded => ?_⟩
  · exact orphans_unspelled sameEntries sameDirectory looked
  rw [validate_loaded loaded]
  exact ⟨rfl, report settings workspace.files root, rfl, report_warnings settings workspace.files root⟩

/-- A source directory of each kind of entry: the fragment of a leaf, one that
belongs to nobody, a directory and a link that are named like fragments, a file that is
not, and one whose name ends like that of a fragment but is no text. It is spelled by a
detour and with doubled separators. -/
def mixedFiles : FileSystem where
  entries := [(["src"], .directory),
    (["src", "shcraft.yml"], .file (Utf8.encode "name: a".toList)),
    (["src", "a_command.sh"], .file []), (["src", "old_command.sh"], .file []),
    (["src", "lib_command.sh"], .directory), (["src", "ln_command.sh"], .link ⟨"old_command.sh"⟩),
    (["src", "helpers.sh"], .file [])]
  unspelled := [((["src"], Utf8.encode "caf".toList ++ 0xE9 :: Utf8.encode "_command.sh".toList), .file [])]
  unique := by decide
  uniqueUnspelled := List.nodup_singleton _
  noText := by decide +kernel

def mixedSettings : Settings := ⟨⟨"src/../src//."⟩, ⟨"src/shcraft.yml"⟩, false⟩

theorem mixed_names_plain : PlainNames mixedFiles := by
  intro place name entry held
  rw [entry_below, lookup_eq_some_iff_mem mixedFiles.unique] at held
  have inside : name ∈ mixedFiles.entries.flatMap (·.1) := List.mem_flatMap.mpr ⟨_, held, by simp⟩
  have plain : ∀ name ∈ mixedFiles.entries.flatMap (·.1), '/' ∉ name.toList ∧ name ≠ "" ∧ name ≠ "." ∧ name ≠ ".." := by
    decide +kernel
  obtain ⟨noSlash, notEmpty, notHere, notParent⟩ := plain name inside
  exact ⟨noSlash, notEmpty, notHere, notParent⟩

theorem mixed_fragments_parted : ∃ root, loadTree mixedFiles mixedSettings.configuration = .ok root ∧
    orphanPaths mixedSettings mixedFiles root = [⟨"src/../src//./old_command.sh"⟩] ∧
    (outcome (validate mixedSettings) { files := mixedFiles }).1 = .ok () ∧
    Partitioned mixedFiles mixedSettings.sourceDirectory ["src"]
      (root.leaves.map (fragmentPath mixedSettings.sourceDirectory)) (orphanPaths mixedSettings mixedFiles root) := by
  have found : (loadTree mixedFiles mixedSettings.configuration).toOption.map (orphanPaths mixedSettings mixedFiles) =
      some [⟨"src/../src//./old_command.sh"⟩] := by
    decide +kernel
  have looked : mixedFiles.look mixedSettings.sourceDirectory = .ok (["src"], .directory) := by decide +kernel
  cases loaded : loadTree mixedFiles mixedSettings.configuration with
  | error error => simp [loaded, Except.toOption] at found
  | ok root =>
    rw [loaded] at found
    obtain ⟨parted, -, warned⟩ :=
      scan_parts_fragments mixedSettings { files := mixedFiles } root ["src"] mixed_names_plain looked
    obtain ⟨passes, -⟩ := warned loaded
    exact ⟨root, rfl, Option.some.inj found, passes, parted⟩

end CommandPlan.OrphanPartition
