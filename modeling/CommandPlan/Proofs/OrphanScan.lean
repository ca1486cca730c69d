import CommandPlan.Orphan

/-! The scan for orphans. Paths are ordered by their components, of which one that
ends first comes first; the order is total, so the scan reports in order, and what it
reports is what the directory holds and nobody expects. -/
namespace CommandPlan.OrphanScan
open CommandPlan.Path

variable {files : FileSystem} {directory path : Path} {expected : List Path}

/-! ## The order of paths -/

theorem component_lt_irrefl (a : Component) : a.lt a = false := by
  cases a <;> simp [Component.lt]

theorem component_lt_trans {a b c : Component} (first : a.lt b = true) (second : b.lt c = true) :
    a.lt c = true := by
  -- Names are compared by their texts if all three are names, and else the kinds decide.
  cases a <;> cases b <;> cases c <;> simp_all [Component.lt, Component.rank]
  exact List.lt_trans first second

theorem text_trichotomy (a b : String) : a.toList < b.toList ∨ a = b ∨ b.toList < a.toList := by
  by_cases before : a.toList < b.toList
  · exact .inl before
  · by_cases behind : b.toList < a.toList
    · exact .inr (.inr behind)
    · have same := List.le_antisymm (List.not_lt.mp behind) (List.not_lt.mp before)
      exact .inr (.inl (String.toList_inj.mp same))

theorem component_trichotomy (a b : Component) : a.lt b = true ∨ a = b ∨ b.lt a = true := by
  cases a <;> cases b <;> simp [Component.lt, Component.rank, text_trichotomy]

theorem lt_components_cons {a b : Component} {as bs : List Component} :
    ltComponents (a :: as) (b :: bs) = true ↔ a.lt b = true ∨ (a = b ∧ ltComponents as bs = true) := by
  simp [ltComponents]

theorem lt_components_irrefl (as : List Component) : ltComponents as as = false := by
  induction as with
  | nil => rfl
  | cons a as ih => simp [ltComponents, component_lt_irrefl, ih]

theorem lt_components_trans {as bs cs : List Component} (first : ltComponents as bs = true)
    (second : ltComponents bs cs = true) : ltComponents as cs = true := by
  induction as generalizing bs cs with
  | nil =>
    cases cs with
    | nil => simp [ltComponents] at second
    | cons c cs => rfl
  | cons a as ih =>
    cases bs with
    | nil => simp [ltComponents] at first
    | cons b bs =>
      cases cs with
      | nil => simp [ltComponents] at second
      | cons c cs =>
        rw [lt_components_cons] at first second ⊢
        obtain before | ⟨rfl, before⟩ := first <;> obtain behind | ⟨rfl, behind⟩ := second
        · exact .inl (component_lt_trans before behind)
        · exact .inl before
        · exact .inl behind
        · exact .inr ⟨rfl, ih before behind⟩

theorem lt_components_trichotomy (as bs : List Component) :
    ltComponents as bs = true ∨ as = bs ∨ ltComponents bs as = true := by
  induction as generalizing bs with
  | nil => cases bs <;> simp [ltComponents]
  | cons a as ih =>
    cases bs with
    | nil => simp [ltComponents]
    | cons b bs =>
      simp only [lt_components_cons, List.cons.injEq]
      obtain before | rfl | behind := component_trichotomy a b
      · exact .inl (.inl before)
      · obtain before | rfl | behind := ih bs
        · exact .inl (.inr ⟨rfl, before⟩)
        · exact .inr (.inl ⟨rfl, rfl⟩)
        · exact .inr (.inr (.inr ⟨rfl, behind⟩))
      · exact .inr (.inr (.inl behind))

theorem lt_asymm {a b : Path} (before : a.lt b = true) : b.lt a = false := by
  rw [Bool.eq_false_iff]
  intro behind
  exact Bool.false_ne_true ((lt_components_irrefl a.components).symm.trans (lt_components_trans before behind))

/-- Not to come behind is a total order. -/
theorem not_behind_total (a b : Path) : (!b.lt a || !a.lt b) = true := by
  cases behind : b.lt a with
  | false => rfl
  | true => simp [lt_asymm behind]

theorem not_behind_trans (a b c : Path) (first : (!b.lt a) = true) (second : (!c.lt b) = true) :
    (!c.lt a) = true := by
  rw [Bool.not_eq_true', Bool.eq_false_iff] at first second ⊢
  intro behind
  obtain before | same | before := lt_components_trichotomy a.components b.components
  · exact second (lt_components_trans behind before)
  · exact second (by rwa [Path.lt, ← same])
  · exact first before

/-! ## What the scan reports -/

/-- A fragment file directly in a directory, at a path that nobody expects. -/
def Orphan (files : FileSystem) (directory : Path) (expected : List Path) (path : Path) : Prop :=
  ∃ entries octets name content, files.list directory = .ok entries ∧ (octets, .file content) ∈ entries ∧
    fragmentName? octets = some name ∧ path = directory.join ⟨name⟩ ∧ ∀ other ∈ expected, ¬ path.same other = true

theorem is_directory_of_list {entries : List (List UInt8 × Entry)} (listed : files.list directory = .ok entries) :
    files.isDirectory directory = true := by
  simp only [FileSystem.list, FileSystem.isDirectory] at listed ⊢
  cases there : files.look directory with
  | error error => simp [there, bind, Except.bind] at listed
  | ok found =>
    obtain ⟨location, entry⟩ := found
    cases entry <;> simp [there, bind, Except.bind] at listed ⊢

theorem fragment_file_iff {octets : List UInt8} {entry : Entry} : fragmentFile? directory (octets, entry) = some path ↔
    ∃ name content, entry = .file content ∧ fragmentName? octets = some name ∧ path = directory.join ⟨name⟩ := by
  cases entry with
  | file content =>
    rw [fragmentFile?, Option.map_eq_some_iff]
    constructor
    · rintro ⟨name, named, rfl⟩
      exact ⟨name, content, rfl, named, rfl⟩
    · rintro ⟨name, _, -, named, rfl⟩
      exact ⟨name, named, rfl⟩
  | directory => simp [fragmentFile?]
  | link target => simp [fragmentFile?]

theorem mem_orphans_iff : path ∈ orphans files directory expected ↔ Orphan files directory expected path := by
  rw [orphans, Orphan]
  cases listed : files.list directory with
  | error error => simp
  | ok entries =>
    simp only [is_directory_of_list listed, if_true, List.mem_mergeSort, List.mem_filter, List.mem_filterMap,
      Bool.not_eq_true', List.any_eq_false]
    constructor
    · rintro ⟨⟨⟨octets, entry⟩, member, found⟩, unexpected⟩
      obtain ⟨name, content, rfl, named, rfl⟩ := fragment_file_iff.mp found
      exact ⟨entries, octets, name, content, rfl, member, named, rfl, unexpected⟩
    · rintro ⟨_, octets, name, content, same, member, named, rfl, unexpected⟩
      cases same
      exact ⟨⟨(octets, .file content), member, fragment_file_iff.mpr ⟨name, content, rfl, named, rfl⟩⟩, unexpected⟩

/-- The orphans are reported in order. -/
theorem orphans_sorted : (orphans files directory expected).Pairwise fun a b => b.lt a = false := by
  rw [orphans]
  split
  · split
    · exact (List.pairwise_mergeSort not_behind_trans not_behind_total _).imp (by simp)
    · exact List.Pairwise.nil
  · exact List.Pairwise.nil

end CommandPlan.OrphanScan
