import CommandPlan.Proofs.ScaffoldEffects
import CommandPlan.Validate

/-! Loading the fragments of leaves. Every leaf gets a fragment at its path, whatever
the files are; one that cannot be read is missing, one whose octets are no text is
decoded all the same, and of both there is one warning. -/
namespace CommandPlan.FragmentLoads
open ScaffoldEffects

variable {files : FileSystem} {directory : Path} {leaf : Command} {octets : List UInt8} {error : FileError}

/-- The fragment of a leaf cannot be read. -/
def isMissing (files : FileSystem) (directory : Path) (leaf : Command) : Bool :=
  !(files.read (fragmentPath directory leaf)).isOk

/-- The fragment of a leaf is read, and its octets are no text. -/
def isGarbled (files : FileSystem) (directory : Path) (leaf : Command) : Bool :=
  (files.read (fragmentPath directory leaf)).toOption.any fun octets => (Utf8.decode? octets).isNone

/-- There is a warning about the fragment of a leaf. -/
def isTroubled (files : FileSystem) (directory : Path) (leaf : Command) : Bool :=
  isMissing files directory leaf || isGarbled files directory leaf

/-- What is said about a fragment that is missing or garbled. -/
def fragmentWarning (files : FileSystem) (directory : Path) (leaf : Command) : Record :=
  match files.read (fragmentPath directory leaf) with
  | .ok _ => .warn ("Fragment " ++ (fragmentPath directory leaf).text ++ " is not valid UTF-8, decoding lossily")
  | .error error => .warn ("Cannot load fragment " ++ (fragmentPath directory leaf).text ++ ": " ++ error.message)

theorem missing_of_error (unread : files.read (fragmentPath directory leaf) = .error error) :
    isMissing files directory leaf = true := by
  rw [isMissing, unread]
  rfl

theorem not_missing_of_ok (read : files.read (fragmentPath directory leaf) = .ok octets) :
    isMissing files directory leaf = false := by
  rw [isMissing, read]
  rfl

theorem garbled_of_ok (read : files.read (fragmentPath directory leaf) = .ok octets) :
    isGarbled files directory leaf = (Utf8.decode? octets).isNone := by
  rw [isGarbled, read]
  rfl

/-- No fragment is missing and garbled at once. -/
theorem not_missing_of_garbled (garbled : isGarbled files directory leaf = true) :
    isMissing files directory leaf = false := by
  cases read : files.read (fragmentPath directory leaf) with
  | error error =>
    rw [isGarbled, read] at garbled
    exact absurd garbled Bool.false_ne_true
  | ok octets => exact not_missing_of_ok read

theorem fragment_warning_level : (fragmentWarning files directory leaf).level = .warn := by
  delta fragmentWarning
  cases files.read (fragmentPath directory leaf) with
  | error error => rfl
  | ok octets => rfl

/-! ## One fragment -/

theorem path_loaded (path : Path) (content : String) : (Fragment.loaded path content).path = path :=
  rfl

theorem path_missing (path : Path) : (Fragment.missing path).path = path :=
  rfl

theorem is_missing_loaded (path : Path) (content : String) : (Fragment.loaded path content).isMissing = false :=
  rfl

theorem is_missing_missing (path : Path) : (Fragment.missing path).isMissing = true :=
  rfl

theorem load_missing (unread : files.read (fragmentPath directory leaf) = .error error) :
    Fragment.load files directory leaf.fragmentFile =
      ⟨.missing (fragmentPath directory leaf), [fragmentWarning files directory leaf]⟩ := by
  -- The texts of the warnings stay closed: comparing them letter by letter takes minutes.
  delta fragmentWarning Fragment.load
  delta fragmentPath at unread ⊢
  dsimp only
  rw [unread]
  rfl

/-- A file of text is loaded as it is. -/
theorem load_decoded {file : String} {content : List Char} (read : files.read (directory.join ⟨file⟩) = .ok octets)
    (decoded : Utf8.decode? octets = some content) :
    Fragment.load files directory file = ⟨.loaded (directory.join ⟨file⟩) (String.ofList content), []⟩ := by
  delta Fragment.load
  dsimp only
  rw [read]
  dsimp only
  rw [decoded]
  rfl

/-- Of any other file what is no text is replaced, with one warning. -/
theorem load_undecoded {file : String} (read : files.read (directory.join ⟨file⟩) = .ok octets)
    (garbled : Utf8.decode? octets = none) : ∃ warning, warning.level = .warn ∧
      Fragment.load files directory file =
        ⟨.loaded (directory.join ⟨file⟩) (String.ofList (Utf8.decodeLossy octets)), [warning]⟩ := by
  refine ⟨.warn ("Fragment " ++ (directory.join ⟨file⟩).text ++ " is not valid UTF-8, decoding lossily"), rfl, ?_⟩
  delta Fragment.load
  dsimp only
  rw [read]
  dsimp only
  rw [garbled]
  rfl

theorem load_garbled (read : files.read (fragmentPath directory leaf) = .ok octets)
    (garbled : Utf8.decode? octets = none) :
    Fragment.load files directory leaf.fragmentFile =
      ⟨.loaded (fragmentPath directory leaf) (String.ofList (Utf8.decodeLossy octets)),
        [fragmentWarning files directory leaf]⟩ := by
  delta fragmentWarning Fragment.load
  delta fragmentPath at read ⊢
  dsimp only
  rw [read]
  dsimp only
  rw [garbled]
  rfl

theorem load_text {content : List Char} (read : files.read (fragmentPath directory leaf) = .ok octets)
    (decoded : Utf8.decode? octets = some content) :
    Fragment.load files directory leaf.fragmentFile =
      ⟨.loaded (fragmentPath directory leaf) (String.ofList content), []⟩ :=
  load_decoded read decoded

/-- What a load gives: a fragment at the path of the leaf, missing if it cannot be
read, and a warning if there is any trouble. -/
theorem load_fragment (files : FileSystem) (directory : Path) (leaf : Command) :
    ∃ fragment, fragment.path = fragmentPath directory leaf ∧
      fragment.isMissing = isMissing files directory leaf ∧
      Fragment.load files directory leaf.fragmentFile =
        ⟨fragment, if isTroubled files directory leaf then [fragmentWarning files directory leaf] else []⟩ := by
  cases read : files.read (fragmentPath directory leaf) with
  | error error =>
    have missing := missing_of_error read
    refine ⟨.missing (fragmentPath directory leaf), path_missing _, ?_, ?_⟩
    · rw [missing, is_missing_missing]
    · rw [load_missing read, isTroubled, missing, Bool.true_or, if_pos rfl]
  | ok octets =>
    have missing := not_missing_of_ok read
    have garbled := garbled_of_ok read
    cases decoded : Utf8.decode? octets with
    | none =>
      refine ⟨.loaded (fragmentPath directory leaf) (String.ofList (Utf8.decodeLossy octets)), path_loaded _ _, ?_, ?_⟩
      · rw [missing, is_missing_loaded]
      · rw [load_garbled read decoded, isTroubled, garbled, decoded, Option.isNone_none, Bool.or_true, if_pos rfl]
    | some content =>
      refine ⟨.loaded (fragmentPath directory leaf) (String.ofList content), path_loaded _ _, ?_, ?_⟩
      · rw [missing, is_missing_loaded]
      · rw [load_text read decoded, isTroubled, missing, garbled, decoded, Option.isNone_some, Bool.or_false,
          if_neg Bool.false_ne_true]

/-! ## All of them -/

theorem logged_bind {α β : Type} (value : α) (log : List Record) (next : α → Logged β) :
    (⟨value, log⟩ : Logged α) >>= next = ⟨(next value).value, log ++ (next value).log⟩ :=
  rfl

/-- A fragment for each leaf, and the warnings in the order of the leaves. -/
theorem load_fragments (files : FileSystem) (directory : Path) (leaves : List Command) :
    ∃ fragments, fragments.map Fragment.path = leaves.map (fragmentPath directory) ∧
      (fragments.filter Fragment.isMissing).length = leaves.countP (isMissing files directory) ∧
      loadFragments files directory leaves =
        ⟨fragments, (leaves.filter (isTroubled files directory)).map (fragmentWarning files directory)⟩ := by
  induction leaves with
  | nil => exact ⟨[], rfl, rfl, rfl⟩
  | cons leaf leaves ih =>
    obtain ⟨fragment, path, missing, loaded⟩ := load_fragment files directory leaf
    obtain ⟨fragments, paths, count, rest⟩ := ih
    refine ⟨fragment :: fragments, ?_, ?_, ?_⟩
    · rw [List.map_cons, List.map_cons, path, paths]
    · rw [List.filter_cons, List.countP_cons, missing]
      cases isMissing files directory leaf with
      | false => exact count
      | true => exact congrArg (· + 1) count
    · rw [loadFragments, loaded, rest, List.filter_cons, logged_bind, logged_bind]
      cases isTroubled files directory leaf <;> simp [pure]

/-- The warnings are one for each missing fragment and one for each garbled one. -/
theorem troubled_count (files : FileSystem) (directory : Path) (leaves : List Command) :
    leaves.countP (isTroubled files directory) =
      leaves.countP (isMissing files directory) + leaves.countP (isGarbled files directory) := by
  have missing : ∀ leaf ∈ leaves, (isTroubled files directory leaf && isMissing files directory leaf) = true ↔
      isMissing files directory leaf = true := by
    intro leaf _
    rw [isTroubled, Bool.and_eq_true, Bool.or_eq_true]
    exact ⟨And.right, fun missing => ⟨.inl missing, missing⟩⟩
  have garbled : ∀ leaf ∈ leaves, (isTroubled files directory leaf && !isMissing files directory leaf) = true ↔
      isGarbled files directory leaf = true := by
    intro leaf _
    rw [isTroubled, Bool.and_eq_true, Bool.or_eq_true, Bool.not_eq_true']
    constructor
    · rintro ⟨missing | garbled, present⟩
      · exact absurd (present.symm.trans missing) Bool.false_ne_true
      · exact garbled
    · intro garbled
      exact ⟨.inr garbled, not_missing_of_garbled garbled⟩
  rw [List.countP_eq_countP_filter_add _ _ (isMissing files directory), List.countP_filter, List.countP_filter,
    List.countP_congr missing, List.countP_congr garbled]

end CommandPlan.FragmentLoads
