import CommandPlan.Proofs.PathJoin
import CommandPlan.Command

/-! Function names hold nothing but lower case letters, digits and underscores,
all of which come behind the separator of paths in the order of characters. So a
fragment file is one plain name, whatever the names of the commands are made of. -/
namespace CommandPlan.FragmentNames
open Text PathJoin

/-- The characters behind the separator of paths. The separator is none of them,
and neither are the dot and the null character. -/
def BehindSlash (c : Char) : Prop :=
  0x2F < c.toNat

instance : DecidablePred BehindSlash :=
  fun c => inferInstanceAs (Decidable (0x2F < c.toNat))

variable {c d : Char} {text run word pending phrase : List Char} {command : Command}

/-! ## One character -/

theorem ascii_codes_behind_slash :
    ∀ code < 0x80, (Char.ofNat code).isAlphanum = true → BehindSlash (Char.ofNat code).toLower := by
  decide +kernel

theorem ascii_lower_behind_slash (ascii : c.toNat < 0x80) (letter : c.isAlphanum = true) :
    BehindSlash c.toLower := by
  rw [← Char.ofNat_toNat c] at letter ⊢
  exact ascii_codes_behind_slash c.toNat ascii letter

theorem lower_shifts_behind_slash : ∀ shift ∈ lowerShifts,
    0x2F < shift.range.first + shift.distance ∧ (shift.range.last + shift.distance < 0xD800 ∨
      0xDFFF < shift.range.first + shift.distance ∧ shift.range.last + shift.distance < 0x110000) := by
  decide +kernel

theorem to_nat_of_valid {code : Nat} (valid : code.isValidChar) : (Char.ofNat code).toNat = code := by
  rw [Char.ofNat, dif_pos valid]
  rfl

theorem shifted_behind_slash (beyond : 0x80 ≤ c.toNat) : BehindSlash (shiftCase lowerShifts c) := by
  unfold shiftCase
  split
  · rename_i shift found
    obtain ⟨above, valid⟩ := lower_shifts_behind_slash shift (List.mem_of_find?_eq_some found)
    have inside := List.find?_some found
    simp only [CodeRange.contains, Bool.and_eq_true, decide_eq_true_eq] at inside
    have validCode : (c.toNat + shift.distance).toNat.isValidChar := by
      unfold Nat.isValidChar
      omega
    rw [BehindSlash, to_nat_of_valid validCode]
    omega
  · simp only [BehindSlash]
    omega

theorem lowercase_behind_slash (letter : isAlphanumeric c = true) (member : d ∈ toLowercase c) :
    BehindSlash d := by
  unfold toLowercase at member
  unfold isAlphanumeric at letter
  split at member
  · rename_i ascii
    rw [if_pos ascii] at letter
    rw [List.mem_singleton.mp member]
    exact ascii_lower_behind_slash ascii letter
  · split at member
    · rcases List.mem_cons.mp member with rfl | member
      · decide
      · rw [List.mem_singleton.mp member]
        decide
    · rw [List.mem_singleton.mp member]
      exact shifted_behind_slash (by omega)

/-! ## Words -/

theorem alphanumeric_of_run (found : run ∈ alphanumericRuns text) :
    ∀ c ∈ run, isAlphanumeric c = true := by
  induction text generalizing run with
  | nil => cases found
  | cons first rest ih =>
    by_cases letter : isAlphanumeric first = true
    · simp only [alphanumericRuns, letter, if_true] at found
      split at found
      · rename_i next tail head runs split
        split at found
        · rcases List.mem_cons.mp found with rfl | found
          · exact List.forall_mem_cons.mpr ⟨letter, ih (split ▸ List.mem_cons_self)⟩
          · exact ih (split ▸ List.mem_cons_of_mem _ found)
        · rcases List.mem_cons.mp found with rfl | found
          · simpa using letter
          · exact ih (split ▸ found)
      · rcases List.mem_cons.mp found with rfl | found
        · simpa using letter
        · exact ih found
    · simp only [alphanumericRuns, letter] at found
      exact ih found

theorem letters_of_case_words {P : Char → Prop} (mode : WordCase) (held : ∀ c ∈ pending, P c)
    (letters : ∀ c ∈ text, P c) : ∀ word ∈ caseWords mode pending text, ∀ c ∈ word, P c := by
  fun_induction caseWords mode pending text with
  | case1 => simp
  | case2 mode pending c =>
    simpa [or_imp, forall_and] using ⟨held, letters c List.mem_cons_self⟩
  | case3 mode pending c next rest turns ih =>
    obtain ⟨first, later⟩ := List.forall_mem_cons.mp letters
    refine List.forall_mem_cons.mpr ⟨?_, ih (by simp) later⟩
    simpa [or_imp, forall_and] using ⟨held, first⟩
  | case4 mode pending c next rest stays turns ih =>
    obtain ⟨first, later⟩ := List.forall_mem_cons.mp letters
    exact List.forall_mem_cons.mpr ⟨by simpa using held, ih (by simpa using first) later⟩
  | case5 mode pending c next rest stays goes ih =>
    obtain ⟨first, later⟩ := List.forall_mem_cons.mp letters
    exact ih (List.forall_mem_cons.mpr ⟨first, held⟩) later

theorem lowercase_word_behind_slash (letters : ∀ c ∈ word, isAlphanumeric c = true) :
    ∀ d ∈ lowercaseWord word, BehindSlash d := by
  fun_induction lowercaseWord word with
  | case1 => simp
  | case2 => simp [show BehindSlash 'ς' by decide]
  | case3 c => exact fun d member => lowercase_behind_slash (letters c List.mem_cons_self) member
  | case4 c next rest ih =>
    obtain ⟨first, later⟩ := List.forall_mem_cons.mp letters
    intro d member
    rcases List.mem_append.mp member with member | member
    · exact lowercase_behind_slash first member
    · exact ih later d member

theorem snake_words_behind_slash : ∀ word ∈ snakeWords phrase, ∀ c ∈ word, BehindSlash c := by
  intro word member
  obtain ⟨letters, found, rfl⟩ := List.mem_map.mp member
  obtain ⟨run, ofPhrase, ofRun⟩ := List.mem_flatMap.mp found
  exact lowercase_word_behind_slash
    (letters_of_case_words .uncased (by simp) (alphanumeric_of_run ofPhrase) letters ofRun)

theorem mem_of_mem_intercalate {separator : List Char} {pieces : List (List Char)}
    (member : c ∈ separator.intercalate pieces) : c ∈ separator ∨ ∃ piece ∈ pieces, c ∈ piece := by
  induction pieces with
  | nil => cases member
  | cons piece pieces ih =>
    cases pieces with
    | nil => exact .inr ⟨piece, List.mem_cons_self, by simpa using member⟩
    | cons next pieces =>
      rw [List.intercalate_cons_cons, List.append_assoc, List.mem_append, List.mem_append] at member
      rcases member with here | between | later
      · exact .inr ⟨piece, List.mem_cons_self, here⟩
      · exact .inl between
      · exact (ih later).imp_right fun ⟨found, below, inside⟩ =>
          ⟨found, List.mem_cons_of_mem _ below, inside⟩

/-! ## Names of files -/

theorem function_name_behind_slash (command : Command) :
    ∀ c ∈ command.functionName.toList, BehindSlash c := by
  intro c member
  rw [Command.functionName, snakeCase, String.toList_ofList] at member
  rcases mem_of_mem_intercalate member with underscore | ⟨word, found, inside⟩
  · rw [List.mem_singleton.mp underscore]
    decide
  · exact snake_words_behind_slash word found c inside

theorem fragment_file_text (command : Command) :
    command.fragmentFile.toList = command.functionName.toList ++ "_command.sh".toList :=
  String.toList_append

/-- A fragment file is one plain name, for names of commands with any characters. -/
theorem fragment_file_plain (command : Command) : PlainName command.fragmentFile := by
  have text := fragment_file_text command
  have long : 11 ≤ command.fragmentFile.toList.length := by
    rw [text, List.length_append]
    exact Nat.le_add_left ..
  refine ⟨?_, ?_, ?_, ?_⟩
  · intro slash
    rw [text, List.mem_append] at slash
    rcases slash with inName | inSuffix
    · exact absurd (function_name_behind_slash command _ inName) (by decide)
    · exact absurd inSuffix (by decide)
  all_goals
    intro same
    rw [same] at long
    exact absurd long (by decide)

/-- There is no null character in it, -/
theorem fragment_file_no_nul (command : Command) : Char.ofNat 0 ∉ command.fragmentFile.toList := by
  intro nul
  rw [fragment_file_text, List.mem_append] at nul
  rcases nul with inName | inSuffix
  · exact absurd (function_name_behind_slash command _ inName) (by decide)
  · exact absurd inSuffix (by decide)

/-- and it ends like all of them. -/
theorem fragment_file_suffix (command : Command) : Command.fragmentSuffix.toList <:+ command.fragmentFile.toList :=
  ⟨command.functionName.toList, (fragment_file_text command).symm⟩

theorem fragment_file_inj {other : Command} :
    command.fragmentFile = other.fragmentFile ↔ command.functionName = other.functionName :=
  String.append_left_inj Command.fragmentSuffix

end CommandPlan.FragmentNames
