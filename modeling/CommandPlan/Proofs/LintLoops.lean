import CommandPlan.Lint

/-! The loops of the lint. Each of them goes through a list once and keeps of the items
before what it needs: the first user of each function or word, the names and the short
forms in use, the first optional argument. What it finds at an item so follows from the
items before it; a loop is known by what it finds at one item, and it is silent if
nothing is found behind any prefix of the list. -/
namespace CommandPlan.LintLoops
open Lint

variable {α β γ : Type} {earlier items : List α} {related : α → α → Prop}

/-- What is found at the items of a list, at each of them with regard to those
before it. -/
def gather (find : List α → α → List β) (earlier : List α) : List α → List β
  | [] => []
  | item :: later => find earlier item ++ gather find (earlier ++ [item]) later

theorem mem_gather_iff {find : List α → α → List β} {found : β} : found ∈ gather find earlier items ↔
    ∃ before item after, items = before ++ item :: after ∧ found ∈ find (earlier ++ before) item := by
  induction items generalizing earlier with
  | nil => simp [gather]
  | cons head rest ih =>
    rw [gather, List.mem_append, ih]
    constructor
    · rintro (atHead | ⟨before, item, after, rfl, below⟩)
      · exact ⟨[], head, rest, rfl, by simpa using atHead⟩
      · exact ⟨head :: before, item, after, rfl, by simpa using below⟩
    · rintro ⟨before, item, after, split, member⟩
      rcases List.cons_eq_append_iff.mp split with ⟨rfl, here⟩ | ⟨middle, rfl, later⟩
      · obtain ⟨rfl, -⟩ := List.cons.inj here
        exact .inl (by simpa using member)
      · exact .inr ⟨middle, item, after, later, by simpa using member⟩

theorem gather_nil_iff {find : List α → α → List β} : gather find earlier items = [] ↔
    ∀ before item after, items = before ++ item :: after → find (earlier ++ before) item = [] := by
  simp only [List.eq_nil_iff_forall_not_mem, mem_gather_iff]
  constructor
  · intro none before item after split found member
    exact none found ⟨before, item, after, split, member⟩
  · rintro silent found ⟨before, item, after, split, member⟩
    exact silent before item after split found member

theorem pairwise_iff_behind : items.Pairwise related ↔
    ∀ before item after, items = before ++ item :: after → ∀ first ∈ before, related first item := by
  constructor
  · rintro pairwise before item after rfl first member
    exact (List.pairwise_append.mp pairwise).2.2 first member item List.mem_cons_self
  · intro behind
    rw [List.pairwise_iff_getElem]
    intro i j hi hj less
    have member : items[i] ∈ items.take j := List.mem_take_iff_getElem.mpr ⟨i, by omega, rfl⟩
    exact behind (items.take j) items[j] (items.drop (j + 1)) (by simp) _ member

theorem forall_mem_iff_behind {holds : α → Prop} : (∀ item ∈ items, holds item) ↔
    ∀ before item after, items = before ++ item :: after → holds item := by
  constructor
  · rintro all before item after rfl
    exact all item (by simp)
  · intro behind item member
    obtain ⟨before, after, split⟩ := List.append_of_mem member
    exact behind before item after split

/-! ## What a loop finds at one item -/

def functionFinding (parent : String) (earlier : List Command) (command : Command) : List Warning :=
  match earlier.find? (·.functionName = command.functionName) with
  | some first => [.sharedFunction first.name command.name parent command.functionName]
  | none => []

def aliasFinding (parent : String) (earlier : List Selector) (selector : Selector) : List Warning :=
  match earlier.find? (·.word = selector.word) with
  | some first =>
    if first.index ≠ selector.index ∧ (selector.isShort ∨ first.isShort) then
      [.takenAlias selector.word selector.owner first.owner parent]
    else []
  | none => []

/-- What is found at the short form of a flag. One that is no single character is held
against none. -/
def shortFinding (command : String) (earlier : List Flag) (flag : Flag) : List Warning :=
  match flag.short with
  | none => []
  | some short =>
    if !isSingleCharacter short then [.longFlagShort short flag.name command]
    else if earlier.any (·.short = some short) then [.sharedFlagShort short command]
    else []

def flagFinding (command : String) (earlier : List Flag) (flag : Flag) : List Warning :=
  (if earlier.any (·.name = flag.name) then [.repeatedFlag flag.name command] else []) ++
    shortFinding command earlier flag

def orderFinding (command : String) (earlier : List Argument) (argument : Argument) : List Warning :=
  match argument.required, earlier.find? (!·.required) with
  | true, some optional => [.lateRequired argument.name optional.name command]
  | _, _ => []

variable {parent command : String}

/-! ## What a loop keeps -/

/-- For each key in use there is what is kept of its first user. -/
def KeepsFirst (key : α → String) (kept : α → γ) (owners : List (String × γ)) (earlier : List α) : Prop :=
  ∀ word, owners.lookup word = (earlier.find? (key · = word)).map kept

section First
variable {key : α → String} {kept : α → γ} {owners : List (String × γ)} {item : α}

theorem keeps_first_nil : KeepsFirst key kept [] [] :=
  fun _ => rfl

/-- The first user of a key stays the first. -/
theorem KeepsFirst.again {owner : γ} (keeps : KeepsFirst key kept owners earlier)
    (used : owners.lookup (key item) = some owner) : KeepsFirst key kept owners (earlier ++ [item]) := by
  intro word
  rw [keeps, List.find?_append]
  by_cases same : key item = word
  · rw [keeps, same, Option.map_eq_some_iff] at used
    obtain ⟨first, found, -⟩ := used
    rw [found, Option.some_or]
  · rw [List.find?_cons_of_neg (by simpa using same), List.find?_nil, Option.or_none]

theorem KeepsFirst.new (keeps : KeepsFirst key kept owners earlier) (unused : owners.lookup (key item) = none) :
    KeepsFirst key kept ((key item, kept item) :: owners) (earlier ++ [item]) := by
  intro word
  rw [List.lookup_cons, List.find?_append]
  by_cases same : word = key item
  · rw [keeps, ← same, Option.map_eq_none_iff] at unused
    rw [unused, beq_iff_eq.mpr same, List.find?_cons_of_pos (by simp [same])]
    rfl
  · rw [beq_eq_false_iff_ne.mpr same, keeps, List.find?_cons_of_neg (by simpa using Ne.symm same), List.find?_nil,
      Option.or_none]

end First

/-- The names of the flags before, and the short forms of a single character. -/
structure KeepsUsed (names shorts : List String) (earlier : List Flag) : Prop where
  names : ∀ name, name ∈ names ↔ ∃ flag ∈ earlier, flag.name = name
  shorts : ∀ short, short ∈ shorts ↔ isSingleCharacter short = true ∧ ∃ flag ∈ earlier, flag.short = some short

theorem keeps_used_nil : KeepsUsed [] [] [] := by
  constructor <;> simp

section Used
variable {names shorts : List String} {earlier : List Flag} {flag : Flag}

theorem KeepsUsed.found (keeps : KeepsUsed names shorts earlier) :
    (flagShort command shorts flag).2 = shortFinding command earlier flag := by
  unfold flagShort shortFinding
  cases flag.short with
  | none => rfl
  | some short =>
    dsimp only
    cases single : isSingleCharacter short with
    | false => rfl
    | true =>
      have same : shorts.contains short = earlier.any (·.short = some short) := by
        rw [Bool.eq_iff_iff]
        simp [keeps.shorts, single]
      simp only [Bool.not_true, Bool.false_eq_true, if_false, same]

/-- The short form of a flag is kept if it is a single character. -/
theorem mem_flag_short {short : String} : short ∈ (flagShort command shorts flag).1 ↔
    short ∈ shorts ∨ isSingleCharacter short = true ∧ flag.short = some short := by
  unfold flagShort
  cases flag.short with
  | none => simp
  | some own =>
    dsimp only
    rw [Option.some.injEq]
    cases single : isSingleCharacter own with
    | false =>
      have apart : ¬ (isSingleCharacter short = true ∧ own = short) := by
        rintro ⟨isSingle, rfl⟩
        exact Bool.false_ne_true (single.symm.trans isSingle)
      simp [apart]
    | true =>
      have same : isSingleCharacter short = true ∧ own = short ↔ short = own :=
        ⟨fun both => both.2.symm, fun same => ⟨same ▸ single, same.symm⟩⟩
      rw [same]
      simp [or_comm]

theorem KeepsUsed.next (keeps : KeepsUsed names shorts earlier) :
    KeepsUsed (names.insert flag.name) (flagShort command shorts flag).1 (earlier ++ [flag]) where
  names name := by
    rw [List.mem_insert_iff, keeps.names]
    simp [or_and_right, exists_or, or_comm, eq_comm]
  shorts short := by
    rw [mem_flag_short, keeps.shorts, ← and_or_left]
    simp [or_and_right, exists_or]

end Used

/-! ## Each loop by what it finds at one item -/

theorem shared_functions_kept {owners : List (String × String)} {earlier commands : List Command}
    (keeps : KeepsFirst Command.functionName Command.name owners earlier) :
    sharedFunctions parent owners commands = gather (functionFinding parent) earlier commands := by
  induction commands generalizing owners earlier with
  | nil => rfl
  | cons command later ih =>
    rw [sharedFunctions, gather, functionFinding]
    cases used : owners.lookup command.functionName with
    | none =>
      have rest := ih (keeps.new used)
      rw [keeps, Option.map_eq_none_iff] at used
      rw [used]
      exact rest
    | some first =>
      have rest := ih (keeps.again used)
      rw [keeps, Option.map_eq_some_iff] at used
      obtain ⟨owner, found, rfl⟩ := used
      rw [found]
      exact congrArg _ rest

theorem shared_functions_gather {commands : List Command} :
    sharedFunctions parent [] commands = gather (functionFinding parent) [] commands :=
  shared_functions_kept keeps_first_nil

theorem taken_aliases_kept {owners : List (String × Selector)} {earlier selectors : List Selector}
    (keeps : KeepsFirst Selector.word id owners earlier) :
    takenAliases parent owners selectors = gather (aliasFinding parent) earlier selectors := by
  induction selectors generalizing owners earlier with
  | nil => rfl
  | cons selector later ih =>
    rw [takenAliases, gather, aliasFinding]
    cases used : owners.lookup selector.word with
    | none =>
      have rest := ih (keeps.new used)
      rw [keeps, Option.map_eq_none_iff] at used
      rw [used]
      exact rest
    | some first =>
      have rest := ih (keeps.again used)
      rw [keeps, Option.map_id] at used
      rw [show earlier.find? (·.word = selector.word) = some first from used]
      by_cases taken : first.index ≠ selector.index ∧ (selector.isShort ∨ first.isShort)
      · simp only [if_pos taken, List.singleton_append, rest]
      · simp only [if_neg taken, List.nil_append, rest]

theorem taken_aliases_gather {selectors : List Selector} :
    takenAliases parent [] selectors = gather (aliasFinding parent) [] selectors :=
  taken_aliases_kept keeps_first_nil

theorem flag_findings_kept {names shorts : List String} {earlier flags : List Flag}
    (keeps : KeepsUsed names shorts earlier) :
    flagFindings command names shorts flags = gather (flagFinding command) earlier flags := by
  induction flags generalizing names shorts earlier with
  | nil => rfl
  | cons flag later ih =>
    have same : names.contains flag.name = earlier.any (·.name = flag.name) := by
      rw [Bool.eq_iff_iff]
      simp [keeps.names]
    rw [flagFindings]
    dsimp only
    rw [same, keeps.found, ih keeps.next, gather, flagFinding]

theorem flag_findings_gather {flags : List Flag} :
    flagFindings command [] [] flags = gather (flagFinding command) [] flags :=
  flag_findings_kept keeps_used_nil

theorem argument_order_kept (earlier arguments : List Argument) :
    argumentOrder command ((earlier.find? (!·.required)).map (·.name)) arguments =
      gather (orderFinding command) earlier arguments := by
  induction arguments generalizing earlier with
  | nil => rfl
  | cons argument later ih =>
    have rest := ih (earlier ++ [argument])
    rw [List.find?_append] at rest
    rw [argumentOrder.eq_def, gather, orderFinding, ← rest]
    cases required : argument.required <;> cases earlier.find? (!·.required) <;> simp [required]

theorem argument_order_gather {arguments : List Argument} :
    argumentOrder command none arguments = gather (orderFinding command) [] arguments :=
  argument_order_kept [] arguments

/-! ## What the findings are about -/

end CommandPlan.LintLoops
