import CommandPlan.Proofs.FileGrowth

/-! A walk up to the first link. It passes directories, and those stay where they
are when the files grow, so a walk that arrived somewhere arrives there again.
Whether a link at the end is passed matters only where one is. -/
namespace CommandPlan.PathWalk
open FileSystem FileGrowth

/-- A name that a walk looks up: no dots, and not too long. -/
structure Looked (name : String) : Prop where
  notHere : name ≠ "."
  notParent : name ≠ ".."
  short : ¬ nameLimit < name.utf8ByteSize

/-- The way of a walk through directories, from one place with the steps ahead of
it to another. -/
inductive Passes (files : FileSystem) : Location → List String → Location → List String → Prop where
  | stay (place : Location) (ahead : List String) : Passes files place ahead place ahead
  | here {start place : Location} {rest ahead : List String}
      (on : Passes files start rest place ahead) : Passes files start ("." :: rest) place ahead
  | parent {start place : Location} {rest ahead : List String}
      (on : Passes files start.dropLast rest place ahead) : Passes files start (".." :: rest) place ahead
  | into {start place : Location} {name : String} {rest ahead : List String} (looked : Looked name)
      (held : files.entry? (start ++ [name]) = some .directory)
      (on : Passes files (start ++ [name]) rest place ahead) : Passes files start (name :: rest) place ahead

/-- Where a walk through directories ends: behind its last step, at a name that is
too long, or at one that stands for anything but a directory. -/
inductive Ends (files : FileSystem) (place : Location) : List String → Prop where
  | done : Ends files place []
  | refused {name : String} {rest : List String} (long : ∀ (files : FileSystem) followLast,
      files.walk followLast place (name :: rest) = .failed .nameTooLong) : Ends files place (name :: rest)
  | free {name : String} {rest : List String} (looked : Looked name)
      (held : files.entry? (place ++ [name]) = none) : Ends files place (name :: rest)
  | file {name : String} {rest : List String} (looked : Looked name) (content : List UInt8)
      (held : files.entry? (place ++ [name]) = some (.file content)) : Ends files place (name :: rest)
  | link {name : String} {rest : List String} (looked : Looked name) (target : Path)
      (held : files.entry? (place ++ [name]) = some (.link target)) : Ends files place (name :: rest)

variable {files before after : FileSystem} {followLast : Bool} {start location directory place : Location}
variable {steps rest ahead : List String} {name : String} {entry : Option Entry} {found : Entry}
variable {linked : Path} {content : List UInt8}

/-! ## One walk without links -/

theorem walk_passes (passes : Passes files start steps place ahead) :
    files.walk followLast start steps = files.walk followLast place ahead := by
  induction passes with
  | stay => rfl
  | here on ih => rw [walk, if_pos rfl, ih]
  | parent on ih => rw [walk, if_neg (by decide), if_pos rfl, ih]
  | into looked held on ih =>
    rw [walk, if_neg looked.notHere, if_neg looked.notParent, if_neg looked.short, ← ih]
    simp only [held]

theorem Passes.kept (frame : KeepsFrame before after) (passes : Passes before start steps place ahead) :
    Passes after start steps place ahead := by
  induction passes with
  | stay place ahead => exact .stay place ahead
  | here on ih => exact .here ih
  | parent on ih => exact .parent ih
  | into looked held on ih => exact .into looked (frame.directory _ held) ih

theorem Passes.grows (grows : Grows before after) (passes : Passes before start steps place ahead) :
    Passes after start steps place ahead :=
  passes.kept grows.frame

theorem walk_ends (files : FileSystem) (start : Location) (steps : List String) :
    ∃ place ahead, Passes files start steps place ahead ∧ Ends files place ahead := by
  induction steps generalizing start with
  | nil => exact ⟨start, [], .stay start [], .done⟩
  | cons name rest ih =>
    by_cases here : name = "."
    · obtain ⟨place, ahead, passes, ends⟩ := ih start
      exact ⟨place, ahead, here ▸ .here passes, ends⟩
    by_cases parent : name = ".."
    · obtain ⟨place, ahead, passes, ends⟩ := ih start.dropLast
      exact ⟨place, ahead, parent ▸ .parent passes, ends⟩
    by_cases long : nameLimit < name.utf8ByteSize
    · refine ⟨start, name :: rest, .stay _ _, .refused fun files followLast => ?_⟩
      rw [walk, if_neg here, if_neg parent, if_pos long]
    have looked : Looked name := ⟨here, parent, long⟩
    cases held : files.entry? (start ++ [name]) with
    | none => exact ⟨start, name :: rest, .stay _ _, .free looked held⟩
    | some entry =>
      cases entry with
      | directory =>
        obtain ⟨place, ahead, passes, ends⟩ := ih (start ++ [name])
        exact ⟨place, ahead, .into looked held passes, ends⟩
      | file content => exact ⟨start, name :: rest, .stay _ _, .file looked content held⟩
      | link target => exact ⟨start, name :: rest, .stay _ _, .link looked target held⟩

theorem walk_at_free (looked : Looked name) (held : files.entry? (place ++ [name]) = none) :
    files.walk followLast place (name :: rest) =
      if rest.isEmpty then .arrived (place ++ [name]) none else .failed .notFound := by
  rw [walk, if_neg looked.notHere, if_neg looked.notParent, if_neg looked.short]
  simp only [held]

theorem walk_at_file (looked : Looked name) (held : files.entry? (place ++ [name]) = some (.file content)) :
    files.walk followLast place (name :: rest) =
      if rest.isEmpty then .arrived (place ++ [name]) (some (.file content)) else .failed .notDirectory := by
  rw [walk, if_neg looked.notHere, if_neg looked.notParent, if_neg looked.short]
  simp only [held]

theorem walk_at_link (looked : Looked name) (held : files.entry? (place ++ [name]) = some (.link linked)) :
    files.walk followLast place (name :: rest) =
      if rest.isEmpty && !followLast then .arrived (place ++ [name]) (some (.link linked))
      else .link place linked rest := by
  rw [walk, if_neg looked.notHere, if_neg looked.notParent, if_neg looked.short]
  simp only [held]

/-- How a walk ends that arrives: in the directory that it is in, or at a last
name, which is passed only if it is a directory's or a link's that is followed. -/
inductive Arrives (files : FileSystem) (followLast : Bool) (place : Location) :
    List String → Location → Option Entry → Prop where
  | done : Arrives files followLast place [] place (some .directory)
  | free {name : String} (looked : Looked name) (held : files.entry? (place ++ [name]) = none) :
      Arrives files followLast place [name] (place ++ [name]) none
  | file {name : String} (looked : Looked name) (content : List UInt8)
      (held : files.entry? (place ++ [name]) = some (.file content)) :
      Arrives files followLast place [name] (place ++ [name]) (some (.file content))
  | link {name : String} (looked : Looked name) (target : Path)
      (held : files.entry? (place ++ [name]) = some (.link target)) (stops : followLast = false) :
      Arrives files followLast place [name] (place ++ [name]) (some (.link target))

/-- A link that a walk meets and that is to be passed, with the steps behind it. -/
structure Meets (files : FileSystem) (followLast : Bool) (directory : Location) (name : String)
    (linked : Path) (rest : List String) : Prop where
  looked : Looked name
  held : files.entry? (directory ++ [name]) = some (.link linked)
  passed : rest ≠ [] ∨ followLast = true

theorem walk_arrived_iff : files.walk followLast start steps = .arrived location entry ↔
    ∃ place ahead, Passes files start steps place ahead ∧ Arrives files followLast place ahead location entry := by
  constructor
  · intro arrived
    obtain ⟨place, ahead, passes, ends⟩ := walk_ends files start steps
    rw [walk_passes passes] at arrived
    refine ⟨place, ahead, passes, ?_⟩
    cases ends with
    | done => cases arrived; exact .done
    | refused long => rw [long] at arrived; cases arrived
    | @free name rest looked held =>
      rw [walk_at_free looked held] at arrived
      cases rest with
      | nil => cases arrived; exact .free looked held
      | cons => cases arrived
    | @file name rest looked content held =>
      rw [walk_at_file looked held] at arrived
      cases rest with
      | nil => cases arrived; exact .file looked content held
      | cons => cases arrived
    | @link name rest looked target held =>
      rw [walk_at_link looked held] at arrived
      cases rest with
      | nil =>
        cases followLast with
        | true => cases arrived
        | false => cases arrived; exact .link looked target held rfl
      | cons => cases arrived
  · rintro ⟨place, ahead, passes, arrives⟩
    rw [walk_passes passes]
    cases arrives with
    | done => rfl
    | free looked held => exact walk_at_free looked held
    | file looked content held => exact walk_at_file looked held
    | link looked target held stops => rw [walk_at_link looked held, stops]; rfl

theorem walk_link_iff : files.walk followLast start steps = .link directory linked rest ↔
    ∃ name, Passes files start steps directory (name :: rest) ∧
      Meets files followLast directory name linked rest := by
  constructor
  · intro met
    obtain ⟨place, ahead, passes, ends⟩ := walk_ends files start steps
    rw [walk_passes passes] at met
    cases ends with
    | done => cases met
    | refused long => rw [long] at met; cases met
    | free looked held =>
      rw [walk_at_free looked held] at met
      split at met <;> cases met
    | file looked content held =>
      rw [walk_at_file looked held] at met
      split at met <;> cases met
    | link looked target held =>
      rw [walk_at_link looked held] at met
      split at met
      · cases met
      · rename_i passed
        cases met
        exact ⟨_, passes, looked, held, by simpa [Decidable.or_iff_not_imp_left] using passed⟩
  · rintro ⟨name, passes, meets⟩
    rw [walk_passes passes, walk_at_link meets.looked meets.held, if_neg]
    cases meets.passed with
    | inl more => simp [more]
    | inr follows => simp [follows]

/-- A walk gives the entry at the place where it arrives. Only a directory may be
given without one: where the walk starts is never looked up. -/
theorem walk_arrived_entry (arrived : files.walk followLast start steps = .arrived location entry) :
    entry = some .directory ∨ files.entry? location = entry := by
  obtain ⟨place, ahead, -, arrives⟩ := walk_arrived_iff.mp arrived
  cases arrives with
  | done => exact .inl rfl
  | free looked held => exact .inr held
  | file looked content held => exact .inr held
  | link looked target held => exact .inr held

/-- What a walk arrives at, it arrives at later too. -/
theorem walk_arrived_grows (grows : Grows before after)
    (arrived : before.walk followLast start steps = .arrived location (some found)) :
    ∃ later, after.walk followLast start steps = .arrived location (some later) ∧ SameKind found later := by
  obtain ⟨place, ahead, passes, arrives⟩ := walk_arrived_iff.mp arrived
  have passesAfter := passes.grows grows
  cases arrives with
  | done => exact ⟨.directory, walk_arrived_iff.mpr ⟨_, _, passesAfter, .done⟩, .directory⟩
  | file looked content held =>
    obtain ⟨new, heldAfter⟩ := grows.file held
    exact ⟨.file new, walk_arrived_iff.mpr ⟨_, _, passesAfter, .file looked new heldAfter⟩, .file content new⟩
  | link looked target held stops =>
    have arrivesAfter := Arrives.link looked target (grows.link held) stops
    exact ⟨.link target, walk_arrived_iff.mpr ⟨_, _, passesAfter, arrivesAfter⟩, .link target⟩

theorem walk_link_kept (frame : KeepsFrame before after)
    (met : before.walk followLast start steps = .link directory linked rest) :
    after.walk followLast start steps = .link directory linked rest := by
  obtain ⟨name, passes, meets⟩ := walk_link_iff.mp met
  exact walk_link_iff.mpr ⟨name, passes.kept frame, meets.looked, frame.link _ _ meets.held, meets.passed⟩

/-- A directory that is arrived at is arrived at wherever the directories are kept. -/
theorem walk_directory_kept (frame : KeepsFrame before after)
    (arrived : before.walk followLast start steps = .arrived location (some .directory)) :
    after.walk followLast start steps = .arrived location (some .directory) := by
  obtain ⟨place, ahead, passes, arrives⟩ := walk_arrived_iff.mp arrived
  cases arrives with
  | done => exact walk_arrived_iff.mpr ⟨_, _, passes.kept frame, .done⟩

theorem walk_link_grows (grows : Grows before after)
    (met : before.walk followLast start steps = .link directory linked rest) :
    after.walk followLast start steps = .link directory linked rest :=
  walk_link_kept grows.frame met

/-- Where a walk arrives at nothing, it arrives at the entry that is put there, if
that is no link. -/
theorem walk_filled (grows : Grows before after)
    (arrived : before.walk followLast start steps = .arrived location none)
    (filled : after.entry? location = some found) (notLink : ∀ target, found ≠ .link target) :
    after.walk followLast start steps = .arrived location (some found) := by
  obtain ⟨place, ahead, passes, arrives⟩ := walk_arrived_iff.mp arrived
  cases arrives with
  | free looked held =>
    rw [walk_passes (passes.grows grows)]
    cases found with
    | file content =>
      rw [walk_at_file looked filled]
      rfl
    | directory => exact walk_passes (.into looked filled (.stay _ []))
    | link target => exact absurd rfl (notLink target)

/-- Only a link at the end tells the walks that pass it from those that do not. -/
theorem walk_to_last (files : FileSystem) (start : Location) (steps : List String) :
    files.walk false start steps = files.walk true start steps ∨
      ∃ directory target location, files.walk true start steps = .link directory target [] ∧
        files.walk false start steps = .arrived location (some (.link target)) := by
  obtain ⟨place, ahead, passes, ends⟩ := walk_ends files start steps
  rw [walk_passes passes, walk_passes passes]
  cases ends with
  | done => exact .inl rfl
  | refused long => exact .inl (by rw [long, long])
  | free looked held => exact .inl (by rw [walk_at_free looked held, walk_at_free looked held])
  | file looked content held => exact .inl (by rw [walk_at_file looked held, walk_at_file looked held])
  | @link name rest looked target held =>
    rw [walk_at_link looked held, walk_at_link looked held]
    cases rest with
    | nil => exact .inr ⟨place, target, place ++ [name], rfl, rfl⟩
    | cons => exact .inl rfl

end CommandPlan.PathWalk
