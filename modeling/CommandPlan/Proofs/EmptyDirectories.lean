import CommandPlan.Proofs.DirectoryTree
import CommandPlan.Proofs.PathParent

/-! Paths that lead below a directory with nothing in it lead to no file. A walk
along a longer path comes by where the shorter one leads, and dots between its
names change nothing about what it finds. -/
namespace CommandPlan.EmptyDirectories
open FileSystem FileGrowth PathWalk PathTarget FileChanges DirectoryTree PathParent

/-- The path leads to a directory, and nothing is in it. -/
def EmptyAt (files : FileSystem) (path : Path) : Prop :=
  ∃ location slash, files.locate .look path = .ok ⟨location, some .directory, slash⟩ ∧
    ∀ name, files.entry? (location ++ [name]) = none

variable {files after : FileSystem} {start place location directory : Location}
variable {steps fewer ahead behind rest : List String} {found : Entry} {followLast other slash : Bool}
variable {links : Nat} {purpose : Purpose} {target : Target} {path longer linked : Path} {name : String}

/-! ## Longer paths -/

theorem passes_append (passes : Passes files start steps place ahead) (rest : List String) :
    Passes files start (steps ++ rest) place (ahead ++ rest) := by
  induction passes with
  | stay => exact .stay _ _
  | here on ih => exact .here ih
  | parent on ih => exact .parent ih
  | into looked held on ih => exact .into looked held ih

theorem passes_directory (arrived : files.walk followLast start steps = .arrived place (some .directory)) :
    Passes files start steps place [] := by
  obtain ⟨_, _, passes, arrives⟩ := walk_arrived_iff.mp arrived
  cases arrives with
  | done => exact passes

theorem walk_link_append (met : files.walk followLast start steps = .link directory linked behind)
    (more : rest ≠ []) (other : Bool) :
    files.walk other start (steps ++ rest) = .link directory linked (behind ++ rest) := by
  obtain ⟨name, passes, meets⟩ := walk_link_iff.mp met
  exact walk_link_iff.mpr ⟨name, passes_append passes rest, meets.looked, meets.held, .inl (by simp [more])⟩

/-- A walk that goes on behind a directory is one from that directory. -/
theorem leads_append (leads : Leads files .look links slash start steps target)
    (held : target.entry = some .directory) (more : rest ≠ []) {others : Nat} {last : Target}
    (onward : Leads files purpose others other start (steps ++ rest) last) :
    ∃ links slash, Leads files purpose links slash target.location rest last := by
  induction leads generalizing others other with
  | arrived arrived =>
    cases held
    have passes := passes_append (passes_directory arrived) rest
    cases onward with
    | arrived walked =>
      rw [walk_passes passes] at walked
      exact ⟨0, _, .arrived walked⟩
    | through met on =>
      rw [walk_passes passes] at met
      exact ⟨_, _, .through met on⟩
  | through met on ih =>
    have longer := walk_link_append met more
    cases onward with
    | arrived walked =>
      rw [longer] at walked
      cases walked
    | through metOnward on =>
      rw [longer] at metOnward
      cases metOnward
      rw [← List.append_assoc] at on
      exact ih held on

theorem leads_below_empty (empty : ∀ name, files.entry? (place ++ [name]) = none) (notHere : name ≠ ".")
    (notParent : name ≠ "..") (leads : Leads files purpose links slash place [name] target) :
    target.entry = none := by
  by_cases long : nameLimit < name.utf8ByteSize
  · have refused : ∀ followLast, files.walk followLast place [name] = .failed .nameTooLong := by
      intro followLast
      rw [walk, if_neg notHere, if_neg notParent, if_pos long]
    cases leads with
    | arrived arrived => rw [refused] at arrived; cases arrived
    | through met => rw [refused] at met; cases met
  · have looked : Looked name := ⟨notHere, notParent, long⟩
    cases leads with
    | arrived arrived => rw [walk_at_free looked (empty name)] at arrived; cases arrived; rfl
    | through met => rw [walk_at_free looked (empty name)] at met; cases met

/-! ## Dots -/

theorem passes_skip (skips : Skips steps fewer) (passes : Passes files start steps place ahead) :
    ∃ fewerAhead, Skips ahead fewerAhead ∧ Passes files start fewer place fewerAhead := by
  induction skips generalizing start with
  | done =>
    cases passes with
    | stay => exact ⟨[], .done, .stay _ _⟩
  | @keep steps fewer name rest ih =>
    cases passes with
    | stay => exact ⟨name :: fewer, .keep name rest, .stay _ _⟩
    | here on =>
      obtain ⟨fewerAhead, skips, passes⟩ := ih on
      exact ⟨fewerAhead, skips, .here passes⟩
    | parent on =>
      obtain ⟨fewerAhead, skips, passes⟩ := ih on
      exact ⟨fewerAhead, skips, .parent passes⟩
    | into looked held on =>
      obtain ⟨fewerAhead, skips, passes⟩ := ih on
      exact ⟨fewerAhead, skips, .into looked held passes⟩
  | @dot steps fewer rest ih =>
    generalize dotted : "." = name at passes
    cases passes with
    | stay => exact ⟨fewer, dotted ▸ .dot rest, .stay _ _⟩
    | here on => exact ih on
    | parent on => exact absurd dotted (by decide)
    | into looked => exact absurd dotted.symm looked.notHere

theorem walk_arrived_skip (skips : Skips steps fewer)
    (arrived : files.walk true start steps = .arrived location (some found)) :
    files.walk true start fewer = .arrived location (some found) := by
  obtain ⟨place, ahead, passes, arrives⟩ := walk_arrived_iff.mp arrived
  obtain ⟨fewerAhead, skipsAhead, passesFewer⟩ := passes_skip skips passes
  refine walk_arrived_iff.mpr ⟨place, fewerAhead, passesFewer, ?_⟩
  cases arrives with
  | done => cases skipsAhead; exact .done
  | file looked content held =>
    cases skipsAhead with
    | keep name rest => cases rest; exact .file looked content held
    | dot => exact absurd rfl looked.notHere
  | link looked target held stops => cases stops

theorem walk_link_skip (skips : Skips steps fewer)
    (met : files.walk true start steps = .link directory linked rest) :
    ∃ fewerRest, Skips rest fewerRest ∧ files.walk true start fewer = .link directory linked fewerRest := by
  obtain ⟨name, passes, meets⟩ := walk_link_iff.mp met
  obtain ⟨fewerAhead, skipsAhead, passesFewer⟩ := passes_skip skips passes
  cases skipsAhead with
  | @keep _ fewerRest _ skipsRest =>
    exact ⟨fewerRest, skipsRest, walk_link_iff.mpr ⟨name, passesFewer, meets.looked, meets.held, .inr rfl⟩⟩
  | dot => exact absurd rfl meets.looked.notHere

/-- What a look finds, it finds without the dots as well. -/
theorem leads_skip (skips : Skips steps fewer) (leads : Leads files .look links slash start steps target)
    (held : target.entry = some found) (other : Bool) :
    ∃ last, Leads files .look links other start fewer last ∧ last.entry = some found := by
  induction leads generalizing fewer other with
  | arrived arrived =>
    cases held
    exact ⟨_, .arrived (walk_arrived_skip skips arrived), rfl⟩
  | through met on ih =>
    obtain ⟨fewerRest, skipsRest, metFewer⟩ := walk_link_skip skips met
    obtain ⟨last, leads, same⟩ := ih (skipsRest.append _) held _
    exact ⟨last, .through metFewer leads, same⟩

/-- Nothing is found at a path that adds a name, and dots, to one of a directory
with nothing in it. -/
theorem EmptyAt.nothing_found (empty : EmptyAt files path) (sameStart : longer.isAbsolute = path.isAbsolute)
    (skips : Skips longer.steps (path.steps ++ [name])) (notHere : name ≠ ".") (notParent : name ≠ "..")
    (located : files.locate .look longer = .ok target) : target.entry = none := by
  obtain ⟨location, slash, leadsHere, nothing⟩ := empty
  cases held : target.entry with
  | none => rfl
  | some found =>
    have onward := (locate_iff.mp located).2
    rw [sameStart] at onward
    obtain ⟨last, onward, same⟩ := leads_skip skips onward held false
    obtain ⟨links, behind, below⟩ := leads_append (locate_iff.mp leadsHere).2 rfl (by simp) onward
    rw [leads_below_empty nothing notHere notParent below] at same
    cases same

/-! ## Making them -/

theorem make_directory_empty (rooted : Rooted files) (made : files.makeDirectory path = .ok after) :
    EmptyAt after path := by
  obtain ⟨-, location, slash, rfl, free, looked⟩ := make_directory_ok made
  refine ⟨location, slash, looked, fun name => ?_⟩
  rw [entry_put, if_neg (by simp), if_neg (by simp)]
  cases held : files.entry? (location ++ [name]) with
  | none => rfl
  | some entry =>
    have inside := rooted.parents location name entry held
    rw [free] at inside
    cases inside

/-- Directories for a path without steps to a parent are made only where nothing is
below, or need not be made. -/
theorem make_directories_within_empty (rooted : Rooted files) (fuel : Nat) (path : Path) (forward : ".." ∉ path.steps)
    (done : (files.makeDirectoriesWithin fuel path).2 = .ok ()) :
    Settled files path ∨ EmptyAt (files.makeDirectoriesWithin fuel path).1 path := by
  have rooting := rooted.make_directories_within
  fun_induction files.makeDirectoriesWithin fuel path with
  | case1 fuel path empty => exact .inl (.inl empty)
  | case2 fuel path filled made first => exact .inr (make_directory_empty rooted first)
  | case3 path filled missing fuel parent above between parents made second ih =>
    have rootedBetween := rooting fuel parent
    rw [parents] at rootedBetween
    exact .inr (make_directory_empty rootedBetween second)
  | case4 path filled missing fuel parent above between parents error refused ih =>
    -- The path is a directory now. It was one before, unless its parent is new,
    -- and then the path would be new as well.
    have there : between.isDirectory path = true := unless_directory_ok done
    have settled : Settled files parent → Settled files path := fun parentSettled => by
      rw [parentSettled.make_within] at parents
      cases parents
      exact .inr there
    obtain ⟨forwardParent, empty | ⟨name, notHere, notParent, sameStart, skips⟩⟩ := parent_cases above forward
    · exact .inl (settled (.inl empty))
    · rw [parents] at ih
      obtain parentSettled | new := ih forwardParent rfl
      · exact .inl (settled parentSettled)
      · obtain ⟨location, slash, located⟩ := is_directory_iff.mp there
        cases new.nothing_found sameStart skips notHere notParent located
  | case5 => cases done
  | case6 => cases done
  | case7 fuel path filled error other refused => exact .inl (.inr (unless_directory_ok done))

theorem make_directories_empty (rooted : Rooted files) (forward : ".." ∉ path.steps)
    (done : files.makeDirectories path = (after, .ok ())) : Settled files path ∨ EmptyAt after path := by
  unfold makeDirectories at done
  have made := make_directories_within_empty rooted _ path forward (congrArg Prod.snd done)
  rwa [done] at made

end CommandPlan.EmptyDirectories
