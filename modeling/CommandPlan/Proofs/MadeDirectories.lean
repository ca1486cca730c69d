import CommandPlan.Proofs.EmptyDirectories
import CommandPlan.Proofs.StubPlaces

/-! What is made for a path with the directories above it. The directories lie on the way
of the path: whoever walks along all of it comes by each of them. -/
namespace CommandPlan.MadeDirectories
open FileSystem FileGrowth PathWalk PathTarget FileChanges PathParent EmptyDirectories StubPlaces

/-- Where relative paths start, or the top. -/
def startOf (files : FileSystem) (path : Path) : Location :=
  if path.isAbsolute then [] else files.workingDirectory

/-- A walk along the path comes by the place. -/
def OnTheWay (files : FileSystem) (path : Path) (place : Location) : Prop :=
  ∃ ahead, Passes files (startOf files path) path.steps place ahead

/-- Nothing is new but directories on the way of the path. -/
def OnlyOnTheWay (before after : FileSystem) (path : Path) : Prop :=
  ∀ location entry, after.entry? location = some entry →
    before.entry? location = some entry ∨ entry = .directory ∧ OnTheWay after path location

variable {files before middle after : FileSystem} {path parent : Path} {start place location : Location}
variable {steps fewer ahead : List String}

/-! ## Ways -/

/-- A walk comes by the same places if dots are put between its steps. -/
theorem passes_dotted (skips : Skips steps fewer) (passes : Passes files start fewer place ahead) :
    ∃ dottedAhead, Passes files start steps place dottedAhead := by
  induction skips generalizing start with
  | done => exact ⟨ahead, passes⟩
  | @keep steps fewer name rest ih =>
    cases passes with
    | stay => exact ⟨name :: steps, .stay _ _⟩
    | here on =>
      obtain ⟨dottedAhead, passes⟩ := ih on
      exact ⟨dottedAhead, .here passes⟩
    | parent on =>
      obtain ⟨dottedAhead, passes⟩ := ih on
      exact ⟨dottedAhead, .parent passes⟩
    | into looked held on =>
      obtain ⟨dottedAhead, passes⟩ := ih on
      exact ⟨dottedAhead, .into looked held passes⟩
  | dot rest ih =>
    obtain ⟨dottedAhead, passes⟩ := ih passes
    exact ⟨dottedAhead, .here passes⟩

theorem OnTheWay.grows (grows : Grows before after) (onTheWay : OnTheWay before path place) :
    OnTheWay after path place := by
  obtain ⟨ahead, passes⟩ := onTheWay
  rw [OnTheWay, startOf, grows.workingDirectory]
  exact ⟨ahead, passes.grows grows⟩

/-- The way of a path begins with that of its parent. -/
theorem OnTheWay.of_parent (above : path.parent? = some parent) (onTheWay : OnTheWay files parent place) :
    OnTheWay files path place := by
  obtain ⟨sameStart, parentSteps⟩ := parent_steps above
  obtain ⟨some, -⟩ := parent_spelled above
  obtain ⟨ahead, passes⟩ := onTheWay
  have longer := passes_append passes [(trimmed path).getLast some]
  rw [parentSteps, List.dropLast_concat_getLast some] at longer
  rw [OnTheWay, startOf, sameStart]
  exact passes_dotted (skips_trimmed path) longer

/-! ## Making -/

theorem OnlyOnTheWay.refl (files : FileSystem) (path : Path) : OnlyOnTheWay files files path :=
  fun _ _ held => .inl held

theorem OnlyOnTheWay.of_parent (above : path.parent? = some parent) (only : OnlyOnTheWay before after parent) :
    OnlyOnTheWay before after path := by
  intro location entry held
  exact (only location entry held).imp_right fun ⟨directory, onTheWay⟩ => ⟨directory, onTheWay.of_parent above⟩

/-- The directory that is made for a path is at the end of its way. -/
theorem make_directory_on_the_way (linkFree : NoLinks files) (made : files.makeDirectory path = .ok after) :
    OnlyOnTheWay files after path := by
  obtain ⟨-, place, slash, rfl, -, looked⟩ := make_directory_ok made
  have linkFreeAfter : NoLinks (files.put place .directory) := linkFree.put nofun
  obtain ⟨last, ahead, passes, arrives⟩ := linkFreeAfter.arrives (locate_iff.mp looked).2
  have there : OnTheWay (files.put place .directory) path place := by
    cases arrives with
    | done => exact ⟨[], passes⟩
  intro location entry held
  rw [entry_put] at held
  split at held
  · rename_i top
    rw [top, entry_top]
    exact .inl held
  split at held
  · rename_i here
    cases held
    exact .inr ⟨rfl, here ▸ there⟩
  · exact .inl held

theorem OnlyOnTheWay.trans (left : OnlyOnTheWay before middle path) (grows : Grows middle after)
    (right : OnlyOnTheWay middle after path) : OnlyOnTheWay before after path := by
  intro location entry held
  obtain between | new := right location entry held
  · exact (left location entry between).imp_right fun ⟨directory, onTheWay⟩ => ⟨directory, onTheWay.grows grows⟩
  · exact .inr new

theorem make_directories_within_on_the_way (linkFree : NoLinks files) (fuel : Nat) (path : Path) :
    OnlyOnTheWay files (files.makeDirectoriesWithin fuel path).1 path := by
  have stayLinkFree : ∀ fuel path, NoLinks (files.makeDirectoriesWithin fuel path).1 :=
    make_directories_within_keep NoLinks.make_directory linkFree
  fun_induction files.makeDirectoriesWithin fuel path with
  | case1 fuel path empty => exact .refl files path
  | case2 fuel path filled made first => exact make_directory_on_the_way linkFree first
  | case3 path filled missing fuel parent above between parents made second ih =>
    have linkFreeBetween := stayLinkFree fuel parent
    rw [parents] at ih linkFreeBetween
    exact (ih.of_parent above).trans (make_directory_ok second).1.grows
      (make_directory_on_the_way linkFreeBetween second)
  | case4 path filled missing fuel parent above between parents error refused ih =>
    rw [parents] at ih
    exact ih.of_parent above
  | case5 path filled missing fuel parent above between error parents ih =>
    rw [parents] at ih
    exact ih.of_parent above
  | case6 => exact .refl files _
  | case7 => exact .refl files _

/-- Where there are no links, the directories that are made for a path lie on its way. -/
theorem make_directories_on_the_way (linkFree : NoLinks files) (path : Path) :
    OnlyOnTheWay files (files.makeDirectories path).1 path :=
  make_directories_within_on_the_way linkFree _ path

end CommandPlan.MadeDirectories
