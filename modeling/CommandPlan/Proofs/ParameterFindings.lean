import Mathlib.Data.Finset.Card
import Mathlib.Data.List.Induction
import Mathlib.Data.List.TakeWhile
import CommandPlan.Proofs.LintLoops

/-! What is said about the flags and the arguments of a command. Every flag and every
argument is held against those before it: a flag against all of them, for its name and
then for its letter, and a required argument against the first optional one. So the
findings stand in the order of the parameters, and their number is known without them:
each flag name is used once without a finding, and so are the required arguments in
front of the first optional one. -/
namespace CommandPlan.ParameterFindings
open Lint LintLoops

/-! ## What there is to say -/

variable {α β : Type} {find : List α → α → List β} {earlier items : List α}
variable {command : String} {flags : List Flag} {arguments : List Argument}

/-! ## Loops, item by item -/

end CommandPlan.ParameterFindings
