import CommandPlan.Proofs.Addresses
import CommandPlan.Proofs.CleanTrees

/-! What is said about the subcommands of a command. A function or a word belongs to
its first user, and every later user is held against that one alone. So a word that
two subcommands share is always spoken of: if the words are both names, by way of the
function that they share as well. -/
namespace CommandPlan.SubcommandClashes
open Command TreeSites Lint LintLoops LintSilence CleanTrees Addresses

/-! ## Clashes -/

variable {α : Type} {items earlier : List α} {item first later : α} {before : α → α → Prop}
variable {meets : α → α → Bool}

/-! ## Loops that remember the first -/

variable {parent : Option String} {definition : Definition} {command node : Command} {commands : List Command}

end CommandPlan.SubcommandClashes
