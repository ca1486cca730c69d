import CommandPlan.Lint
import CommandPlan.Orphan
import CommandPlan.Run

/-! Checking a configuration and the fragments beside it. Only a configuration
that cannot be used makes the check fail; all else is a warning. -/
namespace CommandPlan

/-- Loads the fragments of the given leaves. -/
def loadFragments (files : FileSystem) (sourceDirectory : Path) : List Command → Logged (List Fragment)
  | [] => pure []
  | leaf :: leaves => do
    let fragment ← Fragment.load files sourceDirectory leaf.fragmentFile
    let fragments ← loadFragments files sourceDirectory leaves
    pure (fragment :: fragments)

def validate (settings : Settings) : Run Unit := do
  Run.record (.info ("Validating configuration " ++ settings.configuration.text ++ "..."))
  let files ← Run.files
  let root ← Run.ofExcept (loadTree files settings.configuration)
  let warnings := root.lint
  warnings.forM fun warning => Run.record (.warn (Markup.colorize settings.color warning.message))
  let fragments ← Run.ofLogged (loadFragments files settings.sourceDirectory root.leaves)
  let missing := (fragments.filter (·.isMissing)).length
  if missing ≠ 0 then
    Run.record (.info (toString missing ++ " fragment(s) missing; run \x60shcraft init\x60 to create stubs."))
  let orphans := orphans files settings.sourceDirectory (fragments.map (·.path))
  orphans.forM fun orphan =>
    Run.record (.warn ("Fragment " ++ orphan.text ++ " does not belong to any command."))
  Run.record (.info ("✅ Configuration is valid: " ++ toString root.nodes.length ++ " command(s), " ++
    toString (warnings.length + missing + orphans.length) ++ " warning(s)."))

end CommandPlan
