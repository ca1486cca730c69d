import CommandPlan.Proofs.Addresses
import CommandPlan.Proofs.RunEffects
import Mathlib.Data.List.Forall2

/-! The plan of a command tree against the tree. Both are gone through parents first: a plan
has its views in the order in which the tree lists its nodes. A view depends on its node and
on what is below, so the plan of any command is a part of the plan of the whole, and that
part is what an inspection of the command prints. -/
namespace CommandPlan.PlanNodes
open Command Addresses RunEffects

/-- The plan of a command. -/
def plan (loader : Loader) (command : Command) : CommandView :=
  (command.view loader).value

mutual

/-- The views of a plan, parents before their children. -/
def listed : CommandView → List CommandView
  | view@⟨_, _, _, _, _, _, _, _, _, _, _, commands⟩ => view :: listedOf commands

def listedOf : List CommandView → List CommandView
  | [] => []
  | view :: views => listed view ++ listedOf views

end

/-- The view that an address leads to. -/
def viewAt? : Address → CommandView → Option CommandView
  | [], view => some view
  | index :: below, view => view.commands[index]?.bind (viewAt? below)

/-- An argument as a plan shows it. -/
structure ShowsArgument (argument : Argument) (view : ArgumentView) : Prop where
  name : view.name = argument.name
  usage : view.usage = argument.usage
  required : view.required = argument.required
  defaultText : view.defaultText = argument.defaultText
  summary : view.summary = argument.summary

/-- A flag as a plan shows it. -/
structure ShowsFlag (flag : Flag) (view : FlagView) : Prop where
  name : view.name = flag.name
  usage : view.usage = flag.usage
  aliases : view.aliases = flag.aliases
  required : view.required = flag.required
  takesValue : view.takesValue = flag.takesValue
  defaultText : view.defaultText = flag.defaultText
  summary : view.summary = flag.summary

/-- A command as a plan shows it. It has a fragment if it is a leaf and fragments are asked
for: the text that is loaded for its file. -/
structure Shows (loader : Loader) (node : Command) (view : CommandView) : Prop where
  fullName : view.fullName = node.fullName
  functionName : view.functionName = node.functionName
  caption : view.caption = node.caption
  usage : view.usage = node.usage
  aliases : view.aliases = node.aliases
  commandNames : view.commandNames = node.commandNames
  requiredArguments : view.requiredArguments = node.requiredArguments.map (·.name)
  requiredFlags : view.requiredFlags = node.requiredFlags.map (·.name)
  arguments : List.Forall₂ ShowsArgument node.arguments view.arguments
  flags : List.Forall₂ ShowsFlag node.flags view.flags
  fragment_iff : ∀ text, view.fragment = some text ↔
    ∃ load, loader = some load ∧ node.isLeaf = true ∧ text = (load node.fragmentFile).value

variable {loader : Loader} {command root node : Command} {address : Address} {workspace : Workspace}
variable {settings : Settings}

/-! ## Values with their records -/

instance : LawfulMonad Logged :=
  LawfulMonad.mk' Logged
    (fun _ => by simp [Functor.map])
    (fun _ _ => rfl)
    (fun first second third => by simp [bind])

/-- What is made of each item, and the records of all of them in order. -/
theorem logged_each {α β : Type} (each : α → Logged β) (items : List α) :
    items.mapM each = ⟨items.map fun item => (each item).value, items.flatMap fun item => (each item).log⟩ := by
  induction items with
  | nil => rfl
  | cons item items ih =>
    rw [List.mapM_cons, ih]
    simp [bind, pure]

theorem views_of_each (loader : Loader) (commands : List Command) :
    viewsOf loader commands =
      ⟨commands.map (plan loader), commands.flatMap fun command => (command.view loader).log⟩ := by
  induction commands with
  | nil => rfl
  | cons command commands ih =>
    rw [viewsOf, ih]
    simp [bind, pure, plan]

/-- A plan is made of what a node gives by itself and of the plans of its subcommands. -/
theorem plan_node (loader : Loader) (command : Command) :
    plan loader command =
      { fullName := command.fullName, functionName := command.functionName
        caption := command.caption, usage := command.usage, aliases := command.aliases
        commandNames := command.commandNames
        requiredArguments := command.requiredArguments.map (·.name)
        requiredFlags := command.requiredFlags.map (·.name)
        arguments := command.arguments.map fun argument => argument.view.value
        flags := command.flags.map fun flag => flag.view.value
        fragment := (command.loadFragment loader).value
        commands := command.commands.map (plan loader) } := by
  obtain ⟨name, short, help, parentName, arguments, flags, commands⟩ := command
  rw [plan, view, logged_each, logged_each, views_of_each]
  rfl

/-! ## One node -/

theorem shown_default (value : Option Yaml.Value) : (shownDefault value).value = defaultTextOf value := by
  cases value with
  | none => rfl
  | some value =>
    rw [shownDefault]
    split <;> rfl

theorem shows_argument (argument : Argument) : ShowsArgument argument argument.view.value := by
  have text := shown_default argument.defaultValue
  exact ⟨rfl, rfl, rfl, text, rfl⟩

theorem shows_flag (flag : Flag) : ShowsFlag flag flag.view.value := by
  have text := shown_default flag.defaultValue
  exact ⟨rfl, rfl, rfl, rfl, rfl, text, rfl⟩

theorem loaded_fragment_iff {text : String} : (node.loadFragment loader).value = some text ↔
    ∃ load, loader = some load ∧ node.isLeaf = true ∧ text = (load node.fragmentFile).value := by
  cases loader with
  | none => simp [loadFragment, pure]
  | some load =>
    cases leaf : node.isLeaf with
    | false => simp [loadFragment, leaf, pure]
    | true => simp [loadFragment, leaf, Functor.map, eq_comm]

theorem plan_shows (loader : Loader) (node : Command) : Shows loader node (plan loader node) := by
  rw [plan_node]
  have arguments : List.Forall₂ ShowsArgument node.arguments
      (node.arguments.map fun argument => argument.view.value) := by
    rw [List.forall₂_map_right_iff]
    exact List.forall₂_same.mpr fun argument _ => shows_argument argument
  have flags : List.Forall₂ ShowsFlag node.flags (node.flags.map fun flag => flag.view.value) := by
    rw [List.forall₂_map_right_iff]
    exact List.forall₂_same.mpr fun flag _ => shows_flag flag
  exact ⟨rfl, rfl, rfl, rfl, rfl, rfl, rfl, rfl, arguments, flags, fun text => loaded_fragment_iff⟩

/-! ## All nodes -/

theorem listed_head (view : CommandView) : listed view = view :: listedOf view.commands := by
  cases view
  rfl

mutual

/-- The views of a plan are the plans of the nodes, in the same order. -/
theorem listed_plan (loader : Loader) : ∀ command : Command,
    listed (plan loader command) = command.nodes.map (plan loader)
  | ⟨name, short, help, parentName, arguments, flags, commands⟩ => by
    rw [listed_head, nodes, List.map_cons, plan_node]
    exact congrArg (_ :: ·) (listed_of_plans loader commands)

theorem listed_of_plans (loader : Loader) : ∀ commands : List Command,
    listedOf (commands.map (plan loader)) = (nodesOf commands).map (plan loader)
  | [] => rfl
  | command :: commands => by
    rw [List.map_cons, listedOf, nodesOf, List.map_append, listed_plan loader command,
      listed_of_plans loader commands]

end

/-- What an address leads to in a plan is the plan of what it leads to in the tree. -/
theorem view_at_plan : viewAt? address (plan loader command) = (at? address command).map (plan loader) := by
  induction address generalizing command with
  | nil => rfl
  | cons index below ih =>
    have children : (plan loader command).commands = command.commands.map (plan loader) := by
      rw [plan_node]
    rw [viewAt?, at?, children, List.getElem?_map]
    cases command.commands[index]? with
    | none => rfl
    | some child => exact ih

/-! ## Inspections -/

/-- An inspection ends well and prints a plan. -/
def Prints (run : Run Unit) (workspace : Workspace) (view : CommandView) : Prop :=
  (outcome run workspace).1 = .ok () ∧ (outcome run workspace).2.output = workspace.output ++ view.text

theorem inspect_prints {fullName : Option String} (fragments : Bool)
    (loaded : loadTree workspace.files settings.configuration = .ok root)
    (found : root.select fullName = .ok command) :
    Prints (inspect settings fullName fragments) workspace
      (plan (fragmentLoader workspace.files settings.sourceDirectory fragments) command) := by
  have ended := inspect_loaded fragments loaded found
  constructor
  · rw [ended]
  · rw [ended]
    rfl

/-- An inspection of an unknown command is refused, and of no other. -/
theorem inspect_refused_iff {fullName : String} (fragments : Bool)
    (loaded : loadTree workspace.files settings.configuration = .ok root) :
    (outcome (inspect settings (some fullName) fragments) workspace).1 = .error (.unknownCommand fullName) ↔
      ∀ node ∈ root.nodes, node.fullName ≠ fullName := by
  have absent : root.find? fullName = none ↔ ∀ node ∈ root.nodes, node.fullName ≠ fullName := by
    simp [find?]
  rw [← absent]
  constructor
  · intro refused
    cases found : root.find? fullName with
    | none => rfl
    | some command =>
      have selected : root.select (some fullName) = .ok command := by simp [select, found]
      have ended := (inspect_prints fragments loaded selected).1
      rw [ended] at refused
      cases refused
  · intro none
    have unknown : root.select (some fullName) = .error (.unknownCommand fullName) := by simp [select, none]
    rw [inspect, outcome_then (outcome_record _), outcome_then outcome_files,
      outcome_then ((outcome_of_except _).trans (by rw [loaded])), outcome_bind, outcome_of_except, unknown]

/-- The plan of a tree shows its nodes one by one, in their order, and what an address leads
to in it is the plan of the node there. So where a configuration can be used, the inspection
of a command prints the part of the whole plan that belongs to the first node with the full
name, and is refused if and only if no node has it. -/
theorem plan_follows_tree (command : Command) :
    (∀ loader, List.Forall₂ (Shows loader) command.nodes (listed (plan loader command)) ∧
      ∀ address, viewAt? address (plan loader command) = (at? address command).map (plan loader)) ∧
    ∀ settings fragments workspace, loadTree workspace.files settings.configuration = .ok command →
      let whole := plan (fragmentLoader workspace.files settings.sourceDirectory fragments) command
      Prints (inspect settings none fragments) workspace whole ∧
      ∀ fullName,
        ((outcome (inspect settings (some fullName) fragments) workspace).1 =
            .error (.unknownCommand fullName) ↔ ∀ node ∈ command.nodes, node.fullName ≠ fullName) ∧
        ∀ address node, at? address command = some node → node.fullName = fullName →
          (∀ other < address, ∀ earlier, at? other command = some earlier → earlier.fullName ≠ fullName) →
            ∃ part, viewAt? address whole = some part ∧
              Prints (inspect settings (some fullName) fragments) workspace part := by
  refine ⟨fun loader => ⟨?_, fun address => view_at_plan⟩, fun settings fragments workspace loaded => ?_⟩
  · rw [listed_plan, List.forall₂_map_right_iff]
    exact List.forall₂_same.mpr fun node _ => plan_shows loader node
  · intro whole
    have root : command.select none = .ok command := rfl
    refine ⟨inspect_prints fragments loaded root, fun fullName => ?_⟩
    refine ⟨inspect_refused_iff fragments loaded, fun address node reached named first => ?_⟩
    have found : command.find? fullName = some node := find?_eq_some_iff.mpr ⟨address, reached, named, first⟩
    have selected : command.select (some fullName) = .ok node := by simp [select, found]
    refine ⟨_, ?_, inspect_prints fragments loaded selected⟩
    rw [view_at_plan, reached, Option.map_some]

/-- Two leaves, of which one has its fragment. -/
def gitFiles : FileSystem where
  entries := [(["src"], .directory),
    (["src", "shcraft.yml"], .file (Utf8.encode "name: git\ncommands:\n  - name: commit\n  - name: push".toList)),
    (["src", "git_push_command.sh"], .file (Utf8.encode "echo push".toList))]
  unique := by decide

def gitSettings : Settings := ⟨⟨"src"⟩, ⟨"src/shcraft.yml"⟩, false⟩

def gitLoader : Loader :=
  fragmentLoader gitFiles gitSettings.sourceDirectory true

/-- The inspection of the second leaf prints its part of the plan, and that of a third is
refused. -/
theorem inspection_prints_push :
    ∃ root address part, loadTree gitFiles gitSettings.configuration = .ok root ∧
      Prints (inspect gitSettings none true) { files := gitFiles } (plan gitLoader root) ∧
      viewAt? address (plan gitLoader root) = some part ∧ part.fullName = "git push" ∧
      part.fragment = some "# :src/git_push_command.sh\necho push" ∧
      Prints (inspect gitSettings (some "git push") true) { files := gitFiles } part ∧
      (outcome (inspect gitSettings (some "git pull") true) { files := gitFiles }).1 =
        .error (.unknownCommand "git pull") := by
  have seen : ((loadTree gitFiles gitSettings.configuration).toOption.bind fun root =>
      (root.find? "git push").map fun node => (root.nodes.map (·.fullName), (plan gitLoader node).fragment)) =
        some (["git", "git commit", "git push"], some "# :src/git_push_command.sh\necho push") := by
    decide +kernel
  obtain ⟨root, isRoot, shown⟩ := Option.bind_eq_some_iff.mp seen
  obtain ⟨node, found, facts⟩ := Option.map_eq_some_iff.mp shown
  obtain ⟨names, fragment⟩ := Prod.mk.inj facts
  have loaded := to_option_eq_some_iff.mp isRoot
  obtain ⟨address, reached, named, first⟩ := find?_eq_some_iff.mp found
  obtain ⟨follows, inspected⟩ := plan_follows_tree root
  obtain ⟨whole, parts⟩ := inspected gitSettings true { files := gitFiles } loaded
  obtain ⟨part, there, printed⟩ := (parts "git push").2 address node reached named first
  have isPlan : part = plan gitLoader node := by
    have led := (follows gitLoader).2 address
    rw [reached] at led
    exact Option.some.inj (there.symm.trans led)
  refine ⟨root, address, part, loaded, whole, there, ?_, ?_, printed, (parts "git pull").1.mpr ?_⟩
  · rw [isPlan, plan_node]
    exact named
  · rw [isPlan, fragment]
  · intro other member same
    have listed : other.fullName ∈ root.nodes.map (·.fullName) := List.mem_map_of_mem member
    rw [names, same] at listed
    revert listed
    decide

end CommandPlan.PlanNodes
