import CommandPlan.Proofs.DefinitionEquality
import CommandPlan.Proofs.FragmentLoads
import CommandPlan.Proofs.TextEncoding

/-! The sample that a project starts with. Its text is read as a definition of two
commands that keeps the rules and gives no finding, so wherever a configuration holds
that text, the tree that is loaded is known. -/
namespace CommandPlan.SampleProject
open PathTarget RunEffects ScaffoldEffects

/-- The commands of the sample. -/
def sampleDefinition : Definition where
  name := "cli"
  help := some "Sample application"
  commands := [
    { name := "download", short := some "d", help := some "Download a file"
      arguments := [
        { name := "source", required := true, help := some "URL to download from" },
        { name := "target", help := some "Target filename (default: same as source)" }]
      flags := [{ name := "force", short := some "f", help := some "Overwrite existing files" }] },
    { name := "upload", short := some "u", help := some "Upload a file"
      arguments := [{ name := "source", required := true, help := some "File to upload" }]
      flags := [
        { name := "user", short := some "u", required := true, help := some "Username to use for logging in"
          placeholder := some "user" },
        { name := "password", short := some "p", help := some "Password to use for logging in"
          placeholder := some "password" }] }]

def sampleTree : Command :=
  Command.root sampleDefinition

-- The text is spelled out as its characters once: each look at the literal would decode it again.
set_option maxRecDepth 20000 in
theorem sample_read : Definition.read sampleConfiguration = .ok sampleDefinition := by
  rw [← to_option_eq_some_iff, show sampleConfiguration = String.ofList _ from rfl]
  rw [Definition.read, Yaml.Read.run, String.toList_ofList]
  decide +kernel

theorem sample_verified : sampleTree.verifyTree = .ok () :=
  rfl

/-- Nothing is to be said about the sample. -/
theorem sample_silent : sampleTree.lint = [] := by
  decide +kernel

variable {files : FileSystem} {path : Path} {leaf : Command}

/-- An encoded text is read as that text. -/
theorem read_text_of_read {text : String} (read : files.read path = .ok (Utf8.encode text.toList)) :
    files.readText path = .ok text := by
  rw [FileSystem.readText, read]
  simp [bind, Except.bind, TextEncoding.decode_encode]

/-- Wherever the text of the sample is, its tree is loaded. -/
theorem load_sample (read : files.read path = .ok sampleOctets) : loadTree files path = .ok sampleTree :=
  load_tree_iff.mpr ⟨_, _, read_text_of_read read, sample_read, sample_verified, rfl⟩

theorem stub_starts (path : Path) (fullName : String) : ∃ rest, (stubText path fullName).toList = 'e' :: rest := by
  obtain ⟨rest, first⟩ : ∃ rest, "echo \"# this file is located in '" = String.ofList ('e' :: rest) := ⟨_, rfl⟩
  -- The definition is opened by delta: its equation compares the literals letter by letter.
  delta stubText
  simp only [String.toList_append, first, String.toList_ofList, List.cons_append, List.cons.injEq, true_and]
  exact ⟨_, rfl⟩

/-- No stub has the text of the sample. -/
theorem stub_is_no_sample (path : Path) (leaf : Command) : stubOctets path leaf ≠ sampleOctets := by
  obtain ⟨rest, sample⟩ := sample_starts
  obtain ⟨behind, stub⟩ := stub_starts path leaf.fullName
  rw [stubOctets, sampleOctets, Ne, TextEncoding.encode_inj, stub, sample, String.toList_ofList]
  simp

end CommandPlan.SampleProject
