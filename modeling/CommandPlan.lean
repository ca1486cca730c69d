import CommandPlan.Command
import CommandPlan.CommandLine
import CommandPlan.Definition
import CommandPlan.Definition.Reader
import CommandPlan.FileSystem
import CommandPlan.Fragment
import CommandPlan.Inspect
import CommandPlan.Lint
import CommandPlan.Log
import CommandPlan.Main
import CommandPlan.Markup
import CommandPlan.Number.Binary64
import CommandPlan.Number.Decimal
import CommandPlan.Orphan
import CommandPlan.Path
import CommandPlan.Program
import CommandPlan.Proofs.Addresses
import CommandPlan.Proofs.BlankDocuments
import CommandPlan.Proofs.CleanTrees
import CommandPlan.Proofs.DefinitionEquality
import CommandPlan.Proofs.DefinitionFields
import CommandPlan.Proofs.DirectoryNames
import CommandPlan.Proofs.DirectoryTree
import CommandPlan.Proofs.EmptyDirectories
import CommandPlan.Proofs.ErrorMessages
import CommandPlan.Proofs.FileChanges
import CommandPlan.Proofs.FileGrowth
import CommandPlan.Proofs.ForwardPaths
import CommandPlan.Proofs.FragmentLoads
import CommandPlan.Proofs.FragmentNames
import CommandPlan.Proofs.FullNames
import CommandPlan.Proofs.FunctionNames
import CommandPlan.Proofs.KeptFiles
import CommandPlan.Proofs.LeafFragments
import CommandPlan.Proofs.LintLoops
import CommandPlan.Proofs.LintSilence
import CommandPlan.Proofs.LossyDecoding
import CommandPlan.Proofs.MadeDirectories
import CommandPlan.Proofs.MarkPieces
import CommandPlan.Proofs.NodeNames
import CommandPlan.Proofs.NodeParts
import CommandPlan.Proofs.NodePlaces
import CommandPlan.Proofs.OrphanPartition
import CommandPlan.Proofs.OrphanScan
import CommandPlan.Proofs.PaintedNames
import CommandPlan.Proofs.ParameterFindings
import CommandPlan.Proofs.PathJoin
import CommandPlan.Proofs.PathParent
import CommandPlan.Proofs.PathTarget
import CommandPlan.Proofs.PathWalk
import CommandPlan.Proofs.PlanNodes
import CommandPlan.Proofs.PlanRecords
import CommandPlan.Proofs.ProjectStart
import CommandPlan.Proofs.ReadOutcomes
import CommandPlan.Proofs.RecordFields
import CommandPlan.Proofs.RenderedMarks
import CommandPlan.Proofs.RunEffects
import CommandPlan.Proofs.SampleProject
import CommandPlan.Proofs.ScaffoldEffects
import CommandPlan.Proofs.StrippedMarks
import CommandPlan.Proofs.StubCompletion
import CommandPlan.Proofs.StubCreation
import CommandPlan.Proofs.StubPlaces
import CommandPlan.Proofs.SubcommandClashes
import CommandPlan.Proofs.TextEncoding
import CommandPlan.Proofs.TreeRules
import CommandPlan.Proofs.TreeSites
import CommandPlan.Proofs.UnknownKeys
import CommandPlan.Proofs.UsageLines
import CommandPlan.Proofs.ValidationReport
import CommandPlan.Run
import CommandPlan.Scaffold
import CommandPlan.Settings
import CommandPlan.Structure
import CommandPlan.Text.Alphanumeric
import CommandPlan.Text.Blank
import CommandPlan.Text.CodeRange
import CommandPlan.Text.LetterCase
import CommandPlan.Text.Lines
import CommandPlan.Text.Quoted
import CommandPlan.Text.SnakeCase
import CommandPlan.Text.Unprintable
import CommandPlan.Text.Utf8
import CommandPlan.Validate
import CommandPlan.View
import CommandPlan.View.Outline
import CommandPlan.Yaml.Cursor
import CommandPlan.Yaml.Document
import CommandPlan.Yaml.Fault
import CommandPlan.Yaml.Node
import CommandPlan.Yaml.Node.Parser
import CommandPlan.Yaml.Outline
import CommandPlan.Yaml.Problem
import CommandPlan.Yaml.Reader
import CommandPlan.Yaml.Scalar.Block
import CommandPlan.Yaml.Scalar.Folding
import CommandPlan.Yaml.Scalar.Plain
import CommandPlan.Yaml.Scalar.Quoted
import CommandPlan.Yaml.Scalar.Resolution
import CommandPlan.Yaml.Token
import CommandPlan.Yaml.Token.Lexer
import CommandPlan.Yaml.Token.Name
import CommandPlan.Yaml.Value
import CommandPlan.Yaml.Value.Reader
