import StructuralSearch.CommandLine.Options
import StructuralSearch.CommandLine.Run
import StructuralSearch.Concrete.Basic
import StructuralSearch.Concrete.Classify
import StructuralSearch.Concrete.Lowering
import StructuralSearch.Decimal.Double
import StructuralSearch.Decimal.Shortest
import StructuralSearch.Error
import StructuralSearch.Files.Discovery
import StructuralSearch.Files.Snapshot
import StructuralSearch.Json.Reader
import StructuralSearch.Json.Text
import StructuralSearch.Location
import StructuralSearch.Main
import StructuralSearch.Outline.Basic
import StructuralSearch.Outline.Builder
import StructuralSearch.Outline.Kind
import StructuralSearch.Outline.Modifier
import StructuralSearch.Outline.Name
import StructuralSearch.Outline.Role
import StructuralSearch.Path
import StructuralSearch.Position
import StructuralSearch.Program.Basic
import StructuralSearch.Program.Render
import StructuralSearch.Proofs.Failure
import StructuralSearch.Proofs.Outline.Links
import StructuralSearch.Proofs.Outline.Preorder
import StructuralSearch.Proofs.Outline.Runs
import StructuralSearch.Proofs.Query.Lookup
import StructuralSearch.Proofs.Virtual.Standard
import StructuralSearch.Proofs.Walk.Nodewise
import StructuralSearch.Query.Basic
import StructuralSearch.Query.Descriptor
import StructuralSearch.Query.Matcher
import StructuralSearch.Query.Pattern
import StructuralSearch.Query.Reader
import StructuralSearch.Regex.Compile
import StructuralSearch.Regex.Expr
import StructuralSearch.Regex.Reader
import StructuralSearch.Regex.Surface
import StructuralSearch.Report
import StructuralSearch.Search
import StructuralSearch.SessionLog
import StructuralSearch.Text.Bytes
import StructuralSearch.Text.Lines
import StructuralSearch.Text.Natural
import StructuralSearch.Text.Quoted
import StructuralSearch.Text.WhiteSpace
import StructuralSearch.Unicode.Category
import StructuralSearch.Unicode.Folding
import StructuralSearch.Unicode.Property
import StructuralSearch.Unicode.Ranges
import StructuralSearch.Unicode.Script
import StructuralSearch.Virtual.Basic
import StructuralSearch.Virtual.Kind
import StructuralSearch.Virtual.Registry
import StructuralSearch.Virtual.Rule
import StructuralSearch.Walk
import StructuralSearch.Workspace.Basic
import StructuralSearch.Workspace.Listing
import StructuralSearch.Proofs.Walk.Standard
import StructuralSearch.Proofs.Outline.Layout
import StructuralSearch.Proofs.Concrete.Children
import StructuralSearch.Proofs.Concrete.Retained
import StructuralSearch.Proofs.Concrete.Nesting
import StructuralSearch.Proofs.Walk.Innermost
import StructuralSearch.Proofs.Query.Meaning
import StructuralSearch.Proofs.Outline.Brackets
import StructuralSearch.Proofs.Concrete.Placement
import StructuralSearch.Proofs.Walk.Contest
import StructuralSearch.Proofs.Walk.Coverage
import StructuralSearch.Proofs.Concrete.Recorded
import StructuralSearch.Proofs.Concrete.Names
import StructuralSearch.Proofs.Text
import StructuralSearch.Proofs.Report
import StructuralSearch.Proofs.Location
import StructuralSearch.Proofs.Walk.Refinement
import StructuralSearch.Proofs.Search
import StructuralSearch.Proofs.Json.Grammar
import StructuralSearch.Proofs.Json.Reading
import StructuralSearch.Proofs.Query.Reading
import StructuralSearch.Proofs.Concrete.Spots
import StructuralSearch.Proofs.Concrete.Conditional
import StructuralSearch.Proofs.Virtual.NestedBlock
import StructuralSearch.Proofs.FullName
import StructuralSearch.Proofs.Concrete.Attribution
import StructuralSearch.Proofs.Concrete.Types
import StructuralSearch.Proofs.Virtual.Synthesis
import StructuralSearch.Proofs.Notation
import StructuralSearch.Proofs.Path
import StructuralSearch.Proofs.Files.Discovery
import StructuralSearch.Proofs.Concrete.Slices
import StructuralSearch.Proofs.Column
import StructuralSearch.Proofs.Virtual.Registration
import StructuralSearch.Proofs.Program.Brackets
import StructuralSearch.Proofs.Outline.Descendants
