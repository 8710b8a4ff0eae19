import EntitySchema.Main
import EntitySchema.Proofs.Order.Canonical
import EntitySchema.Proofs.Document.Equality
import EntitySchema.Proofs.Entity.Reading
import EntitySchema.Proofs.Entity.FieldOrder
import EntitySchema.Proofs.Compile.Settings
import EntitySchema.Proofs.Compile.FieldOrder
import EntitySchema.Proofs.Compile.FieldColumns
import EntitySchema.Proofs.Compile.FieldShares
import EntitySchema.Proofs.Compile.FieldErrors
import EntitySchema.Proofs.Compile.UnknownFlags
import EntitySchema.Proofs.Compile.Exposed
import EntitySchema.Proofs.Compile.Accessors
import EntitySchema.Proofs.Check.Invalid
import EntitySchema.Proofs.Check.Repeated
import EntitySchema.Proofs.Check.MigrationSafety
import EntitySchema.Proofs.FileTree.Way
import EntitySchema.Proofs.FileTree.Writing
import EntitySchema.Proofs.FileTree.Likeness
import EntitySchema.Proofs.Output.EntityFiles
import EntitySchema.Proofs.Output.Verdict
import EntitySchema.Proofs.Output.Exported
import EntitySchema.Proofs.Output.Safety
import EntitySchema.Proofs.Output.Rerun
import EntitySchema.Proofs.Output.DryRun
import EntitySchema.Proofs.Output.Likeness
import EntitySchema.Proofs.Source.ImportPath
import EntitySchema.Proofs.Source.NestedParts
import EntitySchema.Proofs.Source.References
import EntitySchema.Proofs.Source.Declarations
import EntitySchema.Proofs.Source.LibraryNames
import EntitySchema.Proofs.Source.LibraryImports
import EntitySchema.Proofs.Source.Members
import EntitySchema.Proofs.Run.Batch
import EntitySchema.Proofs.Run.Outcomes
import EntitySchema.Proofs.Run.Generation
import EntitySchema.Proofs.Run.Accounting
import EntitySchema.Proofs.Run.Independence
import EntitySchema.Proofs.Run.Refused
import EntitySchema.Proofs.Run.Modes
import EntitySchema.Proofs.Run.FieldOrder
import EntitySchema.Proofs.Entity.Names
import EntitySchema.Proofs.Text.Letters
import EntitySchema.Proofs.Compile.ColumnNames
import EntitySchema.Proofs.Text.Words
import EntitySchema.Proofs.Text.Pieces
import EntitySchema.Proofs.Text.Plurals
import EntitySchema.Proofs.Source.DatabaseNames
import EntitySchema.Proofs.Run.DatabaseNames
import EntitySchema.Proofs.Run.FreePlace
import EntitySchema.Proofs.Compile.FailurePlaces
import EntitySchema.Proofs.Run.FailureRecords
import EntitySchema.Proofs.Text.MemberNames
import EntitySchema.Proofs.Source.ConstantForms
import EntitySchema.Proofs.Source.EnumMembers
import EntitySchema.Proofs.Host.Shapes
import EntitySchema.Proofs.Compile.NestedShapes
import EntitySchema.Proofs.Text.LineEnds
import EntitySchema.Proofs.Compile.NestedOutline
import EntitySchema.Proofs.Compile.Outline
import EntitySchema.Proofs.Source.ClassMembers
import EntitySchema.Proofs.Text.Quoted
import EntitySchema.Proofs.Host.Literal
import EntitySchema.Proofs.Host.LiteralReader
import EntitySchema.Proofs.Host.ReadBack
import EntitySchema.Proofs.Compile.RelationOptions
import EntitySchema.Proofs.Output.NormalPath
import EntitySchema.Proofs.Source.FileImports
import EntitySchema.Proofs.Host.Pattern
import EntitySchema.Proofs.Compile.Collisions
import EntitySchema.Proofs.Document.LongIntegers
import EntitySchema.Proofs.Document.Entries
import EntitySchema.Proofs.Entity.FieldByField
import EntitySchema.Proofs.Entity.Inert
import EntitySchema.Proofs.Compile.TypeRules
import EntitySchema.Proofs.Entity.Payloads
import EntitySchema.Proofs.Compile.ColumnChecks
import EntitySchema.Proofs.Document.JsonFaults
import EntitySchema.Proofs.Document.Yaml.ScalarFaults
import EntitySchema.Proofs.Document.Yaml.TokenFaults
import EntitySchema.Proofs.Document.Yaml.NodeFaults
import EntitySchema.Proofs.Document.Yaml.ValueFaults
import EntitySchema.Proofs.Document.YamlFaults
import EntitySchema.Proofs.Run.Loading
import EntitySchema.Proofs.Compile.RulePriority
import EntitySchema.Proofs.Text.StringLiteral
import EntitySchema.Proofs.Text.Rewriting
import EntitySchema.Proofs.Text.SnakeForm
