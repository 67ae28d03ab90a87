import SchemaTypes.Json.Printer
import SchemaTypes.Main
import SchemaTypes.Proofs.Name.Words
import SchemaTypes.Proofs.Config.Patterns
import SchemaTypes.Proofs.Run.Failures
import SchemaTypes.Proofs.FileTree.Contents
import SchemaTypes.Proofs.Output.History
import SchemaTypes.Proofs.Output.Paths
import SchemaTypes.Proofs.Output.Accumulation
import SchemaTypes.Proofs.Run.Survival
import SchemaTypes.Proofs.Declaration.Statements
import SchemaTypes.Proofs.Declaration.Omission
import SchemaTypes.Proofs.Declaration.TypeArguments
import SchemaTypes.Proofs.Declaration.Completeness
import SchemaTypes.Proofs.Declaration.Literals
import SchemaTypes.Proofs.Config.Violations
import SchemaTypes.Proofs.Config.Absence
import SchemaTypes.Proofs.Run.EntireDatabase
import SchemaTypes.Proofs.Run.Reporting
import SchemaTypes.Proofs.Config.Reading
import SchemaTypes.Proofs.Run.Coverage
import SchemaTypes.Proofs.Run.Repetition
import SchemaTypes.Proofs.Run.DryRun
import SchemaTypes.Proofs.Name.Content
import SchemaTypes.Proofs.Schema.Queries
import SchemaTypes.Proofs.Run.Sessions
import SchemaTypes.Proofs.Output.Confinement
import SchemaTypes.Proofs.Run.Confinement
import SchemaTypes.Proofs.Name.Stability
import SchemaTypes.Proofs.Declaration.Names
import SchemaTypes.Proofs.Declaration.Distinctness
import SchemaTypes.Proofs.Declaration.Visibility
import SchemaTypes.Proofs.Config.Descriptors
import SchemaTypes.Proofs.Declaration.Presentation
import SchemaTypes.Proofs.Declaration.Signatures
import SchemaTypes.Proofs.Name.InnerUnderscores
import SchemaTypes.Proofs.Schema.Columns
import SchemaTypes.Proofs.Schema.Views
import SchemaTypes.Proofs.Run.Refusals
import SchemaTypes.Proofs.Name.Insertion
import SchemaTypes.Proofs.Name.Joining
