import AspectForms.Text.Words
import AspectForms.Text.Printable
import AspectForms.Decimal.Nearest
import AspectForms.Json.Printer
import AspectForms.Json.Tree
import AspectForms.Yaml.Content
import AspectForms.Toml.Reader
import AspectForms.Document.FromBuffer
import AspectForms.Document.FromJson
import AspectForms.Document.FromToml
import AspectForms.Document.FromValue
import AspectForms.Document.FromYaml
import AspectForms.Model.Resolve
import AspectForms.Model.Reader
import AspectForms.Model.File
import AspectForms.Config.File
import AspectForms.Field.Compose
import AspectForms.Component.Columns
import AspectForms.Component.SharedValidators
import AspectForms.Files.FaultyDisk
import AspectForms.Files.LinkedDisk
import AspectForms.Files.Writer
import AspectForms.Generate
import AspectForms.Lint
import AspectForms.Logging.Config
import AspectForms.Main
import AspectForms.Proofs.References
import AspectForms.Proofs.Resolution
import AspectForms.Proofs.Unfolding
import AspectForms.Proofs.Composition
import AspectForms.Proofs.Siblings
import AspectForms.Proofs.FileSystems
import AspectForms.Proofs.Disk
import AspectForms.Proofs.Spelling
import AspectForms.Proofs.Placement
import AspectForms.Proofs.FreshRun
import AspectForms.Proofs.Constraints
import AspectForms.Proofs.Nodes
import AspectForms.Proofs.Emission
import AspectForms.Proofs.RelativePaths
import AspectForms.Proofs.Imports
import AspectForms.Proofs.FileReferences
import AspectForms.Proofs.Persistence
import AspectForms.Proofs.Interruption
import AspectForms.Proofs.Components
import AspectForms.Proofs.Recording
import AspectForms.Proofs.Generation
import AspectForms.Proofs.Repetition
import AspectForms.Proofs.Preview
import AspectForms.Proofs.Coverage
import AspectForms.Proofs.Fallbacks
import AspectForms.Proofs.Expressions
import AspectForms.Proofs.Validators
import AspectForms.Proofs.StructuredValues
import AspectForms.Proofs.ColumnKeys
import AspectForms.Proofs.ValidatorArrays
import AspectForms.Proofs.Containment
import AspectForms.Proofs.NestedEntities
import AspectForms.Proofs.FieldRecords
import AspectForms.Proofs.Locality
import AspectForms.Proofs.ValueTypes
import AspectForms.Proofs.ResolutionErrors
import AspectForms.Proofs.LintReport
import AspectForms.Proofs.Frontier
import AspectForms.Proofs.Lineage
import AspectForms.Proofs.Entering
import AspectForms.Proofs.Ahead
import AspectForms.Proofs.Independence
import AspectForms.Proofs.Exclusion
import AspectForms.Proofs.ReadBack
import AspectForms.Proofs.QuotedArguments
import AspectForms.Proofs.EmptyConstraints
import AspectForms.Proofs.PatternFaults
import AspectForms.Proofs.NameWords
import AspectForms.Proofs.DerivedNames
import AspectForms.Proofs.ClassNames
import AspectForms.Proofs.Markup
import AspectForms.Proofs.ControlMarkup
import AspectForms.Proofs.Placeholders
import AspectForms.Proofs.ControlIds
import AspectForms.Proofs.CandidateOrder
import AspectForms.Proofs.LintErrors
import AspectForms.Proofs.Shorthands
import AspectForms.Proofs.Requiredness
