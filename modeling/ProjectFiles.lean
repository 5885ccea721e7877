import ProjectFiles.Binary64.Basic
import ProjectFiles.Binary64.Reading
import ProjectFiles.Binary64.Shortest
import ProjectFiles.Decimal
import ProjectFiles.Error
import ProjectFiles.Format.Android
import ProjectFiles.Format.CSharp
import ProjectFiles.Format.MSBuild
import ProjectFiles.Format.PackageList
import ProjectFiles.Format.Python
import ProjectFiles.Format.SolutionFile
import ProjectFiles.Format.VisualCpp
import ProjectFiles.Generation.Context
import ProjectFiles.Generation.Generator
import ProjectFiles.Generation.Run
import ProjectFiles.Guid
import ProjectFiles.Hex
import ProjectFiles.Json.Basic
import ProjectFiles.Json.Document
import ProjectFiles.Json.Number
import ProjectFiles.Json.Printer
import ProjectFiles.Json.Record
import ProjectFiles.Model.Configuration
import ProjectFiles.Model.Encoding
import ProjectFiles.Model.Project
import ProjectFiles.Model.Settings
import ProjectFiles.Model.SettingsText
import ProjectFiles.Options
import ProjectFiles.Output.Database
import ProjectFiles.Output.Session
import ProjectFiles.Output.Store
import ProjectFiles.Output.Writer
import ProjectFiles.Path.Basic
import ProjectFiles.Path.Lexical
import ProjectFiles.Proofs.Calendar
import ProjectFiles.Proofs.Error
import ProjectFiles.Proofs.Format.Android
import ProjectFiles.Proofs.Format.CSharp
import ProjectFiles.Proofs.Format.Expressible
import ProjectFiles.Proofs.Format.MSBuild
import ProjectFiles.Proofs.Format.PackageLines
import ProjectFiles.Proofs.Format.PackageList
import ProjectFiles.Proofs.Format.PackagesItem
import ProjectFiles.Proofs.Format.Python
import ProjectFiles.Proofs.Format.SolutionAssociation
import ProjectFiles.Proofs.Format.SolutionFile
import ProjectFiles.Proofs.Format.SolutionProjects
import ProjectFiles.Proofs.Format.SolutionSections
import ProjectFiles.Proofs.Format.SolutionText
import ProjectFiles.Proofs.Format.SourceItems
import ProjectFiles.Proofs.Format.VisualCpp
import ProjectFiles.Proofs.Format.VisualCppBlocks
import ProjectFiles.Proofs.Format.VisualCppSources
import ProjectFiles.Proofs.Generation.Accounting
import ProjectFiles.Proofs.Generation.Authoring
import ProjectFiles.Proofs.Generation.CSharpFiles
import ProjectFiles.Proofs.Generation.Claims
import ProjectFiles.Proofs.Generation.Cleanup
import ProjectFiles.Proofs.Generation.Coherence
import ProjectFiles.Proofs.Generation.Commits
import ProjectFiles.Proofs.Generation.Committer
import ProjectFiles.Proofs.Generation.Completion
import ProjectFiles.Proofs.Generation.DeclarationOrder
import ProjectFiles.Proofs.Generation.Deletion
import ProjectFiles.Proofs.Generation.History
import ProjectFiles.Proofs.Generation.Interleaving
import ProjectFiles.Proofs.Generation.Isolation
import ProjectFiles.Proofs.Generation.LastOwner
import ProjectFiles.Proofs.Generation.LetterCase
import ProjectFiles.Proofs.Generation.Minimal
import ProjectFiles.Proofs.Generation.Outputs
import ProjectFiles.Proofs.Generation.Ownership
import ProjectFiles.Proofs.Generation.PackageLists
import ProjectFiles.Proofs.Generation.Parallel
import ProjectFiles.Proofs.Generation.Recorded
import ProjectFiles.Proofs.Generation.Repetition
import ProjectFiles.Proofs.Generation.Replay
import ProjectFiles.Proofs.Generation.Run
import ProjectFiles.Proofs.Generation.Settled
import ProjectFiles.Proofs.Generation.SourceFiles
import ProjectFiles.Proofs.Generation.Tracking
import ProjectFiles.Proofs.Generation.Unprotected
import ProjectFiles.Proofs.Guid
import ProjectFiles.Proofs.Json.Pruning
import ProjectFiles.Proofs.Json.Reading
import ProjectFiles.Proofs.Json.Record
import ProjectFiles.Proofs.Model.Building
import ProjectFiles.Proofs.Model.RoundTrip
import ProjectFiles.Proofs.Model.Texts
import ProjectFiles.Proofs.Options
import ProjectFiles.Proofs.Options.Demands
import ProjectFiles.Proofs.Options.Ownership
import ProjectFiles.Proofs.Output.Cleanup
import ProjectFiles.Proofs.Output.Commit
import ProjectFiles.Proofs.Output.Database
import ProjectFiles.Proofs.Output.Echo
import ProjectFiles.Proofs.Output.Exclusion
import ProjectFiles.Proofs.Output.Files
import ProjectFiles.Proofs.Output.Progress
import ProjectFiles.Proofs.Output.Rewriting
import ProjectFiles.Proofs.Output.SessionCalls
import ProjectFiles.Proofs.Output.SharedCallers
import ProjectFiles.Proofs.Output.Write
import ProjectFiles.Proofs.Path.Key
import ProjectFiles.Proofs.Path.Name
import ProjectFiles.Proofs.Path.Normal
import ProjectFiles.Proofs.Path.Occurrences
import ProjectFiles.Proofs.Path.Relative
import ProjectFiles.Proofs.Path.Rooted
import ProjectFiles.Proofs.SortedMap
import ProjectFiles.Proofs.Sorting
import ProjectFiles.Proofs.Template.Appending
import ProjectFiles.Proofs.Template.Barrier
import ProjectFiles.Proofs.Template.Embedded
import ProjectFiles.Proofs.Template.Expansion
import ProjectFiles.Proofs.Template.LetterCase
import ProjectFiles.Proofs.Template.Lines
import ProjectFiles.Proofs.Template.LiveScopes
import ProjectFiles.Proofs.Template.Locality
import ProjectFiles.Proofs.Template.Omission
import ProjectFiles.Proofs.Template.OmittedValues
import ProjectFiles.Proofs.Template.Parts
import ProjectFiles.Proofs.Template.Passes
import ProjectFiles.Proofs.Template.Scope
import ProjectFiles.Proofs.Template.Stability
import ProjectFiles.Proofs.Template.TaggedLines
import ProjectFiles.Proofs.Template.Token
import ProjectFiles.Proofs.Template.Writing
import ProjectFiles.Proofs.Text.Characters
import ProjectFiles.Proofs.Text.Digits
import ProjectFiles.Proofs.Text.Fences
import ProjectFiles.Proofs.Text.Lines
import ProjectFiles.Proofs.Text.Lowercase
import ProjectFiles.Proofs.Timestamp
import ProjectFiles.Proofs.Validation.Acceptance
import ProjectFiles.Proofs.Validation.Configurations
import ProjectFiles.Proofs.Validation.Consistency
import ProjectFiles.Proofs.Validation.Dependencies
import ProjectFiles.Proofs.Validation.FieldDiff
import ProjectFiles.Proofs.Validation.ReferenceBlocks
import ProjectFiles.Sha1
import ProjectFiles.SortedMap
import ProjectFiles.Template.OutputBuffer
import ProjectFiles.Template.Resolver
import ProjectFiles.Template.Token
import ProjectFiles.Text.Blank
import ProjectFiles.Text.CaseTable
import ProjectFiles.Text.Lines
import ProjectFiles.Text.Lowercase
import ProjectFiles.Timestamp
import ProjectFiles.Validation.Configurations
import ProjectFiles.Validation.Dependencies
import ProjectFiles.Validation.FieldDiff
import ProjectFiles.Value
import ProjectFiles.Yaml.Cursor
import ProjectFiles.Yaml.Node
import ProjectFiles.Yaml.Property
import ProjectFiles.Yaml.Scalar
import ProjectFiles.Yaml.Token
