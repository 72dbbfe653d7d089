import RecordSmith.Batch.Cache
import RecordSmith.Batch.Generate
import RecordSmith.Batch.Store
import RecordSmith.CommandLine.Arguments
import RecordSmith.CommandLine.Generate
import RecordSmith.CommandLine.Integer
import RecordSmith.CommandLine.Languages
import RecordSmith.CommandLine.Request
import RecordSmith.CommandLine.Run
import RecordSmith.CommandLine.Session
import RecordSmith.CommandLine.Usage
import RecordSmith.Console.Cells
import RecordSmith.Console.Emoji
import RecordSmith.Console.Listing
import RecordSmith.Console.Markup
import RecordSmith.Console.Table
import RecordSmith.Console.Wrap
import RecordSmith.Contract.Layout
import RecordSmith.Contract.Literal
import RecordSmith.Contract.Options
import RecordSmith.Contract.Reserved
import RecordSmith.Dataclass.Layout
import RecordSmith.Dataclass.Literal
import RecordSmith.Dataclass.Options
import RecordSmith.Dataclass.Reserved
import RecordSmith.Declaration
import RecordSmith.Digest.Sha256
import RecordSmith.Files.Path
import RecordSmith.Files.Tree
import RecordSmith.Generation.Basic
import RecordSmith.Generation.Diagnostic
import RecordSmith.Generation.Members
import RecordSmith.Generator.Basic
import RecordSmith.Generator.Template
import RecordSmith.Json.Reader
import RecordSmith.Json.Writer
import RecordSmith.Layout.Source
import RecordSmith.Loading.Address
import RecordSmith.Loading.Documents
import RecordSmith.Loading.Url
import RecordSmith.Logging
import RecordSmith.Machine
import RecordSmith.Main
import RecordSmith.Naming.Identifier
import RecordSmith.Naming.Namespace
import RecordSmith.Naming.Pool
import RecordSmith.Number.Binary64
import RecordSmith.Number.Shortest
import RecordSmith.Registry
import RecordSmith.Schema.Record
import RecordSmith.Schema.Shape
import RecordSmith.Schema.Type
import RecordSmith.Settings.Basic
import RecordSmith.Settings.Catalog
import RecordSmith.Settings.Error
import RecordSmith.Settings.Layers
import RecordSmith.Settings.Warnings
import RecordSmith.Target
import RecordSmith.Text.Alphanumeric
import RecordSmith.Text.Basic
import RecordSmith.Text.Blank
import RecordSmith.Text.CaseTable
import RecordSmith.Text.Casing
import RecordSmith.Text.Lines
import RecordSmith.Text.Printable
import RecordSmith.Text.Quoted
import RecordSmith.Text.Ranges
import RecordSmith.Text.Utf8
import RecordSmith.Value.Basic
import RecordSmith.Value.Display
import RecordSmith.Value.Equal
import RecordSmith.Value.Extent
import RecordSmith.Value.Object
import RecordSmith.Proofs.Naming.Identifier
import RecordSmith.Proofs.Generation.Members
import RecordSmith.Proofs.Schema.Record
import RecordSmith.Proofs.Fallible
import RecordSmith.Proofs.Generation.Names
import RecordSmith.Proofs.Generator.Standard
import RecordSmith.Proofs.Batch.Generate
import RecordSmith.Proofs.Batch.SharedCache
import RecordSmith.Proofs.Files.Tree
import RecordSmith.Proofs.Batch.Store
import RecordSmith.Proofs.Batch.Artifacts
import RecordSmith.Proofs.Batch.Workers
import RecordSmith.Proofs.Batch.Interleaving
import RecordSmith.Proofs.Batch.Isolation
import RecordSmith.Proofs.Json.Reader
import RecordSmith.Proofs.Settings.Catalog
import RecordSmith.Proofs.Schema.Shape
import RecordSmith.Proofs.Schema.Wrapping
import RecordSmith.Proofs.Generation.Fields
import RecordSmith.Proofs.Generator.Source
import RecordSmith.Proofs.Generation.Outcome
import RecordSmith.Proofs.Text.Lines
import RecordSmith.Proofs.Layout.Source
import RecordSmith.Proofs.Layout.CleanLines
import RecordSmith.Proofs.Target.Lines
import RecordSmith.Proofs.Generator.Members
import RecordSmith.Proofs.Naming.Namespace
import RecordSmith.Proofs.Naming.Shape
import RecordSmith.Proofs.Naming.Requests
import RecordSmith.Proofs.Schema.Grammar
import RecordSmith.Proofs.Schema.FullName
import RecordSmith.Proofs.Generator.Notice
import RecordSmith.Proofs.Generator.Encoding
import RecordSmith.Proofs.Target.LiteralForm
import RecordSmith.Proofs.Target.Docstring
import RecordSmith.Proofs.Target.XmlText
import RecordSmith.Proofs.Generator.Summary
import RecordSmith.Proofs.Value.Same
import RecordSmith.Proofs.Schema.FieldList
import RecordSmith.Proofs.Schema.Spelling
import RecordSmith.Proofs.Generation.Steps
import RecordSmith.Proofs.Generation.FieldList
import RecordSmith.Proofs.Generation.Spelling
import RecordSmith.Proofs.Generation.Collisions
import RecordSmith.Proofs.Naming.Segments
import RecordSmith.Proofs.Naming.Delimiters
import RecordSmith.Proofs.Naming.Idempotence
import RecordSmith.Proofs.Generator.Namespace
import RecordSmith.Proofs.Text.LowerCase
import RecordSmith.Proofs.Text.UpperCase
import RecordSmith.Proofs.Registry.Lookup
import RecordSmith.Proofs.Registry.Routes
import RecordSmith.Proofs.Registry.Created
import RecordSmith.Proofs.Text.Plain
import RecordSmith.Proofs.Json.Writer
import RecordSmith.Proofs.Json.RoundTrip
import RecordSmith.Proofs.Files.Presence
import RecordSmith.Proofs.Files.Stored
import RecordSmith.Proofs.Settings.Saved
import RecordSmith.Proofs.Generator.ArtifactName
import RecordSmith.Proofs.Registry.Registrations
import RecordSmith.Proofs.Settings.Refusals
import RecordSmith.Proofs.Registry.Refusals
import RecordSmith.Proofs.Settings.Composition
import RecordSmith.Proofs.Json.LineEndings
import RecordSmith.Proofs.Settings.File
import RecordSmith.Proofs.Files.Order
import RecordSmith.Proofs.Files.Below
import RecordSmith.Proofs.Loading.Search
import RecordSmith.Proofs.Files.Name
import RecordSmith.Proofs.Loading.Url
import RecordSmith.Proofs.Loading.Name
import RecordSmith.Proofs.Loading.Replies
import RecordSmith.Proofs.Naming.Search
