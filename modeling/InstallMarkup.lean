import InstallMarkup.CommandLine.Invocation
import InstallMarkup.CommandLine.Outcome
import InstallMarkup.Compile
import InstallMarkup.Config
import InstallMarkup.Diagnostic.Basic
import InstallMarkup.Diagnostic.Log
import InstallMarkup.Diagnostic.Wording
import InstallMarkup.Digest.Sha256
import InstallMarkup.Document.Config
import InstallMarkup.Document.Diagnostic
import InstallMarkup.Document.File
import InstallMarkup.Document.Form
import InstallMarkup.Document.Markup
import InstallMarkup.Document.Output
import InstallMarkup.Document.Row
import InstallMarkup.Document.Value
import InstallMarkup.Document.Yaml
import InstallMarkup.Emission
import InstallMarkup.EventSource
import InstallMarkup.Fault
import InstallMarkup.Files
import InstallMarkup.FlagSet
import InstallMarkup.Identifier.Basic
import InstallMarkup.Identifier.Family
import InstallMarkup.Identifier.Synthesis
import InstallMarkup.Json.Reader
import InstallMarkup.Json.Value
import InstallMarkup.Json.Writer
import InstallMarkup.Main
import InstallMarkup.Markup.Element
import InstallMarkup.Markup.Enclosure
import InstallMarkup.Markup.Host
import InstallMarkup.Markup.Location
import InstallMarkup.Markup.Unit
import InstallMarkup.OrderGraph
import InstallMarkup.Output
import InstallMarkup.Permission.Grant
import InstallMarkup.Permission.Mask
import InstallMarkup.Permission.Vocabulary
import InstallMarkup.Platform
import InstallMarkup.Proofs.Growth
import InstallMarkup.Proofs.Reading.Clean
import InstallMarkup.Reading.Assessment
import InstallMarkup.Reading.Attribute
import InstallMarkup.Reading.Rule
import InstallMarkup.References
import InstallMarkup.Row.Basic
import InstallMarkup.Row.Columns
import InstallMarkup.Row.Table
import InstallMarkup.Search.Builtin
import InstallMarkup.Search.Component
import InstallMarkup.Search.Element
import InstallMarkup.Search.Flags
import InstallMarkup.Search.Header
import InstallMarkup.Search.Path
import InstallMarkup.Search.Product
import InstallMarkup.Search.Query
import InstallMarkup.Search.Reference
import InstallMarkup.Search.Registry
import InstallMarkup.SortedList
import InstallMarkup.Tables
import InstallMarkup.Text.Blank
import InstallMarkup.Text.Digits
import InstallMarkup.Text.Guid
import InstallMarkup.Text.Hidden
import InstallMarkup.Text.Quoted
import InstallMarkup.Text.SixBit
import InstallMarkup.Vocabulary
import InstallMarkup.Walk
import InstallMarkup.Yaml.Cursor
import InstallMarkup.Yaml.Node
import InstallMarkup.Yaml.Scalar
import InstallMarkup.Yaml.Tag
import InstallMarkup.Yaml.Token
import InstallMarkup.Proofs.Search.Acceptance
import InstallMarkup.Proofs.Identifier.Material
import InstallMarkup.Proofs.Identifier.Legal
import InstallMarkup.Proofs.Run.Composition
import InstallMarkup.Proofs.Run.Ordering
import InstallMarkup.Proofs.Search.ContentAddressing
import InstallMarkup.Proofs.Component.Acceptance
import InstallMarkup.Proofs.Run.Elements
import InstallMarkup.Proofs.Run.Lockstep
import InstallMarkup.Proofs.Run.Promotion
import InstallMarkup.Proofs.Reading.Reordering
import InstallMarkup.Proofs.Run.Faults
import InstallMarkup.Proofs.Run.Sessions
import InstallMarkup.Proofs.Run.Emitted
import InstallMarkup.Proofs.Component.References
import InstallMarkup.Proofs.Reading.Values
import InstallMarkup.Proofs.Row.WellFormed
import InstallMarkup.Proofs.Run.AttributeOrder
import InstallMarkup.Proofs.Reading.Complaints
import InstallMarkup.Proofs.Search.Pairing
import InstallMarkup.Proofs.Run.Retargeting
import InstallMarkup.Proofs.Run.Declaring
import InstallMarkup.Proofs.Reading.Locations
import InstallMarkup.Proofs.Run.Relocation
import InstallMarkup.Proofs.Run.Nesting
import InstallMarkup.Proofs.Row.Columns
import InstallMarkup.Proofs.Reading.Rules
import InstallMarkup.Proofs.Identifier.Synthesis
import InstallMarkup.Proofs.Row.Store
import InstallMarkup.Proofs.Text.Numerals
import InstallMarkup.Proofs.Json.ReadBack
import InstallMarkup.Proofs.Row.Flags
import InstallMarkup.Proofs.Document.RoundTrip
import InstallMarkup.Proofs.Text.Guid
import InstallMarkup.Proofs.Reading.Grammar
import InstallMarkup.Proofs.Permission.Encoding
import InstallMarkup.Proofs.Permission.Grammar
import InstallMarkup.Proofs.Search.Products
import InstallMarkup.Proofs.Search.RegistrySettings
import InstallMarkup.Proofs.Run.Linking
import InstallMarkup.Proofs.Text.GuidNumber
import InstallMarkup.Proofs.Reading.Guids
import InstallMarkup.Proofs.Component.EventSources
import InstallMarkup.Proofs.Search.Grammar
import InstallMarkup.Proofs.Reading.Reports
import InstallMarkup.Proofs.Run.Diagnostics
import InstallMarkup.Proofs.Document.Wire
import InstallMarkup.Proofs.Diagnostic.Line
import InstallMarkup.Proofs.CommandLine.Outcomes
