import TraitIndex.Assoc
import TraitIndex.Bundle.Load
import TraitIndex.Bundle.Read
import TraitIndex.Bundle.Scan
import TraitIndex.Command.Arguments
import TraitIndex.Command.Convert
import TraitIndex.Command.Invocation
import TraitIndex.Command.Question
import TraitIndex.Command.Run
import TraitIndex.Command.Show
import TraitIndex.Config
import TraitIndex.Console
import TraitIndex.Delivery.Attach
import TraitIndex.Delivery.Channel
import TraitIndex.Delivery.Hub
import TraitIndex.Digest.Sha1
import TraitIndex.Fault
import TraitIndex.Files.FileTree
import TraitIndex.Files.Path
import TraitIndex.Host
import TraitIndex.Implementor.Fragment
import TraitIndex.Implementor.Record
import TraitIndex.Implementor.TraitPath
import TraitIndex.Json.Decode
import TraitIndex.Json.Encode
import TraitIndex.Json.Fault
import TraitIndex.Log
import TraitIndex.Main
import TraitIndex.Markup.NamedCharacter
import TraitIndex.Markup.Plain
import TraitIndex.Markup.Reference
import TraitIndex.Number.Binary64
import TraitIndex.Number.Literal
import TraitIndex.Number.Shortest
import TraitIndex.Proofs.Bundle.Balance
import TraitIndex.Proofs.Bundle.Contents
import TraitIndex.Proofs.Bundle.Faults
import TraitIndex.Proofs.Bundle.Growth
import TraitIndex.Proofs.Bundle.ListingOrder
import TraitIndex.Proofs.Bundle.Loading
import TraitIndex.Proofs.Bundle.Relocation
import TraitIndex.Proofs.Bundle.Scanning
import TraitIndex.Proofs.Bundle.Sidebars
import TraitIndex.Proofs.Bundle.ValueFaults
import TraitIndex.Proofs.Command.Conversion
import TraitIndex.Proofs.Command.Exits
import TraitIndex.Proofs.Command.Selection
import TraitIndex.Proofs.Config.Loading
import TraitIndex.Proofs.Config.Values
import TraitIndex.Proofs.Delivery.Buffering
import TraitIndex.Proofs.Delivery.ExactlyOnce
import TraitIndex.Proofs.Delivery.History
import TraitIndex.Proofs.Delivery.Lifecycle
import TraitIndex.Proofs.Delivery.Order
import TraitIndex.Proofs.Delivery.Readiness
import TraitIndex.Proofs.Delivery.Receivers
import TraitIndex.Proofs.Delivery.Redelivery
import TraitIndex.Proofs.Delivery.Steps
import TraitIndex.Proofs.Delivery.Writes
import TraitIndex.Proofs.Files.Paths
import TraitIndex.Proofs.Files.Trees
import TraitIndex.Proofs.Implementor.TraitPaths
import TraitIndex.Proofs.Json.Content
import TraitIndex.Proofs.Json.Grammar
import TraitIndex.Proofs.Json.Layout
import TraitIndex.Proofs.Json.RoundTrip
import TraitIndex.Proofs.Json.Strings
import TraitIndex.Proofs.Lists
import TraitIndex.Proofs.Markup.LinkedPaths
import TraitIndex.Proofs.Markup.NormalForm
import TraitIndex.Proofs.Markup.References
import TraitIndex.Proofs.Markup.Spacing
import TraitIndex.Proofs.Outcome
import TraitIndex.Proofs.Registry.Consistency
import TraitIndex.Proofs.Registry.ContentIds
import TraitIndex.Proofs.Registry.Contents
import TraitIndex.Proofs.Registry.Facts
import TraitIndex.Proofs.Registry.FirstFacts
import TraitIndex.Proofs.Registry.Growing
import TraitIndex.Proofs.Registry.Malformed
import TraitIndex.Proofs.Registry.Merging
import TraitIndex.Proofs.Registry.Ownership
import TraitIndex.Proofs.Registry.ShortNames
import TraitIndex.Proofs.Registry.TextRecords
import TraitIndex.Proofs.Registry.Totals
import TraitIndex.Proofs.Registry.Views
import TraitIndex.Proofs.Script.Encodable
import TraitIndex.Proofs.Script.Lines
import TraitIndex.Proofs.Script.Literals
import TraitIndex.Proofs.Script.PlainConstraints
import TraitIndex.Proofs.Script.Reading
import TraitIndex.Proofs.Script.Records
import TraitIndex.Proofs.Script.Rereading
import TraitIndex.Proofs.Script.RoundTrip
import TraitIndex.Proofs.Service.Serving
import TraitIndex.Proofs.Service.Traits
import TraitIndex.Proofs.Sidebar.Catalog
import TraitIndex.Proofs.Sidebar.Reading
import TraitIndex.Proofs.Structured.Descriptors
import TraitIndex.Proofs.Structured.RoundTrip
import TraitIndex.Proofs.Structured.WrittenKeys
import TraitIndex.Proofs.Text.Blocks
import TraitIndex.Proofs.Text.Decoding
import TraitIndex.Proofs.Text.Quoting
import TraitIndex.Proofs.Yaml.Parsing
import TraitIndex.Proofs.Yaml.Reading
import TraitIndex.Proofs.Yaml.Scanning
import TraitIndex.Registry.ContentId
import TraitIndex.Registry.Merge
import TraitIndex.Registry.Query
import TraitIndex.Registry.Report
import TraitIndex.Registry.Selection
import TraitIndex.Registry.View
import TraitIndex.Script.Assignment
import TraitIndex.Script.Read
import TraitIndex.Script.Write
import TraitIndex.Service.Parameter
import TraitIndex.Service.Reply
import TraitIndex.Service.Request
import TraitIndex.Service.Serve
import TraitIndex.Sidebar.Index
import TraitIndex.Sidebar.Read
import TraitIndex.Structured.Read
import TraitIndex.Structured.Write
import TraitIndex.Text.Blank
import TraitIndex.Text.Digit
import TraitIndex.Text.LowerCase
import TraitIndex.Text.Pieces
import TraitIndex.Text.Printable
import TraitIndex.Text.Quote
import TraitIndex.Text.Search
import TraitIndex.Text.Utf8
import TraitIndex.Value.Basic
import TraitIndex.Value.Calendar
import TraitIndex.Value.Fault
import TraitIndex.Value.SetOrder
import TraitIndex.Value.Show
import TraitIndex.Yaml.Construct
import TraitIndex.Yaml.Cursor
import TraitIndex.Yaml.Decode
import TraitIndex.Yaml.Node
import TraitIndex.Yaml.Parser
import TraitIndex.Yaml.Scalar
import TraitIndex.Yaml.Scalars
import TraitIndex.Yaml.Scanner
import TraitIndex.Yaml.Tag
import TraitIndex.Yaml.Token
