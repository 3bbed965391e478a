import ComplianceEvidence.Catalog.Basic
import ComplianceEvidence.Catalog.Document
import ComplianceEvidence.CommandLine.Arguments
import ComplianceEvidence.CommandLine.Help
import ComplianceEvidence.CommandLine.Run
import ComplianceEvidence.CommandLine.Summary
import ComplianceEvidence.Evidence.Decision
import ComplianceEvidence.Evidence.Record
import ComplianceEvidence.Files.Reading
import ComplianceEvidence.Files.Tree
import ComplianceEvidence.Finding.Attributes
import ComplianceEvidence.Finding.Basic
import ComplianceEvidence.Finding.Status
import ComplianceEvidence.Journal.Event
import ComplianceEvidence.Journal.Report
import ComplianceEvidence.Json.Fault
import ComplianceEvidence.Json.Node
import ComplianceEvidence.Json.NumberText
import ComplianceEvidence.Json.QuotedText
import ComplianceEvidence.Json.Reader
import ComplianceEvidence.Json.Record
import ComplianceEvidence.Json.Token
import ComplianceEvidence.Json.Value
import ComplianceEvidence.Loading.Catalogs
import ComplianceEvidence.Loading.Configuration
import ComplianceEvidence.Loading.Plans
import ComplianceEvidence.Loading.Registry
import ComplianceEvidence.Main
import ComplianceEvidence.Mapping.Index
import ComplianceEvidence.Mapping.Mapper
import ComplianceEvidence.Mapping.Resolution
import ComplianceEvidence.Mapping.Scope
import ComplianceEvidence.Mapping.Sharing
import ComplianceEvidence.Number.Binary64
import ComplianceEvidence.Number.Layout
import ComplianceEvidence.Number.Power
import ComplianceEvidence.Number.Shortest
import ComplianceEvidence.Ordered.Entries
import ComplianceEvidence.Ordered.Table
import ComplianceEvidence.Plan.Basic
import ComplianceEvidence.Plan.Document
import ComplianceEvidence.Service.Basic
import ComplianceEvidence.Service.Stream
import ComplianceEvidence.Telemetry.Counters
import ComplianceEvidence.Telemetry.Series
import ComplianceEvidence.Text.Blank
import ComplianceEvidence.Text.Quoted
import ComplianceEvidence.Text.Terminal
import ComplianceEvidence.Text.Unprintable
import ComplianceEvidence.Text.Utf8
import ComplianceEvidence.Time.Instant
import ComplianceEvidence.Time.Reading
import ComplianceEvidence.Yaml.Event
import ComplianceEvidence.Yaml.Fault
import ComplianceEvidence.Yaml.Lexer
import ComplianceEvidence.Yaml.Meaning
import ComplianceEvidence.Yaml.Node
import ComplianceEvidence.Yaml.Reader
import ComplianceEvidence.Yaml.Record
import ComplianceEvidence.Yaml.ScalarText
import ComplianceEvidence.Yaml.Source
import ComplianceEvidence.Yaml.Tag
import ComplianceEvidence.Yaml.Token
import ComplianceEvidence.Proofs.Attempt
import ComplianceEvidence.Proofs.Ordered.Last
import ComplianceEvidence.Proofs.Text.Encoding
import ComplianceEvidence.Proofs.Mapping.Lookup
import ComplianceEvidence.Proofs.Mapping.Scope
import ComplianceEvidence.Proofs.Mapping.Resolution
import ComplianceEvidence.Proofs.Mapping.Independence
import ComplianceEvidence.Proofs.Mapping.Growth
import ComplianceEvidence.Proofs.Mapping.Registry
import ComplianceEvidence.Proofs.Mapping.Trail
import ComplianceEvidence.Proofs.Mapping.Sharing
import ComplianceEvidence.Proofs.Files.Reading
import ComplianceEvidence.Proofs.Files.Walk
import ComplianceEvidence.Proofs.Loading.Admission
import ComplianceEvidence.Proofs.Loading.PlanFiles
import ComplianceEvidence.Proofs.Journal.Report
import ComplianceEvidence.Proofs.Loading.Catalogs
import ComplianceEvidence.Proofs.Loading.Plans
import ComplianceEvidence.Proofs.Loading.Registry
import ComplianceEvidence.Proofs.Loading.Plugins
import ComplianceEvidence.Proofs.Service.Enrichment
import ComplianceEvidence.Proofs.Json.Flaws
import ComplianceEvidence.Proofs.Text.Plain
import ComplianceEvidence.Proofs.Json.Complaints
import ComplianceEvidence.Proofs.Evidence.Complaints
import ComplianceEvidence.Proofs.Json.Writing
import ComplianceEvidence.Proofs.Service.Lines
import ComplianceEvidence.Proofs.Service.Stream
import ComplianceEvidence.Proofs.Number.Digits
import ComplianceEvidence.Proofs.Json.WrittenNumber
import ComplianceEvidence.Proofs.Json.WrittenText
import ComplianceEvidence.Proofs.Json.WrittenTree
import ComplianceEvidence.Proofs.Json.WrittenRecord
import ComplianceEvidence.Proofs.Finding.Attributes
import ComplianceEvidence.Proofs.Finding.RoundTrip
import ComplianceEvidence.Proofs.Service.Output
import ComplianceEvidence.Proofs.Telemetry.Counters
import ComplianceEvidence.Proofs.Telemetry.Handles
import ComplianceEvidence.Proofs.Service.Conservation
import ComplianceEvidence.Proofs.Time.RoundTrip
import ComplianceEvidence.Proofs.Json.Grammar
import ComplianceEvidence.Proofs.Json.SpelledNumber
import ComplianceEvidence.Proofs.Json.SpelledText
import ComplianceEvidence.Proofs.Json.SpelledTree
import ComplianceEvidence.Proofs.Json.SpelledValue
import ComplianceEvidence.Proofs.Json.SpelledRecord
import ComplianceEvidence.Proofs.Json.Canonical
import ComplianceEvidence.Proofs.Evidence.Grammar
import ComplianceEvidence.Proofs.Evidence.RoundTrip
import ComplianceEvidence.Proofs.Json.GivenNodes
import ComplianceEvidence.Proofs.Evidence.Texts
import ComplianceEvidence.Proofs.Service.Agreement
import ComplianceEvidence.Proofs.CommandLine.Summary
import ComplianceEvidence.Proofs.CommandLine.Run
import ComplianceEvidence.Proofs.Loading.Grouping
import ComplianceEvidence.Proofs.Loading.Warnings
import ComplianceEvidence.Proofs.Mapping.Accumulation
import ComplianceEvidence.Proofs.CommandLine.Inventory
import ComplianceEvidence.Proofs.Evidence.Attributes
import ComplianceEvidence.Proofs.Mapping.Disclosure
import ComplianceEvidence.Proofs.Mapping.Scan
import ComplianceEvidence.Proofs.Mapping.Insertion
import ComplianceEvidence.Proofs.Telemetry.Latency
import ComplianceEvidence.Proofs.Evidence.Decision
