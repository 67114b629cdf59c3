import JobLog.Artifact
import JobLog.Bug.Basic
import JobLog.Bug.Web
import JobLog.Builder
import JobLog.Classifier
import JobLog.CommandLine.Options
import JobLog.CommandLine.Run
import JobLog.Decimal.Double
import JobLog.Decimal.Shortest
import JobLog.Failure.Action
import JobLog.Failure.Line
import JobLog.Failure.Stream
import JobLog.Gzip.Checksum
import JobLog.Gzip.Code
import JobLog.Gzip.Gunzip
import JobLog.Gzip.Inflate
import JobLog.Input
import JobLog.JobDetail
import JobLog.Json.Basic
import JobLog.Json.Numeral
import JobLog.Json.Record
import JobLog.Json.Token
import JobLog.Json.Written
import JobLog.Main
import JobLog.Performance.Log
import JobLog.Performance.Schema
import JobLog.Pool
import JobLog.Proxy
import JobLog.Run
import JobLog.RunError
import JobLog.Sample.Log
import JobLog.Sample.Random
import JobLog.Settings.Basic
import JobLog.Settings.Load
import JobLog.Source.Basic
import JobLog.Source.Lines
import JobLog.Source.Open
import JobLog.Step.Basic
import JobLog.Step.Log
import JobLog.Step.Marker
import JobLog.Suggestion.Summarizer
import JobLog.Suggestion.Terms
import JobLog.Text.Blank
import JobLog.Text.Digit
import JobLog.Text.Padded
import JobLog.Text.Pattern
import JobLog.Text.Quoted
import JobLog.Text.Ranges
import JobLog.Text.Split
import JobLog.Text.Utf8
import JobLog.Text.Word
import JobLog.Timestamp
import JobLog.Url.Host
import JobLog.Url.Parse
import JobLog.Url.Percent
import JobLog.Web
import JobLog.Yaml.Mapping
import JobLog.Yaml.Scalar
import JobLog.Proofs.Gzip.Content
import JobLog.Proofs.Run.Artifacts
import JobLog.Proofs.Run.Cancellation
import JobLog.Proofs.Run.Isolation
import JobLog.Proofs.Run.SizeLimit
import JobLog.Proofs.Source.Content
import JobLog.Proofs.Source.Cutter
import JobLog.Proofs.Source.Limit
import JobLog.Proofs.Source.LineReader
import JobLog.Proofs.Step.Cases
import JobLog.Proofs.Step.Partition
import JobLog.Proofs.Step.Scan
import JobLog.Proofs.Text.Digit
import JobLog.Proofs.Timestamp
import JobLog.Proofs.Json.Canonical
import JobLog.Proofs.Json.Record
import JobLog.Proofs.Artifact
import JobLog.Proofs.Run.RoundTrip
import JobLog.Proofs.Failure.Action
import JobLog.Proofs.Failure.Line
import JobLog.Proofs.ErrorLine.Grammar
import JobLog.Proofs.ErrorLine.Decision
import JobLog.Proofs.Failure.Stream
import JobLog.Proofs.Pool
import JobLog.Proofs.Input
import JobLog.Proofs.Suggestion.Memory
import JobLog.Proofs.Suggestion.Searches
import JobLog.Proofs.Step.Growth
import JobLog.Proofs.Suggestion.Helpful
import JobLog.Proofs.Run.Prefix
import JobLog.Proofs.Step.Cap
import JobLog.Proofs.Step.Intervals
import JobLog.Proofs.ErrorLine.Worker
import JobLog.Proofs.Decimal.Double
import JobLog.Proofs.Step.Duration
import JobLog.Proofs.Step.Marker
import JobLog.Proofs.Decimal.Nearest
import JobLog.Proofs.Step.Time
import JobLog.Proofs.Step.Decode
import JobLog.Proofs.Step.Summary
import JobLog.Proofs.ErrorLine.Harness
import JobLog.Proofs.ErrorLine.Cut
import JobLog.Proofs.Run.Provenance
import JobLog.Proofs.Performance.Schema
import JobLog.Proofs.Performance.Strict
import JobLog.Proofs.Run.LineLimit
import JobLog.Proofs.Suggestion.Bugs
import JobLog.Proofs.Bug.Union
import JobLog.Proofs.Text.Last
import JobLog.Proofs.Suggestion.Signature
import JobLog.Proofs.JobDetail
import JobLog.Proofs.Suggestion.HarnessLine
import JobLog.Proofs.Suggestion.TestPath
import JobLog.Proofs.Text.Letters
import JobLog.Proofs.Json.Written
import JobLog.Proofs.Json.Holds
import JobLog.Proofs.Failure.Unknown
import JobLog.Proofs.Failure.Known
import JobLog.Proofs.CommandLine.Options
import JobLog.Proofs.CommandLine.Outcome
import JobLog.Proofs.Decimal.Exact
import JobLog.Proofs.Source.Printable
import JobLog.Proofs.Json.Scan
import JobLog.Proofs.Sample.Script
import JobLog.Proofs.Sample.Line
import JobLog.Proofs.Sample.Payload
import JobLog.Proofs.Sample.Reading
import JobLog.Proofs.Sample.Marker
import JobLog.Proofs.Sample.Steps
import JobLog.Proofs.Sample.Placed
import JobLog.Proofs.Sample.Parse
