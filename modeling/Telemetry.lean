import Telemetry.Text.Blank
import Telemetry.Text.Search
import Telemetry.Text.Quoted
import Telemetry.Text.LowerCase
import Telemetry.Number.Shortest
import Telemetry.Json.Writer
import Telemetry.Json.Draft
import Telemetry.Json.Reader
import Telemetry.Id
import Telemetry.Time.Stamp
import Telemetry.Batch
import Telemetry.Json.Decoder
import Telemetry.Codec.Batch
import Telemetry.Codec.SpanOrder
import Telemetry.Codec.CallEdge
import Telemetry.Index.Traces
import Telemetry.Index.Logs
import Telemetry.Index.Metrics
import Telemetry.CallGraph.Chains
import Telemetry.CallGraph.Named
import Telemetry.Diagram.Renderer
import Telemetry.Toml.Reader
import Telemetry.Settings.File
import Telemetry.Reports
import Telemetry.Store.Basic
import Telemetry.Store.Request
import Telemetry.Intake.Engine
import Telemetry.Proofs.Index.Entries
import Telemetry.Proofs.List.EraseDups
import Telemetry.Proofs.List.Sorting
import Telemetry.Proofs.List.Traversal
import Telemetry.Proofs.Traces.Ledger
import Telemetry.Proofs.Traces.Readers
import Telemetry.Proofs.Traces.Represents
import Telemetry.Proofs.Traces.Refinement
import Telemetry.Proofs.Traces.Fate
import Telemetry.Proofs.Traces.Seeding
import Telemetry.Proofs.Traces.Entry
import Telemetry.Proofs.Store.Run
import Telemetry.Proofs.Store.View
import Telemetry.Proofs.Store.Arrivals
import Telemetry.Proofs.Store.SpanShelf
import Telemetry.Proofs.Store.SpanOrder
import Telemetry.Proofs.Store.LatencyOrder
import Telemetry.Proofs.Store.Settled
import Telemetry.Proofs.Store.Agreement
import Telemetry.Proofs.Store.SpanRotation
import Telemetry.Proofs.Index.Logs
import Telemetry.Proofs.Text.ByteOrder
import Telemetry.Proofs.Index.Metrics
import Telemetry.Proofs.Index.Runs
import Telemetry.Proofs.Store.Projection
import Telemetry.Proofs.Store.Retention
import Telemetry.Proofs.Store.Diagram
import Telemetry.Proofs.Store.Flush
import Telemetry.Proofs.Store.Separation
import Telemetry.Proofs.Store.Recalculation
import Telemetry.Proofs.Store.Redelivery
import Telemetry.Proofs.CallGraph.Record
import Telemetry.Proofs.CallGraph.Shown
import Telemetry.Proofs.CallGraph.Reach
import Telemetry.Proofs.CallGraph.Roots
import Telemetry.Proofs.CallGraph.Depth
import Telemetry.Proofs.CallGraph.Named
import Telemetry.Proofs.CallGraph.RootOrder
import Telemetry.Proofs.CallGraph.Descent
import Telemetry.Proofs.CallGraph.Describe
import Telemetry.Proofs.CallGraph.LineOrder
import Telemetry.Proofs.Text.Pieces
import Telemetry.Proofs.Text.Occurrences
import Telemetry.Proofs.Diagram.Chain
import Telemetry.Proofs.Diagram.Description
import Telemetry.Proofs.Diagram.Grammar
import Telemetry.Proofs.Diagram.Acceptance
import Telemetry.Proofs.Intake.Delivery
import Telemetry.Proofs.Number.Hexadecimal
import Telemetry.Proofs.Time.Stamp
import Telemetry.Proofs.Number.Numeral
import Telemetry.Proofs.Number.Binary64
import Telemetry.Proofs.Json.Draft
import Telemetry.Proofs.Codec.Laws
import Telemetry.Proofs.Codec.Canonical
import Telemetry.Proofs.Codec.Records
import Telemetry.Proofs.Codec.Metrics
import Telemetry.Proofs.Codec.Decoded
import Telemetry.Proofs.Codec.RoundTrip
import Telemetry.Proofs.Codec.IdText
