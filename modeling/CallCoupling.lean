import CallCoupling.Main
import CallCoupling.Web.Stream
import CallCoupling.Proofs.Agreement
import CallCoupling.Proofs.Event.History
import CallCoupling.Proofs.Event.Delivery
import CallCoupling.Proofs.Run.Course
import CallCoupling.Proofs.Workspace
import CallCoupling.Proofs.Run.Protocol
import CallCoupling.Proofs.Coupling.Pairs
import CallCoupling.Proofs.Graph.Document
import CallCoupling.Proofs.Run.Conservation
import CallCoupling.Proofs.Event.Replay
import CallCoupling.Proofs.Run.Session
import CallCoupling.Proofs.Web.LateClient
import CallCoupling.Proofs.Graph.Canonical
import CallCoupling.Proofs.Defects
import CallCoupling.Proofs.Model.Normal
import CallCoupling.Proofs.Guarded
import CallCoupling.Proofs.Text.Utf8
import CallCoupling.Proofs.Json.Spelling
import CallCoupling.Proofs.Json.Spelled
import CallCoupling.Proofs.Json.Document
import CallCoupling.Proofs.Json.RoundTrip
import CallCoupling.Proofs.Json.Reading
import CallCoupling.Proofs.Json.Datum
import CallCoupling.Proofs.Model.RoundTrip
import CallCoupling.Proofs.Model.Safety
import CallCoupling.Proofs.Graph.Interleaving
import CallCoupling.Proofs.Coupling.Operations
import CallCoupling.Proofs.Coupling.Table
import CallCoupling.Proofs.Coupling.Presentation
import CallCoupling.Proofs.Event.LifeCycle
import CallCoupling.Proofs.Watch.Batches
import CallCoupling.Proofs.Watch.Pipeline
import CallCoupling.Proofs.Event.Frame
import CallCoupling.Proofs.Graph.Search
import CallCoupling.Proofs.Graph.Distance
import CallCoupling.Proofs.Graph.Neighbourhood
import CallCoupling.Proofs.Coupling.Ranking
import CallCoupling.Proofs.Config.Layers
import CallCoupling.Proofs.Config.Toml
import CallCoupling.Proofs.Config.Environment
import CallCoupling.Proofs.Config.Flags
import CallCoupling.Proofs.Config.Precedence
import CallCoupling.Proofs.Event.Retention
import CallCoupling.Proofs.Model.Nulls
import CallCoupling.Proofs.Report.Printing
import CallCoupling.Proofs.Report.Listing
import CallCoupling.Proofs.Graph.Growth
import CallCoupling.Proofs.Text.Unquoted
import CallCoupling.Proofs.Log.Reading
import CallCoupling.Proofs.Log.Groups
import CallCoupling.Proofs.Log.Family
import CallCoupling.Proofs.Text.Bytes
import CallCoupling.Proofs.Log.Lines
import CallCoupling.Proofs.Graph.Selection
import CallCoupling.Proofs.Web.Outcome
