import LedgerBoard.CommandLine.Invocation
import LedgerBoard.CommandLine.Job
import LedgerBoard.CommandLine.Offline
import LedgerBoard.Dashboard.App
import LedgerBoard.Dashboard.Basic
import LedgerBoard.Dashboard.Ensemble
import LedgerBoard.Dashboard.Key
import LedgerBoard.Dashboard.Keyboard
import LedgerBoard.Dashboard.Row
import LedgerBoard.Duration.Basic
import LedgerBoard.Duration.Reader
import LedgerBoard.Duration.Unit
import LedgerBoard.Files.Disk
import LedgerBoard.Files.Path
import LedgerBoard.Files.Tree
import LedgerBoard.Frame.Basic
import LedgerBoard.Frame.Escape
import LedgerBoard.Frame.HeartBeat
import LedgerBoard.Frame.Reader
import LedgerBoard.Frame.Writer
import LedgerBoard.Json.Fault
import LedgerBoard.Json.Number
import LedgerBoard.Json.Record
import LedgerBoard.Json.Skip
import LedgerBoard.Json.Text
import LedgerBoard.Ledger.Event
import LedgerBoard.Ledger.Topic
import LedgerBoard.Log.Filter
import LedgerBoard.Main
import LedgerBoard.Number.Binary64
import LedgerBoard.Number.Decimal
import LedgerBoard.Number.Shortest
import LedgerBoard.Proofs.Dashboard.Applied
import LedgerBoard.Proofs.Dashboard.Attuned
import LedgerBoard.Proofs.Dashboard.Changes
import LedgerBoard.Proofs.Dashboard.Delivery
import LedgerBoard.Proofs.Dashboard.Generations
import LedgerBoard.Proofs.Dashboard.Held
import LedgerBoard.Proofs.Dashboard.History
import LedgerBoard.Proofs.Dashboard.Inputs
import LedgerBoard.Proofs.Dashboard.Invariant
import LedgerBoard.Proofs.Dashboard.Losses
import LedgerBoard.Proofs.Dashboard.Marks
import LedgerBoard.Proofs.Dashboard.Tables
import LedgerBoard.Proofs.Frame.Composition
import LedgerBoard.Proofs.Frame.Escape
import LedgerBoard.Proofs.Frame.Grammar
import LedgerBoard.Proofs.Frame.RoundTrip
import LedgerBoard.Proofs.Frame.Truncation
import LedgerBoard.Proofs.Number.Decimal
import LedgerBoard.Proofs.Outcome
import LedgerBoard.Proofs.Session.Conduct
import LedgerBoard.Proofs.Session.Deeds
import LedgerBoard.Proofs.Session.Discipline
import LedgerBoard.Proofs.Session.Endings
import LedgerBoard.Proofs.Session.Noise
import LedgerBoard.Proofs.Session.Numbering
import LedgerBoard.Proofs.Session.Packing
import LedgerBoard.Proofs.Session.Parting
import LedgerBoard.Proofs.Session.Record
import LedgerBoard.Proofs.Session.Reports
import LedgerBoard.Proofs.Session.Routing
import LedgerBoard.Proofs.Session.Running
import LedgerBoard.Proofs.Session.Stages
import LedgerBoard.Proofs.Session.Trace
import LedgerBoard.Proofs.Session.Turns
import LedgerBoard.Proofs.Settings.Overlay
import LedgerBoard.Proofs.Text.Decoding
import LedgerBoard.Proofs.Text.Octets
import LedgerBoard.Proofs.Toml.Document
import LedgerBoard.Proofs.Toml.Holdings
import LedgerBoard.Proofs.Toml.Mentions
import LedgerBoard.Proofs.Toml.Moment
import LedgerBoard.Proofs.Toml.Space
import LedgerBoard.Proofs.Toml.Text
import LedgerBoard.Proofs.Toml.Value
import LedgerBoard.Screen.Border
import LedgerBoard.Screen.Canvas
import LedgerBoard.Screen.Line
import LedgerBoard.Screen.Table
import LedgerBoard.Screen.Terminal
import LedgerBoard.Screen.View
import LedgerBoard.Session.Address
import LedgerBoard.Session.Basic
import LedgerBoard.Session.Dial
import LedgerBoard.Session.Error
import LedgerBoard.Session.Event
import LedgerBoard.Session.Owned
import LedgerBoard.Session.Running
import LedgerBoard.Session.Turn
import LedgerBoard.Settings.Basic
import LedgerBoard.Settings.Check
import LedgerBoard.Settings.Document
import LedgerBoard.Settings.Effective
import LedgerBoard.Settings.Error
import LedgerBoard.Settings.Location
import LedgerBoard.Settings.Outline
import LedgerBoard.Settings.Store
import LedgerBoard.Settings.Template
import LedgerBoard.Shape.Mismatch
import LedgerBoard.Text.Blank
import LedgerBoard.Text.Cluster
import LedgerBoard.Text.Extending
import LedgerBoard.Text.Octets
import LedgerBoard.Text.Position
import LedgerBoard.Text.Quoted
import LedgerBoard.Text.Ranges
import LedgerBoard.Text.Unprintable
import LedgerBoard.Text.Wide
import LedgerBoard.Toml.Document
import LedgerBoard.Toml.Node
import LedgerBoard.Toml.Number
import LedgerBoard.Toml.Reading
import LedgerBoard.Toml.Text
import LedgerBoard.Toml.Value
import LedgerBoard.Watch.Basic
import LedgerBoard.Watch.Run
import LedgerBoard.Proofs.Dashboard.Teardown
import LedgerBoard.Proofs.Watch.History
import LedgerBoard.Proofs.Watch.Lines
import LedgerBoard.Proofs.Watch.Success
import LedgerBoard.Proofs.Ledger.Renderings
import LedgerBoard.Proofs.Frame.Reencoding
import LedgerBoard.Proofs.Session.Address
import LedgerBoard.Proofs.Session.Beats
import LedgerBoard.Proofs.Files.Path
import LedgerBoard.Proofs.Files.Tree
import LedgerBoard.Proofs.Files.World
import LedgerBoard.Proofs.Settings.Creation
import LedgerBoard.Proofs.CommandLine.Effective
import LedgerBoard.Proofs.Session.Endpoint
import LedgerBoard.Proofs.Settings.HomePath
import LedgerBoard.Proofs.Text.Printable
import LedgerBoard.Proofs.Screen.Table
import LedgerBoard.Proofs.Settings.Position
