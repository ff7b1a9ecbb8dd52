import ClusterCaps.CommandLine.Command
import ClusterCaps.CommandLine.Guide
import ClusterCaps.CommandLine.Reading
import ClusterCaps.CommandLine.Run
import ClusterCaps.CommandLine.Task
import ClusterCaps.Config.Basic
import ClusterCaps.Config.Error
import ClusterCaps.Config.Load
import ClusterCaps.Config.Snapshot
import ClusterCaps.Config.Source
import ClusterCaps.Data
import ClusterCaps.Decimal.Binary64
import ClusterCaps.Decimal.Shortest
import ClusterCaps.Decode
import ClusterCaps.Digest.Sha256
import ClusterCaps.Failure.Basic
import ClusterCaps.Failure.Document
import ClusterCaps.Failure.ExitCode
import ClusterCaps.Files.Entry
import ClusterCaps.Files.Path
import ClusterCaps.Files.Tree
import ClusterCaps.Json.Printer
import ClusterCaps.Json.Reader
import ClusterCaps.Json.Value
import ClusterCaps.Log.Event
import ClusterCaps.Log.Filter
import ClusterCaps.Log.Line
import ClusterCaps.Log.Settings
import ClusterCaps.Main
import ClusterCaps.Manager.Call
import ClusterCaps.Manager.Session
import ClusterCaps.Manager.State
import ClusterCaps.NameMap
import ClusterCaps.Node.Report
import ClusterCaps.Node.Snapshot
import ClusterCaps.Pass.Run
import ClusterCaps.Pass.Visit
import ClusterCaps.PassId
import ClusterCaps.Policy.Cluster
import ClusterCaps.Policy.Document
import ClusterCaps.Policy.Rule
import ClusterCaps.Probe.Check
import ClusterCaps.Probe.Probing
import ClusterCaps.Probe.Query
import ClusterCaps.Probe.Script
import ClusterCaps.Probe.Statement
import ClusterCaps.Probe.Udf
import ClusterCaps.Proofs.Manager.History
import ClusterCaps.Proofs.NameMap
import ClusterCaps.Proofs.Pass.Sequential
import ClusterCaps.Proofs.Policy.Documented
import ClusterCaps.Proofs.Policy.Fold
import ClusterCaps.Report.Cluster
import ClusterCaps.Report.Config
import ClusterCaps.Report.Layout
import ClusterCaps.Report.Node
import ClusterCaps.Report.Rules
import ClusterCaps.Schema.Basic
import ClusterCaps.Schema.Catalog
import ClusterCaps.Text.Blank
import ClusterCaps.Text.Bytes
import ClusterCaps.Text.Integer
import ClusterCaps.Text.Letter
import ClusterCaps.Text.Printable
import ClusterCaps.Text.Quoted
import ClusterCaps.Text.Scan
import ClusterCaps.Time.Timestamp
import ClusterCaps.Toml.Reader
import ClusterCaps.Toml.Scalar
import ClusterCaps.Toml.Table
import ClusterCaps.Topology.Basic
import ClusterCaps.Topology.Profile
import ClusterCaps.Topology.Simulation
import ClusterCaps.Topology.Transcript
import ClusterCaps.Yaml.Cursor
import ClusterCaps.Yaml.Reader
import ClusterCaps.Yaml.Scalar
import ClusterCaps.Yaml.Token
import ClusterCaps.Proofs.Manager.Lifecycle
import ClusterCaps.Proofs.Protocol.Step
import ClusterCaps.Proofs.Protocol.Trace
import ClusterCaps.Proofs.Protocol.Invariant
import ClusterCaps.Proofs.Protocol.Initialization
import ClusterCaps.Proofs.Protocol.Alone
import ClusterCaps.Proofs.Policy.Merging
import ClusterCaps.Proofs.Manager.Accounting
import ClusterCaps.Proofs.Text.Scan
import ClusterCaps.Proofs.Text.Integer
import ClusterCaps.Proofs.Probe.Interview
import ClusterCaps.Proofs.Probe.Checks
import ClusterCaps.Proofs.Probe.Statement
import ClusterCaps.Proofs.Node.Probing
import ClusterCaps.Proofs.Config.Check
import ClusterCaps.Proofs.Topology.Profile
import ClusterCaps.Proofs.Pass.Crashing
import ClusterCaps.Proofs.Pass.Synthetic
import ClusterCaps.Proofs.Manager.Moves
import ClusterCaps.Proofs.Manager.Naming
import ClusterCaps.Proofs.Manager.Synthetic
import ClusterCaps.Proofs.Manager.Containment
import ClusterCaps.Proofs.Service.Step
import ClusterCaps.Proofs.Service.Record
import ClusterCaps.Proofs.Service.Invariant
import ClusterCaps.Proofs.Service.Alone
import ClusterCaps.Proofs.Service.Gate
import ClusterCaps.Proofs.Service.Recheck
import ClusterCaps.Proofs.Service.Report
import ClusterCaps.Proofs.Config.Loading
import ClusterCaps.Proofs.Topology.Transcript
import ClusterCaps.Proofs.CommandLine.Outcome
import ClusterCaps.Proofs.Probe.Events
import ClusterCaps.Proofs.Pass.Occurrences
import ClusterCaps.Proofs.Manager.Correlation
import ClusterCaps.Proofs.Json.Edit
import ClusterCaps.Proofs.Config.Partial
import ClusterCaps.Proofs.Topology.Partial
import ClusterCaps.Proofs.Text.SortedSet
import ClusterCaps.Proofs.Json.Reading
import ClusterCaps.Proofs.Json.Records
import ClusterCaps.Proofs.Config.Names
import ClusterCaps.Proofs.Log.Line
import ClusterCaps.Proofs.Manager.Chronicle
import ClusterCaps.Proofs.Text.Pieces
import ClusterCaps.Proofs.Text.Numeral
import ClusterCaps.Proofs.Probe.Version
import ClusterCaps.Proofs.Probe.FunctionList
import ClusterCaps.Proofs.Text.Bytes
import ClusterCaps.Proofs.PassId
import ClusterCaps.Proofs.Service.Presence
import ClusterCaps.Proofs.Service.Reading
import ClusterCaps.Proofs.Topology.Acceptance
import ClusterCaps.Proofs.Report.Table
import ClusterCaps.Proofs.Report.Shape
