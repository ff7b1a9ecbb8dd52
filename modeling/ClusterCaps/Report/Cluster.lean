import ClusterCaps.Config.Snapshot
import ClusterCaps.Manager.Call
import ClusterCaps.Policy.Document
import ClusterCaps.Report.Node

set_option autoImplicit false

namespace ClusterCaps

structure ClusterReport where
  schemaVersion : String
  pass? : Option PassId
  time : Timestamp
  cluster : Cluster
  nodes : List NodeReport
  skipped : List String
  config? : Option Config.Snapshot
deriving DecidableEq, Repr

namespace ClusterReport

open Report

def currentVersion : String := "1.0.0"

def ofManager (manager : Manager) (cluster : Cluster) (time : Timestamp) : ClusterReport where
  schemaVersion := currentVersion
  pass? := manager.lastPass?
  time := time
  cluster := cluster
  nodes := manager.nodes.map fun (name, facts) => ⟨name, facts⟩
  skipped := manager.skipped
  config? := none

def collect (manager : Manager) (outside : Outside) (time : Timestamp) : Call ClusterReport :=
  (manager.capabilities outside).andThen fun after cluster =>
    Call.pure after (ofManager after cluster time)

def withConfig (report : ClusterReport) (snapshot : Config.Snapshot) : ClusterReport :=
  { report with config? := some snapshot }

def optionalMember {α : Type} (name : String) (encode : α → Json) : Option α → List (String × Json)
  | none => []
  | some value => [(name, encode value)]

def toJson (report : ClusterReport) : Json :=
  .object <|
    [("schema_version", .string report.schemaVersion)] ++
    optionalMember "pass_id" (fun (id : PassId) => .string id.text) report.pass? ++
    [("generated_at", .string report.time.text), ("capabilities", report.cluster.toJson),
      ("nodes", .array (report.nodes.map NodeReport.toJson)),
      ("skipped", Json.strings report.skipped)] ++
    optionalMember "config" Config.Snapshot.toJson report.config?

def passText (report : ClusterReport) : String :=
  match report.pass? with
  | some id => id.text
  | none => "-"

def summary (report : ClusterReport) : String :=
  let enabled := (report.cluster.flags.filter (·.2)).map (·.1)
  "[" ++ report.passText ++ "] probe: " ++ Text.ofNat report.nodes.length ++ " nodes, " ++
    Text.ofNat report.skipped.length ++ " skipped; enabled: " ++
    (if enabled.isEmpty then "none" else Text.joined "," enabled)

def skippedLines (report : ClusterReport) : List String :=
  if report.skipped.isEmpty then [] else ["Skipped: " ++ Text.joined ", " report.skipped]

def nodeLines (report : ClusterReport) : List String :=
  if report.nodes.isEmpty then []
  else
    ["", "## Nodes", ""] ++
      tableLines ["Node", "Version", "Engine", "Legacy", "Distributed TX"]
        (report.nodes.map NodeReport.cells)

def configLines (report : ClusterReport) : List String :=
  match report.config? with
  | none => []
  | some snapshot =>
    ["", "Config: " ++ snapshot.path?.getD "built-in defaults" ++ " (" ++ snapshot.source ++ ")"]

def markdownLines (report : ClusterReport) : List String :=
  ["# sc-core probe", "", "Pass: " ++ report.passText,
    "Nodes: " ++ Text.ofNat report.nodes.length] ++
    report.skippedLines ++ ["", "## Cluster", ""] ++ flagTable report.cluster.flags ++
    report.nodeLines ++ report.configLines

def render (report : ClusterReport) : Layout → String
  | .json => Json.pretty report.toJson
  | .markdown => ofLines report.markdownLines
  | .summary => report.summary

end ClusterReport

end ClusterCaps
