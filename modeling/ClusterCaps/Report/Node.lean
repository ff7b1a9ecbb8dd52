import ClusterCaps.Json.Printer
import ClusterCaps.Node.Report
import ClusterCaps.Report.Layout

set_option autoImplicit false

namespace ClusterCaps

structure NodeReport where
  name : String
  facts : Node.Snapshot
deriving DecidableEq, Repr

namespace NodeReport

open Report

def toJson (report : NodeReport) : Json :=
  .object (("name", .string report.name) :: report.facts.reportMembers)

def markdownLines (report : NodeReport) : List String :=
  ["# Node " ++ report.name, "", "Version: " ++ report.facts.version,
    "Engine: " ++ report.facts.engine.text,
    "lower_case_table_names: " ++ Text.ofInt report.facts.lowerCaseMode.toInt, ""] ++
    flagTable report.facts.flags

def summary (report : NodeReport) : String :=
  report.name ++ ": version=" ++ report.facts.version ++ " engine=" ++ report.facts.engine.text ++
    " legacy=" ++ yesNo report.facts.isLegacy ++
    " distributed_tx=" ++ yesNo report.facts.distributedTx

def render (report : NodeReport) : Layout → String
  | .json => Json.pretty report.toJson
  | .markdown => ofLines report.markdownLines
  | .summary => report.summary

def cells (report : NodeReport) : List String :=
  [report.name, report.facts.version, report.facts.engine.text, yesNo report.facts.isLegacy,
    yesNo report.facts.distributedTx]

end NodeReport

end ClusterCaps
