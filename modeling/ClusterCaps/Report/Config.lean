import ClusterCaps.Config.Load
import ClusterCaps.Json.Printer
import ClusterCaps.Report.Layout

set_option autoImplicit false

namespace ClusterCaps.Config.Loaded

open Report

def origin (loaded : Loaded) : String := loaded.snapshot.path?.getD "built-in defaults"

def validJson (loaded : Loaded) : Json :=
  .object [("schema_version", .string currentVersion), ("status", .string "valid"),
    ("path", Json.optionalString loaded.snapshot.path?),
    ("hash", Json.optionalString loaded.snapshot.digest?)]

def renderValid (loaded : Loaded) : Layout → String
  | .json => Json.pretty loaded.validJson
  | .markdown => "config valid: " ++ loaded.origin
  | .summary => "config valid: " ++ loaded.origin

def toJson (loaded : Loaded) : Json :=
  .object [("schema_version", .string currentVersion), ("source", loaded.snapshot.toJson),
    ("values", loaded.config.toJson)]

def summaryLine (loaded : Loaded) : String :=
  "config: " ++ loaded.origin ++ " (" ++ loaded.snapshot.source ++ ") mode=" ++
    loaded.snapshot.summary.mode ++ " parallelism=" ++
    Text.ofNat loaded.snapshot.summary.parallelism

def rows (summary : Summary) : List (List String) :=
  [["deployment.mode", summary.mode], ["deployment.fast_mock", Json.boolText summary.fastMock],
    ["protocol.extended_protocol", Json.boolText summary.extendedProtocol],
    ["protocol.metadata_extended_protocol", Json.boolText summary.metadataExtendedProtocol],
    ["udf.plugin_name", summary.udfPlugin],
    ["probe.parallelism", Text.ofNat summary.parallelism]]

def markdownLines (loaded : Loaded) : List String :=
  ["# sc-core config show", "",
    "Source: " ++ loaded.origin ++ " (" ++ loaded.snapshot.source ++ ")",
    "Hash: " ++ loaded.snapshot.digest?.getD "n/a",
    "Schema version: " ++ loaded.snapshot.schemaVersion, ""] ++
    tableLines ["Setting", "Value"] (rows loaded.snapshot.summary)

def render (loaded : Loaded) : Layout → String
  | .json => Json.pretty loaded.toJson
  | .markdown => Text.joined "\n" loaded.markdownLines
  | .summary => loaded.summaryLine

end ClusterCaps.Config.Loaded
