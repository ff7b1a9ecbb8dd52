import ClusterCaps.Config.Source
import ClusterCaps.Config.Basic
import ClusterCaps.Digest.Sha256
import ClusterCaps.Time.Timestamp

set_option autoImplicit false

namespace ClusterCaps.Config

structure Summary where
  mode : String
  fastMock : Bool
  extendedProtocol : Bool
  metadataExtendedProtocol : Bool
  udfPlugin : String
  parallelism : Nat
deriving DecidableEq, Repr

structure Snapshot where
  time : Timestamp
  schemaVersion : String
  digest? : Option String
  path? : Option String
  source : String
  summary : Summary
deriving DecidableEq, Repr

def summary (config : Config) : Summary where
  mode := config.deployment.mode.name
  fastMock := config.deployment.fastMock
  extendedProtocol := config.protocol.extendedProtocol
  metadataExtendedProtocol := config.protocol.metadataExtendedProtocol
  udfPlugin := config.udf.pluginName
  parallelism := config.probe.parallelism

def snapshot (config : Config) (choice : Choice) (content : String) (time : Timestamp) :
    Snapshot where
  time := time
  schemaVersion := config.schemaVersion
  digest? := some (Digest.sha256OfText content)
  path? := choice.path?
  source := choice.source.text
  summary := config.summary

def Snapshot.ofDefaults (time : Timestamp) : Snapshot where
  time := time
  schemaVersion := currentVersion
  digest? := none
  path? := none
  source := Source.builtin.text
  summary := standard.summary

def Summary.toJson (summary : Summary) : Json :=
  .object [("deployment_mode", .string summary.mode), ("fast_mock", .bool summary.fastMock),
    ("extended_protocol", .bool summary.extendedProtocol),
    ("metadata_extended_protocol", .bool summary.metadataExtendedProtocol),
    ("udf_plugin", .string summary.udfPlugin), ("parallelism", .nat summary.parallelism)]

def Snapshot.toJson (snapshot : Snapshot) : Json :=
  .object [("timestamp", .string snapshot.time.text),
    ("schema_version", .string snapshot.schemaVersion),
    ("config_hash", Json.optionalString snapshot.digest?),
    ("config_path", Json.optionalString snapshot.path?), ("config_source", .string snapshot.source),
    ("summary", snapshot.summary.toJson)]

open Decode

def Summary.decode : Decoder Summary := fun dialect data => do
  let fields ← Fields.ofData?
    ["deployment_mode", "fast_mock", "extended_protocol", "metadata_extended_protocol",
      "udf_plugin", "parallelism"] dialect data
  let mode ← fields.required dialect "deployment_mode" text
  let fastMock ← fields.required dialect "fast_mock" bool
  let extendedProtocol ← fields.required dialect "extended_protocol" bool
  let metadataExtendedProtocol ← fields.required dialect "metadata_extended_protocol" bool
  let udfPlugin ← fields.required dialect "udf_plugin" text
  let parallelism ← fields.required dialect "parallelism" (natBelow countLimit)
  return { mode, fastMock, extendedProtocol, metadataExtendedProtocol, udfPlugin, parallelism }

def decodeTime : Decoder Timestamp := fun dialect data =>
  (text dialect data).bind Timestamp.ofText?

def Snapshot.decode : Decoder Snapshot := fun dialect data => do
  let fields ← Fields.ofData?
    ["timestamp", "schema_version", "config_hash", "config_path", "config_source", "summary"]
    dialect data
  let time ← fields.required dialect "timestamp" decodeTime
  let version ← fields.required dialect "schema_version" text
  let digest? ← fields.optionalWithDefault dialect "config_hash" text
  let path? ← fields.optionalWithDefault dialect "config_path" text
  let source ← fields.required dialect "config_source" text
  let summary ← fields.required dialect "summary" Summary.decode
  return { time, schemaVersion := version, digest?, path?, source, summary }

end ClusterCaps.Config
