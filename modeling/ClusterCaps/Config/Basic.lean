import ClusterCaps.Decode
import ClusterCaps.Node.Snapshot
import ClusterCaps.Policy.Rule

set_option autoImplicit false

namespace ClusterCaps

namespace Config

inductive Mode where
  | master
  | readOnly
deriving DecidableEq, Repr

namespace Mode

def name : Mode → String
  | master => "master"
  | readOnly => "read_only"

def named : List (String × Mode) := [("master", master), ("read_only", readOnly)]

end Mode

structure DeploymentPart where
  mode : Mode := .master
  fastMock : Bool := false
deriving DecidableEq, Repr

structure ProtocolPart where
  extendedProtocol : Bool := false
  metadataExtendedProtocol : Bool := false
deriving DecidableEq, Repr

def defaultPlugin : String := "polarx_udf"
def defaultFunctionsVariable : String := "polarx_udf_function_list"

structure UdfPart where
  pluginName : String := defaultPlugin
  functionListVariable : String := defaultFunctionsVariable
deriving DecidableEq, Repr

structure ProbePart where
  parallelism : Nat := 1
deriving DecidableEq, Repr

def currentVersion : String := "1.0.0"

end Config

structure Config where
  schemaVersion : String := Config.currentVersion
  deployment : Config.DeploymentPart := {}
  protocol : Config.ProtocolPart := {}
  udf : Config.UdfPart := {}
  probe : Config.ProbePart := {}
deriving DecidableEq, Repr

namespace Config

def standard : Config := {}

def isReadOnly (config : Config) : Bool := config.deployment.mode == .readOnly

def probeOptions (config : Config) : ProbeOptions where
  extendedProtocol := config.protocol.extendedProtocol
  fastMock := config.deployment.fastMock
  udfPlugin := config.udf.pluginName
  udfFunctionsVariable := config.udf.functionListVariable

def facts (config : Config) : ClusterCaps.Deployment where
  readOnly := config.isReadOnly
  extendedMetadata := config.protocol.metadataExtendedProtocol

def DeploymentPart.toJson (part : DeploymentPart) : Json :=
  .object [("mode", .string part.mode.name), ("fast_mock", .bool part.fastMock)]

def ProtocolPart.toJson (part : ProtocolPart) : Json :=
  .object [("extended_protocol", .bool part.extendedProtocol),
    ("metadata_extended_protocol", .bool part.metadataExtendedProtocol)]

def UdfPart.toJson (part : UdfPart) : Json :=
  .object [("plugin_name", .string part.pluginName),
    ("function_list_variable", .string part.functionListVariable)]

def ProbePart.toJson (part : ProbePart) : Json :=
  .object [("parallelism", .nat part.parallelism)]

def toJson (config : Config) : Json :=
  .object [("schema_version", .string config.schemaVersion),
    ("deployment", config.deployment.toJson), ("protocol", config.protocol.toJson),
    ("udf", config.udf.toJson), ("probe", config.probe.toJson)]

open Decode

def DeploymentPart.decode : Decoder DeploymentPart := fun dialect data => do
  let fields ← Fields.ofData? ["mode", "fast_mock"] dialect data
  let mode ← fields.withDefault dialect "mode" (choice Mode.named) .master
  let fastMock ← fields.withDefault dialect "fast_mock" bool false
  return { mode, fastMock }

def ProtocolPart.decode : Decoder ProtocolPart := fun dialect data => do
  let fields ← Fields.ofData? ["extended_protocol", "metadata_extended_protocol"] dialect data
  let extendedProtocol ← fields.withDefault dialect "extended_protocol" bool false
  let metadataExtendedProtocol ←
    fields.withDefault dialect "metadata_extended_protocol" bool false
  return { extendedProtocol, metadataExtendedProtocol }

def UdfPart.decode : Decoder UdfPart := fun dialect data => do
  let fields ← Fields.ofData? ["plugin_name", "function_list_variable"] dialect data
  let pluginName ← fields.withDefault dialect "plugin_name" text defaultPlugin
  let functionListVariable ←
    fields.withDefault dialect "function_list_variable" text defaultFunctionsVariable
  return { pluginName, functionListVariable }

def countLimit : Nat := 18446744073709551616

def ProbePart.decode : Decoder ProbePart := fun dialect data => do
  let fields ← Fields.ofData? ["parallelism"] dialect data
  let parallelism ← fields.withDefault dialect "parallelism" (natBelow countLimit) 1
  return { parallelism }

def decode : Decoder Config := fun dialect data => do
  let fields ← Fields.ofData? ["schema_version", "deployment", "protocol", "udf", "probe"] dialect data
  let version ← fields.withDefault dialect "schema_version" text Config.currentVersion
  let deployment ← fields.withDefault dialect "deployment" DeploymentPart.decode {}
  let protocol ← fields.withDefault dialect "protocol" ProtocolPart.decode {}
  let udf ← fields.withDefault dialect "udf" UdfPart.decode {}
  let probe ← fields.withDefault dialect "probe" ProbePart.decode {}
  return { schemaVersion := version, deployment, protocol, udf, probe }

end Config

end ClusterCaps
