import ClusterCaps.Probe.Check
import ClusterCaps.Probe.Udf

set_option autoImplicit false

namespace ClusterCaps

inductive Engine where
  | generic
  | xengine
deriving DecidableEq, Repr

def Engine.text : Engine → String
  | generic => "generic"
  | xengine => "xengine"

namespace Node

structure Snapshot where
  version : String
  engine : Engine := .generic
  globalTimestamp : Bool := false
  heartbeat : Bool := false
  commitTimestampTx : Bool := false
  sharedReadView : Bool := false
  openSsl : Bool := false
  performanceSchema : Bool := false
  mdlPrivilege : Bool := false
  mdlInstrumentation : Bool := false
  returning : Bool := false
  lowerCaseMode : Int32 := 0
  udf : Udf.Extension := .absent
deriving DecidableEq, Repr

namespace Snapshot

def legacyLines : List String := ["5.6", "5.5"]

-- Nodes of this line have global timestamps without the extended metadata protocol.
def timestampLine : String := "8.0"

def deadlockDetectionLine : String := "5."

def onVersionLine (node : Snapshot) (line : String) : Bool := Text.startsWith line node.version

def isLegacy (node : Snapshot) : Bool := legacyLines.any node.onVersionLine

def distributedTx (node : Snapshot) : Bool := !node.isLegacy && node.engine != .xengine

def deadlockDetection (node : Snapshot) : Bool := node.onVersionLine deadlockDetectionLine

def mdlDeadlockDetection (node : Snapshot) : Bool :=
  node.performanceSchema && node.mdlPrivilege && node.mdlInstrumentation

def lowerCaseTableNames (node : Snapshot) : Bool := node.lowerCaseMode != 0

def bloomFilter (node : Snapshot) : Bool := node.udf.offersBloomFilter
def hyperLogLog (node : Snapshot) : Bool := node.udf.offersHyperLogLog
def fastChecksum (node : Snapshot) : Bool := node.udf.offersFastChecksum

def synthetic : Snapshot := { version := "5.7", lowerCaseMode := 1 }

end Snapshot

end Node

structure ProbeOptions where
  extendedProtocol : Bool
  fastMock : Bool
  udfPlugin : String
  udfFunctionsVariable : String
deriving DecidableEq, Repr

namespace Node.Snapshot

def logTarget : String := "sc_core::snapshot"

def probed (node : Snapshot) : Log.Event :=
  .plain .debug logTarget "node probed"
    [("version", .text node.version), ("engine", .text node.engine.text),
      ("distributed_tx", .bool node.distributedTx)]

def examine (options : ProbeOptions) : Probing Snapshot := do
  let version ← Check.version
  let globalTimestamp ← Check.globalTimestamp
  let heartbeat ← Check.timestampHeartbeat
  let performanceSchema ← Check.performanceSchema
  let onXEngine ← Check.xengine
  let udf ← Udf.resolve options.udfPlugin options.udfFunctionsVariable
  let returning ← Check.returning options.extendedProtocol
  let commitTimestampTx ← Check.commitTimestampTx
  let lowerCaseMode ← Check.lowerCaseTableNames
  let sharedReadView ← Check.sharedReadView
  let mdlPrivilege ← Check.mdlPrivilege
  let mdlInstrumentation ← Check.mdlInstrumentation
  let openSsl ← Check.openSsl
  let engine := if onXEngine then Engine.xengine else Engine.generic
  let node : Snapshot :=
    { version, engine, globalTimestamp, heartbeat, commitTimestampTx, sharedReadView, openSsl,
      performanceSchema, mdlPrivilege, mdlInstrumentation, returning, lowerCaseMode, udf }
  Probing.log node.probed
  return node

def probe (options : ProbeOptions) : Probing Snapshot :=
  if options.fastMock then Probing.done synthetic else examine options

end Node.Snapshot

end ClusterCaps
