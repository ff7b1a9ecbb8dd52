import ClusterCaps.Decode
import ClusterCaps.Node.Snapshot

set_option autoImplicit false

namespace ClusterCaps

namespace Engine

def code : Engine → String
  | generic => "generic"
  | xengine => "x_engine"

def named : List (String × Engine) := [generic, xengine].map fun engine => (engine.code, engine)

def decode : Decoder Engine := Decode.choice named

end Engine

namespace Udf

def detailMembers (details : Details) : List (String × Json) :=
  [("major_version", .int details.major.toInt), ("minor_version", .int details.minor.toInt),
    ("status", .string details.status), ("registered_functions", Json.strings details.functions)]

def tagField : String := "state"

def absentTag : String := "absent"
def presentTag : String := "present"

def Extension.toJson : Extension → Json
  | absent => .object [(tagField, .string absentTag)]
  | present details => .object ((tagField, .string presentTag) :: detailMembers details)

open Decode

def Details.decode : Decoder Details := fun dialect data => do
  let fields ← Fields.ofData?
    ["major_version", "minor_version", "status", "registered_functions"] dialect data
  let major ← fields.required dialect "major_version" int32
  let minor ← fields.required dialect "minor_version" int32
  let status ← fields.required dialect "status" text
  let functions ← fields.required dialect "registered_functions" textSet
  return { major, minor, status, functions }

-- An absent extension may have anything in its document, but nothing in its list.
def isEmptyRest : Data → Bool
  | .list items => items.isEmpty
  | _ => true

def Extension.decodeTagged (dialect : Dialect) (tag : String) (rest : Data) : Option Extension :=
  if tag = absentTag then (if isEmptyRest rest then some .absent else none)
  else if tag = presentTag then (Details.decode dialect rest).map .present
  else none

def takeTag (dialect : Dialect) : List (Data × Data) → Option (String × List (Data × Data))
  | [] => none
  | (key, value) :: rest =>
    if text dialect key = some tagField then (text dialect value).map fun tag => (tag, rest)
    else (takeTag dialect rest).map fun (tag, others) => (tag, (key, value) :: others)

def Extension.decode : Decoder Extension := fun dialect data =>
  match data with
  | .table entries =>
    (takeTag dialect entries).bind fun (tag, rest) => decodeTagged dialect tag (.table rest)
  | .list (head :: rest) =>
    (text dialect head).bind fun tag => decodeTagged dialect tag (.list rest)
  | _ => none

end Udf

namespace Node.Snapshot

def reportMembers (node : Snapshot) : List (String × Json) :=
  [("version", .string node.version),
    ("engine_kind", .string node.engine.code),
    ("legacy_version", .bool node.isLegacy),
    ("supports_distributed_tx", .bool node.distributedTx),
    ("supports_global_timestamp", .bool node.globalTimestamp),
    ("supports_global_timestamp_heartbeat", .bool node.heartbeat),
    ("supports_commit_timestamp_tx", .bool node.commitTimestampTx),
    ("supports_shared_read_view", .bool node.sharedReadView),
    ("supports_open_ssl", .bool node.openSsl),
    ("supports_performance_schema", .bool node.performanceSchema),
    ("has_metadata_lock_select_privilege", .bool node.mdlPrivilege),
    ("metadata_lock_instrumentation_enabled", .bool node.mdlInstrumentation),
    ("supports_deadlock_detection", .bool node.deadlockDetection),
    ("supports_mdl_deadlock_detection", .bool node.mdlDeadlockDetection),
    ("supports_returning", .bool node.returning),
    ("supports_bloom_filter", .bool node.bloomFilter),
    ("supports_hyper_log_log", .bool node.hyperLogLog),
    ("supports_fast_checksum", .bool node.fastChecksum),
    ("lower_case_table_name_mode", .int node.lowerCaseMode.toInt),
    ("udf", node.udf.toJson)]

def report (node : Snapshot) : Json := .object node.reportMembers

def flags (node : Snapshot) : List (String × Bool) :=
  [("supports_distributed_tx", node.distributedTx),
    ("supports_global_timestamp", node.globalTimestamp),
    ("supports_global_timestamp_heartbeat", node.heartbeat),
    ("supports_commit_timestamp_tx", node.commitTimestampTx),
    ("supports_shared_read_view", node.sharedReadView),
    ("supports_open_ssl", node.openSsl),
    ("supports_performance_schema", node.performanceSchema),
    ("has_metadata_lock_select_privilege", node.mdlPrivilege),
    ("metadata_lock_instrumentation_enabled", node.mdlInstrumentation),
    ("supports_deadlock_detection", node.deadlockDetection),
    ("supports_mdl_deadlock_detection", node.mdlDeadlockDetection),
    ("supports_returning", node.returning),
    ("supports_bloom_filter", node.bloomFilter),
    ("supports_hyper_log_log", node.hyperLogLog),
    ("supports_fast_checksum", node.fastChecksum),
    ("legacy_version", node.isLegacy)]

end Node.Snapshot

end ClusterCaps
