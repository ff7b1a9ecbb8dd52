import ClusterCaps.Decode
import ClusterCaps.Policy.Cluster

set_option autoImplicit false

namespace ClusterCaps

open Decode

namespace Cluster

def toJson (cluster : Cluster) : Json :=
  .object [("supports_distributed_tx", .bool cluster.distributedTx),
    ("supports_global_timestamp", .bool cluster.globalTimestamp),
    ("supports_global_timestamp_heartbeat", .bool cluster.globalTimestampHeartbeat),
    ("supports_commit_timestamp_tx", .bool cluster.commitTimestampTx),
    ("supports_deadlock_detection", .bool cluster.deadlockDetection),
    ("supports_mdl_deadlock_detection", .bool cluster.mdlDeadlockDetection),
    ("supports_bloom_filter", .bool cluster.bloomFilter),
    ("supports_hyper_log_log", .bool cluster.hyperLogLog),
    ("supports_fast_checksum", .bool cluster.fastChecksum),
    ("supports_open_ssl", .bool cluster.openSsl),
    ("supports_shared_read_view", .bool cluster.sharedReadView),
    ("supports_returning", .bool cluster.returning),
    ("legacy_version", .bool cluster.legacyVersion),
    ("read_only", .bool cluster.readOnly),
    ("lower_case_table_names", .bool cluster.lowerCaseTableNames)]

def fieldNames : List String :=
  ["supports_distributed_tx", "supports_global_timestamp", "supports_global_timestamp_heartbeat",
    "supports_commit_timestamp_tx", "supports_deadlock_detection",
    "supports_mdl_deadlock_detection", "supports_bloom_filter", "supports_hyper_log_log",
    "supports_fast_checksum", "supports_open_ssl", "supports_shared_read_view",
    "supports_returning", "legacy_version", "read_only", "lower_case_table_names"]

def decode : Decoder Cluster := fun dialect data => do
  let fields ← Fields.ofData? fieldNames dialect data
  let distributedTx ← fields.required dialect "supports_distributed_tx" bool
  let globalTimestamp ← fields.required dialect "supports_global_timestamp" bool
  let globalTimestampHeartbeat ← fields.required dialect "supports_global_timestamp_heartbeat" bool
  let commitTimestampTx ← fields.required dialect "supports_commit_timestamp_tx" bool
  let deadlockDetection ← fields.required dialect "supports_deadlock_detection" bool
  let mdlDeadlockDetection ← fields.required dialect "supports_mdl_deadlock_detection" bool
  let bloomFilter ← fields.required dialect "supports_bloom_filter" bool
  let hyperLogLog ← fields.required dialect "supports_hyper_log_log" bool
  let fastChecksum ← fields.required dialect "supports_fast_checksum" bool
  let openSsl ← fields.required dialect "supports_open_ssl" bool
  let sharedReadView ← fields.required dialect "supports_shared_read_view" bool
  let returning ← fields.required dialect "supports_returning" bool
  let legacyVersion ← fields.required dialect "legacy_version" bool
  let readOnly ← fields.required dialect "read_only" bool
  let lowerCaseTableNames ← fields.required dialect "lower_case_table_names" bool
  return { distributedTx, globalTimestamp, globalTimestampHeartbeat, commitTimestampTx,
           deadlockDetection, mdlDeadlockDetection, bloomFilter, hyperLogLog, fastChecksum, openSsl,
           sharedReadView, returning, legacyVersion, readOnly, lowerCaseTableNames }

end Cluster

def Capability.decode : Decoder Capability := choice Capability.named
def FoldOp.decode : Decoder FoldOp := choice FoldOp.named
def Override.decode : Decoder Override := choice Override.named

def Deployment.decode : Decoder Deployment := fun dialect data => do
  let fields ← Fields.ofData? ["read_only", "metadata_extended_protocol"] dialect data
  let readOnly ← fields.required dialect "read_only" bool
  let extendedMetadata ← fields.required dialect "metadata_extended_protocol" bool
  return { readOnly, extendedMetadata }

namespace Rule.Description

def toJson (rule : Description) : Json :=
  .object [("capability", .string rule.capability.name), ("node_condition", .string rule.condition),
    ("fold", .string rule.fold.name), ("overrides", .string rule.override.name),
    ("published", .bool rule.published)]

def decode : Decoder Description := fun dialect data => do
  let fields ← Fields.ofData?
    ["capability", "node_condition", "fold", "overrides", "published"] dialect data
  let capability ← fields.required dialect "capability" Capability.decode
  let condition ← fields.required dialect "node_condition" Decode.text
  let fold ← fields.required dialect "fold" FoldOp.decode
  let override ← fields.required dialect "overrides" Override.decode
  let published ← fields.required dialect "published" bool
  return { capability, condition, fold, override, published }

end Rule.Description

end ClusterCaps
