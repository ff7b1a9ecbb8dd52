import ClusterCaps.Node.Snapshot

set_option autoImplicit false

namespace ClusterCaps

inductive Capability where
  | distributedTx
  | globalTimestamp
  | globalTimestampHeartbeat
  | commitTimestampTx
  | deadlockDetection
  | mdlDeadlockDetection
  | bloomFilter
  | hyperLogLog
  | fastChecksum
  | openSsl
  | sharedReadView
  | returning
  | lowerCaseTableNames
  | legacyVersion
  -- Every node is on the timestamp line. Corrects another capability and is not published.
  | targetVersionLine
deriving DecidableEq, Repr

namespace Capability

def all : List Capability :=
  [distributedTx, globalTimestamp, globalTimestampHeartbeat, commitTimestampTx, deadlockDetection,
    mdlDeadlockDetection, bloomFilter, hyperLogLog, fastChecksum, openSsl, sharedReadView, returning,
    lowerCaseTableNames, legacyVersion, targetVersionLine]

def count : Nat := 15

def index (capability : Capability) : Fin count := ⟨capability.ctorIdx, by cases capability <;> decide⟩

def name : Capability → String
  | distributedTx => "distributed_tx"
  | globalTimestamp => "global_timestamp"
  | globalTimestampHeartbeat => "global_timestamp_heartbeat"
  | commitTimestampTx => "commit_timestamp_tx"
  | deadlockDetection => "deadlock_detection"
  | mdlDeadlockDetection => "mdl_deadlock_detection"
  | bloomFilter => "bloom_filter"
  | hyperLogLog => "hyper_log_log"
  | fastChecksum => "fast_checksum"
  | openSsl => "open_ssl"
  | sharedReadView => "shared_read_view"
  | returning => "returning"
  | lowerCaseTableNames => "lower_case_table_names"
  | legacyVersion => "legacy_version"
  | targetVersionLine => "target_version_line"

def title : Capability → String
  | distributedTx => "DistributedTx"
  | globalTimestamp => "GlobalTimestamp"
  | globalTimestampHeartbeat => "GlobalTimestampHeartbeat"
  | commitTimestampTx => "CommitTimestampTx"
  | deadlockDetection => "DeadlockDetection"
  | mdlDeadlockDetection => "MdlDeadlockDetection"
  | bloomFilter => "BloomFilter"
  | hyperLogLog => "HyperLogLog"
  | fastChecksum => "FastChecksum"
  | openSsl => "OpenSsl"
  | sharedReadView => "SharedReadView"
  | returning => "Returning"
  | lowerCaseTableNames => "LowerCaseTableNames"
  | legacyVersion => "LegacyVersion"
  | targetVersionLine => "TargetVersionLine"

def named : List (String × Capability) := all.map fun capability => (capability.name, capability)

def isPublic (capability : Capability) : Bool := capability != targetVersionLine

theorem mem_all (capability : Capability) : capability ∈ all := by
  cases capability <;> decide

theorem all_distinct : all.Nodup := by decide

theorem all_index (place : Fin count) : (all[place]).index = place := by
  revert place
  decide

theorem index_onto (place : Fin count) : ∃ capability : Capability, capability.index = place :=
  ⟨all[place], all_index place⟩

theorem index_all (capability : Capability) : all[capability.index] = capability := by
  cases capability <;> rfl

theorem index_inj (left right : Capability) (same : left.index = right.index) : left = right :=
  calc
    left = all[left.index] := (index_all left).symm
    _ = all[right.index] := congrArg (fun place : Fin count => all[place]) same
    _ = right := index_all right

end Capability

inductive FoldOp where
  | all
  | any
deriving DecidableEq, Repr

namespace FoldOp

def name : FoldOp → String
  | all => "all"
  | any => "any"

def title : FoldOp → String
  | all => "All"
  | any => "Any"

def named : List (String × FoldOp) := [("all", all), ("any", any)]

def identity : FoldOp → Bool
  | all => true
  | any => false

def apply : FoldOp → Bool → Bool → Bool
  | all, left, right => left && right
  | any, left, right => left || right

theorem identity_apply (op : FoldOp) (value : Bool) : op.apply op.identity value = value := by
  cases op <;> rfl

theorem apply_identity (op : FoldOp) (value : Bool) : op.apply value op.identity = value := by
  cases op <;> cases value <;> rfl

theorem apply_comm (op : FoldOp) (left right : Bool) : op.apply left right = op.apply right left := by
  cases op <;> cases left <;> cases right <;> rfl

theorem apply_assoc (op : FoldOp) (a b c : Bool) :
    op.apply (op.apply a b) c = op.apply a (op.apply b c) := by
  cases op <;> cases a <;> cases b <;> cases c <;> rfl

end FoldOp

structure Deployment where
  readOnly : Bool
  extendedMetadata : Bool
deriving DecidableEq, Repr

inductive Override where
  | unchanged
  | notReadOnly
  | extendedProtocol
  | extendedProtocolOrTargetLine
deriving DecidableEq, Repr

namespace Override

def name : Override → String
  | unchanged => "none"
  | notReadOnly => "not_read_only"
  | extendedProtocol => "extended_protocol"
  | extendedProtocolOrTargetLine => "extended_protocol_or_target_line"

def title : Override → String
  | unchanged => "None"
  | notReadOnly => "NotReadOnly"
  | extendedProtocol => "ExtendedProtocol"
  | extendedProtocolOrTargetLine => "ExtendedProtocolOrTargetLine"

def named : List (String × Override) :=
  [unchanged, notReadOnly, extendedProtocol, extendedProtocolOrTargetLine].map
    fun override => (override.name, override)

def apply (override : Override) (folded : Bool) (deployment : Deployment) (onTargetLine : Bool) :
    Bool :=
  match override with
  | unchanged => folded
  | notReadOnly => folded && !deployment.readOnly
  | extendedProtocol => folded && deployment.extendedMetadata
  | extendedProtocolOrTargetLine => folded && (deployment.extendedMetadata || onTargetLine)

def text : Override → String
  | unchanged => "-"
  | notReadOnly => "and not read_only"
  | extendedProtocol => "and metadata extended protocol"
  | extendedProtocolOrTargetLine => "and (metadata extended protocol or every node on 8.0)"

end Override

structure Rule where
  capability : Capability
  holds : Node.Snapshot → Bool
  fold : FoldOp
  override : Override
  condition : String

namespace Rule

def all : List Rule :=
  [⟨.distributedTx, Node.Snapshot.distributedTx, .all, .notReadOnly, "version not 5.6/5.5 and engine is not xengine"⟩,
    ⟨.globalTimestamp, Node.Snapshot.globalTimestamp, .all, .extendedProtocolOrTargetLine,
      "innodb_commit_seq present"⟩,
    ⟨.globalTimestampHeartbeat, Node.Snapshot.heartbeat, .all, .extendedProtocol, "innodb_heartbeat_seq present"⟩,
    ⟨.commitTimestampTx, Node.Snapshot.commitTimestampTx, .all, .unchanged, "innodb_cts_transaction present"⟩,
    ⟨.deadlockDetection, Node.Snapshot.deadlockDetection, .all, .unchanged, "version starts with 5."⟩,
    ⟨.mdlDeadlockDetection, Node.Snapshot.mdlDeadlockDetection, .all, .unchanged,
      "performance_schema on, MDL views readable and MDL instrument enabled"⟩,
    ⟨.bloomFilter, Node.Snapshot.bloomFilter, .all, .unchanged, "UDF >= 1.1 ACTIVE with bloomfilter"⟩,
    ⟨.hyperLogLog, Node.Snapshot.hyperLogLog, .all, .unchanged, "UDF >= 1.1 ACTIVE with hyperloglog"⟩,
    ⟨.fastChecksum, Node.Snapshot.fastChecksum, .all, .unchanged, "UDF >= 1.1 ACTIVE with hashcheck"⟩,
    ⟨.openSsl, Node.Snapshot.openSsl, .all, .unchanged, "Rsa_public_key status present"⟩,
    ⟨.sharedReadView, Node.Snapshot.sharedReadView, .all, .unchanged, "innodb_transaction_group present"⟩,
    ⟨.returning, Node.Snapshot.returning, .all, .unchanged, "dbms_trans.returning registered"⟩,
    ⟨.lowerCaseTableNames, Node.Snapshot.lowerCaseTableNames, .all, .unchanged, "lower_case_table_names != 0"⟩,
    ⟨.legacyVersion, Node.Snapshot.isLegacy, .any, .unchanged, "version starts with 5.6 or 5.5"⟩,
    ⟨.targetVersionLine, (Node.Snapshot.onVersionLine · Node.Snapshot.timestampLine), .all,
      .unchanged, "version starts with 8.0"⟩]

def table : Vector Rule Capability.count := ⟨all.toArray, rfl⟩

def of (capability : Capability) : Rule := table[capability.index]

def text (rule : Rule) : String :=
  "Rule \x7b capability: " ++ rule.capability.title ++ ", fold: " ++ rule.fold.title ++
    ", overrides: " ++ rule.override.title ++ ", .. \x7d"

structure Description where
  capability : Capability
  condition : String
  fold : FoldOp
  override : Override
  published : Bool
deriving DecidableEq, Repr

def describe (rule : Rule) : Description :=
  ⟨rule.capability, rule.condition, rule.fold, rule.override, rule.capability.isPublic⟩

def descriptions : List Description := all.map describe

theorem capability_of (capability : Capability) : (of capability).capability = capability := by
  cases capability <;> rfl

theorem all_capabilities : all.map capability = Capability.all := rfl

theorem one_row (capability : Capability) (rule : Rule) :
    rule ∈ all ∧ rule.capability = capability ↔ rule = of capability := by
  constructor
  · rintro ⟨listed, rfl⟩
    obtain ⟨place, inside, rfl⟩ := List.getElem_of_mem listed
    have within : place < (all.map Rule.capability).length := by simpa using inside
    have named : (all.map Rule.capability)[place] = all[place].capability := List.getElem_map _
    have same : all[place].capability.index = ⟨place, inside⟩ :=
      (congrArg Capability.index named.symm).trans (Capability.all_index ⟨place, inside⟩)
    exact congrArg (fun row : Fin Capability.count => table[row]) same.symm
  · rintro rfl
    have listed : table[capability.index] ∈ table := Vector.getElem_mem capability.index.isLt
    exact ⟨Vector.mem_toList_iff.mpr listed, capability_of capability⟩

end Rule

end ClusterCaps
