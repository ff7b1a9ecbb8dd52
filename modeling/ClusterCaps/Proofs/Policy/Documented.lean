import ClusterCaps.Proofs.Policy.Fold
import ClusterCaps.Proofs.Text.Scan

set_option autoImplicit false

namespace ClusterCaps

namespace Node.Snapshot

def Begins (node : Snapshot) (line : String) : Prop := line.toList <+: node.version.toList

theorem on_version_line_iff (node : Snapshot) (line : String) :
    node.onVersionLine line = true ↔ node.Begins line :=
  Text.starts_with_iff line node.version

theorem is_legacy_iff (node : Snapshot) : node.isLegacy = true ↔ node.Begins "5.6" ∨ node.Begins "5.5" := by
  simp only [isLegacy, legacyLines, List.any_cons, List.any_nil, Bool.or_false, Bool.or_eq_true,
    on_version_line_iff]

theorem distributed_tx_iff (node : Snapshot) :
    node.distributedTx = true ↔
      ¬ node.Begins "5.6" ∧ ¬ node.Begins "5.5" ∧ node.engine ≠ .xengine := by
  have legacy : node.isLegacy = false ↔ ¬ node.Begins "5.6" ∧ ¬ node.Begins "5.5" := by
    rw [← Bool.not_eq_true, is_legacy_iff, not_or]
  simp only [distributedTx, Bool.and_eq_true, Bool.not_eq_true', legacy, bne_iff_ne, and_assoc]

theorem mdl_deadlock_detection_iff (node : Snapshot) :
    node.mdlDeadlockDetection = true ↔
      node.performanceSchema = true ∧ node.mdlPrivilege = true ∧ node.mdlInstrumentation = true := by
  simp only [mdlDeadlockDetection, Bool.and_eq_true, and_assoc]

theorem lower_case_table_names_iff (node : Snapshot) :
    node.lowerCaseTableNames = true ↔ node.lowerCaseMode ≠ 0 := by
  simp only [lowerCaseTableNames, bne_iff_ne]

end Node.Snapshot

def Udf.Extension.Provides (extension : Udf.Extension) (function : String) : Prop :=
  ∃ details, extension = .present details ∧ 1 ≤ details.major ∧ 1 ≤ details.minor ∧
    details.status = "ACTIVE" ∧ function ∈ details.functions

theorem Udf.offers_iff (extension : Udf.Extension) (function : String) :
    extension.offers function = true ↔ extension.Provides function := by
  cases extension with
  | absent => simp [Udf.Extension.offers, Udf.Extension.Provides]
  | present details =>
      simp [Udf.Extension.offers, Udf.Extension.Provides, Udf.Details.offers, Udf.activeStatus, and_assoc]

structure Documented (deployment : Deployment) (nodes : List Node.Snapshot) (cluster : Cluster) : Prop where
  distributedTx : cluster.distributedTx = true ↔
    (∀ node ∈ nodes, ¬ node.Begins "5.6" ∧ ¬ node.Begins "5.5" ∧ node.engine ≠ .xengine) ∧
      deployment.readOnly = false
  globalTimestamp : cluster.globalTimestamp = true ↔
    (∀ node ∈ nodes, node.globalTimestamp = true) ∧
      (deployment.extendedMetadata = true ∨ ∀ node ∈ nodes, node.Begins "8.0")
  globalTimestampHeartbeat : cluster.globalTimestampHeartbeat = true ↔
    (∀ node ∈ nodes, node.heartbeat = true) ∧ deployment.extendedMetadata = true
  commitTimestampTx : cluster.commitTimestampTx = true ↔ ∀ node ∈ nodes, node.commitTimestampTx = true
  deadlockDetection : cluster.deadlockDetection = true ↔ ∀ node ∈ nodes, node.Begins "5."
  mdlDeadlockDetection : cluster.mdlDeadlockDetection = true ↔
    ∀ node ∈ nodes,
      node.performanceSchema = true ∧ node.mdlPrivilege = true ∧ node.mdlInstrumentation = true
  bloomFilter : cluster.bloomFilter = true ↔ ∀ node ∈ nodes, node.udf.Provides "bloomfilter"
  hyperLogLog : cluster.hyperLogLog = true ↔ ∀ node ∈ nodes, node.udf.Provides "hyperloglog"
  fastChecksum : cluster.fastChecksum = true ↔ ∀ node ∈ nodes, node.udf.Provides "hashcheck"
  openSsl : cluster.openSsl = true ↔ ∀ node ∈ nodes, node.openSsl = true
  sharedReadView : cluster.sharedReadView = true ↔ ∀ node ∈ nodes, node.sharedReadView = true
  returning : cluster.returning = true ↔ ∀ node ∈ nodes, node.returning = true
  legacyVersion : cluster.legacyVersion = true ↔ ∃ node ∈ nodes, node.Begins "5.6" ∨ node.Begins "5.5"
  readOnly : cluster.readOnly = true ↔ deployment.readOnly = true
  lowerCaseTableNames : cluster.lowerCaseTableNames = true ↔ ∀ node ∈ nodes, node.lowerCaseMode ≠ 0

theorem documented_unique (deployment : Deployment) (nodes : List Node.Snapshot) (left right : Cluster)
    (first : Documented deployment nodes left) (second : Documented deployment nodes right) : left = right := by
  have agree : ∀ {a b : Bool} {condition : Prop},
      (a = true ↔ condition) → (b = true ↔ condition) → a = b :=
    fun here there => Bool.eq_iff_iff.mpr (here.trans there.symm)
  cases left
  cases right
  rw [Cluster.mk.injEq]
  exact ⟨agree first.distributedTx second.distributedTx,
    agree first.globalTimestamp second.globalTimestamp,
    agree first.globalTimestampHeartbeat second.globalTimestampHeartbeat,
    agree first.commitTimestampTx second.commitTimestampTx,
    agree first.deadlockDetection second.deadlockDetection,
    agree first.mdlDeadlockDetection second.mdlDeadlockDetection,
    agree first.bloomFilter second.bloomFilter,
    agree first.hyperLogLog second.hyperLogLog,
    agree first.fastChecksum second.fastChecksum,
    agree first.openSsl second.openSsl,
    agree first.sharedReadView second.sharedReadView,
    agree first.returning second.returning,
    agree first.legacyVersion second.legacyVersion,
    agree first.readOnly second.readOnly,
    agree first.lowerCaseTableNames second.lowerCaseTableNames⟩

namespace Fold

theorem raw_all_iff (capability : Capability) (nodes : List Node.Snapshot)
    (condition : Node.Snapshot → Prop) (every : (Rule.of capability).fold = .all)
    (meaning : ∀ node, (Rule.of capability).holds node = true ↔ condition node) :
    (ofNodes nodes).raw capability = true ↔ ∀ node ∈ nodes, condition node := by
  rw [raw_of_nodes_all capability nodes every, List.all_eq_true]
  exact forall_congr' fun node => imp_congr_right fun _ => meaning node

theorem raw_any_iff (capability : Capability) (nodes : List Node.Snapshot)
    (condition : Node.Snapshot → Prop) (one : (Rule.of capability).fold = .any)
    (meaning : ∀ node, (Rule.of capability).holds node = true ↔ condition node) :
    (ofNodes nodes).raw capability = true ↔ ∃ node ∈ nodes, condition node := by
  rw [raw_of_nodes_any capability nodes one, List.any_eq_true]
  exact exists_congr fun node => and_congr_right fun _ => meaning node

theorem target_line_iff (nodes : List Node.Snapshot) :
    (ofNodes nodes).raw .targetVersionLine = true ↔ ∀ node ∈ nodes, node.Begins "8.0" :=
  raw_all_iff .targetVersionLine nodes _ rfl fun node => Node.Snapshot.on_version_line_iff node "8.0"

open Node.Snapshot in
theorem finish_documented (nodes : List Node.Snapshot) (deployment : Deployment) :
    Documented deployment nodes ((ofNodes nodes).finish deployment) := by
  rw [finish_eq]
  exact
    { distributedTx := by
        have raw := raw_all_iff .distributedTx nodes _ rfl distributed_tx_iff
        have corrected : (Rule.of .distributedTx).override = .notReadOnly := rfl
        simp only [value_of, corrected, Override.apply, Bool.and_eq_true, Bool.not_eq_true', raw]
      globalTimestamp := by
        have raw := raw_all_iff .globalTimestamp nodes (·.globalTimestamp = true) rfl fun _ => Iff.rfl
        have corrected : (Rule.of .globalTimestamp).override = .extendedProtocolOrTargetLine := rfl
        simp only [value_of, corrected, Override.apply, Bool.and_eq_true, Bool.or_eq_true, raw,
          target_line_iff]
      globalTimestampHeartbeat := by
        have raw := raw_all_iff .globalTimestampHeartbeat nodes (·.heartbeat = true) rfl fun _ => Iff.rfl
        have corrected : (Rule.of .globalTimestampHeartbeat).override = .extendedProtocol := rfl
        simp only [value_of, corrected, Override.apply, Bool.and_eq_true, raw]
      commitTimestampTx := raw_all_iff .commitTimestampTx nodes _ rfl fun _ => Iff.rfl
      deadlockDetection :=
        raw_all_iff .deadlockDetection nodes _ rfl fun node => on_version_line_iff node "5."
      mdlDeadlockDetection := raw_all_iff .mdlDeadlockDetection nodes _ rfl mdl_deadlock_detection_iff
      bloomFilter := raw_all_iff .bloomFilter nodes _ rfl fun node => Udf.offers_iff node.udf "bloomfilter"
      hyperLogLog := raw_all_iff .hyperLogLog nodes _ rfl fun node => Udf.offers_iff node.udf "hyperloglog"
      fastChecksum := raw_all_iff .fastChecksum nodes _ rfl fun node => Udf.offers_iff node.udf "hashcheck"
      openSsl := raw_all_iff .openSsl nodes _ rfl fun _ => Iff.rfl
      sharedReadView := raw_all_iff .sharedReadView nodes _ rfl fun _ => Iff.rfl
      returning := raw_all_iff .returning nodes _ rfl fun _ => Iff.rfl
      legacyVersion := raw_any_iff .legacyVersion nodes _ rfl is_legacy_iff
      readOnly := Iff.rfl
      lowerCaseTableNames := raw_all_iff .lowerCaseTableNames nodes _ rfl lower_case_table_names_iff }

theorem finish_iff_documented (nodes : List Node.Snapshot) (deployment : Deployment) (cluster : Cluster) :
    (ofNodes nodes).finish deployment = cluster ↔ Documented deployment nodes cluster := by
  constructor
  · intro same
    rw [← same]
    exact finish_documented nodes deployment
  · intro documented
    exact documented_unique deployment nodes _ _ (finish_documented nodes deployment) documented

end Fold

end ClusterCaps
