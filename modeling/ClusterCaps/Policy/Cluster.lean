import ClusterCaps.Policy.Rule

set_option autoImplicit false

namespace ClusterCaps

structure Cluster where
  distributedTx : Bool := false
  globalTimestamp : Bool := false
  globalTimestampHeartbeat : Bool := false
  commitTimestampTx : Bool := false
  deadlockDetection : Bool := false
  mdlDeadlockDetection : Bool := false
  bloomFilter : Bool := false
  hyperLogLog : Bool := false
  fastChecksum : Bool := false
  openSsl : Bool := false
  sharedReadView : Bool := false
  returning : Bool := false
  legacyVersion : Bool := false
  readOnly : Bool := false
  lowerCaseTableNames : Bool := false
deriving DecidableEq, Repr

namespace Cluster

def nothing : Cluster := {}

def get? (cluster : Cluster) : Capability → Option Bool
  | .distributedTx => some cluster.distributedTx
  | .globalTimestamp => some cluster.globalTimestamp
  | .globalTimestampHeartbeat => some cluster.globalTimestampHeartbeat
  | .commitTimestampTx => some cluster.commitTimestampTx
  | .deadlockDetection => some cluster.deadlockDetection
  | .mdlDeadlockDetection => some cluster.mdlDeadlockDetection
  | .bloomFilter => some cluster.bloomFilter
  | .hyperLogLog => some cluster.hyperLogLog
  | .fastChecksum => some cluster.fastChecksum
  | .openSsl => some cluster.openSsl
  | .sharedReadView => some cluster.sharedReadView
  | .returning => some cluster.returning
  | .lowerCaseTableNames => some cluster.lowerCaseTableNames
  | .legacyVersion => some cluster.legacyVersion
  | .targetVersionLine => none

def set (cluster : Cluster) (value : Bool) : Capability → Cluster
  | .distributedTx => { cluster with distributedTx := value }
  | .globalTimestamp => { cluster with globalTimestamp := value }
  | .globalTimestampHeartbeat => { cluster with globalTimestampHeartbeat := value }
  | .commitTimestampTx => { cluster with commitTimestampTx := value }
  | .deadlockDetection => { cluster with deadlockDetection := value }
  | .mdlDeadlockDetection => { cluster with mdlDeadlockDetection := value }
  | .bloomFilter => { cluster with bloomFilter := value }
  | .hyperLogLog => { cluster with hyperLogLog := value }
  | .fastChecksum => { cluster with fastChecksum := value }
  | .openSsl => { cluster with openSsl := value }
  | .sharedReadView => { cluster with sharedReadView := value }
  | .returning => { cluster with returning := value }
  | .lowerCaseTableNames => { cluster with lowerCaseTableNames := value }
  | .legacyVersion => { cluster with legacyVersion := value }
  | .targetVersionLine => cluster

def flags (cluster : Cluster) : List (String × Bool) :=
  Rule.all.filterMap (fun rule =>
    (cluster.get? rule.capability).map fun value => (rule.capability.name, value)) ++
    [("read_only", cluster.readOnly)]

end Cluster

-- The value of every capability so far, before corrections, and how many nodes went into it.
structure Fold where
  values : Vector Bool Capability.count
  nodes : Nat

namespace Fold

def raw (fold : Fold) (capability : Capability) : Bool := fold.values.get capability.index

def sweep (step : Rule → Bool → Bool) (rules : List Rule) (values : Vector Bool Capability.count) :
    Vector Bool Capability.count :=
  rules.foldl (fun values rule =>
    let place : Fin Capability.count := rule.capability.index
    values.set place (step rule (values.get place)) place.isLt) values

def empty : Fold :=
  ⟨sweep (fun rule _ => rule.fold.identity) Rule.all (Vector.replicate Capability.count false), 0⟩

def absorb (fold : Fold) (node : Node.Snapshot) : Fold :=
  ⟨sweep (fun rule value => rule.fold.apply value (rule.holds node)) Rule.all fold.values, fold.nodes + 1⟩

def absorbOptional (fold : Fold) : Option Node.Snapshot → Fold
  | none => fold
  | some node => fold.absorb node

def merge (left right : Fold) : Fold :=
  ⟨sweep (fun rule value => rule.fold.apply value (right.raw rule.capability)) Rule.all left.values,
    left.nodes + right.nodes⟩

def ofNodes (nodes : List Node.Snapshot) : Fold := nodes.foldl absorb empty

def value (fold : Fold) (deployment : Deployment) (rule : Rule) : Bool :=
  rule.override.apply (fold.raw rule.capability) deployment (fold.raw .targetVersionLine)

def finish (fold : Fold) (deployment : Deployment) : Cluster :=
  Rule.all.foldl (fun cluster rule => cluster.set (fold.value deployment rule) rule.capability)
    { readOnly := deployment.readOnly }

section Sweep

variable (step : Rule → Bool → Bool) (values : Vector Bool Capability.count)

theorem sweep_absent (rules : List Rule) (capability : Capability)
    (absent : ∀ rule ∈ rules, rule.capability ≠ capability) :
    (sweep step rules values).get capability.index = values.get capability.index := by
  induction rules generalizing values with
  | nil => rfl
  | cons rule rest ih =>
      obtain ⟨here, later⟩ := List.forall_mem_cons.mp absent
      have apart : rule.capability.index.val ≠ capability.index.val :=
        fun same => here (Capability.index_inj _ _ (Fin.ext same))
      rw [sweep, List.foldl_cons]
      exact (ih _ later).trans (Vector.getElem_set_ne _ _ apart)

theorem sweep_listed (rules : List Rule) (distinct : (rules.map Rule.capability).Nodup) (rule : Rule)
    (listed : rule ∈ rules) :
    (sweep step rules values).get rule.capability.index = step rule (values.get rule.capability.index) := by
  induction rules generalizing values with
  | nil => cases listed
  | cons first rest ih =>
      obtain ⟨unlike, others⟩ := List.nodup_cons.mp distinct
      rw [sweep, List.foldl_cons]
      rcases List.mem_cons.mp listed with rfl | later
      · have alone : ∀ other ∈ rest, other.capability ≠ rule.capability :=
          fun other member same => unlike (same ▸ List.mem_map_of_mem member)
        exact (sweep_absent step _ rest rule.capability alone).trans (Vector.getElem_set_self _)
      · have apart : first.capability.index.val ≠ rule.capability.index.val :=
          fun same => unlike (Capability.index_inj _ _ (Fin.ext same) ▸ List.mem_map_of_mem later)
        refine (ih _ others later).trans (congrArg (step rule) ?_)
        exact Vector.getElem_set_ne _ _ apart

-- The loop over the table comes to one step for each capability, by its own rule.
theorem sweep_table (capability : Capability) :
    (sweep step Rule.all values).get capability.index = step (Rule.of capability) (values.get capability.index) := by
  obtain ⟨listed, named⟩ := (Rule.one_row capability _).mpr rfl
  have distinct : (Rule.all.map Rule.capability).Nodup := Rule.all_capabilities ▸ Capability.all_distinct
  have swept := sweep_listed step values Rule.all distinct _ listed
  simpa only [named] using swept

end Sweep

@[simp]
theorem raw_empty (capability : Capability) : empty.raw capability = (Rule.of capability).fold.identity := by
  simp only [raw, empty, sweep_table]

@[simp]
theorem raw_absorb (fold : Fold) (node : Node.Snapshot) (capability : Capability) :
    (fold.absorb node).raw capability =
      (Rule.of capability).fold.apply (fold.raw capability) ((Rule.of capability).holds node) := by
  simp only [raw, absorb, sweep_table]

@[simp]
theorem raw_merge (left right : Fold) (capability : Capability) :
    (left.merge right).raw capability =
      (Rule.of capability).fold.apply (left.raw capability) (right.raw capability) := by
  simp only [raw, merge, sweep_table, Rule.capability_of]

@[simp]
theorem nodes_empty : empty.nodes = 0 := rfl

@[simp]
theorem nodes_absorb (fold : Fold) (node : Node.Snapshot) : (fold.absorb node).nodes = fold.nodes + 1 := rfl

@[simp]
theorem nodes_merge (left right : Fold) : (left.merge right).nodes = left.nodes + right.nodes := rfl

theorem ext_raw (left right : Fold) (raws : ∀ capability, left.raw capability = right.raw capability)
    (nodes : left.nodes = right.nodes) : left = right := by
  obtain ⟨values, count⟩ := left
  obtain ⟨others, _⟩ := right
  obtain rfl : count = _ := nodes
  congr
  refine Vector.ext fun place inside => ?_
  obtain ⟨capability, here⟩ := Capability.index_onto ⟨place, inside⟩
  have same := raws capability
  simp only [raw, here] at same
  exact same

theorem value_of (fold : Fold) (deployment : Deployment) (capability : Capability) :
    fold.value deployment (Rule.of capability) =
      (Rule.of capability).override.apply (fold.raw capability) deployment (fold.raw .targetVersionLine) := by
  rw [value, Rule.capability_of]

theorem finish_eq (fold : Fold) (deployment : Deployment) :
    fold.finish deployment =
      { distributedTx := fold.value deployment (Rule.of .distributedTx)
        globalTimestamp := fold.value deployment (Rule.of .globalTimestamp)
        globalTimestampHeartbeat := fold.value deployment (Rule.of .globalTimestampHeartbeat)
        commitTimestampTx := fold.value deployment (Rule.of .commitTimestampTx)
        deadlockDetection := fold.value deployment (Rule.of .deadlockDetection)
        mdlDeadlockDetection := fold.value deployment (Rule.of .mdlDeadlockDetection)
        bloomFilter := fold.value deployment (Rule.of .bloomFilter)
        hyperLogLog := fold.value deployment (Rule.of .hyperLogLog)
        fastChecksum := fold.value deployment (Rule.of .fastChecksum)
        openSsl := fold.value deployment (Rule.of .openSsl)
        sharedReadView := fold.value deployment (Rule.of .sharedReadView)
        returning := fold.value deployment (Rule.of .returning)
        legacyVersion := fold.value deployment (Rule.of .legacyVersion)
        readOnly := deployment.readOnly
        lowerCaseTableNames := fold.value deployment (Rule.of .lowerCaseTableNames) } := by
  unfold finish
  generalize fold.value deployment = value
  rfl

theorem merge_empty (fold : Fold) : fold.merge empty = fold :=
  ext_raw _ _ (fun capability => by simp [FoldOp.apply_identity]) (Nat.add_zero fold.nodes)

theorem empty_merge (fold : Fold) : empty.merge fold = fold :=
  ext_raw _ _ (fun capability => by simp [FoldOp.identity_apply]) (Nat.zero_add fold.nodes)

theorem merge_comm (left right : Fold) : left.merge right = right.merge left :=
  ext_raw _ _ (fun capability => by simp [FoldOp.apply_comm]) (by simp only [nodes_merge, Nat.add_comm])

theorem merge_assoc (a b c : Fold) : (a.merge b).merge c = a.merge (b.merge c) :=
  ext_raw _ _ (fun capability => by simp [FoldOp.apply_assoc]) (by simp only [nodes_merge, Nat.add_assoc])

theorem absorb_eq_merge (fold : Fold) (node : Node.Snapshot) :
    fold.absorb node = fold.merge (empty.absorb node) :=
  ext_raw _ _ (fun capability => by simp [FoldOp.identity_apply]) (by simp)

end Fold

end ClusterCaps
