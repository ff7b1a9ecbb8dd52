import Mathlib.Data.List.Basic
import ClusterCaps.Proofs.Pass.Sequential

set_option autoImplicit false

namespace ClusterCaps

def Topology.refusal? (topology : Topology) (name : String) : Option TopologyError :=
  match topology.connect name with
  | .error cause => some cause
  | .ok _ => none

theorem Topology.refusal_none_iff (topology : Topology) (name : String) :
    topology.refusal? name = none ↔ ∃ link, topology.connect name = .ok link := by
  unfold refusal?
  cases topology.connect name <;> simp

theorem Topology.refusal_some_iff (topology : Topology) (name : String) (cause : TopologyError) :
    topology.refusal? name = some cause ↔ topology.connect name = .error cause := by
  unfold refusal?
  cases topology.connect name <;> simp

namespace Visit

variable (topology : Topology) (options : ProbeOptions) (name : String)

theorem of_mocked (mocked : options.fastMock = true) :
    Visit.of topology options name =
      match topology.refusal? name with
      | some cause => ⟨name, [], .failed (.topology cause)⟩
      | none => ⟨name, [.log (probed .synthetic)], .found .synthetic⟩ := by
  unfold Visit.of Topology.refusal?
  cases topology.connect name with
  | error cause => rfl
  | ok link =>
      cases link with
      | answering connection =>
          have probe : (Node.Snapshot.probe options).run connection = ⟨[], .ok .synthetic⟩ := by
            simp only [Node.Snapshot.probe, mocked, if_true, Probing.run_done]
          simp only [probe]
          rfl
      | crashing =>
          simp only [mocked, if_true]
          rfl

theorem of_mocked_queries (mocked : options.fastMock = true) : (Visit.of topology options name).queries = [] := by
  rw [of_mocked topology options name mocked]
  split <;> rfl

theorem of_mocked_calm (mocked : options.fastMock = true) :
    (Visit.of topology options name).hasCrashed = false := by
  rw [of_mocked topology options name mocked]
  split <;> rfl

theorem of_mocked_error (mocked : options.fastMock = true) :
    (Visit.of topology options name).error? = (topology.refusal? name).map .topology := by
  rw [of_mocked topology options name mocked]
  cases topology.refusal? name <;> rfl

theorem of_mocked_entry (mocked : options.fastMock = true) (reached : topology.refusal? name = none) :
    Visit.entry? (Visit.of topology options name) = some (name, .synthetic) := by
  rw [of_mocked topology options name mocked, reached]
  rfl

end Visit

namespace Pass

def mockedFindings (deployment : Deployment) (nodes : List Descriptor) : Findings :=
  let sql := nodes.filter Descriptor.isSql
  ⟨(Fold.ofNodes (List.replicate sql.length .synthetic)).finish deployment,
    sql.map fun node => (node.name, .synthetic),
    (nodes.filter fun node => !node.isSql).map Descriptor.name⟩

section Mocked

variable (topology : Topology) (options : ProbeOptions) (deployment : Deployment) (nodes : List Descriptor)
  (mocked : options.fastMock = true)

include mocked

theorem mocked_failures :
    (sqlVisits (Visit.of topology options) nodes).findSome? Visit.error? =
      ((nodes.filter Descriptor.isSql).findSome? fun node => topology.refusal? node.name).map .topology := by
  rw [sqlVisits, List.findSome?_map, List.map_findSome?]
  congr 1
  funext node
  exact Visit.of_mocked_error topology options node.name mocked

theorem mocked_entries
    (reached : ∀ node ∈ nodes.filter Descriptor.isSql, topology.refusal? node.name = none) :
    (sqlVisits (Visit.of topology options) nodes).filterMap Visit.entry? =
      (nodes.filter Descriptor.isSql).map fun node => (node.name, .synthetic) := by
  rw [sqlVisits, List.filterMap_map, ← List.filterMap_eq_map]
  exact List.filterMap_congr fun node member =>
    Visit.of_mocked_entry topology options node.name mocked (reached node member)

theorem sequential_mocked :
    sequential (Visit.of topology options) deployment nodes =
      match (nodes.filter Descriptor.isSql).findSome? fun node => topology.refusal? node.name with
      | some cause => .error (.topology cause)
      | none => .ok (mockedFindings deployment nodes) := by
  unfold sequential
  dsimp only
  rw [mocked_failures topology options nodes mocked]
  cases refused : (nodes.filter Descriptor.isSql).findSome? fun node => topology.refusal? node.name with
  | some cause => rfl
  | none =>
      have reached := List.findSome?_eq_none_iff.mp refused
      have copies : ((nodes.filter Descriptor.isSql).map fun node => (node.name, Node.Snapshot.synthetic)).map (·.2) =
          List.replicate (nodes.filter Descriptor.isSql).length .synthetic := by
        rw [List.map_map]
        exact List.map_const'
      simp only [Option.map_none, mocked_entries topology options nodes mocked reached, copies]
      rfl

omit nodes in
theorem run_mocked_queries (parallelism : Nat) :
    (run topology options parallelism deployment).contacts.filterMap Contact.query? = [] := by
  have unasked : ∀ visit ∈ (run topology options parallelism deployment).visits, visit.queries = [] := by
    intro visit member
    unfold run at member
    split at member
    · cases member
    · next listed _ =>
        have visited := (of_descriptors_visits _ parallelism deployment listed).subset member
        obtain ⟨node, _, rfl⟩ := List.mem_map.mp visited
        exact Visit.of_mocked_queries topology options node.name mocked
  rw [run_contacts, List.filterMap_cons_none rfl, List.filterMap_flatMap, List.flatMap_eq_nil_iff]
  intro visit member
  rw [Visit.contacts, unasked visit member]
  rfl

theorem run_mocked_result (listed : topology.nodes = .ok nodes) (parallelism : Nat) :
    (run topology options parallelism deployment).result =
      match (nodes.filter Descriptor.isSql).findSome? fun node => topology.refusal? node.name with
      | some cause => .error (.failed (.topology cause))
      | none => .ok (mockedFindings deployment nodes) := by
  have calm : Calm (Visit.of topology options) nodes := fun node _ _ =>
    Visit.of_mocked_calm topology options node.name mocked
  rw [run_listed topology options parallelism deployment nodes listed, after_result, of_descriptors_result _ parallelism deployment nodes calm,
    sequential_mocked topology options deployment nodes mocked]
  split <;> rfl

omit nodes in
theorem run_mocked_synthetic (parallelism : Nat) (findings : Findings)
    (found : (run topology options parallelism deployment).result = .ok findings) :
    ∀ entry ∈ findings.snapshots, entry.2 = .synthetic := by
  cases listed : topology.nodes with
  | error cause => simp [run, listed] at found
  | ok nodes =>
      rw [run_mocked_result topology options deployment nodes mocked listed parallelism] at found
      split at found
      · cases found
      · cases found
        intro entry member
        obtain ⟨node, _, rfl⟩ := List.mem_map.mp member
        rfl

end Mocked

-- A pass that asks no node anything still needs a way to every SQL node. With all of them it succeeds,
-- and without it fails on the first node in the order of the topology that cannot be reached.
theorem mocked_pass_needs_every_connection (topology : Topology) (options : ProbeOptions)
    (mocked : options.fastMock = true) (deployment : Deployment) (nodes : List Descriptor)
    (listed : topology.nodes = .ok nodes) (parallelism : Nat) :
    let pass := run topology options parallelism deployment
    let sql := nodes.filter Descriptor.isSql
    pass.contacts.filterMap Contact.query? = [] ∧
      (pass.result = .ok (mockedFindings deployment nodes) ↔
        ∀ node ∈ sql, ∃ link, topology.connect node.name = .ok link) ∧
      ∀ before node after cause, sql = before ++ node :: after →
        (∀ other ∈ before, ∃ link, topology.connect other.name = .ok link) →
          topology.connect node.name = .error cause → pass.result = .error (.failed (.topology cause)) := by
  intro pass sql
  have result := run_mocked_result topology options deployment nodes mocked listed parallelism
  simp only [← topology.refusal_none_iff, ← topology.refusal_some_iff]
  refine ⟨run_mocked_queries topology options deployment mocked parallelism, ⟨fun found => ?_, fun reached => ?_⟩,
    fun before node after cause ordered reached refused => ?_⟩
  · rw [result] at found
    split at found
    · cases found
    · next reached => exact List.findSome?_eq_none_iff.mp reached
  · rw [result, List.findSome?_eq_none_iff.mpr reached]
  · have first : sql.findSome? (fun node => topology.refusal? node.name) = some cause :=
      List.findSome?_eq_some_iff.mpr ⟨before, node, after, ordered, refused, reached⟩
    rw [result, first]

def faultyTopology : Topology where
  nodes := .ok lostNodes
  connect name :=
    if name = "dn-1" then .ok .crashing
    else .ok (.answering fun _ _ => .error (.connectionLost "reset"))

theorem mocked_pass_over_faulty_nodes :
    let options : ProbeOptions := ⟨false, true, "udf", "udf_functions"⟩
    options.fastMock = true ∧ faultyTopology.nodes = .ok lostNodes ∧
      (∀ node ∈ lostNodes.filter Descriptor.isSql, ∃ link, faultyTopology.connect node.name = .ok link) ∧
      (run faultyTopology options 2 ⟨false, false⟩).result = .ok (mockedFindings ⟨false, false⟩ lostNodes) := by
  intro options
  have reached : ∀ node ∈ lostNodes.filter Descriptor.isSql, ∃ link, faultyTopology.connect node.name = .ok link := by
    intro node _
    unfold faultyTopology
    dsimp only
    split <;> exact ⟨_, rfl⟩
  exact ⟨rfl, rfl, reached,
    (mocked_pass_needs_every_connection faultyTopology options rfl ⟨false, false⟩ lostNodes rfl 2).2.1.mpr reached⟩

theorem mocked_pass_fails_without_connection :
    let options : ProbeOptions := ⟨false, true, "udf", "udf_functions"⟩
    lostTopology.nodes = .ok lostNodes ∧
      (run lostTopology options 1 ⟨false, false⟩).result =
        .error (.failed (.topology (.connection "dn-1" "connection refused"))) ∧
      ∀ findings, (run lostTopology options 1 ⟨false, false⟩).result ≠ .ok findings := by
  intro options
  have result : (run lostTopology options 1 ⟨false, false⟩).result =
      .error (.failed (.topology (.connection "dn-1" "connection refused"))) := rfl
  refine ⟨rfl, result, fun findings found => ?_⟩
  rw [result] at found
  cases found

end Pass

end ClusterCaps
