import ClusterCaps.Pass.Run
import ClusterCaps.Proofs.Policy.Fold

set_option autoImplicit false

namespace ClusterCaps

def Visit.entry? (visit : Visit) : Option (String × Node.Snapshot) :=
  visit.snapshot?.map fun snapshot => (visit.node, snapshot)

theorem Visit.of_node (topology : Topology) (options : ProbeOptions) (name : String) :
    (Visit.of topology options name).node = name := by
  have outcome : ∀ result, (Visit.ofOutcome name result).node = name := by
    intro result
    unfold Visit.ofOutcome
    split <;> rfl
  unfold Visit.of
  split
  · rfl
  · exact outcome _
  · split
    · exact outcome _
    · rfl

namespace Pass

def sqlVisits (visit : String → Visit) (nodes : List Descriptor) : List Visit :=
  (nodes.filter Descriptor.isSql).map fun node => visit node.name

-- A pass that visits the SQL nodes from first to last and gives up at the first failure.
def sequential (visit : String → Visit) (deployment : Deployment) (nodes : List Descriptor) :
    Except PassError Findings :=
  let visits := sqlVisits visit nodes
  match visits.findSome? Visit.error? with
  | some error => .error error
  | none =>
    let found := visits.filterMap Visit.entry?
    .ok ⟨(Fold.ofNodes (found.map (·.2))).finish deployment, found,
      (nodes.filter fun node => !node.isSql).map Descriptor.name⟩

def Calm (visit : String → Visit) (nodes : List Descriptor) : Prop :=
  ∀ node ∈ nodes, node.isSql = true → (visit node.name).hasCrashed = false

theorem sql_visits_calm (visit : String → Visit) (nodes : List Descriptor) (calm : Calm visit nodes) :
    ∀ visited ∈ sqlVisits visit nodes, visited.hasCrashed = false := by
  intro visited member
  obtain ⟨node, listed, rfl⟩ := List.mem_map.mp member
  obtain ⟨present, sql⟩ := List.mem_filter.mp listed
  exact calm node present sql

theorem chunks_flatten {α : Type} (size steps : Nat) (items : List α) (enough : items.length ≤ steps) :
    (chunks size steps items).flatten = items := by
  induction steps generalizing items with
  | zero => simpa [chunks] using enough
  | succ steps ih =>
      cases items with
      | nil => rfl
      | cons item rest =>
          have shorter : ((item :: rest).drop (max 1 size)).length ≤ steps := by
            simp only [List.length_drop, List.length_cons] at enough ⊢
            omega
          rw [chunks, List.flatten_cons, ih _ shorter, List.take_append_drop]

theorem snapshots_append (left right : List Visit) :
    snapshots (left ++ right) =
      (snapshots left).bind fun found => (snapshots right).map (found ++ ·) := by
  induction left with
  | nil =>
      change snapshots right = (snapshots right).map ([] ++ ·)
      cases snapshots right <;> rfl
  | cons visit rest ih =>
      cases ending : visit.ending with
      | crashed => simp only [List.cons_append, snapshots, ending, Except.bind]
      | failed error => simp only [List.cons_append, snapshots, ending, Except.bind]
      | found snapshot =>
          simp only [List.cons_append, snapshots, ending, ih]
          cases snapshots rest with
          | error stop => rfl
          | ok found => cases snapshots right <;> rfl

theorem snapshots_calm (visits : List Visit) (calm : ∀ visit ∈ visits, visit.hasCrashed = false) :
    snapshots visits =
      match visits.findSome? Visit.error? with
      | some error => .error (.failed error)
      | none => .ok (visits.filterMap Visit.entry?) := by
  induction visits with
  | nil => rfl
  | cons visit rest ih =>
      have here := calm visit List.mem_cons_self
      have later := ih fun other member => calm other (List.mem_cons_of_mem visit member)
      cases ending : visit.ending with
      | crashed => simp [Visit.hasCrashed, ending] at here
      | failed error => simp only [snapshots, ending, List.findSome?_cons, Visit.error?]
      | found snapshot =>
          simp only [snapshots, ending, later, List.findSome?_cons, List.filterMap_cons, Visit.error?,
            Visit.entry?, Visit.snapshot?, Option.map_some]
          cases rest.findSome? Visit.error? <;> rfl

theorem settled_calm (visits : List Visit) (calm : ∀ visit ∈ visits, visit.hasCrashed = false) :
    settled visits = snapshots visits := by
  have uncrashed : visits.filter Visit.hasCrashed = [] := by
    rw [List.filter_eq_nil_iff]
    intro visit member
    simp [calm visit member]
  unfold settled
  split
  · rfl
  · rw [gathered, uncrashed]

theorem survey_result (visit : String → Visit) (fold : Fold) (found : List (String × Node.Snapshot))
    (groups : List (List Descriptor))
    (calm : ∀ node ∈ groups.flatten, (visit node.name).hasCrashed = false) :
    (survey visit fold found groups).result =
      (snapshots (groups.flatten.map fun node => visit node.name)).map fun more =>
        (fold.merge (Fold.ofNodes (more.map (·.2))), found ++ more) := by
  induction groups generalizing fold found with
  | nil => simp [survey, snapshots, Except.map, Fold.ofNodes, Fold.merge_empty]
  | cons group rest ih =>
      have here : ∀ visited ∈ group.map fun node => visit node.name, visited.hasCrashed = false := by
        intro visited member
        obtain ⟨node, inGroup, rfl⟩ := List.mem_map.mp member
        exact calm node (by simp [inGroup])
      have later : ∀ node ∈ rest.flatten, (visit node.name).hasCrashed = false := fun node member =>
        calm node (by rw [List.flatten_cons]; exact List.mem_append_right group member)
      rw [survey, settled_calm _ here, List.flatten_cons, List.map_append, snapshots_append]
      cases snapshots (group.map fun node => visit node.name) with
      | error stop => rfl
      | ok first =>
          simp only [ih _ _ later, Except.bind]
          cases snapshots (rest.flatten.map fun node => visit node.name) with
          | error stop => simp only [Except.map]
          | ok more => simp only [Except.map, List.map_append, Fold.of_nodes_append, Fold.merge_assoc,
              List.append_assoc]

theorem survey_visits (visit : String → Visit) (fold : Fold) (found : List (String × Node.Snapshot))
    (groups : List (List Descriptor)) :
    (survey visit fold found groups).visits <+: groups.flatten.map fun node => visit node.name := by
  induction groups generalizing fold found with
  | nil => exact List.prefix_rfl
  | cons group rest ih =>
      rw [survey, List.flatten_cons, List.map_append]
      cases settled (group.map fun node => visit node.name) with
      | error stop => exact List.prefix_append _ _
      | ok snapshots => exact (List.prefix_append_right_inj _).mpr (ih _ _)

theorem survey_congr (visit other : String → Visit) (fold : Fold)
    (found : List (String × Node.Snapshot)) (groups : List (List Descriptor))
    (same : ∀ node ∈ groups.flatten, visit node.name = other node.name) :
    survey visit fold found groups = survey other fold found groups := by
  induction groups generalizing fold found with
  | nil => rfl
  | cons group rest ih =>
      have here : group.map (fun node => visit node.name) = group.map fun node => other node.name :=
        List.map_congr_left fun node member => same node (by simp [member])
      have later : ∀ node ∈ rest.flatten, visit node.name = other node.name := fun node member =>
        same node (by rw [List.flatten_cons]; exact List.mem_append_right group member)
      simp only [survey, here]
      cases settled (group.map fun node => other node.name) with
      | error stop => rfl
      | ok snapshots => simp only [ih _ _ later]

theorem snapshots_names (visits : List Visit) (entries : List (String × Node.Snapshot))
    (found : snapshots visits = .ok entries) : entries.map (·.1) = visits.map Visit.node := by
  induction visits generalizing entries with
  | nil =>
      cases found
      rfl
  | cons visit rest ih =>
      rw [snapshots] at found
      split at found
      · cases found
      · cases found
      · split at found
        · cases found
        · next later =>
            cases found
            rw [List.map_cons, List.map_cons, ih _ later]

theorem settled_names (visits : List Visit) (entries : List (String × Node.Snapshot))
    (found : settled visits = .ok entries) : entries.map (·.1) = visits.map Visit.node := by
  unfold settled at found
  split at found
  · exact snapshots_names _ entries found
  · unfold gathered at found
    split at found
    · exact snapshots_names _ entries found
    · cases found
    · cases found

theorem survey_names (visit : String → Visit) (fold last : Fold) (found entries : List (String × Node.Snapshot))
    (groups : List (List Descriptor)) (ended : (survey visit fold found groups).result = .ok (last, entries)) :
    entries.map (·.1) = found.map (·.1) ++ groups.flatten.map fun node => (visit node.name).node := by
  induction groups generalizing fold found with
  | nil =>
      cases ended
      exact (List.append_nil _).symm
  | cons group rest ih =>
      rw [survey] at ended
      cases here : settled (group.map fun node => visit node.name) with
      | error stop =>
          rw [here] at ended
          cases ended
      | ok snapshots =>
          rw [here] at ended
          rw [ih _ _ ended, List.map_append, settled_names _ snapshots here, List.map_map, List.flatten_cons,
            List.map_append, List.append_assoc]
          rfl

def groups (parallelism : Nat) (nodes : List Descriptor) : List (List Descriptor) :=
  let sql := nodes.filter Descriptor.isSql
  chunks parallelism sql.length sql

theorem groups_flatten (parallelism : Nat) (nodes : List Descriptor) :
    (groups parallelism nodes).flatten = nodes.filter Descriptor.isSql :=
  chunks_flatten _ _ _ (Nat.le_refl _)

theorem of_descriptors_visits (visit : String → Visit) (parallelism : Nat) (deployment : Deployment)
    (nodes : List Descriptor) :
    (ofDescriptors visit parallelism deployment nodes).visits <+: sqlVisits visit nodes := by
  have visited := survey_visits visit Fold.empty [] (groups parallelism nodes)
  rw [groups_flatten] at visited
  unfold ofDescriptors
  dsimp only
  split <;> exact visited

-- Where a pass succeeds it has found a snapshot of every SQL node, whether or not a visit could have crashed.
theorem run_names (topology : Topology) (options : ProbeOptions) (parallelism : Nat) (deployment : Deployment)
    (findings : Findings) (found : (run topology options parallelism deployment).result = .ok findings) :
    ∃ nodes, topology.nodes = .ok nodes ∧
      findings.snapshots.map (·.1) = (nodes.filter Descriptor.isSql).map Descriptor.name := by
  unfold run at found
  cases listed : topology.nodes with
  | error cause =>
      rw [listed] at found
      cases found
  | ok nodes =>
      refine ⟨nodes, rfl, ?_⟩
      rw [listed] at found
      dsimp only at found
      rw [after_result] at found
      unfold ofDescriptors at found
      dsimp only at found
      split at found
      · cases found
      · next fold entries ended =>
          cases found
          have named := survey_names (Visit.of topology options) _ _ _ _ (groups parallelism nodes) ended
          simp only [groups_flatten, Visit.of_node, List.map_nil, List.nil_append] at named
          exact named

theorem of_descriptors_congr (visit other : String → Visit) (parallelism : Nat)
    (deployment : Deployment) (nodes : List Descriptor)
    (same : ∀ node ∈ nodes.filter Descriptor.isSql, visit node.name = other node.name) :
    ofDescriptors visit parallelism deployment nodes = ofDescriptors other parallelism deployment nodes := by
  have equal := survey_congr visit other Fold.empty [] (groups parallelism nodes)
    (by rw [groups_flatten]; exact same)
  unfold groups at equal
  simp only [ofDescriptors, equal]

theorem of_descriptors_result (visit : String → Visit) (parallelism : Nat) (deployment : Deployment)
    (nodes : List Descriptor) (calm : Calm visit nodes) :
    (ofDescriptors visit parallelism deployment nodes).result =
      (sequential visit deployment nodes).mapError Stop.failed := by
  have surveyed := survey_result visit Fold.empty [] (groups parallelism nodes) (by
    rw [groups_flatten]
    intro node member
    obtain ⟨present, sql⟩ := List.mem_filter.mp member
    exact calm node present sql)
  have visited := snapshots_calm _ (sql_visits_calm visit nodes calm)
  rw [groups_flatten] at surveyed
  change _ = (snapshots (sqlVisits visit nodes)).map _ at surveyed
  unfold groups at surveyed
  unfold ofDescriptors sequential
  dsimp only
  rw [surveyed, visited]
  cases (sqlVisits visit nodes).findSome? Visit.error? with
  | some error => rfl
  | none =>
      change Except.ok (Findings.mk ((Fold.merge Fold.empty _).finish deployment) _ _) = .ok (Findings.mk _ _ _)
      rw [Fold.empty_merge]
      rfl

theorem entry_names (visits : List Visit) (calm : ∀ visit ∈ visits, visit.hasCrashed = false)
    (fine : visits.findSome? Visit.error? = none) :
    (visits.filterMap Visit.entry?).map Prod.fst = visits.map Visit.node := by
  induction visits with
  | nil => rfl
  | cons visit rest ih =>
      have here := calm visit List.mem_cons_self
      cases ending : visit.ending with
      | crashed => simp [Visit.hasCrashed, ending] at here
      | failed error => simp [Visit.error?, ending] at fine
      | found snapshot =>
          simp only [List.findSome?_cons, Visit.error?, ending] at fine
          have later := ih (fun other member => calm other (List.mem_cons_of_mem visit member)) fine
          simp only [List.filterMap_cons, Visit.entry?, Visit.snapshot?, ending, Option.map_some,
            List.map_cons, ← later]

theorem sequential_names (visit : String → Visit) (deployment : Deployment) (nodes : List Descriptor)
    (named : ∀ name, (visit name).node = name) (calm : Calm visit nodes) (findings : Findings)
    (found : sequential visit deployment nodes = .ok findings) :
    findings.snapshots.map Prod.fst = (nodes.filter Descriptor.isSql).map Descriptor.name := by
  unfold sequential at found
  dsimp only at found
  split at found
  · cases found
  · next fine =>
      injection found with same
      rw [← same, entry_names _ (sql_visits_calm visit nodes calm) fine, sqlVisits, List.map_map]
      exact List.map_congr_left fun node _ => named node.name

-- However many nodes are visited at a time, the pass comes to what the sequential one comes to, and
-- nothing but the SQL nodes is ever reached for.
theorem any_parallelism_is_sequential (topology : Topology) (options : ProbeOptions)
    (deployment : Deployment) (nodes : List Descriptor) (listed : topology.nodes = .ok nodes)
    (calm : Calm (Visit.of topology options) nodes) (parallelism : Nat) :
    let pass := run topology options parallelism deployment
    let sql := nodes.filter Descriptor.isSql
    pass.result = (sequential (Visit.of topology options) deployment nodes).mapError Stop.failed ∧
      (∀ findings, pass.result = .ok findings →
        findings.snapshots.map Prod.fst = sql.map Descriptor.name) ∧
      pass.visits.map Visit.node <+: sql.map Descriptor.name ∧
      ∀ connect, (∀ node ∈ sql, connect node.name = topology.connect node.name) →
        run { topology with connect } options parallelism deployment = pass := by
  intro pass sql
  have ran : pass = (ofDescriptors (Visit.of topology options) parallelism deployment nodes).after .nodes :=
    run_listed topology options parallelism deployment nodes listed
  have result := of_descriptors_result (Visit.of topology options) parallelism deployment nodes calm
  refine ⟨?_, ?_, ?_, ?_⟩
  · rw [ran, after_result, result]
  · intro findings found
    rw [ran, after_result, result] at found
    cases reference : sequential (Visit.of topology options) deployment nodes with
    | error error => rw [reference] at found; cases found
    | ok expected =>
        rw [reference] at found
        cases found
        exact sequential_names _ deployment nodes (Visit.of_node topology options) calm findings reference
  · have visited := of_descriptors_visits (Visit.of topology options) parallelism deployment nodes
    have names : (sqlVisits (Visit.of topology options) nodes).map Visit.node =
        sql.map Descriptor.name := by
      rw [sqlVisits, List.map_map]
      exact List.map_congr_left fun node _ => Visit.of_node topology options node.name
    rw [ran, after_visits, ← names]
    exact visited.map Visit.node
  · intro connect same
    rw [ran, run_listed { topology with connect } options parallelism deployment nodes listed]
    apply congrArg (after .nodes)
    apply of_descriptors_congr
    intro node member
    simp only [Visit.of, same node member]

def lostNodes : List Descriptor := [⟨"dn-0", .sql⟩, ⟨"col-0", .columnar⟩, ⟨"dn-1", .sql⟩, ⟨"dn-2", .sql⟩]

def lostTopology : Topology where
  nodes := .ok lostNodes
  connect name :=
    if name = "dn-1" then .error (.connection name "connection refused")
    else .ok (.answering fun _ _ => .ok [Row.ofTexts ["5"]])

theorem any_parallelism_lost_node :
    let options : ProbeOptions := ⟨false, false, "udf", "udf_functions"⟩
    let visit := Visit.of lostTopology options
    let error := PassError.topology (.connection "dn-1" "connection refused")
    lostTopology.nodes = .ok lostNodes ∧ Calm visit lostNodes ∧
      sequential visit ⟨false, false⟩ lostNodes = .error error ∧
      (run lostTopology options 2 ⟨false, false⟩).result = .error (.failed error) := by
  intro options visit error
  have calm : Calm visit lostNodes := by
    intro node member _
    simp only [lostNodes, List.mem_cons, List.not_mem_nil, or_false] at member
    rcases member with rfl | rfl | rfl | rfl <;> rfl
  have reference : sequential visit ⟨false, false⟩ lostNodes = .error error := rfl
  refine ⟨rfl, calm, reference, ?_⟩
  rw [(any_parallelism_is_sequential lostTopology options ⟨false, false⟩ lostNodes rfl calm 2).1, reference]
  rfl

end Pass

end ClusterCaps
