import ClusterCaps.Report.Cluster
import ClusterCaps.Proofs.NameMap
import ClusterCaps.Proofs.Pass.Sequential

set_option autoImplicit false

namespace ClusterCaps

inductive Request where
  | flag (read : Cluster → Bool)
  | capabilities
  | node (name : String)
  | recheck (name : String)
  | report (time : Timestamp)
  | refresh
  | reset
  | look

inductive Answer where
  | flag (value : Bool)
  | cluster (cluster : Cluster)
  | snapshot (snapshot : Node.Snapshot)
  | report (report : ClusterReport)
  | seen (manager : Manager)
  | done

structure Turn where
  request : Request
  outside : Outside

def Call.map {α β : Type} (call : Call α) (change : α → β) : Call β :=
  ⟨call.result.map change, call.manager, call.effects⟩

inductive Deed where
  | found (findings : Findings)
  | rechecked (name : String) (supported : Bool)
  | forgot

namespace Manager

def perform (manager : Manager) (turn : Turn) : Call Answer :=
  match turn.request with
  | .flag read => (manager.flag read turn.outside).map .flag
  | .capabilities => (manager.capabilities turn.outside).map .cluster
  | .node name => (manager.node name turn.outside).map .snapshot
  | .recheck name => (manager.recheckHeartbeat name turn.outside).map .flag
  | .report time => (ClusterReport.collect manager turn.outside time).map .report
  | .refresh => (manager.refresh turn.outside).map .cluster
  | .reset => manager.reset.map fun _ => .done
  | .look => Call.pure manager (.seen manager)

def passResult (manager : Manager) (outside : Outside) : Except Stop Findings :=
  (Pass.run outside.topology manager.options manager.parallelism outside.deployment).result

-- A call that asked for the nodes has run a pass, for better or worse.
def passDeeds (manager : Manager) (outside : Outside) (observed : List Manager) : List Deed :=
  match observed, manager.passResult outside with
  | _ :: _, .ok findings => [.found findings]
  | _, _ => []

def answerDeeds : Request → Except Stop Answer → List Deed
  | .reset, _ => [.forgot]
  | .recheck name, .ok (.flag supported) => [.rechecked name supported]
  | _, _ => []

def deeds (manager : Manager) (turn : Turn) : List Deed :=
  let call := manager.perform turn
  answerDeeds turn.request call.result ++ manager.passDeeds turn.outside call.effects.observed

def after (manager : Manager) (history : List Turn) : Manager :=
  history.foldl (fun manager turn => (manager.perform turn).manager) manager

def record (manager : Manager) : List Turn → List Deed
  | [] => []
  | turn :: rest => (manager.perform turn).manager.record rest ++ manager.deeds turn

def visible (manager : Manager) : Phase × Cluster × NameMap Node.Snapshot × List String :=
  (manager.phase, manager.cluster, manager.nodes, manager.skipped)

end Manager

structure Outside.Regular (outside : Outside) : Prop where
  distinct : ∀ nodes, outside.topology.nodes = .ok nodes → (nodes.map Descriptor.name).Nodup
  calm : ∀ name, outside.topology.connect name ≠ .ok .crashing

theorem Visit.of_calm (topology : Topology) (options : ProbeOptions) (name : String)
    (calm : topology.connect name ≠ .ok .crashing) : (Visit.of topology options name).hasCrashed = false := by
  unfold Visit.of
  split
  · rfl
  · unfold Visit.ofOutcome
    split <;> rfl
  · next crashing => exact absurd crashing calm

namespace Call

theorem and_then_manager {α β : Type} (call : Call α) (next : Manager → α → Call β)
    (still : ∀ manager value, (next manager value).manager = manager) :
    (call.andThen next).manager = call.manager := by
  unfold andThen
  split
  · rfl
  · exact still _ _

theorem and_then_observed {α β : Type} (call : Call α) (next : Manager → α → Call β)
    (silent : ∀ manager value, (next manager value).effects.observed = []) :
    (call.andThen next).effects.observed = call.effects.observed := by
  unfold andThen
  split
  · rfl
  · simp only [Effects.append, silent, List.append_nil]

theorem and_then_ok {α β : Type} (call : Call α) (next : Manager → α → Call β) (value : β)
    (answered : (call.andThen next).result = .ok value) :
    ∃ first, call.result = .ok first ∧ (next call.manager first).result = .ok value := by
  unfold andThen at answered
  split at answered
  · cases answered
  · next first result => exact ⟨first, result, answered⟩

theorem map_ok {α β : Type} (call : Call α) (change : α → β) (value : β)
    (answered : (call.map change).result = .ok value) : ∃ first, call.result = .ok first ∧ change first = value := by
  unfold map at answered
  cases result : call.result with
  | error stop =>
      rw [result] at answered
      cases answered
  | ok first =>
      rw [result] at answered
      exact ⟨first, rfl, Except.ok.inj answered⟩

theorem and_then_error {α β : Type} (call : Call α) (next : Manager → α → Call β) (stop : Stop)
    (total : ∀ manager value, ∃ answer, (next manager value).result = .ok answer)
    (failed : (call.andThen next).result = .error stop) : call.result = .error stop := by
  unfold andThen at failed
  split at failed
  · next same =>
      cases failed
      exact same
  · next first _ =>
      obtain ⟨answer, answered⟩ := total call.manager first
      rw [answered] at failed
      cases failed

theorem map_error {α β : Type} (call : Call α) (change : α → β) (stop : Stop)
    (failed : (call.map change).result = .error stop) : call.result = .error stop := by
  unfold map at failed
  cases result : call.result with
  | error cause =>
      rw [result] at failed
      cases failed
      rfl
  | ok first =>
      rw [result] at failed
      cases failed

end Call

namespace Manager

theorem pass_result_calm (manager : Manager) (outside : Outside)
    (calm : ∀ name, outside.topology.connect name ≠ .ok .crashing) :
    (∃ error, manager.passResult outside = .error (.failed error)) ∨
      ∃ nodes findings, outside.topology.nodes = .ok nodes ∧ manager.passResult outside = .ok findings ∧
        findings.snapshots.map Prod.fst = (nodes.filter Descriptor.isSql).map Descriptor.name := by
  unfold passResult Pass.run
  cases listed : outside.topology.nodes with
  | error cause => exact Or.inl ⟨_, rfl⟩
  | ok nodes =>
      have settled : Pass.Calm (Visit.of outside.topology manager.options) nodes := fun node _ _ =>
        Visit.of_calm _ _ _ (calm node.name)
      dsimp only
      rw [Pass.after_result, Pass.of_descriptors_result _ _ _ _ settled]
      cases outcome : Pass.sequential (Visit.of outside.topology manager.options) outside.deployment nodes with
      | error error => exact Or.inl ⟨error, rfl⟩
      | ok findings =>
          exact Or.inr ⟨nodes, findings, rfl, rfl,
            Pass.sequential_names _ _ _ (Visit.of_node _ _) settled findings outcome⟩

theorem pass_result_cases (manager : Manager) (outside : Outside) (regular : outside.Regular) :
    (∃ error, manager.passResult outside = .error (.failed error)) ∨
      ∃ findings, manager.passResult outside = .ok findings ∧ NameMap.Distinct findings.snapshots := by
  rcases pass_result_calm manager outside regular.calm with failed | ⟨nodes, findings, listed, found, names⟩
  · exact Or.inl failed
  · refine Or.inr ⟨findings, found, ?_⟩
    unfold NameMap.Distinct
    rw [names]
    exact (regular.distinct nodes listed).sublist (List.filter_sublist.map Descriptor.name)

theorem run_pass_observed (manager : Manager) (restore : Phase) (outside : Outside) :
    (manager.runPass restore outside).effects.observed = [manager.during restore] := by
  unfold runPass
  dsimp only
  split <;> rfl

theorem run_pass_failed (manager : Manager) (restore : Phase) (outside : Outside) (error : PassError)
    (failed : manager.passResult outside = .error (.failed error)) :
    (manager.runPass restore outside).result = .error (.failed error) ∧
      (manager.runPass restore outside).manager =
        (manager.during restore).afterFailure restore outside.passId error := by
  unfold passResult at failed
  unfold runPass
  simp only [failed, and_self]

theorem run_pass_succeeded (manager : Manager) (restore : Phase) (outside : Outside) (findings : Findings)
    (found : manager.passResult outside = .ok findings) :
    (manager.runPass restore outside).result = .ok () ∧
      (manager.runPass restore outside).manager =
        (manager.during restore).afterSuccess outside.passId findings := by
  unfold passResult at found
  unfold runPass
  simp only [found, and_self]

theorem ensure_ready_ready (manager : Manager) (outside : Outside) (ready : manager.phase = .ready) :
    manager.ensureReady manager.passes outside = Call.pure manager () := by
  simp only [ensureReady, ready, if_true]

-- A caller that has waited for nobody shares no failure.
theorem ensure_ready_pending (manager : Manager) (outside : Outside) (pending : manager.phase ≠ .ready) :
    manager.ensureReady manager.passes outside = manager.runPass .uninitialized outside := by
  simp only [ensureReady, if_neg pending, if_true]

theorem gated_manager {α : Type} (manager : Manager) (outside : Outside) (read : Manager → α) :
    (manager.gated outside read).manager = (manager.ensureReady manager.passes outside).manager :=
  Call.and_then_manager _ _ fun _ _ => rfl

theorem gated_observed {α : Type} (manager : Manager) (outside : Outside) (read : Manager → α) :
    (manager.gated outside read).effects.observed =
      (manager.ensureReady manager.passes outside).effects.observed :=
  Call.and_then_observed _ _ fun _ _ => rfl

theorem gated_ok {α : Type} (manager : Manager) (outside : Outside) (read : Manager → α) (value : α)
    (answered : (manager.gated outside read).result = .ok value) :
    (manager.ensureReady manager.passes outside).result = .ok () ∧
      value = read (manager.ensureReady manager.passes outside).manager := by
  obtain ⟨_, opened, same⟩ := Call.and_then_ok _ _ _ answered
  exact ⟨opened, (Except.ok.inj same).symm⟩

theorem collect_manager (manager : Manager) (outside : Outside) (time : Timestamp) :
    (ClusterReport.collect manager outside time).manager =
      (manager.ensureReady manager.passes outside).manager :=
  (Call.and_then_manager _ _ fun _ _ => rfl).trans (gated_manager manager outside Manager.cluster)

theorem collect_observed (manager : Manager) (outside : Outside) (time : Timestamp) :
    (ClusterReport.collect manager outside time).effects.observed =
      (manager.ensureReady manager.passes outside).effects.observed :=
  (Call.and_then_observed _ _ fun _ _ => rfl).trans (gated_observed manager outside Manager.cluster)

theorem find_node_manager (manager : Manager) (name : String) : (manager.findNode name).manager = manager := by
  unfold findNode
  split <;> rfl

theorem find_node_observed (manager : Manager) (name : String) :
    (manager.findNode name).effects.observed = [] := by
  unfold findNode
  split <;> rfl

theorem find_node_ok (manager : Manager) (name : String) (snapshot : Node.Snapshot)
    (found : (manager.findNode name).result = .ok snapshot) : manager.nodes.lookup name = some snapshot := by
  unfold findNode at found
  split at found
  · next looked =>
      cases found
      exact looked
  · cases found

theorem find_node_known (manager : Manager) (name : String) (snapshot : Node.Snapshot)
    (known : manager.nodes.lookup name = some snapshot) : manager.findNode name = Call.pure manager snapshot := by
  simp only [findNode, known]

theorem find_node_unknown (manager : Manager) (name : String) (unknown : manager.nodes.lookup name = none) :
    manager.findNode name = Call.fail manager (.nodeNotFound name) := by
  simp only [findNode, unknown]

theorem ask_heartbeat_observed (manager : Manager) (name : String) (snapshot : Node.Snapshot)
    (outside : Outside) : (manager.askHeartbeat name snapshot outside).effects.observed = [] := by
  unfold askHeartbeat
  split
  · rfl
  · rfl
  · dsimp only
    split <;> rfl

theorem ask_heartbeat_cases (manager : Manager) (name : String) (snapshot : Node.Snapshot)
    (outside : Outside) :
    (∃ stop, (manager.askHeartbeat name snapshot outside).result = .error stop ∧
        (manager.askHeartbeat name snapshot outside).manager = manager) ∨
      ∃ supported, (manager.askHeartbeat name snapshot outside).result = .ok supported ∧
        (manager.askHeartbeat name snapshot outside).manager = manager.setHeartbeat name snapshot supported := by
  unfold askHeartbeat
  split
  · exact Or.inl ⟨_, rfl, rfl⟩
  · exact Or.inl ⟨_, rfl, rfl⟩
  · dsimp only
    split
    · exact Or.inl ⟨_, rfl, rfl⟩
    · exact Or.inr ⟨_, rfl, rfl⟩

theorem node_manager (manager : Manager) (name : String) (outside : Outside) :
    (manager.node name outside).manager = (manager.ensureReady manager.passes outside).manager :=
  Call.and_then_manager _ _ fun later _ => find_node_manager later name

theorem node_observed (manager : Manager) (name : String) (outside : Outside) :
    (manager.node name outside).effects.observed =
      (manager.ensureReady manager.passes outside).effects.observed :=
  Call.and_then_observed _ _ fun later _ => find_node_observed later name

theorem node_ok (manager : Manager) (name : String) (outside : Outside) (snapshot : Node.Snapshot)
    (answered : (manager.node name outside).result = .ok snapshot) :
    (manager.node name outside).manager.nodes.lookup name = some snapshot := by
  obtain ⟨_, _, found⟩ := Call.and_then_ok _ _ _ answered
  rw [node_manager]
  exact find_node_ok _ name snapshot found

theorem recheck_observed (manager : Manager) (name : String) (outside : Outside) :
    (manager.recheckHeartbeat name outside).effects.observed =
      (manager.ensureReady manager.passes outside).effects.observed :=
  (Call.and_then_observed _ _ fun later snapshot => ask_heartbeat_observed later name snapshot outside).trans
    (node_observed manager name outside)

theorem recheck_cases (manager : Manager) (name : String) (outside : Outside) :
    (∃ stop, (manager.recheckHeartbeat name outside).result = .error stop ∧
        (manager.recheckHeartbeat name outside).manager = (manager.node name outside).manager) ∨
      ∃ snapshot supported, (manager.node name outside).result = .ok snapshot ∧
        (manager.recheckHeartbeat name outside).result = .ok supported ∧
        (manager.recheckHeartbeat name outside).manager =
          (manager.node name outside).manager.setHeartbeat name snapshot supported := by
  unfold recheckHeartbeat Call.andThen
  cases found : (manager.node name outside).result with
  | error stop => exact Or.inl ⟨stop, rfl, rfl⟩
  | ok snapshot =>
      rcases ask_heartbeat_cases (manager.node name outside).manager name snapshot outside with
        ⟨stop, result, left⟩ | ⟨supported, result, left⟩
      · exact Or.inl ⟨stop, result, left⟩
      · exact Or.inr ⟨snapshot, supported, rfl, result, left⟩

end Manager

end ClusterCaps
