import ClusterCaps.Proofs.Manager.Accounting
import ClusterCaps.Proofs.Manager.Moves
import ClusterCaps.Proofs.Pass.Synthetic

set_option autoImplicit false

namespace ClusterCaps

theorem Call.and_then_queries {α β : Type} (call : Call α) (next : Manager → α → Call β)
    (silent : call.effects.queries = []) :
    (call.andThen next).effects.queries =
      match call.result with
      | .error _ => []
      | .ok value => (next call.manager value).effects.queries := by
  unfold andThen
  cases call.result with
  | error stop => exact silent
  | ok value =>
      have joined : (call.effects.append (next call.manager value).effects).queries =
          call.effects.queries ++ (next call.manager value).effects.queries := List.filterMap_append
      rw [joined, silent, List.nil_append]

theorem Node.Snapshot.steady_synthetic (snapshot : Node.Snapshot) (steady : snapshot.steady = .synthetic)
    (still : snapshot.heartbeat = false) : snapshot = .synthetic := by
  rw [← steady, Node.Snapshot.steady, ← still]

namespace Manager

def heartbeatQuery (name : String) : String × Route × String :=
  (name, .any, Statement.showVariable "innodb_heartbeat_seq")

def reached? (manager : Manager) (turn : Turn) : Option String :=
  match turn.request with
  | .recheck name =>
    match (manager.node name turn.outside).result, turn.outside.topology.connect name with
    | .ok _, .ok (.answering _) => some name
    | _, _ => none
  | _ => none

def reached (manager : Manager) : List Turn → List String
  | [] => []
  | turn :: rest => (manager.reached? turn).toList ++ (manager.perform turn).manager.reached rest

def queries (manager : Manager) (history : List Turn) : List (String × Route × String) :=
  (manager.contacts history).filterMap Contact.query?

theorem ask_heartbeat_queries (manager : Manager) (name : String) (snapshot : Node.Snapshot) (outside : Outside) :
    (manager.askHeartbeat name snapshot outside).effects.queries =
      match outside.topology.connect name with
      | .ok (.answering _) => [heartbeatQuery name]
      | _ => [] := by
  unfold askHeartbeat
  cases outside.topology.connect name with
  | error cause => rfl
  | ok link =>
      cases link with
      | crashing => rfl
      | answering connection =>
          dsimp only
          split <;> simp only [heartbeat_queries] <;> rfl

theorem ask_heartbeat_ok (manager : Manager) (name : String) (snapshot : Node.Snapshot) (outside : Outside)
    (supported : Bool) (answered : (manager.askHeartbeat name snapshot outside).result = .ok supported) :
    ∃ connection, outside.topology.connect name = .ok (.answering connection) := by
  unfold askHeartbeat at answered
  split at answered
  · cases answered
  · cases answered
  · next connection way => exact ⟨connection, way⟩

section Mocked

variable (manager : Manager) (mocked : manager.options.fastMock = true)

include mocked

theorem run_pass_mocked_queries (restore : Phase) (outside : Outside) :
    (manager.runPass restore outside).effects.queries = [] := by
  rw [Effects.queries, run_pass_contacts]
  exact Pass.run_mocked_queries outside.topology manager.options outside.deployment mocked manager.parallelism

theorem ensure_ready_mocked_queries (outside : Outside) :
    (manager.ensureReady manager.passes outside).effects.queries = [] := by
  by_cases ready : manager.phase = .ready
  · rw [ensure_ready_ready manager outside ready]
    rfl
  · rw [ensure_ready_pending manager outside ready]
    exact manager.run_pass_mocked_queries mocked .uninitialized outside

theorem node_mocked_queries (name : String) (outside : Outside) :
    (manager.node name outside).effects.queries = [] := by
  have quiet := manager.ensure_ready_mocked_queries mocked outside
  rw [node, Call.and_then_queries _ _ quiet]
  split
  · rfl
  · rw [find_node_effects]
    rfl

theorem recheck_mocked_queries (name : String) (outside : Outside) :
    (manager.recheckHeartbeat name outside).effects.queries =
      (manager.reached? ⟨.recheck name, outside⟩).toList.map heartbeatQuery := by
  rw [recheckHeartbeat, Call.and_then_queries _ _ (manager.node_mocked_queries mocked name outside)]
  simp only [reached?, ask_heartbeat_queries]
  cases (manager.node name outside).result with
  | error stop => rfl
  | ok snapshot =>
      cases outside.topology.connect name with
      | error cause => rfl
      | ok link => cases link <;> rfl

theorem perform_mocked_queries (turn : Turn) :
    (manager.perform turn).effects.queries = (manager.reached? turn).toList.map heartbeatQuery := by
  obtain ⟨request, outside⟩ := turn
  have quiet := manager.ensure_ready_mocked_queries mocked outside
  have gate : ∀ {α : Type} (read : Manager → α), (manager.gated outside read).effects.queries = [] := by
    intro α read
    rw [gated, Call.and_then_queries _ _ quiet]
    split <;> rfl
  cases request with
  | flag read => exact gate _
  | capabilities => exact gate _
  | node name => exact manager.node_mocked_queries mocked name outside
  | recheck name => exact manager.recheck_mocked_queries mocked name outside
  | report time =>
      refine (Call.and_then_queries _ _ (gate Manager.cluster)).trans ?_
      split <;> rfl
  | refresh =>
      refine (Call.and_then_queries _ _ (manager.run_pass_mocked_queries mocked _ outside)).trans ?_
      split <;> rfl
  | reset => rfl
  | look => rfl

end Mocked

-- What is kept of the nodes is synthetic, but for the heartbeats of those that have been asked for them.
structure Mocked (asked : List String) (manager : Manager) : Prop where
  mocked : manager.options.fastMock = true
  nodes : ∀ entry ∈ manager.nodes, entry.2.steady = .synthetic ∧ (entry.2.heartbeat = true → entry.1 ∈ asked)

theorem start_mocked (options : ProbeOptions) (parallelism : Nat) (mocked : options.fastMock = true) :
    Mocked [] (start options parallelism) where
  mocked := mocked
  nodes _ member := nomatch member

theorem Mocked.more (asked others : List String) (manager : Manager) (mocked : Mocked asked manager) :
    Mocked (asked ++ others) manager where
  mocked := mocked.mocked
  nodes entry member := by
    obtain ⟨steady, beaten⟩ := mocked.nodes entry member
    exact ⟨steady, fun beats => List.mem_append_left others (beaten beats)⟩

theorem run_pass_mocked (asked : List String) (manager : Manager) (restore : Phase) (outside : Outside)
    (mocked : Mocked asked manager) : Mocked asked (manager.runPass restore outside).manager := by
  cases result : manager.passResult outside with
  | ok findings =>
      rw [(run_pass_succeeded manager restore outside findings result).2, during_eq]
      refine ⟨mocked.mocked, fun entry member => ?_⟩
      have inserted := ((NameMap.mem_retain _ _ entry).mp member).1
      rcases NameMap.insert_all_entries _ _ entry inserted with fresh | old
      · have synthetic := Pass.run_mocked_synthetic outside.topology manager.options outside.deployment
          mocked.mocked manager.parallelism findings result entry fresh
        rw [synthetic]
        exact ⟨rfl, fun beats => nomatch beats⟩
      · exact mocked.nodes entry old
  | error stop =>
      cases stop with
      | unwound =>
          rw [run_pass_unwound manager restore outside result, during_eq]
          exact ⟨mocked.mocked, mocked.nodes⟩
      | failed error =>
          rw [(run_pass_failed manager restore outside error result).2, during_eq]
          exact ⟨mocked.mocked, mocked.nodes⟩

theorem set_heartbeat_mocked (asked : List String) (manager : Manager) (name : String) (snapshot : Node.Snapshot)
    (supported : Bool) (known : manager.nodes.lookup name = some snapshot) (listed : name ∈ asked)
    (mocked : Mocked asked manager) : Mocked asked (manager.setHeartbeat name snapshot supported) := by
  refine ⟨mocked.mocked, fun entry member => ?_⟩
  rcases NameMap.insert_entries _ name _ entry member with same | old
  · obtain ⟨_, _, cut, _⟩ := List.lookup_eq_some_iff.mp known
    have present : (name, snapshot) ∈ manager.nodes := by simp [cut]
    rw [same]
    exact ⟨(mocked.nodes _ present).1, fun _ => listed⟩
  · exact mocked.nodes entry old

theorem recheck_reaches (manager : Manager) (turn : Turn) (name : String) (supported : Bool)
    (asks : turn.request = .recheck name) (answered : (manager.perform turn).result = .ok (.flag supported)) :
    manager.reached? turn = some name := by
  simp only [perform, asks] at answered
  obtain ⟨_, rechecked, _⟩ := Call.map_ok _ _ _ answered
  obtain ⟨snapshot, found, asked⟩ := Call.and_then_ok _ _ _ rechecked
  obtain ⟨connection, way⟩ := ask_heartbeat_ok _ name snapshot turn.outside _ asked
  simp only [reached?, asks, found, way]

theorem perform_mocked (asked : List String) (manager : Manager) (turn : Turn) (mocked : Mocked asked manager) :
    Mocked (asked ++ (manager.reached? turn).toList) (manager.perform turn).manager := by
  refine manager.perform_keeps turn _ (fun _ => mocked.more _ _) (fun restore _ _ => ?_) ?_ ?_
  · exact (run_pass_mocked asked manager restore turn.outside mocked).more _ _
  · intro opened name snapshot supported asks answered known held
    have listed := manager.recheck_reaches turn name supported asks answered
    exact set_heartbeat_mocked _ opened name snapshot supported known (by simp [listed]) held
  · intro opened held
    exact ⟨held.mocked, fun _ member => nomatch member⟩

theorem history_mocked (asked : List String) (manager : Manager) (history : List Turn)
    (mocked : Mocked asked manager) :
    Mocked (asked ++ manager.reached history) (manager.after history) ∧
      manager.queries history = (manager.reached history).map heartbeatQuery := by
  induction history generalizing manager asked with
  | nil => exact ⟨mocked.more _ [], rfl⟩
  | cons turn rest ih =>
      obtain ⟨later, asks⟩ := ih _ _ (perform_mocked asked manager turn mocked)
      have now := manager.perform_mocked_queries mocked.mocked turn
      rw [List.append_assoc] at later
      refine ⟨later, ?_⟩
      rw [queries, contacts, List.filterMap_append, reached, List.map_append, ← now, ← asks]
      rfl

-- Where nodes are not to be asked, the statements sent are those of the rechecks that got through. All
-- that is kept of the nodes stays synthetic, but for the heartbeats of the nodes that these have asked.
theorem mocked_queries_are_rechecks (options : ProbeOptions) (mocked : options.fastMock = true) (parallelism : Nat)
    (history : List Turn) :
    let first := start options parallelism
    let kept := (first.after history).nodes
    first.queries history = (first.reached history).map heartbeatQuery ∧
      (∀ entry ∈ kept, entry.2.steady = .synthetic ∧ (entry.2.heartbeat = true → entry.1 ∈ first.reached history)) ∧
      (first.reached history = [] → first.queries history = [] ∧ ∀ entry ∈ kept, entry.2 = .synthetic) := by
  intro first kept
  obtain ⟨held, queries⟩ := history_mocked [] first history (start_mocked options parallelism mocked)
  rw [List.nil_append] at held
  refine ⟨queries, held.nodes, fun nobody => ⟨?_, fun entry member => ?_⟩⟩
  · rw [queries, nobody, List.map_nil]
  · obtain ⟨steady, beaten⟩ := held.nodes entry member
    rw [nobody] at beaten
    have still : entry.2.heartbeat = false := Bool.eq_false_iff.mpr fun beats => nomatch beaten beats
    exact entry.2.steady_synthetic steady still

def unaskingHistory : List Turn :=
  [.capabilities, .node "dn-0", .recheck "dn-9", .refresh, .report Timestamp.epoch].map fun request =>
    ⟨request, listing (.ok [⟨"dn-0", .sql⟩])⟩

theorem mocked_history_without_rechecks :
    let options : ProbeOptions := ⟨false, true, "udf", "udf_functions"⟩
    let first := start options 1
    options.fastMock = true ∧ first.reached unaskingHistory = [] ∧
      (first.after unaskingHistory).nodes.map Prod.fst = ["dn-0"] ∧ first.queries unaskingHistory = [] ∧
      ∀ entry ∈ (first.after unaskingHistory).nodes, entry.2 = .synthetic := by
  intro options first
  have nobody : first.reached unaskingHistory = [] := rfl
  have known : (first.after unaskingHistory).nodes.map Prod.fst = ["dn-0"] := by decide +kernel
  obtain ⟨_, _, quiet⟩ := mocked_queries_are_rechecks options rfl 1 unaskingHistory
  obtain ⟨silent, synthetic⟩ := quiet nobody
  exact ⟨rfl, nobody, known, silent, synthetic⟩

theorem recheck_asks_mocked_node :
    let options : ProbeOptions := ⟨false, true, "udf", "udf_functions"⟩
    let first := start options 1
    let outside := listing (.ok [⟨"dn-0", .sql⟩])
    let history : List Turn := [⟨.capabilities, outside⟩, ⟨.recheck "dn-0", outside⟩]
    options.fastMock = true ∧ first.queries history = [heartbeatQuery "dn-0"] ∧ first.queries history ≠ [] ∧
      (first.after history).nodes = [("dn-0", { Node.Snapshot.synthetic with heartbeat := true })] ∧
      ∃ entry ∈ (first.after history).nodes, entry.2 ≠ .synthetic := by
  intro options first outside history
  have asked : first.queries history = [heartbeatQuery "dn-0"] := rfl
  have kept : (first.after history).nodes = [("dn-0", { Node.Snapshot.synthetic with heartbeat := true })] := rfl
  refine ⟨rfl, asked, ?_, kept, ?_⟩
  · rw [asked]
    exact List.cons_ne_nil _ _
  · rw [kept]
    exact ⟨_, List.mem_singleton_self _, by decide⟩

end Manager

end ClusterCaps
