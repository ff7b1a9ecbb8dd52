import ClusterCaps.Proofs.Manager.History
import ClusterCaps.Proofs.Probe.Checks

set_option autoImplicit false

namespace ClusterCaps

namespace Request

def isLazy : Request → Bool
  | .flag _ => true
  | .capabilities => true
  | .node _ => true
  | .recheck _ => true
  | .report _ => true
  | .refresh => false
  | .reset => false
  | .look => false

def isRefresh : Request → Bool
  | .refresh => true
  | _ => false

theorem lazy_no_refresh (request : Request) (lazily : request.isLazy = true) : request.isRefresh = false := by
  cases request with
  | refresh => cases lazily
  | _ => rfl

end Request

def Outside.Calm (outside : Outside) : Prop := ∀ name, outside.topology.connect name ≠ .ok .crashing

namespace Call

theorem pure_and_then {α β : Type} (manager : Manager) (value : α) (next : Manager → α → Call β) :
    (pure manager value).andThen next = next manager value := rfl

theorem and_then_assoc {α β γ : Type} (call : Call α) (next : Manager → α → Call β)
    (last : Manager → β → Call γ) :
    (call.andThen next).andThen last = call.andThen fun manager value => (next manager value).andThen last := by
  unfold andThen
  cases call.result with
  | error stop => rfl
  | ok value =>
      dsimp only
      cases (next call.manager value).result with
      | error stop => rfl
      | ok second => simp only [Effects.append, List.append_assoc]

theorem map_and_then {α β γ : Type} (call : Call α) (next : Manager → α → Call β) (change : β → γ) :
    (call.andThen next).map change = call.andThen fun manager value => (next manager value).map change := by
  unfold andThen
  cases call.result <;> rfl

theorem and_then_congr {α β : Type} (call : Call α) (next other : Manager → α → Call β)
    (same : ∀ value, call.result = .ok value → next call.manager value = other call.manager value) :
    call.andThen next = call.andThen other := by
  unfold andThen
  cases result : call.result with
  | error stop => rfl
  | ok value => simp only [same value result]

theorem and_then_contacts {α β : Type} (call : Call α) (next : Manager → α → Call β)
    (silent : ∀ manager value, (next manager value).effects.contacts = []) :
    (call.andThen next).effects.contacts = call.effects.contacts := by
  unfold andThen
  split
  · rfl
  · simp only [Effects.append, silent, List.append_nil]

end Call

theorem Contact.through_nodes (node : String) (queries : List (Route × String)) :
    nodes ∉ through node queries := by
  simp [through]

theorem Pass.visits_nodes (visits : List Visit) : (visits.flatMap Visit.contacts).count .nodes = 0 := by
  rw [List.count_eq_zero]
  intro member
  obtain ⟨visit, _, asked⟩ := List.mem_flatMap.mp member
  exact Contact.through_nodes visit.node visit.queries asked

theorem Pass.run_nodes (topology : Topology) (options : ProbeOptions) (parallelism : Nat) (deployment : Deployment) :
    (run topology options parallelism deployment).contacts.count .nodes = 1 := by
  rw [run_contacts, List.count_cons_self, visits_nodes]

namespace Manager

variable (manager : Manager)

def issued (manager : Manager) : List Turn → List (Phase × Request)
  | [] => []
  | turn :: rest => (manager.phase, turn.request) :: (manager.perform turn).manager.issued rest

def contacts (manager : Manager) : List Turn → List Contact
  | [] => []
  | turn :: rest => (manager.perform turn).effects.contacts ++ (manager.perform turn).manager.contacts rest

def due (phase : Phase) (request : Request) : Nat :=
  (if request.isRefresh then 1 else 0) + if request.isLazy && phase == .uninitialized then 1 else 0

theorem due_lazy (phase : Phase) (request : Request) (isLazy : request.isLazy = true) :
    due phase request = if phase = .uninitialized then 1 else 0 := by
  simp [due, isLazy, request.lazy_no_refresh isLazy]

def passContacts (manager : Manager) (outside : Outside) : List Contact :=
  (Pass.run outside.topology manager.options manager.parallelism outside.deployment).contacts

theorem run_pass_contacts (restore : Phase) (outside : Outside) :
    (manager.runPass restore outside).effects.contacts = manager.passContacts outside := by
  unfold runPass
  dsimp only
  split <;> rfl

theorem ensure_ready_opened (seen : Nat) (outside : Outside)
    (opened : (manager.ensureReady seen outside).result = .ok ()) :
    (manager.ensureReady seen outside).manager.phase = .ready := by
  unfold ensureReady at opened ⊢
  split
  · next ready => exact ready
  · next pending =>
      rw [if_neg pending] at opened
      split at opened
      · cases opened
      · unfold runPass at opened ⊢
        dsimp only at opened ⊢
        split at opened
        · cases opened
        · cases opened
        · rfl

section Ready

variable (outside : Outside) (ready : manager.phase = .ready)

include ready

theorem gated_ready {α : Type} (read : Manager → α) :
    manager.gated outside read = Call.pure manager (read manager) := by
  rw [gated, ensure_ready_ready manager outside ready, Call.pure_and_then]

theorem node_ready (name : String) : manager.node name outside = manager.findNode name := by
  rw [node, ensure_ready_ready manager outside ready, Call.pure_and_then]

theorem collect_ready (time : Timestamp) :
    ClusterReport.collect manager outside time =
      Call.pure manager (ClusterReport.ofManager manager manager.cluster time) := by
  rw [ClusterReport.collect, capabilities, gated_ready manager outside ready, Call.pure_and_then]

theorem recheck_ready (name : String) :
    manager.recheckHeartbeat name outside =
      (manager.findNode name).andThen fun after snapshot => after.askHeartbeat name snapshot outside := by
  rw [recheckHeartbeat, node_ready manager outside ready]

end Ready

-- A lazy request first sees to it that there are findings, and then finds its manager ready.
theorem perform_lazy (turn : Turn) (isLazy : turn.request.isLazy = true) :
    manager.perform turn =
      (manager.ensureReady manager.passes turn.outside).andThen fun after _ => after.perform turn := by
  obtain ⟨request, outside⟩ := turn
  have opened := manager.ensure_ready_opened manager.passes outside
  cases request with
  | flag read =>
      refine (Call.map_and_then _ _ _).trans (Call.and_then_congr _ _ _ fun _ ok => ?_)
      simp only [perform, flag, gated_ready _ outside (opened ok)]
  | capabilities =>
      refine (Call.map_and_then _ _ _).trans (Call.and_then_congr _ _ _ fun _ ok => ?_)
      simp only [perform, capabilities, gated_ready _ outside (opened ok)]
  | node name =>
      refine (Call.map_and_then _ _ _).trans (Call.and_then_congr _ _ _ fun _ ok => ?_)
      simp only [perform, node_ready _ outside (opened ok)]
  | recheck name =>
      simp only [perform, recheckHeartbeat, node, Call.and_then_assoc, Call.map_and_then]
      refine Call.and_then_congr _ _ _ fun _ ok => ?_
      rw [ensure_ready_ready _ outside (opened ok), Call.pure_and_then]
  | report time =>
      simp only [perform, ClusterReport.collect, capabilities, gated, Call.and_then_assoc, Call.map_and_then]
      refine Call.and_then_congr _ _ _ fun _ ok => ?_
      rw [ensure_ready_ready _ outside (opened ok)]
      rfl
  | refresh => cases isLazy
  | reset => cases isLazy
  | look => cases isLazy

theorem find_node_effects (name : String) : (manager.findNode name).effects = Effects.none := by
  unfold findNode
  split <;> rfl

theorem heartbeat_queries (connection : Connection) :
    (Check.timestampHeartbeat.run connection).queries =
      [(.any, Statement.showVariable "innodb_heartbeat_seq")] :=
  Interview.only_asked connection _ _ _ _ (Check.variable_present_asks connection .timestampHeartbeat
    "innodb_heartbeat_seq" (fun _ excused => nomatch excused) rfl)

theorem ask_heartbeat_contacts (name : String) (snapshot : Node.Snapshot) (outside : Outside)
    (calm : outside.Calm) :
    (manager.askHeartbeat name snapshot outside).effects.contacts =
      match outside.topology.connect name with
      | .error _ => [.connect name]
      | .ok _ => [.connect name, .query name .any (Statement.showVariable "innodb_heartbeat_seq")] := by
  unfold askHeartbeat
  cases way : outside.topology.connect name with
  | error cause => rfl
  | ok link =>
      cases link with
      | crashing => exact absurd way (calm name)
      | answering connection =>
          dsimp only
          split <;> simp only [heartbeat_queries] <;> rfl

-- The outside is left alone: nothing is asked of it, and another topology would not show.
def LeavesAlone (manager : Manager) (turn : Turn) : Prop :=
  (manager.perform turn).effects.contacts = [] ∧
    ∀ topology, manager.perform ⟨turn.request, { turn.outside with topology }⟩ = manager.perform turn

theorem known_answered (turn : Turn) (ready : manager.phase = .ready) (isLazy : turn.request.isLazy = true)
    (other : ∀ name, turn.request ≠ .recheck name) :
    ∃ result, ∀ topology, manager.perform ⟨turn.request, { turn.outside with topology }⟩ =
      ⟨result, manager, Effects.none⟩ := by
  obtain ⟨request, outside⟩ := turn
  cases request with
  | flag read =>
      refine ⟨.ok (.flag (read manager.cluster)), fun topology => ?_⟩
      simp only [perform, flag, gated_ready manager _ ready]
      rfl
  | capabilities =>
      refine ⟨.ok (.cluster manager.cluster), fun topology => ?_⟩
      simp only [perform, capabilities, gated_ready manager _ ready]
      rfl
  | node name =>
      refine ⟨(manager.findNode name).result.map .snapshot, fun topology => ?_⟩
      simp only [perform, Call.map, node_ready manager _ ready, find_node_manager, find_node_effects]
  | recheck name => exact absurd rfl (other name)
  | report time =>
      refine ⟨.ok (.report (ClusterReport.ofManager manager manager.cluster time)), fun topology => ?_⟩
      simp only [perform, collect_ready manager _ ready]
      rfl
  | refresh => cases isLazy
  | reset => cases isLazy
  | look => cases isLazy

theorem known_leaves_alone (turn : Turn) (ready : manager.phase = .ready)
    (isLazy : turn.request.isLazy = true) (other : ∀ name, turn.request ≠ .recheck name) :
    manager.LeavesAlone turn := by
  obtain ⟨result, answered⟩ := manager.known_answered turn ready isLazy other
  have here : manager.perform turn = ⟨result, manager, Effects.none⟩ := answered turn.outside.topology
  refine ⟨?_, fun topology => (answered topology).trans here.symm⟩
  rw [here]
  rfl

theorem unasked_leaves_alone (turn : Turn) (eager : turn.request.isLazy = false)
    (other : turn.request.isRefresh = false) : manager.LeavesAlone turn := by
  obtain ⟨request, outside⟩ := turn
  cases request with
  | reset => exact ⟨rfl, fun _ => rfl⟩
  | look => exact ⟨rfl, fun _ => rfl⟩
  | refresh => cases other
  | flag _ => cases eager
  | capabilities => cases eager
  | node _ => cases eager
  | recheck _ => cases eager
  | report _ => cases eager

theorem unknown_leaves_alone (name : String) (outside : Outside) (ready : manager.phase = .ready)
    (unknown : manager.nodes.lookup name = none) : manager.LeavesAlone ⟨.recheck name, outside⟩ := by
  simp only [LeavesAlone, perform, recheck_ready manager _ ready, findNode, unknown]
  exact ⟨rfl, fun _ => rfl⟩

theorem recheck_contacts (name : String) (outside : Outside) (snapshot : Node.Snapshot) (calm : outside.Calm)
    (ready : manager.phase = .ready) (known : manager.nodes.lookup name = some snapshot) :
    (manager.perform ⟨.recheck name, outside⟩).effects.contacts =
      match outside.topology.connect name with
      | .error _ => [.connect name]
      | .ok _ => [.connect name, .query name .any (Statement.showVariable "innodb_heartbeat_seq")] := by
  simp only [perform, recheck_ready manager outside ready, findNode, known, Call.pure_and_then]
  exact manager.ask_heartbeat_contacts name snapshot outside calm

theorem recheck_keeps_phase (name : String) (outside : Outside) (ready : manager.phase = .ready) :
    (manager.perform ⟨.recheck name, outside⟩).manager.passes = manager.passes ∧
      (manager.perform ⟨.recheck name, outside⟩).manager.phase = .ready := by
  have found : (manager.node name outside).manager = manager := by
    rw [node_ready manager outside ready, find_node_manager]
  rcases manager.recheck_cases name outside with ⟨_, _, left⟩ | ⟨snapshot, supported, _, _, left⟩
  · simp only [perform, Call.map, left, found]
    exact ⟨trivial, ready⟩
  · simp only [perform, Call.map, left, found]
    exact ⟨rfl, ready⟩

theorem recheck_asks_no_nodes (name : String) (outside : Outside) (calm : outside.Calm)
    (ready : manager.phase = .ready) :
    Contact.nodes ∉ (manager.perform ⟨.recheck name, outside⟩).effects.contacts := by
  cases looked : manager.nodes.lookup name with
  | none =>
      rw [(manager.unknown_leaves_alone name outside ready looked).1]
      exact List.not_mem_nil
  | some snapshot =>
      rw [manager.recheck_contacts name outside snapshot calm ready looked]
      split <;> simp

theorem ready_runs_no_pass (turn : Turn) (calm : turn.outside.Calm) (ready : manager.phase = .ready)
    (isLazy : turn.request.isLazy = true) :
    (manager.perform turn).manager.passes = manager.passes ∧ (manager.perform turn).manager.phase = .ready ∧
      Contact.nodes ∉ (manager.perform turn).effects.contacts := by
  obtain ⟨request, outside⟩ := turn
  by_cases rechecks : ∃ name, request = .recheck name
  · obtain ⟨name, rfl⟩ := rechecks
    obtain ⟨passes, phase⟩ := manager.recheck_keeps_phase name outside ready
    exact ⟨passes, phase, manager.recheck_asks_no_nodes name outside calm ready⟩
  · have other : ∀ name, request ≠ .recheck name := fun name same => rechecks ⟨name, same⟩
    obtain ⟨result, answered⟩ := manager.known_answered ⟨request, outside⟩ ready isLazy other
    have here : manager.perform ⟨request, outside⟩ = ⟨result, manager, Effects.none⟩ := answered outside.topology
    rw [here]
    exact ⟨rfl, ready, List.not_mem_nil⟩

theorem run_pass_settles (restore : Phase) (outside : Outside) (calm : outside.Calm) :
    (manager.runPass restore outside).manager.passes = manager.passes + 1 ∧
      ((manager.runPass restore outside).manager.phase = restore ∨
        (manager.runPass restore outside).manager.phase = .ready) := by
  have busy : (manager.during restore).passes = manager.passes := by
    unfold during
    split <;> rfl
  rcases manager.pass_result_calm outside calm with ⟨error, failed⟩ | ⟨_, findings, _, found, _⟩
  · rw [(manager.run_pass_failed restore outside error failed).2]
    exact ⟨congrArg (· + 1) busy, Or.inl rfl⟩
  · rw [(manager.run_pass_succeeded restore outside findings found).2]
    exact ⟨congrArg (· + 1) busy, Or.inr rfl⟩

theorem refresh_contacts (outside : Outside) :
    (manager.refresh outside).effects.contacts = manager.passContacts outside := by
  unfold refresh
  rw [Call.and_then_contacts _ _ fun _ _ => rfl, run_pass_contacts]

theorem perform_pending (turn : Turn) (pending : manager.phase = .uninitialized)
    (isLazy : turn.request.isLazy = true) :
    manager.perform turn =
      (manager.runPass .uninitialized turn.outside).andThen fun after _ => after.perform turn := by
  have unready : manager.phase ≠ .ready := by rw [pending]; decide
  rw [manager.perform_lazy turn isLazy, ensure_ready_pending manager turn.outside unready]

theorem perform_pending_failed (turn : Turn) (pending : manager.phase = .uninitialized)
    (isLazy : turn.request.isLazy = true) (error : PassError)
    (failed : manager.passResult turn.outside = .error (.failed error)) :
    (manager.perform turn).result = .error (.failed error) ∧
      (manager.perform turn).effects.contacts = manager.passContacts turn.outside ∧
      (manager.perform turn).manager = (manager.runPass .uninitialized turn.outside).manager := by
  rw [manager.perform_pending turn pending isLazy, Call.andThen,
    (manager.run_pass_failed .uninitialized turn.outside error failed).1]
  exact ⟨rfl, manager.run_pass_contacts .uninitialized turn.outside, rfl⟩

theorem perform_pending_found (turn : Turn) (pending : manager.phase = .uninitialized)
    (isLazy : turn.request.isLazy = true) (findings : Findings)
    (found : manager.passResult turn.outside = .ok findings) :
    let opened := (manager.during .uninitialized).afterSuccess turn.outside.passId findings
    (manager.perform turn).result = (opened.perform turn).result ∧
      (manager.perform turn).effects.contacts =
        manager.passContacts turn.outside ++ (opened.perform turn).effects.contacts ∧
      (manager.perform turn).manager = (opened.perform turn).manager := by
  obtain ⟨answered, left⟩ := manager.run_pass_succeeded .uninitialized turn.outside findings found
  rw [manager.perform_pending turn pending isLazy, Call.andThen, answered, left]
  exact ⟨rfl, congrArg (· ++ _) (manager.run_pass_contacts .uninitialized turn.outside), rfl⟩

theorem pass_contacts_nodes (outside : Outside) : (manager.passContacts outside).count .nodes = 1 :=
  Pass.run_nodes outside.topology manager.options manager.parallelism outside.deployment

def Settled (manager : Manager) : Prop := manager.phase = .uninitialized ∨ manager.phase = .ready

structure Runs (manager : Manager) (turn : Turn) (passes : Nat) : Prop where
  counted : (manager.perform turn).manager.passes = manager.passes + passes
  asked : (manager.perform turn).effects.contacts.count .nodes = passes
  settled : (manager.perform turn).manager.Settled

theorem pending_runs_one (turn : Turn) (calm : turn.outside.Calm) (pending : manager.phase = .uninitialized)
    (isLazy : turn.request.isLazy = true) : manager.Runs turn 1 := by
  rcases manager.pass_result_calm turn.outside calm with ⟨error, failed⟩ | ⟨_, findings, _, found, _⟩
  · obtain ⟨counted, phase⟩ := manager.run_pass_settles .uninitialized turn.outside calm
    obtain ⟨_, contacts, left⟩ := manager.perform_pending_failed turn pending isLazy error failed
    constructor
    · rw [left, counted]
    · rw [contacts, manager.pass_contacts_nodes turn.outside]
    · rw [left]
      exact phase
  · let opened := (manager.during .uninitialized).afterSuccess turn.outside.passId findings
    obtain ⟨counted, phase, silent⟩ := opened.ready_runs_no_pass turn calm rfl isLazy
    obtain ⟨_, contacts, left⟩ := manager.perform_pending_found turn pending isLazy findings found
    constructor
    · rw [left, counted]
      rfl
    · rw [contacts, List.count_append, List.count_eq_zero.mpr silent, manager.pass_contacts_nodes turn.outside]
    · rw [left]
      exact Or.inr phase

theorem ready_runs_none (turn : Turn) (calm : turn.outside.Calm) (ready : manager.phase = .ready)
    (isLazy : turn.request.isLazy = true) : manager.Runs turn 0 := by
  obtain ⟨counted, phase, silent⟩ := manager.ready_runs_no_pass turn calm ready isLazy
  exact ⟨counted, List.count_eq_zero.mpr silent, Or.inr phase⟩

theorem refresh_runs_one (outside : Outside) (calm : outside.Calm) : manager.Runs ⟨.refresh, outside⟩ 1 := by
  let restore := if manager.phase = .ready then Phase.ready else .uninitialized
  have restored : restore = .uninitialized ∨ restore = .ready := by
    dsimp only [restore]
    split
    · exact Or.inr rfl
    · exact Or.inl rfl
  have left : (manager.perform ⟨.refresh, outside⟩).manager = (manager.runPass restore outside).manager := by
    change (manager.refresh outside).manager = _
    exact Call.and_then_manager _ _ fun _ _ => rfl
  obtain ⟨counted, phase⟩ := manager.run_pass_settles restore outside calm
  constructor
  · rw [left, counted]
  · exact (congrArg (List.count .nodes) (manager.refresh_contacts outside)).trans
      (manager.pass_contacts_nodes outside)
  · rw [left]
    rcases phase with same | ready
    · unfold Settled
      rwa [same]
    · exact Or.inr ready

theorem perform_due (turn : Turn) (calm : turn.outside.Calm) (settled : manager.Settled) :
    manager.Runs turn (due manager.phase turn.request) := by
  cases isLazy : turn.request.isLazy with
  | true =>
      rw [due_lazy _ _ isLazy]
      rcases settled with pending | ready
      · rw [if_pos pending]
        exact manager.pending_runs_one turn calm pending isLazy
      · rw [ready]
        exact manager.ready_runs_none turn calm ready isLazy
  | false =>
      obtain ⟨request, outside⟩ := turn
      cases request with
      | refresh => exact manager.refresh_runs_one outside calm
      | reset => exact ⟨rfl, rfl, Or.inl rfl⟩
      | look => exact ⟨rfl, rfl, settled⟩
      | flag _ => cases isLazy
      | capabilities => cases isLazy
      | node _ => cases isLazy
      | recheck _ => cases isLazy
      | report _ => cases isLazy

theorem history_due (history : List Turn) (calm : ∀ turn ∈ history, turn.outside.Calm)
    (settled : manager.Settled) :
    let due := (manager.issued history).countP (fun call => call.2.isRefresh) +
      (manager.issued history).countP fun call => call.2.isLazy && call.1 == .uninitialized
    (manager.after history).passes = manager.passes + due ∧ (manager.contacts history).count .nodes = due ∧
      (manager.after history).Settled := by
  induction history generalizing manager with
  | nil => exact ⟨rfl, rfl, settled⟩
  | cons turn rest ih =>
      obtain ⟨passes, nodes, phase⟩ := manager.perform_due turn (calm turn List.mem_cons_self) settled
      obtain ⟨later, laterNodes, laterPhase⟩ := ih (manager.perform turn).manager
        (fun other member => calm other (List.mem_cons_of_mem turn member)) phase
      simp only [issued, contacts, List.countP_cons, List.count_append, due] at passes nodes ⊢
      refine ⟨?_, ?_, laterPhase⟩
      · refine later.trans ?_
        omega
      · omega

structure Accounted (manager : Manager) (turn : Turn) : Prop where
  unasked : turn.request.isLazy = false → turn.request.isRefresh = false → manager.LeavesAlone turn
  known : manager.phase = .ready → turn.request.isLazy = true → (∀ name, turn.request ≠ .recheck name) →
    manager.LeavesAlone turn
  unknown : manager.phase = .ready → ∀ name, turn.request = .recheck name → manager.nodes.lookup name = none →
    manager.LeavesAlone turn
  rechecked : manager.phase = .ready → ∀ name snapshot, turn.request = .recheck name →
    manager.nodes.lookup name = some snapshot →
      (manager.perform turn).effects.contacts =
        match turn.outside.topology.connect name with
        | .error _ => [.connect name]
        | .ok _ => [.connect name, .query name .any (Statement.showVariable "innodb_heartbeat_seq")]
  retried : manager.phase = .uninitialized → turn.request.isLazy = true →
    (manager.perform turn).manager.passes = manager.passes + 1 ∧
      (∀ error, manager.passResult turn.outside = .error (.failed error) →
        (manager.perform turn).result = .error (.failed error)) ∧
      ∀ findings, manager.passResult turn.outside = .ok findings →
        (manager.perform turn).result =
          (((manager.during .uninitialized).afterSuccess turn.outside.passId findings).perform turn).result
  forgotten : turn.request.isLazy = true → ∀ stored,
    ({ manager with lastError? := stored }.perform turn).result = (manager.perform turn).result

theorem find_node_forgets (manager : Manager) (name : String) (stored : Option PassError) :
    ({ manager with lastError? := stored }.findNode name).result = (manager.findNode name).result := by
  unfold findNode
  dsimp only
  split <;> rfl

theorem ask_heartbeat_forgets (manager : Manager) (name : String) (snapshot : Node.Snapshot)
    (outside : Outside) (stored : Option PassError) :
    ({ manager with lastError? := stored }.askHeartbeat name snapshot outside).result =
      (manager.askHeartbeat name snapshot outside).result := by
  unfold askHeartbeat
  split
  · rfl
  · rfl
  · dsimp only
    split <;> rfl

theorem ready_forgets (manager : Manager) (turn : Turn) (ready : manager.phase = .ready)
    (isLazy : turn.request.isLazy = true) (stored : Option PassError) :
    ({ manager with lastError? := stored }.perform turn).result = (manager.perform turn).result := by
  have same : ({ manager with lastError? := stored } : Manager).phase = .ready := ready
  obtain ⟨request, outside⟩ := turn
  cases request with
  | flag read =>
      simp only [perform, flag, gated_ready manager outside ready, gated_ready _ outside same]
      rfl
  | capabilities =>
      simp only [perform, capabilities, gated_ready manager outside ready, gated_ready _ outside same]
      rfl
  | node name =>
      simp only [perform, Call.map, node_ready manager outside ready, node_ready _ outside same, find_node_forgets]
  | recheck name =>
      simp only [perform, Call.map, recheck_ready manager outside ready, recheck_ready _ outside same, findNode]
      split
      · simp only [Call.pure_and_then, ask_heartbeat_forgets]
      · rfl
  | report time =>
      simp only [perform, collect_ready manager outside ready, collect_ready _ outside same]
      rfl
  | refresh => cases isLazy
  | reset => cases isLazy
  | look => cases isLazy

theorem pending_forgets (manager : Manager) (turn : Turn) (calm : turn.outside.Calm)
    (pending : manager.phase = .uninitialized) (isLazy : turn.request.isLazy = true)
    (stored : Option PassError) :
    ({ manager with lastError? := stored }.perform turn).result = (manager.perform turn).result := by
  let other : Manager := { manager with lastError? := stored }
  rcases manager.pass_result_calm turn.outside calm with ⟨error, failed⟩ | ⟨_, findings, _, found, _⟩
  · rw [(manager.perform_pending_failed turn pending isLazy error failed).1]
    exact (other.perform_pending_failed turn pending isLazy error failed).1
  · rw [(manager.perform_pending_found turn pending isLazy findings found).1]
    exact (other.perform_pending_found turn pending isLazy findings found).1

theorem settled_accounted (manager : Manager) (turn : Turn) (calm : turn.outside.Calm)
    (settled : manager.Settled) : manager.Accounted turn where
  unasked := manager.unasked_leaves_alone turn
  known := manager.known_leaves_alone turn
  unknown ready name rechecks absent := by
    obtain ⟨request, outside⟩ := turn
    cases rechecks
    exact manager.unknown_leaves_alone name outside ready absent
  rechecked ready name snapshot rechecks present := by
    obtain ⟨request, outside⟩ := turn
    cases rechecks
    exact manager.recheck_contacts name outside snapshot calm ready present
  retried pending isLazy := by
    refine ⟨?_, ?_, ?_⟩
    · exact (manager.pending_runs_one turn calm pending isLazy).counted
    · exact fun error failed => (manager.perform_pending_failed turn pending isLazy error failed).1
    · exact fun findings found => (manager.perform_pending_found turn pending isLazy findings found).1
  forgotten isLazy stored := by
    rcases settled with pending | ready
    · exact manager.pending_forgets turn calm pending isLazy stored
    · exact manager.ready_forgets turn ready isLazy stored

-- After any history the passes are the refreshes and the lazy requests that found nothing known, and as
-- often has the topology been asked for its nodes.
theorem history_accounts_for_passes (options : ProbeOptions) (parallelism : Nat) (history : List Turn)
    (calm : ∀ turn ∈ history, turn.outside.Calm) :
    let first := start options parallelism
    let manager := first.after history
    manager.passes =
        (first.issued history).countP (fun call => call.2.isRefresh) +
          (first.issued history).countP (fun call => call.2.isLazy && call.1 == .uninitialized) ∧
      (first.contacts history).count .nodes = manager.passes ∧
      ∀ turn, turn.outside.Calm → manager.Accounted turn := by
  intro first manager
  obtain ⟨passes, nodes, settled⟩ := first.history_due history calm (Or.inl rfl)
  have counted := passes.trans (Nat.zero_add _)
  exact ⟨counted, nodes.trans counted.symm, fun turn same => manager.settled_accounted turn same settled⟩

def listing (nodes : Except TopologyError (List Descriptor)) : Outside where
  topology := ⟨nodes, fun _ => .ok (.answering fun _ _ => .ok [Row.ofTexts ["5"]])⟩
  deployment := ⟨false, false⟩
  passId := ⟨"sc-20260115-143022-a7xq"⟩
  elapsed := 0

def failingHistory : List Turn :=
  let lost := listing (.error (.unavailable "no route"))
  let found := listing (.ok [⟨"dn-0", .sql⟩])
  [⟨.capabilities, lost⟩, ⟨.look, lost⟩, ⟨.node "dn-0", found⟩, ⟨.recheck "dn-0", found⟩, ⟨.refresh, lost⟩,
    ⟨.capabilities, lost⟩, ⟨.reset, lost⟩, ⟨.capabilities, found⟩]

theorem history_accounts_for_failures :
    let first := start ⟨false, false, "udf", "udf_functions"⟩ 1
    let manager := first.after failingHistory
    (∀ turn ∈ failingHistory, turn.outside.Calm) ∧ (first.contacts failingHistory).count .nodes = 4 ∧
      manager.passes = 1 + 3 ∧ manager.LeavesAlone ⟨.capabilities, listing (.error (.unavailable "no route"))⟩ := by
  intro first manager
  have calm : ∀ turn ∈ failingHistory, turn.outside.Calm := by
    intro turn member name
    simp only [failingHistory, List.mem_cons, List.not_mem_nil, or_false] at member
    rcases member with rfl | rfl | rfl | rfl | rfl | rfl | rfl | rfl <;> exact fun crashing => nomatch crashing
  obtain ⟨passes, nodes, accounted⟩ :=
    history_accounts_for_passes ⟨false, false, "udf", "udf_functions"⟩ 1 failingHistory calm
  have counted : manager.passes = 1 + 3 := passes.trans rfl
  have quiet : (listing (.error (.unavailable "no route"))).Calm := fun name crashing => nomatch crashing
  refine ⟨calm, nodes.trans counted, counted, ?_⟩
  exact (accounted ⟨.capabilities, _⟩ quiet).known rfl rfl fun name same => nomatch same

end Manager

end ClusterCaps
