import ClusterCaps.Proofs.Manager.History

set_option autoImplicit false

namespace ClusterCaps

def current? : List Deed → Option Findings
  | [] => none
  | .found findings :: _ => some findings
  | .forgot :: _ => none
  | .rechecked _ _ :: earlier => current? earlier

def recheck? (name : String) : List Deed → Option Bool
  | .rechecked other supported :: earlier => if other = name then some supported else recheck? name earlier
  | _ => none

def refined (record : List Deed) (entry : String × Node.Snapshot) : String × Node.Snapshot :=
  match recheck? entry.1 record with
  | none => entry
  | some supported => (entry.1, { entry.2 with heartbeat := supported })

namespace Manager

structure Blank (manager : Manager) : Prop where
  phase : manager.phase = .uninitialized
  cluster : manager.cluster = Cluster.nothing
  nodes : manager.nodes = []
  skipped : manager.skipped = []

structure Shows (record : List Deed) (findings : Findings) (manager : Manager) : Prop where
  phase : manager.phase = .ready
  cluster : manager.cluster = findings.cluster
  ascending : NameMap.Ascending manager.nodes
  nodes : manager.nodes.Perm (findings.snapshots.map (refined record))
  skipped : manager.skipped = findings.skipped

def Faithful (record : List Deed) (manager : Manager) : Prop :=
  match current? record with
  | none => Blank manager
  | some findings => Shows record findings manager

theorem faithful_settled (record : List Deed) (manager : Manager) (faithful : Faithful record manager) :
    manager.phase = .uninitialized ∨ manager.phase = .ready := by
  unfold Faithful at faithful
  split at faithful
  · exact Or.inl faithful.phase
  · exact Or.inr faithful.phase

theorem faithful_ready (record : List Deed) (manager : Manager) (faithful : Faithful record manager)
    (ready : manager.phase = .ready) : ∃ findings, current? record = some findings ∧ Shows record findings manager := by
  unfold Faithful at faithful
  split at faithful
  · rw [faithful.phase] at ready
    cases ready
  · next findings shown => exact ⟨findings, shown, faithful⟩

theorem faithful_blank (record : List Deed) (manager : Manager) (faithful : Faithful record manager)
    (unready : manager.phase = .uninitialized) : Blank manager := by
  unfold Faithful at faithful
  split at faithful
  · exact faithful
  · rw [faithful.phase] at unready
    cases unready

theorem faithful_ascending (record : List Deed) (manager : Manager) (faithful : Faithful record manager) :
    NameMap.Ascending manager.nodes := by
  unfold Faithful at faithful
  split at faithful
  · rw [faithful.nodes]
    exact List.Pairwise.nil
  · exact faithful.ascending

theorem faithful_visible (record : List Deed) (left right : Manager) (same : right.visible = left.visible)
    (faithful : Faithful record left) : Faithful record right := by
  simp only [visible, Prod.mk.injEq] at same
  obtain ⟨phase, cluster, nodes, skipped⟩ := same
  unfold Faithful at faithful ⊢
  cases shown : current? record with
  | none =>
      rw [shown] at faithful
      exact ⟨phase.trans faithful.phase, cluster.trans faithful.cluster, nodes.trans faithful.nodes,
        skipped.trans faithful.skipped⟩
  | some findings =>
      rw [shown] at faithful
      exact ⟨phase.trans faithful.phase, cluster.trans faithful.cluster, nodes ▸ faithful.ascending,
        nodes ▸ faithful.nodes, skipped.trans faithful.skipped⟩

theorem after_failure_visible (manager : Manager) (id : PassId) (error : PassError) :
    ((manager.during manager.phase).afterFailure manager.phase id error).visible = manager.visible := by
  unfold during
  split <;> rfl

theorem after_success_shows (record : List Deed) (manager : Manager) (restore : Phase) (id : PassId)
    (findings : Findings) (ascending : NameMap.Ascending manager.nodes)
    (distinct : NameMap.Distinct findings.snapshots) :
    Faithful (.found findings :: record) ((manager.during restore).afterSuccess id findings) := by
  have nodes : (manager.during restore).nodes = manager.nodes := by
    unfold during
    split <;> rfl
  have untouched : findings.snapshots.map (refined (.found findings :: record)) = findings.snapshots :=
    List.map_id findings.snapshots
  refine ⟨rfl, rfl, ?_, ?_, rfl⟩
  · change NameMap.Ascending (((manager.during restore).nodes.insertAll findings.snapshots).retain _)
    rw [nodes]
    exact NameMap.retain_ascending _ _ (NameMap.insert_all_ascending _ _ ascending)
  · change (((manager.during restore).nodes.insertAll findings.snapshots).retain _).Perm _
    rw [nodes, untouched]
    exact NameMap.replace_perm manager.nodes findings.snapshots ascending distinct

theorem run_pass_faithful (record : List Deed) (manager : Manager) (outside : Outside)
    (regular : outside.Regular) (faithful : Faithful record manager) :
    Faithful (manager.passDeeds outside (manager.runPass manager.phase outside).effects.observed ++ record)
      (manager.runPass manager.phase outside).manager := by
  rw [run_pass_observed]
  rcases pass_result_cases manager outside regular with ⟨error, failed⟩ | ⟨findings, found, distinct⟩
  · have unchanged : passDeeds manager outside [manager.during manager.phase] = [] := by
      simp only [passDeeds, failed]
    rw [unchanged, (run_pass_failed manager _ outside error failed).2]
    exact faithful_visible record manager _ (after_failure_visible manager _ error) faithful
  · have published : passDeeds manager outside [manager.during manager.phase] = [.found findings] := by
      simp only [passDeeds, found]
    rw [published, (run_pass_succeeded manager _ outside findings found).2]
    exact after_success_shows record manager _ _ findings (faithful_ascending record manager faithful) distinct

theorem ensure_ready_faithful (record : List Deed) (manager : Manager) (outside : Outside)
    (regular : outside.Regular) (faithful : Faithful record manager) :
    Faithful (manager.passDeeds outside (manager.ensureReady manager.passes outside).effects.observed ++ record)
      (manager.ensureReady manager.passes outside).manager := by
  rcases faithful_settled record manager faithful with unready | ready
  · rw [ensure_ready_pending manager outside (by rw [unready]; decide), ← unready]
    exact run_pass_faithful record manager outside regular faithful
  · rw [ensure_ready_ready manager outside ready]
    exact faithful

theorem refresh_faithful (record : List Deed) (manager : Manager) (outside : Outside)
    (regular : outside.Regular) (faithful : Faithful record manager) :
    Faithful (manager.passDeeds outside (manager.refresh outside).effects.observed ++ record)
      (manager.refresh outside).manager := by
  have restore : (if manager.phase = .ready then Phase.ready else .uninitialized) = manager.phase := by
    rcases faithful_settled record manager faithful with unready | ready
    · rw [unready, if_neg (by decide)]
    · rw [ready, if_pos rfl]
  unfold refresh
  rw [Call.and_then_observed _ _ (fun _ _ => rfl), Call.and_then_manager _ _ (fun _ _ => rfl), restore]
  exact run_pass_faithful record manager outside regular faithful

-- One entry of the map takes the answer of the node; the findings themselves stay what they were.
theorem set_heartbeat_faithful (record : List Deed) (manager : Manager) (name : String)
    (snapshot : Node.Snapshot) (supported : Bool) (faithful : Faithful record manager)
    (known : manager.nodes.lookup name = some snapshot) :
    Faithful (.rechecked name supported :: record) (manager.setHeartbeat name snapshot supported) := by
  unfold Faithful at faithful ⊢
  change match current? record with
    | none => _
    | some findings => _
  cases shown : current? record with
  | none =>
      rw [shown] at faithful
      rw [faithful.nodes] at known
      cases known
  | some findings =>
      rw [shown] at faithful
      let change : String × Node.Snapshot → String × Node.Snapshot := fun entry =>
        if entry.1 = name then (entry.1, { entry.2 with heartbeat := supported }) else entry
      have updated : (manager.setHeartbeat name snapshot supported).nodes = manager.nodes.map change :=
        NameMap.insert_present manager.nodes name (fun node => { node with heartbeat := supported }) snapshot
          faithful.ascending known
      have composed : ∀ entry, change (refined record entry) = refined (.rechecked name supported :: record) entry := by
        rintro ⟨key, node⟩
        by_cases same : key = name
        · subst same
          unfold refined
          cases recheck? key record <;> simp [change, recheck?]
        · have other : ¬ name = key := fun equal => same equal.symm
          unfold refined
          cases earlier : recheck? key record <;> simp [change, recheck?, same, other, earlier]
      refine ⟨faithful.phase, faithful.cluster, ?_, ?_, faithful.skipped⟩
      · exact NameMap.insert_ascending _ name _ faithful.ascending
      · rw [updated]
        refine (faithful.nodes.map change).trans ?_
        rw [List.map_map]
        exact List.Perm.of_eq (List.map_congr_left fun entry _ => composed entry)

theorem recheck_faithful (record : List Deed) (manager : Manager) (name : String) (outside : Outside)
    (regular : outside.Regular) (faithful : Faithful record manager) :
    Faithful (manager.deeds ⟨.recheck name, outside⟩ ++ record) (manager.recheckHeartbeat name outside).manager := by
  have opened := ensure_ready_faithful record manager outside regular faithful
  rw [← node_manager manager name, ← recheck_observed manager name] at opened
  unfold deeds
  simp only [perform, Call.map]
  rcases recheck_cases manager name outside with ⟨stop, result, left⟩ | ⟨snapshot, supported, found, result, left⟩
  · rw [result, left]
    exact opened
  · rw [result, left]
    exact set_heartbeat_faithful _ _ name snapshot supported opened (node_ok manager name outside snapshot found)

theorem perform_faithful (record : List Deed) (manager : Manager) (turn : Turn)
    (regular : turn.outside.Regular) (faithful : Faithful record manager) :
    Faithful (manager.deeds turn ++ record) (manager.perform turn).manager := by
  have opened := ensure_ready_faithful record manager turn.outside regular faithful
  obtain ⟨request, outside⟩ := turn
  cases request with
  | flag read =>
      simp only [deeds, perform, Call.map, answerDeeds, List.nil_append, flag, gated_manager, gated_observed]
      exact opened
  | capabilities =>
      simp only [deeds, perform, Call.map, answerDeeds, List.nil_append, capabilities, gated_manager,
        gated_observed]
      exact opened
  | node name =>
      simp only [deeds, perform, Call.map, answerDeeds, List.nil_append, node_manager, node_observed]
      exact opened
  | recheck name => exact recheck_faithful record manager name outside regular faithful
  | report time =>
      simp only [deeds, perform, Call.map, answerDeeds, List.nil_append, collect_manager, collect_observed]
      exact opened
  | refresh =>
      simp only [deeds, perform, Call.map, answerDeeds, List.nil_append]
      exact refresh_faithful record manager outside regular faithful
  | reset => exact ⟨rfl, rfl, rfl, rfl⟩
  | look => exact faithful

theorem history_faithful (record : List Deed) (manager : Manager) (history : List Turn)
    (regular : ∀ turn ∈ history, turn.outside.Regular) (faithful : Faithful record manager) :
    Faithful (manager.record history ++ record) (manager.after history) := by
  induction history generalizing manager record with
  | nil => exact faithful
  | cons turn rest ih =>
      have first := perform_faithful record manager turn (regular turn List.mem_cons_self) faithful
      have later := ih (manager.deeds turn ++ record) (manager.perform turn).manager
        (fun other member => regular other (List.mem_cons_of_mem turn member)) first
      rw [← List.append_assoc] at later
      exact later

theorem start_faithful (options : ProbeOptions) (parallelism : Nat) (history : List Turn)
    (regular : ∀ turn ∈ history, turn.outside.Regular) :
    Faithful ((start options parallelism).record history) ((start options parallelism).after history) := by
  have whole := history_faithful [] (start options parallelism) history regular ⟨rfl, rfl, rfl, rfl⟩
  rwa [List.append_nil] at whole

theorem faithful_unique (record : List Deed) (left right : Manager) (first : Faithful record left)
    (second : Faithful record right) : left.visible = right.visible := by
  unfold Faithful at first second
  cases shown : current? record with
  | none =>
      rw [shown] at first second
      simp only [visible, first.phase, first.cluster, first.nodes, first.skipped, second.phase, second.cluster,
        second.nodes, second.skipped]
  | some findings =>
      rw [shown] at first second
      have nodes : left.nodes = right.nodes := by
        refine List.Perm.eq_of_pairwise ?_ first.ascending second.ascending (first.nodes.trans second.nodes.symm)
        intro a b _ _ before after
        have loop := Text.precedes_trans a.1 b.1 a.1 before after
        rw [Text.precedes_irrefl] at loop
        cases loop
      simp only [visible, first.phase, first.cluster, nodes, first.skipped, second.phase, second.cluster,
        second.skipped]

theorem silent_visible (record : List Deed) (manager : Manager) (turn : Turn)
    (regular : turn.outside.Regular) (faithful : Faithful record manager) (silent : manager.deeds turn = []) :
    (manager.perform turn).manager.visible = manager.visible := by
  have later := perform_faithful record manager turn regular faithful
  rw [silent] at later
  exact faithful_unique record _ _ later faithful

theorem ensure_ready_ok (record : List Deed) (manager : Manager) (outside : Outside)
    (regular : outside.Regular) (faithful : Faithful record manager)
    (opened : (manager.ensureReady manager.passes outside).result = .ok ()) :
    (manager.ensureReady manager.passes outside).manager.phase = .ready ∧
      ((manager.ensureReady manager.passes outside).effects.observed = [] ∨
        ∃ findings, manager.passResult outside = .ok findings) := by
  rcases faithful_settled record manager faithful with unready | ready
  · rw [ensure_ready_pending manager outside (by rw [unready]; decide)] at opened ⊢
    rcases pass_result_cases manager outside regular with ⟨error, failed⟩ | ⟨findings, found, _⟩
    · rw [(run_pass_failed manager _ outside error failed).1] at opened
      cases opened
    · rw [(run_pass_succeeded manager _ outside findings found).2]
      exact ⟨rfl, Or.inr ⟨findings, found⟩⟩
  · rw [ensure_ready_ready manager outside ready]
    exact ⟨ready, Or.inl rfl⟩

end Manager

def Request.Gated : Request → Prop
  | .reset => False
  | .look => False
  | _ => True

def Manager.Tells (manager : Manager) : Request → Answer → Prop
  | .flag read, .flag value => value = read manager.cluster
  | .capabilities, .cluster cluster => cluster = manager.cluster
  | .refresh, .cluster cluster => cluster = manager.cluster
  | .node name, .snapshot snapshot => manager.nodes.lookup name = some snapshot
  | .recheck name, .flag supported => ∃ snapshot, manager.nodes.lookup name = some snapshot ∧
      snapshot.heartbeat = supported
  | .report _, .report report => report.cluster = manager.cluster ∧ report.skipped = manager.skipped ∧
      report.nodes = manager.nodes.map fun (name, facts) => ⟨name, facts⟩
  | .look, .seen seen => seen = manager
  | .reset, .done => True
  | _, _ => False

namespace Manager

theorem refresh_ok (manager : Manager) (outside : Outside) (regular : outside.Regular) (cluster : Cluster)
    (answered : (manager.refresh outside).result = .ok cluster) :
    (manager.refresh outside).manager.phase = .ready ∧ cluster = (manager.refresh outside).manager.cluster := by
  obtain ⟨_, ran, same⟩ := Call.and_then_ok _ _ _ answered
  unfold refresh
  rw [Call.and_then_manager _ _ fun _ _ => rfl]
  refine ⟨?_, (Except.ok.inj same).symm⟩
  rcases pass_result_cases manager outside regular with ⟨error, failed⟩ | ⟨findings, found, _⟩
  · rw [(run_pass_failed manager _ outside error failed).1] at ran
    cases ran
  · rw [(run_pass_succeeded manager _ outside findings found).2]
    rfl

theorem answer_tells (record : List Deed) (manager : Manager) (turn : Turn) (regular : turn.outside.Regular)
    (faithful : Faithful record manager) (answer : Answer)
    (answered : (manager.perform turn).result = .ok answer) :
    Tells (manager.perform turn).manager turn.request answer ∧
      (turn.request.Gated → (manager.perform turn).manager.phase = .ready) := by
  obtain ⟨request, outside⟩ := turn
  have ready := ensure_ready_ok record manager outside regular faithful
  cases request with
  | flag read =>
      obtain ⟨value, result, rfl⟩ := Call.map_ok _ _ _ answered
      obtain ⟨opened, same⟩ := gated_ok _ _ _ _ result
      simp only [perform, Call.map, flag, gated_manager]
      exact ⟨same, fun _ => (ready opened).1⟩
  | capabilities =>
      obtain ⟨cluster, result, rfl⟩ := Call.map_ok _ _ _ answered
      obtain ⟨opened, same⟩ := gated_ok _ _ _ _ result
      simp only [perform, Call.map, capabilities, gated_manager]
      exact ⟨same, fun _ => (ready opened).1⟩
  | node name =>
      obtain ⟨snapshot, result, rfl⟩ := Call.map_ok _ _ _ answered
      obtain ⟨_, opened, _⟩ := Call.and_then_ok _ _ _ result
      refine ⟨node_ok manager name outside snapshot result, fun _ => ?_⟩
      simp only [perform, Call.map, node_manager]
      exact (ready opened).1
  | recheck name =>
      obtain ⟨supported, result, rfl⟩ := Call.map_ok _ _ _ answered
      rcases recheck_cases manager name outside with ⟨stop, failed, _⟩ | ⟨snapshot, told, found, same, left⟩
      · rw [failed] at result
        cases result
      · obtain ⟨_, opened, _⟩ := Call.and_then_ok _ _ _ found
        rw [same] at result
        cases result
        simp only [perform, Call.map, left]
        refine ⟨⟨{ snapshot with heartbeat := supported }, NameMap.lookup_insert_self _ _ _, rfl⟩, fun _ => ?_⟩
        change (manager.node name outside).manager.phase = .ready
        rw [node_manager]
        exact (ready opened).1
  | report time =>
      obtain ⟨report, result, rfl⟩ := Call.map_ok _ _ _ answered
      obtain ⟨cluster, asked, same⟩ := Call.and_then_ok _ _ _ result
      obtain ⟨opened, told⟩ := gated_ok _ _ _ _ asked
      cases same
      simp only [perform, Call.map, collect_manager]
      simp only [capabilities, gated_manager]
      exact ⟨⟨told, rfl, rfl⟩, fun _ => (ready opened).1⟩
  | refresh =>
      obtain ⟨cluster, result, rfl⟩ := Call.map_ok _ _ _ answered
      obtain ⟨settled, same⟩ := refresh_ok manager outside regular cluster result
      exact ⟨same, fun _ => settled⟩
  | reset =>
      cases answered
      exact ⟨trivial, False.elim⟩
  | look =>
      cases answered
      exact ⟨rfl, False.elim⟩

theorem recheck_opened (record : List Deed) (manager : Manager) (name : String) (outside : Outside)
    (regular : outside.Regular) (faithful : Faithful record manager) (supported : Bool)
    (answered : (manager.recheckHeartbeat name outside).result = .ok supported) :
    (manager.recheckHeartbeat name outside).effects.observed = [] ∨
      ∃ findings, manager.passResult outside = .ok findings := by
  rw [recheck_observed]
  rcases recheck_cases manager name outside with ⟨stop, failed, _⟩ | ⟨snapshot, told, found, _, _⟩
  · rw [failed] at answered
    cases answered
  · obtain ⟨_, opened, _⟩ := Call.and_then_ok _ _ _ found
    exact (ensure_ready_ok record manager outside regular faithful opened).2

theorem failed_pass_silent (record : List Deed) (manager : Manager) (turn : Turn)
    (regular : turn.outside.Regular) (faithful : Faithful record manager) (stop : Stop)
    (ran : (manager.perform turn).effects.observed ≠ [])
    (failed : manager.passResult turn.outside = .error stop) : manager.deeds turn = [] := by
  have found : manager.passDeeds turn.outside (manager.perform turn).effects.observed = [] := by
    unfold passDeeds
    rw [failed]
    split <;> simp_all
  obtain ⟨request, outside⟩ := turn
  unfold deeds
  simp only [found, List.append_nil]
  cases request with
  | reset => exact absurd rfl ran
  | recheck name =>
      cases result : (manager.recheckHeartbeat name outside).result with
      | error stop => simp only [perform, Call.map, result, Except.map, answerDeeds]
      | ok supported =>
          rcases recheck_opened record manager name outside regular faithful supported result with none | some
          · exact absurd none ran
          · obtain ⟨findings, some⟩ := some
            rw [failed] at some
            cases some
  | flag _ => rfl
  | capabilities => rfl
  | node _ => rfl
  | report _ => rfl
  | refresh => rfl
  | look => rfl

theorem refresh_error (manager : Manager) (outside : Outside) (stop : Stop)
    (failed : (manager.refresh outside).result = .error stop) :
    (manager.refresh outside).effects.observed ≠ [] ∧ ∃ cause, manager.passResult outside = .error cause := by
  have ran := Call.and_then_error _ _ stop (fun _ _ => ⟨_, rfl⟩) failed
  unfold refresh
  rw [Call.and_then_observed _ _ fun _ _ => rfl, run_pass_observed]
  refine ⟨List.cons_ne_nil _ _, ?_⟩
  cases result : manager.passResult outside with
  | error cause => exact ⟨cause, rfl⟩
  | ok findings =>
      rw [(run_pass_succeeded manager _ outside findings result).1] at ran
      cases ran

theorem recheck_error (manager : Manager) (name : String) (outside : Outside) (stop : Stop)
    (failed : (manager.recheckHeartbeat name outside).result = .error stop) :
    (manager.recheckHeartbeat name outside).manager = (manager.node name outside).manager := by
  rcases recheck_cases manager name outside with ⟨_, _, left⟩ | ⟨_, _, _, answered, _⟩
  · exact left
  · rw [answered] at failed
    cases failed

-- A recheck of a manager that is not ready runs a pass first. What that pass has published stays, also
-- where the node then fails to answer.
theorem history_determines_manager (options : ProbeOptions) (parallelism : Nat) (history : List Turn)
    (regular : ∀ turn ∈ history, turn.outside.Regular) :
    let manager := (start options parallelism).after history
    let record := (start options parallelism).record history
    (manager.phase = .uninitialized ∨ manager.phase = .ready) ∧
      (manager.phase = .uninitialized →
        manager.cluster = Cluster.nothing ∧ manager.nodes = [] ∧ manager.skipped = []) ∧
      (manager.phase = .ready → ∃ findings, current? record = some findings ∧ Shows record findings manager) ∧
      ∀ turn, turn.outside.Regular →
        let call := manager.perform turn
        let later := manager.deeds turn ++ record
        (∀ stop, call.effects.observed ≠ [] → manager.passResult turn.outside = .error stop →
          call.manager.visible = manager.visible) ∧
        (∀ stop, turn.request = .refresh → call.result = .error stop →
          call.manager.visible = manager.visible) ∧
        (∀ stop name, turn.request = .recheck name → call.result = .error stop →
          call.manager = (manager.perform ⟨.node name, turn.outside⟩).manager ∧
            (manager.phase = .ready → call.manager = manager)) ∧
        ∀ answer, call.result = .ok answer → Tells call.manager turn.request answer ∧
          (turn.request.Gated → ∃ findings, current? later = some findings ∧ Shows later findings call.manager) := by
  intro manager record
  have faithful : Faithful record manager := start_faithful options parallelism history regular
  refine ⟨faithful_settled record manager faithful, ?_, faithful_ready record manager faithful, ?_⟩
  · intro unready
    have blank := faithful_blank record manager faithful unready
    exact ⟨blank.cluster, blank.nodes, blank.skipped⟩
  · intro turn same
    have failing : ∀ stop, (manager.perform turn).effects.observed ≠ [] →
        manager.passResult turn.outside = .error stop →
          (manager.perform turn).manager.visible = manager.visible := fun stop ran failed =>
      silent_visible record manager turn same faithful
        (failed_pass_silent record manager turn same faithful stop ran failed)
    refine ⟨failing, ?_, ?_, ?_⟩
    · intro stop refreshed failed
      obtain ⟨request, outside⟩ := turn
      cases refreshed
      obtain ⟨ran, cause, found⟩ := refresh_error manager outside stop (Call.map_error _ _ stop failed)
      exact failing cause ran found
    · intro stop name rechecked failed
      obtain ⟨request, outside⟩ := turn
      cases rechecked
      have left := recheck_error manager name outside stop (Call.map_error _ _ stop failed)
      refine ⟨left, fun ready => ?_⟩
      refine left.trans ?_
      rw [node_manager, ensure_ready_ready manager outside ready]
      rfl
    · intro answer answered
      obtain ⟨tells, settled⟩ := answer_tells record manager turn same faithful answer answered
      have after := perform_faithful record manager turn same faithful
      exact ⟨tells, fun gated => faithful_ready _ _ after (settled gated)⟩

def stoppingHeart (rows : List Row) : Outside where
  topology := ⟨.ok [⟨"dn-0", .sql⟩], fun _ => .ok (.answering fun _ _ => .ok rows)⟩
  deployment := ⟨false, false⟩
  passId := ⟨"sc-20260115-143022-a7xq"⟩
  elapsed := 0

def stoppingHistory : List Turn :=
  [⟨.capabilities, stoppingHeart [Row.ofTexts ["5"]]⟩, ⟨.recheck "dn-0", stoppingHeart []⟩]

theorem history_determines_stopped_heart :
    let options : ProbeOptions := ⟨false, false, "udf", "udf_functions"⟩
    let manager := (start options 1).after stoppingHistory
    let record := (start options 1).record stoppingHistory
    (∀ turn ∈ stoppingHistory, turn.outside.Regular) ∧ manager.phase = .ready ∧
      manager.nodes.map (fun entry => entry.2.heartbeat) = [false] ∧
      ∃ findings, current? record = some findings ∧ Shows record findings manager ∧
        findings.snapshots.map (fun entry => entry.2.heartbeat) = [true] := by
  intro options manager record
  have regular : ∀ turn ∈ stoppingHistory, turn.outside.Regular := by
    intro turn member
    simp only [stoppingHistory, List.mem_cons, List.not_mem_nil, or_false] at member
    rcases member with rfl | rfl
    all_goals
      refine ⟨fun nodes listed => ?_, fun _ crashing => nomatch crashing⟩
      cases listed
      decide
  have ready : manager.phase = .ready := rfl
  obtain ⟨_, _, shown, _⟩ := history_determines_manager options 1 stoppingHistory regular
  obtain ⟨findings, found, shows⟩ := shown ready
  have beating : (current? record).map (fun found => found.snapshots.map fun entry => entry.2.heartbeat) =
      some [true] := rfl
  rw [found] at beating
  exact ⟨regular, ready, rfl, findings, found, shows, Option.some.inj beating⟩

end Manager

end ClusterCaps
