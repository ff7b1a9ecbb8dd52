import ClusterCaps.Proofs.Manager.Accounting
import ClusterCaps.Proofs.Manager.Moves

set_option autoImplicit false

namespace ClusterCaps

structure Trial where
  name : PassId
  outcome : Except Stop Findings

namespace Trial

-- A pass that a crash has cut off comes to no end.
def ended (trial : Trial) : Bool :=
  match trial.outcome with
  | .error .unwound => false
  | .error (.failed _) => true
  | .ok _ => true

def succeeded (trial : Trial) : Bool :=
  match trial.outcome with
  | .error _ => false
  | .ok _ => true

theorem succeeded_of_ok (trial : Trial) (findings : Findings) (found : trial.outcome = .ok findings) :
    trial.succeeded = true := by
  simp only [succeeded, found]

theorem ended_of_ok (trial : Trial) (findings : Findings) (found : trial.outcome = .ok findings) :
    trial.ended = true := by
  simp only [ended, found]

theorem named_last_iff (trials later earlier : List Trial) (published : Trial)
    (split : trials = later ++ published :: earlier) (ended : published.ended = true)
    (fresh : (trials.map Trial.name).Nodup) :
    (trials.find? Trial.ended).map Trial.name = some published.name ↔ ∀ trial ∈ later, trial.ended = false := by
  subst split
  rw [List.find?_append]
  constructor
  · intro same trial member
    cases found : later.find? Trial.ended with
    | none => simpa using List.find?_eq_none.mp found trial member
    | some last =>
        rw [found, Option.some_or, Option.map_some, Option.some.injEq] at same
        rw [List.map_append, List.map_cons] at fresh
        have apart := (List.nodup_append.mp fresh).2.2 last.name
          (List.mem_map_of_mem (List.mem_of_find?_eq_some found)) published.name List.mem_cons_self
        exact absurd same apart
  · intro quiet
    have none : later.find? Trial.ended = none := by
      rw [List.find?_eq_none]
      intro trial member
      simp [quiet trial member]
    rw [none, Option.none_or, List.find?_cons_of_pos ended, Option.map_some]

end Trial

-- A report shows findings where it repeats them, the nodes in the order of their names. Of several
-- snapshots of one node it is the last; the heartbeat may be that of a later recheck.
structure ClusterReport.Shows (report : ClusterReport) (findings : Findings) : Prop where
  cluster : report.cluster = findings.cluster
  skipped : report.skipped = findings.skipped
  ascending : NameMap.Ascending (report.nodes.map fun node => (node.name, node.facts))
  nodes : ∀ name, ((report.nodes.map fun node => (node.name, node.facts)).lookup name).map Node.Snapshot.steady =
    (findings.snapshots.reverse.lookup name).map Node.Snapshot.steady

namespace Manager

def trialOf (manager : Manager) (outside : Outside) (observed : List Manager) : List Trial :=
  match observed with
  | [] => []
  | _ :: _ => [⟨outside.passId, manager.passResult outside⟩]

def trials (manager : Manager) : List Turn → List Trial
  | [] => []
  | turn :: rest =>
    (manager.perform turn).manager.trials rest ++
      manager.trialOf turn.outside (manager.perform turn).effects.observed

theorem after_last (manager : Manager) (history : List Turn) (turn : Turn) :
    manager.after (history ++ [turn]) = ((manager.after history).perform turn).manager := by
  rw [after, List.foldl_append]
  rfl

structure Carries (manager : Manager) (findings : Findings) : Prop where
  cluster : manager.cluster = findings.cluster
  skipped : manager.skipped = findings.skipped
  nodes : ∀ name, (manager.nodes.lookup name).map Node.Snapshot.steady =
    (findings.snapshots.reverse.lookup name).map Node.Snapshot.steady

structure Tracks (trials : List Trial) (manager : Manager) : Prop where
  ascending : NameMap.Ascending manager.nodes
  named : manager.lastPass? = (trials.find? Trial.ended).map Trial.name
  shown : manager.phase = .ready → ∃ published findings, trials.find? Trial.succeeded = some published ∧
    published.outcome = .ok findings ∧ manager.Carries findings

theorem start_tracks (options : ProbeOptions) (parallelism : Nat) : Tracks [] (start options parallelism) where
  ascending := List.Pairwise.nil
  named := rfl
  shown ready := nomatch ready

theorem run_pass_tracks (trials : List Trial) (manager : Manager) (restore : Phase) (outside : Outside)
    (fits : restore = .ready ↔ manager.phase = .ready) (tracks : Tracks trials manager) :
    Tracks (⟨outside.passId, manager.passResult outside⟩ :: trials) (manager.runPass restore outside).manager := by
  cases result : manager.passResult outside with
  | ok findings =>
      rw [(run_pass_succeeded manager restore outside findings result).2, during_eq]
      refine ⟨?_, rfl, fun _ => ⟨_, findings, rfl, rfl, rfl, rfl, fun name => ?_⟩⟩
      · exact NameMap.retain_ascending _ _ (NameMap.insert_all_ascending _ _ tracks.ascending)
      · exact congrArg _ (NameMap.lookup_replace manager.nodes findings.snapshots name)
  | error stop =>
      cases stop with
      | unwound =>
          rw [run_pass_unwound manager restore outside result]
          refine ⟨?_, ?_, fun ready => ?_⟩
          · rw [during_eq]
            exact tracks.ascending
          · rw [during_eq]
            exact tracks.named
          · have same := during_ready manager restore ready
            rw [same] at ready ⊢
            exact tracks.shown ready
      | failed error =>
          rw [(run_pass_failed manager restore outside error result).2, during_eq]
          refine ⟨tracks.ascending, rfl, fun ready => ?_⟩
          obtain ⟨published, findings, found, outcome, carries⟩ := tracks.shown (fits.mp ready)
          exact ⟨published, findings, found, outcome, carries.cluster, carries.skipped, carries.nodes⟩

theorem set_heartbeat_tracks (trials : List Trial) (manager : Manager) (name : String) (snapshot : Node.Snapshot)
    (supported : Bool) (known : manager.nodes.lookup name = some snapshot) (tracks : Tracks trials manager) :
    Tracks trials (manager.setHeartbeat name snapshot supported) := by
  refine ⟨NameMap.insert_ascending _ name _ tracks.ascending, tracks.named, fun ready => ?_⟩
  obtain ⟨published, findings, found, outcome, carries⟩ := tracks.shown ready
  refine ⟨published, findings, found, outcome, carries.cluster, carries.skipped, fun other => ?_⟩
  rw [← carries.nodes other]
  by_cases same : other = name
  · subst same
    rw [setHeartbeat, NameMap.lookup_insert_self, known]
    rfl
  · rw [setHeartbeat, NameMap.lookup_insert_of_ne _ _ _ _ same]

theorem perform_tracks (trials : List Trial) (manager : Manager) (turn : Turn) (tracks : Tracks trials manager) :
    Tracks (manager.trialOf turn.outside (manager.perform turn).effects.observed ++ trials)
      (manager.perform turn).manager := by
  refine manager.perform_keeps turn _ (fun quiet => ?_) (fun restore fits observed => ?_) ?_ ?_
  · rw [quiet]
    exact tracks
  · rw [observed]
    exact run_pass_tracks trials manager restore turn.outside fits tracks
  · intro opened name snapshot supported _ _ known held
    exact set_heartbeat_tracks _ opened name snapshot supported known held
  · intro opened held
    exact ⟨List.Pairwise.nil, held.named, fun ready => nomatch ready⟩

theorem history_tracks (trials : List Trial) (manager : Manager) (history : List Turn)
    (tracks : Tracks trials manager) : Tracks (manager.trials history ++ trials) (manager.after history) := by
  induction history generalizing manager trials with
  | nil => exact tracks
  | cons turn rest ih =>
      have later := ih _ _ (perform_tracks trials manager turn tracks)
      rw [← List.append_assoc] at later
      exact later

theorem collect_ok (manager : Manager) (outside : Outside) (time : Timestamp) (report : ClusterReport)
    (answered : (ClusterReport.collect manager outside time).result = .ok report) :
    let after := (ClusterReport.collect manager outside time).manager
    after.phase = .ready ∧ report = ClusterReport.ofManager after after.cluster time := by
  intro after
  obtain ⟨cluster, read, put⟩ := Call.and_then_ok _ _ _ answered
  obtain ⟨opened, same⟩ := manager.gated_ok outside Manager.cluster cluster read
  have left : after = (manager.ensureReady manager.passes outside).manager := manager.collect_manager outside time
  have gate : (manager.capabilities outside).manager = after :=
    (manager.gated_manager outside Manager.cluster).trans left.symm
  rw [← left] at same
  rw [gate, same] at put
  refine ⟨?_, (Except.ok.inj put).symm⟩
  rw [left]
  exact manager.ensure_ready_opened manager.passes outside opened

theorem Carries.shows (manager : Manager) (findings : Findings) (time : Timestamp)
    (ascending : NameMap.Ascending manager.nodes) (carries : manager.Carries findings) :
    (ClusterReport.ofManager manager manager.cluster time).Shows findings := by
  have listed : ((ClusterReport.ofManager manager manager.cluster time).nodes.map
      fun node => (node.name, node.facts)) = manager.nodes := by
    rw [ClusterReport.ofManager, List.map_map]
    exact List.map_id manager.nodes
  refine ⟨carries.cluster, carries.skipped, ?_, fun name => ?_⟩
  · rw [listed]
    exact ascending
  · rw [listed]
    exact carries.nodes name

theorem collect_tracks (options : ProbeOptions) (parallelism : Nat) (history : List Turn) (outside : Outside)
    (time : Timestamp) (report : ClusterReport)
    (answered :
      (ClusterReport.collect ((start options parallelism).after history) outside time).result = .ok report) :
    let trials := (start options parallelism).trials (history ++ [⟨.report time, outside⟩])
    report.pass? = (trials.find? Trial.ended).map Trial.name ∧
      ∃ published findings, trials.find? Trial.succeeded = some published ∧ published.outcome = .ok findings ∧
        report.Shows findings := by
  intro trials
  have tracks := history_tracks [] _ (history ++ [⟨.report time, outside⟩]) (start_tracks options parallelism)
  rw [List.append_nil, after_last] at tracks
  obtain ⟨ready, told⟩ := collect_ok _ outside time report answered
  obtain ⟨published, findings, found, outcome, carries⟩ := tracks.shown ready
  rw [told]
  exact ⟨tracks.named, published, findings, found, outcome, carries.shows _ findings time tracks.ascending⟩

-- Where no two passes share a name, a report names the pass that it shows just if no later one has ended.
theorem report_names_last_ended_pass (options : ProbeOptions) (parallelism : Nat) (history : List Turn)
    (outside : Outside) (time : Timestamp) (report : ClusterReport)
    (answered :
      (ClusterReport.collect ((start options parallelism).after history) outside time).result = .ok report) :
    let trials := (start options parallelism).trials (history ++ [⟨.report time, outside⟩])
    ∃ later published findings earlier, trials = later ++ published :: earlier ∧
      published.outcome = .ok findings ∧ report.Shows findings ∧ (∀ trial ∈ later, trial.succeeded = false) ∧
      report.pass? = (trials.find? Trial.ended).map Trial.name ∧
      ((trials.map Trial.name).Nodup →
        (report.pass? = some published.name ↔ ∀ trial ∈ later, trial.ended = false)) := by
  intro trials
  obtain ⟨named, published, findings, found, outcome, shows⟩ :=
    collect_tracks options parallelism history outside time report answered
  obtain ⟨_, later, earlier, split, unsuccessful⟩ := List.find?_eq_some_iff_append.mp found
  refine ⟨later, published, findings, earlier, split, outcome, shows, ?_, named, fun fresh => ?_⟩
  · intro trial member
    simpa using unsuccessful trial member
  · have ended := published.ended_of_ok findings outcome
    rw [named]
    exact Trial.named_last_iff trials later earlier published split ended fresh

def passing (name : String) (nodes : Except TopologyError (List Descriptor)) : Outside :=
  { listing nodes with passId := ⟨name⟩ }

def crashingOutside (name : String) : Outside where
  topology := ⟨.ok [⟨"dn-0", .sql⟩], fun _ => .ok .crashing⟩
  deployment := ⟨false, false⟩
  passId := ⟨name⟩
  elapsed := 0

def crashedHistory : List Turn :=
  [⟨.refresh, passing "sc-20260115-143022-a7xq" (.error (.unavailable "no route"))⟩,
    ⟨.capabilities, passing "sc-20260115-143023-b2yr" (.ok [⟨"dn-0", .sql⟩])⟩,
    ⟨.refresh, crashingOutside "sc-20260115-143024-c3zs"⟩]

theorem report_names_pass_before_crash :
    let first := start ⟨false, false, "udf", "udf_functions"⟩ 1
    let manager := first.after crashedHistory
    let outside := crashingOutside "sc-20260115-143025-d4tu"
    let report := ClusterReport.ofManager manager manager.cluster Timestamp.epoch
    (ClusterReport.collect manager outside Timestamp.epoch).result = .ok report ∧
      ∃ crashed published findings failed,
        first.trials (crashedHistory ++ [⟨.report Timestamp.epoch, outside⟩]) = crashed :: published :: failed ∧
        published.outcome = .ok findings ∧ report.Shows findings ∧ report.pass? = some published.name := by
  intro first manager outside report
  have ready : manager.phase = .ready := rfl
  have answered : (ClusterReport.collect manager outside Timestamp.epoch).result = .ok report := by
    rw [collect_ready manager outside ready, Call.pure]
  obtain ⟨later, published, findings, earlier, split, outcome, shows, unsuccessful, _, told⟩ :=
    report_names_last_ended_pass ⟨false, false, "udf", "udf_functions"⟩ 1 crashedHistory outside Timestamp.epoch
      report answered
  have fresh : ((first.trials (crashedHistory ++ [⟨.report Timestamp.epoch, outside⟩])).map Trial.name).Nodup := by
    decide
  have endings : (later ++ published :: earlier).map (fun trial => (trial.succeeded, trial.ended)) =
      [(false, false), (true, true), (false, true)] := by
    rw [← split]
    rfl
  have succeeded := published.succeeded_of_ok findings outcome
  refine ⟨answered, ?_⟩
  cases later with
  | nil => simp [succeeded] at endings
  | cons crashed rest =>
      cases rest with
      | nil =>
          have quiet : ∀ trial ∈ [crashed], trial.ended = false := by
            intro trial member
            rw [List.mem_singleton] at member
            rw [member]
            exact (Prod.mk.inj (List.cons.inj endings).1).2
          exact ⟨crashed, published, findings, earlier, split, outcome, shows, (told fresh).mpr quiet⟩
      | cons second others =>
          have stopped := unsuccessful second (by simp)
          simp [stopped] at endings

theorem report_names_failed_refresh :
    let first := start ⟨false, false, "udf", "udf_functions"⟩ 1
    let found := passing "sc-20260115-143022-a7xq" (.ok [⟨"dn-0", .sql⟩])
    let lost := passing "sc-20260115-143023-b2yr" (.error (.unavailable "no route"))
    let history : List Turn := [⟨.capabilities, found⟩, ⟨.refresh, lost⟩]
    let manager := first.after history
    let report := ClusterReport.ofManager manager manager.cluster Timestamp.epoch
    (ClusterReport.collect manager lost Timestamp.epoch).result = .ok report ∧
      first.trials (history ++ [⟨.report Timestamp.epoch, lost⟩]) =
        [⟨lost.passId, .error (.failed (.topology (.unavailable "no route")))⟩,
          ⟨found.passId, first.passResult found⟩] ∧
      (∃ findings, first.passResult found = .ok findings ∧ report.Shows findings) ∧
      report.pass? = some lost.passId ∧ report.pass? ≠ some found.passId := by
  intro first found lost history manager report
  have ready : manager.phase = .ready := rfl
  have answered : (ClusterReport.collect manager lost Timestamp.epoch).result = .ok report := by
    rw [collect_ready manager lost ready, Call.pure]
  obtain ⟨_, published, findings, last, outcome, shows⟩ :=
    collect_tracks ⟨false, false, "udf", "udf_functions"⟩ 1 history lost Timestamp.epoch report answered
  have only : ⟨found.passId, first.passResult found⟩ = published := Option.some.inj last
  have passes : first.trials (history ++ [⟨.report Timestamp.epoch, lost⟩]) =
      [⟨lost.passId, .error (.failed (.topology (.unavailable "no route")))⟩,
        ⟨found.passId, first.passResult found⟩] := by rfl
  have named : report.pass? = some lost.passId := rfl
  have other : report.pass? ≠ some found.passId := by decide
  refine ⟨answered, passes, ⟨findings, ?_, shows⟩, named, other⟩
  rw [← outcome, ← only]

end Manager

end ClusterCaps
