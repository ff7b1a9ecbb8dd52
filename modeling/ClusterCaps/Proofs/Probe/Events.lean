import ClusterCaps.Pass.Run
import ClusterCaps.Log.Line

set_option autoImplicit false

namespace ClusterCaps

namespace Probing

variable {α β : Type} {good : Log.Event → Prop}

def Logs (good : Log.Event → Prop) (work : Probing α) : Prop :=
  ∀ connection, ∀ event ∈ (work.run connection).events, good event

theorem logs_done (value : α) : Logs good (done value) := fun _ _ logged => by cases logged

theorem logs_stop (error : ProbeError) : Logs good (stop error : Probing α) := fun _ _ logged => by cases logged

theorem logs_ask (route : Route) (statement : String) : Logs good (ask route statement) :=
  fun _ _ logged => by cases logged

theorem logs_log {event : Log.Event} (kind : good event) : Logs good (log event) := by
  intro connection other logged
  rw [List.mem_singleton.mp logged]
  exact kind

theorem logs_bind {work : Probing α} {next : α → Probing β} (first : Logs good work)
    (second : ∀ value, Logs good (next value)) : Logs good (work >>= next) := by
  intro connection event logged
  cases ran : work.run connection with
  | mk steps result =>
      cases result with
      | error error =>
          rw [run_bind_error work next connection steps error ran] at logged
          exact first connection event (by rw [ran]; exact logged)
      | ok value =>
          rw [run_bind_ok work next connection steps value ran, Outcome.events, List.filterMap_append,
            List.mem_append] at logged
          rcases logged with early | late
          · exact first connection event (by rw [ran]; exact early)
          · exact second value connection event late

theorem logs_require (probe : Probe) (route : Route) (statement : String) :
    Logs good (require probe route statement) := by
  refine logs_bind (logs_ask route statement) fun answer => ?_
  cases answer with
  | error cause => exact logs_stop _
  | ok rows => exact logs_done rows

end Probing

namespace Log

def OwnTarget (target : String) : Prop := Text.startsWith "sc_core" target = true

structure Event.Ours (event : Event) : Prop where
  target : OwnTarget event.target
  mild : event.level ≠ .error
  passless : textOf? event.fields "pass_id" = none

structure Event.Local (event : Event) : Prop extends event.Ours where
  nodeless : textOf? event.fields "node" = none

-- An event of a probe: if it has a name, it tells of something that the node does not let one know.
structure Event.OfProbe (event : Event) : Prop extends event.Local where
  kind : event.field? "event" = none ∨ event.field? "event" = some (.text "probe.negative")

end Log

open Probing

namespace Check

theorem log_target_own : Log.OwnTarget logTarget := by
  unfold Log.OwnTarget
  decide

theorem negative_of_probe (probe : Probe) (message : String) (fields : Log.Fields)
    (passless : Log.textOf? (fields ++ [("message", .text message)]) "pass_id" = none)
    (nodeless : Log.textOf? (fields ++ [("message", .text message)]) "node" = none) :
    (negative probe message fields).OfProbe where
  target := log_target_own
  mild := nofun
  passless := passless
  nodeless := nodeless
  kind := Or.inr rfl

theorem version_logs : Logs Log.Event.OfProbe version := by
  refine logs_bind (logs_require _ _ _) fun rows => ?_
  cases rows with
  | nil => exact logs_stop _
  | cons row rest =>
      dsimp only
      cases row.cell? 0 with
      | none => exact logs_stop _
      | some text => exact logs_done text

theorem variable_present_logs (probe : Probe) (setting : String) :
    Logs Log.Event.OfProbe (variablePresent probe setting) :=
  logs_bind (logs_require _ _ _) fun _ => logs_done _

theorem performance_schema_logs : Logs Log.Event.OfProbe performanceSchema :=
  logs_bind (logs_require _ _ _) fun _ => logs_done _

theorem open_ssl_logs : Logs Log.Event.OfProbe openSsl := logs_bind (logs_require _ _ _) fun _ => logs_done _

theorem lower_case_table_names_logs : Logs Log.Event.OfProbe lowerCaseTableNames := by
  refine logs_bind (logs_require _ _ _) fun rows => ?_
  cases rows with
  | nil => exact logs_stop _
  | cons row rest =>
      dsimp only
      cases row.cell? 0 with
      | none => exact logs_stop _
      | some text =>
          dsimp only
          cases Text.int32? (Text.trim text.toList) with
          | none => exact logs_stop _
          | some mode => exact logs_done mode

theorem mdl_privilege_logs : Logs Log.Event.OfProbe mdlPrivilege := by
  refine logs_bind (logs_ask _ _) fun answer => ?_
  cases answer with
  | ok rows => exact logs_done true
  | error cause => exact logs_bind (logs_log (negative_of_probe _ _ _ rfl rfl)) fun _ => logs_done false

theorem mdl_instrumentation_logs : Logs Log.Event.OfProbe mdlInstrumentation := by
  refine logs_bind (logs_ask _ _) fun answer => ?_
  cases answer with
  | ok rows => exact logs_done _
  | error cause => exact logs_bind (logs_log (negative_of_probe _ _ _ rfl rfl)) fun _ => logs_done false

theorem returning_logs (extendedProtocol : Bool) : Logs Log.Event.OfProbe (returning extendedProtocol) := by
  unfold returning
  cases extendedProtocol with
  | true => exact logs_bind (logs_log ⟨⟨⟨log_target_own, nofun, rfl⟩, rfl⟩, Or.inl rfl⟩) fun _ => logs_done false
  | false =>
      refine logs_bind (logs_ask _ _) fun answer => ?_
      cases answer with
      | ok rows => exact logs_done _
      | error cause =>
          dsimp only
          cases returningRefusal? cause with
          | none => exact logs_stop _
          | some message => exact logs_bind (logs_log (negative_of_probe _ _ _ rfl rfl)) fun _ => logs_done false

end Check

namespace Udf

theorem log_target_own : Log.OwnTarget logTarget := by
  unfold Log.OwnTarget
  decide

theorem negative_of_probe (message : String) (fields : Log.Fields)
    (passless : Log.textOf? (fields ++ [("message", .text message)]) "pass_id" = none)
    (nodeless : Log.textOf? (fields ++ [("message", .text message)]) "node" = none) :
    (negative message fields).OfProbe where
  target := log_target_own
  mild := nofun
  passless := passless
  nodeless := nodeless
  kind := Or.inr rfl

theorem with_functions_logs (setting : String) (major minor : Int32) (status : String) :
    Logs Log.Event.OfProbe (withFunctions setting major minor status) := by
  refine logs_bind (logs_ask _ _) fun answer => ?_
  cases answer with
  | error cause => exact logs_bind (logs_log (negative_of_probe _ _ rfl rfl)) fun _ => logs_done _
  | ok rows => cases rows <;> exact logs_done _

theorem resolve_logs (plugin setting : String) : Logs Log.Event.OfProbe (resolve plugin setting) := by
  refine logs_bind (logs_ask _ _) fun answer => ?_
  cases answer with
  | error cause => exact logs_bind (logs_log (negative_of_probe _ _ rfl rfl)) fun _ => logs_done _
  | ok rows =>
      cases rows with
      | nil => exact logs_done _
      | cons row rest =>
          dsimp only
          cases (row.cell? 0).bind version? with
          | none => exact logs_bind (logs_log (negative_of_probe _ _ rfl rfl)) fun _ => logs_done _
          | some parts => exact with_functions_logs _ _ _ _

end Udf

theorem Node.Snapshot.log_target_own : Log.OwnTarget Node.Snapshot.logTarget := by
  unfold Log.OwnTarget
  decide

theorem Node.Snapshot.probe_logs (options : ProbeOptions) : Logs Log.Event.OfProbe (probe options) := by
  unfold probe
  split
  · exact logs_done _
  · refine logs_bind Check.version_logs fun version => ?_
    refine logs_bind (Check.variable_present_logs _ _) fun globalTimestamp => ?_
    refine logs_bind (Check.variable_present_logs _ _) fun heartbeat => ?_
    refine logs_bind Check.performance_schema_logs fun performanceSchema => ?_
    refine logs_bind (Check.variable_present_logs _ _) fun onXEngine => ?_
    refine logs_bind (Udf.resolve_logs _ _) fun udf => ?_
    refine logs_bind (Check.returning_logs _) fun returning => ?_
    refine logs_bind (Check.variable_present_logs _ _) fun commitTimestampTx => ?_
    refine logs_bind Check.lower_case_table_names_logs fun lowerCaseMode => ?_
    refine logs_bind (Check.variable_present_logs _ _) fun sharedReadView => ?_
    refine logs_bind Check.mdl_privilege_logs fun mdlPrivilege => ?_
    refine logs_bind Check.mdl_instrumentation_logs fun mdlInstrumentation => ?_
    refine logs_bind Check.open_ssl_logs fun openSsl => ?_
    exact logs_bind (logs_log ⟨⟨⟨Node.Snapshot.log_target_own, nofun, rfl⟩, rfl⟩, Or.inl rfl⟩) fun _ => logs_done _

theorem Visit.log_target_own : Log.OwnTarget Visit.logTarget := by
  unfold Log.OwnTarget
  decide

def Visit.Told (visit : Visit) : Prop :=
  ∃ probes, visit.events = probes ++ (visit.snapshot?.map Visit.probed).toList ∧ ∀ event ∈ probes, event.OfProbe

theorem Visit.of_outcome_told (node : String) (outcome : Outcome Node.Snapshot)
    (kind : ∀ event ∈ outcome.events, event.OfProbe) : (Visit.ofOutcome node outcome).Told := by
  refine ⟨outcome.events, ?_, kind⟩
  unfold Visit.ofOutcome
  split
  · exact List.filterMap_append ..
  · exact (List.append_nil _).symm

theorem Visit.of_told (topology : Topology) (options : ProbeOptions) (node : String) :
    (Visit.of topology options node).Told := by
  have silent (visit : Visit) (still : visit.steps = []) (lost : visit.snapshot? = none) : visit.Told :=
    ⟨[], by rw [Visit.events, still, lost]; rfl, List.forall_mem_nil _⟩
  unfold Visit.of
  split
  · exact silent _ rfl rfl
  · exact of_outcome_told node _ (Node.Snapshot.probe_logs options _)
  · split
    · exact of_outcome_told node _ (List.forall_mem_nil _)
    · exact silent _ rfl rfl

theorem Visit.events_local (topology : Topology) (options : ProbeOptions) (node : String) :
    ∀ event ∈ (Visit.of topology options node).events, event.Local := by
  intro event logged
  obtain ⟨probes, events, kind⟩ := Visit.of_told topology options node
  rw [events, List.mem_append] at logged
  rcases logged with early | last
  · exact (kind event early).toLocal
  · obtain ⟨snapshot, -, rfl⟩ := Option.map_eq_some_iff.mp (Option.mem_toList.mp last)
    exact ⟨⟨Visit.log_target_own, nofun, rfl⟩, rfl⟩

end ClusterCaps
