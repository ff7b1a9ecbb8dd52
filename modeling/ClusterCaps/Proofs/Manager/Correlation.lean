import Mathlib.Data.List.Forall2
import ClusterCaps.Log.Filter
import ClusterCaps.Proofs.Pass.Occurrences
import ClusterCaps.Proofs.Pass.Sequential
import ClusterCaps.Proofs.Probe.Events
import ClusterCaps.Proofs.Text.Scan

set_option autoImplicit false

namespace ClusterCaps

theorem Log.Threshold.only_warnings (threshold : Threshold) (level : Level)
    (closed : threshold.admits .info = false) (admitted : threshold.admits level = true) (mild : level ≠ .error) :
    threshold = .upTo .warn ∧ level = .warn := by
  revert closed admitted mild
  cases threshold with
  | off => cases level <;> decide
  | upTo limit => cases limit <;> cases level <;> decide

namespace Log.Filter

variable (threshold : Threshold)

theorem threshold_admits (target : String) (level : Level) (own : OwnTarget target) :
    admitsTarget (ofThreshold threshold) target level = threshold.admits level := by
  have other : Text.startsWith "sc_config" target = false := by
    rw [Bool.eq_false_iff]
    intro both
    have nested := List.prefix_of_prefix_length_le ((Text.starts_with_iff _ _).mp own)
      ((Text.starts_with_iff _ _).mp both) (by decide)
    exact absurd nested (by decide)
  unfold OwnTarget at own
  simp [admitsTarget, ofThreshold, own, other, moreSpecific]

-- Settings name no spans, so that a span is there just as an event of its level would be.
theorem threshold_opens (span : Span) (level : Level) : opens (ofThreshold threshold) span level = false := rfl

theorem threshold_spans (around spans : List Span) (own : ∀ span ∈ spans, OwnTarget span.target)
    (informing : ∀ span ∈ spans, span.level = .info) :
    admittedSpans (ofThreshold threshold) around spans =
      around ++ if threshold.admits .info then spans else [] := by
  induction spans generalizing around with
  | nil => simp [admittedSpans]
  | cons span inner ih =>
      have admitted : admitsSpan (ofThreshold threshold) around span = threshold.admits .info := by
        have around_closed : around.any (opens (ofThreshold threshold) · span.level) = false :=
          List.any_eq_false.mpr fun outer _ => by simp [threshold_opens]
        rw [admitsSpan, around_closed, threshold_admits threshold _ _ (own span List.mem_cons_self),
          informing span List.mem_cons_self]
        rfl
      have later := fun around => ih around (fun span member => own span (List.mem_cons_of_mem _ member))
        fun span member => informing span (List.mem_cons_of_mem _ member)
      rw [admittedSpans, admitted]
      split
      · next on => rw [later, if_pos on, List.append_assoc, List.singleton_append]
      · next off => rw [later, if_neg off]

theorem threshold_line (time : Timestamp) (emission : Emission) (own : OwnTarget emission.event.target)
    (spansOwn : ∀ span ∈ emission.spans, OwnTarget span.target)
    (informing : ∀ span ∈ emission.spans, span.level = .info) :
    (ofThreshold threshold).line? time emission =
      if threshold.admits emission.event.level then
        some (Line.ofEvent time (if threshold.admits .info then emission.spans else []) emission.event)
      else none := by
  have closed : ∀ spans : List Span, spans.any (opens (ofThreshold threshold) · emission.event.level) = false :=
    fun spans => List.any_eq_false.mpr fun span _ => by simp [threshold_opens]
  simp only [line?, closed, Bool.false_or, threshold_admits threshold _ _ own,
    threshold_spans threshold [] emission.spans spansOwn informing, List.nil_append]

end Log.Filter

namespace Pass

theorem visits_visited (topology : Topology) (options : ProbeOptions) (parallelism : Nat) (deployment : Deployment)
    (visit : Visit) (member : visit ∈ (run topology options parallelism deployment).visits) :
    ∃ name, visit = Visit.of topology options name := by
  unfold run at member
  split at member
  · cases member
  · next nodes _ =>
      have visited := (of_descriptors_visits _ parallelism deployment nodes).subset member
      obtain ⟨node, _, rfl⟩ := List.mem_map.mp visited
      exact ⟨node.name, rfl⟩

theorem occurrences_ours (topology : Topology) (options : ProbeOptions) (parallelism : Nat) (deployment : Deployment)
    (occurrence : Occurrence)
    (member : occurrence ∈ (run topology options parallelism deployment).occurrences topology) :
    occurrence.event.Ours ∧ ∀ node, occurrence.node? = some node → occurrence.event.Local := by
  rw [occurrences, List.mem_append, List.mem_append] at member
  rcases member with (skipped | visited) | folded
  · obtain ⟨event, listed, rfl⟩ := List.mem_map.mp skipped
    unfold skips at listed
    split at listed
    · cases listed
    · obtain ⟨node, _, rfl⟩ := List.mem_map.mp listed
      exact ⟨⟨Visit.log_target_own, nofun, rfl⟩, nofun⟩
  · obtain ⟨visit, listed, inside⟩ := List.mem_flatMap.mp visited
    obtain ⟨event, logged, rfl⟩ := List.mem_map.mp inside
    obtain ⟨name, rfl⟩ := visits_visited topology options parallelism deployment visit listed
    have unnamed := Visit.events_local topology options name event logged
    exact ⟨unnamed.toOurs, fun _ _ => unnamed⟩
  · obtain ⟨event, listed, rfl⟩ := List.mem_map.mp folded
    unfold folds at listed
    split at listed
    · cases listed
    · rw [List.mem_singleton.mp listed]
      exact ⟨⟨Visit.log_target_own, nofun, rfl⟩, nofun⟩

end Pass

namespace Manager

theorem log_target_own : Log.OwnTarget logTarget := by
  unfold Log.OwnTarget
  decide

theorem occurrences_ours (manager : Manager) (outside : Outside) (occurrence : Occurrence)
    (member : occurrence ∈ manager.occurrences outside) :
    occurrence.event.Ours ∧ ∀ node, occurrence.node? = some node → occurrence.event.Local := by
  rw [occurrences, List.cons_append, List.mem_cons, List.mem_append] at member
  rcases member with rfl | inside | closing
  · exact ⟨⟨log_target_own, nofun, rfl⟩, nofun⟩
  · exact Pass.occurrences_ours _ _ _ _ occurrence inside
  · obtain ⟨event, listed, rfl⟩ := List.mem_map.mp closing
    unfold closes at listed
    split at listed
    · cases listed
    · rw [List.mem_singleton.mp listed]
      exact ⟨⟨log_target_own, nofun, rfl⟩, nofun⟩
    · rw [List.mem_singleton.mp listed]
      exact ⟨⟨log_target_own, nofun, rfl⟩, nofun⟩

structure Traces (threshold : Log.Threshold) (id : PassId) (occurrence : Occurrence) (line : Log.Line) : Prop where
  level : line.level = occurrence.event.level
  name : line.name = (Log.textOf? occurrence.event.fields "event").getD occurrence.event.target
  message : line.message = (Log.textOf? occurrence.event.fields "message").getD ""
  fields : line.fields = Log.ordinaryFields occurrence.event.fields
  pass : line.pass? = if threshold.admits .info then some id.text else none
  node : ∀ node, occurrence.node? = some node → line.node? = if threshold.admits .info then some node else none

theorem occurrence_traced (threshold : Log.Threshold) (id : PassId) (time : Timestamp) (occurrence : Occurrence)
    (ours : occurrence.event.Ours) (visiting : ∀ node, occurrence.node? = some node → occurrence.event.Local) :
    Traces threshold id occurrence
      (Log.Line.ofEvent time (if threshold.admits .info then passSpan id :: occurrence.spans else [])
        occurrence.event) where
  level := rfl
  name := rfl
  message := rfl
  fields := rfl
  pass := by
    simp only [Log.Line.ofEvent, Log.correlated?, ours.passless]
    split
    · cases node : occurrence.node? <;> simp only [Occurrence.spans, node] <;> rfl
    · rfl
  node := by
    intro node visited
    simp only [Log.Line.ofEvent, Log.correlated?, (visiting node visited).nodeless]
    split
    · simp only [Occurrence.spans, visited]
      rfl
    · rfl

theorem lines_of_occurrences {occurrences : List Occurrence} {emissions : List Emission}
    {admits : Occurrence → Bool} {read : Emission → Option Log.Line} {related : Occurrence → Emission → Prop}
    {traces : Occurrence → Log.Line → Prop} (placed : List.Forall₂ related occurrences emissions)
    (read_admitted : ∀ occurrence ∈ occurrences, ∀ emission, related occurrence emission →
      if admits occurrence then ∃ line, read emission = some line ∧ traces occurrence line
      else read emission = none) :
    List.Forall₂ traces (occurrences.filter admits) (emissions.filterMap read) := by
  induction placed with
  | nil => exact .nil
  | @cons occurrence emission occurrences emissions here _ ih =>
      have later := ih fun other member => read_admitted other (List.mem_cons_of_mem _ member)
      have first := read_admitted occurrence List.mem_cons_self emission here
      rw [List.filter_cons, List.filterMap_cons]
      split at first
      · next admitted =>
          obtain ⟨line, written, traced⟩ := first
          rw [if_pos admitted, written]
          exact .cons traced later
      · next dropped =>
          rw [if_neg dropped, first]
          exact later

theorem traced_occurrence {traces : Occurrence → Log.Line → Prop} {occurrences : List Occurrence}
    {lines : List Log.Line} (traced : List.Forall₂ traces occurrences lines) (line : Log.Line) (member : line ∈ lines) :
    ∃ occurrence ∈ occurrences, traces occurrence line := by
  induction traced with
  | nil => cases member
  | @cons occurrence first occurrences lines here _ ih =>
      rcases List.mem_cons.mp member with rfl | later
      · exact ⟨occurrence, List.mem_cons_self, here⟩
      · obtain ⟨other, listed, tells⟩ := ih later
        exact ⟨other, List.mem_cons_of_mem _ listed, tells⟩

-- Below the info level the spans of a pass are not there, and what is still logged of it are warnings
-- that can be traced to neither pass nor node.
theorem lines_traced_from_info_on (manager : Manager) (restore : Phase) (outside : Outside)
    (environment : Environment) (settings : Log.Settings) (time : Timestamp)
    (unset : environment.get? Log.Settings.filterVariable = none) :
    let filter := Log.Filter.ofSettings environment settings
    let lines := (manager.runPass restore outside).effects.emissions.filterMap (filter.line? time)
    let admitted := (manager.occurrences outside).filter fun occurrence =>
      settings.threshold.admits occurrence.event.level
    List.Forall₂ (Traces settings.threshold outside.passId) admitted lines ∧
      (settings.threshold.admits .info = false →
        ∀ line ∈ lines, settings.threshold = .upTo .warn ∧ line.level = .warn) := by
  intro filter lines admitted
  have filterEq : filter = Log.Filter.ofThreshold settings.threshold := by
    simp only [filter, Log.Filter.ofSettings, unset, Option.bind_none]
  have placed : List.Forall₂ (fun occurrence (emission : Emission) =>
      emission.placed = (passSpan outside.passId :: occurrence.spans, occurrence.event))
      (manager.occurrences outside) (manager.runPass restore outside).effects.emissions := by
    have same := manager.run_pass_placed restore outside
    rw [← List.forall₂_eq_eq_eq, List.forall₂_map_left_iff, List.forall₂_map_right_iff] at same
    exact same.flip
  have traced : List.Forall₂ (Traces settings.threshold outside.passId) admitted lines := by
    refine lines_of_occurrences placed fun occurrence member emission place => ?_
    obtain ⟨ours, visiting⟩ := manager.occurrences_ours outside occurrence member
    obtain ⟨spans, event⟩ := Prod.ext_iff.mp place
    change emission.spans = _ at spans
    change emission.event = _ at event
    have enclosing : ∀ span ∈ emission.spans, Log.OwnTarget span.target ∧ span.level = .info := by
      intro span inside
      rw [spans, List.mem_cons] at inside
      rcases inside with rfl | visited
      · exact ⟨log_target_own, rfl⟩
      · obtain ⟨node, _, rfl⟩ := Option.map_eq_some_iff.mp (Option.mem_toList.mp visited)
        exact ⟨Visit.log_target_own, rfl⟩
    rw [filterEq, Log.Filter.threshold_line _ _ _ (event ▸ ours.target) (fun span inside => (enclosing span inside).1)
      (fun span inside => (enclosing span inside).2), event, spans]
    split
    · exact ⟨_, rfl, occurrence_traced settings.threshold outside.passId time occurrence ours visiting⟩
    · rfl
  refine ⟨traced, fun closed line member => ?_⟩
  obtain ⟨occurrence, listed, tells⟩ := traced_occurrence traced line member
  obtain ⟨inside, logged⟩ := List.mem_filter.mp listed
  have mild := (manager.occurrences_ours outside occurrence inside).1.mild
  rw [tells.level]
  exact Log.Threshold.only_warnings _ _ closed logged mild

-- One node, which answers but says NULL wherever it can. That will not do for the version of an extension.
def taciturnOutside : Outside where
  topology :=
    { nodes := .ok [⟨"dn-0", .sql⟩]
      connect _ := .ok (.answering fun route _ =>
        match route with
        | .master => .ok [Row.ofTexts ["1"]]
        | .any => .ok [⟨[none]⟩]) }
  deployment := ⟨false, false⟩
  passId := ⟨"sc-19700101-000000-0000"⟩
  elapsed := 0

theorem lines_traced_of_taciturn_node :
    let settings : Log.Settings := { form := .jsonLines, threshold := .upTo .info }
    let filter := Log.Filter.ofSettings [] settings
    let call := (ofConfig Config.standard).runPass .uninitialized taciturnOutside
    Environment.get? [] Log.Settings.filterVariable = none ∧
      ∃ first warning last, call.effects.emissions.filterMap (filter.line? Timestamp.epoch) = [first, warning, last] ∧
        (∀ line ∈ [first, warning, last], line.pass? = some taciturnOutside.passId.text) ∧
        warning.name = "probe.negative" ∧ warning.node? = some "dn-0" := by
  intro settings filter call
  obtain ⟨traced, -⟩ := lines_traced_from_info_on (ofConfig Config.standard) .uninitialized taciturnOutside []
    settings Timestamp.epoch rfl
  have admitted : ((ofConfig Config.standard).occurrences taciturnOutside).filter (fun occurrence =>
      settings.threshold.admits occurrence.event.level) =
        [.own (startedEvent ⟨false, false⟩), ⟨some "dn-0", Udf.unreadableVersion Config.defaultPlugin none⟩,
          .own (finishedEvent 1 0)] := rfl
  rw [admitted] at traced
  refine ⟨rfl, ?_⟩
  generalize List.filterMap (filter.line? Timestamp.epoch) call.effects.emissions = lines at traced ⊢
  cases traced with
  | cons begun rest =>
    cases rest with
    | cons warned rest =>
      cases rest with
      | cons finished rest =>
        cases rest
        refine ⟨_, _, _, rfl, ?_, warned.name, warned.node "dn-0" rfl⟩
        simp only [List.mem_cons, List.not_mem_nil, or_false]
        rintro line (rfl | rfl | rfl)
        · exact begun.pass
        · exact warned.pass
        · exact finished.pass

theorem default_warning_untraced :
    let settings : Log.Settings := { form := .jsonLines }
    let filter := Log.Filter.ofSettings [] settings
    let manager := ofConfig Config.standard
    ((manager.occurrences taciturnOutside).filter fun occurrence =>
        settings.threshold.admits occurrence.event.level) =
      [⟨some "dn-0", Udf.unreadableVersion Config.defaultPlugin none⟩] ∧
    ((manager.runPass .uninitialized taciturnOutside).effects.emissions.filterMap
        (filter.line? Timestamp.epoch)).map (fun line => (line.name, line.pass?, line.node?)) =
      [("probe.negative", none, none)] :=
  ⟨rfl, rfl⟩

end Manager

end ClusterCaps
