import ClusterCaps.Manager.Call
import ClusterCaps.Proofs.Policy.Fold

set_option autoImplicit false

namespace ClusterCaps

structure Occurrence where
  node? : Option String
  event : Log.Event
deriving DecidableEq, Repr

namespace Occurrence

def own (event : Log.Event) : Occurrence := ⟨none, event⟩

def spans (occurrence : Occurrence) : List Log.Span := (occurrence.node?.map Visit.span).toList

def placed (occurrence : Occurrence) : List Log.Span × Log.Event := (occurrence.spans, occurrence.event)

end Occurrence

def Emission.placed (emission : Emission) : List Log.Span × Log.Event := (emission.spans, emission.event)

def Visit.occurrences (visit : Visit) : List Occurrence :=
  visit.events.map fun event => ⟨some visit.node, event⟩

theorem Emission.of_visit_placed (onCaller : Bool) (visit : Visit) :
    (Emission.ofVisit onCaller visit).map Emission.placed = visit.occurrences.map Occurrence.placed := by
  rw [Emission.ofVisit, Visit.occurrences, List.map_map, List.map_map]
  rfl

theorem Fold.of_nodes_count (snapshots : List Node.Snapshot) : (Fold.ofNodes snapshots).nodes = snapshots.length := by
  induction snapshots with
  | nil => rfl
  | cons snapshot rest ih =>
      rw [of_nodes_cons]
      change 1 + (ofNodes rest).nodes = _
      rw [ih, List.length_cons, Nat.add_comm]

namespace Pass

def skips (topology : Topology) : List Log.Event :=
  match topology.nodes with
  | .error _ => []
  | .ok nodes => (nodes.filter fun node => !node.isSql).map skippedEvent

def folds (pass : Pass) : List Log.Event :=
  match pass.result with
  | .error _ => []
  | .ok findings => [foldedEvent findings.snapshots.length findings.skipped.length]

def occurrences (topology : Topology) (pass : Pass) : List Occurrence :=
  (skips topology).map Occurrence.own ++ pass.visits.flatMap Visit.occurrences ++ pass.folds.map Occurrence.own

theorem direct_placed (events : List Log.Event) :
    (events.map Emission.direct).map Emission.placed = (events.map Occurrence.own).map Occurrence.placed := by
  rw [List.map_map, List.map_map]
  rfl

theorem survey_placed (visit : String → Visit) (fold : Fold) (found : List (String × Node.Snapshot))
    (groups : List (List Descriptor)) :
    (survey visit fold found groups).emissions.map Emission.placed =
      ((survey visit fold found groups).visits.flatMap Visit.occurrences).map Occurrence.placed := by
  have group_placed : ∀ (onCaller : Bool) (visits : List Visit),
      (visits.flatMap (Emission.ofVisit onCaller)).map Emission.placed =
        (visits.flatMap Visit.occurrences).map Occurrence.placed := by
    intro onCaller visits
    simp only [List.map_flatMap, Emission.of_visit_placed]
  induction groups generalizing fold found with
  | nil => rfl
  | cons group rest ih =>
      rw [survey]
      cases settled (group.map fun node => visit node.name) with
      | error stop => exact group_placed _ _
      | ok snapshots => simp only [List.map_append, group_placed, ih, List.flatMap_append]

theorem survey_counts (visit : String → Visit) (fold last : Fold) (found entries : List (String × Node.Snapshot))
    (groups : List (List Descriptor)) (counted : fold.nodes = found.length)
    (ended : (survey visit fold found groups).result = .ok (last, entries)) : last.nodes = entries.length := by
  induction groups generalizing fold found with
  | nil =>
      cases ended
      exact counted
  | cons group rest ih =>
      rw [survey] at ended
      cases here : settled (group.map fun node => visit node.name) with
      | error stop =>
          rw [here] at ended
          cases ended
      | ok snapshots =>
          rw [here] at ended
          refine ih _ _ ?_ ended
          change fold.nodes + (Fold.ofNodes _).nodes = _
          rw [Fold.of_nodes_count, counted, List.length_map, List.length_append]

theorem run_placed (topology : Topology) (options : ProbeOptions) (parallelism : Nat) (deployment : Deployment) :
    let pass := run topology options parallelism deployment
    pass.emissions.map Emission.placed = (pass.occurrences topology).map Occurrence.placed := by
  unfold run occurrences skips
  cases listed : topology.nodes with
  | error cause => rfl
  | ok nodes =>
      unfold ofDescriptors
      dsimp only [after]
      rw [List.map_append, List.map_append, ← direct_placed, List.map_map]
      split
      · simp only [folds, List.map_append, List.map_map, survey_placed, List.map_nil, List.append_nil]
        rfl
      · next fold found ended =>
          have counted := survey_counts _ _ _ _ _ _ rfl ended
          simp only [folds, List.map_append, List.map_map, survey_placed, counted, List.length_map]
          rfl

end Pass

namespace Manager

def closes (manager : Manager) (outside : Outside) : List Log.Event :=
  match (Pass.run outside.topology manager.options manager.parallelism outside.deployment).result with
  | .error .unwound => []
  | .error (.failed error) => [failedEvent error outside.elapsed]
  | .ok findings => [finishedEvent (manager.publish findings).nodes.length outside.elapsed]

def occurrences (manager : Manager) (outside : Outside) : List Occurrence :=
  let pass := Pass.run outside.topology manager.options manager.parallelism outside.deployment
  Occurrence.own (startedEvent outside.deployment) :: pass.occurrences outside.topology ++
    (manager.closes outside).map Occurrence.own

theorem run_pass_placed (manager : Manager) (restore : Phase) (outside : Outside) :
    (manager.runPass restore outside).effects.emissions.map Emission.placed =
      (manager.occurrences outside).map fun occurrence =>
        (passSpan outside.passId :: occurrence.spans, occurrence.event) := by
  have within : ∀ emissions : List Emission, ∀ occurrences : List Occurrence,
      emissions.map Emission.placed = occurrences.map Occurrence.placed →
        (emissions.map (Emission.within (passSpan outside.passId))).map Emission.placed =
          occurrences.map fun occurrence => (passSpan outside.passId :: occurrence.spans, occurrence.event) := by
    intro emissions occurrences same
    have enclosed := congrArg (List.map fun (place : List Log.Span × Log.Event) =>
      (passSpan outside.passId :: place.1, place.2)) same
    rw [List.map_map, List.map_map] at enclosed
    rw [List.map_map]
    exact enclosed
  have inner := Pass.run_placed outside.topology manager.options manager.parallelism outside.deployment
  dsimp only at inner
  have nodes : ∀ findings, ((manager.during restore).publish findings).nodes = (manager.publish findings).nodes := by
    intro findings
    unfold during
    split <;> rfl
  unfold runPass occurrences closes
  dsimp only
  cases (Pass.run outside.topology manager.options manager.parallelism outside.deployment).result with
  | error stop =>
      cases stop with
      | unwound =>
          refine within _ _ ?_
          simp only [List.map_append, List.map_cons, inner]
          rfl
      | failed error =>
          refine within _ _ ?_
          simp only [List.map_append, List.map_cons, inner]
          rfl
  | ok findings =>
      refine within _ _ ?_
      simp only [List.map_append, List.map_cons, inner, afterSuccess, nodes]
      rfl

end Manager

end ClusterCaps
