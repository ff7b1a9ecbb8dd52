import ClusterCaps.Proofs.Manager.History
import ClusterCaps.Proofs.Pass.Occurrences
import ClusterCaps.Proofs.Probe.Events

set_option autoImplicit false

namespace ClusterCaps

def Log.Event.isNamed (event : Event) : Bool := (event.field? "event").isSome

namespace Occurrence

def isNamed (occurrence : Occurrence) : Bool := occurrence.event.isNamed

structure Is (occurrence : Occurrence) (node? : Option String) (name : String) : Prop where
  visiting : occurrence.node? = node?
  name : occurrence.event.field? "event" = some (.text name)

structure Skips (occurrence : Occurrence) (node : String) : Prop extends occurrence.Is none "node.skipped" where
  skipped : occurrence.event.field? "node" = some (.text node)

structure Folds (occurrence : Occurrence) (nodes skipped : Nat) : Prop
    extends occurrence.Is none "cluster.folded" where
  nodes : occurrence.event.field? "nodes" = some (.int nodes)
  skipped : occurrence.event.field? "skipped" = some (.int skipped)

structure Finishes (occurrence : Occurrence) (nodes : Nat) : Prop extends occurrence.Is none "pass.finished" where
  nodes : occurrence.event.field? "nodes" = some (.int nodes)

structure Fails (occurrence : Occurrence) (error : PassError) : Prop extends occurrence.Is none "pass.failed" where
  error : occurrence.event.field? "error" = some (.text error.text)

end Occurrence

-- What is said of some nodes that are visited in turn, up to the first failure. What a node does not let
-- one know is said before the node is called probed, or before all is over.
inductive Visited (visit : String → Visit) : List String → Option PassError → List Occurrence → Prop where
  | done : Visited visit [] none []
  | probed (node : String) (rest : List String) (failure? : Option PassError) (snapshot : Node.Snapshot)
      (negatives later : List Occurrence) (marker : Occurrence) (found : (visit node).ending = .found snapshot)
      (told : ∀ negative ∈ negatives, negative.Is (some node) "probe.negative")
      (marked : marker.Is (some node) "node.probed") (after : Visited visit rest failure? later) :
      Visited visit (node :: rest) failure? (negatives ++ marker :: later)
  | failed (node : String) (rest : List String) (error : PassError) (negatives : List Occurrence)
      (failed : (visit node).ending = .failed error)
      (told : ∀ negative ∈ negatives, negative.Is (some node) "probe.negative") :
      Visited visit (node :: rest) (some error) negatives

def Topology.sqlNames (nodes : List Descriptor) : List String := (nodes.filter Descriptor.isSql).map Descriptor.name

def Topology.otherNames (nodes : List Descriptor) : List String :=
  (nodes.filter fun node => !node.isSql).map Descriptor.name

inductive Chronicle (topology : Topology) (visit : String → Visit) :
    Option PassError → List Occurrence → Prop where
  | undiscovered (cause : TopologyError) (started ended : Occurrence) (unlisted : topology.nodes = .error cause)
      (begins : started.Is none "pass.started") (fails : ended.Fails (.topology cause)) :
      Chronicle topology visit (some (.topology cause)) [started, ended]
  | failed (nodes : List Descriptor) (error : PassError) (started ended : Occurrence) (skips visits : List Occurrence)
      (listed : topology.nodes = .ok nodes) (begins : started.Is none "pass.started")
      (skipped : List.Forall₂ Occurrence.Skips skips (Topology.otherNames nodes))
      (visited : Visited visit (Topology.sqlNames nodes) (some error) visits) (fails : ended.Fails error) :
      Chronicle topology visit (some error) (started :: skips ++ visits ++ [ended])
  | finished (nodes : List Descriptor) (started folded ended : Occurrence) (skips visits : List Occurrence)
      (listed : topology.nodes = .ok nodes) (begins : started.Is none "pass.started")
      (skipped : List.Forall₂ Occurrence.Skips skips (Topology.otherNames nodes))
      (visited : Visited visit (Topology.sqlNames nodes) none visits)
      (folds : folded.Folds (Topology.sqlNames nodes).length (Topology.otherNames nodes).length)
      (finishes : ended.Finishes (Topology.sqlNames nodes).dedup.length) :
      Chronicle topology visit none (started :: skips ++ visits ++ [folded, ended])

theorem Visited.names {visit : String → Visit} {nodes : List String} {failure? : Option PassError}
    {log : List Occurrence} (visited : Visited visit nodes failure? log) :
    ∀ occurrence ∈ log, ∃ node,
      occurrence.Is (some node) "probe.negative" ∨ occurrence.Is (some node) "node.probed" := by
  induction visited with
  | done => exact List.forall_mem_nil _
  | probed node rest failure? snapshot negatives later marker found told marked after ih =>
      intro occurrence member
      rcases List.mem_append.mp member with early | last
      · exact ⟨node, Or.inl (told occurrence early)⟩
      · rcases List.mem_cons.mp last with rfl | behind
        · exact ⟨node, Or.inr marked⟩
        · exact ih occurrence behind
  | failed node rest error negatives failed told =>
      exact fun occurrence member => ⟨node, Or.inl (told occurrence member)⟩

theorem Visit.occurrences_named (visit : Visit) (told : visit.Told) :
    ∃ negatives, (∀ negative ∈ negatives, negative.Is (some visit.node) "probe.negative") ∧
      visit.occurrences.filter Occurrence.isNamed =
        negatives ++ (visit.snapshot?.map fun snapshot => ⟨some visit.node, Visit.probed snapshot⟩).toList := by
  obtain ⟨probes, events, kind⟩ := told
  refine ⟨(probes.map fun event => ⟨some visit.node, event⟩).filter Occurrence.isNamed, ?_, ?_⟩
  · intro negative member
    obtain ⟨listed, isNamed⟩ := List.mem_filter.mp member
    obtain ⟨event, inProbes, rfl⟩ := List.mem_map.mp listed
    rcases (kind event inProbes).kind with unnamed | name
    · simp [Occurrence.isNamed, Log.Event.isNamed, unnamed] at isNamed
    · exact ⟨rfl, name⟩
  · rw [Visit.occurrences, events, List.map_append, List.filter_append]
    cases visit.snapshot? <;> rfl

namespace Pass

theorem chunks_singles {α : Type} (size steps : Nat) (items : List α) (single : size ≤ 1)
    (enough : items.length ≤ steps) : chunks size steps items = items.map ([·]) := by
  induction steps generalizing items with
  | zero =>
      rw [List.eq_nil_of_length_eq_zero (Nat.le_zero.mp enough)]
      rfl
  | succ steps ih =>
      cases items with
      | nil => rfl
      | cons item rest =>
          rw [chunks, Nat.max_eq_left single, List.map_cons]
          exact congrArg ([item] :: ·) (ih rest (Nat.le_of_succ_le_succ enough))

def Ends {α : Type} (failure? : Option PassError) (result : Except Stop α) : Prop :=
  match failure? with
  | none => ∃ value, result = .ok value
  | some error => result = .error (.failed error)

theorem survey_visited (visit : String → Visit) (named : ∀ name, (visit name).node = name)
    (told : ∀ name, (visit name).Told) (nodes : List Descriptor)
    (calm : ∀ node ∈ nodes, (visit node.name).hasCrashed = false) (fold : Fold)
    (found : List (String × Node.Snapshot)) :
    let surveyed := survey visit fold found (nodes.map ([·]))
    ∃ failure?, Ends failure? surveyed.result ∧
      Visited visit (nodes.map Descriptor.name) failure?
        ((surveyed.visits.flatMap Visit.occurrences).filter Occurrence.isNamed) := by
  -- What has been folded and found so far differs at each node, and none of it changes what is said.
  induction nodes generalizing fold found with
  | nil => exact ⟨none, ⟨_, rfl⟩, .done⟩
  | cons node rest ih =>
      obtain ⟨negatives, kind, occurrences⟩ := (visit node.name).occurrences_named (told node.name)
      rw [named] at kind occurrences
      have here := calm node List.mem_cons_self
      have later := ih (fun other member => calm other (List.mem_cons_of_mem node member))
      simp only [List.map_cons, List.map_nil, survey, settled, snapshots]
      cases ending : (visit node.name).ending with
      | crashed => simp [Visit.hasCrashed, ending] at here
      | failed error =>
          refine ⟨some error, rfl, ?_⟩
          simp only [Visit.snapshot?, ending, Option.map_none, Option.toList_none, List.append_nil] at occurrences
          simp only [List.flatMap_cons, List.flatMap_nil, List.append_nil, occurrences]
          exact .failed node.name _ error negatives ending kind
      | found snapshot =>
          obtain ⟨failure?, ends, visited⟩ := later (fold.merge (Fold.ofNodes [snapshot]))
            (found ++ [((visit node.name).node, snapshot)])
          refine ⟨failure?, ends, ?_⟩
          simp only [Visit.snapshot?, ending, Option.map_some, Option.toList_some] at occurrences
          simp only [List.cons_append, List.nil_append, List.flatMap_cons, List.filter_append, occurrences,
            List.append_assoc]
          exact .probed node.name _ failure? snapshot negatives _ _ ending kind ⟨rfl, rfl⟩ visited

theorem of_descriptors_visited (visit : String → Visit) (named : ∀ name, (visit name).node = name)
    (told : ∀ name, (visit name).Told) (parallelism : Nat) (single : parallelism ≤ 1) (deployment : Deployment)
    (nodes : List Descriptor) (calm : Calm visit nodes) :
    let pass := ofDescriptors visit parallelism deployment nodes
    ∃ failure?, Ends failure? pass.result ∧
      Visited visit (Topology.sqlNames nodes) failure?
        ((pass.visits.flatMap Visit.occurrences).filter Occurrence.isNamed) := by
  obtain ⟨failure?, ends, visited⟩ := survey_visited visit named told (nodes.filter Descriptor.isSql)
    (fun node member => calm node (List.mem_filter.mp member).1 (List.mem_filter.mp member).2) Fold.empty []
  rw [← chunks_singles parallelism _ _ single (Nat.le_refl _)] at ends visited
  refine ⟨failure?, ?_⟩
  unfold ofDescriptors
  dsimp only
  split
  · next stop stopped =>
      refine ⟨?_, visited⟩
      cases failure? with
      | none =>
          obtain ⟨value, fine⟩ := ends
          rw [stopped] at fine
          cases fine
      | some error => exact congrArg Except.error (Except.error.inj (stopped.symm.trans ends))
  · next fold found fine =>
      refine ⟨?_, visited⟩
      cases failure? with
      | none => exact ⟨_, rfl⟩
      | some error =>
          rw [fine] at ends
          cases ends

theorem skips_named (topology : Topology) (nodes : List Descriptor) (listed : topology.nodes = .ok nodes) :
    List.Forall₂ Occurrence.Skips (((skips topology).map Occurrence.own).filter Occurrence.isNamed)
      (Topology.otherNames nodes) := by
  simp only [skips, listed, Topology.otherNames]
  induction nodes.filter fun node => !node.isSql with
  | nil => exact .nil
  | cons node rest ih => exact .cons ⟨⟨rfl, rfl⟩, rfl⟩ ih

theorem findings_names (visit : String → Visit) (named : ∀ name, (visit name).node = name) (parallelism : Nat)
    (deployment : Deployment) (nodes : List Descriptor) (calm : Calm visit nodes) (findings : Findings)
    (found : (ofDescriptors visit parallelism deployment nodes).result = .ok findings) :
    findings.snapshots.map Prod.fst = Topology.sqlNames nodes ∧ findings.skipped = Topology.otherNames nodes := by
  rw [of_descriptors_result visit parallelism deployment nodes calm] at found
  cases reference : sequential visit deployment nodes with
  | error error =>
      rw [reference] at found
      cases found
  | ok expected =>
      rw [reference] at found
      cases found
      refine ⟨sequential_names visit deployment nodes named calm findings reference, ?_⟩
      unfold sequential at reference
      dsimp only at reference
      split at reference
      · cases reference
      · cases reference
        rfl

end Pass

namespace Manager

structure Publishes (manager after : Manager) (findings : Findings) : Prop where
  phase : after.phase = .ready
  cluster : after.cluster = findings.cluster
  nodes : after.nodes = (manager.nodes.insertAll findings.snapshots).retain (findings.snapshots.map Prod.fst)
  skipped : after.skipped = findings.skipped

structure Untouched (manager after : Manager) : Prop where
  cluster : after.cluster = manager.cluster
  nodes : after.nodes = manager.nodes
  skipped : after.skipped = manager.skipped

def Undisturbed (manager : Manager) (outside : Outside) : Prop :=
  ∀ nodes, outside.topology.nodes = .ok nodes → Pass.Calm (Visit.of outside.topology manager.options) nodes

theorem named_parts (started : Occurrence) (skips visits folds closing : List Occurrence)
    (begun : started.isNamed = true) :
    (started :: (skips ++ visits ++ folds) ++ closing).filter Occurrence.isNamed =
      started :: skips.filter Occurrence.isNamed ++ visits.filter Occurrence.isNamed ++
        (folds ++ closing).filter Occurrence.isNamed := by
  simp [begun]

theorem chronicle (manager : Manager) (outside : Outside) (single : manager.parallelism ≤ 1)
    (ascending : NameMap.Ascending manager.nodes) (calm : manager.Undisturbed outside) :
    ∃ failure?, Pass.Ends failure? (manager.passResult outside) ∧
      Chronicle outside.topology (Visit.of outside.topology manager.options) failure?
        ((manager.occurrences outside).filter Occurrence.isNamed) := by
  cases listed : outside.topology.nodes with
  | error cause =>
      refine ⟨some (.topology cause), ?_, ?_⟩
      · simp only [passResult, Pass.run, listed, Pass.Ends]
      · simp only [occurrences, Pass.occurrences, Pass.skips, Pass.folds, closes, Pass.run, listed]
        exact .undiscovered cause _ _ listed ⟨rfl, rfl⟩ ⟨⟨rfl, rfl⟩, rfl⟩
  | ok nodes =>
      have named := Visit.of_node outside.topology manager.options
      have told := Visit.of_told outside.topology manager.options
      obtain ⟨failure?, ends, visited⟩ := Pass.of_descriptors_visited _ named told manager.parallelism single
        outside.deployment nodes (calm nodes listed)
      have skipped := Pass.skips_named outside.topology nodes listed
      have ran := Pass.run_listed outside.topology manager.options manager.parallelism outside.deployment nodes listed
      rw [passResult, occurrences, closes, Pass.occurrences, Pass.folds, ran, Pass.after_result, Pass.after_visits]
      refine ⟨failure?, ends, ?_⟩
      rw [named_parts _ _ _ _ _ rfl]
      cases failure? with
      | some error =>
          rw [Pass.Ends] at ends
          simp only [ends]
          exact .failed nodes error _ (.own (failedEvent error outside.elapsed)) _ _ listed ⟨rfl, rfl⟩ skipped
            visited ⟨⟨rfl, rfl⟩, rfl⟩
      | none =>
          obtain ⟨findings, found⟩ := ends
          obtain ⟨snapshots, others⟩ := Pass.findings_names _ named _ _ nodes (calm nodes listed) findings found
          have cached : (manager.publish findings).nodes.length = (Topology.sqlNames nodes).dedup.length := by
            rw [← snapshots]
            exact manager.nodes.replace_length findings.snapshots ascending
          simp only [found]
          rw [cached, ← findings.snapshots.length_map Prod.fst, snapshots, others]
          exact .finished nodes _ (.own (Pass.foldedEvent _ _)) (.own (finishedEvent _ outside.elapsed)) _ _ listed
            ⟨rfl, rfl⟩ skipped visited ⟨⟨rfl, rfl⟩, rfl, rfl⟩ ⟨⟨rfl, rfl⟩, rfl⟩

theorem run_pass_ends (manager : Manager) (restore : Phase) (outside : Outside) (failure? : Option PassError)
    (ends : Pass.Ends failure? (manager.passResult outside)) :
    Pass.Ends failure? (manager.runPass restore outside).result := by
  cases failure? with
  | none =>
      obtain ⟨findings, found⟩ := ends
      exact ⟨(), (run_pass_succeeded manager restore outside findings found).1⟩
  | some error => exact (run_pass_failed manager restore outside error ends).1

theorem during_keeps (manager : Manager) (restore : Phase) : manager.Untouched (manager.during restore) := by
  unfold during
  split <;> exact ⟨rfl, rfl, rfl⟩

theorem run_pass_publishes (manager : Manager) (restore : Phase) (outside : Outside) (findings : Findings)
    (found : manager.passResult outside = .ok findings) :
    manager.Publishes (manager.runPass restore outside).manager findings := by
  rw [(run_pass_succeeded manager restore outside findings found).2]
  refine ⟨rfl, rfl, ?_, rfl⟩
  rw [← (manager.during_keeps restore).nodes]
  rfl

theorem run_pass_untouched (manager : Manager) (restore : Phase) (outside : Outside) (error : PassError)
    (failed : manager.passResult outside = .error (.failed error)) :
    manager.Untouched (manager.runPass restore outside).manager := by
  obtain ⟨cluster, nodes, skipped⟩ := manager.during_keeps restore
  rw [(run_pass_failed manager restore outside error failed).2]
  exact ⟨cluster, nodes, skipped⟩

end Manager

def Log.Event.Concludes (event : Event) : Prop := event.field? "event" = some (.text "pass.finished")

theorem Chronicle.concludes_iff {topology : Topology} {visit : String → Visit} {failure? : Option PassError}
    {log : List Occurrence} (chronicle : Chronicle topology visit failure? log) :
    (∃ occurrence ∈ log, occurrence.event.Concludes) ↔ failure? = none := by
  have other (occurrence : Occurrence) (node? : Option String) (name : String) (here : occurrence.Is node? name)
      (different : name ≠ "pass.finished") : ¬ occurrence.event.Concludes := by
    intro concludes
    have same := here.name.symm.trans concludes
    simp [different] at same
  have skipped (skips : List Occurrence) (names : List String) (here : List.Forall₂ Occurrence.Skips skips names) :
      ∀ occurrence ∈ skips, ¬ occurrence.event.Concludes := by
    induction here with
    | nil => exact List.forall_mem_nil _
    | cons skips _ ih => exact List.forall_mem_cons.mpr ⟨other _ none _ skips.toIs (by decide), ih⟩
  cases chronicle with
  | undiscovered cause started ended unlisted begins fails =>
      simp [other _ _ _ begins, other _ _ _ fails.toIs]
  | failed nodes error started ended skips visits listed begins skippedHere visited fails =>
      refine ⟨?_, nofun⟩
      rintro ⟨occurrence, member, concludes⟩
      simp only [List.cons_append, List.mem_cons, List.mem_append, List.not_mem_nil, or_false] at member
      rcases member with rfl | (skip | visit) | rfl
      · exact absurd concludes (other _ none _ begins (by decide))
      · exact absurd concludes (skipped skips _ skippedHere occurrence skip)
      · obtain ⟨node, negative | probed⟩ := visited.names occurrence visit
        · exact absurd concludes (other _ _ _ negative (by decide))
        · exact absurd concludes (other _ _ _ probed (by decide))
      · exact absurd concludes (other _ none _ fails.toIs (by decide))
  | finished nodes started folded ended skips visits listed begins skippedHere visited folds finishes =>
      exact ⟨fun _ => rfl, fun _ => ⟨ended, by simp, finishes.name⟩⟩

namespace Manager

-- A manager that visits one node at a time. Whatever fails, and wherever, the named events of a pass are
-- those of a chronicle with that failure, and they close with pass.finished just if the pass has published
-- its findings. Otherwise nothing that the manager knows has changed.
theorem pass_log_chronicled (manager : Manager) (restore : Phase) (outside : Outside)
    (single : manager.parallelism ≤ 1) (ascending : NameMap.Ascending manager.nodes)
    (calm : manager.Undisturbed outside) :
    let call := manager.runPass restore outside
    let named := call.effects.emissions.filter fun emission => emission.event.isNamed
    ∃ failure? log, Chronicle outside.topology (Visit.of outside.topology manager.options) failure? log ∧
      named.map Emission.placed =
        log.map (fun occurrence => (passSpan outside.passId :: occurrence.spans, occurrence.event)) ∧
      Pass.Ends failure? call.result ∧
      ((∃ emission ∈ named, emission.event.Concludes) ↔
        ∃ findings, manager.passResult outside = .ok findings ∧ manager.Publishes call.manager findings) ∧
      (failure? ≠ none → manager.Untouched call.manager) := by
  intro call named
  obtain ⟨failure?, ends, told⟩ := manager.chronicle outside single ascending calm
  have placed := manager.run_pass_placed restore outside
  have same : named.map Emission.placed = ((manager.occurrences outside).filter Occurrence.isNamed).map
      fun occurrence => (passSpan outside.passId :: occurrence.spans, occurrence.event) := by
    have kept := congrArg (List.filter fun place => place.2.isNamed) placed
    rw [List.filter_map, List.filter_map] at kept
    exact kept
  have events : named.map Emission.event =
      ((manager.occurrences outside).filter Occurrence.isNamed).map Occurrence.event := by
    have seconds := congrArg (List.map Prod.snd) same
    rwa [List.map_map, List.map_map] at seconds
  have concludes : (∃ emission ∈ named, emission.event.Concludes) ↔ failure? = none := by
    rw [← told.concludes_iff]
    have either := congrArg (fun events => ∃ event ∈ events, Log.Event.Concludes event) events
    simpa only [List.mem_map, exists_exists_and_eq_and] using iff_of_eq either
  refine ⟨failure?, _, told, same, manager.run_pass_ends restore outside failure? ends, concludes.trans ?_, ?_⟩
  · cases failure? with
    | none =>
        obtain ⟨findings, found⟩ := ends
        exact iff_of_true rfl ⟨findings, found, manager.run_pass_publishes restore outside findings found⟩
    | some error =>
        refine iff_of_false nofun ?_
        rintro ⟨findings, found, -⟩
        cases ends.symm.trans found
  · cases failure? with
    | none => exact fun failed => absurd rfl failed
    | some error => exact fun _ => manager.run_pass_untouched restore outside error ends

theorem lost_node_chronicled :
    let manager := start ⟨false, false, "udf", "udf_functions"⟩ 1
    let outside : Outside := ⟨Pass.lostTopology, ⟨false, false⟩, ⟨"sc-19700101-000000-0000"⟩, 0⟩
    let error := PassError.topology (.connection "dn-1" "connection refused")
    let call := manager.runPass .uninitialized outside
    manager.parallelism ≤ 1 ∧ NameMap.Ascending manager.nodes ∧ manager.Undisturbed outside ∧
      ((manager.occurrences outside).filter Occurrence.isNamed).map (·.event.field? "event") =
        ["pass.started", "node.skipped", "probe.negative", "node.probed", "pass.failed"].map (some <| .text ·) ∧
      (∃ log, Chronicle outside.topology (Visit.of outside.topology manager.options) (some error) log) ∧
      manager.Untouched call.manager := by
  intro manager outside error call
  have ascending : NameMap.Ascending manager.nodes := List.Pairwise.nil
  have calm : manager.Undisturbed outside := by
    rintro _ ⟨⟩ node member _
    simp only [Pass.lostNodes, List.mem_cons, List.not_mem_nil, or_false] at member
    rcases member with rfl | rfl | rfl | rfl <;> rfl
  obtain ⟨failure?, log, told, -, ends, -, untouched⟩ :=
    manager.pass_log_chronicled .uninitialized outside (Nat.le_refl 1) ascending calm
  have failed : call.result = .error (.failed error) := rfl
  have same : failure? = some error := by
    cases failure? with
    | none =>
        obtain ⟨_, fine⟩ := ends
        cases failed.symm.trans fine
    | some other =>
        cases failed.symm.trans ends
        rfl
  subst same
  exact ⟨Nat.le_refl 1, ascending, calm, rfl, ⟨log, told⟩, untouched (Option.some_ne_none error)⟩

end Manager

end ClusterCaps
