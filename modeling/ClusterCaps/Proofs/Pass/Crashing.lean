import ClusterCaps.Proofs.Pass.Sequential

set_option autoImplicit false

namespace ClusterCaps

namespace Visit

def trouble? (visit : Visit) : Option PassError :=
  match visit.ending with
  | .found _ => none
  | .failed error => some error
  | .crashed => some (Pass.crashError visit.node)

theorem trouble_crashed (visit : Visit) (crashed : visit.hasCrashed = true) :
    visit.trouble? = some (Pass.crashError visit.node) := by
  have ending : visit.ending = .crashed := by simpa [hasCrashed] using crashed
  simp only [trouble?, ending]

theorem trouble_uncrashed (visit : Visit) (calm : visit.hasCrashed = false) : visit.trouble? = visit.error? := by
  cases ending : visit.ending with
  | found snapshot => simp only [trouble?, error?, ending]
  | failed error => simp only [trouble?, error?, ending]
  | crashed => simp [hasCrashed, ending] at calm

theorem trouble_none (visit : Visit) (fine : visit.trouble? = none) :
    visit.hasCrashed = false ∧ visit.error? = none := by
  cases crashed : visit.hasCrashed with
  | false => exact ⟨rfl, by rw [← visit.trouble_uncrashed crashed, fine]⟩
  | true =>
      rw [visit.trouble_crashed crashed] at fine
      cases fine

theorem of_error (topology : Topology) (options : ProbeOptions) (name : String) (error : PassError)
    (failed : (Visit.of topology options name).error? = some error) (message : String) :
    error ≠ .initialization message := by
  have outcome : ∀ result, (Visit.ofOutcome name result).error? = some error → error ≠ .initialization message := by
    intro result told same
    unfold ofOutcome at told
    split at told <;> simp [error?, same] at told
  unfold Visit.of at failed
  split at failed
  · intro same
    simp [error?, same] at failed
  · exact outcome _ failed
  · split at failed
    · exact outcome _ failed
    · cases failed

end Visit

namespace Pass

-- The threads of a group contain its crashes: there is one at most, and none on the calling thread.
structure Contained (visits : List Visit) : Prop where
  once : (visits.filter Visit.hasCrashed).length ≤ 1
  accompanied : ∀ visit ∈ visits, visit.hasCrashed = true → 2 ≤ visits.length

theorem settled_fine (visits : List Visit) (fine : ∀ visit ∈ visits, visit.trouble? = none) :
    settled visits = .ok (visits.filterMap Visit.entry?) := by
  have calm : ∀ visit ∈ visits, visit.hasCrashed = false := fun visit member =>
    (visit.trouble_none (fine visit member)).1
  have unfailing : visits.findSome? Visit.error? = none := by
    rw [List.findSome?_eq_none_iff]
    exact fun visit member => (visit.trouble_none (fine visit member)).2
  rw [settled_calm visits calm, snapshots_calm visits calm, unfailing]

theorem settled_crashed (visits : List Visit) (contained : Contained visits) (visit : Visit)
    (member : visit ∈ visits) (crashed : visit.hasCrashed = true) :
    settled visits = .error (.failed (crashError visit.node)) := by
  have listed : visit ∈ visits.filter Visit.hasCrashed := List.mem_filter.mpr ⟨member, crashed⟩
  have only : visits.filter Visit.hasCrashed = [visit] := by
    have once := contained.once
    match found : visits.filter Visit.hasCrashed with
    | [] => simp [found] at listed
    | [other] =>
        rw [found, List.mem_singleton] at listed
        rw [listed]
    | _ :: _ :: _ => simp [found] at once
  have several := contained.accompanied visit member crashed
  unfold settled
  split
  · simp at several
  · rw [gathered, only]

theorem settled_failed (ahead behind : List Visit) (first : Visit) (error : PassError)
    (calm : ∀ visit ∈ ahead ++ first :: behind, visit.hasCrashed = false)
    (fine : ∀ visit ∈ ahead, visit.trouble? = none) (failed : first.error? = some error) :
    settled (ahead ++ first :: behind) = .error (.failed error) := by
  have unfailing : ahead.findSome? Visit.error? = none := by
    rw [List.findSome?_eq_none_iff]
    exact fun visit member => (visit.trouble_none (fine visit member)).2
  have found : (ahead ++ first :: behind).findSome? Visit.error? = some error := by
    rw [List.findSome?_append, unfailing, Option.none_or, List.findSome?_cons, failed]
  rw [settled_calm _ calm, snapshots_calm _ calm, found]

theorem Contained.calm_behind {ahead behind : List Visit} {first : Visit}
    (contained : Contained (ahead ++ first :: behind)) (crashed : first.hasCrashed = true) :
    ∀ visit ∈ behind, visit.hasCrashed = false := by
  have once := contained.once
  rw [List.filter_append, List.length_append, List.filter_cons_of_pos crashed, List.length_cons] at once
  have none : behind.filter Visit.hasCrashed = [] := List.eq_nil_of_length_eq_zero (by omega)
  simpa using List.filter_eq_nil_iff.mp none

theorem settled_first (ahead behind : List Visit) (first : Visit) (error : PassError)
    (contained : Contained (ahead ++ first :: behind)) (fine : ∀ visit ∈ ahead, visit.trouble? = none)
    (troubled : first.trouble? = some error) (quiet : ∀ visit ∈ behind, visit.hasCrashed = false) :
    settled (ahead ++ first :: behind) = .error (.failed error) := by
  cases crashed : first.hasCrashed with
  | true =>
      have own : crashError first.node = error := by
        rw [first.trouble_crashed crashed] at troubled
        exact Option.some.inj troubled
      rw [settled_crashed _ contained first (by simp) crashed, own]
  | false =>
      have failed : first.error? = some error := (first.trouble_uncrashed crashed).symm.trans troubled
      refine settled_failed ahead behind first error (fun visit member => ?_) fine failed
      rcases List.mem_append.mp member with front | back
      · exact (visit.trouble_none (fine visit front)).1
      · rcases List.mem_cons.mp back with same | rest
        · rw [same, crashed]
        · exact quiet visit rest

theorem settled_reports (ahead behind : List Visit) (first : Visit) (error : PassError)
    (contained : Contained (ahead ++ first :: behind)) (fine : ∀ visit ∈ ahead, visit.trouble? = none)
    (troubled : first.trouble? = some error)
    (own : first.error? = some error → ∀ message, error ≠ .initialization message) :
    ∃ reported, settled (ahead ++ first :: behind) = .error (.failed reported) ∧
      (reported = error ↔ ∀ visit ∈ behind, visit.hasCrashed = false) ∧
      ∀ visit ∈ behind, visit.hasCrashed = true → reported = crashError visit.node := by
  have crashes : ∀ visit ∈ behind, visit.hasCrashed = true →
      settled (ahead ++ first :: behind) = .error (.failed (crashError visit.node)) := fun visit member crashed =>
    settled_crashed _ contained visit (List.mem_append_right ahead (List.mem_cons_of_mem first member)) crashed
  by_cases overtaken : ∃ visit ∈ behind, visit.hasCrashed = true
  · obtain ⟨crashing, member, crashed⟩ := overtaken
    have stopped := crashes crashing member crashed
    refine ⟨crashError crashing.node, stopped, ⟨fun same => ?_, fun quiet => ?_⟩, fun visit other also => ?_⟩
    · -- The first visit has failed, and no failure of its own looks like a crash.
      have calm : first.hasCrashed = false := by
        refine Bool.eq_false_iff.mpr fun firstCrashed => ?_
        have quiet := contained.calm_behind firstCrashed crashing member
        rw [crashed] at quiet
        cases quiet
      have failed := (first.trouble_uncrashed calm).symm.trans troubled
      exact absurd same.symm (own failed _)
    · rw [quiet crashing member] at crashed
      cases crashed
    · have both := stopped.symm.trans (crashes visit other also)
      injection both with both
      injection both
  · have quiet : ∀ visit ∈ behind, visit.hasCrashed = false := fun visit member =>
      Bool.eq_false_iff.mpr fun crashed => overtaken ⟨visit, member, crashed⟩
    refine ⟨error, settled_first ahead behind first error contained fine troubled quiet,
      ⟨fun _ => quiet, fun _ => rfl⟩, fun visit member crashed => ?_⟩
    exact absurd ⟨visit, member, crashed⟩ overtaken

section Survey

variable (visit : String → Visit)

theorem survey_stops (fold : Fold) (found : List (String × Node.Snapshot)) (earlier : List (List Descriptor))
    (group : List Descriptor) (later : List (List Descriptor)) (stop : Stop)
    (fine : ∀ node ∈ earlier.flatten, (visit node.name).trouble? = none)
    (stopped : settled (group.map fun node => visit node.name) = .error stop) :
    (survey visit fold found (earlier ++ group :: later)).result = .error stop := by
  induction earlier generalizing fold found with
  | nil => simp only [List.nil_append, survey, stopped]
  | cons head rest ih =>
      have headFine : ∀ visited ∈ head.map fun node => visit node.name, visited.trouble? = none := by
        intro visited member
        obtain ⟨node, inHead, rfl⟩ := List.mem_map.mp member
        exact fine node (by simp [inHead])
      have restFine : ∀ node ∈ rest.flatten, (visit node.name).trouble? = none := fun node member =>
        fine node (by rw [List.flatten_cons]; exact List.mem_append_right head member)
      rw [List.cons_append, survey, settled_fine _ headFine]
      exact ih _ _ restFine

theorem of_descriptors_stops (parallelism : Nat) (deployment : Deployment) (nodes : List Descriptor)
    (earlier : List (List Descriptor)) (group : List Descriptor) (later : List (List Descriptor)) (stop : Stop)
    (cut : groups parallelism nodes = earlier ++ group :: later)
    (fine : ∀ node ∈ earlier.flatten, (visit node.name).trouble? = none)
    (stopped : settled (group.map fun node => visit node.name) = .error stop) :
    (ofDescriptors visit parallelism deployment nodes).result = .error stop := by
  have surveyed := survey_stops visit Fold.empty [] earlier group later stop fine stopped
  rw [← cut] at surveyed
  unfold groups at surveyed
  simp only [ofDescriptors, surveyed]

theorem of_descriptors_fine (parallelism : Nat) (deployment : Deployment) (nodes : List Descriptor)
    (fine : ∀ node ∈ nodes.filter Descriptor.isSql, (visit node.name).trouble? = none) :
    ∃ findings, (ofDescriptors visit parallelism deployment nodes).result = .ok findings := by
  have calm : Calm visit nodes := fun node present sql =>
    ((visit node.name).trouble_none (fine node (List.mem_filter.mpr ⟨present, sql⟩))).1
  have unfailing : (sqlVisits visit nodes).findSome? Visit.error? = none := by
    rw [List.findSome?_eq_none_iff]
    intro visited member
    obtain ⟨node, listed, rfl⟩ := List.mem_map.mp member
    exact ((visit node.name).trouble_none (fine node listed)).2
  rw [of_descriptors_result visit parallelism deployment nodes calm]
  simp only [sequential, unfailing]
  exact ⟨_, rfl⟩

end Survey

theorem groups_cut (parallelism : Nat) (nodes before after : List Descriptor) (first : Descriptor)
    (ordered : nodes.filter Descriptor.isSql = before ++ first :: after) :
    ∃ earlier ahead behind later, groups parallelism nodes = earlier ++ (ahead ++ first :: behind) :: later ∧
      before = earlier.flatten ++ ahead := by
  have flat := (groups_flatten parallelism nodes).trans ordered
  rcases List.flatten_eq_append_iff.mp flat with
    ⟨front, back, cut, beforeSame, backSame⟩ | ⟨earlier, ahead, item, behind, later, cut, beforeSame, rest⟩
  · -- The place is the first of a group; groups without nodes may stand before it.
    obtain ⟨blank, behind, later, backCut, empty, _⟩ := List.flatten_eq_cons_iff.mp backSame.symm
    have nothing : blank.flatten = [] := List.flatten_eq_nil_iff.mpr empty
    refine ⟨front ++ blank, [], behind, later, ?_, ?_⟩
    · rw [cut, backCut, List.nil_append, List.append_assoc]
    · rw [beforeSame, List.flatten_append, nothing, List.append_nil, List.append_nil]
  · rw [List.cons_append, List.cons.injEq] at rest
    obtain ⟨rfl, _⟩ := rest
    exact ⟨earlier, ahead, behind, later, cut, beforeSame⟩

-- The first node in trouble, in the order of the topology, has its own error reported unless a later
-- node of its group has crashed. Then that crash is reported in its place.
theorem first_trouble_unless_crash_behind (topology : Topology) (options : ProbeOptions) (deployment : Deployment)
    (nodes : List Descriptor) (listed : topology.nodes = .ok nodes) (parallelism : Nat)
    (contained : ∀ group ∈ groups parallelism nodes,
      Contained (group.map fun node => Visit.of topology options node.name)) :
    let visit := fun node : Descriptor => Visit.of topology options node.name
    let pass := run topology options parallelism deployment
    let trouble? := (nodes.filter Descriptor.isSql).findSome? fun node => (visit node).trouble?
    (trouble? = none → ∃ findings, pass.result = .ok findings) ∧
      ∀ error, trouble? = some error →
        ∃ earlier ahead first behind later, groups parallelism nodes = earlier ++ (ahead ++ first :: behind) :: later ∧
          (∀ node ∈ earlier.flatten ++ ahead, (visit node).trouble? = none) ∧ (visit first).trouble? = some error ∧
          ∃ reported, pass.result = .error (.failed reported) ∧
            (reported = error ↔ ∀ node ∈ behind, (visit node).hasCrashed = false) ∧
            ∀ node ∈ behind, (visit node).hasCrashed = true → reported = crashError node.name := by
  intro visit pass trouble?
  have ran : pass = (ofDescriptors (Visit.of topology options) parallelism deployment nodes).after .nodes :=
    run_listed topology options parallelism deployment nodes listed
  rw [ran, after_result]
  refine ⟨fun fine => ?_, fun error found => ?_⟩
  · exact of_descriptors_fine _ parallelism deployment nodes (List.findSome?_eq_none_iff.mp fine)
  · obtain ⟨before, first, after, ordered, troubled, fine⟩ := List.findSome?_eq_some_iff.mp found
    obtain ⟨earlier, ahead, behind, later, cut, rfl⟩ := groups_cut parallelism nodes before after first ordered
    have held := contained (ahead ++ first :: behind) (by rw [cut]; simp)
    rw [List.map_append, List.map_cons] at held
    have aheadFine : ∀ visited ∈ ahead.map visit, visited.trouble? = none :=
      List.forall_mem_map.mpr fun node member => fine node (List.mem_append_right _ member)
    obtain ⟨reported, stopped, exact, crashes⟩ := settled_reports (ahead.map visit) (behind.map visit) (visit first) error
      held aheadFine troubled (Visit.of_error topology options first.name error)
    refine ⟨earlier, ahead, first, behind, later, cut, fine, troubled, reported, ?_, ?_, ?_⟩
    · rw [← List.map_cons, ← List.map_append] at stopped
      exact of_descriptors_stops _ parallelism deployment nodes earlier _ later _ cut
        (fun node member => fine node (List.mem_append_left _ member)) stopped
    · rw [exact, List.forall_mem_map]
    · intro node member crashed
      rw [crashes (visit node) (List.mem_map_of_mem member) crashed, Visit.of_node]

def strandedNodes : List Descriptor :=
  [⟨"dn-0", .sql⟩, ⟨"col-0", .columnar⟩, ⟨"dn-1", .sql⟩, ⟨"dn-2", .sql⟩, ⟨"dn-3", .sql⟩]

def stranded (lost crashing : String) : Topology where
  nodes := .ok strandedNodes
  connect name :=
    if name = lost then .error (.connection name "connection refused")
    else if name = crashing then .ok .crashing
    else .ok (.answering fun _ _ => .ok [Row.ofTexts ["5"]])

theorem first_trouble_crash_in_later_group :
    let options : ProbeOptions := ⟨false, false, "udf", "udf_functions"⟩
    let topology := stranded "dn-1" "dn-2"
    let visit := fun node : Descriptor => Visit.of topology options node.name
    let lost := PassError.topology (.connection "dn-1" "connection refused")
    topology.nodes = .ok strandedNodes ∧ (∀ group ∈ groups 2 strandedNodes, Contained (group.map visit)) ∧
      (run topology options 2 ⟨false, false⟩).result = .error (.failed lost) ∧
      ∃ earlier ahead first behind later, groups 2 strandedNodes = earlier ++ (ahead ++ first :: behind) :: later ∧
        (visit first).trouble? = some lost ∧ ∀ node ∈ behind, (visit node).hasCrashed = false := by
  intro options topology visit lost
  have contained : ∀ group ∈ groups 2 strandedNodes, Contained (group.map visit) := by
    have cut : groups 2 strandedNodes =
        [[⟨"dn-0", .sql⟩, ⟨"dn-1", .sql⟩], [⟨"dn-2", .sql⟩, ⟨"dn-3", .sql⟩]] := rfl
    intro group member
    rw [cut] at member
    simp only [List.mem_cons, List.not_mem_nil, or_false] at member
    rcases member with rfl | rfl
    · exact ⟨Nat.zero_le 1, fun _ _ _ => Nat.le_refl 2⟩
    · exact ⟨Nat.le_refl 1, fun _ _ _ => Nat.le_refl 2⟩
  have result : (run topology options 2 ⟨false, false⟩).result = .error (.failed lost) := rfl
  obtain ⟨earlier, ahead, first, behind, later, cut, _, troubled, reported, told, exact, _⟩ :=
    (first_trouble_unless_crash_behind topology options ⟨false, false⟩ strandedNodes rfl 2 contained).2 lost rfl
  have same : reported = lost := by
    have both := told.symm.trans result
    injection both with both
    injection both
  exact ⟨rfl, contained, result, earlier, ahead, first, behind, later, cut, troubled, exact.mp same⟩

theorem crash_hides_earlier_failure :
    let options : ProbeOptions := ⟨false, false, "udf", "udf_functions"⟩
    let topology := stranded "dn-2" "dn-3"
    let visit := fun node : Descriptor => Visit.of topology options node.name
    let lost := PassError.topology (.connection "dn-2" "connection refused")
    groups 2 strandedNodes = [[⟨"dn-0", .sql⟩, ⟨"dn-1", .sql⟩], [⟨"dn-2", .sql⟩, ⟨"dn-3", .sql⟩]] ∧
      (strandedNodes.filter Descriptor.isSql).map (fun node => (visit node).trouble?) =
        [none, none, some lost, some (crashError "dn-3")] ∧
      (run topology options 2 ⟨false, false⟩).result = .error (.failed (crashError "dn-3")) ∧
      (run topology options 2 ⟨false, false⟩).result ≠ .error (.failed lost) := by
  intro options topology visit lost
  have result : (run topology options 2 ⟨false, false⟩).result = .error (.failed (crashError "dn-3")) := rfl
  refine ⟨rfl, rfl, result, ?_⟩
  rw [result]
  simp [lost, crashError]

end Pass

end ClusterCaps
