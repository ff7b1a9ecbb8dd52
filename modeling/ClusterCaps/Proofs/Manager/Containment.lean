import ClusterCaps.Proofs.Manager.Accounting
import ClusterCaps.Proofs.Manager.Moves
import ClusterCaps.Proofs.Pass.Crashing

set_option autoImplicit false

namespace ClusterCaps

namespace Pass

-- No visit crashes on the calling thread: the groups with crashes in them have threads of their own.
def Threaded (visit : String → Visit) (parallelism : Nat) (nodes : List Descriptor) : Prop :=
  ∀ group ∈ groups parallelism nodes, ∀ node ∈ group, (visit node.name).hasCrashed = true → 2 ≤ group.length

def Stops (visits : List Visit) (result : Except Stop Findings) : Prop :=
  ((visits.filter Visit.hasCrashed).length ≤ 1 → ∃ error, result = .error (.failed error)) ∧
    (2 ≤ (visits.filter Visit.hasCrashed).length → result = .error .unwound)

theorem settled_escapes (visits : List Visit) (several : 2 ≤ (visits.filter Visit.hasCrashed).length) :
    settled visits = .error .unwound := by
  have more := Nat.le_trans several (List.length_filter_le Visit.hasCrashed visits)
  unfold settled
  split
  · simp at more
  · unfold gathered
    split
    · next none => simp [none] at several
    · next only => simp [only] at several
    · rfl

theorem settled_contained (visits : List Visit) (contained : Contained visits) (visit : Visit)
    (member : visit ∈ visits) (troubled : visit.trouble? ≠ none) :
    ∃ error, settled visits = .error (.failed error) := by
  by_cases crashed : ∃ other ∈ visits, other.hasCrashed = true
  · obtain ⟨other, present, crash⟩ := crashed
    exact ⟨_, settled_crashed visits contained other present crash⟩
  · have calm : ∀ other ∈ visits, other.hasCrashed = false := fun other present =>
      Bool.eq_false_iff.mpr fun crash => crashed ⟨other, present, crash⟩
    have own := visit.trouble_uncrashed (calm visit member)
    cases failed : visits.findSome? Visit.error? with
    | none =>
        rw [List.findSome?_eq_none_iff] at failed
        exact absurd (own.trans (failed visit member)) troubled
    | some error =>
        refine ⟨error, ?_⟩
        rw [settled_calm visits calm, snapshots_calm visits calm, failed]

theorem first_group_stops (visit : String → Visit) (parallelism : Nat) (deployment : Deployment)
    (nodes : List Descriptor) (threaded : Threaded visit parallelism nodes) (node : Descriptor)
    (present : node ∈ nodes) (sql : node.isSql = true) (crashed : (visit node.name).hasCrashed = true) :
    ∃ earlier group later, groups parallelism nodes = earlier ++ group :: later ∧
      (∀ other ∈ earlier.flatten, (visit other.name).trouble? = none) ∧
      (∃ other ∈ group, (visit other.name).trouble? ≠ none) ∧
      Stops (group.map fun other => visit other.name) (ofDescriptors visit parallelism deployment nodes).result := by
  have asked : node ∈ nodes.filter Descriptor.isSql := List.mem_filter.mpr ⟨present, sql⟩
  cases found : (nodes.filter Descriptor.isSql).findSome? fun other => (visit other.name).trouble? with
  | none =>
      have fine := List.findSome?_eq_none_iff.mp found node asked
      rw [(visit node.name).trouble_crashed crashed] at fine
      cases fine
  | some error =>
      obtain ⟨before, first, after, ordered, troubled, fine⟩ := List.findSome?_eq_some_iff.mp found
      obtain ⟨earlier, ahead, behind, later, cut, rfl⟩ := groups_cut parallelism nodes before after first ordered
      have aheadFine : ∀ other ∈ earlier.flatten, (visit other.name).trouble? = none := fun other member =>
        fine other (List.mem_append_left ahead member)
      have inGroup : first ∈ ahead ++ first :: behind := by simp
      have listed : ahead ++ first :: behind ∈ groups parallelism nodes := by rw [cut]; simp
      have unfine : (visit first.name).trouble? ≠ none := by rw [troubled]; exact Option.some_ne_none error
      have stops := fun stop =>
        of_descriptors_stops visit parallelism deployment nodes earlier (ahead ++ first :: behind) later stop cut aheadFine
      refine ⟨earlier, _, later, cut, aheadFine, ⟨first, inGroup, unfine⟩, fun once => ?_, fun several => ?_⟩
      · have contained : Contained ((ahead ++ first :: behind).map fun other => visit other.name) := by
          refine ⟨once, List.forall_mem_map.mpr fun other member crash => ?_⟩
          rw [List.length_map]
          exact threaded _ listed other member crash
        obtain ⟨reported, stopped⟩ := settled_contained _ contained (visit first.name)
          (List.mem_map_of_mem inGroup) unfine
        exact ⟨reported, stops (.failed reported) stopped⟩
      · exact stops .unwound (settled_escapes _ several)

end Pass

namespace Manager

variable (manager : Manager)

theorem run_pass_stopped (restore : Phase) (outside : Outside) (stop : Stop)
    (stopped : manager.passResult outside = .error stop) :
    (manager.runPass restore outside).result = .error stop := by
  cases stop with
  | failed error => exact (manager.run_pass_failed restore outside error stopped).1
  | unwound =>
      unfold passResult at stopped
      unfold runPass
      simp only [stopped]

theorem perform_stopped (turn : Turn) (settled : manager.Settled) (runs : due manager.phase turn.request ≠ 0)
    (stop : Stop) (stopped : manager.passResult turn.outside = .error stop) :
    (manager.perform turn).result = .error stop ∧
      (manager.perform turn).manager = (manager.runPass manager.phase turn.outside).manager := by
  obtain ⟨request, outside⟩ := turn
  by_cases lazily : request.isLazy = true
  · have pending : manager.phase = .uninitialized := by
      rcases settled with pending | ready
      · exact pending
      · rw [due_lazy _ _ lazily, ready] at runs
        exact absurd rfl runs
    rw [manager.perform_pending ⟨request, outside⟩ pending lazily, Call.andThen,
      manager.run_pass_stopped .uninitialized outside stop stopped, pending]
    exact ⟨rfl, rfl⟩
  · cases request with
    | refresh =>
        have restored : (if manager.phase = .ready then Phase.ready else .uninitialized) = manager.phase := by
          rcases settled with pending | ready
          · rw [pending]; rfl
          · rw [ready]; rfl
        simp only [perform, refresh, restored, Call.andThen, Call.map,
          manager.run_pass_stopped manager.phase outside stop stopped]
        exact ⟨rfl, trivial⟩
    | reset => exact absurd rfl runs
    | look => exact absurd rfl runs
    | flag _ => exact absurd rfl lazily
    | capabilities => exact absurd rfl lazily
    | node _ => exact absurd rfl lazily
    | recheck _ => exact absurd rfl lazily
    | report _ => exact absurd rfl lazily

theorem during_counts (restore : Phase) :
    (manager.during restore).passes = manager.passes ∧ (manager.during restore).cluster = manager.cluster ∧
      (manager.during restore).nodes = manager.nodes ∧ (manager.during restore).skipped = manager.skipped := by
  rw [during_eq]
  exact ⟨rfl, rfl, rfl, rfl⟩

theorem run_pass_contained (outside : Outside) (error : PassError)
    (failed : manager.passResult outside = .error (.failed error)) :
    (manager.runPass manager.phase outside).manager.visible = manager.visible ∧
      (manager.runPass manager.phase outside).manager.passes = manager.passes + 1 := by
  obtain ⟨passes, cluster, nodes, skipped⟩ := manager.during_counts manager.phase
  rw [(manager.run_pass_failed manager.phase outside error failed).2]
  refine ⟨?_, congrArg (· + 1) passes⟩
  simp only [visible, afterFailure, cluster, nodes, skipped]

-- Of a pass over nodes that crash on threads of their own, the first group in trouble decides. With one
-- crash in it the pass fails and its manager is as before but for the count; with several, nothing ends
-- the pass: it is not counted, and a manager that was not ready stays initializing.
theorem one_crash_contained_several_escape (turn : Turn) (nodes : List Descriptor) (node : Descriptor)
    (listed : turn.outside.topology.nodes = .ok nodes) (settled : manager.Settled)
    (runs : due manager.phase turn.request ≠ 0)
    (threaded : Pass.Threaded (Visit.of turn.outside.topology manager.options) manager.parallelism nodes)
    (present : node ∈ nodes) (sql : node.isSql = true)
    (crashed : (Visit.of turn.outside.topology manager.options node.name).hasCrashed = true) :
    let visit := fun node : Descriptor => Visit.of turn.outside.topology manager.options node.name
    let pass := Pass.run turn.outside.topology manager.options manager.parallelism turn.outside.deployment
    let call := manager.perform turn
    ∃ earlier group later, Pass.groups manager.parallelism nodes = earlier ++ group :: later ∧
      (∀ other ∈ earlier.flatten, (visit other).trouble? = none) ∧
      (∃ other ∈ group, (visit other).trouble? ≠ none) ∧
      (((group.map visit).filter Visit.hasCrashed).length ≤ 1 →
        ∃ error, pass.result = .error (.failed error) ∧ call.result = .error (.failed error) ∧
          call.manager.visible = manager.visible ∧ call.manager.passes = manager.passes + 1) ∧
      (2 ≤ ((group.map visit).filter Visit.hasCrashed).length →
        pass.result = .error .unwound ∧ call.result = .error .unwound ∧
          call.manager = manager.during manager.phase ∧ call.manager.passes = manager.passes) := by
  intro visit pass call
  have ran : pass = (Pass.ofDescriptors (Visit.of turn.outside.topology manager.options) manager.parallelism
      turn.outside.deployment nodes).after .nodes :=
    Pass.run_listed turn.outside.topology manager.options manager.parallelism turn.outside.deployment nodes listed
  obtain ⟨earlier, group, later, cut, fine, troubled, once, several⟩ :=
    Pass.first_group_stops (Visit.of turn.outside.topology manager.options) manager.parallelism
      turn.outside.deployment nodes threaded node present sql crashed
  rw [← Pass.after_result .nodes, ← ran] at once several
  refine ⟨earlier, group, later, cut, fine, troubled, fun few => ?_, fun many => ?_⟩
  · obtain ⟨error, failed⟩ := once few
    obtain ⟨result, left⟩ := manager.perform_stopped turn settled runs (.failed error) failed
    obtain ⟨still, counted⟩ := manager.run_pass_contained turn.outside error failed
    refine ⟨error, failed, result, ?_, ?_⟩
    · rw [left, still]
    · rw [left, counted]
  · have unwound := several many
    obtain ⟨result, left⟩ := manager.perform_stopped turn settled runs .unwound unwound
    rw [manager.run_pass_unwound manager.phase turn.outside unwound] at left
    refine ⟨unwound, result, left, ?_⟩
    rw [left]
    exact (manager.during_counts manager.phase).1

def crowd (names crashing : List String) : Outside where
  topology :=
    { nodes := .ok (names.map fun name => ⟨name, .sql⟩)
      connect := fun name =>
        if crashing.contains name then .ok .crashing else .ok (.answering fun _ _ => .ok [Row.ofTexts ["5"]]) }
  deployment := ⟨false, false⟩
  passId := ⟨"sc-20260115-143022-a7xq"⟩
  elapsed := 0

theorem one_crash_contained_in_second_group :
    let manager := start ⟨false, false, "udf", "udf_functions"⟩ 2
    let call := manager.perform ⟨.capabilities, crowd ["dn-0", "dn-1", "dn-2", "dn-3"] ["dn-2"]⟩
    Pass.groups 2 [⟨"dn-0", .sql⟩, ⟨"dn-1", .sql⟩, ⟨"dn-2", .sql⟩, ⟨"dn-3", .sql⟩] =
        [[⟨"dn-0", .sql⟩, ⟨"dn-1", .sql⟩], [⟨"dn-2", .sql⟩, ⟨"dn-3", .sql⟩]] ∧
      ∃ error, call.result = .error (.failed error) ∧ call.manager.visible = manager.visible ∧
        call.manager.passes = 1 := by
  intro manager call
  let outside := crowd ["dn-0", "dn-1", "dn-2", "dn-3"] ["dn-2"]
  let visit := fun node : Descriptor => Visit.of outside.topology manager.options node.name
  let nodes : List Descriptor := [⟨"dn-0", .sql⟩, ⟨"dn-1", .sql⟩, ⟨"dn-2", .sql⟩, ⟨"dn-3", .sql⟩]
  have cut : Pass.groups 2 nodes = [[⟨"dn-0", .sql⟩, ⟨"dn-1", .sql⟩], [⟨"dn-2", .sql⟩, ⟨"dn-3", .sql⟩]] := rfl
  have threaded : Pass.Threaded (Visit.of outside.topology manager.options) 2 nodes := by
    intro group member _ _ _
    rw [cut] at member
    simp only [List.mem_cons, List.not_mem_nil, or_false] at member
    rcases member with rfl | rfl <;> exact Nat.le_refl 2
  have few : ∀ group ∈ Pass.groups 2 nodes, ((group.map visit).filter Visit.hasCrashed).length ≤ 1 := by
    intro group member
    rw [cut] at member
    simp only [List.mem_cons, List.not_mem_nil, or_false] at member
    rcases member with rfl | rfl
    · exact Nat.zero_le 1
    · exact Nat.le_refl 1
  obtain ⟨earlier, group, later, split, _, _, once, _⟩ :=
    manager.one_crash_contained_several_escape ⟨.capabilities, outside⟩ nodes ⟨"dn-2", .sql⟩ rfl (Or.inl rfl)
      Nat.one_ne_zero threaded (by decide) rfl rfl
  have listed : group ∈ Pass.groups manager.parallelism nodes := by rw [split]; simp
  obtain ⟨error, _, result, still, counted⟩ := once (few group listed)
  exact ⟨cut, error, result, still, counted⟩

theorem two_crashes_leave_manager_initializing :
    let options : ProbeOptions := ⟨false, false, "udf", "udf_functions"⟩
    let outside := crowd ["dn-0", "dn-1"] ["dn-0", "dn-1"]
    let call := (start options 2).perform ⟨.capabilities, outside⟩
    Pass.Threaded (Visit.of outside.topology options) 2 [⟨"dn-0", .sql⟩, ⟨"dn-1", .sql⟩] ∧
      (Pass.run outside.topology options 2 outside.deployment).result = .error .unwound ∧
      (∀ error, (Pass.run outside.topology options 2 outside.deployment).result ≠ .error (.failed error)) ∧
      call.result = .error .unwound ∧ call.manager.phase = .initializing ∧ call.manager.passes = 0 := by
  intro options outside call
  have unwound : (Pass.run outside.topology options 2 outside.deployment).result = .error .unwound := rfl
  refine ⟨?_, unwound, fun error same => ?_, rfl, rfl, rfl⟩
  · have cut : Pass.groups 2 [⟨"dn-0", .sql⟩, ⟨"dn-1", .sql⟩] = [[⟨"dn-0", .sql⟩, ⟨"dn-1", .sql⟩]] := rfl
    intro group member _ _ _
    rw [cut, List.mem_singleton] at member
    rw [member]
    exact Nat.le_refl 2
  · rw [unwound] at same
    cases same

end Manager

end ClusterCaps
