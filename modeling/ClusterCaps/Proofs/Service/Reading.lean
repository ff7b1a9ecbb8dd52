import ClusterCaps.Proofs.Service.Presence
import ClusterCaps.Proofs.Service.Recheck

set_option autoImplicit false

namespace ClusterCaps

namespace Service

open Protocol

theorem ready_present (name : String) (state : State) (guarded : Guarded name state.system state.record)
    (ready : state.system.manager.phase = .ready) (undisturbed : state.Undisturbed) :
    Present name state.system.manager := by
  obtain ⟨work, fit, inside⟩ := guarded_fit name state.system state.record guarded
  refine (fit.present ready).resolve_right fun emptied => ?_
  obtain ⟨thread, there⟩ := inside emptied
  cases work with
  | clearing wipe => exact undisturbed thread wipe there
  | _ => exact emptied

theorem stage_ready (move : Move) (manager : Manager) (history : List Event) (first : Bool) (restore : Phase)
    (stage : Stage) (kept : Kept (.passing first restore stage) manager history) (ready : manager.phase = .ready) :
    (stage.run move manager first restore).manager.phase = .ready := by
  cases stage with
  | starting =>
      have same : restore = .ready := kept.phase.symm.trans ready
      change (if restore = .ready then manager else _).phase = .ready
      rw [if_pos same]
      exact ready
  | restoring error =>
      have phase : manager.phase = if restore = .ready then .ready else .initializing := kept.phase
      rw [ready] at phase
      by_cases same : restore = .ready
      · exact same
      · rw [if_neg same] at phase
        cases phase
  | naming outcome => cases outcome <;> exact ready
  | inserting findings rest => cases rest <;> exact ready
  | readying => rfl
  | _ => exact ready

theorem system_ready (system : System) (move : Move) (legal : Protocol.Invariant system)
    (ready : system.manager.phase = .ready)
    (undisturbed : ∀ wipe, system.points move.thread ≠ .inside (.clearing wipe)) :
    (system.step move).manager.phase = .ready := by
  cases point : system.points move.thread with
  | inside work =>
      rw [(inside_frames system move work legal point).1]
      have kept := legal.held move.thread work point
      cases work with
      | passing first restore stage => exact stage_ready move _ _ first restore stage kept ready
      | clearing wipe => exact absurd point (undisturbed wipe)
      | _ => exact ready
  | _ =>
      rw [(outside_frames system move legal (by rw [point]; trivial)).1]
      exact ready

theorem chore_phase (reply : Except PassError Bool) (manager : Manager) (record : List Sighting) (chore : Chore) :
    (chore.run reply manager record).manager.phase = manager.phase := by
  cases chore with
  | begin errand =>
      cases errand with
      | recheck other => cases known : manager.nodes.lookup other <;> simp only [Chore.run, Errand.run, known]
      | _ => rfl
  | asking other edition => cases reply <;> rfl
  | _ => rfl

theorem comes_ready (state after : State) (stroke : Stroke) (legal : Protocol.Invariant state.system)
    (ready : state.system.manager.phase = .ready) (undisturbed : state.Undisturbed)
    (comes : Comes state stroke after) : after.system.manager.phase = .ready := by
  cases comes with
  | advanced act desk sign? _ => exact system_ready state.system act.move legal ready (undisturbed act.thread)
  | worked act chore _ => exact (chore_phase act.reply _ _ chore).trans ready
  | dropped thread other _ => exact ready
  | rested thread other => exact ready

def Sign.ends (name : String) : Sign → Bool
  | .answered (.node other) _ => other == name
  | .refused (.node other) _ => other == name
  | _ => false

def Served (name : String) (base record : List Sighting) : Prop :=
  ∃ recent, record = recent ++ base ∧ ∀ later seen earlier, recent = later ++ seen :: earlier →
    seen.sign.ends name = true →
      ∃ snapshot, seen.sign = .answered (.node name) (.ok (.snapshot snapshot)) ∧
        Made name (earlier ++ base) snapshot

theorem served_now (name : String) (record : List Sighting) : Served name record record :=
  ⟨[], rfl, fun _ _ _ split => absurd split (by simp)⟩

theorem served_cons (name : String) (base record : List Sighting) (seen : Sighting)
    (given : seen.sign.ends name = true →
      ∃ snapshot, seen.sign = .answered (.node name) (.ok (.snapshot snapshot)) ∧ Made name record snapshot)
    (served : Served name base record) : Served name base (seen :: record) := by
  obtain ⟨recent, rfl, before⟩ := served
  refine ⟨seen :: recent, rfl, fun later other earlier split ends => ?_⟩
  cases later with
  | nil =>
      obtain ⟨rfl, rfl⟩ := List.cons.inj split
      exact given ends
  | cons first later => exact before later other earlier (List.cons.inj split).2 ends

theorem served_signed (name : String) (base record : List Sighting) (thread : Nat) (signs : List Sign)
    (silent : ∀ sign ∈ signs, sign.ends name = false) (served : Served name base record) :
    Served name base (signed thread signs record) := by
  induction signs with
  | nil => exact served
  | cons sign signs ih =>
      obtain ⟨here, later⟩ := List.forall_mem_cons.mp silent
      refine served_cons name base _ ⟨thread, sign⟩ (fun ends => ?_) (ih later)
      rw [here] at ends
      cases ends

theorem point_sign_silent (name : String) (outcome : Except PassError Findings) (point : Point) (sign : Sign)
    (shown : pointSign? outcome point = some sign) : sign.ends name = false := by
  unfold pointSign? at shown
  split at shown
  · unfold workSign? at shown
    split at shown <;> cases shown <;> rfl
  · cases shown

theorem advance_served (name : String) (base : List Sighting) (state : State) (act : Act) (desk : Desk)
    (sign? : Option Sign) (silent : ∀ sign ∈ sign?.toList, sign.ends name = false)
    (served : Served name base state.record) : Served name base (state.advance act desk sign?).record := by
  rw [advance_record]
  refine served_signed name base _ act.thread _ silent (served_signed name base _ act.thread _ ?_ served)
  intro sign member
  exact point_sign_silent name act.outcome _ sign (Option.mem_toList.mp member)

theorem chore_silent (name : String) (reply : Except PassError Bool) (manager : Manager) (record : List Sighting)
    (chore : Chore) (other : chore ≠ .begin (.node name)) :
    ∀ sign ∈ (chore.run reply manager record).signs, sign.ends name = false := by
  cases chore with
  | begin errand =>
      cases errand with
      | node asked =>
          have apart : asked ≠ name := by
            rintro rfl
            exact other rfl
          simpa [Chore.run, Errand.run, Sign.ends] using apart
      | recheck asked =>
          cases known : manager.nodes.lookup asked <;> simp [Chore.run, Errand.run, known, Sign.ends]
      | _ => simp [Chore.run, Errand.run, Sign.ends]
  | asking asked edition => cases reply <;> simp [Chore.run, Sign.ends]
  | _ => simp [Chore.run, Sign.ends]

theorem chore_served (name : String) (base : List Sighting) (thread : Nat) (reply : Except PassError Bool)
    (manager : Manager) (record : List Sighting) (chore : Chore) (present : Present name manager)
    (made : Faithful name record manager.nodes) (served : Served name base record) :
    Served name base (signed thread (chore.run reply manager record).signs record) := by
  by_cases reading : chore = .begin (.node name)
  · subst reading
    obtain ⟨snapshot, known⟩ := Option.ne_none_iff_exists'.mp present
    refine served_cons name base record _ (fun _ => ⟨snapshot, ?_, made snapshot known⟩) served
    exact congrArg _ (found_some manager.nodes name snapshot known)
  · exact served_signed name base record thread _ (chore_silent name reply manager record chore reading) served

theorem comes_served (name : String) (base : List Sighting) (state after : State) (stroke : Stroke)
    (guarded : Guarded name state.system state.record) (ready : state.system.manager.phase = .ready)
    (undisturbed : state.Undisturbed) (served : Served name base state.record) (comes : Comes state stroke after) :
    Served name base after.record := by
  cases comes with
  | advanced act desk sign? entrance =>
      refine advance_served name base state act desk sign? (fun sign member => ?_) served
      rcases entrance sign (Option.mem_toList.mp member) with ⟨errand, rfl⟩ | ⟨errand, error, _, failing⟩
      · rfl
      · -- A thread comes to fail only while the manager is not ready.
        exact absurd ready (guarded.held act.thread _ failing).mindful
  | worked act chore _ =>
      obtain ⟨_, fit, _⟩ := guarded_fit name state.system state.record guarded
      exact chore_served name base act.thread act.reply state.system.manager state.record chore
        (ready_present name state guarded ready undisturbed) fit.made served
  | dropped thread other _ => exact served
  | rested thread other => exact served

-- How many steps of its own the thread is away from its answer.
def Waits (name : String) (thread : Nat) (state : State) : Nat → Prop
  | 1 => state.desks thread = .busy (.begin (.node name))
  | 2 => state.desks thread = .waiting (.node name) ∧ ∃ seen, state.system.points thread = .noted seen
  | 3 => state.desks thread = .waiting (.node name) ∧ state.system.points thread = .entered
  | _ => False

def Given (name : String) (thread : Nat) (base record : List Sighting) : Prop :=
  ∃ later snapshot earlier,
    record = later ++ ⟨thread, .answered (.node name) (.ok (.snapshot snapshot))⟩ :: (earlier ++ base)

theorem waits_begin (name : String) (state : State) (act : Act) (wish : act.wish = .errand (.node name))
    (rest : state.desks act.thread = .away) (idle : state.system.points act.thread = .idle) :
    Waits name act.thread (state.step act) 3 := by
  have asked : act.move.ask = .ensure := congrArg Wish.ask wish
  have point : state.system.points act.move.thread = .idle := idle
  simp only [State.step, rest, Waits, State.advance, State.seat, idle, wish, State.welcome, System.step, point, asked,
    System.enter, if_true, true_and]
  exact place_same _ _ _ _

-- A thread that asks for the node of a ready manager waits for nobody.
theorem waits_step (name : String) (state : State) (act : Act) (left : Nat)
    (ready : state.system.manager.phase = .ready) (waits : Waits name act.thread state (left + 2)) :
    Waits name act.thread (state.step act) (left + 1) := by
  rcases left with _ | _ | _
  · obtain ⟨desk, seen, point⟩ := waits
    have passed : gate? state.system.manager (state.system.points act.thread) = some (.ok ()) := by
      rw [point]
      exact if_pos ready
    simp only [State.step, desk, passed, Waits, State.advance, State.seat, if_true]
  · obtain ⟨desk, point⟩ := waits
    have noting : state.system.points act.move.thread = .entered := point
    simp only [State.step, desk, point, gate?, Waits, State.advance, State.seat, if_true, true_and, System.step,
      noting]
    exact ⟨_, place_same _ _ _ _⟩
  · exact False.elim waits

theorem waits_end (name : String) (base : List Sighting) (state : State) (act : Act)
    (present : Present name state.system.manager) (grown : ∃ recent, state.record = recent ++ base)
    (waits : Waits name act.thread state 1) : Given name act.thread base (state.step act).record := by
  have desk : state.desks act.thread = .busy (.begin (.node name)) := waits
  obtain ⟨snapshot, known⟩ := Option.ne_none_iff_exists'.mp present
  obtain ⟨recent, whole⟩ := grown
  refine ⟨[], snapshot, recent, ?_⟩
  rw [← whole, ← found_some _ name snapshot known]
  simp only [State.step, desk]
  rfl

structure Serving (name : String) (state : State) : Prop where
  guarded : Guarded name state.system state.record
  ready : state.system.manager.phase = .ready

theorem stroke_serving (name : String) (state : State) (stroke : Stroke) (lists : Listing name [stroke])
    (undisturbed : state.Undisturbed) (serving : Serving name state) : Serving name (state.stroke stroke) :=
  have comes := stroke_comes state stroke
  ⟨comes_guarded name state _ stroke lists serving.guarded comes,
    comes_ready state _ stroke serving.guarded.legal serving.ready undisturbed comes⟩

theorem follow_serving (name : String) (base : List Sighting) (state : State) (strokes : List Stroke)
    (lists : Listing name strokes) (calm : state.Calm strokes) (serving : Serving name state)
    (served : Served name base state.record) :
    Serving name (state.follow strokes) ∧ Served name base (state.follow strokes).record := by
  induction strokes generalizing state with
  | nil => exact ⟨serving, served⟩
  | cons stroke strokes ih =>
      obtain ⟨now, later⟩ := listing_cons name stroke strokes lists
      have undisturbed := state.calm_now _ calm
      exact ih (state.stroke stroke) later (state.calm_rest [stroke] strokes calm)
        (stroke_serving name state stroke now undisturbed serving)
        (comes_served name base state _ stroke serving.guarded serving.ready undisturbed served
          (stroke_comes state stroke))

-- By induction on the strokes: those of others leave the thread where it is, and each of its own takes it further.
theorem follow_given (name : String) (base : List Sighting) (thread : Nat) (state : State) (strokes : List Stroke)
    (left : Nat) (lists : Listing name strokes) (calm : state.Calm strokes) (serving : Serving name state)
    (grown : ∃ recent, state.record = recent ++ base) (waits : Waits name thread state left)
    (enough : left ≤ strokes.countP (Stroke.isOf thread)) :
    Given name thread base (state.follow strokes).record := by
  induction strokes generalizing state left with
  | nil =>
      cases Nat.le_zero.mp enough
      exact False.elim waits
  | cons stroke strokes ih =>
      obtain ⟨now, later⟩ := listing_cons name stroke strokes lists
      have undisturbed := state.calm_now _ calm
      have stays := state.calm_rest [stroke] strokes calm
      have serves := stroke_serving name state stroke now undisturbed serving
      have grows : ∃ recent, (state.stroke stroke).record = recent ++ base := by
        obtain ⟨recent, whole⟩ := grown
        obtain ⟨more, stepped⟩ := comes_grows state _ stroke (stroke_comes state stroke)
        exact ⟨more ++ recent, by rw [stepped, whole, List.append_assoc]⟩
      cases own : stroke.isOf thread with
      | false =>
          obtain ⟨desks, points⟩ := comes_elsewhere state _ stroke thread own (stroke_comes state stroke)
          rw [List.countP_cons_of_neg (by simp [own])] at enough
          refine ih (state.stroke stroke) left later stays serves grows ?_ enough
          unfold Waits at waits ⊢
          rw [desks, points]
          exact waits
      | true =>
          rw [List.countP_cons_of_pos own] at enough
          cases stroke with
          | drop user gone => cases own
          | perform act =>
              have same : act.thread = thread := by simpa [Stroke.isOf] using own
              subst same
              rcases left with _ | _ | left
              · exact False.elim waits
              · have present := ready_present name state serving.guarded serving.ready undisturbed
                obtain ⟨behind, snapshot, earlier, told⟩ := waits_end name base state act present grown waits
                obtain ⟨more, whole⟩ := follow_grows (state.step act) strokes
                refine ⟨more ++ behind, snapshot, earlier, ?_⟩
                rw [List.append_assoc, ← told]
                exact whole
              · exact ih (state.step act) (left + 1) later stays serves grows
                  (waits_step name state act left serving.ready waits) (Nat.le_of_succ_le_succ enough)

-- While the manager is ready and no reset is at work, a node that every pass lists is there after every stroke,
-- at whatever point the passes are. Whoever has asked for it since was given a snapshot that a pass has made of
-- it, and whoever begins to ask for it is given one within three further steps of its own.
theorem listed_node_never_missing (options : ProbeOptions) (parallelism : Nat) (name : String)
    (before since : List Stroke) (lists : Listing name (before ++ since))
    (ready : ((State.start options parallelism).follow before).system.manager.phase = .ready)
    (calm : ((State.start options parallelism).follow before).Calm since) :
    let opening := (State.start options parallelism).follow before
    let now := opening.follow since
    (∃ snapshot, now.system.manager.nodes.lookup name = some snapshot ∧ Made name now.record snapshot) ∧
      Served name opening.record now.record ∧
      ∀ earlier call later, since = earlier ++ .perform call :: later → call.wish = .errand (.node name) →
        (opening.follow earlier).desks call.thread = .away →
        (opening.follow earlier).system.points call.thread = .idle →
        3 ≤ later.countP (Stroke.isOf call.thread) →
          Given name call.thread (opening.follow earlier).record now.record := by
  intro opening now
  have listed := listing_subset name since _ (List.subset_append_right before since) lists
  have opened : Serving name opening :=
    ⟨follow_guarded name _ before (listing_subset name before _ (List.subset_append_left before since) lists)
      (start_guarded name options parallelism), ready⟩
  obtain ⟨serving, served⟩ :=
    follow_serving name opening.record opening since listed calm opened (served_now name _)
  refine ⟨?_, served, ?_⟩
  · have present := ready_present name now serving.guarded serving.ready (calm since List.prefix_rfl)
    obtain ⟨snapshot, known⟩ := Option.ne_none_iff_exists'.mp present
    obtain ⟨_, fit, _⟩ := guarded_fit name now.system now.record serving.guarded
    exact ⟨snapshot, known, fit.made snapshot known⟩
  · rintro earlier call later rfl wish away idle enough
    have calling := opening.calm_part earlier _ calm
    have onward := opening.calm_rest earlier _ calm
    have undisturbed := State.calm_now _ _ onward
    obtain ⟨called, _⟩ := follow_serving name opening.record opening earlier
      (listing_subset name earlier _ (List.subset_append_left _ _) listed) calling opened (served_now name _)
    have further := listing_subset name _ _ (List.subset_append_right earlier _) listed
    obtain ⟨here, behind⟩ := listing_cons name (.perform call) later further
    have asking := stroke_serving name _ (.perform call) here undisturbed called
    have given := follow_given name (opening.follow earlier).record call.thread
      ((opening.follow earlier).step call) later 3 behind (State.calm_rest _ [.perform call] later onward) asking
      (comes_grows _ _ (.perform call) (stroke_comes _ _)) (waits_begin name _ call wish away idle) enough
    have whole : now = ((opening.follow earlier).step call).follow later :=
      opening.follow_append earlier (.perform call :: later)
    rw [whole]
    exact given

theorem mocked_lists (name : String) (nodes : List Descriptor) (listed : ⟨name, .sql⟩ ∈ nodes) :
    Lists name (.ok (Pass.mockedFindings ⟨false, false⟩ nodes)) := by
  refine ⟨⟨.ok nodes, fun _ => .ok .crashing⟩, ⟨false, true, "udf", "udf_functions"⟩, 1, ⟨false, false⟩,
    ?_, ?_⟩
  · rintro _ ⟨⟩
    exact listed
  · rw [Pass.run_mocked_result _ _ _ nodes rfl rfl]
    have reached : (nodes.filter Descriptor.isSql).findSome? (fun node =>
        Topology.refusal? ⟨.ok nodes, fun _ => .ok .crashing⟩ node.name) = none :=
      List.findSome?_eq_none_iff.mpr fun _ _ => rfl
    rw [reached]
    rfl

def bothNodes : Findings := Pass.mockedFindings ⟨false, false⟩ [⟨"dn-0", .sql⟩, ⟨"dn-1", .sql⟩]

def firstPass : List Stroke := (stint 0 19 (.errand .capabilities) bothNodes true).map .perform

def secondPass : List Stroke := (stint 1 7 .refresh oneNode true).map .perform

def asking : Act := ⟨2, .errand (.node "dn-0"), .ok oneNode, ⟨"sc-20260115-143022-a7xq"⟩, .ok true⟩

def awaiting : List Stroke := [.perform asking, .perform asking, .drop 1 "dn-1", .perform asking]

theorem performed (act : Act) (member : .perform act ∈ firstPass ++ (secondPass ++ .perform asking :: awaiting)) :
    act.wish ≠ .reset ∧ (act.outcome = .ok bothNodes ∨ act.outcome = .ok oneNode) := by
  have turn : act ∈ stint 0 19 (.errand .capabilities) bothNodes true ∨ act ∈ stint 1 7 .refresh oneNode true ∨
      act = asking := by
    simpa [firstPass, secondPass, awaiting] using member
  unfold stint at turn
  rcases turn with first | second | rfl
  · cases List.eq_of_mem_replicate first
    exact ⟨nofun, Or.inl rfl⟩
  · cases List.eq_of_mem_replicate second
    exact ⟨nofun, Or.inr rfl⟩
  · exact ⟨nofun, Or.inr rfl⟩

def opened : State := (State.start ⟨false, true, "udf", "udf_functions"⟩ 1).follow firstPass

theorem node_read_while_another_goes :
    let now := opened.follow (secondPass ++ .perform asking :: awaiting)
    opened.system.manager.nodes = [("dn-0", .synthetic), ("dn-1", .synthetic)] ∧
      now.system.points 1 = .inside (.passing false .ready (.inserting oneNode [])) ∧
      now.system.manager.nodes = [("dn-0", .synthetic)] ∧
      Served "dn-0" opened.record now.record ∧ Given "dn-0" 2 (opened.follow secondPass).record now.record := by
  have lists : Listing "dn-0" (firstPass ++ (secondPass ++ .perform asking :: awaiting)) := by
    intro act member
    rcases (performed act member).2 with two | one
    · rw [two]
      exact mocked_lists "dn-0" _ (by decide)
    · rw [one]
      exact mocked_lists "dn-0" _ (by decide)
  have clear : Clear opened.system :=
    follow_clear _ firstPass (fun act member => (performed act (List.mem_append_left _ member)).1) fun _ => id
  have calm : opened.Calm (secondPass ++ .perform asking :: awaiting) :=
    calm_unless_wished opened _ (fun act member => (performed act (List.mem_append_right _ member)).1) clear
  have ready : opened.system.manager.phase = .ready := rfl
  have away : (opened.follow secondPass).desks asking.thread = .away := rfl
  have idle : (opened.follow secondPass).system.points asking.thread = .idle := rfl
  have served := listed_node_never_missing ⟨false, true, "udf", "udf_functions"⟩ 1 "dn-0" firstPass
    (secondPass ++ .perform asking :: awaiting) lists ready calm
  refine ⟨rfl, rfl, rfl, served.2.1, ?_⟩
  exact served.2.2 secondPass asking awaiting rfl rfl away idle (by decide)

end Service

end ClusterCaps
