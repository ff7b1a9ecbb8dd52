import ClusterCaps.Proofs.Manager.Accounting
import ClusterCaps.Proofs.Service.Step

set_option autoImplicit false

namespace ClusterCaps

namespace Service

open Protocol

def Errand.request : Errand → Request
  | .flag read => .flag read
  | .capabilities => .capabilities
  | .node name => .node name
  | .recheck name => .recheck name
  | .report time => .report time

def Replies (manager : Manager) (outside : Outside) (reply : Except PassError Bool) (errand : Errand) : Prop :=
  ∀ name snapshot, errand = .recheck name → manager.nodes.lookup name = some snapshot →
    (manager.askHeartbeat name snapshot outside).result = reply.mapError .failed

def Ends (state : State) (act : Act) (errand : Errand) (manager : Manager) (result : Except PassError Answer) : Prop :=
  ∃ turns earlier, let after := state.after (List.replicate turns act)
    after.system = { state.system with manager } ∧ after.desks act.thread = .away ∧
      after.record = ⟨act.thread, .answered errand result⟩ :: earlier

section

variable (state : State) (act : Act)

theorem chore_step (chore : Chore) (busy : state.desks act.thread = .busy chore) :
    let look := chore.run act.reply state.system.manager state.record
    (state.step act).system = { state.system with manager := look.manager } ∧
      (state.step act).desks act.thread = look.desk ∧
      (state.step act).record = look.signs.map (Sighting.mk act.thread) ++ state.record := by
  unfold State.step
  rw [busy]
  exact ⟨rfl, if_pos rfl, rfl⟩

theorem ends_next (errand : Errand) (manager : Manager) (result : Except PassError Answer)
    (same : (state.step act).system = state.system)
    (later : Ends (state.step act) act errand manager result) : Ends state act errand manager result := by
  obtain ⟨turns, earlier, left, away, record⟩ := later
  rw [same] at left
  exact ⟨turns + 1, earlier, left, away, record⟩

theorem ends_now (errand : Errand) (chore : Chore) (manager : Manager) (result : Except PassError Answer)
    (signs : List Sign) (busy : state.desks act.thread = .busy chore)
    (last : chore.run act.reply state.system.manager state.record = ⟨manager, .away, .answered errand result :: signs⟩) :
    Ends state act errand manager result := by
  obtain ⟨left, away, record⟩ := chore_step state act chore busy
  rw [last] at left away record
  exact ⟨1, signs.map (Sighting.mk act.thread) ++ state.record, left, away, record⟩

theorem ends_store (errand : Errand) (chore next : Chore) (sign : Sign) (manager : Manager)
    (result : Except PassError Answer) (busy : state.desks act.thread = .busy chore)
    (store : chore.run act.reply state.system.manager state.record = ⟨manager, .busy next, [sign]⟩)
    (later : ∀ after : State, after.system = { state.system with manager } → after.desks act.thread = .busy next →
      Ends after act errand manager result) :
    Ends state act errand manager result := by
  obtain ⟨stored, desk, _⟩ := chore_step state act chore busy
  rw [store] at stored desk
  obtain ⟨turns, earlier, left, away, record⟩ := later _ stored desk
  rw [stored] at left
  exact ⟨turns + 1, earlier, left, away, record⟩

theorem ends_load (errand : Errand) (chore next : Chore) (signs : List Sign) (manager : Manager)
    (result : Except PassError Answer) (busy : state.desks act.thread = .busy chore)
    (load : chore.run act.reply state.system.manager state.record = ⟨state.system.manager, .busy next, signs⟩)
    (later : ∀ after : State, after.system = state.system → after.desks act.thread = .busy next →
      after.record = signs.map (Sighting.mk act.thread) ++ state.record → Ends after act errand manager result) :
    Ends state act errand manager result := by
  obtain ⟨left, desk, record⟩ := chore_step state act chore busy
  rw [load] at left desk record
  exact ends_next state act errand manager result left (later _ left desk record)

theorem report_alone (time : Timestamp) (begun : state.desks act.thread = .busy (.begin (.report time))) :
    Ends state act (.report time) state.system.manager
      (.ok (.report (ClusterReport.ofManager state.system.manager state.system.manager.cluster time))) := by
  let manager := state.system.manager
  refine ends_load state act _ _ (.listing time manager.cluster) [.sawCluster manager.cluster] _ _ begun rfl
    fun listing first busy _ => ?_
  refine ends_load listing act _ _ (.naming time manager.cluster manager.nodes) [.sawNodes manager.nodes] _ _ busy ?_
    fun naming second busy _ => ?_
  · rw [first]
    rfl
  refine ends_load naming act _ _ (.closing time manager.cluster manager.nodes manager.lastPass?)
    [.sawPass manager.lastPass?] _ _ busy ?_ fun closing third busy _ => ?_
  · rw [second, first]
    rfl
  refine ends_now closing act _ _ _ _ [] busy ?_
  rw [third, second, first]
  rfl

section Recheck

variable (name : String) (snapshot : Node.Snapshot)
  (begun : state.desks act.thread = .busy (.begin (.recheck name)))
  (known : state.system.manager.nodes.lookup name = some snapshot)

include begun known

theorem asking_alone (manager : Manager) (result : Except PassError Answer)
    (later : ∀ after : State, after.system = state.system →
      after.desks act.thread = .busy (.asking name (editions name state.record)) →
      after.record = ⟨act.thread, .fetched name (editions name state.record)⟩ :: state.record →
        Ends after act (.recheck name) manager result) :
    Ends state act (.recheck name) manager result := by
  refine ends_load state act _ _ (.asking name (editions name state.record))
    [.fetched name (editions name state.record)] _ _ begun ?_ later
  simp only [Chore.run, Errand.run, known]

theorem recheck_alone (supported : Bool) (reply : act.reply = .ok supported) :
    Ends state act (.recheck name) (state.system.manager.setHeartbeat name snapshot supported)
      (.ok (.flag supported)) := by
  refine asking_alone state act name snapshot begun known _ _ fun asking first busy fetched => ?_
  refine ends_load asking act _ _ (.beating name (editions name state.record) supported) [.heard name supported] _ _
    busy ?_ fun beating second busy heard => ?_
  · rw [first]
    simp only [Chore.run, reply]
  -- The snapshot that the thread has found is still the one that stands in the map.
  have current : editions name beating.record = editions name state.record := by
    rw [heard, fetched]
    rfl
  refine ends_store beating act _ _ (.replying name supported) (.beat name (editions name state.record) supported)
    _ _ busy ?_ fun replying stored busy => ?_
  · rw [second, first]
    simp only [Chore.run, current, if_true, withBeat, known]
    rfl
  · refine ends_now replying act _ _ _ _ [] busy ?_
    rw [stored]
    rfl

theorem recheck_fails_alone (error : PassError) (reply : act.reply = .error error) :
    Ends state act (.recheck name) state.system.manager (.error error) := by
  refine asking_alone state act name snapshot begun known _ _ fun asking first busy _ => ?_
  refine ends_now asking act _ _ _ _ [] busy ?_
  rw [first]
  simp only [Chore.run, reply]

theorem asked_alone (outside : Outside)
    (asked : (state.system.manager.askHeartbeat name snapshot outside).result = act.reply.mapError .failed) :
    let call := (state.system.manager.askHeartbeat name snapshot outside).map .flag
    ∃ result, call.result = result.mapError .failed ∧ Ends state act (.recheck name) call.manager result := by
  intro call
  rcases state.system.manager.ask_heartbeat_cases name snapshot outside with
    ⟨stop, result, left⟩ | ⟨supported, result, left⟩
  · have kept : call.manager = state.system.manager := left
    cases reply : act.reply with
    | ok supported =>
        rw [reply, result] at asked
        cases asked
    | error error =>
        rw [reply] at asked
        rw [kept]
        exact ⟨.error error, congrArg (Except.map Answer.flag) asked,
          recheck_fails_alone state act name snapshot begun known error reply⟩
  · have beaten : call.manager = state.system.manager.setHeartbeat name snapshot supported := left
    cases reply : act.reply with
    | error error =>
        rw [reply, result] at asked
        cases asked
    | ok heard =>
        rw [reply, result] at asked
        cases asked
        rw [beaten]
        exact ⟨.ok (.flag supported), congrArg (Except.map Answer.flag) result,
          recheck_alone state act name snapshot begun known supported reply⟩

end Recheck

theorem errand_alone (outside : Outside) (errand : Errand) (ready : state.system.manager.phase = .ready)
    (begun : state.desks act.thread = .busy (.begin errand))
    (replies : Replies state.system.manager outside act.reply errand) :
    let call := state.system.manager.perform ⟨errand.request, outside⟩
    ∃ result, call.result = result.mapError .failed ∧ Ends state act errand call.manager result := by
  intro call
  cases errand with
  | flag read =>
      have same : call = (state.system.manager.gated outside fun after => read after.cluster).map .flag := rfl
      rw [same, state.system.manager.gated_ready outside ready]
      exact ⟨.ok (.flag (read state.system.manager.cluster)), rfl, ends_now state act _ _ _ _ [] begun rfl⟩
  | capabilities =>
      have same : call = (state.system.manager.gated outside Manager.cluster).map .cluster := rfl
      rw [same, state.system.manager.gated_ready outside ready]
      exact ⟨.ok (.cluster state.system.manager.cluster), rfl, ends_now state act _ _ _ _ [] begun rfl⟩
  | node name =>
      have same : call = (state.system.manager.findNode name).map .snapshot :=
        congrArg (Call.map · Answer.snapshot) (state.system.manager.node_ready outside ready name)
      cases known : state.system.manager.nodes.lookup name with
      | none =>
          rw [same, Manager.find_node_unknown _ name known]
          refine ⟨.error (.nodeNotFound name), rfl, ends_now state act _ _ _ _ [] begun ?_⟩
          simp only [Chore.run, Errand.run, found, known]
          rfl
      | some snapshot =>
          rw [same, Manager.find_node_known _ name snapshot known]
          refine ⟨.ok (.snapshot snapshot), rfl, ends_now state act _ _ _ _ [] begun ?_⟩
          simp only [Chore.run, Errand.run, found, known]
          rfl
  | recheck name =>
      have same : call = ((state.system.manager.findNode name).andThen fun after snapshot =>
          after.askHeartbeat name snapshot outside).map .flag :=
        congrArg (Call.map · Answer.flag) (state.system.manager.recheck_ready outside ready name)
      cases known : state.system.manager.nodes.lookup name with
      | none =>
          rw [same, Manager.find_node_unknown _ name known]
          refine ⟨.error (.nodeNotFound name), rfl, ends_now state act _ _ _ _ [] begun ?_⟩
          simp only [Chore.run, Errand.run, known]
          rfl
      | some snapshot =>
          rw [same, Manager.find_node_known _ name snapshot known, Call.pure_and_then]
          exact asked_alone state act name snapshot begun known outside (replies name snapshot rfl known)
  | report time =>
      have same : call = (ClusterReport.collect state.system.manager outside time).map .report := rfl
      rw [same, state.system.manager.collect_ready outside ready time]
      exact ⟨_, rfl, report_alone state act time begun⟩

end

end Service

end ClusterCaps
