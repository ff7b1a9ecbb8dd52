import ClusterCaps.Proofs.Manager.History

set_option autoImplicit false

namespace ClusterCaps

def Node.Snapshot.steady (snapshot : Node.Snapshot) : Node.Snapshot := { snapshot with heartbeat := false }

namespace Manager

-- Only the phase tells that a pass is under way.
theorem during_eq (manager : Manager) (restore : Phase) :
    manager.during restore = { manager with phase := (manager.during restore).phase } := by
  unfold during
  split <;> rfl

theorem during_ready (manager : Manager) (restore : Phase) (busy : (manager.during restore).phase = .ready) :
    manager.during restore = manager := by
  unfold during at busy ⊢
  split
  · rfl
  · next other =>
      rw [if_neg other] at busy
      cases busy

theorem run_pass_unwound (manager : Manager) (restore : Phase) (outside : Outside)
    (unwound : manager.passResult outside = .error .unwound) :
    (manager.runPass restore outside).manager = manager.during restore := by
  unfold passResult at unwound
  unfold runPass
  simp only [unwound]

inductive Opens (manager : Manager) (outside : Outside) : List Manager → Manager → Prop where
  | known : Opens manager outside [] manager
  | passed (restore : Phase) (fits : restore = .ready ↔ manager.phase = .ready) :
      Opens manager outside [manager.during restore] (manager.runPass restore outside).manager

inductive Settles (request : Request) (result : Except Stop Answer) (opened : Manager) : Manager → Prop where
  | kept : Settles request result opened opened
  | beaten (name : String) (snapshot : Node.Snapshot) (supported : Bool) (asked : request = .recheck name)
      (answered : result = .ok (.flag supported)) (known : opened.nodes.lookup name = some snapshot) :
      Settles request result opened (opened.setHeartbeat name snapshot supported)
  | forgotten : Settles request result opened opened.reset.manager

theorem ensure_ready_opens (manager : Manager) (outside : Outside) :
    Opens manager outside (manager.ensureReady manager.passes outside).effects.observed
      (manager.ensureReady manager.passes outside).manager := by
  by_cases ready : manager.phase = .ready
  · rw [ensure_ready_ready manager outside ready]
    exact .known
  · rw [ensure_ready_pending manager outside ready, run_pass_observed]
    have fits : Phase.uninitialized = .ready ↔ manager.phase = .ready := by simp [ready]
    exact .passed .uninitialized fits

theorem refresh_opens (manager : Manager) (outside : Outside) :
    Opens manager outside (manager.refresh outside).effects.observed (manager.refresh outside).manager := by
  unfold refresh
  rw [Call.and_then_observed _ _ fun _ _ => rfl, Call.and_then_manager _ _ fun _ _ => rfl, run_pass_observed]
  refine .passed _ ?_
  by_cases ready : manager.phase = .ready
  · simp [ready]
  · simp [ready]

theorem perform_moves (manager : Manager) (turn : Turn) :
    ∃ opened, Opens manager turn.outside (manager.perform turn).effects.observed opened ∧
      Settles turn.request (manager.perform turn).result opened (manager.perform turn).manager := by
  obtain ⟨request, outside⟩ := turn
  have opens := manager.ensure_ready_opens outside
  cases request with
  | flag read =>
      simp only [perform, Call.map, flag, gated_manager, gated_observed]
      exact ⟨_, opens, .kept⟩
  | capabilities =>
      simp only [perform, Call.map, capabilities, gated_manager, gated_observed]
      exact ⟨_, opens, .kept⟩
  | node name =>
      simp only [perform, Call.map, node_manager, node_observed]
      exact ⟨_, opens, .kept⟩
  | report time =>
      simp only [perform, Call.map, collect_manager, collect_observed]
      exact ⟨_, opens, .kept⟩
  | recheck name =>
      rw [← node_manager manager name] at opens
      simp only [perform, Call.map, recheck_observed]
      refine ⟨_, opens, ?_⟩
      rcases manager.recheck_cases name outside with ⟨stop, result, left⟩ | ⟨snapshot, supported, found, result, left⟩
      · rw [left]
        exact .kept
      · rw [left, result]
        exact .beaten name snapshot supported rfl rfl (node_ok manager name outside snapshot found)
  | refresh => exact ⟨_, manager.refresh_opens outside, .kept⟩
  | reset => exact ⟨manager, .known, .forgotten⟩
  | look => exact ⟨manager, .known, .kept⟩

-- What a pass keeps, and a noted heartbeat and a reset as well, every call keeps.
theorem perform_keeps (manager : Manager) (turn : Turn) (Holds : Manager → Prop)
    (known : (manager.perform turn).effects.observed = [] → Holds manager)
    (passed : ∀ restore, (restore = .ready ↔ manager.phase = .ready) →
      (manager.perform turn).effects.observed = [manager.during restore] →
        Holds (manager.runPass restore turn.outside).manager)
    (beaten : ∀ opened name snapshot supported, turn.request = .recheck name →
      (manager.perform turn).result = .ok (.flag supported) → opened.nodes.lookup name = some snapshot →
        Holds opened → Holds (opened.setHeartbeat name snapshot supported))
    (forgotten : ∀ opened, Holds opened → Holds opened.reset.manager) :
    Holds (manager.perform turn).manager := by
  obtain ⟨opened, opens, settles⟩ := manager.perform_moves turn
  have before : Holds opened := by
    generalize (manager.perform turn).effects.observed = observed at opens known passed
    cases opens with
    | known => exact known rfl
    | passed restore fits => exact passed restore fits rfl
  generalize (manager.perform turn).manager = left at settles ⊢
  cases settles with
  | kept => exact before
  | beaten name snapshot supported asked answered looked =>
      exact beaten opened name snapshot supported asked answered looked before
  | forgotten => exact forgotten opened before

end Manager

end ClusterCaps
