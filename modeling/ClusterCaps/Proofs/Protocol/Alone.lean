import ClusterCaps.Proofs.Manager.History
import ClusterCaps.Proofs.Protocol.Step

set_option autoImplicit false

namespace ClusterCaps

namespace Protocol

section

variable (move : Move) (rest : Nat → Point)

def alone (holder? : Option Nat) (point : Point) (manager : Manager) (history : List Event) : System :=
  ⟨manager, holder?, fun other => if other = move.thread then point else rest other, history⟩

def Leads (before after : System) : Prop := ∃ turns, before.after (List.replicate turns move) = after

theorem leads_next (before after : System) (later : Leads move (before.step move) after) :
    Leads move before after := by
  obtain ⟨turns, same⟩ := later
  exact ⟨turns + 1, same⟩

theorem leads_trans (before middle after : System) (first : Leads move before middle)
    (second : Leads move middle after) : Leads move before after := by
  obtain ⟨early, same⟩ := first
  obtain ⟨late, whole⟩ := second
  refine ⟨early + late, ?_⟩
  unfold System.after at same whole ⊢
  rw [← List.replicate_append_replicate, List.foldl_append, same, whole]

theorem alone_place (holder? : Option Nat) (point next : Point) (manager : Manager) (mark? : Option Mark)
    (history : List Event) :
    (alone move rest holder? point manager history).place move.thread next mark? =
      alone move rest holder? next manager (log move.thread mark? history) := by
  simp only [alone, System.place, System.mk.injEq, true_and, and_true]
  funext other
  by_cases same : other = move.thread
  · rw [if_pos same, if_pos same]
  · rw [if_neg same, if_neg same, if_neg same]

theorem alone_point (holder? : Option Nat) (point : Point) (manager : Manager) (history : List Event) :
    (alone move rest holder? point manager history).points move.thread = point := if_pos rfl

theorem busy_step (manager : Manager) (work : Work) (history : List Event) :
    (alone move rest (some move.thread) (.inside work) manager history).step move =
      let effect := work.run move manager
      match effect.next? with
      | some next =>
          alone move rest (some move.thread) (.inside next) effect.manager (log move.thread effect.mark? history)
      | none => alone move rest none .idle effect.manager (log move.thread effect.mark? history) := by
  unfold System.step
  rw [alone_point]
  dsimp only
  change (match (work.run move manager).next? with | some next => _ | none => _) = _
  cases (work.run move manager).next? with
  | some next => exact alone_place move rest (some move.thread) (.inside work) (.inside next) _ _ history
  | none => exact alone_place move rest none (.inside work) .idle _ _ history

theorem busy_leads (manager changed : Manager) (work next : Work) (mark? : Option Mark) (history : List Event)
    (after : System) (ran : work.run move manager = ⟨changed, some next, mark?⟩)
    (later : Leads move
      (alone move rest (some move.thread) (.inside next) changed (log move.thread mark? history)) after) :
    Leads move (alone move rest (some move.thread) (.inside work) manager history) after := by
  refine leads_next move _ after ?_
  rw [busy_step, ran]
  exact later

theorem release_leads (manager changed : Manager) (work : Work) (mark? : Option Mark) (history : List Event)
    (ran : work.run move manager = ⟨changed, none, mark?⟩) :
    Leads move (alone move rest (some move.thread) (.inside work) manager history)
      (alone move rest none .idle changed (log move.thread mark? history)) := by
  refine leads_next move _ _ ?_
  rw [busy_step, ran]
  exact ⟨0, rfl⟩

theorem leaving_leads (manager : Manager) (result : Except PassError Unit) (history : List Event) :
    Leads move (alone move rest (some move.thread) (.inside (.leaving result)) manager history)
      (alone move rest none .idle manager (⟨move.thread, .returned result⟩ :: history)) :=
  release_leads move rest manager manager (.leaving result) (some (.returned result)) history rfl

theorem parting_leads (manager : Manager) (history : List Event) :
    Leads move (alone move rest (some move.thread) (.inside .parting) manager history)
      (alone move rest none .idle manager history) :=
  release_leads move rest manager manager .parting none history rfl

theorem inserting_all (manager : Manager) (first : Bool) (restore : Phase) (findings : Findings)
    (entries : List (String × Node.Snapshot)) (history : List Event) :
    Leads move
      (alone move rest (some move.thread) (.inside (.passing first restore (.inserting findings entries)))
        manager history)
      (alone move rest (some move.thread) (.inside (.passing first restore (.inserting findings [])))
        { manager with nodes := manager.nodes.insertAll entries } history) := by
  induction entries generalizing manager with
  | nil => exact ⟨0, rfl⟩
  | cons entry entries ih => exact busy_leads move rest manager _ _ _ none history _ rfl (ih _)

theorem failing_pass (manager : Manager) (first : Bool) (restore : Phase) (history : List Event)
    (error : PassError) (fails : move.outcome = .error error) :
    Leads move
      (alone move rest (some move.thread) (.inside (.passing first restore .starting)) manager history)
      (alone move rest (some move.thread) (.inside (.passing first restore (.counting (.error error))))
        { manager.during restore with
          phase := restore, lastPass? := some move.passId, lastError? := some error }
        (⟨move.thread, .began manager.phase⟩ :: history)) := by
  refine busy_leads move rest _ _ _ _ _ _ _ rfl ?_
  refine busy_leads move rest _ _ _ _ _ _ _ rfl ?_
  rw [fails]
  refine busy_leads move rest _ _ _ _ _ _ _ rfl ?_
  refine busy_leads move rest _ _ _ _ _ _ _ rfl ?_
  refine busy_leads move rest _ _ _ _ _ _ _ rfl ?_
  exact ⟨0, rfl⟩

theorem succeeding_pass (manager : Manager) (first : Bool) (restore : Phase) (history : List Event)
    (findings : Findings) (found : move.outcome = .ok findings) :
    Leads move
      (alone move rest (some move.thread) (.inside (.passing first restore .starting)) manager history)
      (alone move rest (some move.thread) (.inside (.passing first restore (.counting (.ok ()))))
        { (manager.during restore).publish findings with
          phase := .ready, lastPass? := some move.passId, lastError? := none }
        (⟨move.thread, .began manager.phase⟩ :: history)) := by
  refine busy_leads move rest _ _ _ _ _ _ _ rfl ?_
  refine busy_leads move rest _ _ _ _ _ _ _ rfl ?_
  rw [found]
  refine busy_leads move rest _ _ _ _ _ _ _ rfl ?_
  refine leads_trans move _ _ _ (inserting_all move rest _ first restore findings findings.snapshots _) ?_
  refine busy_leads move rest _ _ _ _ _ _ _ rfl ?_
  refine busy_leads move rest _ _ _ _ _ _ _ rfl ?_
  refine busy_leads move rest _ _ _ _ _ _ _ rfl ?_
  refine busy_leads move rest _ _ _ _ _ _ _ rfl ?_
  refine busy_leads move rest _ _ _ _ _ _ _ rfl ?_
  exact ⟨0, rfl⟩

variable (outside : Outside)

structure Alike (manager : Manager) : Prop where
  outcome : manager.passResult outside = move.outcome.mapError .failed
  passId : move.passId = outside.passId

theorem pass_alone (manager : Manager) (first : Bool) (restore : Phase) (history : List Event)
    (alike : Alike move outside manager) :
    let call := manager.runPass restore outside
    ∃ outcome, call.result = outcome.mapError .failed ∧
      Leads move
        (alone move rest (some move.thread) (.inside (.passing first restore .starting)) manager history)
        (alone move rest (some move.thread) (.inside (.afterPass first outcome)) call.manager
          (⟨move.thread, .completed first outcome⟩ :: ⟨move.thread, .began manager.phase⟩ :: history)) := by
  have same := alike.outcome
  cases ends : move.outcome with
  | error error =>
      rw [ends] at same
      obtain ⟨result, left⟩ := Manager.run_pass_failed manager restore outside error same
      refine ⟨.error error, result, ?_⟩
      rw [left, ← alike.passId]
      refine leads_trans move _ _ _ (failing_pass move rest manager first restore history error ends) ?_
      refine busy_leads move rest _ _ _ _ _ _ _ rfl ?_
      cases manager.during restore
      exact ⟨0, rfl⟩
  | ok findings =>
      rw [ends] at same
      obtain ⟨result, left⟩ := Manager.run_pass_succeeded manager restore outside findings same
      refine ⟨.ok (), result, ?_⟩
      rw [left, ← alike.passId]
      refine leads_trans move _ _ _ (succeeding_pass move rest manager first restore history findings ends) ?_
      refine busy_leads move rest _ _ _ _ _ _ _ rfl ?_
      exact ⟨0, rfl⟩

theorem first_pass_alone (manager : Manager) (history : List Event) (alike : Alike move outside manager) :
    let call := manager.runPass .uninitialized outside
    ∃ result marks, call.result = result.mapError .failed ∧
      Leads move
        (alone move rest (some move.thread) (.inside (.passing true .uninitialized .starting)) manager history)
        (alone move rest none .idle call.manager (⟨move.thread, .returned result⟩ :: (marks ++ history))) := by
  obtain ⟨outcome, result, passed⟩ := pass_alone move rest outside manager true .uninitialized history alike
  refine ⟨outcome, [⟨move.thread, .completed true outcome⟩, ⟨move.thread, .began manager.phase⟩], result, ?_⟩
  refine leads_trans move _ _ _ passed ?_
  exact leaving_leads move rest _ outcome _

theorem holding_alone (manager : Manager) (seen : Nat) (history : List Event)
    (alike : Alike move outside manager) :
    let call := manager.ensureReady seen outside
    ∃ result marks, call.result = result.mapError .failed ∧
      Leads move (alone move rest (some move.thread) (.inside (.holding seen)) manager history)
        (alone move rest none .idle call.manager (⟨move.thread, .returned result⟩ :: (marks ++ history))) := by
  by_cases ready : manager.phase = .ready
  · have opened : manager.ensureReady seen outside = Call.pure manager () := if_pos ready
    rw [opened]
    refine ⟨.ok (), [], rfl, ?_⟩
    refine busy_leads move rest manager manager _ (.leaving (.ok ())) none history _ ?_ ?_
    · simp only [Work.run, if_pos ready]
    · exact leaving_leads move rest manager _ history
  · have looked : Work.run move manager (.holding seen) = ⟨manager, some (.comparing seen), none⟩ := by
      simp only [Work.run, if_neg ready]
    have own : ∀ work, Work.run move manager work = ⟨manager, some (.passing true .uninitialized .starting), none⟩ →
        manager.ensureReady seen outside = manager.runPass .uninitialized outside →
        ∃ result marks, (manager.ensureReady seen outside).result = result.mapError .failed ∧
          Leads move (alone move rest (some move.thread) (.inside work) manager history)
            (alone move rest none .idle (manager.ensureReady seen outside).manager
              (⟨move.thread, .returned result⟩ :: (marks ++ history))) := by
      intro work ran same
      rw [same]
      obtain ⟨result, marks, told, passed⟩ := first_pass_alone move rest outside manager history alike
      exact ⟨result, marks, told, busy_leads move rest manager manager _ _ none history _ ran passed⟩
    by_cases same : manager.passes = seen
    · obtain ⟨result, marks, told, passed⟩ := own (.comparing seen)
        (by simp only [Work.run, if_pos same]) (by simp only [Manager.ensureReady, if_neg ready, if_pos same])
      exact ⟨result, marks, told, busy_leads move rest manager manager _ _ none history _ looked passed⟩
    · have compared : Work.run move manager (.comparing seen) = ⟨manager, some (.sharing seen), none⟩ := by
        simp only [Work.run, if_neg same]
      cases blamed : manager.lastError? with
      | none =>
          obtain ⟨result, marks, told, passed⟩ := own (.sharing seen) (by simp only [Work.run, blamed])
            (by simp only [Manager.ensureReady, if_neg ready, if_neg same, blamed])
          refine ⟨result, marks, told, busy_leads move rest manager manager _ _ none history _ looked ?_⟩
          exact busy_leads move rest manager manager _ _ none history _ compared passed
      | some error =>
          have shared : manager.ensureReady seen outside = Call.fail manager error := by
            simp only [Manager.ensureReady, if_neg ready, if_neg same, blamed]
          rw [shared]
          refine ⟨.error error, [], rfl, busy_leads move rest manager manager _ _ none history _ looked ?_⟩
          refine busy_leads move rest manager manager _ _ none history _ compared ?_
          refine busy_leads move rest manager manager _ (.leaving (.error error)) none history _ ?_ ?_
          · simp only [Work.run, blamed]
          · exact leaving_leads move rest manager _ history

theorem acquire_leads (manager : Manager) (work : Work) (history : List Event) :
    Leads move (alone move rest none (.wanting work) manager history)
      (alone move rest (some move.thread) (.inside work) manager history) := by
  refine leads_next move _ _ ⟨0, ?_⟩
  change (alone move rest none (.wanting work) manager history).step move = _
  unfold System.step
  rw [alone_point]
  exact alone_place move rest (some move.thread) (.wanting work) (.inside work) manager none history

theorem idle_leads (manager : Manager) (point : Point) (mark : Mark) (history : List Event)
    (entered : ∀ system : System, system.enter move.thread move.ask = system.place move.thread point (some mark)) :
    Leads move (alone move rest none .idle manager history)
      (alone move rest none point manager (⟨move.thread, mark⟩ :: history)) := by
  refine leads_next move _ _ ⟨0, ?_⟩
  change (alone move rest none .idle manager history).step move = _
  unfold System.step
  rw [alone_point]
  exact (entered _).trans (alone_place move rest none .idle point manager (some mark) history)

theorem entered_leads (manager : Manager) (history : List Event) :
    Leads move (alone move rest none .entered manager history)
      (alone move rest none (.noted manager.passes) manager (⟨move.thread, .noted⟩ :: history)) := by
  refine leads_next move _ _ ⟨0, ?_⟩
  change (alone move rest none .entered manager history).step move = _
  unfold System.step
  rw [alone_point]
  exact alone_place move rest none .entered (.noted manager.passes) manager (some .noted) history

theorem noted_step (manager : Manager) (seen : Nat) (history : List Event) :
    (alone move rest none (.noted seen) manager history).step move =
      if manager.phase = .ready then
        alone move rest none .idle manager (⟨move.thread, .returned (.ok ())⟩ :: history)
      else alone move rest none (.wanting (.holding seen)) manager history := by
  unfold System.step
  rw [alone_point]
  by_cases ready : manager.phase = .ready
  · rw [if_pos ready]
    refine (if_pos ready).trans ?_
    exact alone_place move rest none (.noted seen) .idle manager (some (.returned (.ok ()))) history
  · rw [if_neg ready]
    refine (if_neg ready).trans ?_
    exact alone_place move rest none (.noted seen) (.wanting (.holding seen)) manager none history

theorem ensure_alone (manager : Manager) (history : List Event) (asked : move.ask = .ensure)
    (alike : Alike move outside manager) :
    let call := manager.ensureReady manager.passes outside
    ∃ result marks, call.result = result.mapError .failed ∧
      Leads move (alone move rest none .idle manager history)
        (alone move rest none .idle call.manager (⟨move.thread, .returned result⟩ :: (marks ++ history))) := by
  let record : List Event := [⟨move.thread, .noted⟩, ⟨move.thread, .called .ensure⟩]
  have noting : Leads move (alone move rest none .idle manager history)
      (alone move rest none (.noted manager.passes) manager (record ++ history)) :=
    leads_trans move _ _ _
      (idle_leads move rest manager .entered (.called .ensure) history fun system => by rw [asked]; rfl)
      (entered_leads move rest manager _)
  have looked := noted_step move rest manager manager.passes (record ++ history)
  by_cases ready : manager.phase = .ready
  · rw [if_pos ready] at looked
    rw [Manager.ensure_ready_ready manager outside ready]
    exact ⟨.ok (), record, rfl, leads_trans move _ _ _ noting (leads_next move _ _ ⟨0, looked⟩)⟩
  · rw [if_neg ready] at looked
    obtain ⟨result, marks, told, held⟩ :=
      holding_alone move rest outside manager manager.passes (record ++ history) alike
    refine ⟨result, marks ++ record, told, leads_trans move _ _ _ noting (leads_next move _ _ ?_)⟩
    rw [looked, List.append_assoc]
    exact leads_trans move _ _ _ (acquire_leads move rest manager (.holding manager.passes) _) held

theorem refresh_alone (manager : Manager) (history : List Event) (asked : move.ask = .refresh)
    (alike : Alike move outside manager) :
    ∃ marks, Leads move (alone move rest none .idle manager history)
      (alone move rest none .idle (manager.refresh outside).manager (marks ++ history)) := by
  have restored : Work.run move manager .choosing =
      ⟨manager, some (.passing false (if manager.phase = .ready then .ready else .uninitialized) .starting), none⟩ := rfl
  obtain ⟨outcome, result, passed⟩ := pass_alone move rest outside manager false
    (if manager.phase = .ready then .ready else .uninitialized) (⟨move.thread, .called .refresh⟩ :: history) alike
  have left : (manager.refresh outside).manager =
      (manager.runPass (if manager.phase = .ready then .ready else .uninitialized) outside).manager :=
    Call.and_then_manager _ _ fun _ _ => rfl
  refine ⟨[⟨move.thread, .completed false outcome⟩, ⟨move.thread, .began manager.phase⟩,
    ⟨move.thread, .called .refresh⟩], ?_⟩
  rw [left]
  refine leads_trans move _ _ _ (idle_leads move rest manager (.wanting .choosing) (.called .refresh) history
    fun system => by rw [asked]; rfl) ?_
  refine leads_trans move _ _ _ (acquire_leads move rest manager .choosing _) ?_
  refine busy_leads move rest manager manager _ _ none _ _ restored ?_
  refine leads_trans move _ _ _ passed ?_
  cases outcome with
  | error error => exact parting_leads move rest _ _
  | ok _ =>
      refine busy_leads move rest _ _ _ _ _ _ _ rfl ?_
      exact parting_leads move rest _ _

theorem reset_alone (manager : Manager) (history : List Event) (asked : move.ask = .reset) :
    ∃ marks, Leads move (alone move rest none .idle manager history)
      (alone move rest none .idle manager.reset.manager (marks ++ history)) := by
  refine ⟨[⟨move.thread, .forgot⟩, ⟨move.thread, .called .reset⟩], ?_⟩
  refine leads_trans move _ _ _ (idle_leads move rest manager (.wanting (.clearing .nodes)) (.called .reset) history
    fun system => by rw [asked]; rfl) ?_
  refine leads_trans move _ _ _ (acquire_leads move rest manager (.clearing .nodes) _) ?_
  refine busy_leads move rest _ _ _ _ _ _ _ rfl ?_
  refine busy_leads move rest _ _ _ _ _ _ _ rfl ?_
  refine busy_leads move rest _ _ _ _ _ _ _ rfl ?_
  refine busy_leads move rest _ _ _ _ _ _ _ rfl ?_
  refine busy_leads move rest _ _ _ _ _ _ _ rfl ?_
  exact parting_leads move rest _ _

end

end Protocol

end ClusterCaps
