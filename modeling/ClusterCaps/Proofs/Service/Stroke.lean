import ClusterCaps.Proofs.Protocol.Initialization
import ClusterCaps.Proofs.Service.Invariant

set_option autoImplicit false

namespace ClusterCaps

namespace Service

open Protocol

def without (nodes : NameMap Node.Snapshot) (name : String) : NameMap Node.Snapshot :=
  nodes.filter fun entry => entry.1 != name

def departing (name : String) : Point → Bool
  | .inside (.passing _ _ (.inserting findings [])) => !findings.names.contains name
  | _ => false

-- What a thread does at a time. With its own step a pass takes away all departed nodes that are still there.
inductive Stroke where
  | perform (act : Act)
  | drop (thread : Nat) (name : String)

def Stroke.isOf (thread : Nat) : Stroke → Bool
  | .perform act => act.thread == thread
  | .drop _ _ => false

namespace State

def withNodes (state : State) (nodes : NameMap Node.Snapshot) : State :=
  { state with system := { state.system with manager := { state.system.manager with nodes } } }

def drop (state : State) (thread : Nat) (name : String) : State :=
  if departing name (state.system.points thread) then state.withNodes (without state.system.manager.nodes name)
  else state

def stroke (state : State) : Stroke → State
  | .perform act => state.step act
  | .drop thread name => state.drop thread name

def follow (state : State) (strokes : List Stroke) : State := strokes.foldl stroke state

theorem follow_acts (state : State) (schedule : List Act) :
    state.follow (schedule.map Stroke.perform) = state.after schedule := by
  rw [follow, List.foldl_map]
  rfl

theorem follow_append (state : State) (first second : List Stroke) :
    state.follow (first ++ second) = (state.follow first).follow second := List.foldl_append

end State

theorem lookup_without (nodes : NameMap Node.Snapshot) (name other : String) (apart : name ≠ other) :
    (without nodes other).lookup name = nodes.lookup name := by
  induction nodes with
  | nil => rfl
  | cons entry rest ih =>
      obtain ⟨key, snapshot⟩ := entry
      change (List.filter _ rest).lookup name = rest.lookup name at ih
      rw [without, List.filter_cons]
      by_cases gone : key = other
      · subst gone
        have differs : (name == key) = false := by simpa using apart
        simp [List.lookup_cons, differs, ih]
      · simp [List.lookup_cons, gone, ih]

theorem retain_without (nodes : NameMap Node.Snapshot) (names : List String) (name : String)
    (departed : name ∉ names) : (without nodes name).retain names = nodes.retain names := by
  rw [without, NameMap.retain, NameMap.retain, List.filter_filter]
  refine List.filter_congr fun entry _ => ?_
  by_cases same : entry.1 = name
  · simp [same, departed]
  · simp [same]

-- However many departed nodes have been taken away before, and in whichever order, the step comes to the same.
theorem drops_before_step (system : System) (move : Move) (first : Bool) (restore : Phase) (findings : Findings)
    (gone : List String) (point : system.points move.thread = .inside (.passing first restore (.inserting findings [])))
    (departed : ∀ name ∈ gone, name ∉ findings.names) :
    ({ system with manager :=
      { system.manager with nodes := gone.foldl without system.manager.nodes } } : System).step move =
        system.step move := by
  have same (nodes : NameMap Node.Snapshot) :
      (gone.foldl without nodes).retain findings.names = nodes.retain findings.names := by
    induction gone generalizing nodes with
    | nil => rfl
    | cons name gone ih =>
        obtain ⟨here, later⟩ := List.forall_mem_cons.mp departed
        rw [List.foldl_cons, ih later, retain_without nodes findings.names name here]
  unfold Findings.names at same
  simp only [System.step, point, Work.run, Stage.run, same]

def Entrance (point : Point) (sign : Sign) : Prop :=
  (∃ errand, sign = .admitted errand) ∨
    ∃ errand error, sign = .refused errand error ∧ point = .inside (.leaving (.error error))

def State.work (state : State) (act : Act) (chore : Chore) : State :=
  let look := chore.run act.reply state.system.manager state.record
  { state with system := { state.system with manager := look.manager } }.seat act.thread look.desk look.signs

inductive Comes (state : State) : Stroke → State → Prop where
  | advanced (act : Act) (desk : Desk) (sign? : Option Sign)
      (entrance : ∀ sign, sign? = some sign → Entrance (state.system.points act.thread) sign) :
      Comes state (.perform act) (state.advance act desk sign?)
  | worked (act : Act) (chore : Chore) (busy : state.desks act.thread = .busy chore) :
      Comes state (.perform act) (state.work act chore)
  | dropped (thread : Nat) (name : String) (leaves : departing name (state.system.points thread) = true) :
      Comes state (.drop thread name) (state.withNodes (without state.system.manager.nodes name))
  | rested (thread : Nat) (name : String) : Comes state (.drop thread name) state

theorem gate_error (manager : Manager) (point : Point) (error : PassError)
    (failed : gate? manager point = some (.error error)) : point = .inside (.leaving (.error error)) := by
  unfold gate? at failed
  split at failed
  · split at failed <;> cases failed
  · cases failed
    rfl
  · cases failed

theorem stroke_comes (state : State) (stroke : Stroke) : Comes state stroke (state.stroke stroke) := by
  cases stroke with
  | drop thread name =>
      change Comes state _ (state.drop thread name)
      unfold State.drop
      split
      · next leaves => exact .dropped thread name leaves
      · exact .rested thread name
  | perform act =>
      change Comes state _ (state.step act)
      unfold State.step
      cases desk : state.desks act.thread with
      | away => exact .advanced act _ none fun _ same => nomatch same
      | busy chore => exact .worked act chore desk
      | waiting errand =>
          dsimp only
          cases passed : gate? state.system.manager (state.system.points act.thread) with
          | none => exact .advanced act _ none fun _ same => nomatch same
          | some result =>
              cases result with
              | ok _ =>
                  refine .advanced act _ _ fun sign same => ?_
                  cases same
                  exact Or.inl ⟨errand, rfl⟩
              | error error =>
                  refine .advanced act _ _ fun sign same => ?_
                  cases same
                  exact Or.inr ⟨errand, error, rfl, gate_error _ _ error passed⟩

theorem advance_record (state : State) (act : Act) (desk : Desk) (sign? : Option Sign) :
    (state.advance act desk sign?).record = signed act.thread sign?.toList
      (signed act.thread (pointSign? act.outcome (state.system.points act.thread)).toList state.record) := by
  simp only [State.advance, State.seat, signed, List.map_append, List.append_assoc]

theorem comes_grows (state after : State) (stroke : Stroke) (comes : Comes state stroke after) :
    ∃ recent, after.record = recent ++ state.record := by
  cases comes with
  | advanced act desk sign? _ => exact ⟨_, rfl⟩
  | worked act chore _ => exact ⟨_, rfl⟩
  | dropped thread name _ => exact ⟨[], rfl⟩
  | rested thread name => exact ⟨[], rfl⟩

theorem follow_grows (state : State) (strokes : List Stroke) :
    ∃ recent, (state.follow strokes).record = recent ++ state.record := by
  induction strokes generalizing state with
  | nil => exact ⟨[], rfl⟩
  | cons stroke strokes ih =>
      obtain ⟨later, grown⟩ := ih (state.stroke stroke)
      obtain ⟨recent, now⟩ := comes_grows state _ stroke (stroke_comes state stroke)
      refine ⟨later ++ recent, ?_⟩
      rw [List.append_assoc, ← now]
      exact grown

theorem step_elsewhere (system : System) (move : Move) (thread : Nat) (apart : thread ≠ move.thread) :
    (system.step move).points thread = system.points thread := by
  by_cases outside : (system.points move.thread).Outside
  · exact (step_outside system move outside).2 thread apart
  · cases point : system.points move.thread with
    | inside work =>
        unfold System.step
        rw [point]
        dsimp only
        cases (work.run move system.manager).next? with
        | none => exact place_other _ _ _ _ _ apart
        | some next => exact place_other _ _ _ _ _ apart
    | _ =>
        rw [point] at outside
        exact absurd trivial outside

theorem comes_elsewhere (state after : State) (stroke : Stroke) (thread : Nat) (other : stroke.isOf thread = false)
    (comes : Comes state stroke after) :
    after.desks thread = state.desks thread ∧ after.system.points thread = state.system.points thread := by
  have apart (act : Act) (others : (Stroke.perform act).isOf thread = false) : thread ≠ act.thread := by
    rintro rfl
    simp [Stroke.isOf] at others
  cases comes with
  | advanced act desk sign? _ =>
      exact ⟨if_neg (apart act other), step_elsewhere state.system act.move thread (apart act other)⟩
  | worked act chore _ => exact ⟨if_neg (apart act other), rfl⟩
  | dropped thread name _ => exact ⟨rfl, rfl⟩
  | rested thread name => exact ⟨rfl, rfl⟩

namespace State

def Undisturbed (state : State) : Prop := ∀ thread wipe, state.system.points thread ≠ .inside (.clearing wipe)

def Calm (state : State) (strokes : List Stroke) : Prop :=
  ∀ part, part <+: strokes → (state.follow part).Undisturbed

theorem calm_now (state : State) (strokes : List Stroke) (calm : state.Calm strokes) : state.Undisturbed :=
  calm [] List.nil_prefix

theorem calm_part (state : State) (first second : List Stroke) (calm : state.Calm (first ++ second)) :
    state.Calm first :=
  fun part isPrefix => calm part (isPrefix.trans (List.prefix_append first second))

theorem calm_rest (state : State) (first second : List Stroke) (calm : state.Calm (first ++ second)) :
    (state.follow first).Calm second := by
  intro part isPrefix
  rw [← follow_append]
  exact calm (first ++ part) ((List.prefix_append_right_inj first).mpr isPrefix)

end State

def Resets : Point → Prop
  | .wanting (.clearing _) => True
  | .inside (.clearing _) => True
  | _ => False

def Clear (system : System) : Prop := ∀ thread, ¬ Resets (system.points thread)

theorem work_clear (move : Move) (manager : Manager) (work next : Work) (other : ¬ Resets (.inside work))
    (follows : (work.run move manager).next? = some next) : ¬ Resets (.inside next) := by
  cases work with
  | clearing wipe => exact absurd trivial other
  | passing first restore stage =>
      cases stage with
      | counting outcome =>
          cases follows
          cases first <;> cases outcome <;> exact id
      | naming outcome => cases outcome <;> cases follows <;> exact id
      | inserting findings rest => cases rest <;> cases follows <;> exact id
      | _ =>
          cases follows
          exact id
  | holding seen =>
      by_cases ready : manager.phase = .ready <;> simp only [Work.run, ready, if_true, if_false] at follows <;>
        cases follows <;> exact id
  | comparing seen =>
      by_cases same : manager.passes = seen <;> simp only [Work.run, same, if_true, if_false] at follows <;>
        cases follows <;> exact id
  | sharing seen =>
      cases shared : manager.lastError? <;> simp only [Work.run, shared] at follows <;> cases follows <;> exact id
  | leaving result => cases follows
  | parting => cases follows
  | _ =>
      cases follows
      exact id

theorem step_clear (system : System) (move : Move) (unasked : move.ask ≠ .reset) (clear : Clear system) :
    Clear (system.step move) := by
  have placed (before : System) (point : Point) (mark? : Option Mark) (same : before.points = system.points)
      (other : ¬ Resets point) : Clear (before.place move.thread point mark?) := by
    intro thread
    by_cases own : thread = move.thread
    · rw [own, place_same]
      exact other
    · rw [place_other _ _ _ _ _ own, same]
      exact clear thread
  have here := clear move.thread
  unfold System.step
  cases point : system.points move.thread with
  | idle =>
      dsimp only [System.enter]
      cases asked : move.ask with
      | ensure => exact placed system .entered _ rfl id
      | refresh => exact placed system (.wanting .choosing) _ rfl id
      | reset => exact absurd asked unasked
  | entered => exact placed system (.noted _) _ rfl id
  | noted seen =>
      by_cases ready : system.manager.phase = .ready
      · simp only [if_pos ready]
        exact placed system .idle _ rfl id
      · simp only [if_neg ready]
        exact placed system (.wanting (.holding seen)) _ rfl id
  | wanting work =>
      rw [point] at here
      cases system.holder? with
      | some _ => exact clear
      | none =>
          refine placed _ (.inside work) none rfl ?_
          cases work with
          | clearing wipe => exact absurd trivial here
          | _ => exact id
  | inside work =>
      rw [point] at here
      dsimp only
      cases ended : (work.run move system.manager).next? with
      | none => exact placed _ .idle _ rfl id
      | some next => exact placed _ (.inside next) _ rfl (work_clear move system.manager work next here ended)

def Unwished (strokes : List Stroke) : Prop := ∀ act, .perform act ∈ strokes → act.wish ≠ .reset

theorem comes_clear (state after : State) (stroke : Stroke) (unwished : Unwished [stroke])
    (clear : Clear state.system) (comes : Comes state stroke after) : Clear after.system := by
  cases comes with
  | advanced act desk sign? _ =>
      have wish := unwished act List.mem_cons_self
      refine step_clear state.system act.move ?_ clear
      change act.wish.ask ≠ .reset
      cases asked : act.wish with
      | reset => exact absurd asked wish
      | _ => exact nofun
  | worked act chore _ => exact clear
  | dropped thread name _ => exact clear
  | rested thread name => exact clear

theorem follow_clear (state : State) (strokes : List Stroke) (unwished : Unwished strokes)
    (clear : Clear state.system) : Clear (state.follow strokes).system := by
  induction strokes generalizing state with
  | nil => exact clear
  | cons stroke strokes ih =>
      have now : Unwished [stroke] :=
        fun act member => unwished act (List.mem_singleton.mp member ▸ List.mem_cons_self)
      exact ih (state.stroke stroke) (fun act member => unwished act (List.mem_cons_of_mem stroke member))
        (comes_clear state _ stroke now clear (stroke_comes state stroke))

theorem calm_unless_wished (state : State) (strokes : List Stroke) (unwished : Unwished strokes)
    (clear : Clear state.system) : state.Calm strokes := by
  intro part isPrefix thread wipe inside
  have still := follow_clear state part (fun act member => unwished act (isPrefix.subset member)) clear thread
  rw [inside] at still
  exact still trivial

end Service

end ClusterCaps
