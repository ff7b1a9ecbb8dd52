import ClusterCaps.Proofs.Protocol.Trace

set_option autoImplicit false

namespace ClusterCaps

namespace Protocol

def Stage.phaseOf (restore : Phase) : Stage → Phase
  | .starting => restore
  | .blaming _ => restore
  | .counting (.error _) => restore
  | .counting (.ok _) => .ready
  | _ => if restore = .ready then .ready else .initializing

def Stage.blame (blamed? : Option PassError) : Stage → Option PassError
  | .readying => none
  | .counting (.ok _) => none
  | .counting (.error error) => some error
  | _ => blamed?

def Work.phaseOf (phase : Phase) : Work → Phase
  | .passing _ restore stage => stage.phaseOf restore
  | _ => phase

def Work.blame (blamed? : Option PassError) : Work → Option PassError
  | .passing _ _ stage => stage.blame blamed?
  | .clearing .phase => none
  | _ => blamed?

-- Between a store and the event that goes with it, the manager is ahead of the record or behind it.
structure Kept (work : Work) (manager : Manager) (history : List Event) : Prop where
  passes : manager.passes = passesOf history
  phase : manager.phase = work.phaseOf (settled history)
  error : manager.lastError? = work.blame (blamed? history)

def Work.Placed (thread : Nat) (history : List Event) : Work → Prop
  | .holding seen => Noted thread seen history
  | .comparing seen => Noted thread seen history ∧ settled history = .uninitialized
  | .sharing seen => Noted thread seen history ∧ settled history = .uninitialized ∧ passesOf history ≠ seen
  | .passing first restore stage =>
      settled history = restore ∧
        (first = true → restore = .uninitialized ∧ ∃ during, Calling thread during history) ∧
        (stage ≠ .starting → Began thread restore history)
  | .leaving (.error error) => Failed thread error history
  | _ => True

def Work.Opens : Work → Prop
  | .holding _ => True
  | .choosing => True
  | .clearing .nodes => True
  | _ => False

def Point.Placed (thread : Nat) (history : List Event) : Point → Prop
  | .idle => True
  | .entered => ∃ during, Calling thread during history
  | .noted seen => Noted thread seen history
  | .wanting work => work.Opens ∧ work.Placed thread history
  | .inside work => work.Placed thread history

def Point.Outside : Point → Prop
  | .inside _ => False
  | _ => True

structure Invariant (system : System) : Prop where
  lock : ∀ thread, system.holder? = some thread ↔ ∃ work, system.points thread = .inside work
  free : system.holder? = none → Kept .parting system.manager system.history
  held : ∀ thread work, system.points thread = .inside work → Kept work system.manager system.history
  placed : ∀ thread, (system.points thread).Placed thread system.history
  lawful : Lawful system.history

theorem passing_placed (thread : Nat) (history : List Event) (first : Bool) (restore : Phase) (stage next : Stage)
    (begun : stage ≠ .starting) (placed : (Work.passing first restore stage).Placed thread history) :
    (Work.passing first restore next).Placed thread history :=
  ⟨placed.1, placed.2.1, fun _ => placed.2.2 begun⟩

theorem start_pass (move : Move) (manager : Manager) (history : List Event) (first : Bool) (restore : Phase)
    (kept : Kept (.passing first restore .starting) manager history)
    (placed : (Work.passing first restore .starting).Placed move.thread history) :
    Kept (.passing first restore .running) (manager.during restore)
        (⟨move.thread, .began manager.phase⟩ :: history) ∧
      (Work.passing first restore .running).Placed move.thread
        (⟨move.thread, .began manager.phase⟩ :: history) := by
  obtain ⟨left, called, _⟩ := placed
  have phase : manager.phase = restore := kept.phase
  obtain ⟨sameSettled, sameBlamed, samePasses⟩ :=
    quiet_keeps ⟨move.thread, .began manager.phase⟩ history trivial
  refine ⟨?_, sameSettled.trans left, ?_, ?_⟩
  · by_cases ready : restore = .ready
    · have still : manager.during restore = manager := if_pos ready
      rw [still]
      refine ⟨kept.passes.trans samePasses.symm, ?_, kept.error.trans sameBlamed.symm⟩
      simp only [Work.phaseOf, Stage.phaseOf, phase, ready, if_true]
    · have busy : manager.during restore = { manager with phase := .initializing } := if_neg ready
      rw [busy]
      refine ⟨kept.passes.trans samePasses.symm, ?_, kept.error.trans sameBlamed.symm⟩
      simp only [Work.phaseOf, Stage.phaseOf, if_neg ready]
  · intro ensured
    obtain ⟨unready, during, calling⟩ := called ensured
    exact ⟨unready, _, calling_cons _ ⟨move.thread, .began manager.phase⟩ _ _ (fun _ _ => nofun) calling⟩
  · intro _
    rw [phase]
    exact ⟨[], history, rfl, foreign_nil _⟩

theorem count_pass (move : Move) (manager : Manager) (history : List Event) (first : Bool) (restore : Phase)
    (outcome : Except PassError Unit) (kept : Kept (.passing first restore (.counting outcome)) manager history)
    (placed : (Work.passing first restore (.counting outcome)).Placed move.thread history) :
    let effect := (Stage.counting outcome).run move manager first restore
    let later := ⟨move.thread, .completed first outcome⟩ :: history
    Kept (effect.next?.getD .parting) effect.manager later ∧
      (effect.next?.getD .parting).Placed move.thread later ∧
      Event.Lawful ⟨move.thread, .completed first outcome⟩ history := by
  obtain ⟨left, called, _⟩ := placed
  have passes : manager.passes + 1 = 1 + passesOf history := by rw [kept.passes, Nat.add_comm]
  cases outcome with
  | error error =>
      have phase : manager.phase = settled history := kept.phase.trans left.symm
      cases first with
      | true =>
          obtain ⟨_, during, calling⟩ := called rfl
          refine ⟨⟨passes, phase, kept.error⟩, ?_, trivial⟩
          refine ⟨_, move.thread, true, calling_cons _ ⟨move.thread, .completed true (.error error)⟩ _ _ ?_ calling, ?_⟩
          · exact fun _ _ => nofun
          · exact List.mem_cons_self
      | false => exact ⟨⟨passes, phase, kept.error⟩, trivial, trivial⟩
  | ok _ =>
      cases first with
      | true => exact ⟨⟨passes, kept.phase, kept.error⟩, trivial, left.trans (called rfl).1⟩
      | false => exact ⟨⟨passes, kept.phase, kept.error⟩, trivial, trivial⟩

theorem stage_run (move : Move) (manager : Manager) (history : List Event) (first : Bool) (restore : Phase)
    (stage : Stage) (kept : Kept (.passing first restore stage) manager history)
    (placed : (Work.passing first restore stage).Placed move.thread history) (lawful : Lawful history) :
    let effect := stage.run move manager first restore
    let later := log move.thread effect.mark? history
    Kept (effect.next?.getD .parting) effect.manager later ∧
      (effect.next?.getD .parting).Placed move.thread later ∧ Lawful later := by
  have moved : ∀ next, stage ≠ .starting → (Work.passing first restore next).Placed move.thread history :=
    fun next begun => passing_placed move.thread history first restore stage next begun placed
  cases stage with
  | starting =>
      obtain ⟨started, begun⟩ := start_pass move manager history first restore kept placed
      exact ⟨started, begun, trivial, lawful⟩
  | running => exact ⟨⟨kept.passes, kept.phase, kept.error⟩, moved _ nofun, lawful⟩
  | naming outcome =>
      cases outcome with
      | error error => exact ⟨⟨kept.passes, kept.phase, kept.error⟩, moved _ nofun, lawful⟩
      | ok findings => exact ⟨⟨kept.passes, kept.phase, kept.error⟩, moved _ nofun, lawful⟩
  | restoring error => exact ⟨⟨kept.passes, rfl, kept.error⟩, moved _ nofun, lawful⟩
  | blaming error => exact ⟨⟨kept.passes, kept.phase, rfl⟩, moved _ nofun, lawful⟩
  | inserting findings rest =>
      cases rest with
      | nil => exact ⟨⟨kept.passes, kept.phase, kept.error⟩, moved _ nofun, lawful⟩
      | cons entry rest => exact ⟨⟨kept.passes, kept.phase, kept.error⟩, moved _ nofun, lawful⟩
  | skipping findings => exact ⟨⟨kept.passes, kept.phase, kept.error⟩, moved _ nofun, lawful⟩
  | flagging findings => exact ⟨⟨kept.passes, kept.phase, kept.error⟩, moved _ nofun, lawful⟩
  | absolving => exact ⟨⟨kept.passes, kept.phase, rfl⟩, moved _ nofun, lawful⟩
  | readying => exact ⟨⟨kept.passes, rfl, kept.error⟩, moved _ nofun, lawful⟩
  | counting outcome =>
      obtain ⟨counted, left, told⟩ := count_pass move manager history first restore outcome kept placed
      exact ⟨counted, left, told, lawful⟩

theorem wipe_run (move : Move) (manager : Manager) (history : List Event) (wipe : Wipe)
    (kept : Kept (.clearing wipe) manager history) (lawful : Lawful history) :
    let effect := wipe.run manager
    let later := log move.thread effect.mark? history
    Kept (effect.next?.getD .parting) effect.manager later ∧
      (effect.next?.getD .parting).Placed move.thread later ∧ Lawful later := by
  cases wipe with
  | nodes => exact ⟨⟨kept.passes, kept.phase, kept.error⟩, trivial, lawful⟩
  | skipped => exact ⟨⟨kept.passes, kept.phase, kept.error⟩, trivial, lawful⟩
  | cluster => exact ⟨⟨kept.passes, kept.phase, kept.error⟩, trivial, lawful⟩
  | error => exact ⟨⟨kept.passes, kept.phase, rfl⟩, trivial, lawful⟩
  | phase => exact ⟨⟨kept.passes.trans (Nat.zero_add _).symm, rfl, kept.error⟩, trivial, trivial, lawful⟩

theorem first_pass (thread seen : Nat) (manager : Manager) (history : List Event)
    (kept : Kept .parting manager history) (noted : Noted thread seen history)
    (unready : settled history = .uninitialized) :
    Kept (.passing true .uninitialized .starting) manager history ∧
      (Work.passing true .uninitialized .starting).Placed thread history :=
  ⟨⟨kept.passes, kept.phase.trans unready, kept.error⟩, unready,
    fun _ => ⟨rfl, noted_calling thread seen history noted⟩, fun other => absurd rfl other⟩

theorem work_run (move : Move) (manager : Manager) (history : List Event) (work : Work)
    (kept : Kept work manager history) (placed : work.Placed move.thread history) (lawful : Lawful history) :
    let effect := work.run move manager
    let later := log move.thread effect.mark? history
    Kept (effect.next?.getD .parting) effect.manager later ∧
      (effect.next?.getD .parting).Placed move.thread later ∧ Lawful later := by
  cases work with
  | holding seen =>
      by_cases ready : manager.phase = .ready
      · simp only [Work.run, if_pos ready]
        exact ⟨⟨kept.passes, kept.phase, kept.error⟩, trivial, lawful⟩
      · have unready := settled_unready history fun settled => ready (kept.phase.trans settled)
        simp only [Work.run, if_neg ready]
        exact ⟨⟨kept.passes, kept.phase, kept.error⟩, ⟨placed, unready⟩, lawful⟩
  | comparing seen =>
      obtain ⟨noted, unready⟩ := placed
      by_cases same : manager.passes = seen
      · simp only [Work.run, if_pos same]
        obtain ⟨opened, begun⟩ := first_pass move.thread seen manager history
          ⟨kept.passes, kept.phase, kept.error⟩ noted unready
        exact ⟨opened, begun, lawful⟩
      · simp only [Work.run, if_neg same]
        have more : passesOf history ≠ seen := fun equal => same (kept.passes.trans equal)
        exact ⟨⟨kept.passes, kept.phase, kept.error⟩, ⟨noted, unready, more⟩, lawful⟩
  | sharing seen =>
      obtain ⟨noted, unready, more⟩ := placed
      have blamed : manager.lastError? = blamed? history := kept.error
      cases shared : manager.lastError? with
      | some error =>
          simp only [Work.run, shared]
          refine ⟨⟨kept.passes, kept.phase, kept.error⟩, ?_, lawful⟩
          exact noted_failed move.thread seen history error noted more (blamed.symm.trans shared)
      | none =>
          simp only [Work.run, shared]
          obtain ⟨opened, begun⟩ := first_pass move.thread seen manager history
            ⟨kept.passes, kept.phase, kept.error⟩ noted unready
          exact ⟨opened, begun, lawful⟩
  | choosing =>
      have restore : settled history = (if manager.phase = .ready then .ready else .uninitialized) := by
        by_cases ready : manager.phase = .ready
        · rw [if_pos ready]
          exact kept.phase.symm.trans ready
        · rw [if_neg ready]
          exact settled_unready history fun settled => ready (kept.phase.trans settled)
      refine ⟨⟨kept.passes, kept.phase.trans restore, kept.error⟩, ?_, lawful⟩
      exact ⟨restore, nofun, fun other => absurd rfl other⟩
  | passing first restore stage => exact stage_run move manager history first restore stage kept placed lawful
  | leaving result =>
      obtain ⟨sameSettled, sameBlamed, samePasses⟩ :=
        quiet_keeps ⟨move.thread, .returned result⟩ history trivial
      refine ⟨⟨kept.passes.trans samePasses.symm, kept.phase.trans sameSettled.symm,
        kept.error.trans sameBlamed.symm⟩, trivial, ?_, lawful⟩
      cases result with
      | error error => exact placed
      | ok _ => trivial
  | looking => exact ⟨⟨kept.passes, kept.phase, kept.error⟩, trivial, lawful⟩
  | parting => exact ⟨⟨kept.passes, kept.phase, kept.error⟩, trivial, lawful⟩
  | clearing wipe => exact wipe_run move manager history wipe kept lawful

theorem kept_quiet (work : Work) (manager : Manager) (event : Event) (history : List Event)
    (quiet : event.mark.Quiet) (kept : Kept work manager history) : Kept work manager (event :: history) := by
  obtain ⟨sameSettled, sameBlamed, samePasses⟩ := quiet_keeps event history quiet
  refine ⟨kept.passes.trans samePasses.symm, ?_, ?_⟩
  · rw [sameSettled]
    exact kept.phase
  · rw [sameBlamed]
    exact kept.error

-- What a thread knows under the lock stays true as long as the others leave the manager alone.
theorem work_placed_cons (thread : Nat) (event : Event) (history : List Event) (work : Work)
    (other : event.thread ≠ thread) (quiet : event.mark.Quiet) (placed : work.Placed thread history) :
    work.Placed thread (event :: history) := by
  obtain ⟨sameSettled, _, samePasses⟩ := quiet_keeps event history quiet
  have apart : event.thread = thread → ∀ ask, event.mark ≠ .called ask := fun same => absurd same other
  cases work with
  | holding seen => exact noted_cons thread seen event history other placed
  | comparing seen =>
      exact ⟨noted_cons thread seen event history other placed.1, sameSettled.trans placed.2⟩
  | sharing seen =>
      obtain ⟨noted, unready, more⟩ := placed
      exact ⟨noted_cons thread seen event history other noted, sameSettled.trans unready,
        fun equal => more (samePasses.symm.trans equal)⟩
  | passing first restore stage =>
      obtain ⟨left, called, begun⟩ := placed
      refine ⟨sameSettled.trans left, ?_, ?_⟩
      · intro ensured
        obtain ⟨unready, during, calling⟩ := called ensured
        exact ⟨unready, _, calling_cons thread event during history apart calling⟩
      · exact fun started => began_cons thread restore event history other (begun started)
  | leaving result =>
      cases result with
      | error error => exact failed_cons thread error event history apart placed
      | ok _ => trivial
  | choosing => trivial
  | looking => trivial
  | parting => trivial
  | clearing wipe => trivial

-- Outside the lock a thread knows nothing that any step of the others could make untrue.
theorem placed_cons (thread : Nat) (event : Event) (history : List Event) (point : Point)
    (other : event.thread ≠ thread) (quiet : ∀ work, point = .inside work → event.mark.Quiet)
    (placed : point.Placed thread history) : point.Placed thread (event :: history) := by
  cases point with
  | idle => trivial
  | entered =>
      obtain ⟨during, calling⟩ := placed
      exact ⟨_, calling_cons thread event during history (fun same => absurd same other) calling⟩
  | noted seen => exact noted_cons thread seen event history other placed
  | wanting work =>
      obtain ⟨opens, known⟩ := placed
      refine ⟨opens, ?_⟩
      cases work with
      | holding seen => exact noted_cons thread seen event history other known
      | choosing => trivial
      | clearing wipe => trivial
      | comparing _ => exact False.elim opens
      | sharing _ => exact False.elim opens
      | passing _ _ _ => exact False.elim opens
      | leaving _ => exact False.elim opens
      | looking => exact False.elim opens
      | parting => exact False.elim opens
  | inside work => exact work_placed_cons thread event history work other (quiet work rfl) placed

theorem kept_log (thread : Nat) (work : Work) (manager : Manager) (mark? : Option Mark) (history : List Event)
    (quiet : ∀ mark, mark? = some mark → mark.Quiet) (kept : Kept work manager history) :
    Kept work manager (log thread mark? history) := by
  cases mark? with
  | none => exact kept
  | some mark => exact kept_quiet work manager ⟨thread, mark⟩ history (quiet mark rfl) kept

theorem placed_log (thread other : Nat) (mark? : Option Mark) (history : List Event) (point : Point)
    (apart : other ≠ thread)
    (quiet : ∀ work mark, point = .inside work → mark? = some mark → mark.Quiet)
    (placed : point.Placed other history) : point.Placed other (log thread mark? history) := by
  cases mark? with
  | none => exact placed
  | some mark =>
      exact placed_cons other ⟨thread, mark⟩ history point (fun same => apart same.symm)
        (fun work inside => quiet work mark inside rfl) placed

theorem place_same (system : System) (thread : Nat) (point : Point) (mark? : Option Mark) :
    (system.place thread point mark?).points thread = point := if_pos rfl

theorem place_other (system : System) (thread other : Nat) (point : Point) (mark? : Option Mark)
    (apart : other ≠ thread) : (system.place thread point mark?).points other = system.points other := if_neg apart

theorem passes_now (system : System) (inv : Invariant system) :
    system.manager.passes = passesOf system.history := by
  cases holder : system.holder? with
  | none => exact (inv.free holder).passes
  | some thread =>
      obtain ⟨work, inside⟩ := (inv.lock thread).mp holder
      exact (inv.held thread work inside).passes

theorem held_alone (system : System) (thread other : Nat) (work : Work) (inv : Invariant system)
    (holds : system.holder? = some thread) (inside : system.points other = .inside work) : other = thread := by
  have same := (inv.lock other).mpr ⟨work, inside⟩
  rw [holds] at same
  exact (Option.some.inj same).symm

theorem outside_not_inside (point : Point) (work : Work) (outside : point.Outside) : point ≠ .inside work := by
  rintro rfl
  exact outside

theorem place_invariant (system : System) (thread : Nat) (point : Point) (mark? : Option Mark)
    (lock : system.holder? = some thread ↔ ∃ work, point = .inside work)
    (held : ∀ work, point = .inside work → Kept work system.manager (log thread mark? system.history))
    (placed : point.Placed thread (log thread mark? system.history))
    (otherLock : ∀ other, other ≠ thread →
      (system.holder? = some other ↔ ∃ work, system.points other = .inside work))
    (otherHeld : ∀ other work, other ≠ thread → system.points other = .inside work →
      Kept work system.manager (log thread mark? system.history))
    (otherPlaced : ∀ other, other ≠ thread →
      (system.points other).Placed other (log thread mark? system.history))
    (free : system.holder? = none → Kept .parting system.manager (log thread mark? system.history))
    (lawful : Lawful (log thread mark? system.history)) : Invariant (system.place thread point mark?) := by
  refine ⟨?_, free, ?_, ?_, lawful⟩
  · intro other
    by_cases same : other = thread
    · rw [same, place_same]
      exact lock
    · rw [place_other _ _ _ _ _ same]
      exact otherLock other same
  · intro other work inside
    by_cases same : other = thread
    · rw [same, place_same] at inside
      exact held work inside
    · rw [place_other _ _ _ _ _ same] at inside
      exact otherHeld other work same inside
  · intro other
    by_cases same : other = thread
    · rw [same, place_same]
      exact placed
    · rw [place_other _ _ _ _ _ same]
      exact otherPlaced other same

theorem outside_step (system : System) (thread : Nat) (point : Point) (mark? : Option Mark)
    (inv : Invariant system) (before : (system.points thread).Outside) (after : point.Outside)
    (marked : ∀ mark, mark? = some mark → mark.Quiet ∧ Event.Lawful ⟨thread, mark⟩ system.history)
    (placed : point.Placed thread (log thread mark? system.history)) :
    Invariant (system.place thread point mark?) := by
  have quiet : ∀ mark, mark? = some mark → mark.Quiet := fun mark same => (marked mark same).1
  refine place_invariant system thread point mark? ?_ ?_ placed (fun other _ => inv.lock other) ?_ ?_ ?_ ?_
  · refine (inv.lock thread).trans ?_
    exact ⟨fun ⟨work, inside⟩ => absurd inside (outside_not_inside _ work before),
      fun ⟨work, inside⟩ => absurd inside (outside_not_inside _ work after)⟩
  · exact fun work inside => absurd inside (outside_not_inside point work after)
  · exact fun other work _ inside => kept_log thread work _ mark? _ quiet (inv.held other work inside)
  · exact fun other apart =>
      placed_log thread other mark? _ _ apart (fun _ mark _ some => quiet mark some) (inv.placed other)
  · exact fun none => kept_log thread _ _ mark? _ quiet (inv.free none)
  · cases mark? with
    | none => exact inv.lawful
    | some mark => exact ⟨(marked mark rfl).2, inv.lawful⟩

theorem opens_kept (work : Work) (manager : Manager) (history : List Event) (opens : work.Opens)
    (kept : Kept .parting manager history) : Kept work manager history := by
  cases work with
  | holding _ => exact ⟨kept.passes, kept.phase, kept.error⟩
  | choosing => exact ⟨kept.passes, kept.phase, kept.error⟩
  | clearing wipe =>
      cases wipe with
      | nodes => exact ⟨kept.passes, kept.phase, kept.error⟩
      | skipped => exact False.elim opens
      | cluster => exact False.elim opens
      | error => exact False.elim opens
      | phase => exact False.elim opens
  | comparing _ => exact False.elim opens
  | sharing _ => exact False.elim opens
  | passing _ _ _ => exact False.elim opens
  | leaving _ => exact False.elim opens
  | looking => exact False.elim opens
  | parting => exact False.elim opens

theorem acquire_step (system : System) (thread : Nat) (work : Work) (inv : Invariant system)
    (unheld : system.holder? = none) (opens : work.Opens) (placed : work.Placed thread system.history) :
    Invariant ({ system with holder? := some thread }.place thread (.inside work) none) := by
  have outside : ∀ other more, system.points other ≠ .inside more := by
    intro other more inside
    have held := (inv.lock other).mpr ⟨more, inside⟩
    rw [unheld] at held
    cases held
  have kept := opens_kept work system.manager system.history opens (inv.free unheld)
  refine place_invariant _ thread (.inside work) none ?_ ?_ placed ?_ ?_ ?_ nofun inv.lawful
  · exact ⟨fun _ => ⟨work, rfl⟩, fun _ => rfl⟩
  · intro next same
    cases same
    exact kept
  · intro other apart
    refine ⟨fun held => absurd (Option.some.inj held).symm apart, ?_⟩
    rintro ⟨more, inside⟩
    exact absurd inside (outside other more)
  · exact fun other more _ inside => absurd inside (outside other more)
  · exact fun other _ => inv.placed other

-- A step under the lock: nobody else is there to see what it does to the manager.
theorem inside_step (system : System) (move : Move) (work : Work) (inv : Invariant system)
    (inside : system.points move.thread = .inside work) : Invariant (system.step move) := by
  have holds := (inv.lock move.thread).mpr ⟨work, inside⟩
  have alone : ∀ other more, other ≠ move.thread → system.points other ≠ .inside more :=
    fun other more apart there => apart (held_alone system move.thread other more inv holds there)
  have known := inv.placed move.thread
  rw [inside] at known
  obtain ⟨kept, placed, lawful⟩ :=
    work_run move system.manager system.history work (inv.held move.thread work inside) known inv.lawful
  have others : ∀ other, other ≠ move.thread →
      (system.points other).Placed other (log move.thread (work.run move system.manager).mark? system.history) :=
    fun other apart => placed_log move.thread other _ _ _ apart
      (fun more _ there => absurd there (alone other more apart)) (inv.placed other)
  unfold System.step
  rw [inside]
  dsimp only
  cases ended : (work.run move system.manager).next? with
  | some next =>
      rw [ended] at kept placed
      refine place_invariant _ move.thread (.inside next) _ ?_ ?_ placed ?_ ?_ others ?_ lawful
      · exact ⟨fun _ => ⟨next, rfl⟩, fun _ => holds⟩
      · intro more same
        cases same
        exact kept
      · exact fun other _ => inv.lock other
      · exact fun other more apart there => absurd there (alone other more apart)
      · exact fun none => absurd (holds.symm.trans none) (Option.some_ne_none _)
  | none =>
      rw [ended] at kept
      refine place_invariant _ move.thread .idle _ ?_ ?_ trivial ?_ ?_ others (fun _ => kept) lawful
      · exact ⟨nofun, fun ⟨_, there⟩ => nomatch there⟩
      · exact fun _ there => nomatch there
      · intro other apart
        refine ⟨nofun, ?_⟩
        rintro ⟨more, there⟩
        exact absurd there (alone other more apart)
      · exact fun other more apart there => absurd there (alone other more apart)

theorem enter_step (system : System) (thread : Nat) (ask : Ask) (inv : Invariant system)
    (idle : system.points thread = .idle) : Invariant (system.enter thread ask) := by
  have before : (system.points thread).Outside := by rw [idle]; trivial
  have marked : ∀ mark, some (Mark.called ask) = some mark →
      mark.Quiet ∧ Event.Lawful ⟨thread, mark⟩ system.history := by
    intro mark same
    cases same
    exact ⟨trivial, trivial⟩
  cases ask with
  | ensure =>
      refine outside_step system thread .entered _ inv before trivial marked ?_
      exact ⟨[], calling_now thread system.history⟩
  | refresh => exact outside_step system thread (.wanting .choosing) _ inv before trivial marked ⟨trivial, trivial⟩
  | reset =>
      exact outside_step system thread (.wanting (.clearing .nodes)) _ inv before trivial marked ⟨trivial, trivial⟩

theorem step_invariant (system : System) (move : Move) (inv : Invariant system) : Invariant (system.step move) := by
  have known := inv.placed move.thread
  cases point : system.points move.thread with
  | inside work => exact inside_step system move work inv point
  | idle =>
      unfold System.step
      rw [point]
      exact enter_step system move.thread move.ask inv point
  | entered =>
      have before : (system.points move.thread).Outside := by rw [point]; trivial
      unfold System.step
      rw [point] at known ⊢
      refine outside_step system move.thread (.noted system.manager.passes) _ inv before trivial ?_ ?_
      · intro mark same
        cases same
        exact ⟨trivial, trivial⟩
      · obtain ⟨during, calling⟩ := known
        exact ⟨[], system.history, during, rfl, foreign_nil _, (passes_now system inv).symm, calling⟩
  | noted seen =>
      have before : (system.points move.thread).Outside := by rw [point]; trivial
      unfold System.step
      rw [point] at known ⊢
      by_cases ready : system.manager.phase = .ready
      · simp only [if_pos ready]
        refine outside_step system move.thread .idle _ inv before trivial ?_ trivial
        intro mark same
        cases same
        exact ⟨trivial, trivial⟩
      · simp only [if_neg ready]
        exact outside_step system move.thread (.wanting (.holding seen)) _ inv before trivial nofun ⟨trivial, known⟩
  | wanting work =>
      unfold System.step
      rw [point] at known ⊢
      cases holder : system.holder? with
      | some _ => exact inv
      | none => exact acquire_step system move.thread work inv holder known.1 known.2

theorem start_invariant (options : ProbeOptions) (parallelism : Nat) :
    Invariant (System.start options parallelism) where
  lock _ := ⟨nofun, fun ⟨_, inside⟩ => nomatch inside⟩
  free _ := ⟨rfl, rfl, rfl⟩
  held _ _ inside := nomatch inside
  placed _ := trivial
  lawful := trivial

theorem after_invariant (system : System) (schedule : List Move) (inv : Invariant system) :
    Invariant (system.after schedule) := by
  induction schedule generalizing system with
  | nil => exact inv
  | cons move schedule ih => exact ih (system.step move) (step_invariant system move inv)

end Protocol

end ClusterCaps
