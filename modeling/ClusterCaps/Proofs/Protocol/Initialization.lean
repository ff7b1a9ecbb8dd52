import ClusterCaps.Proofs.Protocol.Invariant

set_option autoImplicit false

namespace ClusterCaps

namespace Protocol

def Event.succeeded (event : Event) : Bool :=
  match event.mark with
  | .completed _ (.ok _) => true
  | _ => false

def Point.IsPassing : Point → Prop
  | .inside (.passing _ _ _) => True
  | _ => False

theorem passing_alone (system : System) (thread other : Nat) (inv : Invariant system)
    (first : (system.points thread).IsPassing) (second : (system.points other).IsPassing) : thread = other := by
  cases left : system.points thread with
  | inside work =>
      cases right : system.points other with
      | inside more =>
          exact held_alone system other thread work inv ((inv.lock other).mpr ⟨more, right⟩) left
      | _ => rw [right] at second; exact False.elim second
  | _ => rw [left] at first; exact False.elim first

theorem settled_not_initializing (history : List Event) : settled history ≠ .initializing := by
  rcases settled_cases history with same | same <;> rw [same] <;> decide

theorem initializing_passing (work : Work) (thread : Nat) (manager : Manager) (history : List Event)
    (kept : Kept work manager history) (placed : work.Placed thread history)
    (busy : manager.phase = .initializing) :
    (Point.inside work).IsPassing ∧ ∃ phase, phase ≠ .ready ∧ Began thread phase history := by
  have seen := kept.phase
  rw [busy] at seen
  cases work with
  | passing first restore stage =>
      obtain ⟨left, _, begun⟩ := placed
      refine ⟨trivial, restore, ?_, begun ?_⟩
      · rintro rfl
        cases stage with
        | counting outcome => cases outcome <;> cases seen
        | _ => cases seen
      · rintro rfl
        exact settled_not_initializing history (left.trans seen.symm)
  | clearing wipe => exact absurd seen.symm (settled_not_initializing history)
  | _ => exact absurd seen.symm (settled_not_initializing history)

theorem initializing_began (system : System) (inv : Invariant system)
    (busy : system.manager.phase = .initializing) :
    ∃ thread phase, (system.points thread).IsPassing ∧ phase ≠ .ready ∧ Began thread phase system.history := by
  cases holder : system.holder? with
  | none =>
      have rest := (inv.free holder).phase
      rw [busy] at rest
      exact absurd rest.symm (settled_not_initializing system.history)
  | some thread =>
      obtain ⟨work, inside⟩ := (inv.lock thread).mp holder
      have placed := inv.placed thread
      rw [inside] at placed
      obtain ⟨passing, phase, unready, began⟩ :=
        initializing_passing work thread _ _ (inv.held thread work inside) placed busy
      refine ⟨thread, phase, ?_, unready, began⟩
      rw [inside]
      exact passing

theorem one_success (stretch before : List Event) (lawful : Lawful (stretch ++ before))
    (kept : ∀ event ∈ stretch, event.mark ≠ .forgot)
    (unrefreshed : ∀ event ∈ stretch, event.mark ≠ .completed false (.ok ())) :
    stretch.countP Event.succeeded ≤ 1 ∧
      (stretch.countP Event.succeeded ≠ 0 → settled (stretch ++ before) = .ready) := by
  induction stretch with
  | nil => exact ⟨Nat.zero_le 1, fun some => absurd rfl some⟩
  | cons event stretch ih =>
      obtain ⟨most, ready⟩ := ih lawful.2 (fun later member => kept later (List.mem_cons_of_mem event member))
        (fun later member => unrefreshed later (List.mem_cons_of_mem event member))
      by_cases succeeded : event.succeeded = true
      · obtain ⟨thread, mark⟩ := event
        cases mark with
        | completed first outcome =>
            cases outcome with
            | error _ => cases succeeded
            | ok _ =>
                cases first with
                | false => exact absurd rfl (unrefreshed _ List.mem_cons_self)
                | true =>
                    have unready : settled (stretch ++ before) = .uninitialized := lawful.1
                    have none : stretch.countP Event.succeeded = 0 := by
                      refine Decidable.byContradiction fun some => ?_
                      rw [ready some] at unready
                      cases unready
                    rw [List.countP_cons_of_pos succeeded, none]
                    exact ⟨Nat.le_refl 1, fun _ => rfl⟩
        | _ => cases succeeded
      · rw [List.countP_cons_of_neg succeeded]
        refine ⟨most, fun some => ?_⟩
        have earlier := ready some
        obtain ⟨thread, mark⟩ := event
        cases mark with
        | forgot => exact absurd rfl (kept _ List.mem_cons_self)
        | completed first outcome =>
            cases outcome with
            | ok _ => exact absurd rfl succeeded
            | error _ => exact earlier
        | called _ => exact earlier
        | noted => exact earlier
        | began _ => exact earlier
        | returned _ => exact earlier

structure Last (outcome : Except PassError Unit) (history : List Event) : Prop where
  ready : outcome = .ok () → settled history = .ready
  blamed : ∀ error, outcome = .error error → blamed? history = some error

theorem last_now (user : Nat) (first : Bool) (outcome : Except PassError Unit) (older : List Event) :
    Last outcome (⟨user, .completed first outcome⟩ :: older) := by
  refine ⟨?_, ?_⟩
  · rintro rfl
    rfl
  · rintro error rfl
    rfl

theorem last_quiet (outcome : Except PassError Unit) (event : Event) (history : List Event)
    (quiet : event.mark.Quiet) (last : Last outcome history) : Last outcome (event :: history) := by
  obtain ⟨sameSettled, sameBlamed, _⟩ := quiet_keeps event history quiet
  exact ⟨fun ok => sameSettled.trans (last.ready ok), fun error failed => sameBlamed.trans (last.blamed error failed)⟩

theorem last_append (outcome : Except PassError Unit) (recent history : List Event)
    (quiet : ∀ event ∈ recent, event.mark.Quiet) (last : Last outcome history) : Last outcome (recent ++ history) := by
  induction recent with
  | nil => exact last
  | cons event recent ih =>
      refine last_quiet outcome event _ (quiet event List.mem_cons_self) ?_
      exact ih fun later member => quiet later (List.mem_cons_of_mem event member)

theorem noted_behind (thread seen user : Nat) (first : Bool) (outcome : Except PassError Unit)
    (recent older : List Event)
    (noted : Noted thread seen (recent ++ ⟨user, .completed first outcome⟩ :: older))
    (before : ⟨thread, .noted⟩ ∉ recent) :
    passesOf (recent ++ ⟨user, .completed first outcome⟩ :: older) ≠ seen := by
  obtain ⟨newer, earlier, _, whole, _, counted, _⟩ := noted
  rcases List.append_eq_append_iff.mp whole with ⟨middle, later, rest⟩ | ⟨middle, later, rest⟩
  · cases middle with
    | nil => cases rest
    | cons event middle =>
        obtain ⟨rfl, _⟩ := List.cons.inj rest
        have completed : passesOf (⟨user, .completed first outcome⟩ :: middle) = 1 + passesOf middle := rfl
        have looked := (quiet_keeps ⟨thread, .noted⟩ earlier trivial).2.2
        rw [whole, later, passes_of_append, passes_of_append, completed, looked, counted]
        omega
  · cases middle with
    | nil => cases rest
    | cons event middle =>
        obtain ⟨rfl, _⟩ := List.cons.inj rest
        rw [later] at before
        exact absurd (List.mem_append_right newer List.mem_cons_self) before

def Work.Shares (outcome : Except PassError Unit) (history : List Event) : Work → Prop
  | .holding seen => Last outcome history ∧ passesOf history ≠ seen
  | .comparing seen => Last outcome history ∧ passesOf history ≠ seen
  | .sharing _ => Last outcome history
  | .leaving result => result = .ok () ∨ result = outcome
  | _ => False

def Work.patience : Work → Nat
  | .holding _ => 4
  | .comparing _ => 3
  | .sharing _ => 2
  | _ => 1

theorem shares_quiet (outcome : Except PassError Unit) (event : Event) (history : List Event) (work : Work)
    (quiet : event.mark.Quiet) (shares : work.Shares outcome history) : work.Shares outcome (event :: history) := by
  have passes := (quiet_keeps event history quiet).2.2
  cases work with
  | holding seen =>
      exact ⟨last_quiet outcome event history quiet shares.1, fun equal => shares.2 (passes.symm.trans equal)⟩
  | comparing seen =>
      exact ⟨last_quiet outcome event history quiet shares.1, fun equal => shares.2 (passes.symm.trans equal)⟩
  | sharing seen => exact last_quiet outcome event history quiet shares
  | leaving result => exact shares
  | _ => exact False.elim shares

-- Each step under the lock either returns what it should or comes nearer to it, without a trace.
theorem shares_run (outcome : Except PassError Unit) (move : Move) (manager : Manager) (history : List Event)
    (work : Work) (kept : Kept work manager history) (placed : work.Placed move.thread history)
    (shares : work.Shares outcome history) :
    let effect := work.run move manager
    (∃ next, effect.next? = some next ∧ effect.mark? = none ∧ next.Shares outcome history ∧
        next.patience < work.patience) ∨
      ∃ result, effect.mark? = some (.returned result) ∧ (result = .ok () ∨ result = outcome) := by
  cases work with
  | holding seen =>
      by_cases ready : manager.phase = .ready
      · refine Or.inl ⟨.leaving (.ok ()), congrArg some (if_pos ready), rfl, Or.inl rfl, ?_⟩
        change 1 < 4
        decide
      · refine Or.inl ⟨.comparing seen, congrArg some (if_neg ready), rfl, shares, ?_⟩
        change 3 < 4
        decide
  | comparing seen =>
      have more : manager.passes ≠ seen := fun equal => shares.2 (kept.passes.symm.trans equal)
      refine Or.inl ⟨.sharing seen, congrArg some (if_neg more), rfl, shares.1, ?_⟩
      change 2 < 3
      decide
  | sharing seen =>
      obtain ⟨_, unready, _⟩ := placed
      have last : Last outcome history := shares
      cases outcome with
      | ok _ =>
          have ready := last.ready rfl
          rw [unready] at ready
          cases ready
      | error error =>
          have blamed : manager.lastError? = some error := kept.error.trans (last.blamed error rfl)
          refine Or.inl ⟨.leaving (.error error), ?_, rfl, Or.inr rfl, ?_⟩
          · simp only [Work.run, blamed]
          · change 1 < 2
            decide
  | leaving result => exact Or.inr ⟨result, rfl, shares⟩
  | _ => exact False.elim shares

theorem step_inside (system : System) (move : Move) (work : Work)
    (inside : system.points move.thread = .inside work) :
    (system.step move).history = log move.thread (work.run move system.manager).mark? system.history ∧
      ∀ next, (work.run move system.manager).next? = some next →
        (system.step move).points move.thread = .inside next := by
  unfold System.step
  rw [inside]
  dsimp only
  cases ended : (work.run move system.manager).next? with
  | none => exact ⟨rfl, fun _ same => nomatch same⟩
  | some next =>
      refine ⟨rfl, fun other same => ?_⟩
      cases same
      exact place_same _ _ _ _

def Frames (before after : System) (thread : Nat) : Prop :=
  (∃ mark?, after.history = log thread mark? before.history ∧ ∀ mark, mark? = some mark → mark.Quiet) ∧
    ∀ other, other ≠ thread → after.points other = before.points other

theorem place_frames (system : System) (thread : Nat) (point : Point) (mark? : Option Mark)
    (quiet : ∀ mark, mark? = some mark → mark.Quiet) : Frames system (system.place thread point mark?) thread :=
  ⟨⟨mark?, rfl, quiet⟩, fun other apart => place_other system thread other point mark? apart⟩

theorem place_marked (system : System) (thread : Nat) (point : Point) (mark : Mark) (quiet : mark.Quiet) :
    Frames system (system.place thread point (some mark)) thread := by
  refine place_frames system thread point (some mark) ?_
  intro other same
  cases same
  exact quiet

theorem place_unmarked (system : System) (thread : Nat) (point : Point) :
    Frames system (system.place thread point none) thread :=
  place_frames system thread point none fun _ same => nomatch same

theorem step_outside (system : System) (move : Move) (outside : (system.points move.thread).Outside) :
    Frames system (system.step move) move.thread := by
  unfold System.step
  cases point : system.points move.thread with
  | inside work =>
      rw [point] at outside
      exact False.elim outside
  | idle =>
      cases move.ask with
      | ensure => exact place_marked system _ .entered (.called .ensure) trivial
      | refresh => exact place_marked system _ (.wanting .choosing) (.called .refresh) trivial
      | reset => exact place_marked system _ (.wanting (.clearing .nodes)) (.called .reset) trivial
  | entered => exact place_marked system _ (.noted system.manager.passes) .noted trivial
  | noted seen =>
      by_cases ready : system.manager.phase = .ready
      · simp only [if_pos ready]
        exact place_marked system _ .idle (.returned (.ok ())) trivial
      · simp only [if_neg ready]
        exact place_unmarked system _ (.wanting (.holding seen))
  | wanting work =>
      cases system.holder? with
      | some _ => exact ⟨⟨none, rfl, fun _ same => nomatch same⟩, fun _ _ => rfl⟩
      | none => exact place_unmarked { system with holder? := some move.thread } _ (.inside work)

theorem step_history (system : System) (move : Move) :
    ∃ mark?, (system.step move).history = log move.thread mark? system.history := by
  cases point : system.points move.thread with
  | inside work => exact ⟨_, (step_inside system move work point).1⟩
  | _ =>
      obtain ⟨⟨mark?, logged, _⟩, _⟩ := step_outside system move (by rw [point]; trivial)
      exact ⟨mark?, logged⟩

theorem record_cons (event : Event) (events history : List Event) :
    events.reverse ++ event :: history = (event :: events).reverse ++ history := by
  rw [List.reverse_cons, List.append_assoc, List.singleton_append]

theorem after_history (system : System) (schedule : List Move) :
    ∃ events : List Event, (system.after schedule).history = events.reverse ++ system.history := by
  induction schedule generalizing system with
  | nil => exact ⟨[], rfl⟩
  | cons move schedule ih =>
      obtain ⟨events, later⟩ := ih (system.step move)
      obtain ⟨mark?, logged⟩ := step_history system move
      rw [logged] at later
      cases mark? with
      | none => exact ⟨events, later⟩
      | some mark => exact ⟨_, later.trans (record_cons ⟨move.thread, mark⟩ events system.history)⟩

def heard? (thread : Nat) (events : List Event) : Option Event :=
  events.find? fun event => event.thread == thread

def turns (thread : Nat) (schedule : List Move) : Nat := schedule.countP fun move => move.thread == thread

theorem heard_own (event : Event) (events : List Event) : heard? event.thread (event :: events) = some event :=
  List.find?_cons_of_pos (beq_self_eq_true _)

theorem heard_other (thread : Nat) (event : Event) (events : List Event) (apart : event.thread ≠ thread) :
    heard? thread (event :: events) = heard? thread events :=
  List.find?_cons_of_neg (by simpa only [beq_iff_eq] using apart)

theorem turns_own (move : Move) (schedule : List Move) :
    turns move.thread (move :: schedule) = turns move.thread schedule + 1 :=
  List.countP_cons_of_pos (beq_self_eq_true _)

theorem turns_other (thread : Nat) (move : Move) (schedule : List Move) (apart : move.thread ≠ thread) :
    turns thread (move :: schedule) = turns thread schedule :=
  List.countP_cons_of_neg (by simpa only [beq_iff_eq] using apart)

def Answers (thread : Nat) (outcome : Except PassError Unit) (events : List Event) : Prop :=
  ∀ event, heard? thread events = some event →
    ∃ result, event.mark = .returned result ∧ (result = .ok () ∨ result = outcome)

-- By induction on the schedule. The turns of the others leave the thread where it stands; each of its
-- own either returns or takes it nearer to its return.
theorem shares_after (thread : Nat) (outcome : Except PassError Unit) (schedule : List Move) (system : System)
    (work : Work) (inv : Invariant system) (inside : system.points thread = .inside work)
    (shares : work.Shares outcome system.history) :
    ∃ events : List Event, (system.after schedule).history = events.reverse ++ system.history ∧
      Answers thread outcome events ∧ (work.patience ≤ turns thread schedule → heard? thread events ≠ none) := by
  induction schedule generalizing system work with
  | nil =>
      refine ⟨[], rfl, nofun, fun enough => ?_⟩
      cases work <;> cases enough
  | cons move schedule ih =>
      have later := step_invariant system move inv
      by_cases own : move.thread = thread
      · subst own
        have placed := inv.placed move.thread
        rw [inside] at placed
        obtain ⟨logged, moved⟩ := step_inside system move work inside
        rcases shares_run outcome move system.manager system.history work
            (inv.held move.thread work inside) placed shares with
          ⟨next, stays, unmarked, nearer, less⟩ | ⟨result, marked, right⟩
        · rw [unmarked] at logged
          obtain ⟨events, whole, answers, enough⟩ :=
            ih (system.step move) next later (moved next stays) (by rw [logged]; exact nearer)
          rw [logged] at whole
          refine ⟨events, whole, answers, fun given => enough ?_⟩
          rw [turns_own] at given
          omega
        · rw [marked] at logged
          obtain ⟨events, whole⟩ := after_history (system.step move) schedule
          rw [logged] at whole
          let event : Event := ⟨move.thread, .returned result⟩
          have heard : heard? move.thread (event :: events) = some event := heard_own event events
          refine ⟨event :: events, whole.trans (record_cons event events system.history), ?_, ?_⟩
          · intro other found
            rw [heard] at found
            cases found
            exact ⟨result, rfl, right⟩
          · intro _ none
            rw [heard] at none
            cases none
      · have outside : (system.points move.thread).Outside := by
          cases point : system.points move.thread with
          | inside more =>
              have holds := (inv.lock thread).mpr ⟨work, inside⟩
              exact absurd (held_alone system thread move.thread more inv holds point) own
          | _ => trivial
        obtain ⟨⟨mark?, logged, quiet⟩, still⟩ := step_outside system move outside
        have there : (system.step move).points thread = .inside work :=
          (still thread fun same => own same.symm).trans inside
        rw [turns_other thread move schedule own]
        cases mark? with
        | none =>
            obtain ⟨events, whole, answers, enough⟩ :=
              ih (system.step move) work later there (by rw [logged]; exact shares)
            rw [logged] at whole
            exact ⟨events, whole, answers, enough⟩
        | some mark =>
            have shared : work.Shares outcome (system.step move).history := by
              rw [logged]
              exact shares_quiet outcome ⟨move.thread, mark⟩ _ work (quiet mark rfl) shares
            obtain ⟨events, whole, answers, enough⟩ := ih (system.step move) work later there shared
            rw [logged] at whole
            have heard := heard_other thread ⟨move.thread, mark⟩ events own
            refine ⟨_, whole.trans (record_cons ⟨move.thread, mark⟩ events system.history), ?_, ?_⟩
            · intro event found
              exact answers event (heard.symm.trans found)
            · intro given none
              exact enough given (heard.symm.trans none)

-- A thread that has just taken the lock, and whose count is behind, waits for nothing but its own turns.
theorem holding_shares (system : System) (inv : Invariant system) (thread seen user : Nat) (first : Bool)
    (outcome : Except PassError Unit) (recent older : List Event)
    (holding : system.points thread = .inside (.holding seen))
    (record : system.history = recent ++ ⟨user, .completed first outcome⟩ :: older)
    (before : ⟨thread, .noted⟩ ∉ recent) (quiet : ∀ event ∈ recent, event.mark.Quiet) :
    (Work.holding seen).Shares outcome system.history := by
  have noted := inv.placed thread
  rw [holding, record] at noted
  rw [record]
  exact ⟨last_append outcome recent _ quiet (last_now user first outcome older),
    noted_behind thread seen user first outcome recent older noted before⟩

theorem every_schedule_initializes_once (options : ProbeOptions) (parallelism : Nat) (schedule : List Move) :
    let system := (System.start options parallelism).after schedule
    (∀ thread other, (system.points thread).IsPassing → (system.points other).IsPassing → thread = other) ∧
      (system.manager.phase = .initializing →
        ∃ thread phase, (system.points thread).IsPassing ∧ phase ≠ .ready ∧ Began thread phase system.history) ∧
      (∀ thread error later earlier, system.history = later ++ ⟨thread, .returned (.error error)⟩ :: earlier →
        Failed thread error earlier) ∧
      (∀ thread seen user first outcome recent older, system.points thread = .inside (.holding seen) →
        system.history = recent ++ ⟨user, .completed first outcome⟩ :: older →
        ⟨thread, .noted⟩ ∉ recent → (∀ event ∈ recent, event.mark.Quiet) →
        ∀ continuation, ∃ events : List Event,
          (system.after continuation).history = events.reverse ++ system.history ∧
          Answers thread outcome events ∧
          (4 ≤ turns thread continuation → heard? thread events ≠ none)) ∧
      ∀ later stretch before, system.history = later ++ (stretch ++ before) →
        (∀ event ∈ stretch, event.mark ≠ .forgot) →
        (∀ event ∈ stretch, event.mark ≠ .completed false (.ok ())) → stretch.countP Event.succeeded ≤ 1 := by
  intro system
  have inv : Invariant system := after_invariant _ schedule (start_invariant options parallelism)
  refine ⟨fun thread other => passing_alone system thread other inv, initializing_began system inv, ?_, ?_, ?_⟩
  · intro thread error later earlier record
    have lawful := inv.lawful
    rw [record] at lawful
    exact lawful_at later earlier _ lawful
  · intro thread seen user first outcome recent older holding record before quiet continuation
    have shares := holding_shares system inv thread seen user first outcome recent older holding record before quiet
    exact shares_after thread outcome continuation system _ inv holding shares
  · intro later stretch before record kept unrefreshed
    have lawful := inv.lawful
    rw [record] at lawful
    exact (one_success stretch before (lawful_append later _ lawful) kept unrefreshed).1

def failingTurns (thread count : Nat) : List Move :=
  List.replicate count ⟨thread, .ensure, .error (.nodeNotFound "dn-0"), ⟨"sc-20260115-143022-a7xq"⟩⟩

def failingSchedule : List Move :=
  failingTurns 0 3 ++ failingTurns 1 3 ++ failingTurns 0 10 ++ failingTurns 1 1

theorem every_schedule_shares_failure :
    let system := (System.start ⟨false, false, "udf", "udf_functions"⟩ 1).after failingSchedule
    let error := PassError.nodeNotFound "dn-0"
    system.points 1 = .inside (.holding 0) ∧
      (system.after (failingTurns 1 4)).history = ⟨1, .returned (.error error)⟩ :: system.history ∧
      ∃ events : List Event, (system.after (failingTurns 1 4)).history = events.reverse ++ system.history ∧
        Answers 1 (.error error) events ∧ heard? 1 events ≠ none := by
  intro system error
  have holding : system.points 1 = .inside (.holding 0) := rfl
  obtain ⟨_, _, _, shared, _⟩ :=
    every_schedule_initializes_once ⟨false, false, "udf", "udf_functions"⟩ 1 failingSchedule
  have quiet : ∀ event ∈ [Event.mk 0 (.returned (.error error))], event.mark.Quiet := by
    intro event member
    rw [List.mem_singleton.mp member]
    trivial
  obtain ⟨events, whole, answers, enough⟩ :=
    shared 1 0 0 true (.error error) [⟨0, .returned (.error error)⟩] _ holding rfl nofun quiet (failingTurns 1 4)
  exact ⟨holding, rfl, events, whole, answers, enough (by decide)⟩

end Protocol

end ClusterCaps
