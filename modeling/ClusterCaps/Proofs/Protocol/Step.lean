import ClusterCaps.Manager.Call

/-!
Threads that make a manager ready, refresh it and reset it at the same time. One step is one load or
store that others could see, one change of the lock, or one pass over the nodes; what the nodes have
answered, and which call comes next, is part of the step. Any order of steps is a run. Passes are
counted without bound.
-/
set_option autoImplicit false

namespace ClusterCaps

namespace Protocol

inductive Ask where
  | ensure
  | refresh
  | reset

structure Move where
  thread : Nat
  -- Its next call, should it be between calls.
  ask : Ask
  -- How its pass ends, should it be about to run one.
  outcome : Except PassError Findings
  passId : PassId

-- The stores of a pass stand in the order in which they are made.
inductive Stage where
  | starting
  | running
  | naming (outcome : Except PassError Findings)
  | restoring (error : PassError)
  | blaming (error : PassError)
  | inserting (findings : Findings) (rest : List (String × Node.Snapshot))
  | skipping (findings : Findings)
  | flagging (findings : Findings)
  | absolving
  | readying
  | counting (outcome : Except PassError Unit)

inductive Wipe where
  | nodes
  | skipped
  | cluster
  | error
  | phase

inductive Work where
  | holding (seen : Nat)
  | comparing (seen : Nat)
  | sharing (seen : Nat)
  | choosing
  -- The first kind of pass is one that `ensure` runs, the other kind one that `refresh` runs.
  | passing (first : Bool) (restore : Phase) (stage : Stage)
  | leaving (result : Except PassError Unit)
  | looking
  | parting
  | clearing (wipe : Wipe)

inductive Point where
  | idle
  | entered
  | noted (seen : Nat)
  | wanting (work : Work)
  | inside (work : Work)

-- What a run leaves on record. A pass has completed when it has been counted.
inductive Mark where
  | called (ask : Ask)
  | noted
  | began (phase : Phase)
  | completed (first : Bool) (outcome : Except PassError Unit)
  | forgot
  | returned (result : Except PassError Unit)

structure Event where
  thread : Nat
  mark : Mark

-- What one step under the lock comes to. Where no work is next, the lock is let go.
structure Effect where
  manager : Manager
  next? : Option Work
  mark? : Option Mark

def Work.afterPass : Bool → Except PassError Unit → Work
  | true, result => .leaving result
  | false, .error _ => .parting
  | false, .ok _ => .looking

def Stage.run (move : Move) (manager : Manager) (first : Bool) (restore : Phase) : Stage → Effect
  | .starting =>
      ⟨manager.during restore, some (.passing first restore .running), some (.began manager.phase)⟩
  | .running => ⟨manager, some (.passing first restore (.naming move.outcome)), none⟩
  | .naming (.error error) =>
      ⟨{ manager with lastPass? := some move.passId }, some (.passing first restore (.restoring error)), none⟩
  | .naming (.ok findings) =>
      ⟨{ manager with lastPass? := some move.passId },
        some (.passing first restore (.inserting findings findings.snapshots)), none⟩
  | .restoring error => ⟨{ manager with phase := restore }, some (.passing first restore (.blaming error)), none⟩
  | .blaming error =>
      ⟨{ manager with lastError? := some error }, some (.passing first restore (.counting (.error error))), none⟩
  | .inserting findings ((name, snapshot) :: rest) =>
      ⟨{ manager with nodes := manager.nodes.insert name snapshot },
        some (.passing first restore (.inserting findings rest)), none⟩
  | .inserting findings [] =>
      ⟨{ manager with nodes := manager.nodes.retain (findings.snapshots.map (·.1)) },
        some (.passing first restore (.skipping findings)), none⟩
  | .skipping findings =>
      ⟨{ manager with skipped := findings.skipped }, some (.passing first restore (.flagging findings)), none⟩
  | .flagging findings =>
      ⟨{ manager with cluster := findings.cluster }, some (.passing first restore .absolving), none⟩
  | .absolving => ⟨{ manager with lastError? := none }, some (.passing first restore .readying), none⟩
  | .readying => ⟨{ manager with phase := .ready }, some (.passing first restore (.counting (.ok ()))), none⟩
  | .counting outcome =>
      ⟨{ manager with passes := manager.passes + 1 }, some (.afterPass first outcome),
        some (.completed first outcome)⟩

def Wipe.run (manager : Manager) : Wipe → Effect
  | .nodes => ⟨{ manager with nodes := [] }, some (.clearing .skipped), none⟩
  | .skipped => ⟨{ manager with skipped := [] }, some (.clearing .cluster), none⟩
  | .cluster => ⟨{ manager with cluster := Cluster.nothing }, some (.clearing .error), none⟩
  | .error => ⟨{ manager with lastError? := none }, some (.clearing .phase), none⟩
  | .phase => ⟨{ manager with phase := .uninitialized }, some .parting, some .forgot⟩

def Work.run (move : Move) (manager : Manager) : Work → Effect
  | .holding seen =>
      ⟨manager, some (if manager.phase = .ready then .leaving (.ok ()) else .comparing seen), none⟩
  | .comparing seen =>
      ⟨manager, some (if manager.passes = seen then .passing true .uninitialized .starting else .sharing seen),
        none⟩
  | .sharing _ =>
      let next := match manager.lastError? with
        | some error => Work.leaving (.error error)
        | none => .passing true .uninitialized .starting
      ⟨manager, some next, none⟩
  | .choosing =>
      let restore := if manager.phase = .ready then Phase.ready else .uninitialized
      ⟨manager, some (.passing false restore .starting), none⟩
  | .passing first restore stage => stage.run move manager first restore
  | .leaving result => ⟨manager, none, some (.returned result)⟩
  | .looking => ⟨manager, some .parting, none⟩
  | .parting => ⟨manager, none, none⟩
  | .clearing wipe => wipe.run manager

structure System where
  manager : Manager
  holder? : Option Nat
  points : Nat → Point
  -- The record of the run, the latest event first.
  history : List Event

def log (thread : Nat) : Option Mark → List Event → List Event
  | none, history => history
  | some mark, history => ⟨thread, mark⟩ :: history

namespace System

def start (options : ProbeOptions) (parallelism : Nat) : System where
  manager := Manager.start options parallelism
  holder? := none
  points _ := .idle
  history := []

def place (system : System) (thread : Nat) (point : Point) (mark? : Option Mark) : System :=
  { system with
    points := fun other => if other = thread then point else system.points other
    history := log thread mark? system.history }

def enter (system : System) (thread : Nat) : Ask → System
  | .ensure => system.place thread .entered (some (.called .ensure))
  | .refresh => system.place thread (.wanting .choosing) (some (.called .refresh))
  | .reset => system.place thread (.wanting (.clearing .nodes)) (some (.called .reset))

-- One step of a thread. A thread that waits for a lock that is held stays where it is.
def step (system : System) (move : Move) : System :=
  match system.points move.thread with
  | .idle => system.enter move.thread move.ask
  | .entered => system.place move.thread (.noted system.manager.passes) (some .noted)
  | .noted seen =>
      if system.manager.phase = .ready then system.place move.thread .idle (some (.returned (.ok ())))
      else system.place move.thread (.wanting (.holding seen)) none
  | .wanting work =>
      match system.holder? with
      | some _ => system
      | none => { system with holder? := some move.thread }.place move.thread (.inside work) none
  | .inside work =>
      let effect := work.run move system.manager
      match effect.next? with
      | some next => { system with manager := effect.manager }.place move.thread (.inside next) effect.mark?
      | none =>
          { system with manager := effect.manager, holder? := none }.place move.thread .idle effect.mark?

def after (system : System) (schedule : List Move) : System := schedule.foldl step system

end System

end Protocol

end ClusterCaps
