import ClusterCaps.Proofs.Manager.History
import ClusterCaps.Proofs.Protocol.Step

/-!
Threads that read from a manager, report on it and recheck its nodes while others refresh and reset it. A
call first gets past `ensure`, and then goes about its errand, one load or store of the manager at a time;
what a node answers to a recheck is part of the step. A map is read, changed or gone through in one step.
-/
set_option autoImplicit false

namespace ClusterCaps

def Findings.names (findings : Findings) : List String := findings.snapshots.map (·.1)

namespace Service

open Protocol

inductive Errand where
  | flag (read : Cluster → Bool)
  | capabilities
  | node (name : String)
  | recheck (name : String)
  | report (time : Timestamp)

inductive Wish where
  | errand (errand : Errand)
  | refresh
  | reset

def Wish.ask : Wish → Ask
  | .errand _ => .ensure
  | .refresh => .refresh
  | .reset => .reset

structure Act where
  thread : Nat
  wish : Wish
  outcome : Except PassError Findings
  passId : PassId
  -- What comes of asking a node, should it be about to.
  reply : Except PassError Bool

def Act.move (act : Act) : Move := ⟨act.thread, act.wish.ask, act.outcome, act.passId⟩

-- What is left of an errand. A recheck keeps hold of the snapshot that it has found, which is told apart
-- from later ones by the number of snapshots placed under its name until then.
inductive Chore where
  | begin (errand : Errand)
  | asking (name : String) (edition : Nat)
  | beating (name : String) (edition : Nat) (supported : Bool)
  | replying (name : String) (supported : Bool)
  | listing (time : Timestamp) (cluster : Cluster)
  | naming (time : Timestamp) (cluster : Cluster) (nodes : NameMap Node.Snapshot)
  | closing (time : Timestamp) (cluster : Cluster) (nodes : NameMap Node.Snapshot) (pass? : Option PassId)

-- Where a thread is on this side of `ensure`. In a refresh or a reset it is away.
inductive Desk where
  | away
  | waiting (errand : Errand)
  | busy (chore : Chore)

-- What a run leaves on record: what becomes of calls, and every store that a read could see.
inductive Sign where
  | admitted (errand : Errand)
  | refused (errand : Errand) (error : PassError)
  | probed (outcome : Except PassError Findings)
  | placed (name : String) (snapshot : Node.Snapshot)
  | listed (findings : Findings)
  | omitted (findings : Findings)
  | published (findings : Findings)
  | cleared
  | blanked
  | wiped
  | forgot
  | fetched (name : String) (edition : Nat)
  | heard (name : String) (supported : Bool)
  | beat (name : String) (edition : Nat) (supported : Bool)
  | sawCluster (cluster : Cluster)
  | sawNodes (nodes : NameMap Node.Snapshot)
  | sawPass (pass? : Option PassId)
  | answered (errand : Errand) (result : Except PassError Answer)

structure Sighting where
  thread : Nat
  sign : Sign

def Sign.places (name : String) : Sign → Bool
  | .placed other _ => other == name
  | _ => false

def editions (name : String) (record : List Sighting) : Nat := record.countP fun seen => seen.sign.places name

def withBeat (nodes : NameMap Node.Snapshot) (name : String) (supported : Bool) : NameMap Node.Snapshot :=
  match nodes.lookup name with
  | some snapshot => nodes.insert name { snapshot with heartbeat := supported }
  | none => nodes

def found (nodes : NameMap Node.Snapshot) (name : String) : Except PassError Answer :=
  match nodes.lookup name with
  | some snapshot => .ok (.snapshot snapshot)
  | none => .error (.nodeNotFound name)

structure Look where
  manager : Manager
  desk : Desk
  signs : List Sign

def Errand.run (manager : Manager) (record : List Sighting) : Errand → Look
  | .flag read => ⟨manager, .away, [.answered (.flag read) (.ok (.flag (read manager.cluster)))]⟩
  | .capabilities => ⟨manager, .away, [.answered .capabilities (.ok (.cluster manager.cluster))]⟩
  | .node name => ⟨manager, .away, [.answered (.node name) (found manager.nodes name)]⟩
  | .recheck name =>
      match manager.nodes.lookup name with
      | some _ =>
          ⟨manager, .busy (.asking name (editions name record)), [.fetched name (editions name record)]⟩
      | none => ⟨manager, .away, [.answered (.recheck name) (.error (.nodeNotFound name))]⟩
  | .report time => ⟨manager, .busy (.listing time manager.cluster), [.sawCluster manager.cluster]⟩

-- A heartbeat that belongs to a snapshot no longer in the map is stored where no later read finds it.
def Chore.run (reply : Except PassError Bool) (manager : Manager) (record : List Sighting) : Chore → Look
  | .begin errand => errand.run manager record
  | .asking name edition =>
      match reply with
      | .error error => ⟨manager, .away, [.answered (.recheck name) (.error error)]⟩
      | .ok supported => ⟨manager, .busy (.beating name edition supported), [.heard name supported]⟩
  | .beating name edition supported =>
      let nodes := if editions name record = edition then withBeat manager.nodes name supported else manager.nodes
      ⟨{ manager with nodes }, .busy (.replying name supported), [.beat name edition supported]⟩
  | .replying name supported => ⟨manager, .away, [.answered (.recheck name) (.ok (.flag supported))]⟩
  | .listing time cluster =>
      ⟨manager, .busy (.naming time cluster manager.nodes), [.sawNodes manager.nodes]⟩
  | .naming time cluster nodes =>
      ⟨manager, .busy (.closing time cluster nodes manager.lastPass?), [.sawPass manager.lastPass?]⟩
  | .closing time cluster nodes pass? =>
      let report := ClusterReport.ofManager { manager with nodes, lastPass? := pass? } cluster time
      ⟨manager, .away, [.answered (.report time) (.ok (.report report))]⟩

def workSign? (outcome : Except PassError Findings) : Work → Option Sign
  | .passing _ _ .running => some (.probed outcome)
  | .passing _ _ (.inserting _ ((name, snapshot) :: _)) => some (.placed name snapshot)
  | .passing _ _ (.inserting findings []) => some (.listed findings)
  | .passing _ _ (.skipping findings) => some (.omitted findings)
  | .passing _ _ (.flagging findings) => some (.published findings)
  | .clearing .nodes => some .cleared
  | .clearing .skipped => some .blanked
  | .clearing .cluster => some .wiped
  | .clearing .phase => some .forgot
  | _ => none

def pointSign? (outcome : Except PassError Findings) : Point → Option Sign
  | .inside work => workSign? outcome work
  | _ => none

def gate? (manager : Manager) : Point → Option (Except PassError Unit)
  | .noted _ => if manager.phase = .ready then some (.ok ()) else none
  | .inside (.leaving result) => some result
  | _ => none

structure State where
  system : System
  desks : Nat → Desk
  record : List Sighting

namespace State

def start (options : ProbeOptions) (parallelism : Nat) : State where
  system := System.start options parallelism
  desks _ := .away
  record := []

def seat (state : State) (thread : Nat) (desk : Desk) (signs : List Sign) : State :=
  { state with
    desks := fun other => if other = thread then desk else state.desks other
    record := signs.map (Sighting.mk thread) ++ state.record }

def advance (state : State) (act : Act) (desk : Desk) (sign? : Option Sign) : State :=
  { state with system := state.system.step act.move }.seat act.thread desk
    (sign?.toList ++ (pointSign? act.outcome (state.system.points act.thread)).toList)

def welcome (point : Point) (wish : Wish) : Desk :=
  match point, wish with
  | .idle, .errand errand => .waiting errand
  | _, _ => .away

def step (state : State) (act : Act) : State :=
  match state.desks act.thread with
  | .away => state.advance act (welcome (state.system.points act.thread) act.wish) none
  | .waiting errand =>
      match gate? state.system.manager (state.system.points act.thread) with
      | none => state.advance act (.waiting errand) none
      | some (.ok _) => state.advance act (.busy (.begin errand)) (some (.admitted errand))
      | some (.error error) => state.advance act .away (some (.refused errand error))
  | .busy chore =>
      let look := chore.run act.reply state.system.manager state.record
      { state with system := { state.system with manager := look.manager } }.seat act.thread look.desk look.signs

def after (state : State) (schedule : List Act) : State := schedule.foldl step state

end State

end Service

end ClusterCaps
