import ClusterCaps.Manager.State

/-!
Calls of a manager. Each call is given the outside as it is at that time, and answers with a result,
the manager afterwards, and what the call did on the way.
-/
set_option autoImplicit false

namespace ClusterCaps

structure Outside where
  topology : Topology
  deployment : Deployment
  passId : PassId
  elapsed : Nat

-- What a call did: the events it logged, what it asked of the outside, and the manager as others
-- could see it each time the call asked for the nodes.
structure Effects where
  emissions : List Emission
  contacts : List Contact
  observed : List Manager

namespace Effects

def none : Effects := ⟨[], [], []⟩

def append (first second : Effects) : Effects :=
  ⟨first.emissions ++ second.emissions, first.contacts ++ second.contacts,
    first.observed ++ second.observed⟩

def queries (effects : Effects) : List (String × Route × String) :=
  effects.contacts.filterMap Contact.query?

end Effects

structure Call (α : Type) where
  result : Except Stop α
  manager : Manager
  effects : Effects

namespace Call

def pure {α : Type} (manager : Manager) (value : α) : Call α := ⟨.ok value, manager, Effects.none⟩

def fail {α : Type} (manager : Manager) (error : PassError) : Call α :=
  ⟨.error (.failed error), manager, Effects.none⟩

def andThen {α β : Type} (call : Call α) (next : Manager → α → Call β) : Call β :=
  match call.result with
  | .error stop => ⟨.error stop, call.manager, call.effects⟩
  | .ok value =>
    let later := next call.manager value
    ⟨later.result, later.manager, call.effects.append later.effects⟩

end Call

namespace Manager

def logTarget : String := "sc_core::manager"

def passSpan (id : PassId) : Log.Span :=
  ⟨"pass", logTarget, .info, [("pass_id", .text id.text), ("stage", .text Log.Stage.probe.name)]⟩

def startedEvent (deployment : Deployment) : Log.Event :=
  .named .info logTarget "pass.started" "capability pass started"
    [("stage", .text Log.Stage.discover.name), ("read_only", .bool deployment.readOnly),
      ("metadata_extended_protocol", .bool deployment.extendedMetadata)]

def failedEvent (error : PassError) (elapsed : Nat) : Log.Event :=
  .named .warn logTarget "pass.failed" "capability pass failed; keeping previous flags"
    [("error", .text error.text), ("elapsed_ms", .int elapsed)]

def finishedEvent (nodes elapsed : Nat) : Log.Event :=
  .named .info logTarget "pass.finished" "capability pass finished"
    [("stage", .text Log.Stage.publish.name), ("nodes", .int nodes), ("elapsed_ms", .int elapsed)]

def recheckedEvent (node : String) (previous supported : Bool) : Log.Event :=
  .named .info logTarget "heartbeat.rechecked" "heartbeat support rechecked"
    [("node", .text node), ("previous", .bool previous), ("supported", .bool supported)]

def resetEvent : Log.Event :=
  .named .info logTarget "cache.reset" "capability cache reset"
    [("stage", .text Log.Stage.reset.name)]

-- The manager as others see it while a pass runs. One that is ready stays so.
def during (manager : Manager) (restore : Phase) : Manager :=
  if restore = .ready then manager else { manager with phase := .initializing }

def afterFailure (manager : Manager) (restore : Phase) (id : PassId) (error : PassError) : Manager :=
  { manager with
    phase := restore, passes := manager.passes + 1, lastPass? := some id, lastError? := some error }

def afterSuccess (manager : Manager) (id : PassId) (findings : Findings) : Manager :=
  { manager.publish findings with
    phase := .ready, passes := manager.passes + 1, lastPass? := some id, lastError? := none }

def runPass (manager : Manager) (restore : Phase) (outside : Outside) : Call Unit :=
  let busy := manager.during restore
  let pass := Pass.run outside.topology manager.options manager.parallelism outside.deployment
  let effects := fun (ending : List Emission) =>
    let events := Emission.direct (startedEvent outside.deployment) :: pass.emissions ++ ending
    Effects.mk (events.map (Emission.within (passSpan outside.passId))) pass.contacts [busy]
  match pass.result with
  | .error .unwound => ⟨.error .unwound, busy, effects []⟩
  | .error (.failed error) =>
    ⟨.error (.failed error), busy.afterFailure restore outside.passId error,
      effects [Emission.direct (failedEvent error outside.elapsed)]⟩
  | .ok findings =>
    let after := busy.afterSuccess outside.passId findings
    ⟨.ok (), after,
      effects [Emission.direct (finishedEvent after.nodes.length outside.elapsed)]⟩

-- Sees to it that a pass has succeeded. A caller that has waited for another's pass since it saw
-- `seen` passes shares that pass's failure.
def ensureReady (manager : Manager) (seen : Nat) (outside : Outside) : Call Unit :=
  if manager.phase = .ready then Call.pure manager ()
  else
    match (if manager.passes = seen then none else manager.lastError?) with
    | some error => Call.fail manager error
    | none => manager.runPass .uninitialized outside

def gated {α : Type} (manager : Manager) (outside : Outside) (read : Manager → α) : Call α :=
  (manager.ensureReady manager.passes outside).andThen fun after _ => Call.pure after (read after)

def capabilities (manager : Manager) (outside : Outside) : Call Cluster :=
  manager.gated outside Manager.cluster

def flag (manager : Manager) (read : Cluster → Bool) (outside : Outside) : Call Bool :=
  manager.gated outside fun after => read after.cluster

def findNode (manager : Manager) (name : String) : Call Node.Snapshot :=
  match manager.nodes.lookup name with
  | some snapshot => Call.pure manager snapshot
  | none => Call.fail manager (.nodeNotFound name)

def node (manager : Manager) (name : String) (outside : Outside) : Call Node.Snapshot :=
  (manager.ensureReady manager.passes outside).andThen fun after _ => after.findNode name

def setHeartbeat (manager : Manager) (name : String) (snapshot : Node.Snapshot) (supported : Bool) :
    Manager :=
  { manager with nodes := manager.nodes.insert name { snapshot with heartbeat := supported } }

def askHeartbeat (manager : Manager) (name : String) (snapshot : Node.Snapshot) (outside : Outside) :
    Call Bool :=
  match outside.topology.connect name with
  | .error cause => ⟨.error (.failed (.topology cause)), manager, ⟨[], Contact.through name [], []⟩⟩
  | .ok .crashing => ⟨.error .unwound, manager, ⟨[], Contact.through name [], []⟩⟩
  | .ok (.answering connection) =>
    let outcome := Check.timestampHeartbeat.run connection
    let contacts := Contact.through name outcome.queries
    match outcome.result with
    | .error cause => ⟨.error (.failed (.probe name cause)), manager, ⟨[], contacts, []⟩⟩
    | .ok supported =>
      ⟨.ok supported, manager.setHeartbeat name snapshot supported,
        ⟨[Emission.direct (recheckedEvent name snapshot.heartbeat supported)], contacts, []⟩⟩

def recheckHeartbeat (manager : Manager) (name : String) (outside : Outside) : Call Bool :=
  (manager.node name outside).andThen fun after snapshot => after.askHeartbeat name snapshot outside

def refresh (manager : Manager) (outside : Outside) : Call Cluster :=
  let restore := if manager.phase = .ready then Phase.ready else .uninitialized
  (manager.runPass restore outside).andThen fun after _ => Call.pure after after.cluster

-- Forgets all findings. The name of the last pass stays known.
def reset (manager : Manager) : Call Unit :=
  ⟨.ok (),
    { manager with
      nodes := [], skipped := [], cluster := Cluster.nothing, lastError? := none,
      phase := .uninitialized },
    ⟨[Emission.direct resetEvent], [], []⟩⟩

-- Two calls at the same time, the second of which waits for the first.
def capabilitiesTwice (manager : Manager) (outside : Outside) : Call Cluster × Call Cluster :=
  let first := manager.capabilities outside
  let second := (first.manager.ensureReady manager.passes outside).andThen fun after _ =>
    Call.pure after after.cluster
  (first, second)

end Manager

end ClusterCaps
