import ClusterCaps.Manager.Call
import ClusterCaps.Topology.Simulation

set_option autoImplicit false

namespace ClusterCaps

structure Session where
  manager : Manager
  simulation : Simulation
  deployment : Deployment
  crashing : List String := []
  discoveries : Nat := 0
  -- Statements answered by nodes that have been replaced since.
  earlierQueries : Nat := 0

structure SessionCall (α : Type) where
  result : Except PassError α
  session : Session
  emissions : List Emission
  observed : List Manager

namespace Session

def queries (session : Session) : Nat := session.earlierQueries + session.simulation.queries

def outside (session : Session) (passId : PassId) (elapsed : Nat) : Outside :=
  ⟨session.simulation.topology session.crashing, session.deployment, passId, elapsed⟩

def after {α : Type} (session : Session) (call : Call α) : Session :=
  { session with
    manager := call.manager
    simulation := session.simulation.counted (call.effects.queries.map (·.1))
    discoveries := session.discoveries + call.effects.contacts.count .nodes }

def finish {α : Type} (session : Session) (call : Call α) (result : Except PassError α) : SessionCall α :=
  ⟨result, session.after call, call.effects.emissions, call.effects.observed⟩

-- A call that unwinds takes the whole session with it.
def run {α : Type} (session : Session) (call : Call α) : Option (SessionCall α) :=
  match call.result with
  | .ok value => some (session.finish call (.ok value))
  | .error (.failed error) => some (session.finish call (.error error))
  | .error .unwound => none

def replaceNodes (session : Session) (simulation : Simulation) : Session :=
  { session with simulation, earlierQueries := session.queries }

-- Reads of one flag at the same time: all but one wait for the first, and share its failure.
def flagTogether (session : Session) (read : Cluster → Bool) (outside : Outside) (seen : Nat) :
    Nat → Option (List (SessionCall Bool))
  | 0 => some []
  | count + 1 => do
    let call ← session.run <| (session.manager.ensureReady seen outside).andThen fun after _ =>
      Call.pure after (read after.cluster)
    return call :: (← flagTogether call.session read outside seen count)

end Session

end ClusterCaps
