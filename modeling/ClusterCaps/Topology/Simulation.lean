import ClusterCaps.Topology.Transcript

set_option autoImplicit false

namespace ClusterCaps

structure SimulatedNode where
  profile : Profile
  -- Failures that come before everything else, the earlier before the later.
  failures : List (String × ExecError) := []
  unreachable : Bool := profile.unreachable
  queries : Nat := 0
deriving DecidableEq, Repr

namespace SimulatedNode

def defaultVersion : String := "8.0.32"

def plainProfile (name : String) : Profile := { name, version? := some defaultVersion }

def publicKeyStatus : String × String := ("Rsa_public_key", "-----BEGIN PUBLIC KEY-----")

def name (node : SimulatedNode) : String := node.profile.name

def answer (node : SimulatedNode) (statement : String) : Except ExecError (List Row) :=
  match node.failures.find? fun failure => Text.contains failure.1 statement with
  | some (_, error) => .error error
  | none => node.profile.answer statement

def counted (node : SimulatedNode) (statements : Nat) : SimulatedNode :=
  { node with queries := node.queries + statements }

def inject (node : SimulatedNode) (piece : String) (error : ExecError) : SimulatedNode :=
  { node with failures := node.failures ++ [(piece, error)] }

def clearFaults (node : SimulatedNode) : SimulatedNode :=
  { node with failures := [], profile := { node.profile with faults := [] } }

-- Takes over another node's answers. Its own name and kind stay, and so does the way to reach it.
def reconfigure (node other : SimulatedNode) : SimulatedNode :=
  { node with
    profile := { other.profile with name := node.name, kind := node.profile.kind }
    failures := other.failures }

end SimulatedNode

structure Simulation where
  nodes : List SimulatedNode
  discoveryError? : Option TopologyError := none
deriving DecidableEq, Repr

namespace Simulation

def find? (simulation : Simulation) (name : String) : Option SimulatedNode :=
  simulation.nodes.find? fun node => node.name == name

def update (simulation : Simulation) (name : String) (change : SimulatedNode → SimulatedNode) :
    Simulation :=
  let rec go : List SimulatedNode → List SimulatedNode
    | [] => []
    | node :: rest => if node.name == name then change node :: rest else node :: go rest
  { simulation with nodes := go simulation.nodes }

def queries (simulation : Simulation) : Nat :=
  (simulation.nodes.map SimulatedNode.queries).foldr (· + ·) 0

def counted (simulation : Simulation) (names : List String) : Simulation :=
  names.foldl (fun simulation name => simulation.update name (·.counted 1)) simulation

def descriptors (simulation : Simulation) : Except TopologyError (List Descriptor) :=
  match simulation.discoveryError? with
  | some error => .error error
  | none => .ok (simulation.nodes.map fun node => node.profile.descriptor)

def connect (simulation : Simulation) (crashing : List String) (name : String) :
    Except TopologyError Link :=
  match simulation.find? name with
  | none => .error (.unknownNode name)
  | some node =>
    if node.unreachable then .error (.connection name "connection refused")
    else if crashing.contains name then .ok .crashing
    else .ok (.answering fun _ statement => node.answer statement)

def topology (simulation : Simulation) (crashing : List String) : Topology :=
  ⟨simulation.descriptors, simulation.connect crashing⟩

end Simulation

end ClusterCaps
