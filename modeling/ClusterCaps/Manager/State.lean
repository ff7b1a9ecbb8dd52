import ClusterCaps.NameMap
import ClusterCaps.Config.Basic
import ClusterCaps.Pass.Run
import ClusterCaps.PassId

set_option autoImplicit false

namespace ClusterCaps

inductive Phase where
  | uninitialized
  | initializing
  | ready
deriving DecidableEq, Repr

namespace Phase

def name : Phase → String
  | uninitialized => "uninitialized"
  | initializing => "initializing"
  | ready => "ready"

def title : Phase → String
  | uninitialized => "Uninitialized"
  | initializing => "Initializing"
  | ready => "Ready"

end Phase

structure Manager where
  options : ProbeOptions
  parallelism : Nat
  phase : Phase
  -- Passes that have ended, whether or not they found anything.
  passes : Nat
  lastPass? : Option PassId
  lastError? : Option PassError
  cluster : Cluster
  nodes : NameMap Node.Snapshot
  skipped : List String
deriving DecidableEq, Repr

namespace Manager

def start (options : ProbeOptions) (parallelism : Nat) : Manager where
  options := options
  parallelism := parallelism
  phase := .uninitialized
  passes := 0
  lastPass? := none
  lastError? := none
  cluster := Cluster.nothing
  nodes := []
  skipped := []

def ofConfig (config : Config) : Manager := start config.probeOptions config.probe.parallelism

-- Takes over what a pass has found: new snapshots come in before those of departed nodes go.
def publish (manager : Manager) (findings : Findings) : Manager :=
  { manager with
    nodes := (manager.nodes.insertAll findings.snapshots).retain (findings.snapshots.map (·.1))
    skipped := findings.skipped
    cluster := findings.cluster }

def text (manager : Manager) : String :=
  "StorageCapabilityManager \x7b state: " ++ manager.phase.title ++ ", passes: " ++
    Text.ofNat manager.passes ++ ", nodes: " ++ Text.ofNat manager.nodes.length ++ ", .. \x7d"

end Manager

end ClusterCaps
