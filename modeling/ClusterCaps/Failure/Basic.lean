import ClusterCaps.Pass.Visit
import ClusterCaps.Config.Error

set_option autoImplicit false

namespace ClusterCaps

inductive Failure where
  | config (message : String)
  | invalidConfig (message : String)
  | schemaValidation (message : String)
  | topology (message : String)
  | nodeNotFound (node : String)
  | connectionUnavailable (node message : String)
  | probeFailed (node probe message : String)
  | malformedResponse (node probe message : String)
  | initialization (message : String)
  | io (message : String)
  | json (message : String)
deriving DecidableEq, Repr

namespace Failure

inductive Category where
  | config
  | topology
  | probe
  | lifecycle
  | io
deriving DecidableEq, Repr

namespace Category

def name : Category → String
  | config => "config"
  | topology => "topology"
  | probe => "probe"
  | lifecycle => "lifecycle"
  | io => "io"

def named : List (String × Category) :=
  [config, topology, probe, lifecycle, io].map fun category => (category.name, category)

end Category

inductive Action where
  | retry
  | runCheck
  | rediscover
  | abort
  | manualIntervention
deriving DecidableEq, Repr

namespace Action

def name : Action → String
  | retry => "retry"
  | runCheck => "run_check"
  | rediscover => "rediscover"
  | abort => "abort"
  | manualIntervention => "manual_intervention"

def named : List (String × Action) :=
  [retry, runCheck, rediscover, abort, manualIntervention].map fun action => (action.name, action)

end Action

def text : Failure → String
  | config message => "configuration error: " ++ message
  | invalidConfig message => "invalid configuration: " ++ message
  | schemaValidation message => "schema validation failed: " ++ message
  | topology message => "topology discovery failed: " ++ message
  | nodeNotFound node => "node " ++ node ++ " not found in topology"
  | connectionUnavailable node message =>
    "connection to node " ++ node ++ " unavailable: " ++ message
  | probeFailed node probe message =>
    "probe '" ++ probe ++ "' failed on node " ++ node ++ ": " ++ message
  | malformedResponse node probe message =>
    "probe '" ++ probe ++ "' on node " ++ node ++ " returned malformed data: " ++ message
  | initialization message => "capability initialization failed: " ++ message
  | io message => "I/O error: " ++ message
  | json message => "JSON serialization error: " ++ message

def code : Failure → Nat
  | config _ => 10
  | invalidConfig _ => 11
  | schemaValidation _ => 12
  | topology _ => 20
  | nodeNotFound _ => 21
  | connectionUnavailable _ _ => 22
  | probeFailed _ _ _ => 30
  | malformedResponse _ _ _ => 31
  | initialization _ => 40
  | io _ => 60
  | json _ => 61

def category : Failure → Category
  | config _ => .config
  | invalidConfig _ => .config
  | schemaValidation _ => .config
  | topology _ => .topology
  | nodeNotFound _ => .topology
  | connectionUnavailable _ _ => .topology
  | probeFailed _ _ _ => .probe
  | malformedResponse _ _ _ => .probe
  | initialization _ => .lifecycle
  | io _ => .io
  | json _ => .io

-- A later attempt may succeed. A node that is not there or that answers nonsense will not change.
def isRecoverable : Failure → Bool
  | nodeNotFound _ => false
  | malformedResponse _ _ _ => false
  | _ => true

def action : Failure → Action
  | config _ => .runCheck
  | invalidConfig _ => .runCheck
  | schemaValidation _ => .runCheck
  | topology _ => .rediscover
  | nodeNotFound _ => .rediscover
  | connectionUnavailable _ _ => .retry
  | probeFailed _ _ _ => .retry
  | malformedResponse _ _ _ => .manualIntervention
  | initialization _ => .retry
  | io _ => .retry
  | json _ => .manualIntervention

def headline : Failure → String
  | config _ => "Configuration Error"
  | invalidConfig _ => "Invalid Configuration"
  | schemaValidation _ => "Schema Validation Failed"
  | topology _ => "Topology Error"
  | nodeNotFound _ => "Node Not Found"
  | connectionUnavailable _ _ => "Connection Unavailable"
  | probeFailed _ _ _ => "Probe Failed"
  | malformedResponse _ _ _ => "Malformed Node Response"
  | initialization _ => "Initialization Failed"
  | io _ => "I/O Error"
  | json _ => "JSON Parse Error"

def advice : Failure → String
  | config _ => "Run 'sc-core config validate' to check the configuration file."
  | invalidConfig _ =>
    "Fix the reported field, or remove the file to fall back to built-in defaults."
  | schemaValidation _ => "Ensure the configuration declares a supported schema_version (1.x)."
  | topology _ => "Check the topology source is readable and lists at least the expected nodes."
  | nodeNotFound _ => "List known nodes with 'sc-core probe --format summary' and check the name."
  | connectionUnavailable _ _ =>
    "Check the node is reachable and the connection pool is not exhausted, then retry."
  | probeFailed _ _ _ => "Check the node is reachable, then run 'sc-core probe' again."
  | malformedResponse _ _ _ =>
    "The node answered a capability query with unexpected data. Inspect the node's server version and variables."
  | initialization _ =>
    "Capability flags were left unchanged. Retry once the failing node is healthy."
  | io _ => "Check file permissions and that the path exists. Retry the operation."
  | json _ => "Invalid JSON in file. Check syntax with 'jq . <file>' or restore from backup."

def colourCode (number : Nat) : String := "\x1b[" ++ toString number ++ "m"

def coloured (inColour : Bool) (number : Nat) (text : String) : String :=
  if inColour then colourCode number ++ text ++ colourCode 0 else text

def forPeople (failure : Failure) (inColour : Bool) : String :=
  coloured inColour 31 "✗" ++ " " ++ failure.headline ++ "\n  Reason: " ++ failure.text ++ "\n  " ++
    coloured inColour 36 "Fix:" ++ " " ++ failure.advice

def ofTopologyError : TopologyError → Failure
  | .connection node message => connectionUnavailable node message
  | .unknownNode node => nodeNotFound node
  | .unavailable message => topology (TopologyError.unavailable message).text
  | .invalid message => topology (TopologyError.invalid message).text

def ofProbeError (node : String) : ProbeError → Failure
  | .exec probe cause => probeFailed node probe.name cause.text
  | .malformed probe message => malformedResponse node probe.name message

def ofPassError : PassError → Failure
  | .topology cause => ofTopologyError cause
  | .probe node cause => ofProbeError node cause
  | .nodeNotFound node => nodeNotFound node
  | .initialization message => initialization message

def ofConfigError (error : Config.Error) : Failure :=
  match error.kind with
  | .io => config error.detail
  | .version => schemaValidation error.text
  | .parse => invalidConfig error.text
  | .value => invalidConfig error.text

end Failure

end ClusterCaps
