import ClusterCaps.Node.Snapshot
import ClusterCaps.Topology.Basic

set_option autoImplicit false

namespace ClusterCaps

inductive PassError where
  | topology (cause : TopologyError)
  | probe (node : String) (cause : ProbeError)
  | nodeNotFound (node : String)
  | initialization (message : String)
deriving DecidableEq, Repr

def PassError.text : PassError → String
  | topology cause => cause.text
  | probe node cause => "node '" ++ node ++ "': " ++ cause.text
  | nodeNotFound node => "node '" ++ node ++ "' has no capability snapshot"
  | initialization message => "capability initialization failed: " ++ message

inductive Ending where
  | found (snapshot : Node.Snapshot)
  | failed (error : PassError)
  | crashed
deriving DecidableEq, Repr

structure Visit where
  node : String
  steps : List Step
  ending : Ending
deriving DecidableEq, Repr

namespace Visit

def logTarget : String := "sc_core::aggregate::aggregator"

def span (node : String) : Log.Span := ⟨"node", logTarget, .info, [("node", .text node)]⟩

def probed (snapshot : Node.Snapshot) : Log.Event :=
  .named .debug logTarget "node.probed" "node probed" [("version", .text snapshot.version)]

def ofOutcome (node : String) (outcome : Outcome Node.Snapshot) : Visit :=
  match outcome.result with
  | .ok snapshot => ⟨node, outcome.steps ++ [.log (probed snapshot)], .found snapshot⟩
  | .error cause => ⟨node, outcome.steps, .failed (.probe node cause)⟩

-- Connects to a node and probes it. A crash needs a statement, so that none comes about where no
-- node is asked.
def of (topology : Topology) (options : ProbeOptions) (node : String) : Visit :=
  match topology.connect node with
  | .error cause => ⟨node, [], .failed (.topology cause)⟩
  | .ok (.answering connection) =>
    ofOutcome node ((Node.Snapshot.probe options).run connection)
  | .ok .crashing =>
    if options.fastMock then
      ofOutcome node ⟨[], .ok Node.Snapshot.synthetic⟩
    else ⟨node, [], .crashed⟩

def snapshot? (visit : Visit) : Option Node.Snapshot :=
  match visit.ending with
  | .found snapshot => some snapshot
  | .failed _ => none
  | .crashed => none

def error? (visit : Visit) : Option PassError :=
  match visit.ending with
  | .found _ => none
  | .failed error => some error
  | .crashed => none

def hasCrashed (visit : Visit) : Bool := visit.ending == .crashed

def queries (visit : Visit) : List (Route × String) := visit.steps.filterMap Step.query?
def events (visit : Visit) : List Log.Event := visit.steps.filterMap Step.event?
def contacts (visit : Visit) : List Contact := Contact.through visit.node visit.queries

end Visit

end ClusterCaps
