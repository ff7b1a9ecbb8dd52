import ClusterCaps.Probe.Query

set_option autoImplicit false

namespace ClusterCaps

inductive NodeKind where
  | sql
  | columnar
  | other
deriving DecidableEq, Repr

namespace NodeKind

def name : NodeKind → String
  | sql => "sql"
  | columnar => "columnar"
  | other => "other"

def named : List (String × NodeKind) := [sql, columnar, other].map fun kind => (kind.name, kind)

end NodeKind

structure Descriptor where
  name : String
  kind : NodeKind
deriving DecidableEq, Repr

def Descriptor.isSql (node : Descriptor) : Bool := node.kind == .sql

inductive TopologyError where
  | unavailable (message : String)
  | unknownNode (node : String)
  | connection (node message : String)
  | invalid (message : String)
deriving DecidableEq, Repr

def TopologyError.text : TopologyError → String
  | unavailable message => "topology unavailable: " ++ message
  | unknownNode node => "node '" ++ node ++ "' is not part of the topology"
  | connection node message => "cannot acquire connection to '" ++ node ++ "': " ++ message
  | invalid message => "invalid topology: " ++ message

-- A way to a node: one that answers, or one whose first statement crashes the thread that sends it.
inductive Link where
  | answering (connection : Connection)
  | crashing

structure Topology where
  nodes : Except TopologyError (List Descriptor)
  connect : String → Except TopologyError Link

inductive Contact where
  | nodes
  | connect (node : String)
  | query (node : String) (route : Route) (statement : String)
deriving DecidableEq, Repr

namespace Contact

def query? : Contact → Option (String × Route × String)
  | nodes => none
  | connect _ => none
  | query node route statement => some (node, route, statement)

def through (node : String) (queries : List (Route × String)) : List Contact :=
  connect node :: queries.map fun (route, statement) => query node route statement

end Contact

end ClusterCaps
