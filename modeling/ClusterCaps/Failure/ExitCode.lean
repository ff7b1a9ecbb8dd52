import ClusterCaps.Failure.Basic
import ClusterCaps.Text.Integer

set_option autoImplicit false

namespace ClusterCaps

inductive ExitCode where
  | clean
  | arguments
  | config
  | topology
  | probe
  | nodeNotFound
  | internal
  | io
deriving DecidableEq, Repr

namespace ExitCode

def number : ExitCode → Nat
  | clean => 0
  | arguments => 10
  | config => 11
  | topology => 12
  | probe => 13
  | nodeNotFound => 14
  | internal => 20
  | io => 21

def name : ExitCode → String
  | clean => "OK_CLEAN"
  | arguments => "ERR_ARGS"
  | config => "ERR_CONFIG"
  | topology => "ERR_TOPOLOGY"
  | probe => "ERR_PROBE"
  | nodeNotFound => "ERR_NODE_NOT_FOUND"
  | internal => "ERR_INTERNAL"
  | io => "ERR_IO"

def text (code : ExitCode) : String := code.name ++ " (" ++ Text.ofNat code.number ++ ")"

def isSuccess (code : ExitCode) : Bool := code == clean
def isUserError (code : ExitCode) : Bool := 10 ≤ code.number && code.number < 20
def isInternalError (code : ExitCode) : Bool := 20 ≤ code.number

def ofCategory : Failure.Category → ExitCode
  | .config => config
  | .topology => topology
  | .probe => probe
  | .lifecycle => internal
  | .io => io

def ofFailure (failure : Failure) : ExitCode :=
  match failure with
  | .nodeNotFound _ => nodeNotFound
  | .json _ => internal
  | _ => ofCategory failure.category

end ExitCode

end ClusterCaps
