import ClusterCaps.Decimal.Shortest
import ClusterCaps.Text.Integer

set_option autoImplicit false

namespace ClusterCaps.Log

inductive Level where
  | trace
  | debug
  | info
  | warn
  | error
deriving DecidableEq, Repr

namespace Level

def name : Level → String
  | trace => "trace"
  | debug => "debug"
  | info => "info"
  | warn => "warn"
  | error => "error"

def named : List (String × Level) :=
  [trace, debug, info, warn, error].map fun level => (level.name, level)

def verbosity : Level → Nat
  | error => 1
  | warn => 2
  | info => 3
  | debug => 4
  | trace => 5

end Level

-- A recorded value. Whatever is recorded in a written form is a text.
inductive Value where
  | text (value : String)
  | int (value : Int)
  | float (value : Binary64)
  | bool (value : Bool)
deriving DecidableEq, Repr

abbrev Fields := List (String × Value)

structure Span where
  name : String
  target : String
  level : Level
  fields : Fields
deriving DecidableEq, Repr

structure Event where
  level : Level
  target : String
  fields : Fields
deriving DecidableEq, Repr

def Event.named (level : Level) (target name message : String) (fields : Fields) : Event :=
  ⟨level, target, ("event", .text name) :: fields ++ [("message", .text message)]⟩

def Event.plain (level : Level) (target message : String) (fields : Fields) : Event :=
  ⟨level, target, fields ++ [("message", .text message)]⟩

def Event.field? (event : Event) (key : String) : Option Value := event.fields.lookup key

inductive Stage where
  | init
  | discover
  | probe
  | fold
  | publish
  | reset
deriving DecidableEq, Repr

namespace Stage

def name : Stage → String
  | init => "init"
  | discover => "discover"
  | probe => "probe"
  | fold => "fold"
  | publish => "publish"
  | reset => "reset"

def named : List (String × Stage) :=
  [init, discover, probe, fold, publish, reset].map fun stage => (stage.name, stage)

end Stage

end ClusterCaps.Log
