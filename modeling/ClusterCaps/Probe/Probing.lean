import ClusterCaps.Probe.Query
import ClusterCaps.Log.Event

set_option autoImplicit false

namespace ClusterCaps

inductive Probe where
  | version
  | globalTimestamp
  | timestampHeartbeat
  | commitTimestampTx
  | sharedReadView
  | xengine
  | performanceSchema
  | openSsl
  | lowerCaseTableNames
  | mdlPrivilege
  | mdlInstrumentation
  | returning
  | udfPlugin
  | udfFunctions
deriving DecidableEq, Repr

def Probe.name : Probe → String
  | version => "version"
  | globalTimestamp => "global_timestamp"
  | timestampHeartbeat => "timestamp_heartbeat"
  | commitTimestampTx => "commit_timestamp_tx"
  | sharedReadView => "shared_read_view"
  | xengine => "xengine"
  | performanceSchema => "performance_schema"
  | openSsl => "open_ssl"
  | lowerCaseTableNames => "lower_case_table_names"
  | mdlPrivilege => "mdl_privilege"
  | mdlInstrumentation => "mdl_instrumentation"
  | returning => "returning"
  | udfPlugin => "udf_plugin"
  | udfFunctions => "udf_functions"

inductive ProbeError where
  | exec (probe : Probe) (cause : ExecError)
  | malformed (probe : Probe) (message : String)
deriving DecidableEq, Repr

namespace ProbeError

def probe : ProbeError → Probe
  | exec probe _ => probe
  | malformed probe _ => probe

def text : ProbeError → String
  | exec probe cause => "probe '" ++ probe.name ++ "' failed: " ++ cause.text
  | malformed probe message => "probe '" ++ probe.name ++ "' returned malformed data: " ++ message

end ProbeError

inductive Step where
  | query (route : Route) (statement : String)
  | log (event : Log.Event)
deriving DecidableEq, Repr

def Step.query? : Step → Option (Route × String)
  | query route statement => some (route, statement)
  | log _ => none

def Step.event? : Step → Option Log.Event
  | query _ _ => none
  | log event => some event

structure Outcome (α : Type) where
  steps : List Step
  result : Except ProbeError α

namespace Outcome

variable {α : Type}

def queries (outcome : Outcome α) : List (Route × String) := outcome.steps.filterMap Step.query?
def events (outcome : Outcome α) : List Log.Event := outcome.steps.filterMap Step.event?

end Outcome

def Probing (α : Type) : Type := Connection → Outcome α

namespace Probing

def run {α : Type} (work : Probing α) (connection : Connection) : Outcome α := work connection

def done {α : Type} (value : α) : Probing α := fun _ => ⟨[], .ok value⟩

def andThen {α β : Type} (work : Probing α) (next : α → Probing β) : Probing β := fun connection =>
  let first := work connection
  match first.result with
  | .error error => ⟨first.steps, .error error⟩
  | .ok value =>
    let second := next value connection
    ⟨first.steps ++ second.steps, second.result⟩

instance : Monad Probing where
  pure := done
  bind := andThen

def stop {α : Type} (error : ProbeError) : Probing α := fun _ => ⟨[], .error error⟩

def ask (route : Route) (statement : String) : Probing (Except ExecError (List Row)) :=
  fun connection => ⟨[.query route statement], .ok (connection route statement)⟩

def log (event : Log.Event) : Probing Unit := fun _ => ⟨[.log event], .ok ()⟩

def require (probe : Probe) (route : Route) (statement : String) : Probing (List Row) := do
  match ← ask route statement with
  | .ok rows => done rows
  | .error cause => stop (.exec probe cause)

theorem run_done {α : Type} (value : α) (connection : Connection) :
    (done value).run connection = ⟨[], .ok value⟩ := rfl

theorem run_bind_ok {α β : Type} (work : Probing α) (next : α → Probing β) (connection : Connection)
    (steps : List Step) (value : α) (h : work.run connection = ⟨steps, .ok value⟩) :
    (work >>= next).run connection =
      ⟨steps ++ ((next value).run connection).steps, ((next value).run connection).result⟩ := by
  have first : work connection = ⟨steps, .ok value⟩ := h
  simp [run, bind, andThen, first]

theorem run_bind_error {α β : Type} (work : Probing α) (next : α → Probing β)
    (connection : Connection) (steps : List Step) (error : ProbeError)
    (h : work.run connection = ⟨steps, .error error⟩) :
    (work >>= next).run connection = ⟨steps, .error error⟩ := by
  have first : work connection = ⟨steps, .error error⟩ := h
  simp [run, bind, andThen, first]

theorem run_ask (route : Route) (statement : String) (connection : Connection) :
    (ask route statement).run connection = ⟨[.query route statement], .ok (connection route statement)⟩ := rfl

theorem run_require_ok (probe : Probe) (route : Route) (statement : String) (connection : Connection)
    (rows : List Row) (h : connection route statement = .ok rows) :
    (require probe route statement).run connection = ⟨[.query route statement], .ok rows⟩ := by
  rw [require, run_bind_ok _ _ _ _ _ (run_ask route statement connection), h]
  rfl

theorem run_require_error (probe : Probe) (route : Route) (statement : String) (connection : Connection)
    (cause : ExecError) (h : connection route statement = .error cause) :
    (require probe route statement).run connection =
      ⟨[.query route statement], .error (.exec probe cause)⟩ := by
  rw [require, run_bind_ok _ _ _ _ _ (run_ask route statement connection), h]
  rfl

end Probing

end ClusterCaps
