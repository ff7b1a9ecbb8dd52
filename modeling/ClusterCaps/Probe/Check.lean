import ClusterCaps.Probe.Probing
import ClusterCaps.Probe.Statement
import ClusterCaps.Text.Blank
import ClusterCaps.Text.Quoted

/-!
The checks that a node is put through, one statement each. For most of them an empty answer means
no and a failing statement stops the work; the two on metadata locks take a failure for a no, and the
one on returning does so for two particular failures.
-/
set_option autoImplicit false

namespace ClusterCaps.Check

def logTarget : String := "sc_core::probe::set"

def negative (probe : Probe) (message : String) (fields : Log.Fields) : Log.Event :=
  .named .warn logTarget "probe.negative" message (("probe", .text probe.name) :: fields)

def version : Probing String := do
  match ← Probing.require .version .master Statement.version with
  | [] => Probing.stop (.malformed .version "no rows returned")
  | row :: _ =>
    match row.cell? 0 with
    | none => Probing.stop (.malformed .version "version is NULL")
    | some text => return text

def variablePresent (probe : Probe) (setting : String) : Probing Bool := do
  let rows ← Probing.require probe .any (Statement.showVariable setting)
  return !rows.isEmpty

def globalTimestamp : Probing Bool := variablePresent .globalTimestamp Statement.commitSequence
def timestampHeartbeat : Probing Bool :=
  variablePresent .timestampHeartbeat Statement.heartbeatSequence
def commitTimestampTx : Probing Bool := variablePresent .commitTimestampTx Statement.commitTimestamps
def sharedReadView : Probing Bool := variablePresent .sharedReadView Statement.transactionGroup
def xengine : Probing Bool := variablePresent .xengine Statement.xengineDirectory

def cellSays (row : Row) (index : Nat) (word : String) : Bool :=
  match row.cell? index with
  | none => false
  | some text => Text.sameIgnoringAsciiCase text word

def firstSays (rows : List Row) (index : Nat) (word : String) : Bool :=
  match rows with
  | [] => false
  | row :: _ => cellSays row index word

def performanceSchema : Probing Bool := do
  let rows ← Probing.require .performanceSchema .any
    (Statement.showVariable Statement.performanceSchema)
  return firstSays rows 1 "ON"

def openSsl : Probing Bool := do
  let rows ← Probing.require .openSsl .any Statement.rsaPublicKey
  return !rows.isEmpty

def lowerCaseTableNames : Probing Int32 := do
  match ← Probing.require .lowerCaseTableNames .master Statement.lowerCaseTableNames with
  | [] => Probing.stop (.malformed .lowerCaseTableNames "no rows returned")
  | row :: _ =>
    match row.cell? 0 with
    | none => Probing.stop (.malformed .lowerCaseTableNames "value is NULL")
    | some text =>
      match Text.int32? (Text.trim text.toList) with
      | some mode => return mode
      | none =>
        Probing.stop (.malformed .lowerCaseTableNames
          ("expected an integer, got " ++ Text.quoted text))

def mdlPrivilege : Probing Bool := do
  match ← Probing.ask .any Statement.mdlPrivilege with
  | .ok _ => return true
  | .error cause =>
    Probing.log (negative .mdlPrivilege "cannot select from performance_schema.metadata_locks"
      [("error", .text cause.text)])
    return false

def mdlInstrumentation : Probing Bool := do
  match ← Probing.ask .any Statement.mdlInstrument with
  | .ok rows => return firstSays rows 0 "YES"
  | .error cause =>
    Probing.log (negative .mdlInstrumentation "cannot read MDL instrumentation state"
      [("error", .text cause.text)])
    return false

def returningSchema : String := "dbms_trans"
def returningProcedure : String := "returning"

def listsReturning (row : Row) : Bool :=
  cellSays row 0 returningSchema && cellSays row 1 returningProcedure

def returningRefusal? : ExecError → Option String
  | .sql error =>
    if error.isLike "42000" 1305 "does not exist" then
      some "procedure dbms_admin.show_native_procedure does not exist"
    else if error.isLike "HY000" 3130 "Command not supported by pluggable protocols" then
      some "dbms_admin procedures are not callable over this protocol"
    else none
  | .connectionLost _ => none

-- The node registers the native procedure for returning. Procedures cannot be called over the
-- extended protocol, so there the answer is no without a question.
def returning (extendedProtocol : Bool) : Probing Bool := do
  if extendedProtocol then
    Probing.log (.plain .debug logTarget "skipped over extended protocol"
      [("probe", .text Probe.returning.name)])
    return false
  else
    match ← Probing.ask .any Statement.nativeProcedures with
    | .ok rows => return rows.any listsReturning
    | .error cause =>
      match returningRefusal? cause with
      | some message =>
        Probing.log (negative .returning message [])
        return false
      | none => Probing.stop (.exec .returning cause)

end ClusterCaps.Check
