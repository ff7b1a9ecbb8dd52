import ClusterCaps.Probe.Probing
import ClusterCaps.Probe.Statement
import ClusterCaps.Text.Blank
import ClusterCaps.Text.Quoted

set_option autoImplicit false

namespace ClusterCaps

namespace Udf

structure Details where
  major : Int32
  minor : Int32
  status : String
  functions : List String
deriving DecidableEq, Repr

inductive Extension where
  | absent
  | present (details : Details)
deriving DecidableEq, Repr

def Extension.details? : Extension → Option Details
  | absent => none
  | present details => some details

def bloomFilter : String := "bloomfilter"
def hyperLogLog : String := "hyperloglog"
def fastChecksum : String := "hashcheck"

def activeStatus : String := "ACTIVE"

-- An active extension from version 1.1 on, major and minor each at least one, that registers the
-- function.
def Details.offers (details : Details) (function : String) : Bool :=
  decide (1 ≤ details.major) && decide (1 ≤ details.minor) && details.status == activeStatus &&
    details.functions.contains function

namespace Extension

def offers (extension : Extension) (function : String) : Bool :=
  match extension with
  | absent => false
  | present details => details.offers function

def offersBloomFilter (extension : Extension) : Bool := extension.offers bloomFilter
def offersHyperLogLog (extension : Extension) : Bool := extension.offers hyperLogLog
def offersFastChecksum (extension : Extension) : Bool := extension.offers fastChecksum

end Extension

def versionPart? (part : List Char) : Option Int32 := Text.int32? (Text.trim part)

def version? (text : String) : Option (Int32 × Int32) :=
  match Text.splitOn '.' (Text.trim text.toList) with
  | major :: minor :: _ =>
    match versionPart? major, versionPart? minor with
    | some major, some minor => some (major, minor)
    | _, _ => none
  | _ => none

def functionItems (text : List Char) : List (List Char) :=
  ((Text.splitOn ',' text).map Text.trim).filter fun item => !item.isEmpty

def functionList (text : String) : List String :=
  Text.sortedSet ((functionItems text.toList).map String.ofList)

def logTarget : String := "sc_core::probe::udf"

def negative (message : String) (fields : Log.Fields) : Log.Event :=
  .named .warn logTarget "probe.negative" message fields

def pluginFailed (plugin : String) (cause : ExecError) : Log.Event :=
  negative "UDF plugin lookup failed"
    [("probe", .text Probe.udfPlugin.name), ("plugin", .text plugin), ("error", .text cause.text)]

def shownCell : Option String → String
  | none => "None"
  | some text => "Some(" ++ Text.quoted text ++ ")"

def unreadableVersion (plugin : String) (cell : Option String) : Log.Event :=
  negative "unreadable UDF plugin version"
    [("probe", .text Probe.udfPlugin.name), ("plugin", .text plugin),
      ("version", .text (shownCell cell))]

def functionsFailed (setting : String) (cause : ExecError) : Log.Event :=
  negative "UDF function list lookup failed"
    [("probe", .text Probe.udfFunctions.name), ("variable", .text setting),
      ("error", .text cause.text)]

def withFunctions (setting : String) (major minor : Int32) (status : String) :
    Probing Extension := do
  match ← Probing.ask .any (Statement.showVariable setting) with
  | .error cause =>
    Probing.log (functionsFailed setting cause)
    return .absent
  | .ok [] => return .absent
  | .ok (row :: _) =>
    return .present ⟨major, minor, status, functionList ((row.cell? 1).getD "")⟩

-- The extension on the connected node. This never stops the work.
def resolve (plugin setting : String) : Probing Extension := do
  match ← Probing.ask .any (Statement.selectPlugin plugin) with
  | .error cause =>
    Probing.log (pluginFailed plugin cause)
    return .absent
  | .ok [] => return .absent
  | .ok (row :: _) =>
    match (row.cell? 0).bind version? with
    | none =>
      Probing.log (unreadableVersion plugin (row.cell? 0))
      return .absent
    | some (major, minor) => withFunctions setting major minor ((row.cell? 1).getD "")

end Udf

end ClusterCaps
