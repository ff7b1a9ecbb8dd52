import ClusterCaps.Topology.Basic
import ClusterCaps.Probe.Statement
import ClusterCaps.Config.Basic

set_option autoImplicit false

namespace ClusterCaps

structure NativeProcedure where
  schema : String
  name : String
deriving DecidableEq, Repr

namespace UdfProfile

def defaultPlugin : String := "polarx_udf"
def defaultFunctionsVariable : String := "polarx_udf_function_list"

-- A described node that says nothing of its extension is asked for it by its name.
theorem defaults_agree :
    defaultPlugin = Config.defaultPlugin ∧ defaultFunctionsVariable = Config.defaultFunctionsVariable := ⟨rfl, rfl⟩

end UdfProfile

structure UdfProfile where
  pluginName : String := UdfProfile.defaultPlugin
  version : String
  status : String
  functionListVariable : String := UdfProfile.defaultFunctionsVariable
  functions : String := ""
deriving DecidableEq, Repr

-- A failure of every statement that holds a piece of text: an error of the server if there is a
-- state, and else a lost connection.
structure Fault where
  piece : String
  state? : Option String := none
  code : Int32 := 0
  message : String := ""
deriving DecidableEq, Repr

def Fault.error (fault : Fault) : ExecError :=
  match fault.state? with
  | some state => .sql ⟨state, fault.code, fault.message⟩
  | none => .connectionLost fault.message

structure Profile where
  name : String
  kind : NodeKind := .sql
  -- Without a version the node answers NULL.
  version? : Option String := none
  serverVariables : List (String × String) := []
  status : List (String × String) := []
  lowerCaseTableNames : Int32 := 0
  udf? : Option UdfProfile := none
  -- Without a list the node cannot be asked for its procedures.
  nativeProcedures? : Option (List NativeProcedure) := none
  mdlPrivilege : Bool := false
  mdlInstrumentation : Bool := false
  faults : List Fault := []
  unreachable : Bool := false
deriving DecidableEq, Repr

namespace Profile

def descriptor (profile : Profile) : Descriptor := ⟨profile.name, profile.kind⟩

def noProcedures : SqlError :=
  ⟨"42000", 1305, "PROCEDURE dbms_admin.show_native_procedure does not exist"⟩

def noPrivilege : SqlError :=
  ⟨"42000", 1142, "SELECT command denied to user for table 'metadata_locks'"⟩

def noStatement : SqlError := ⟨"42000", 1064, "You have an error in your SQL syntax"⟩

def settingValue? (profile : Profile) (name : String) : Option String :=
  match profile.serverVariables.lookup name with
  | some value => some value
  | none =>
    match profile.udf? with
    | some udf => if udf.functionListVariable = name then some udf.functions else none
    | none => none

def pluginRows (profile : Profile) (plugin : String) : List Row :=
  match profile.udf? with
  | some udf => if udf.pluginName = plugin then [Row.ofTexts [udf.version, udf.status]] else []
  | none => []

def lookUp (profile : Profile) (statement : String) : Except ExecError (List Row) :=
  match Statement.pluginTarget? statement with
  | some plugin => .ok (profile.pluginRows plugin)
  | none =>
    match Statement.likeTarget? statement with
    | none => .error (.sql noStatement)
    | some name =>
      let value :=
        if Text.startsWith "SHOW STATUS" statement then profile.status.lookup name
        else profile.settingValue? name
      .ok (value.toList.map fun text => Row.ofTexts [name, text])

def procedureRows (profile : Profile) : Except ExecError (List Row) :=
  match profile.nativeProcedures? with
  | some procedures => .ok (procedures.map fun procedure => Row.ofTexts [procedure.schema, procedure.name])
  | none => .error (.sql noProcedures)

def answerSoundly (profile : Profile) (statement : String) : Except ExecError (List Row) :=
  if statement = Statement.version then .ok [⟨[profile.version?]⟩]
  else if statement = Statement.lowerCaseTableNames then
    .ok [Row.ofTexts [Text.ofInt profile.lowerCaseTableNames.toInt]]
  else if statement = Statement.nativeProcedures then profile.procedureRows
  else if statement = Statement.mdlPrivilege then
    if profile.mdlPrivilege then .ok [] else .error (.sql noPrivilege)
  else if statement = Statement.mdlInstrument then
    let flag := if profile.mdlInstrumentation then "YES" else "NO"
    .ok [Row.ofTexts [flag, flag]]
  else profile.lookUp statement

-- What the described node answers to a statement; of several faults the first counts.
def answer (profile : Profile) (statement : String) : Except ExecError (List Row) :=
  match profile.faults.find? fun fault => Text.contains fault.piece statement with
  | some fault => .error fault.error
  | none => profile.answerSoundly statement

def connection (profile : Profile) : Connection := fun _ statement => profile.answer statement

def procedureJson (procedure : NativeProcedure) : Json :=
  .object [("schema", .string procedure.schema), ("name", .string procedure.name)]

def udfJson (udf : UdfProfile) : Json :=
  .object [("plugin_name", .string udf.pluginName), ("version", .string udf.version),
    ("status", .string udf.status), ("function_list_variable", .string udf.functionListVariable),
    ("functions", .string udf.functions)]

def faultJson (fault : Fault) : Json :=
  .object [("matches", .string fault.piece), ("sql_state", Json.optionalString fault.state?),
    ("code", .int fault.code.toInt), ("message", .string fault.message)]

def textsJson (texts : List (String × String)) : Json :=
  .object (texts.map fun (name, value) => (name, .string value))

def toJson (profile : Profile) : Json :=
  .object [("name", .string profile.name), ("engine", .string profile.kind.name),
    ("version", Json.optionalString profile.version?),
    ("variables", textsJson profile.serverVariables),
    ("status", textsJson profile.status),
    ("lower_case_table_names", .int profile.lowerCaseTableNames.toInt),
    ("udf", Json.optional udfJson profile.udf?),
    ("native_procedures",
      Json.optional (fun list => .array (list.map procedureJson)) profile.nativeProcedures?),
    ("mdl_privilege", .bool profile.mdlPrivilege),
    ("mdl_instrumentation", .bool profile.mdlInstrumentation),
    ("faults", .array (profile.faults.map faultJson)), ("unreachable", .bool profile.unreachable)]

open Decode

def decodeProcedure : Decoder NativeProcedure := fun dialect data => do
  let fields ← Fields.ofData? ["schema", "name"] dialect data
  let schema ← fields.required dialect "schema" text
  let name ← fields.required dialect "name" text
  return { schema, name }

def decodeUdf : Decoder UdfProfile := fun dialect data => do
  let fields ← Fields.ofData?
    ["plugin_name", "version", "status", "function_list_variable", "functions"] dialect data
  let pluginName ← fields.withDefault dialect "plugin_name" text UdfProfile.defaultPlugin
  let version ← fields.required dialect "version" text
  let status ← fields.required dialect "status" text
  let functionListVariable ←
    fields.withDefault dialect "function_list_variable" text UdfProfile.defaultFunctionsVariable
  let functions ← fields.withDefault dialect "functions" text ""
  return { pluginName, version, status, functionListVariable, functions }

def decodeFault : Decoder Fault := fun dialect data => do
  let fields ← Fields.ofData? ["matches", "sql_state", "code", "message"] dialect data
  let piece ← fields.required dialect "matches" text
  let state? ← fields.optionalWithDefault dialect "sql_state" text
  let code ← fields.withDefault dialect "code" int32 0
  let message ← fields.withDefault dialect "message" text ""
  return { piece, state?, code, message }

def fieldNames : List String :=
  ["name", "engine", "version", "variables", "status", "lower_case_table_names", "udf",
    "native_procedures", "mdl_privilege", "mdl_instrumentation", "faults", "unreachable"]

def decode : Decoder Profile := fun dialect data => do
  let fields ← Fields.ofData? fieldNames dialect data
  let name ← fields.required dialect "name" text
  let kind ← fields.withDefault dialect "engine" (choice NodeKind.named) .sql
  let version? ← fields.optionalWithDefault dialect "version" text
  let serverVariables ← fields.withDefault dialect "variables" (map text) []
  let status ← fields.withDefault dialect "status" (map text) []
  let lowerCaseTableNames ← fields.withDefault dialect "lower_case_table_names" int32 0
  let udf? ← fields.optionalWithDefault dialect "udf" decodeUdf
  let nativeProcedures? ←
    fields.optionalWithDefault dialect "native_procedures" (list decodeProcedure)
  let mdlPrivilege ← fields.withDefault dialect "mdl_privilege" bool false
  let mdlInstrumentation ← fields.withDefault dialect "mdl_instrumentation" bool false
  let faults ← fields.withDefault dialect "faults" (list decodeFault) []
  let unreachable ← fields.withDefault dialect "unreachable" bool false
  return { name, kind, version?, serverVariables, status, lowerCaseTableNames, udf?,
           nativeProcedures?, mdlPrivilege, mdlInstrumentation, faults, unreachable }

end Profile

end ClusterCaps
