import ClusterCaps.CommandLine.Guide
import ClusterCaps.Failure.Document
import ClusterCaps.Failure.ExitCode
import ClusterCaps.Log.Filter
import ClusterCaps.Report.Cluster
import ClusterCaps.Report.Config
import ClusterCaps.Report.Rules
import ClusterCaps.Schema.Catalog
import ClusterCaps.Topology.Transcript

set_option autoImplicit false

namespace ClusterCaps.CommandLine

structure Surroundings where
  environment : Environment
  files : Files
  time : Timestamp
  passId : PassId
  elapsed : Nat := 0
  onTerminal : Bool := false

structure Result where
  status : Nat
  output : String := ""
  complaint : String := ""
  log : List Log.Line := []

def mistakenStatus : Nat := 2
def abortedStatus : Nat := 101

-- A failure is told about. A crash that nothing contains aborts the program.
inductive Halt where
  | failed (failure : Failure)
  | aborted

structure Staged (α : Type) where
  result : Except Halt α
  emissions : List Emission := []

namespace Staged

def ofResult {α : Type} (result : Except Failure α) : Staged α := ⟨result.mapError .failed, []⟩

def andThen {α β : Type} (stage : Staged α) (next : α → Staged β) : Staged β :=
  match stage.result with
  | .error halt => ⟨.error halt, stage.emissions⟩
  | .ok value =>
    let later := next value
    ⟨later.result, stage.emissions ++ later.emissions⟩

def haltOfStop : Stop → Halt
  | .failed error => .failed (.ofPassError error)
  | .unwound => .aborted

def ofCall {α : Type} (call : Call α) : Staged α where
  emissions := call.effects.emissions
  result := call.result.mapError haltOfStop

end Staged

namespace Surroundings

def loadedEvent (snapshot : Config.Snapshot) : Log.Event :=
  .named .info "sc_core" "config.loaded" "configuration loaded"
    [("stage", .text Log.Stage.init.name), ("source", .text snapshot.source),
      ("path", .text (snapshot.path?.getD "-"))]

def loadConfig (around : Surroundings) (options : Options) : Staged Config.Loaded :=
  match Config.load around.files around.environment options.config? around.time with
  | .error error => ⟨.error (.failed (.ofConfigError error)), []⟩
  | .ok loaded => ⟨.ok loaded, [Emission.direct (loadedEvent loaded.snapshot)]⟩

def noTopology : Failure := .topology "no topology given; pass --topology or set SC_TOPOLOGY"

def loadTopology (around : Surroundings) (options : Options) : Except Failure Transcript :=
  match options.topology? with
  | none => .error noTopology
  | some path => (Transcript.ofFile around.files path).mapError Failure.ofTopologyError

def outside (around : Surroundings) (loaded : Config.Loaded) (transcript : Transcript) : Outside :=
  ⟨transcript.topology, loaded.config.facts, around.passId, around.elapsed⟩

def ask {α : Type} (around : Surroundings) (options : Options)
    (question : Config.Loaded → Manager → Outside → Call α) : Staged α :=
  (around.loadConfig options).andThen fun loaded =>
    (Staged.ofResult (around.loadTopology options)).andThen fun transcript =>
      Staged.ofCall <|
        question loaded (Manager.ofConfig loaded.config) (around.outside loaded transcript)

end Surroundings

def clusterReport (time : Timestamp) (loaded : Config.Loaded) (manager : Manager)
    (outside : Outside) : Call ClusterReport :=
  (ClusterReport.collect manager outside time).andThen fun after report =>
    Call.pure after (report.withConfig loaded.snapshot)

def recheckIf (recheck : Bool) (name : String) (manager : Manager) (outside : Outside) : Call Unit :=
  if recheck then
    (manager.recheckHeartbeat name outside).andThen fun after _ => Call.pure after ()
  else Call.pure manager ()

def nodeReport (name : String) (recheck : Bool) (manager : Manager) (outside : Outside) :
    Call NodeReport :=
  (recheckIf recheck name manager outside).andThen fun after _ =>
    (after.node name outside).andThen fun last snapshot => Call.pure last ⟨name, snapshot⟩

def Result.ofText (text : String) : Result where
  status := ExitCode.clean.number
  output := text ++ "\n"

def Result.ofFailure (around : Surroundings) (options : Options) (failure : Failure) : Result :=
  let status := (ExitCode.ofFailure failure).number
  if options.layout.isForPrograms then
    { status, output := failure.document.prettyText ++ "\n" }
  else
    { status
      complaint := failure.forPeople (around.onTerminal && !options.noColour) ++ "\n" }

def logLines (around : Surroundings) (options : Options) (emissions : List Emission) :
    List Log.Line :=
  let settings := Log.Settings.ofEnvironment around.environment options.threshold? options.logForm?
  match settings.form with
  | .human => []
  | .jsonLines =>
    emissions.filterMap (Log.Filter.ofSettings around.environment settings |>.line? around.time ·)

def Result.ofStaged {α : Type} (around : Surroundings) (options : Options) (staged : Staged α)
    (render : α → Layout → String) : Result :=
  let result := match staged.result with
    | .ok value => Result.ofText (render value options.layout)
    | .error (.failed failure) => Result.ofFailure around options failure
    | .error .aborted => { status := abortedStatus }
  { result with log := logLines around options staged.emissions }

def listedSchemas : List String :=
  Schema.available.map fun entry => padded 22 entry.1.name ++ " " ++ entry.2

def schemaResult : SchemaChoice → Result
  | .list => .ofText (Text.joined "\n" listedSchemas)
  | .all => .ofText (Json.pretty (.object Schema.all))
  | .named name =>
    match Schema.ofName? name with
    | some schema => .ofText (Json.pretty schema)
    | none =>
      { status := ExitCode.arguments.number
        complaint := "sc-core schema: unknown type '" ++ name ++ "'\n" }
  | .unstated =>
    { status := ExitCode.arguments.number
      complaint := "sc-core schema: give a type name, --list or --all\n" }

def versionJson : Json :=
  .object [("name", .string Command.program.word), ("version", .string programVersion),
    ("schema_version", .string ClusterReport.currentVersion)]

def renderVersion : Layout → String
  | .json => Json.pretty versionJson
  | _ => versionText [.program] ++ " (schema " ++ ClusterReport.currentVersion ++ ")"

namespace Invocation

def run (invocation : Invocation) (around : Surroundings) : Result :=
  let options := invocation.options
  match invocation.task with
  | .probe =>
    .ofStaged around options (around.ask options (clusterReport around.time)) ClusterReport.render
  | .node name recheck =>
    .ofStaged around options (around.ask options fun _ => nodeReport name recheck)
      NodeReport.render
  | .rules => .ofText (Report.renderRules Rule.descriptions options.layout)
  | .schema choice => schemaResult choice
  | .showConfig =>
    .ofStaged around options (around.loadConfig options) Config.Loaded.render
  | .validateConfig =>
    .ofStaged around options (around.loadConfig options) Config.Loaded.renderValid
  | .completions shell => .ofText shell.script
  | .version => .ofText (renderVersion options.layout)

end Invocation

def Interruption.result : Interruption → Result
  | mistake cause =>
    { status := mistakenStatus
      complaint := "error: " ++ cause.text ++ "\n\n" ++ Mistake.advice ++ "\n" }
  | help commands => { status := ExitCode.clean.number, output := helpText commands }
  | version commands => .ofText (versionText commands)

def run (words : List String) (around : Surroundings) : Result :=
  match Invocation.ofWords around.environment words with
  | .ok invocation => invocation.run around
  | .error interruption => interruption.result

end ClusterCaps.CommandLine
