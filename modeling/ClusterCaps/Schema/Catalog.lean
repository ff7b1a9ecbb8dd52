import ClusterCaps.Config.Basic
import ClusterCaps.Node.Report
import ClusterCaps.Policy.Document
import ClusterCaps.Schema.Basic
import ClusterCaps.Topology.Profile

set_option autoImplicit false

namespace ClusterCaps.Schema

def must (name : String) (shape : Shape) : Field := { name, shape }

def mustNoted (name : String) (shape : Shape) (note : String) : Field :=
  { name, shape, note? := some note }

def may (name : String) (shape : Shape) : Field :=
  { name, shape := .optional shape, presence := .voluntary }

def standing (name : String) (shape : Shape) (default : Json) : Field :=
  { name, shape, presence := .standing default }

def standingNoted (name : String) (shape : Shape) (default : Json) (note : String) : Field :=
  { name, shape, presence := .standing default, note? := some note }

def named {α : Type} (names : List (String × α)) : List String := names.map (·.1)

def nodeName : Definition :=
  ⟨"NodeName", some "Name of a backend storage node, unique within a topology.", .text⟩

def passId : Definition :=
  ⟨"PassId", some "Aggregation pass ID.\n\nFormat: `sc-YYYYMMDD-HHMMSS-XXXX`\nExample: `sc-20260115-143022-a7xq`",
    .text⟩

def engineKind : Definition := ⟨"EngineKind", none, .choice (named Engine.named) []⟩

def udfDetails : Definition :=
  ⟨"UdfCapabilitySnapshot", some "What the extension reported about itself.",
    .record [must "major_version" .int32, must "minor_version" .int32, must "status" .text,
      must "registered_functions" (.set .text)]⟩

def udfExtension : Definition :=
  ⟨"UdfExtension", some "The UDF extension as seen on one node.",
    .tagged Udf.tagField
      [(Udf.absentTag, none), (Udf.presentTag, some "UdfCapabilitySnapshot")]⟩

def nodeFields : List Field :=
  [must "version" .text, must "engine_kind" (.named "EngineKind")] ++
    ["legacy_version", "supports_distributed_tx", "supports_global_timestamp",
      "supports_global_timestamp_heartbeat", "supports_commit_timestamp_tx",
      "supports_shared_read_view", "supports_open_ssl", "supports_performance_schema",
      "has_metadata_lock_select_privilege", "metadata_lock_instrumentation_enabled",
      "supports_deadlock_detection", "supports_mdl_deadlock_detection", "supports_returning",
      "supports_bloom_filter", "supports_hyper_log_log", "supports_fast_checksum"].map
      (must · .flag) ++
    [must "lower_case_table_name_mode" .int32, must "udf" (.named "UdfExtension")]

def nodeFacts : Definition :=
  ⟨"NodeCapabilityReport",
    some "Serializable view of a node snapshot, including derived predicates.",
    .record nodeFields⟩

def nodeReport : Definition :=
  ⟨"NodeReport", some "Capability report for one named node.",
    .record (must "name" (.named "NodeName") :: nodeFields)⟩

def cluster : Definition :=
  ⟨"ClusterCapabilities",
    some "Cluster-wide capability flags. All `false` until the first pass publishes.",
    .record (Cluster.fieldNames.map (must · .flag))⟩

def capability : Definition :=
  ⟨"Capability", none,
    .choice ((Capability.all.filter Capability.isPublic).map Capability.name)
      [(Capability.targetVersionLine.name,
        "Every node is on the timestamp version line. Feeds the global\ntimestamp override and is never published.")]⟩

def foldOp : Definition :=
  ⟨"FoldOp", none,
    .choice []
      [(FoldOp.all.name, "Logical AND, identity `true`."),
        (FoldOp.any.name, "Logical OR, identity `false`.")]⟩

def override : Definition :=
  ⟨"Override", none,
    .choice [Override.unchanged.name]
      [(Override.notReadOnly.name, "`∧ ¬read_only`"),
        (Override.extendedProtocol.name, "`∧ metadata_extended_protocol`"),
        (Override.extendedProtocolOrTargetLine.name,
          "`∧ (metadata_extended_protocol ∨ target_version_line)`")]⟩

def rule : Definition :=
  ⟨"RuleDescription", some "Printable form of a [`Rule`].",
    .record [must "capability" (.named "Capability"), must "node_condition" .text,
      must "fold" (.named "FoldOp"), must "overrides" (.named "Override"), must "published" .flag]⟩

def deploymentMode : Definition :=
  ⟨"DeploymentMode", some "Whether this instance serves writes.",
    .choice (ClusterCaps.Schema.named Config.Mode.named) []⟩

def deploymentPart : Definition :=
  ⟨"DeploymentConfig", none,
    .record [standing "mode" (.named "DeploymentMode") (.string Config.Mode.master.name),
      standingNoted "fast_mock" .flag (.bool false)
        "Skip all node queries and report a fixed synthetic snapshot per node."]⟩

def protocolPart : Definition :=
  ⟨"ProtocolConfig", some "Connection protocol flags.",
    .record [
      standingNoted "extended_protocol" .flag (.bool false)
        "Data nodes are reached over the extended (pluggable) protocol.\nNative procedure calls are unavailable there, so RETURNING is reported unsupported.",
      standingNoted "metadata_extended_protocol" .flag (.bool false)
        "The metadata service is reached over the extended protocol."]⟩

def udfPart : Definition :=
  ⟨"UdfConfig", some "Server-side UDF extension lookup.",
    .record [standing "plugin_name" .text (.string Config.defaultPlugin),
      standing "function_list_variable" .text (.string Config.defaultFunctionsVariable)]⟩

def probePart : Definition :=
  ⟨"ProbeConfig", none,
    .record [standingNoted "parallelism" .count (.nat 1)
      "Number of nodes probed concurrently. 1 probes sequentially."]⟩

def config : Definition :=
  ⟨"CapabilityConfig", some "Complete capability configuration.",
    .record [standing "schema_version" .text (.string Config.currentVersion),
      standing "deployment" (.named "DeploymentConfig") (Config.DeploymentPart.toJson {}),
      standing "protocol" (.named "ProtocolConfig") (Config.ProtocolPart.toJson {}),
      standing "udf" (.named "UdfConfig") (Config.UdfPart.toJson {}),
      standing "probe" (.named "ProbeConfig") (Config.ProbePart.toJson {})]⟩

def configSummary : Definition :=
  ⟨"ConfigSummary", some "Summary of key configuration values.",
    .record [must "deployment_mode" .text, must "fast_mock" .flag, must "extended_protocol" .flag,
      must "metadata_extended_protocol" .flag, must "udf_plugin" .text, must "parallelism" .count]⟩

def configSnapshot : Definition :=
  ⟨"ConfigSnapshot", some "A frozen snapshot of configuration state.",
    .record [mustNoted "timestamp" .time "When this snapshot was taken.",
      mustNoted "schema_version" .text "Schema version of the configuration.",
      standingNoted "config_hash" (.optional .text) .null "SHA-256 hash of the config file content.",
      standingNoted "config_path" (.optional .text) .null "Path the config was loaded from.",
      mustNoted "config_source" .text "Source of the configuration.",
      mustNoted "summary" (.named "ConfigSummary") "Key configuration values for quick reference."]⟩

def clusterReport : Definition :=
  ⟨"ProbeReport", some "Output of a full pass.",
    .record [must "schema_version" .text, may "pass_id" (.named "PassId"),
      must "generated_at" .time, must "capabilities" (.named "ClusterCapabilities"),
      must "nodes" (.list (.named "NodeReport")),
      mustNoted "skipped" (.list (.named "NodeName"))
        "Non-SQL nodes that did not take part in the fold.",
      may "config" (.named "ConfigSnapshot")]⟩

def nodeKind : Definition :=
  ⟨"EngineType", some "Storage engine family of a topology node. Only SQL nodes are probed.",
    .choice (ClusterCaps.Schema.named NodeKind.named) []⟩

def procedure : Definition :=
  ⟨"NativeProcedure", none, .record [must "schema" .text, must "name" .text]⟩

def udfProfile : Definition :=
  ⟨"UdfProfile", none,
    .record [standing "plugin_name" .text (.string UdfProfile.defaultPlugin), must "version" .text,
      must "status" .text,
      standing "function_list_variable" .text (.string UdfProfile.defaultFunctionsVariable),
      standingNoted "functions" .text (.string "") "Comma-separated, as the server reports it."]⟩

def fault : Definition :=
  ⟨"Fault",
    some "An injected failure for every statement containing `matches`.\n\nWith `sql_state` set the node raises a SQL error, otherwise the\nconnection drops.",
    .record [must "matches" .text, standing "sql_state" (.optional .text) .null,
      standing "code" .int32 (.nat 0), standing "message" .text (.string "")]⟩

def profile : Definition :=
  ⟨"NodeProfile", some "How one node answers the probe catalogue.",
    .record [must "name" (.named "NodeName"),
      standing "engine" (.named "EngineType") (.string NodeKind.sql.name),
      standingNoted "version" (.optional .text) .null
        "`None` answers `SELECT @@version` with NULL.",
      standing "variables" (.map .text) (.object []), standing "status" (.map .text) (.object []),
      standing "lower_case_table_names" .int32 (.nat 0),
      standing "udf" (.optional (.named "UdfProfile")) .null,
      standingNoted "native_procedures" (.optional (.list (.named "NativeProcedure"))) .null
        "`None` means `dbms_admin.show_native_procedure` does not exist.",
      standing "mdl_privilege" .flag (.bool false),
      standing "mdl_instrumentation" .flag (.bool false),
      standing "faults" (.list (.named "Fault")) (.array []),
      standing "unreachable" .flag (.bool false)]⟩

def transcript : Definition :=
  ⟨"TranscriptFile", none,
    .record [standing "nodes" (.list (.named "NodeProfile")) (.array [])]⟩

def catalog : Catalog :=
  [nodeName, passId, engineKind, udfDetails, udfExtension, nodeFacts, nodeReport, cluster,
    capability, foldOp, override, rule, deploymentMode, deploymentPart, protocolPart, udfPart,
    probePart, config, configSummary, configSnapshot, clusterReport, nodeKind, procedure,
    udfProfile, fault, profile, transcript]

def available : List (Definition × String) :=
  [(nodeName, "Backend storage node name"), (passId, "Aggregation pass identifier"),
    (cluster, "Cluster-wide capability flags"),
    (nodeFacts, "Raw and derived capability values for one node"),
    (udfExtension, "UDF extension state on one node"), (nodeReport, "Named node capability report"),
    (clusterReport, "Output of 'sc-core probe'"), (rule, "One row of the fold rule table"),
    (config, "Contents of capabilities.\x7btoml,json\x7d"),
    (configSnapshot, "Provenance of the loaded configuration"),
    (transcript, "Offline topology file")]

def ofName? (name : String) : Option Json :=
  (available.find? fun entry => entry.1.name == name).map fun entry => document catalog entry.1

def all : NameMap Json :=
  NameMap.ofList (available.map fun entry => (entry.1.name, document catalog entry.1))

end ClusterCaps.Schema
