import ClusterCaps.Config.Basic
import ClusterCaps.Proofs.Json.Edit

set_option autoImplicit false

namespace ClusterCaps.Config

open Edit Decode

def DeploymentPart.fieldNames : List String := ["mode", "fast_mock"]
def ProtocolPart.fieldNames : List String := ["extended_protocol", "metadata_extended_protocol"]
def UdfPart.fieldNames : List String := ["plugin_name", "function_list_variable"]
def ProbePart.fieldNames : List String := ["parallelism"]
def fieldNames : List String := ["schema_version", "deployment", "protocol", "udf", "probe"]

def DeploymentPart.reset (part : DeploymentPart) (edit : Edit) : DeploymentPart where
  mode := edit.pick "mode" (fun _ => part.mode) standard.deployment.mode
  fastMock := edit.pick "fast_mock" (fun _ => part.fastMock) standard.deployment.fastMock

def ProtocolPart.reset (part : ProtocolPart) (edit : Edit) : ProtocolPart where
  extendedProtocol :=
    edit.pick "extended_protocol" (fun _ => part.extendedProtocol) standard.protocol.extendedProtocol
  metadataExtendedProtocol :=
    edit.pick "metadata_extended_protocol" (fun _ => part.metadataExtendedProtocol)
      standard.protocol.metadataExtendedProtocol

def UdfPart.reset (part : UdfPart) (edit : Edit) : UdfPart where
  pluginName := edit.pick "plugin_name" (fun _ => part.pluginName) standard.udf.pluginName
  functionListVariable :=
    edit.pick "function_list_variable" (fun _ => part.functionListVariable) standard.udf.functionListVariable

def ProbePart.reset (part : ProbePart) (edit : Edit) : ProbePart where
  parallelism := edit.pick "parallelism" (fun _ => part.parallelism) standard.probe.parallelism

def reset (config : Config) (edit : Edit) : Config where
  schemaVersion := edit.pick "schema_version" (fun _ => config.schemaVersion) standard.schemaVersion
  deployment := edit.pick "deployment" config.deployment.reset standard.deployment
  protocol := edit.pick "protocol" config.protocol.reset standard.protocol
  udf := edit.pick "udf" config.udf.reset standard.udf
  probe := edit.pick "probe" config.probe.reset standard.probe

theorem reset_nothing (config : Config) : config.reset nothing = config := rfl

theorem reset_plain (config : Config) (edit : Edit) : config.reset edit.plain = config.reset edit := rfl

def sections : List String := ["deployment", "protocol", "udf", "probe"]

-- Whether a section is missing or empty makes no difference: its own default is that of its fields.
theorem reset_section (config : Config) (edit : Edit) (name : String) (listed : name ∈ sections) :
    config.reset (edit.without name) = config.reset (edit.emptied name) := by
  simp only [sections, List.mem_cons, List.not_mem_nil, or_false] at listed
  rcases listed with rfl | rfl | rfl | rfl
  all_goals
    simp [reset, DeploymentPart.reset, ProtocolPart.reset, UdfPart.reset, ProbePart.reset, pick, without, emptied,
      under]

structure Foreign (edit : Edit) : Prop where
  whole : edit.Foreign fieldNames
  deployment : (edit.under (.member "deployment")).Foreign DeploymentPart.fieldNames
  protocol : (edit.under (.member "protocol")).Foreign ProtocolPart.fieldNames
  udf : (edit.under (.member "udf")).Foreign UdfPart.fieldNames
  probe : (edit.under (.member "probe")).Foreign ProbePart.fieldNames

theorem Foreign.with_drops {edit : Edit} (foreign : Foreign edit) (drops : List Place → Bool) :
    Foreign { edit with drops } :=
  ⟨foreign.whole, foreign.deployment, foreign.protocol, foreign.udf, foreign.probe⟩

theorem plain_foreign (edit : Edit) : Foreign edit.plain where
  whole := ⟨nofun, nofun⟩
  deployment := ⟨nofun, nofun⟩
  protocol := ⟨nofun, nofun⟩
  udf := ⟨nofun, nofun⟩
  probe := ⟨nofun, nofun⟩

theorem mode_read (mode : Mode) : choice Mode.named .json (.text mode.name) = some mode := by
  cases mode <;> rfl

theorem deployment_edited (edit : Edit) (part : DeploymentPart) (foreign : edit.Foreign DeploymentPart.fieldNames) :
    DeploymentPart.decode .json (Data.ofJson (edit.apply part.toJson)) = some (part.reset edit) := by
  obtain ⟨fields, given, held⟩ := edit.fields_edited _ part.toJson _ foreign rfl rfl (by decide)
  simp only [List.forall_mem_cons] at held
  obtain ⟨modeHeld, fastMockHeld, -⟩ := held
  have mode : fields.withDefault .json "mode" (choice Mode.named) .master = _ :=
    with_default_edited modeHeld (fun _ => part.mode) _ fun _ => mode_read part.mode
  have fastMock : fields.withDefault .json "fast_mock" bool false = _ :=
    with_default_edited fastMockHeld (fun _ => part.fastMock) _ fun _ => rfl
  rw [DeploymentPart.fieldNames] at given
  rw [DeploymentPart.decode, bind_read given, bind_read mode, bind_read fastMock]
  rfl

theorem protocol_edited (edit : Edit) (part : ProtocolPart)
    (foreign : edit.Foreign ProtocolPart.fieldNames) :
    ProtocolPart.decode .json (Data.ofJson (edit.apply part.toJson)) = some (part.reset edit) := by
  obtain ⟨fields, given, held⟩ := edit.fields_edited _ part.toJson _ foreign rfl rfl (by decide)
  simp only [List.forall_mem_cons] at held
  obtain ⟨dataHeld, metadataHeld, -⟩ := held
  have data : fields.withDefault .json "extended_protocol" bool false = _ :=
    with_default_edited dataHeld (fun _ => part.extendedProtocol) _ fun _ => rfl
  have metadata : fields.withDefault .json "metadata_extended_protocol" bool false = _ :=
    with_default_edited metadataHeld (fun _ => part.metadataExtendedProtocol) _ fun _ => rfl
  rw [ProtocolPart.fieldNames] at given
  rw [ProtocolPart.decode, bind_read given, bind_read data, bind_read metadata]
  rfl

theorem udf_edited (edit : Edit) (part : UdfPart)
    (foreign : edit.Foreign UdfPart.fieldNames) :
    UdfPart.decode .json (Data.ofJson (edit.apply part.toJson)) = some (part.reset edit) := by
  obtain ⟨fields, given, held⟩ := edit.fields_edited _ part.toJson _ foreign rfl rfl (by decide)
  simp only [List.forall_mem_cons] at held
  obtain ⟨pluginHeld, functionsHeld, -⟩ := held
  have plugin : fields.withDefault .json "plugin_name" text defaultPlugin = _ :=
    with_default_edited pluginHeld (fun _ => part.pluginName) _ fun _ => rfl
  have functions : fields.withDefault .json "function_list_variable" text defaultFunctionsVariable = _ :=
    with_default_edited functionsHeld (fun _ => part.functionListVariable) _ fun _ => rfl
  rw [UdfPart.fieldNames] at given
  rw [UdfPart.decode, bind_read given, bind_read plugin, bind_read functions]
  rfl

theorem probe_edited (edit : Edit) (part : ProbePart) (small : part.parallelism < countLimit)
    (foreign : edit.Foreign ProbePart.fieldNames) :
    ProbePart.decode .json (Data.ofJson (edit.apply part.toJson)) = some (part.reset edit) := by
  obtain ⟨fields, given, held⟩ := edit.fields_edited _ part.toJson _ foreign rfl rfl (by decide)
  simp only [List.forall_mem_cons] at held
  obtain ⟨parallelismHeld, -⟩ := held
  have parallelism : fields.withDefault .json "parallelism" (natBelow countLimit) 1 = _ :=
    with_default_edited parallelismHeld (fun _ => part.parallelism) _ fun _ => nat_read _ _ small
  rw [ProbePart.fieldNames] at given
  rw [ProbePart.decode, bind_read given, bind_read parallelism]
  rfl

def reread (config : Config) (edit : Edit) : Option Config :=
  Config.decode .json (Data.ofJson (edit.apply config.toJson))

theorem reread_edited (edit : Edit) (config : Config) (small : config.probe.parallelism < countLimit)
    (foreign : Foreign edit) : config.reread edit = some (config.reset edit) := by
  obtain ⟨fields, given, held⟩ := edit.fields_edited _ config.toJson _ foreign.whole rfl rfl (by decide)
  simp only [List.forall_mem_cons] at held
  obtain ⟨versionHeld, deploymentHeld, protocolHeld, udfHeld, probeHeld, -⟩ := held
  have version : fields.withDefault .json "schema_version" text Config.currentVersion = _ :=
    with_default_edited versionHeld (fun _ => config.schemaVersion) _ fun _ => rfl
  have deployment : fields.withDefault .json "deployment" DeploymentPart.decode {} = _ :=
    with_default_edited deploymentHeld config.deployment.reset _ fun _ =>
      deployment_edited _ config.deployment foreign.deployment
  have protocol : fields.withDefault .json "protocol" ProtocolPart.decode {} = _ :=
    with_default_edited protocolHeld config.protocol.reset _ fun _ =>
      protocol_edited _ config.protocol foreign.protocol
  have udf : fields.withDefault .json "udf" UdfPart.decode {} = _ :=
    with_default_edited udfHeld config.udf.reset _ fun _ => udf_edited _ config.udf foreign.udf
  have probe : fields.withDefault .json "probe" ProbePart.decode {} = _ :=
    with_default_edited probeHeld config.probe.reset _ fun _ => probe_edited _ config.probe small foreign.probe
  rw [fieldNames] at given
  rw [reread, Config.decode, bind_read given, bind_read version, bind_read deployment, bind_read protocol,
    bind_read udf, bind_read probe]
  rfl

theorem read_written (config : Config) (small : config.probe.parallelism < countLimit) :
    Config.decode .json (Data.ofJson config.toJson) = some config := by
  have read := reread_edited nothing config small (plain_foreign nothing)
  rwa [reread, apply_nothing, reset_nothing] at read

theorem reread_plain (edit : Edit) (config : Config) (small : config.probe.parallelism < countLimit)
    (foreign : Foreign edit) : config.reread edit = config.reread edit.plain := by
  rw [reread_edited edit config small foreign, reread_edited edit.plain config small (plain_foreign edit),
    reset_plain]

theorem reread_section (edit : Edit) (config : Config) (small : config.probe.parallelism < countLimit)
    (foreign : Foreign edit) (name : String) (listed : name ∈ sections) :
    config.reread (edit.without name) = config.reread (edit.emptied name) := by
  rw [reread_edited (edit.without name) config small (foreign.with_drops _),
    reread_edited (edit.emptied name) config small (foreign.with_drops _), reset_section config edit name listed]

end ClusterCaps.Config
