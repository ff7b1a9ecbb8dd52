import ClusterCaps.Config.Snapshot
import ClusterCaps.Failure.Document
import ClusterCaps.Log.Line
import ClusterCaps.Node.Report
import ClusterCaps.Policy.Document
import ClusterCaps.Proofs.Json.Reading
import ClusterCaps.Proofs.Text.SortedSet

set_option autoImplicit false

namespace ClusterCaps

open Decode Edit

-- A time that is read as it is written. How times are written and read is left open here.
def Timestamp.Legible (time : Timestamp) : Prop := Timestamp.ofText? time.text = some time

theorem Timestamp.time_read (time : Timestamp) (legible : time.Legible) :
    (Decode.text .json (Data.ofJson (.string time.text))).bind Timestamp.ofText? = some time := by
  rw [Data.ofJson, Decode.text, Option.bind_some, legible]

namespace Log.Line

def fieldNames : List String := ["ts", "level", "event", "pass_id", "stage", "node", "message", "fields"]

def members (line : Line) : List (String × Json) :=
  [("ts", .string line.time.text), ("level", .string line.level.name), ("event", .string line.name)] ++
    textMember "pass_id" line.pass? ++ textMember "stage" line.stage? ++ textMember "node" line.node? ++
    messageMember line.message ++ fieldsMember line.fields

theorem text_member_names (key : String) (text? : Option String) :
    ((textMember key text?).map Prod.fst).Sublist [key] := by
  cases text? <;> simp [textMember]

theorem members_names (line : Line) : (line.members.map Prod.fst).Sublist fieldNames := by
  simp only [members, List.map_append]
  exact ((((List.Sublist.refl _).append (text_member_names _ _)).append (text_member_names _ _)).append
    (text_member_names _ _)).append (names_unless _ _ _) |>.append (names_unless _ _ _)

@[simp] theorem member_text (name key : String) (text? : Option String) :
    Json.member? name (textMember key text?) = if key = name then text?.map Json.string else none := by
  cases text? <;> simp [textMember, Json.member?]

theorem members_listed (line : Line) :
    Json.member? "pass_id" line.members = line.pass?.map Json.string ∧
      Json.member? "stage" line.members = line.stage?.map Json.string ∧
      Json.member? "node" line.members = line.node?.map Json.string ∧
      Json.member? "message" line.members = (if line.message.isEmpty then none else some (.string line.message)) ∧
      Json.member? "fields" line.members = if line.fields.isEmpty then none else some (.object line.fields) := by
  simp [members, messageMember, fieldsMember, Json.member?]

theorem level_read (level : Level) : choice Level.named .json (.text level.name) = some level := by
  cases level <;> rfl

def Sound (line : Line) : Prop := (Json.object line.fields).Ordered

theorem read_written (line : Line) (legible : line.time.Legible) (sound : line.Sound) :
    decode .json (Data.ofJson line.toJson) = some line := by
  obtain ⟨fields, given, written⟩ := fields_written fieldNames line.members line.members_names (by decide)
  obtain ⟨passListed, stageListed, nodeListed, messageListed, othersListed⟩ := line.members_listed
  have time : fields.required .json "ts" (fun dialect data => (Decode.text dialect data).bind Timestamp.ofText?) = _ :=
    required_written written (.string line.time.text) line.time rfl (line.time.time_read legible)
  have level : fields.required .json "level" (choice Level.named) = _ :=
    required_written written (.string line.level.name) line.level rfl (level_read line.level)
  have name : fields.required .json "event" Decode.text = _ :=
    required_written written (.string line.name) line.name rfl rfl
  have pass? : fields.optionalWithDefault .json "pass_id" Decode.text = _ :=
    optional_text_written written line.pass? passListed
  have stage? : fields.optionalWithDefault .json "stage" Decode.text = _ :=
    optional_text_written written line.stage? stageListed
  have node? : fields.optionalWithDefault .json "node" Decode.text = _ :=
    optional_text_written written line.node? nodeListed
  have message : fields.withDefault .json "message" Decode.text "" = _ :=
    with_default_written written (.string line.message) "" line.message line.message.isEmpty messageListed
      (by simp) rfl
  have others : fields.withDefault .json "fields" jsonMap [] = _ :=
    with_default_written written (.object line.fields) [] line.fields line.fields.isEmpty othersListed
      (by simp) (json_map_written line.fields sound)
  rw [fieldNames] at given
  change decode .json (Data.ofJson (.object line.members)) = _
  rw [decode, bind_read given, bind_read time, bind_read level, bind_read name, bind_read pass?, bind_read stage?,
    bind_read node?, bind_read message]
  change (fields.withDefault .json "fields" jsonMap [] >>= _) = _
  rw [bind_read others]
  rfl

theorem read_sound (dialect : Dialect) (data : Data) (line : Line) (read : decode dialect data = some line) :
    line.Sound := by
  simp only [decode, Option.bind_eq_bind, Option.bind_eq_some_iff] at read
  obtain ⟨fields, -, time, -, level, -, name, -, pass?, -, stage?, -, node?, -, message, -, others, othersRead, made⟩ :=
    read
  cases made
  exact json_map_field_ordered othersRead

end Log.Line

namespace Failure.Document

def fieldNames : List String := ["code", "category", "message", "recoverable", "suggested_action", "context"]

def members (document : Document) : List (String × Json) :=
  [("code", .nat document.code), ("category", .string document.category.name),
    ("message", .string document.message), ("recoverable", .bool document.recoverable),
    ("suggested_action", .string document.action.name)] ++ contextMember document.context

theorem members_names (document : Document) : (document.members.map Prod.fst).Sublist fieldNames := by
  rw [members, List.map_append]
  exact (List.Sublist.refl _).append (names_unless _ _ _)

theorem category_read (category : Category) :
    choice Category.named .json (.text category.name) = some category := by
  cases category <;> rfl

theorem action_read (action : Action) : choice Action.named .json (.text action.name) = some action := by
  cases action <;> rfl

structure Sound (document : Document) : Prop where
  code : document.code < codeLimit
  context : (Json.object document.context).Ordered

theorem read_written (document : Document) (sound : document.Sound) :
    decode .json (Data.ofJson document.toJson) = some document := by
  obtain ⟨fields, given, written⟩ := fields_written fieldNames document.members document.members_names (by decide)
  have code : fields.required .json "code" (natBelow codeLimit) = _ :=
    required_written written (.nat document.code) document.code rfl (nat_read _ _ sound.code)
  have category : fields.required .json "category" (choice Category.named) = _ :=
    required_written written (.string document.category.name) document.category rfl (category_read document.category)
  have message : fields.required .json "message" Decode.text = _ :=
    required_written written (.string document.message) document.message rfl rfl
  have recoverable : fields.required .json "recoverable" bool = _ :=
    required_written written (.bool document.recoverable) document.recoverable rfl rfl
  have action : fields.required .json "suggested_action" (choice Action.named) = _ :=
    required_written written (.string document.action.name) document.action rfl (action_read document.action)
  have context : fields.withDefault .json "context" jsonMap [] = _ :=
    with_default_written written (.object document.context) [] document.context document.context.isEmpty
      (by simp [members, contextMember, Json.member?]) (by simp) (json_map_written document.context sound.context)
  rw [fieldNames] at given
  change decode .json (Data.ofJson (.object document.members)) = _
  rw [decode, bind_read given, bind_read code, bind_read category, bind_read message, bind_read recoverable,
    bind_read action]
  change (fields.withDefault .json "context" jsonMap [] >>= _) = _
  rw [bind_read context]
  rfl

theorem read_sound (dialect : Dialect) (data : Data) (document : Document)
    (read : decode dialect data = some document) : document.Sound := by
  simp only [decode, Option.bind_eq_bind, Option.bind_eq_some_iff] at read
  obtain ⟨fields, -, code, codeRead, category, -, message, -, recoverable, -, action, -, context, contextRead, made⟩ :=
    read
  cases made
  exact ⟨required_nat_below codeRead, json_map_field_ordered contextRead⟩

end Failure.Document

namespace Config

theorem Summary.read_written (summary : Summary) (small : summary.parallelism < countLimit) :
    Summary.decode .json (Data.ofJson summary.toJson) = some summary := by
  obtain ⟨fields, given, written⟩ := fields_in_full
    ["deployment_mode", "fast_mock", "extended_protocol", "metadata_extended_protocol", "udf_plugin", "parallelism"]
    summary.toJson _ rfl rfl (by decide)
  have mode : fields.required .json "deployment_mode" text = _ :=
    required_written written (.string summary.mode) summary.mode rfl rfl
  have fastMock : fields.required .json "fast_mock" bool = _ :=
    required_written written (.bool summary.fastMock) summary.fastMock rfl rfl
  have extended : fields.required .json "extended_protocol" bool = _ :=
    required_written written (.bool summary.extendedProtocol) summary.extendedProtocol rfl rfl
  have metadata : fields.required .json "metadata_extended_protocol" bool = _ :=
    required_written written (.bool summary.metadataExtendedProtocol) summary.metadataExtendedProtocol rfl rfl
  have plugin : fields.required .json "udf_plugin" text = _ :=
    required_written written (.string summary.udfPlugin) summary.udfPlugin rfl rfl
  have parallelism : fields.required .json "parallelism" (natBelow countLimit) = _ :=
    required_written written (.nat summary.parallelism) summary.parallelism rfl (nat_read _ _ small)
  rw [Summary.decode, bind_read given, bind_read mode, bind_read fastMock, bind_read extended, bind_read metadata,
    bind_read plugin, bind_read parallelism]
  rfl

theorem Summary.read_small (dialect : Dialect) (data : Data) (summary : Summary)
    (read : Summary.decode dialect data = some summary) : summary.parallelism < countLimit := by
  simp only [Summary.decode, Option.bind_eq_bind, Option.bind_eq_some_iff] at read
  obtain ⟨fields, -, mode, -, fastMock, -, extended, -, metadata, -, plugin, -, parallelism, countRead, made⟩ := read
  cases made
  exact required_nat_below countRead

def Snapshot.Sound (snapshot : Snapshot) : Prop := snapshot.summary.parallelism < countLimit

theorem Snapshot.read_written (snapshot : Snapshot) (legible : snapshot.time.Legible) (sound : snapshot.Sound) :
    Snapshot.decode .json (Data.ofJson snapshot.toJson) = some snapshot := by
  obtain ⟨fields, given, written⟩ := fields_in_full
    ["timestamp", "schema_version", "config_hash", "config_path", "config_source", "summary"]
    snapshot.toJson _ rfl rfl (by decide)
  have time : fields.required .json "timestamp" decodeTime = _ :=
    required_written written (.string snapshot.time.text) snapshot.time rfl (snapshot.time.time_read legible)
  have version : fields.required .json "schema_version" text = _ :=
    required_written written (.string snapshot.schemaVersion) snapshot.schemaVersion rfl rfl
  have digest? : fields.optionalWithDefault .json "config_hash" text = _ :=
    with_default_written written (Json.optionalString snapshot.digest?) none snapshot.digest? false rfl nofun
      (optional_string_read _)
  have path? : fields.optionalWithDefault .json "config_path" text = _ :=
    with_default_written written (Json.optionalString snapshot.path?) none snapshot.path? false rfl nofun
      (optional_string_read _)
  have source : fields.required .json "config_source" text = _ :=
    required_written written (.string snapshot.source) snapshot.source rfl rfl
  have summary : fields.required .json "summary" Summary.decode = _ :=
    required_written written snapshot.summary.toJson snapshot.summary rfl (snapshot.summary.read_written sound)
  rw [Snapshot.decode, bind_read given, bind_read time, bind_read version, bind_read digest?, bind_read path?,
    bind_read source, bind_read summary]
  rfl

theorem Snapshot.read_sound (dialect : Dialect) (data : Data) (snapshot : Snapshot)
    (read : Snapshot.decode dialect data = some snapshot) : snapshot.Sound := by
  simp only [Snapshot.decode, Option.bind_eq_bind, Option.bind_eq_some_iff] at read
  obtain ⟨fields, -, time, -, version, -, digest?, -, path?, -, source, -, summary, summaryRead, made⟩ := read
  cases made
  obtain ⟨value, read⟩ := required_read summaryRead
  exact summary.read_small dialect value read

end Config

namespace Udf

theorem texts_written (texts : List String) :
    Decode.items (text .json) (Data.ofItems (texts.map Json.string)) = some texts := by
  induction texts with
  | nil => rfl
  | cons first rest ih => rw [List.map_cons, Data.ofItems, Decode.items, ih]; rfl

theorem text_set_written (texts : List String) (ascending : Text.Ascending texts) :
    textSet .json (Data.ofJson (Json.strings texts)) = some texts := by
  rw [textSet, Json.strings, Data.ofJson, list, texts_written, Option.map_some,
    Text.sorted_set_of_ascending texts ascending]

theorem text_set_ascending (dialect : Dialect) (data : Data) (texts : List String)
    (read : textSet dialect data = some texts) : Text.Ascending texts := by
  obtain ⟨listed, -, rfl⟩ := Option.map_eq_some_iff.mp read
  exact Text.sorted_set_ascending listed

theorem Details.read_written (details : Details) (ascending : Text.Ascending details.functions) :
    Details.decode .json (Data.ofJson (.object (detailMembers details))) = some details := by
  obtain ⟨fields, given, written⟩ := fields_in_full
    ["major_version", "minor_version", "status", "registered_functions"] (.object (detailMembers details)) _ rfl rfl
    (by decide)
  have major : fields.required .json "major_version" int32 = _ :=
    required_written written (.int details.major.toInt) details.major rfl (int32_read details.major)
  have minor : fields.required .json "minor_version" int32 = _ :=
    required_written written (.int details.minor.toInt) details.minor rfl (int32_read details.minor)
  have status : fields.required .json "status" text = _ :=
    required_written written (.string details.status) details.status rfl rfl
  have functions : fields.required .json "registered_functions" textSet = _ :=
    required_written written (Json.strings details.functions) details.functions rfl
      (text_set_written details.functions ascending)
  rw [Details.decode, bind_read given, bind_read major, bind_read minor, bind_read status, bind_read functions]
  rfl

theorem Details.read_ascending (dialect : Dialect) (data : Data) (details : Details)
    (read : Details.decode dialect data = some details) : Text.Ascending details.functions := by
  simp only [Details.decode, Option.bind_eq_bind, Option.bind_eq_some_iff] at read
  obtain ⟨fields, -, major, -, minor, -, status, -, functions, functionsRead, made⟩ := read
  cases made
  obtain ⟨value, read⟩ := required_read functionsRead
  exact text_set_ascending dialect value functions read

def Extension.Sound (extension : Extension) : Prop :=
  ∀ details, extension.details? = some details → Text.Ascending details.functions

theorem Extension.read_written (extension : Extension) (sound : extension.Sound) :
    Extension.decode .json (Data.ofJson extension.toJson) = some extension := by
  cases extension with
  | absent => rfl
  | present details =>
      have read := Details.read_written details (sound details rfl)
      change (Details.decode .json (Data.ofJson (.object (detailMembers details)))).map Extension.present = _
      rw [read, Option.map_some]

theorem Extension.tagged_sound (dialect : Dialect) (tag : String) (rest : Data) (extension : Extension)
    (read : Extension.decodeTagged dialect tag rest = some extension) : extension.Sound := by
  rw [Extension.decodeTagged] at read
  by_cases absent : tag = absentTag
  · rw [if_pos absent] at read
    cases empty : isEmptyRest rest with
    | true =>
        rw [empty, if_pos rfl] at read
        cases read
        nofun
    | false => simp [empty] at read
  · by_cases present : tag = presentTag
    · rw [if_neg absent, if_pos present] at read
      obtain ⟨details, detailsRead, rfl⟩ := Option.map_eq_some_iff.mp read
      rintro _ ⟨⟩
      exact details.read_ascending dialect rest detailsRead
    · simp [absent, present] at read

theorem Extension.read_sound (dialect : Dialect) (data : Data) (extension : Extension)
    (read : Extension.decode dialect data = some extension) : extension.Sound := by
  cases data with
  | table entries =>
      obtain ⟨⟨tag, rest⟩, -, tagged⟩ := Option.bind_eq_some_iff.mp read
      exact tagged_sound dialect tag _ extension tagged
  | list items =>
      cases items with
      | nil => cases read
      | cons head rest =>
          obtain ⟨tag, -, tagged⟩ := Option.bind_eq_some_iff.mp read
          exact tagged_sound dialect tag _ extension tagged
  | _ => cases read

end Udf

theorem Cluster.read_written (cluster : Cluster) :
    Cluster.decode .json (Data.ofJson cluster.toJson) = some cluster := by
  obtain ⟨fields, given, written⟩ := fields_in_full Cluster.fieldNames cluster.toJson _ rfl rfl (by decide)
  have flag (name : String) {value : Bool} (listed : Json.member? name _ = some (.bool value)) :
      fields.required .json name bool = some value :=
    required_written written (.bool value) value listed rfl
  rw [Cluster.decode, bind_read given, bind_read (flag "supports_distributed_tx" rfl),
    bind_read (flag "supports_global_timestamp" rfl), bind_read (flag "supports_global_timestamp_heartbeat" rfl),
    bind_read (flag "supports_commit_timestamp_tx" rfl), bind_read (flag "supports_deadlock_detection" rfl),
    bind_read (flag "supports_mdl_deadlock_detection" rfl), bind_read (flag "supports_bloom_filter" rfl),
    bind_read (flag "supports_hyper_log_log" rfl), bind_read (flag "supports_fast_checksum" rfl),
    bind_read (flag "supports_open_ssl" rfl), bind_read (flag "supports_shared_read_view" rfl),
    bind_read (flag "supports_returning" rfl), bind_read (flag "legacy_version" rfl),
    bind_read (flag "read_only" rfl), bind_read (flag "lower_case_table_names" rfl)]
  rfl

theorem Capability.read_named (capability : Capability) :
    Capability.decode .json (.text capability.name) = some capability := by
  cases capability <;> rfl

theorem FoldOp.read_named (fold : FoldOp) : FoldOp.decode .json (.text fold.name) = some fold := by
  cases fold <;> rfl

theorem Override.read_named (override : Override) : Override.decode .json (.text override.name) = some override := by
  cases override <;> rfl

theorem Rule.Description.read_written (rule : Rule.Description) :
    Rule.Description.decode .json (Data.ofJson rule.toJson) = some rule := by
  obtain ⟨fields, given, written⟩ := fields_in_full
    ["capability", "node_condition", "fold", "overrides", "published"] rule.toJson _ rfl rfl (by decide)
  have capability : fields.required .json "capability" Capability.decode = _ :=
    required_written written (.string rule.capability.name) rule.capability rfl rule.capability.read_named
  have condition : fields.required .json "node_condition" Decode.text = _ :=
    required_written written (.string rule.condition) rule.condition rfl rfl
  have fold : fields.required .json "fold" FoldOp.decode = _ :=
    required_written written (.string rule.fold.name) rule.fold rfl rule.fold.read_named
  have override : fields.required .json "overrides" Override.decode = _ :=
    required_written written (.string rule.override.name) rule.override rfl rule.override.read_named
  have published : fields.required .json "published" bool = _ :=
    required_written written (.bool rule.published) rule.published rfl rfl
  rw [Rule.Description.decode, bind_read given, bind_read capability, bind_read condition, bind_read fold,
    bind_read override, bind_read published]
  rfl

-- Documents keep the records of a kind: what is written is read back, and what was accepted in any
-- document at all is not changed by writing and reading it once more. A record is legible if its times
-- are, and sound if its fields are of their types.
structure Keeps {α : Type} (encode : α → Json) (decode : Decoder α) (legible sound : α → Prop) : Prop where
  written : ∀ record, legible record → sound record → decode .json (Data.ofJson (encode record)) = some record
  accepted : ∀ document record, decode .json (Data.ofJson document) = some record → sound record ∧
    (legible record → decode .json (Data.ofJson (encode record)) = some record)

theorem Keeps.of_sound {α : Type} {encode : α → Json} {decode : Decoder α} {legible sound : α → Prop}
    (written : ∀ record, legible record → sound record → decode .json (Data.ofJson (encode record)) = some record)
    (read_sound : ∀ dialect data record, decode dialect data = some record → sound record) :
    Keeps encode decode legible sound where
  written := written
  accepted document record read :=
    have sound := read_sound .json (Data.ofJson document) record read
    ⟨sound, fun legible => written record legible sound⟩

theorem records_survive_documents :
    Keeps Log.Line.toJson Log.Line.decode (·.time.Legible) Log.Line.Sound ∧
      Keeps Failure.Document.toJson Failure.Document.decode (fun _ => True) Failure.Document.Sound ∧
      Keeps Config.Snapshot.toJson Config.Snapshot.decode (·.time.Legible) Config.Snapshot.Sound ∧
      Keeps Udf.Extension.toJson Udf.Extension.decode (fun _ => True) Udf.Extension.Sound ∧
      Keeps Cluster.toJson Cluster.decode (fun _ => True) (fun _ => True) ∧
      Keeps Rule.Description.toJson Rule.Description.decode (fun _ => True) (fun _ => True) :=
  ⟨.of_sound Log.Line.read_written Log.Line.read_sound,
    .of_sound (fun document _ => document.read_written) Failure.Document.read_sound,
    .of_sound Config.Snapshot.read_written Config.Snapshot.read_sound,
    .of_sound (fun extension _ => extension.read_written) Udf.Extension.read_sound,
    .of_sound (fun cluster _ _ => cluster.read_written) (fun _ _ _ _ => trivial),
    .of_sound (fun rule _ _ => rule.read_written) (fun _ _ _ _ => trivial)⟩

def sparseLine : Log.Line where
  time := ⟨1700000000, 0⟩
  level := .warn
  name := "sc_core"
  node? := some "dn-1"
  fields := [("given", .array [.null, .object []]), ("nodes", .nat 2)]

def twoFunctions : Udf.Extension := .present ⟨1, -2, "ACTIVE", ["bloomfilter", "hashcheck"]⟩

theorem sparse_records_survive :
    sparseLine.time.Legible ∧ sparseLine.Sound ∧ twoFunctions.Sound ∧
      Log.Line.decode .json (Data.ofJson sparseLine.toJson) = some sparseLine ∧
      Udf.Extension.decode .json (Data.ofJson twoFunctions.toJson) = some twoFunctions := by
  obtain ⟨lines, -, -, extensions, -⟩ := records_survive_documents
  have legible : sparseLine.time.Legible := by
    rw [Timestamp.Legible]
    decide +kernel
  have sound : sparseLine.Sound :=
    ⟨by decide, ⟨trivial, ⟨List.Pairwise.nil, trivial⟩, trivial⟩, trivial, trivial⟩
  have functions : twoFunctions.Sound := by
    rintro _ ⟨⟩
    decide
  exact ⟨legible, sound, functions, lines.written _ legible sound, extensions.written _ trivial functions⟩

end ClusterCaps
