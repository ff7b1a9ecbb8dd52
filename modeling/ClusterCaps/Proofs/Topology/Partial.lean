import ClusterCaps.Topology.Profile
import ClusterCaps.Proofs.Config.Partial
import ClusterCaps.Proofs.NameMap

set_option autoImplicit false

namespace ClusterCaps

open Edit Decode

namespace NativeProcedure

def fieldNames : List String := ["schema", "name"]

def Lacks (edit : Edit) : Prop := edit.drops [.member "schema"] = true ∨ edit.drops [.member "name"] = true

end NativeProcedure

namespace UdfProfile

def fieldNames : List String := ["plugin_name", "version", "status", "function_list_variable", "functions"]

def Lacks (edit : Edit) : Prop := edit.drops [.member "version"] = true ∨ edit.drops [.member "status"] = true

-- Where the extension is found by default is what the standard configuration says.
def reset (udf : UdfProfile) (edit : Edit) : UdfProfile where
  pluginName := edit.pick "plugin_name" (fun _ => udf.pluginName) Config.standard.udf.pluginName
  version := udf.version
  status := udf.status
  functionListVariable :=
    edit.pick "function_list_variable" (fun _ => udf.functionListVariable) Config.standard.udf.functionListVariable
  functions := edit.pick "functions" (fun _ => udf.functions) ""

end UdfProfile

namespace Fault

def fieldNames : List String := ["matches", "sql_state", "code", "message"]

def Lacks (edit : Edit) : Prop := edit.drops [.member "matches"] = true

def reset (fault : Fault) (edit : Edit) : Fault where
  piece := fault.piece
  state? := edit.pick "sql_state" (fun _ => fault.state?) none
  code := edit.pick "code" (fun _ => fault.code) 0
  message := edit.pick "message" (fun _ => fault.message) ""

end Fault

namespace Profile

def bare (name : String) : Profile := { name }

def leftTexts (edit : Edit) (texts : List (String × String)) : List (String × String) :=
  texts.filter fun text => !edit.drops [.member text.1]

def reset (profile : Profile) (edit : Edit) : Profile :=
  let default := bare profile.name
  { name := profile.name
    kind := edit.pick "engine" (fun _ => profile.kind) default.kind
    version? := edit.pick "version" (fun _ => profile.version?) default.version?
    serverVariables :=
      edit.pick "variables" (fun under => leftTexts under profile.serverVariables) default.serverVariables
    status := edit.pick "status" (fun under => leftTexts under profile.status) default.status
    lowerCaseTableNames :=
      edit.pick "lower_case_table_names" (fun _ => profile.lowerCaseTableNames) default.lowerCaseTableNames
    udf? := edit.pick "udf" (fun under => profile.udf?.map fun udf => udf.reset under) default.udf?
    nativeProcedures? :=
      edit.pick "native_procedures" (fun _ => profile.nativeProcedures?) default.nativeProcedures?
    mdlPrivilege := edit.pick "mdl_privilege" (fun _ => profile.mdlPrivilege) default.mdlPrivilege
    mdlInstrumentation :=
      edit.pick "mdl_instrumentation" (fun _ => profile.mdlInstrumentation) default.mdlInstrumentation
    faults :=
      edit.pick "faults"
        (fun under => profile.faults.mapIdx fun index fault => fault.reset (under.under (.item index)))
        default.faults
    unreachable := edit.pick "unreachable" (fun _ => profile.unreachable) default.unreachable }

-- What the node cannot be read without is dropped from a part that is itself still there.
inductive Lacks (edit : Edit) (profile : Profile) : Prop where
  | name (gone : edit.drops [.member "name"] = true)
  | udf (udf : UdfProfile) (held : profile.udf? = some udf) (kept : edit.drops [.member "udf"] = false)
      (lacks : UdfProfile.Lacks (edit.under (.member "udf")))
  | procedure (procedures : List NativeProcedure) (held : profile.nativeProcedures? = some procedures)
      (kept : edit.drops [.member "native_procedures"] = false) (index : Nat) (inside : index < procedures.length)
      (lacks : NativeProcedure.Lacks ((edit.under (.member "native_procedures")).under (.item index)))
  | fault (kept : edit.drops [.member "faults"] = false) (index : Nat) (inside : index < profile.faults.length)
      (lacks : Fault.Lacks ((edit.under (.member "faults")).under (.item index)))

-- The members that an edit puts into a node are none of its fields, and none at all come into its maps, where
-- every name counts.
structure Foreign (edit : Edit) : Prop where
  whole : edit.Foreign fieldNames
  settings : (edit.under (.member "variables")).Closed
  status : (edit.under (.member "status")).Closed
  udf : (edit.under (.member "udf")).Foreign UdfProfile.fieldNames
  procedures : ∀ index,
    ((edit.under (.member "native_procedures")).under (.item index)).Foreign NativeProcedure.fieldNames
  faults : ∀ index, ((edit.under (.member "faults")).under (.item index)).Foreign Fault.fieldNames

theorem Foreign.with_drops {edit : Edit} (foreign : Foreign edit) (drops : List Place → Bool) :
    Foreign { edit with drops } :=
  ⟨foreign.whole, foreign.settings, foreign.status, foreign.udf, foreign.procedures, foreign.faults⟩

theorem plain_foreign (edit : Edit) : Foreign edit.plain where
  whole := ⟨nofun, nofun⟩
  settings := ⟨fun _ => rfl, rfl⟩
  status := ⟨fun _ => rfl, rfl⟩
  udf := ⟨nofun, nofun⟩
  procedures _ := ⟨nofun, nofun⟩
  faults _ := ⟨nofun, nofun⟩

def InOrder (profile : Profile) : Prop :=
  NameMap.Ascending profile.serverVariables ∧ NameMap.Ascending profile.status

def reread (profile : Profile) (edit : Edit) : Option Profile :=
  Profile.decode .json (Data.ofJson (edit.apply profile.toJson))

theorem reset_nothing (profile : Profile) : profile.reset nothing = profile := by
  have texts (texts : List (String × String)) : leftTexts nothing texts = texts := by
    simp [leftTexts, nothing]
  have udf : (profile.udf?.map fun udf => udf.reset nothing) = profile.udf? := Option.map_id'
  have faults : (profile.faults.mapIdx fun _ fault => fault.reset nothing) = profile.faults :=
    List.mapIdx_eq_iff.mpr fun _ => Option.map_id'.symm
  change { profile with
    serverVariables := leftTexts nothing profile.serverVariables
    status := leftTexts nothing profile.status
    udf? := profile.udf?.map fun udf => udf.reset nothing
    faults := profile.faults.mapIdx fun _ fault => fault.reset nothing } = profile
  rw [texts, texts, udf, faults]

theorem nothing_lacks (profile : Profile) : ¬ Lacks nothing profile := by
  rintro (gone | ⟨udf, held, kept, gone | gone⟩ | ⟨procedures, held, kept, index, inside, gone | gone⟩ |
    ⟨kept, index, inside, gone⟩) <;> cases gone

theorem reset_plain (profile : Profile) (edit : Edit) : profile.reset edit.plain = profile.reset edit := rfl

-- The maps are the sections of a node of which nothing is required.
def maps : List String := ["variables", "status"]

theorem reset_map (profile : Profile) (edit : Edit) (map : String) (listed : map ∈ maps) :
    profile.reset (edit.without map) = profile.reset (edit.emptied map) := by
  simp only [maps, List.mem_cons, List.not_mem_nil, or_false] at listed
  rcases listed with rfl | rfl
  all_goals
    simp [reset, UdfProfile.reset, Fault.reset, leftTexts, bare, pick, without, emptied, under]

def needed : List String := ["name", "udf", "native_procedures", "faults"]

theorem Lacks.carried (left right : Edit) (profile : Profile)
    (same : ∀ name ∈ needed, ∀ path, left.drops (.member name :: path) = right.drops (.member name :: path))
    (lacks : Lacks left profile) : Lacks right profile := by
  simp only [needed, List.forall_mem_cons] at same
  obtain ⟨nameSame, udfSame, proceduresSame, faultsSame, -⟩ := same
  cases lacks with
  | name gone => exact .name ((nameSame []).symm.trans gone)
  | udf udf held kept lacks =>
      refine .udf udf held ((udfSame []).symm.trans kept) ?_
      rwa [UdfProfile.Lacks, under, ← udfSame, ← udfSame]
  | procedure procedures held kept index inside lacks =>
      refine .procedure procedures held ((proceduresSame []).symm.trans kept) index inside ?_
      rwa [NativeProcedure.Lacks, under, under, ← proceduresSame, ← proceduresSame]
  | fault kept index inside lacks =>
      refine .fault ((faultsSame []).symm.trans kept) index inside ?_
      rwa [Fault.Lacks, under, under, ← faultsSame]

theorem lacks_plain (profile : Profile) (edit : Edit) : Lacks edit profile ↔ Lacks edit.plain profile :=
  ⟨.carried _ _ profile fun _ _ _ => rfl, .carried _ _ profile fun _ _ _ => rfl⟩

theorem lacks_map (profile : Profile) (edit : Edit) (map : String) (listed : map ∈ maps) :
    Lacks (edit.without map) profile ↔ Lacks (edit.emptied map) profile := by
  have apart : ∀ map ∈ maps, ∀ name ∈ needed, name ≠ map := by decide
  have same (name : String) (required : name ∈ needed) :=
    edit.without_emptied map name (apart map listed name required)
  exact ⟨.carried _ _ profile same, .carried _ _ profile fun name required path => (same name required path).symm⟩

theorem kind_read (kind : NodeKind) : choice NodeKind.named .json (.text kind.name) = some kind := by
  cases kind <;> rfl

theorem optional_text_read (edit : Edit) (text? : Option String) :
    Decode.optional text .json (Data.ofJson (edit.apply (Json.optionalString text?))) = some text? := by
  cases text? <;> rfl

theorem procedure_edited (edit : Edit) (procedure : NativeProcedure)
    (foreign : edit.Foreign NativeProcedure.fieldNames) (whole : ¬ NativeProcedure.Lacks edit) :
    decodeProcedure .json (Data.ofJson (edit.apply (procedureJson procedure))) = some procedure := by
  obtain ⟨fields, given, held⟩ := edit.fields_edited _ (procedureJson procedure) _ foreign rfl rfl (by decide)
  simp only [List.forall_mem_cons] at held
  obtain ⟨schemaHeld, nameHeld, -⟩ := held
  simp only [NativeProcedure.Lacks, not_or, Bool.not_eq_true] at whole
  have schema : fields.required .json "schema" text = some procedure.schema :=
    required_kept schemaHeld whole.1 _ rfl
  have name : fields.required .json "name" text = some procedure.name := required_kept nameHeld whole.2 _ rfl
  rw [NativeProcedure.fieldNames] at given
  rw [decodeProcedure, bind_read given, bind_read schema, bind_read name]
  rfl

theorem procedure_lacking (edit : Edit) (procedure : NativeProcedure)
    (foreign : edit.Foreign NativeProcedure.fieldNames) (lacks : NativeProcedure.Lacks edit) :
    decodeProcedure .json (Data.ofJson (edit.apply (procedureJson procedure))) = none := by
  obtain ⟨fields, given, held⟩ := edit.fields_edited _ (procedureJson procedure) _ foreign rfl rfl (by decide)
  simp only [List.forall_mem_cons] at held
  obtain ⟨schemaHeld, nameHeld, -⟩ := held
  rw [NativeProcedure.fieldNames] at given
  rw [decodeProcedure, bind_read given]
  rcases lacks with gone | gone
  · exact bind_missing (required_dropped schemaHeld gone)
  · exact bind_unread fun _ => bind_missing (required_dropped nameHeld gone)

theorem udf_edited (edit : Edit) (udf : UdfProfile) (foreign : edit.Foreign UdfProfile.fieldNames)
    (whole : ¬ UdfProfile.Lacks edit) :
    decodeUdf .json (Data.ofJson (edit.apply (udfJson udf))) = some (udf.reset edit) := by
  obtain ⟨fields, given, held⟩ := edit.fields_edited _ (udfJson udf) _ foreign rfl rfl (by decide)
  simp only [List.forall_mem_cons] at held
  obtain ⟨pluginHeld, versionHeld, statusHeld, functionListHeld, functionsHeld, -⟩ := held
  simp only [UdfProfile.Lacks, not_or, Bool.not_eq_true] at whole
  have plugin : fields.withDefault .json "plugin_name" text UdfProfile.defaultPlugin = _ :=
    with_default_edited pluginHeld (fun _ => udf.pluginName) _ fun _ => rfl
  have version : fields.required .json "version" text = some udf.version := required_kept versionHeld whole.1 _ rfl
  have status : fields.required .json "status" text = some udf.status := required_kept statusHeld whole.2 _ rfl
  have functionList : fields.withDefault .json "function_list_variable" text UdfProfile.defaultFunctionsVariable = _ :=
    with_default_edited functionListHeld (fun _ => udf.functionListVariable) _ fun _ => rfl
  have functions : fields.withDefault .json "functions" text "" = _ :=
    with_default_edited functionsHeld (fun _ => udf.functions) _ fun _ => rfl
  rw [UdfProfile.fieldNames] at given
  rw [decodeUdf, bind_read given, bind_read plugin, bind_read version, bind_read status, bind_read functionList,
    bind_read functions]
  rfl

theorem udf_lacking (edit : Edit) (udf : UdfProfile) (foreign : edit.Foreign UdfProfile.fieldNames)
    (lacks : UdfProfile.Lacks edit) : decodeUdf .json (Data.ofJson (edit.apply (udfJson udf))) = none := by
  obtain ⟨fields, given, held⟩ := edit.fields_edited _ (udfJson udf) _ foreign rfl rfl (by decide)
  simp only [List.forall_mem_cons] at held
  obtain ⟨-, versionHeld, statusHeld, -⟩ := held
  rw [UdfProfile.fieldNames] at given
  rw [decodeUdf, bind_read given]
  rcases lacks with gone | gone
  · exact bind_unread fun _ => bind_missing (required_dropped versionHeld gone)
  · exact bind_unread fun _ => bind_unread fun _ => bind_missing (required_dropped statusHeld gone)

theorem fault_edited (edit : Edit) (fault : Fault) (foreign : edit.Foreign Fault.fieldNames)
    (whole : ¬ Fault.Lacks edit) :
    decodeFault .json (Data.ofJson (edit.apply (faultJson fault))) = some (fault.reset edit) := by
  obtain ⟨fields, given, held⟩ := edit.fields_edited _ (faultJson fault) _ foreign rfl rfl (by decide)
  simp only [List.forall_mem_cons] at held
  obtain ⟨pieceHeld, stateHeld, codeHeld, messageHeld, -⟩ := held
  rw [Fault.Lacks, Bool.not_eq_true] at whole
  have piece : fields.required .json "matches" text = some fault.piece := required_kept pieceHeld whole _ rfl
  have state : fields.optionalWithDefault .json "sql_state" text = _ :=
    with_default_edited stateHeld (fun _ => fault.state?) _ fun _ => optional_text_read _ _
  have code : fields.withDefault .json "code" int32 0 = _ :=
    with_default_edited codeHeld (fun _ => fault.code) _ fun _ => int32_read _
  have message : fields.withDefault .json "message" text "" = _ :=
    with_default_edited messageHeld (fun _ => fault.message) _ fun _ => rfl
  rw [Fault.fieldNames] at given
  rw [decodeFault, bind_read given, bind_read piece, bind_read state, bind_read code, bind_read message]
  rfl

theorem fault_lacking (edit : Edit) (fault : Fault) (foreign : edit.Foreign Fault.fieldNames)
    (lacks : Fault.Lacks edit) : decodeFault .json (Data.ofJson (edit.apply (faultJson fault))) = none := by
  obtain ⟨fields, given, held⟩ := edit.fields_edited _ (faultJson fault) _ foreign rfl rfl (by decide)
  simp only [List.forall_mem_cons] at held
  obtain ⟨pieceHeld, -⟩ := held
  rw [Fault.fieldNames] at given
  rw [decodeFault, bind_read given]
  exact bind_missing (required_dropped pieceHeld lacks)

theorem texts_members (edit : Edit) (texts : List (String × String)) (closed : edit.Closed) :
    members .json (text .json)
        (Data.ofMembers (edit.applyMembers (texts.map fun (name, value) => (name, .string value)))) =
      some (leftTexts edit texts) := by
  induction texts with
  | nil => rfl
  | cons entry rest ih =>
      obtain ⟨name, value⟩ := entry
      rw [List.map_cons, applyMembers, closed.1 name, List.nil_append]
      cases gone : edit.drops [.member name] with
      | true =>
          rw [leftTexts, List.filter_cons_of_neg (by simp [gone])]
          exact ih
      | false =>
          rw [leftTexts, List.filter_cons_of_pos (by simp [gone])]
          simp only [Bool.false_eq_true, if_false, List.cons_append, List.nil_append, Data.ofMembers, members, ih]
          rfl

theorem texts_edited (edit : Edit) (texts : List (String × String)) (closed : edit.Closed)
    (ascending : NameMap.Ascending texts) :
    map text .json (Data.ofJson (edit.apply (textsJson texts))) = some (leftTexts edit texts) := by
  have left : NameMap.Ascending (leftTexts edit texts) := ascending.sublist List.filter_sublist
  rw [textsJson, apply, closed.2, List.append_nil, Data.ofJson, map, texts_members edit texts closed,
    Option.map_some, NameMap.of_list_ascending _ left]

theorem extension_edited (edit : Edit) (udf? : Option UdfProfile) (foreign : edit.Foreign UdfProfile.fieldNames)
    (whole : ∀ udf, udf? = some udf → ¬ UdfProfile.Lacks edit) :
    Decode.optional decodeUdf .json (Data.ofJson (edit.apply (Json.optional udfJson udf?))) =
      some (udf?.map fun udf => udf.reset edit) := by
  cases udf? with
  | none => rfl
  | some udf => exact congrArg (Option.map some) (udf_edited edit udf foreign (whole udf rfl))

theorem extension_lacking (edit : Edit) (udf : UdfProfile) (foreign : edit.Foreign UdfProfile.fieldNames)
    (lacks : UdfProfile.Lacks edit) :
    Decode.optional decodeUdf .json (Data.ofJson (edit.apply (Json.optional udfJson (some udf)))) = none :=
  congrArg (Option.map some) (udf_lacking edit udf foreign lacks)

def proceduresJson (procedures : List NativeProcedure) : Json := .array (procedures.map procedureJson)

theorem procedures_edited (edit : Edit) (procedures? : Option (List NativeProcedure))
    (foreign : ∀ index, (edit.under (.item index)).Foreign NativeProcedure.fieldNames)
    (whole : ∀ procedures, procedures? = some procedures → ∀ index < procedures.length,
      ¬ NativeProcedure.Lacks (edit.under (.item index))) :
    Decode.optional (list decodeProcedure) .json
      (Data.ofJson (edit.apply (Json.optional proceduresJson procedures?))) = some procedures? := by
  cases procedures? with
  | none => rfl
  | some procedures =>
      have read := edit.list_edited procedures (fun procedure _ => procedure) fun index inside procedure =>
        procedure_edited _ procedure (foreign index) (whole procedures rfl index inside)
      have same : (procedures.mapIdx fun _ procedure => procedure) = procedures := by
        simp [List.mapIdx_eq_iff]
      rw [same] at read
      exact congrArg (Option.map some) read

theorem procedures_lacking (edit : Edit) (procedures : List NativeProcedure) (index : Nat)
    (inside : index < procedures.length)
    (foreign : ∀ index, (edit.under (.item index)).Foreign NativeProcedure.fieldNames)
    (lacks : NativeProcedure.Lacks (edit.under (.item index))) :
    Decode.optional (list decodeProcedure) .json
      (Data.ofJson (edit.apply (Json.optional proceduresJson (some procedures)))) = none := by
  have unread := edit.list_unread procedures index inside fun procedure =>
    procedure_lacking _ procedure (foreign index) lacks
  exact congrArg (Option.map some) unread

theorem reread_edited (edit : Edit) (profile : Profile) (inOrder : profile.InOrder) (foreign : Foreign edit)
    (whole : ¬ Lacks edit profile) : profile.reread edit = some (profile.reset edit) := by
  obtain ⟨fields, given, held⟩ := edit.fields_edited _ profile.toJson _ foreign.whole rfl rfl (by decide)
  simp only [List.forall_mem_cons] at held
  obtain ⟨nameHeld, kindHeld, versionHeld, variablesHeld, statusHeld, caseHeld, udfHeld, proceduresHeld,
    privilegeHeld, instrumentHeld, faultsHeld, unreachableHeld, -⟩ := held
  have named : edit.drops [.member "name"] = false := by
    cases gone : edit.drops [.member "name"] with
    | true => exact absurd (.name gone) whole
    | false => rfl
  have name : fields.required .json "name" text = some profile.name := required_kept nameHeld named _ rfl
  have kind : fields.withDefault .json "engine" (choice NodeKind.named) .sql = _ :=
    with_default_edited kindHeld (fun _ => profile.kind) _ fun _ => kind_read profile.kind
  have version : fields.optionalWithDefault .json "version" text = _ :=
    with_default_edited versionHeld (fun _ => profile.version?) _ fun _ => optional_text_read _ _
  have settings : fields.withDefault .json "variables" (map text) [] = _ :=
    with_default_edited variablesHeld (fun under => leftTexts under profile.serverVariables) _ fun _ =>
      texts_edited _ _ foreign.settings inOrder.1
  have status : fields.withDefault .json "status" (map text) [] = _ :=
    with_default_edited statusHeld (fun under => leftTexts under profile.status) _ fun _ =>
      texts_edited _ _ foreign.status inOrder.2
  have lowerCase : fields.withDefault .json "lower_case_table_names" int32 0 = _ :=
    with_default_edited caseHeld (fun _ => profile.lowerCaseTableNames) _ fun _ => int32_read _
  have udf : fields.optionalWithDefault .json "udf" decodeUdf = _ :=
    with_default_edited udfHeld (fun under => profile.udf?.map fun udf => udf.reset under) _ fun kept =>
      extension_edited _ _ foreign.udf fun udf present lacks => whole (.udf udf present kept lacks)
  have procedures : fields.optionalWithDefault .json "native_procedures" (list decodeProcedure) = _ :=
    with_default_edited proceduresHeld (fun _ => profile.nativeProcedures?) _ fun kept =>
      procedures_edited _ _ foreign.procedures fun procedures present index inside lacks =>
        whole (.procedure procedures present kept index inside lacks)
  have privilege : fields.withDefault .json "mdl_privilege" bool false = _ :=
    with_default_edited privilegeHeld (fun _ => profile.mdlPrivilege) _ fun _ => rfl
  have instrument : fields.withDefault .json "mdl_instrumentation" bool false = _ :=
    with_default_edited instrumentHeld (fun _ => profile.mdlInstrumentation) _ fun _ => rfl
  have faults : fields.withDefault .json "faults" (list decodeFault) [] = _ :=
    with_default_edited faultsHeld
      (fun under => profile.faults.mapIdx fun index fault => fault.reset (under.under (.item index))) _ fun kept =>
      list_edited _ profile.faults Fault.reset fun index inside fault =>
        fault_edited _ fault (foreign.faults index) fun lacks => whole (.fault kept index inside lacks)
  have unreachable : fields.withDefault .json "unreachable" bool false = _ :=
    with_default_edited unreachableHeld (fun _ => profile.unreachable) _ fun _ => rfl
  rw [reread, Profile.decode, bind_read given, bind_read name, bind_read kind, bind_read version,
    bind_read settings, bind_read status, bind_read lowerCase, bind_read udf, bind_read procedures,
    bind_read privilege, bind_read instrument, bind_read faults, bind_read unreachable]
  rfl

theorem reread_lacking (edit : Edit) (profile : Profile) (foreign : Foreign edit) (lacks : Lacks edit profile) :
    profile.reread edit = none := by
  obtain ⟨fields, given, held⟩ := edit.fields_edited _ profile.toJson _ foreign.whole rfl rfl (by decide)
  simp only [List.forall_mem_cons] at held
  obtain ⟨nameHeld, -, -, -, -, -, udfHeld, proceduresHeld, -, -, faultsHeld, -⟩ := held
  rw [reread, Profile.decode, bind_read given]
  -- Whatever the fields before it hold, the one that cannot be read ends the reading.
  cases lacks with
  | name gone => exact bind_missing (required_dropped nameHeld gone)
  | udf udf present kept lacks =>
      rw [present] at udfHeld
      iterate 6 refine bind_unread fun _ => ?_
      exact bind_missing (with_default_unread udfHeld kept _ (extension_lacking _ udf foreign.udf lacks))
  | procedure procedures present kept index inside lacks =>
      rw [present] at proceduresHeld
      iterate 7 refine bind_unread fun _ => ?_
      exact bind_missing (with_default_unread proceduresHeld kept _
        (procedures_lacking _ procedures index inside foreign.procedures lacks))
  | fault kept index inside lacks =>
      iterate 10 refine bind_unread fun _ => ?_
      exact bind_missing (with_default_unread faultsHeld kept _
        (list_unread _ profile.faults index inside fun fault => fault_lacking _ fault (foreign.faults index) lacks))

theorem read_written (profile : Profile) (inOrder : profile.InOrder) :
    Profile.decode .json (Data.ofJson profile.toJson) = some profile := by
  have read := reread_edited nothing profile inOrder (plain_foreign nothing) (nothing_lacks profile)
  rwa [reread, apply_nothing, reset_nothing] at read

theorem reread_congr (left right : Edit) (profile : Profile) (inOrder : profile.InOrder)
    (leftForeign : Foreign left) (rightForeign : Foreign right) (lacks : Lacks left profile ↔ Lacks right profile)
    (same : profile.reset left = profile.reset right) : profile.reread left = profile.reread right := by
  by_cases lacking : Lacks left profile
  · rw [reread_lacking left profile leftForeign lacking, reread_lacking right profile rightForeign (lacks.mp lacking)]
  · rw [reread_edited left profile inOrder leftForeign lacking, same,
      reread_edited right profile inOrder rightForeign (mt lacks.mpr lacking)]

end Profile

theorem partial_documents_completed (config : Config) (profile : Profile)
    (small : config.probe.parallelism < Config.countLimit) (inOrder : profile.InOrder) :
    (Config.decode .json (Data.ofJson config.toJson) = some config ∧
      ∀ edit, Config.Foreign edit →
        config.reread edit = some (config.reset edit) ∧
        config.reread edit = config.reread edit.plain ∧
        ∀ name ∈ Config.sections, config.reread (edit.without name) = config.reread (edit.emptied name)) ∧
    (Profile.decode .json (Data.ofJson profile.toJson) = some profile ∧
      ∀ edit, Profile.Foreign edit →
        (¬ Profile.Lacks edit profile → profile.reread edit = some (profile.reset edit)) ∧
        (Profile.Lacks edit profile → profile.reread edit = none) ∧
        profile.reread edit = profile.reread edit.plain ∧
        ∀ map ∈ Profile.maps, profile.reread (edit.without map) = profile.reread (edit.emptied map)) := by
  refine ⟨⟨Config.read_written config small, ?_⟩, Profile.read_written profile inOrder, ?_⟩
  · intro edit foreign
    exact ⟨Config.reread_edited edit config small foreign, Config.reread_plain edit config small foreign,
      Config.reread_section edit config small foreign⟩
  · intro edit foreign
    refine ⟨Profile.reread_edited edit profile inOrder foreign, Profile.reread_lacking edit profile foreign, ?_, ?_⟩
    · exact Profile.reread_congr edit edit.plain profile inOrder foreign (Profile.plain_foreign edit)
        (profile.lacks_plain edit) (profile.reset_plain edit).symm
    · intro map listed
      exact Profile.reread_congr _ _ profile inOrder (foreign.with_drops _) (foreign.with_drops _)
        (profile.lacks_map edit map listed) (profile.reset_map edit map listed)

def sparse : Edit where
  drops path := path == [.member "udf"] || path == [.member "deployment", .member "fast_mock"]
  ahead _ := []
  behind path := if path = [] then [("comment", .null)] else []

def versionless : Edit where
  drops path := path == [.member "udf", .member "version"]
  ahead _ := []
  behind _ := []

def readOnlyConfig : Config where
  deployment := ⟨.readOnly, true⟩
  udf := ⟨"other_udf", "functions"⟩
  probe := ⟨4⟩

def extendedNode : Profile where
  name := "dn-0"
  serverVariables := [("performance_schema", "ON"), ("version_comment", "")]
  udf? := some { pluginName := "other_udf", version := "1.2", status := "ACTIVE" }
  faults := [{ piece := "SHOW", code := 1064 }]

theorem partial_documents_completed_sparse :
    readOnlyConfig.reread sparse = some { deployment := ⟨.readOnly, false⟩, probe := ⟨4⟩ } ∧
      extendedNode.reread sparse = some { extendedNode with udf? := none } ∧
      extendedNode.reread versionless = none := by
  have ⟨⟨_, config⟩, _, node⟩ :=
    partial_documents_completed readOnlyConfig extendedNode (by decide) ⟨by decide, by decide⟩
  have foreignConfig : Config.Foreign sparse := by
    constructor <;> exact ⟨nofun, by decide⟩
  have foreignNode : Profile.Foreign sparse :=
    ⟨⟨nofun, by decide⟩, ⟨fun _ => rfl, rfl⟩, ⟨fun _ => rfl, rfl⟩, ⟨nofun, by decide⟩, fun _ => ⟨nofun, nofun⟩,
      fun _ => ⟨nofun, nofun⟩⟩
  refine ⟨?_, ?_, ?_⟩
  · rw [(config sparse foreignConfig).1]
    decide
  · have whole : ¬ Profile.Lacks sparse extendedNode := by
      rintro (gone | ⟨_, _, kept, _⟩ | ⟨_, held, _⟩ | ⟨_, index, inside, lacks⟩)
      · exact absurd gone (by decide)
      · exact absurd kept (by decide)
      · cases held
      · cases lacks
    rw [(node sparse foreignNode).1 whole]
    decide
  · exact (node versionless (Profile.plain_foreign versionless)).2.1 (.udf _ rfl (by decide) (.inl (by decide)))

end ClusterCaps
