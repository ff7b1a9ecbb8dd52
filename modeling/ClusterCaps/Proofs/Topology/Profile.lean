import ClusterCaps.Proofs.Config.Check
import ClusterCaps.Proofs.Node.Probing
import ClusterCaps.Proofs.Text.Integer
import ClusterCaps.Topology.Profile

set_option autoImplicit false

namespace ClusterCaps.Profile

-- What a profile says about a server variable: a value of its own, or else the functions of the
-- extension, where they are listed under that name.
inductive Sets (profile : Profile) (name : String) : String → Prop where
  | own (value : String) (listed : profile.serverVariables.lookup name = some value) :
      Sets profile name value
  | functions (udf : UdfProfile) (unlisted : profile.serverVariables.lookup name = none)
      (has : profile.udf? = some udf) (named : udf.functionListVariable = name) :
      Sets profile name udf.functions

def ListsReturning (profile : Profile) : Prop :=
  ∃ procedures, profile.nativeProcedures? = some procedures ∧ ∃ procedure ∈ procedures,
    Text.sameIgnoringAsciiCase procedure.schema "dbms_trans" = true ∧
      Text.sameIgnoringAsciiCase procedure.name "returning" = true

def Offers (profile : Profile) (part : Config.UdfPart) (details : Udf.Details) : Prop :=
  ∃ udf, profile.udf? = some udf ∧ udf.pluginName = part.pluginName ∧
    Udf.version? udf.version = some (details.major, details.minor) ∧ details.status = udf.status ∧
      ∃ text, profile.Sets part.functionListVariable text ∧ details.functions = Udf.functionList text

structure Agrees (profile : Profile) (config : Config) (node : Node.Snapshot) : Prop where
  version : profile.version? = some node.version
  engine : node.engine = .xengine ↔ ∃ value, profile.Sets "xengine_datadir" value
  globalTimestamp : node.globalTimestamp = true ↔ ∃ value, profile.Sets "innodb_commit_seq" value
  heartbeat : node.heartbeat = true ↔ ∃ value, profile.Sets "innodb_heartbeat_seq" value
  commitTimestampTx : node.commitTimestampTx = true ↔ ∃ value, profile.Sets "innodb_cts_transaction" value
  sharedReadView : node.sharedReadView = true ↔ ∃ value, profile.Sets "innodb_transaction_group" value
  performanceSchema : node.performanceSchema = true ↔
    ∃ value, profile.Sets "performance_schema" value ∧ Text.sameIgnoringAsciiCase value "ON" = true
  openSsl : node.openSsl = true ↔ ∃ value, profile.status.lookup "Rsa_public_key" = some value
  lowerCaseMode : node.lowerCaseMode = profile.lowerCaseTableNames
  mdlPrivilege : node.mdlPrivilege = profile.mdlPrivilege
  mdlInstrumentation : node.mdlInstrumentation = profile.mdlInstrumentation
  returning : node.returning = true ↔ config.protocol.extendedProtocol = false ∧ profile.ListsReturning
  udf : ∀ details, node.udf = .present details ↔ profile.Offers config.udf details

variable (profile : Profile)

theorem setting_iff (name value : String) : profile.settingValue? name = some value ↔ profile.Sets name value := by
  unfold settingValue?
  constructor
  · intro found
    split at found
    · next text listed =>
        cases found
        exact .own _ listed
    · next unlisted =>
        split at found
        · next udf has =>
            split at found
            · next named =>
                cases found
                exact .functions udf unlisted has named
            · cases found
        · cases found
  · intro sets
    cases sets with
    | own value listed => rw [listed]
    | functions udf unlisted has named => simp only [unlisted, has, if_pos named]

theorem answers_lookup (statement : String) (free : statement ∉ Statement.fixedTexts) :
    profile.answerSoundly statement = profile.lookUp statement := by
  simp only [Statement.fixedTexts, List.mem_cons, not_or] at free
  obtain ⟨version, mode, procedures, privilege, instrument, -⟩ := free
  rw [answerSoundly, if_neg version, if_neg mode, if_neg procedures, if_neg privilege, if_neg instrument]

theorem answers_fixed :
    profile.answerSoundly Statement.version = .ok [⟨[profile.version?]⟩] ∧
      profile.answerSoundly Statement.lowerCaseTableNames =
        .ok [Row.ofTexts [Text.ofInt profile.lowerCaseTableNames.toInt]] ∧
      profile.answerSoundly Statement.nativeProcedures = profile.procedureRows ∧
      profile.answerSoundly Statement.mdlPrivilege =
        (if profile.mdlPrivilege then .ok [] else .error (.sql noPrivilege)) ∧
      profile.answerSoundly Statement.mdlInstrument =
        .ok [let flag := if profile.mdlInstrumentation then "YES" else "NO"
          Row.ofTexts [flag, flag]] := by
  have distinct := Statement.fixed_distinct
  simp only [Statement.fixedTexts, List.nodup_cons, List.mem_cons, not_or] at distinct
  obtain ⟨⟨modeVersion, proceduresVersion, privilegeVersion, instrumentVersion, -⟩,
    ⟨proceduresMode, privilegeMode, instrumentMode, -⟩, ⟨privilegeProcedures, instrumentProcedures, -⟩,
    ⟨instrumentPrivilege, -⟩, -⟩ := distinct
  unfold answerSoundly
  simp only [Ne.symm modeVersion, Ne.symm proceduresVersion, Ne.symm privilegeVersion,
    Ne.symm instrumentVersion, Ne.symm proceduresMode, Ne.symm privilegeMode, Ne.symm instrumentMode,
    Ne.symm privilegeProcedures, Ne.symm instrumentProcedures, Ne.symm instrumentPrivilege, if_false, if_true,
    and_self]

theorem answers_variable (name : String) (plain : Statement.Plain name) :
    profile.answerSoundly (Statement.showVariable name) =
      .ok ((profile.settingValue? name).toList.map fun text => Row.ofTexts [name, text]) := by
  rw [answers_lookup profile _ (Statement.show_variable_not_fixed name), lookUp,
    Statement.plugin_target_show_variable name plain, Statement.like_target_show_variable name plain]
  simp only [Statement.show_variable_not_status name]
  rfl

theorem answers_plugin (plugin : String) (plain : Statement.Plain plugin) :
    profile.answerSoundly (Statement.selectPlugin plugin) = .ok (profile.pluginRows plugin) := by
  rw [answers_lookup profile _ (Statement.select_plugin_not_fixed plugin), lookUp,
    Statement.plugin_target_select_plugin plugin plain]

section Sound

variable (sound : profile.faults = []) (route : Route)
include sound

theorem connection_sound (statement : String) :
    profile.connection route statement = profile.answerSoundly statement := by
  rw [connection, answer, sound]
  rfl

theorem shows_variable (name : String) (plain : Statement.Plain name) :
    profile.connection route (Statement.showVariable name) =
      .ok ((profile.settingValue? name).toList.map fun text => Row.ofTexts [name, text]) := by
  rw [connection_sound profile sound, profile.answers_variable name plain]

theorem shows_public_key :
    profile.connection route Statement.rsaPublicKey =
      .ok ((profile.status.lookup "Rsa_public_key").toList.map fun text => Row.ofTexts ["Rsa_public_key", text]) := by
  rw [connection_sound profile sound, answers_lookup profile _ Statement.public_key_not_fixed]
  rfl

theorem selects_plugin (plugin : String) (plain : Statement.Plain plugin) :
    profile.connection route (Statement.selectPlugin plugin) = .ok (profile.pluginRows plugin) := by
  rw [connection_sound profile sound, profile.answers_plugin plugin plain]

theorem answers_version : profile.connection route Statement.version = .ok [⟨[profile.version?]⟩] := by
  rw [connection_sound profile sound, profile.answers_fixed.1]

theorem answers_mode :
    profile.connection route Statement.lowerCaseTableNames =
      .ok [Row.ofTexts [Text.ofInt profile.lowerCaseTableNames.toInt]] := by
  rw [connection_sound profile sound, profile.answers_fixed.2.1]

theorem answers_procedures :
    profile.connection route Statement.nativeProcedures = profile.procedureRows := by
  rw [connection_sound profile sound, profile.answers_fixed.2.2.1]

theorem answers_privilege :
    profile.connection route Statement.mdlPrivilege =
      if profile.mdlPrivilege then .ok [] else .error (.sql noPrivilege) := by
  rw [connection_sound profile sound, profile.answers_fixed.2.2.2.1]

theorem answers_instrument :
    profile.connection route Statement.mdlInstrument =
      .ok [let flag := if profile.mdlInstrumentation then "YES" else "NO"
        Row.ofTexts [flag, flag]] := by
  rw [connection_sound profile sound, profile.answers_fixed.2.2.2.2]

theorem variable_first_iff (name : String) (plain : Statement.Plain name) (row : Row) :
    (∃ rest, profile.connection route (Statement.showVariable name) = .ok (row :: rest)) ↔
      ∃ value, profile.Sets name value ∧ row = Row.ofTexts [name, value] := by
  simp only [shows_variable profile sound route name plain, ← setting_iff]
  cases profile.settingValue? name <;> simp [eq_comm]

theorem variable_row_iff (name : String) (plain : Statement.Plain name) :
    Reply.HasRow (profile.connection route (Statement.showVariable name)) ↔ ∃ value, profile.Sets name value := by
  refine (exists_congr (variable_first_iff profile sound route name plain)).trans ?_
  exact ⟨fun ⟨_, value, sets, _⟩ => ⟨value, sets⟩, fun ⟨value, sets⟩ => ⟨_, value, sets, rfl⟩⟩

theorem variable_holds_iff (name value : String) (plain : Statement.Plain name) :
    Reply.Holds (profile.connection route (Statement.showVariable name)) 1 value ↔ profile.Sets name value := by
  constructor
  · rintro ⟨row, rest, shown, cell⟩
    obtain ⟨text, sets, rfl⟩ := (variable_first_iff profile sound route name plain row).mp ⟨rest, shown⟩
    cases cell
    exact sets
  · intro sets
    obtain ⟨rest, shown⟩ := (variable_first_iff profile sound route name plain _).mpr ⟨value, sets, rfl⟩
    exact ⟨_, rest, shown, rfl⟩

theorem public_key_row_iff :
    Reply.HasRow (profile.connection route Statement.rsaPublicKey) ↔
      ∃ value, profile.status.lookup "Rsa_public_key" = some value := by
  simp only [shows_public_key profile sound route, Reply.has_row_iff]
  cases profile.status.lookup "Rsa_public_key" <;> simp

theorem mode_holds_iff (text : String) :
    Reply.Holds (profile.connection route Statement.lowerCaseTableNames) 0 text ↔
      text = Text.ofInt profile.lowerCaseTableNames.toInt := by
  rw [answers_mode profile sound, Reply.holds_first]
  exact ⟨fun same => (Option.some.inj same).symm, fun same => congrArg some same.symm⟩

theorem privilege_iff :
    (∃ rows, profile.connection route Statement.mdlPrivilege = .ok rows) ↔ profile.mdlPrivilege = true := by
  simp only [answers_privilege profile sound]
  cases profile.mdlPrivilege <;> simp

theorem instrument_iff :
    Reply.Says (profile.connection route Statement.mdlInstrument) 0 "YES" ↔ profile.mdlInstrumentation = true := by
  rw [answers_instrument profile sound, Reply.says_iff]
  cases profile.mdlInstrumentation <;> decide

theorem procedures_iff :
    Reply.ListsReturning (profile.connection route Statement.nativeProcedures) ↔ profile.ListsReturning := by
  rw [answers_procedures profile sound, procedureRows]
  cases listed : profile.nativeProcedures? with
  | none => simp [Reply.ListsReturning, ListsReturning, listed]
  | some procedures =>
      simp only [Reply.lists_returning_iff, ListsReturning, listed, List.any_map, List.any_eq_true,
        Option.some.injEq, exists_eq_left']
      exact exists_congr fun procedure => and_congr_right fun _ => Bool.and_eq_true_iff

theorem plugin_first_iff (plugin : String) (plain : Statement.Plain plugin) (row : Row) :
    (∃ rest, profile.connection route (Statement.selectPlugin plugin) = .ok (row :: rest)) ↔
      ∃ udf, profile.udf? = some udf ∧ udf.pluginName = plugin ∧ row = Row.ofTexts [udf.version, udf.status] := by
  rw [selects_plugin profile sound route plugin plain, pluginRows]
  cases profile.udf? with
  | none => simp
  | some udf =>
      by_cases named : udf.pluginName = plugin
      · simp [named, eq_comm]
      · simp [named]

theorem describes_iff (part : Config.UdfPart) (plugin : Statement.Plain part.pluginName)
    (setting : Statement.Plain part.functionListVariable) (details : Udf.Details) :
    Udf.Describes profile.connection part.pluginName part.functionListVariable details ↔
      profile.Offers part details := by
  have plugins := plugin_first_iff profile sound .any part.pluginName plugin
  have settings := variable_first_iff profile sound .any part.functionListVariable setting
  constructor
  · rintro ⟨row, rest, functions, more, found, version, status, listed, registered⟩
    obtain ⟨udf, has, named, rfl⟩ := (plugins row).mp ⟨rest, found⟩
    obtain ⟨text, sets, rfl⟩ := (settings functions).mp ⟨more, listed⟩
    exact ⟨udf, has, named, version, status, text, sets, registered⟩
  · rintro ⟨udf, has, named, version, status, text, sets, registered⟩
    obtain ⟨rest, found⟩ := (plugins _).mpr ⟨udf, has, named, rfl⟩
    obtain ⟨more, listed⟩ := (settings _).mpr ⟨text, sets, rfl⟩
    exact ⟨_, rest, _, more, found, version, status, listed, registered⟩

end Sound

section Harmless

variable (sound : profile.faults = [])
include sound

theorem variable_harmless (probe : Probe) (name : String) (plain : Statement.Plain name)
    (optional : probe.needsRow = false) :
    Question.Harmless ⟨probe, .any, Statement.showVariable name⟩ profile.connection :=
  Question.answered_harmless _ _ _ (shows_variable profile sound .any name plain) optional

theorem version_harmless (version : String) (known : profile.version? = some version) :
    Question.Harmless ⟨.version, .master, Statement.version⟩ profile.connection := by
  intro error fatal
  unfold Question.Stops at fatal
  dsimp only at fatal
  rw [answers_version profile sound, known] at fatal
  cases fatal with
  | noVersion _ _ null => cases null

theorem mode_harmless :
    Question.Harmless ⟨.lowerCaseTableNames, .master, Statement.lowerCaseTableNames⟩ profile.connection := by
  intro error fatal
  unfold Question.Stops at fatal
  dsimp only at fatal
  rw [answers_mode profile sound] at fatal
  cases fatal with
  | noMode _ _ null => cases null
  | unreadableMode _ _ text cell unreadable =>
      cases cell
      rw [Text.trim_of_int, Text.int32_of_int] at unreadable
      cases unreadable

theorem returning_harmless :
    Question.Harmless ⟨.returning, .any, Statement.nativeProcedures⟩ profile.connection := by
  have reply := answers_procedures profile sound .any
  unfold procedureRows at reply
  cases listed : profile.nativeProcedures? with
  | some procedures =>
      rw [listed] at reply
      exact Question.answered_harmless _ _ _ reply rfl
  | none =>
      rw [listed] at reply
      refine Question.refused_harmless _ _ _ reply (.noProcedure _ (by decide) rfl ?_)
      exact (Text.contains_iff "does not exist" _).mp (by decide)

theorem plan_harmless (config : Config) (version : String) (known : profile.version? = some version) :
    ∀ question ∈ Node.Snapshot.plan config.probeOptions profile.connection,
      question.Harmless profile.connection := by
  have shown (probe : Probe) (name : String) := variable_harmless profile sound probe name
  have functions (found : Option (Int32 × Int32)) :
      ∀ question ∈ Udf.functionsPlan config.probeOptions.udfFunctionsVariable found,
        question.Harmless profile.connection := by
    cases found with
    | none => exact List.forall_mem_nil _
    | some found =>
        exact List.forall_mem_singleton.mpr (Question.excused_harmless _ _ .functions rfl)
  have returning : ∀ question ∈ Check.returningPlan config.probeOptions.extendedProtocol,
      question.Harmless profile.connection := by
    unfold Check.returningPlan
    split
    · exact List.forall_mem_nil _
    · exact List.forall_mem_singleton.mpr (returning_harmless profile sound)
  simp only [Node.Snapshot.plan, Udf.plan, List.forall_mem_cons, List.forall_mem_append]
  exact ⟨version_harmless profile sound version known, shown _ _ (by decide) rfl, shown _ _ (by decide) rfl,
    shown _ _ (by decide) rfl, shown _ _ (by decide) rfl,
    ⟨Question.excused_harmless _ _ .plugin rfl, functions _⟩, returning,
    shown _ _ (by decide) rfl, mode_harmless profile sound, shown _ _ (by decide) rfl,
    Question.excused_harmless _ _ .privilege rfl, Question.excused_harmless _ _ .instrumentation rfl,
    Question.answered_harmless _ _ _ (shows_public_key profile sound .any) rfl, List.forall_mem_nil _⟩

end Harmless

theorem probe_told (config : Config) (version : String) (sound : profile.faults = [])
    (known : profile.version? = some version) (asking : config.deployment.fastMock = false) :
    ∃ node, ((Node.Snapshot.probe config.probeOptions).run profile.connection).result = .ok node ∧
      Node.Snapshot.Told config.probeOptions profile.connection node := by
  have held := Node.Snapshot.probe_asks config.probeOptions profile.connection asking
  exact (Interview.all_asked _ _ _ _ _ held (plan_harmless profile sound config version known)).1

theorem told_agrees (config : Config) (node : Node.Snapshot) (sound : profile.faults = [])
    (valid : config.validate = .ok ())
    (told : Node.Snapshot.Told config.probeOptions profile.connection node) : profile.Agrees config node := by
  have row (name : String) (plain : Statement.Plain name) := variable_row_iff profile sound .any name plain
  obtain ⟨plugin, setting⟩ := Config.validated_names_plain config valid
  constructor
  case version =>
    have held := told.version
    rw [answers_version profile sound, Reply.holds_first] at held
    exact held
  case engine => exact told.engine.trans (row _ (by decide))
  case globalTimestamp => exact told.globalTimestamp.trans (row _ (by decide))
  case heartbeat => exact told.heartbeat.trans (row _ (by decide))
  case commitTimestampTx => exact told.commitTimestampTx.trans (row _ (by decide))
  case sharedReadView => exact told.sharedReadView.trans (row _ (by decide))
  case performanceSchema =>
    refine told.performanceSchema.trans (exists_congr fun value => and_congr_left fun _ => ?_)
    exact variable_holds_iff profile sound .any _ value (by decide)
  case openSsl => exact told.openSsl.trans (public_key_row_iff profile sound .any)
  case lowerCaseMode =>
    obtain ⟨text, held, mode⟩ := told.lowerCaseMode
    rw [(mode_holds_iff profile sound .master text).mp held, Text.trim_of_int, Text.int32_of_int] at mode
    exact (Option.some.inj mode).symm
  case mdlPrivilege => exact Bool.eq_iff_iff.mpr (told.mdlPrivilege.trans (privilege_iff profile sound .any))
  case mdlInstrumentation =>
    exact Bool.eq_iff_iff.mpr (told.mdlInstrumentation.trans (instrument_iff profile sound .any))
  case returning => exact told.returning.trans (and_congr_right fun _ => procedures_iff profile sound .any)
  case udf =>
    exact fun details => (told.udf details).trans (describes_iff profile sound config.udf plugin setting details)

-- A probe of a node that answers from a profile without faults, with a configuration that passed its
-- check, comes to an end, and its snapshot says what the profile says.
theorem probe_finds_profile (config : Config) (version : String) (sound : profile.faults = [])
    (known : profile.version? = some version) (valid : config.validate = .ok ())
    (asking : config.deployment.fastMock = false) :
    ∃ node, ((Node.Snapshot.probe config.probeOptions).run profile.connection).result = .ok node ∧
      node.version = version ∧ profile.Agrees config node := by
  obtain ⟨node, ended, told⟩ := probe_told profile config version sound known asking
  have agrees := told_agrees profile config node sound valid told
  exact ⟨node, ended, Option.some.inj (agrees.version.symm.trans known), agrees⟩

theorem probe_finds_extension :
    let udf : UdfProfile := { version := "1.2", status := "ACTIVE", functions := "hashcheck, bloomfilter" }
    let profile : Profile :=
      { name := "dn-0", version? := some "8.0.32", lowerCaseTableNames := -1, udf? := some udf }
    profile.faults = [] ∧ profile.version? = some "8.0.32" ∧ Config.standard.validate = .ok () ∧
      Config.standard.deployment.fastMock = false ∧
      ∃ node, ((Node.Snapshot.probe Config.standard.probeOptions).run profile.connection).result = .ok node ∧
        node.version = "8.0.32" ∧ node.lowerCaseMode = -1 ∧
        node.udf = .present ⟨1, 2, "ACTIVE", ["bloomfilter", "hashcheck"]⟩ := by
  intro udf profile
  have valid : Config.standard.validate = .ok () := rfl
  obtain ⟨node, ended, version, agrees⟩ :=
    probe_finds_profile profile Config.standard "8.0.32" rfl rfl valid rfl
  refine ⟨rfl, rfl, valid, rfl, node, ended, version, agrees.lowerCaseMode, ?_⟩
  refine (agrees.udf _).mpr ⟨udf, rfl, rfl, by decide, rfl, "hashcheck, bloomfilter", ?_, by decide⟩
  exact .functions udf rfl rfl rfl

end ClusterCaps.Profile
