import ClusterCaps.Node.Snapshot
import ClusterCaps.Proofs.Probe.Checks

set_option autoImplicit false

namespace ClusterCaps.Node.Snapshot

def plan (options : ProbeOptions) (connection : Connection) : List Question :=
  ⟨.version, .master, Statement.version⟩ ::
  ⟨.globalTimestamp, .any, Statement.showVariable "innodb_commit_seq"⟩ ::
  ⟨.timestampHeartbeat, .any, Statement.showVariable "innodb_heartbeat_seq"⟩ ::
  ⟨.performanceSchema, .any, Statement.showVariable "performance_schema"⟩ ::
  ⟨.xengine, .any, Statement.showVariable "xengine_datadir"⟩ ::
  (Udf.plan connection options.udfPlugin options.udfFunctionsVariable ++
  (Check.returningPlan options.extendedProtocol ++
  [⟨.commitTimestampTx, .any, Statement.showVariable "innodb_cts_transaction"⟩,
    ⟨.lowerCaseTableNames, .master, Statement.lowerCaseTableNames⟩,
    ⟨.sharedReadView, .any, Statement.showVariable "innodb_transaction_group"⟩,
    ⟨.mdlPrivilege, .any, Statement.mdlPrivilege⟩,
    ⟨.mdlInstrumentation, .any, Statement.mdlInstrument⟩,
    ⟨.openSsl, .any, Statement.rsaPublicKey⟩]))

structure Told (options : ProbeOptions) (connection : Connection) (node : Snapshot) : Prop where
  version : Reply.Holds (connection .master Statement.version) 0 node.version
  engine : node.engine = .xengine ↔ Reply.HasRow (connection .any (Statement.showVariable "xengine_datadir"))
  globalTimestamp : node.globalTimestamp = true ↔
    Reply.HasRow (connection .any (Statement.showVariable "innodb_commit_seq"))
  heartbeat : node.heartbeat = true ↔
    Reply.HasRow (connection .any (Statement.showVariable "innodb_heartbeat_seq"))
  commitTimestampTx : node.commitTimestampTx = true ↔
    Reply.HasRow (connection .any (Statement.showVariable "innodb_cts_transaction"))
  sharedReadView : node.sharedReadView = true ↔
    Reply.HasRow (connection .any (Statement.showVariable "innodb_transaction_group"))
  openSsl : node.openSsl = true ↔ Reply.HasRow (connection .any Statement.rsaPublicKey)
  performanceSchema : node.performanceSchema = true ↔
    Reply.Says (connection .any (Statement.showVariable "performance_schema")) 1 "ON"
  mdlPrivilege : node.mdlPrivilege = true ↔ ∃ rows, connection .any Statement.mdlPrivilege = .ok rows
  mdlInstrumentation : node.mdlInstrumentation = true ↔
    Reply.Says (connection .any Statement.mdlInstrument) 0 "YES"
  returning : node.returning = true ↔
    options.extendedProtocol = false ∧ Reply.ListsReturning (connection .any Statement.nativeProcedures)
  lowerCaseMode : ∃ text, Reply.Holds (connection .master Statement.lowerCaseTableNames) 0 text ∧
    Text.int32? (Text.trim text.toList) = some node.lowerCaseMode
  udf : ∀ details, node.udf = .present details ↔
    Udf.Describes connection options.udfPlugin options.udfFunctionsVariable details

theorem examine_asks (options : ProbeOptions) (connection : Connection) :
    (examine options).Asks connection (plan options connection) (Told options connection) := by
  unfold examine plan
  refine Probing.asks_next (Check.version_asks connection) fun version toldVersion => ?_
  refine Probing.asks_next
    (Check.variable_present_asks connection .globalTimestamp "innodb_commit_seq"
      (fun _ excused => nomatch excused) rfl) fun globalTimestamp toldTimestamp => ?_
  refine Probing.asks_next
    (Check.variable_present_asks connection .timestampHeartbeat "innodb_heartbeat_seq"
      (fun _ excused => nomatch excused) rfl) fun heartbeat toldHeartbeat => ?_
  refine Probing.asks_next
    (Check.performance_schema_asks connection) fun performanceSchema toldSchema => ?_
  refine Probing.asks_next
    (Check.variable_present_asks connection .xengine "xengine_datadir"
      (fun _ excused => nomatch excused) rfl) fun onXEngine toldEngine => ?_
  refine Probing.asks_bind
    (Udf.resolve_asks connection options.udfPlugin options.udfFunctionsVariable) fun udf toldUdf => ?_
  refine Probing.asks_bind
    (Check.returning_asks connection options.extendedProtocol) fun returning toldReturning => ?_
  refine Probing.asks_next
    (Check.variable_present_asks connection .commitTimestampTx "innodb_cts_transaction"
      (fun _ excused => nomatch excused) rfl) fun commitTimestampTx toldCommit => ?_
  refine Probing.asks_next
    (Check.lower_case_table_names_asks connection) fun lowerCaseMode toldMode => ?_
  refine Probing.asks_next
    (Check.variable_present_asks connection .sharedReadView "innodb_transaction_group"
      (fun _ excused => nomatch excused) rfl) fun sharedReadView toldView => ?_
  refine Probing.asks_next
    (Check.mdl_privilege_asks connection) fun mdlPrivilege toldPrivilege => ?_
  refine Probing.asks_next
    (Check.mdl_instrumentation_asks connection) fun mdlInstrumentation toldInstrumentation => ?_
  refine Probing.asks_then (Check.open_ssl_asks connection) fun openSsl toldSsl => ?_
  refine Probing.asks_logged ?_
  have toldKind : (if onXEngine then Engine.xengine else Engine.generic) = .xengine ↔ onXEngine = true := by
    cases onXEngine <;> simp
  exact ⟨toldVersion, toldKind.trans toldEngine, toldTimestamp, toldHeartbeat, toldCommit, toldView, toldSsl,
    toldSchema, toldPrivilege, toldInstrumentation, toldReturning, toldMode, toldUdf⟩

-- The answers leave no choice: two snapshots that both say what they say are the same.
theorem told_unique (options : ProbeOptions) (connection : Connection) (one other : Snapshot)
    (first : Told options connection one) (second : Told options connection other) : one = other := by
  have version : one.version = other.version := Reply.holds_unique _ _ _ _ first.version second.version
  have engine : one.engine = other.engine := by
    have same := first.engine.trans second.engine.symm
    generalize one.engine = left at same ⊢
    generalize other.engine = right at same ⊢
    cases left <;> cases right <;> simp at same ⊢
  have lowerCaseMode : one.lowerCaseMode = other.lowerCaseMode := by
    obtain ⟨text, held, mode⟩ := first.lowerCaseMode
    obtain ⟨again, heldAgain, modeAgain⟩ := second.lowerCaseMode
    rw [Reply.holds_unique _ _ _ _ held heldAgain, modeAgain] at mode
    exact (Option.some.inj mode).symm
  have udf : one.udf = other.udf :=
    Udf.extension_ext _ _ fun details => (first.udf details).trans (second.udf details).symm
  have globalTimestamp := Bool.eq_iff_iff.mpr (first.globalTimestamp.trans second.globalTimestamp.symm)
  have heartbeat := Bool.eq_iff_iff.mpr (first.heartbeat.trans second.heartbeat.symm)
  have commitTimestampTx := Bool.eq_iff_iff.mpr (first.commitTimestampTx.trans second.commitTimestampTx.symm)
  have sharedReadView := Bool.eq_iff_iff.mpr (first.sharedReadView.trans second.sharedReadView.symm)
  have openSsl := Bool.eq_iff_iff.mpr (first.openSsl.trans second.openSsl.symm)
  have performanceSchema := Bool.eq_iff_iff.mpr (first.performanceSchema.trans second.performanceSchema.symm)
  have mdlPrivilege := Bool.eq_iff_iff.mpr (first.mdlPrivilege.trans second.mdlPrivilege.symm)
  have mdlInstrumentation := Bool.eq_iff_iff.mpr (first.mdlInstrumentation.trans second.mdlInstrumentation.symm)
  have returning := Bool.eq_iff_iff.mpr (first.returning.trans second.returning.symm)
  cases one
  cases other
  simp only [mk.injEq]
  exact ⟨version, engine, globalTimestamp, heartbeat, commitTimestampTx, sharedReadView, openSsl,
    performanceSchema, mdlPrivilege, mdlInstrumentation, returning, lowerCaseMode, udf⟩

theorem probe_asks (options : ProbeOptions) (connection : Connection) (asking : options.fastMock = false) :
    (probe options).Asks connection (plan options connection) (Told options connection) := by
  unfold probe
  rw [asking]
  exact examine_asks options connection

-- The probe of a node fails exactly with the first fatal answer to its questions, sends nothing after
-- the question with that answer, and otherwise has the one snapshot that the answers describe.
theorem probe_ends_at_first_fatal_answer (options : ProbeOptions) (connection : Connection)
    (asking : options.fastMock = false) :
    (∀ error, ((probe options).run connection).result = .error error ↔
      ∃ before question, FirstFatal connection (plan options connection) before question error) ∧
    (∀ before question error, FirstFatal connection (plan options connection) before question error →
      ((probe options).run connection).queries = (before ++ [question]).map Question.sent) ∧
    (∀ node, ((probe options).run connection).result = .ok node ↔
      (∀ question ∈ plan options connection, question.Harmless connection) ∧ Told options connection node) ∧
    ((∀ question ∈ plan options connection, question.Harmless connection) →
      (∃ node, ((probe options).run connection).result = .ok node) ∧
        ((probe options).run connection).queries = (plan options connection).map Question.sent) := by
  have held := probe_asks options connection asking
  unfold Probing.Asks at held
  generalize ((probe options).run connection).queries = queries at held ⊢
  generalize ((probe options).run connection).result = result at held ⊢
  refine ⟨fun error => ⟨?_, ?_⟩, ?_, fun node => ⟨?_, ?_⟩, ?_⟩
  · rintro rfl
    exact Interview.error_stops connection _ _ queries error held
  · rintro ⟨before, question, first⟩
    exact (Interview.stopped_at connection _ _ queries result before question error first held).1
  · intro before question error first
    exact (Interview.stopped_at connection _ _ queries result before question error first held).2
  · rintro rfl
    exact Interview.value_told connection _ _ queries node held
  · rintro ⟨fine, told⟩
    obtain ⟨⟨value, ended, toldValue⟩, _⟩ := Interview.all_asked connection _ _ queries result held fine
    rw [ended, told_unique options connection value node toldValue told]
  · intro fine
    obtain ⟨⟨value, ended, _⟩, sent⟩ := Interview.all_asked connection _ _ queries result held fine
    exact ⟨⟨value, ended⟩, sent⟩

theorem probe_ends_at_lost_connection :
    let options : ProbeOptions := ⟨false, false, "polarx_udf", "polarx_udf_function_list"⟩
    let connection : Connection := fun route _ => match route with
      | .master => .ok [Row.ofTexts ["8.0.32"]]
      | .any => .error (.connectionLost "gone")
    options.fastMock = false ∧
      ((probe options).run connection).result =
        .error (.exec .globalTimestamp (.connectionLost "gone")) ∧
      ((probe options).run connection).queries =
        [(.master, "SELECT @@version"), (.any, "SHOW VARIABLES LIKE 'innodb_commit_seq'")] := by
  intro options connection
  have first : FirstFatal connection (plan options connection)
      [⟨.version, .master, Statement.version⟩]
      ⟨.globalTimestamp, .any, Statement.showVariable "innodb_commit_seq"⟩
      (.exec .globalTimestamp (.connectionLost "gone")) := by
    refine ⟨⟨_, rfl⟩, List.forall_mem_singleton.mpr ?_, .failed _ _ fun excused => nomatch excused⟩
    intro error fatal
    cases fatal with
    | noVersion _ _ null => cases null
  have general := probe_ends_at_first_fatal_answer options connection rfl
  exact ⟨rfl, (general.1 _).mpr ⟨_, _, first⟩, general.2.1 _ _ _ first⟩

end ClusterCaps.Node.Snapshot
