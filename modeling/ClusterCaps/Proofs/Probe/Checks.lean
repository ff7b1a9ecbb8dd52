import ClusterCaps.Probe.Udf
import ClusterCaps.Proofs.Probe.Interview

set_option autoImplicit false

namespace ClusterCaps

abbrev Reply := Except ExecError (List Row)

namespace Reply

def HasRow (reply : Reply) : Prop := ∃ row rest, reply = .ok (row :: rest)

def Holds (reply : Reply) (index : Nat) (text : String) : Prop :=
  ∃ row rest, reply = .ok (row :: rest) ∧ row.cell? index = some text

def Says (reply : Reply) (index : Nat) (word : String) : Prop :=
  ∃ text, reply.Holds index text ∧ Text.sameIgnoringAsciiCase text word = true

def ListsReturning (reply : Reply) : Prop :=
  ∃ rows, reply = .ok rows ∧ ∃ row ∈ rows, ∃ schema procedure,
    row.cell? 0 = some schema ∧ row.cell? 1 = some procedure ∧
      Text.sameIgnoringAsciiCase schema "dbms_trans" = true ∧
      Text.sameIgnoringAsciiCase procedure "returning" = true

theorem has_row_iff (rows : List Row) : HasRow (.ok rows) ↔ (!rows.isEmpty) = true := by
  cases rows with
  | nil => simp [HasRow]
  | cons row rest => simp [HasRow]

theorem holds_first (row : Row) (rest : List Row) (index : Nat) (text : String) :
    Holds (.ok (row :: rest)) index text ↔ row.cell? index = some text := by
  constructor
  · rintro ⟨_, _, same, cell⟩
    cases same
    exact cell
  · exact fun cell => ⟨row, rest, rfl, cell⟩

theorem holds_unique (reply : Reply) (index : Nat) (one other : String) (first : Holds reply index one)
    (second : Holds reply index other) : one = other := by
  obtain ⟨row, rest, rfl, cell⟩ := first
  rw [holds_first, cell] at second
  exact Option.some.inj second

theorem cell_says_iff (row : Row) (index : Nat) (word : String) :
    Check.cellSays row index word = true ↔
      ∃ text, row.cell? index = some text ∧ Text.sameIgnoringAsciiCase text word = true := by
  unfold Check.cellSays
  cases row.cell? index with
  | none => simp
  | some text => simp

theorem says_iff (rows : List Row) (index : Nat) (word : String) :
    Says (.ok rows) index word ↔ Check.firstSays rows index word = true := by
  cases rows with
  | nil => simp [Says, Holds, Check.firstSays]
  | cons row rest => simp only [Says, holds_first, Check.firstSays, cell_says_iff]

theorem lists_returning_iff (rows : List Row) :
    ListsReturning (.ok rows) ↔ rows.any Check.listsReturning = true := by
  unfold ListsReturning
  rw [List.any_eq_true]
  constructor
  · rintro ⟨_, same, row, member, schema, procedure, schemaCell, procedureCell, schemaName, procedureName⟩
    cases same
    refine ⟨row, member, ?_⟩
    rw [Check.listsReturning, Bool.and_eq_true, cell_says_iff, cell_says_iff]
    exact ⟨⟨schema, schemaCell, schemaName⟩, procedure, procedureCell, procedureName⟩
  · rintro ⟨row, member, listed⟩
    rw [Check.listsReturning, Bool.and_eq_true, cell_says_iff, cell_says_iff] at listed
    obtain ⟨⟨schema, schemaCell, schemaName⟩, procedure, procedureCell, procedureName⟩ := listed
    exact ⟨rows, rfl, row, member, schema, procedure, schemaCell, procedureCell, schemaName, procedureName⟩

end Reply

namespace Check

variable (connection : Connection)

theorem version_asks :
    version.Asks connection [⟨.version, .master, Statement.version⟩]
      (Reply.Holds (connection .master Statement.version) 0) := by
  let question : Question := ⟨.version, .master, Statement.version⟩
  cases reply : connection .master Statement.version with
  | error cause => exact Probing.asks_failure question cause reply fun excused => nomatch excused
  | ok rows =>
      cases rows with
      | nil => exact Probing.asks_misreply question [] _ reply rfl (.noRow .version rfl)
      | cons row rest =>
          cases cell : row.cell? 0 with
          | none =>
              exact Probing.asks_misreply question (row :: rest) _ reply (by simp only [cell])
                (.noVersion row rest cell)
          | some text =>
              refine Probing.asks_reply question (row :: rest) text reply (by simp only [cell]; rfl)
                ?_ ⟨row, rest, rfl, cell⟩
              intro error fatal
              cases fatal with
              | noVersion _ _ null => rw [cell] at null; cases null

theorem variable_present_asks (probe : Probe) (setting : String) (strict : ∀ cause, ¬ Excused probe cause)
    (optional : probe.needsRow = false) :
    (variablePresent probe setting).Asks connection [⟨probe, .any, Statement.showVariable setting⟩]
      fun found => found = true ↔ Reply.HasRow (connection .any (Statement.showVariable setting)) := by
  refine Probing.asks_then
    (Probing.asks_require connection ⟨probe, .any, Statement.showVariable setting⟩ strict optional) ?_
  intro rows reply
  refine Probing.asks_done ?_
  simp only [reply, Reply.has_row_iff]

theorem performance_schema_asks :
    performanceSchema.Asks connection [⟨.performanceSchema, .any, Statement.showVariable "performance_schema"⟩]
      fun on => on = true ↔ Reply.Says (connection .any (Statement.showVariable "performance_schema")) 1 "ON" := by
  refine Probing.asks_then
    (Probing.asks_require connection ⟨.performanceSchema, .any, Statement.showVariable "performance_schema"⟩
      (fun _ excused => nomatch excused) rfl) ?_
  intro rows reply
  refine Probing.asks_done ?_
  simp only [reply, Reply.says_iff]

theorem open_ssl_asks :
    openSsl.Asks connection [⟨.openSsl, .any, Statement.rsaPublicKey⟩]
      fun found => found = true ↔ Reply.HasRow (connection .any Statement.rsaPublicKey) := by
  refine Probing.asks_then
    (Probing.asks_require connection ⟨.openSsl, .any, Statement.rsaPublicKey⟩
      (fun _ excused => nomatch excused) rfl) ?_
  intro rows reply
  refine Probing.asks_done ?_
  simp only [reply, Reply.has_row_iff]

theorem lower_case_table_names_asks :
    lowerCaseTableNames.Asks connection [⟨.lowerCaseTableNames, .master, Statement.lowerCaseTableNames⟩]
      fun mode => ∃ text, Reply.Holds (connection .master Statement.lowerCaseTableNames) 0 text ∧
        Text.int32? (Text.trim text.toList) = some mode := by
  let question : Question := ⟨.lowerCaseTableNames, .master, Statement.lowerCaseTableNames⟩
  cases reply : connection .master Statement.lowerCaseTableNames with
  | error cause => exact Probing.asks_failure question cause reply fun excused => nomatch excused
  | ok rows =>
      cases rows with
      | nil =>
          exact Probing.asks_misreply question [] _ reply rfl (.noRow .lowerCaseTableNames rfl)
      | cons row rest =>
          cases cell : row.cell? 0 with
          | none =>
              exact Probing.asks_misreply question (row :: rest) _ reply (by simp only [cell])
                (.noMode row rest cell)
          | some text =>
              cases number : Text.int32? (Text.trim text.toList) with
              | none =>
                  exact Probing.asks_misreply question (row :: rest) _ reply
                    (by simp only [cell, number]) (.unreadableMode row rest text cell number)
              | some mode =>
                  refine Probing.asks_reply question (row :: rest) mode reply
                    (by simp only [cell, number]; rfl) ?_ ⟨text, ⟨row, rest, rfl, cell⟩, number⟩
                  intro error fatal
                  cases fatal with
                  | noMode _ _ null => rw [cell] at null; cases null
                  | unreadableMode _ _ same again unreadable =>
                      rw [cell] at again
                      cases again
                      rw [number] at unreadable
                      cases unreadable

theorem mdl_privilege_asks :
    mdlPrivilege.Asks connection [⟨.mdlPrivilege, .any, Statement.mdlPrivilege⟩]
      fun allowed => allowed = true ↔ ∃ rows, connection .any Statement.mdlPrivilege = .ok rows := by
  refine Probing.asks_then (Probing.asks_ask
    ⟨.mdlPrivilege, .any, Statement.mdlPrivilege⟩ (Question.excused_harmless _ _ .privilege rfl)) ?_
  rintro _ rfl
  dsimp only
  cases connection .any Statement.mdlPrivilege with
  | ok rows => exact Probing.asks_done (by simp)
  | error cause =>
      exact Probing.asks_logged (by simp)

theorem mdl_instrumentation_asks :
    mdlInstrumentation.Asks connection [⟨.mdlInstrumentation, .any, Statement.mdlInstrument⟩]
      fun on => on = true ↔ Reply.Says (connection .any Statement.mdlInstrument) 0 "YES" := by
  refine Probing.asks_then (Probing.asks_ask
    ⟨.mdlInstrumentation, .any, Statement.mdlInstrument⟩
    (Question.excused_harmless _ _ .instrumentation rfl)) ?_
  rintro _ rfl
  dsimp only
  cases connection .any Statement.mdlInstrument with
  | ok rows => exact Probing.asks_done (Reply.says_iff rows 0 "YES").symm
  | error cause =>
      exact Probing.asks_logged (by simp [Reply.Says, Reply.Holds])

theorem is_like_iff (error : SqlError) (state : String) (code : Int32) (piece : String) :
    error.isLike state code piece = true ↔
      Text.sameIgnoringAsciiCase error.state state = true ∧ error.code = code ∧
        piece.toList <:+: error.message.toList := by
  rw [SqlError.isLike, Bool.and_eq_true, Bool.and_eq_true, beq_iff_eq, Text.contains_iff, and_assoc]

theorem returning_refusal_iff (cause : ExecError) :
    (returningRefusal? cause).isSome = true ↔ Excused .returning cause := by
  unfold returningRefusal?
  cases cause with
  | connectionLost message =>
      dsimp only
      exact ⟨fun none => (Bool.false_ne_true none).elim, fun excused => nomatch excused⟩
  | sql error =>
      dsimp only
      constructor
      · intro refused
        split at refused
        · next like =>
            obtain ⟨state, code, message⟩ := (is_like_iff _ _ _ _).mp like
            exact .noProcedure error state code message
        · split at refused
          · next like =>
              obtain ⟨state, code, message⟩ := (is_like_iff _ _ _ _).mp like
              exact .noProcedureCalls error state code message
          · cases refused
      · intro excused
        cases excused with
        | noProcedure _ state code message => rw [if_pos ((is_like_iff _ _ _ _).mpr ⟨state, code, message⟩)]; rfl
        | noProcedureCalls _ state code message =>
            split
            · rfl
            · rw [if_pos ((is_like_iff _ _ _ _).mpr ⟨state, code, message⟩)]; rfl

def returningPlan (extendedProtocol : Bool) : List Question :=
  if extendedProtocol then [] else [⟨.returning, .any, Statement.nativeProcedures⟩]

theorem returning_asks (extendedProtocol : Bool) :
    (returning extendedProtocol).Asks connection (returningPlan extendedProtocol)
      fun found => found = true ↔
        extendedProtocol = false ∧ Reply.ListsReturning (connection .any Statement.nativeProcedures) := by
  cases extendedProtocol with
  | true =>
      exact Probing.asks_logged (by simp)
  | false =>
      let question : Question := ⟨.returning, .any, Statement.nativeProcedures⟩
      cases reply : connection .any Statement.nativeProcedures with
      | ok rows =>
          have harmless := question.answered_harmless connection rows reply rfl
          refine Probing.asks_then (Probing.asks_ask question harmless) ?_
          intro answer same
          rw [same, reply]
          exact Probing.asks_done (by simp [Reply.lists_returning_iff])
      | error cause =>
          cases refused : returningRefusal? cause with
          | some message =>
              have excused : Excused .returning cause := (returning_refusal_iff cause).mp (by rw [refused]; rfl)
              have harmless := question.refused_harmless connection cause reply excused
              refine Probing.asks_then (Probing.asks_ask question harmless) ?_
              intro answer same
              rw [same, reply]
              dsimp only
              rw [refused]
              exact Probing.asks_logged (by simp [Reply.ListsReturning])
          | none =>
              have severe : ¬ Excused .returning cause := by
                intro excused
                have isSome := (returning_refusal_iff cause).mpr excused
                rw [refused] at isSome
                cases isSome
              refine Probing.asks_halt question _ (.exec .returning cause) ?_ ?_
              · simp only [question, reply, refused]
              · unfold Question.Stops
                rw [reply]
                exact .failed .returning cause severe

end Check

namespace Udf

variable (connection : Connection) (plugin setting : String)

def pluginVersion? (connection : Connection) (plugin : String) : Option (Int32 × Int32) :=
  match connection .any (Statement.selectPlugin plugin) with
  | .ok (row :: _) => (row.cell? 0).bind version?
  | _ => none

def functionsPlan (setting : String) : Option (Int32 × Int32) → List Question
  | none => []
  | some _ => [⟨.udfFunctions, .any, Statement.showVariable setting⟩]

-- The functions are asked for only where the version can be read.
def plan (connection : Connection) (plugin setting : String) : List Question :=
  ⟨.udfPlugin, .any, Statement.selectPlugin plugin⟩ :: functionsPlan setting (pluginVersion? connection plugin)

def Describes (connection : Connection) (plugin setting : String) (details : Details) : Prop :=
  ∃ row rest functions more,
    connection .any (Statement.selectPlugin plugin) = .ok (row :: rest) ∧
      (row.cell? 0).bind version? = some (details.major, details.minor) ∧
      details.status = (row.cell? 1).getD "" ∧
      connection .any (Statement.showVariable setting) = .ok (functions :: more) ∧
      details.functions = functionList ((functions.cell? 1).getD "")

theorem extension_ext (one other : Extension)
    (same : ∀ details, one = .present details ↔ other = .present details) : one = other := by
  cases one with
  | present details => exact ((same details).mp rfl).symm
  | absent =>
      cases other with
      | absent => rfl
      | present details => exact (same details).mpr rfl

theorem with_functions_asks (row : Row) (rest : List Row) (major minor : Int32)
    (found : connection .any (Statement.selectPlugin plugin) = .ok (row :: rest))
    (readable : (row.cell? 0).bind version? = some (major, minor)) :
    (withFunctions setting major minor ((row.cell? 1).getD "")).Asks connection
      [⟨.udfFunctions, .any, Statement.showVariable setting⟩]
      fun extension => ∀ details, extension = .present details ↔ Describes connection plugin setting details := by
  refine Probing.asks_then (Probing.asks_ask
    ⟨.udfFunctions, .any, Statement.showVariable setting⟩
    (Question.excused_harmless _ _ .functions rfl)) ?_
  rintro _ rfl
  dsimp only
  cases reply : connection .any (Statement.showVariable setting) with
  | error cause =>
      refine Probing.asks_logged fun details => ?_
      simp [Describes, reply]
  | ok rows =>
      cases rows with
      | nil =>
          refine Probing.asks_done fun details => ?_
          simp [Describes, reply]
      | cons functions more =>
          refine Probing.asks_done fun details => ?_
          constructor
          · rintro same
            cases same
            exact ⟨row, rest, functions, more, found, readable, rfl, reply, rfl⟩
          · rintro ⟨_, _, _, _, again, version, status, list, registered⟩
            rw [found] at again
            cases again
            rw [reply] at list
            cases list
            rw [readable] at version
            cases details
            cases version
            cases status
            cases registered
            rfl

theorem resolve_asks :
    (resolve plugin setting).Asks connection (plan connection plugin setting)
      fun extension => ∀ details, extension = .present details ↔ Describes connection plugin setting details := by
  let question : Question := ⟨.udfPlugin, .any, Statement.selectPlugin plugin⟩
  refine Probing.asks_next (Probing.asks_ask question
    (Question.excused_harmless _ _ .plugin rfl)) ?_
  rintro _ rfl
  dsimp only [question]
  unfold pluginVersion?
  cases reply : connection .any (Statement.selectPlugin plugin) with
  | error cause =>
      refine Probing.asks_logged fun details => ?_
      simp [Describes, reply]
  | ok rows =>
      cases rows with
      | nil =>
          refine Probing.asks_done fun details => ?_
          simp [Describes, reply]
      | cons row rest =>
          cases readable : (row.cell? 0).bind version? with
          | none =>
              dsimp only
              rw [readable]
              refine Probing.asks_logged fun details => ?_
              simp [Describes, reply, readable]
          | some version =>
              obtain ⟨major, minor⟩ := version
              dsimp only
              rw [readable]
              exact with_functions_asks connection plugin setting row rest major minor reply readable

end Udf

end ClusterCaps
