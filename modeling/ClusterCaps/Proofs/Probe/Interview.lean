import ClusterCaps.Probe.Check
import ClusterCaps.Proofs.Text.Scan

set_option autoImplicit false

namespace ClusterCaps

structure Question where
  probe : Probe
  route : Route
  statement : String
deriving DecidableEq, Repr

inductive Excused : Probe → ExecError → Prop where
  | plugin (cause : ExecError) : Excused .udfPlugin cause
  | functions (cause : ExecError) : Excused .udfFunctions cause
  | privilege (cause : ExecError) : Excused .mdlPrivilege cause
  | instrumentation (cause : ExecError) : Excused .mdlInstrumentation cause
  | noProcedure (error : SqlError) (state : Text.sameIgnoringAsciiCase error.state "42000" = true)
      (code : error.code = 1305) (message : "does not exist".toList <:+: error.message.toList) :
      Excused .returning (.sql error)
  | noProcedureCalls (error : SqlError) (state : Text.sameIgnoringAsciiCase error.state "HY000" = true)
      (code : error.code = 3130)
      (message : "Command not supported by pluggable protocols".toList <:+: error.message.toList) :
      Excused .returning (.sql error)

def Probe.needsRow : Probe → Bool
  | version => true
  | lowerCaseTableNames => true
  | _ => false

inductive Fatal : Probe → Except ExecError (List Row) → ProbeError → Prop where
  | failed (probe : Probe) (cause : ExecError) (severe : ¬ Excused probe cause) :
      Fatal probe (.error cause) (.exec probe cause)
  | noRow (probe : Probe) (needed : probe.needsRow = true) :
      Fatal probe (.ok []) (.malformed probe "no rows returned")
  | noVersion (row : Row) (rest : List Row) (null : row.cell? 0 = none) :
      Fatal .version (.ok (row :: rest)) (.malformed .version "version is NULL")
  | noMode (row : Row) (rest : List Row) (null : row.cell? 0 = none) :
      Fatal .lowerCaseTableNames (.ok (row :: rest)) (.malformed .lowerCaseTableNames "value is NULL")
  | unreadableMode (row : Row) (rest : List Row) (text : String) (cell : row.cell? 0 = some text)
      (unreadable : Text.int32? (Text.trim text.toList) = none) :
      Fatal .lowerCaseTableNames (.ok (row :: rest))
        (.malformed .lowerCaseTableNames ("expected an integer, got " ++ Text.quoted text))

theorem fatal_unique (probe : Probe) (answer : Except ExecError (List Row)) (one other : ProbeError)
    (first : Fatal probe answer one) (second : Fatal probe answer other) : one = other := by
  cases first with
  | failed cause severe => cases second; rfl
  | noRow needed => cases second; rfl
  | noVersion row rest null => cases second; rfl
  | noMode row rest null =>
      cases second with
      | noMode => rfl
      | unreadableMode _ _ text cell => rw [null] at cell; cases cell
  | unreadableMode row rest text cell unreadable =>
      cases second with
      | noMode _ _ null => rw [null] at cell; cases cell
      | unreadableMode _ _ same again => rw [cell] at again; cases again; rfl

theorem fatal_needed (probe : Probe) (rows : List Row) (error : ProbeError)
    (optional : probe.needsRow = false) : ¬ Fatal probe (.ok rows) error := by
  intro fatal
  cases fatal with
  | noRow _ needed => rw [needed] at optional; cases optional
  | noVersion => cases optional
  | noMode => cases optional
  | unreadableMode => cases optional

theorem fatal_refused (probe : Probe) (cause : ExecError) (error : ProbeError)
    (excused : Excused probe cause) : ¬ Fatal probe (.error cause) error := by
  intro fatal
  cases fatal with
  | failed _ _ severe => exact severe excused

theorem fatal_excused (probe : Probe) (answer : Except ExecError (List Row)) (error : ProbeError)
    (excused : ∀ cause, Excused probe cause)
    (optional : probe.needsRow = false) : ¬ Fatal probe answer error := by
  cases answer with
  | ok rows => exact fatal_needed probe rows error optional
  | error cause => exact fatal_refused probe cause error (excused cause)

namespace Question

def sent (question : Question) : Route × String := (question.route, question.statement)

def Stops (question : Question) (connection : Connection) (error : ProbeError) : Prop :=
  Fatal question.probe (connection question.route question.statement) error

def Harmless (question : Question) (connection : Connection) : Prop :=
  ∀ error, ¬ question.Stops connection error

theorem excused_harmless (question : Question) (connection : Connection)
    (excused : ∀ cause, Excused question.probe cause)
    (optional : question.probe.needsRow = false) :
    question.Harmless connection := fun error =>
  fatal_excused _ _ error excused optional

theorem answered_harmless (question : Question) (connection : Connection) (rows : List Row)
    (reply : connection question.route question.statement = .ok rows)
    (optional : question.probe.needsRow = false) : question.Harmless connection := by
  intro error fatal
  unfold Stops at fatal
  rw [reply] at fatal
  exact fatal_needed _ rows error optional fatal

theorem refused_harmless (question : Question) (connection : Connection) (cause : ExecError)
    (reply : connection question.route question.statement = .error cause)
    (excused : Excused question.probe cause) : question.Harmless connection := by
  intro error fatal
  unfold Stops at fatal
  rw [reply] at fatal
  exact fatal_refused _ cause error excused fatal

end Question

structure FirstFatal (connection : Connection) (plan before : List Question) (question : Question)
    (error : ProbeError) : Prop where
  order : before ++ [question] <+: plan
  fine : ∀ earlier ∈ before, earlier.Harmless connection
  fatal : question.Stops connection error

-- A list of questions put in order, with the statements sent and the result: the first fatal answer is
-- the last that is asked for, and without one there is a value of which `tells` holds.
inductive Interview (connection : Connection) {α : Type} (tells : α → Prop) :
    List Question → List (Route × String) → Except ProbeError α → Prop where
  | ended (value : α) (told : tells value) : Interview connection tells [] [] (.ok value)
  | stopped (question : Question) (later : List Question) (error : ProbeError)
      (fatal : question.Stops connection error) :
      Interview connection tells (question :: later) [question.sent] (.error error)
  | continued (question : Question) (later : List Question) (queries : List (Route × String))
      (result : Except ProbeError α) (harmless : question.Harmless connection)
      (rest : Interview connection tells later queries result) :
      Interview connection tells (question :: later) (question.sent :: queries) result

namespace Interview

variable {α β : Type} (connection : Connection) (tells : α → Prop) (plan : List Question)
variable (queries : List (Route × String)) (result : Except ProbeError α)

def following (more : α → List (Route × String)) : Except ProbeError α → List (Route × String)
  | .error _ => []
  | .ok value => more value

theorem bind (further : β → Prop) (later : List Question) (more : α → List (Route × String))
    (next : α → Except ProbeError β) (first : Interview connection tells plan queries result)
    (second : ∀ value, tells value → Interview connection further later (more value) (next value)) :
    Interview connection further (plan ++ later) (queries ++ following more result) (result.bind next) := by
  induction first with
  | ended value told => exact second value told
  | stopped question rest error fatal => exact .stopped question (rest ++ later) error fatal
  | continued question rest queries result harmless _ ih => exact .continued question _ _ _ harmless ih

theorem stopped_at (before : List Question) (question : Question) (error : ProbeError)
    (first : FirstFatal connection plan before question error)
    (held : Interview connection tells plan queries result) :
    result = .error error ∧ queries = (before ++ [question]).map Question.sent := by
  obtain ⟨⟨later, rfl⟩, fine, fatal⟩ := first
  rw [List.append_assoc, List.singleton_append] at held
  induction before generalizing queries with
  | nil =>
      cases held with
      | stopped _ _ other same =>
          cases fatal_unique _ _ _ _ same fatal
          exact ⟨rfl, rfl⟩
      | continued _ _ _ _ harmless => exact absurd fatal (harmless error)
  | cons earlier rest ih =>
      have harmless := fine earlier List.mem_cons_self
      cases held with
      | stopped _ _ other same => exact absurd same (harmless other)
      | continued _ _ queries _ _ held =>
          obtain ⟨ended, sent⟩ := ih queries
            (fun question member => fine question (List.mem_cons_of_mem earlier member)) held
          exact ⟨ended, congrArg (earlier.sent :: ·) sent⟩

theorem only_asked (question : Question) (held : Interview connection tells [question] queries result) :
    queries = [question.sent] := by
  cases held with
  | stopped => rfl
  | continued _ _ queries _ _ held =>
      cases held with
      | ended => rfl

theorem all_asked (held : Interview connection tells plan queries result)
    (fine : ∀ question ∈ plan, question.Harmless connection) :
    (∃ value, result = .ok value ∧ tells value) ∧ queries = plan.map Question.sent := by
  induction held with
  | ended value told => exact ⟨⟨value, rfl, told⟩, rfl⟩
  | stopped question later error fatal => exact absurd fatal (fine question List.mem_cons_self error)
  | continued question later queries result harmless _ ih =>
      obtain ⟨answered, sent⟩ := ih fun other member => fine other (List.mem_cons_of_mem question member)
      exact ⟨answered, congrArg (question.sent :: ·) sent⟩

theorem error_stops (error : ProbeError) (held : Interview connection tells plan queries (.error error)) :
    ∃ before question, FirstFatal connection plan before question error := by
  generalize failed : (Except.error error : Except ProbeError α) = result at held
  induction held with
  | ended value told => cases failed
  | stopped question later other fatal =>
      cases failed
      exact ⟨[], question, List.prefix_append [question] later, List.forall_mem_nil _, fatal⟩
  | continued question later queries result harmless _ ih =>
      obtain ⟨before, fatal, order, fine, stops⟩ := ih failed
      refine ⟨question :: before, fatal, (List.prefix_cons_inj question).mpr order, ?_, stops⟩
      exact List.forall_mem_cons.mpr ⟨harmless, fine⟩

theorem value_told (value : α) (held : Interview connection tells plan queries (.ok value)) :
    (∀ question ∈ plan, question.Harmless connection) ∧ tells value := by
  generalize ended : (Except.ok value : Except ProbeError α) = result at held
  induction held with
  | ended other told =>
      cases ended
      exact ⟨List.forall_mem_nil _, told⟩
  | stopped question later error fatal => cases ended
  | continued question later queries result harmless _ ih =>
      obtain ⟨fine, told⟩ := ih ended
      exact ⟨List.forall_mem_cons.mpr ⟨harmless, fine⟩, told⟩

end Interview

namespace Probing

variable {α β : Type} (connection : Connection)

-- Work that puts these questions to the node, and tells something with the value that it ends with.
def Asks (work : Probing α) (plan : List Question) (tells : α → Prop) : Prop :=
  Interview connection tells plan (work.run connection).queries (work.run connection).result

theorem run_bind_queries (work : Probing α) (next : α → Probing β) :
    ((work >>= next).run connection).queries =
      (work.run connection).queries ++
        Interview.following (fun value => ((next value).run connection).queries) (work.run connection).result := by
  cases ran : work.run connection with
  | mk steps result =>
      cases result with
      | error error =>
          rw [run_bind_error work next connection steps error ran]
          exact (List.append_nil _).symm
      | ok value =>
          rw [run_bind_ok work next connection steps value ran]
          exact List.filterMap_append

theorem run_bind_result (work : Probing α) (next : α → Probing β) :
    ((work >>= next).run connection).result =
      (work.run connection).result.bind fun value => ((next value).run connection).result := by
  cases ran : work.run connection with
  | mk steps result =>
      cases result with
      | error error => rw [run_bind_error work next connection steps error ran]; rfl
      | ok value => rw [run_bind_ok work next connection steps value ran]; rfl

section Rules

variable {connection} {work : Probing α} {next : α → Probing β} {plan later : List Question}
variable {tells : α → Prop} {further : β → Prop}

theorem asks_bind (first : work.Asks connection plan tells)
    (second : ∀ value, tells value → (next value).Asks connection later further) :
    (work >>= next).Asks connection (plan ++ later) further := by
  unfold Asks
  rw [run_bind_queries, run_bind_result]
  exact Interview.bind connection tells plan _ _ further later _ _ first second

theorem asks_next {question : Question} (first : work.Asks connection [question] tells)
    (second : ∀ value, tells value → (next value).Asks connection later further) :
    (work >>= next).Asks connection (question :: later) further :=
  asks_bind first second

theorem asks_then (first : work.Asks connection plan tells)
    (second : ∀ value, tells value → (next value).Asks connection [] further) :
    (work >>= next).Asks connection plan further := by
  have whole := asks_bind first second
  rwa [List.append_nil] at whole

theorem asks_done {value : α} (told : tells value) : (done value).Asks connection [] tells := .ended value told

theorem asks_logged {event : Log.Event} {value : α} (told : tells value) :
    (log event >>= fun _ => done value).Asks connection [] tells :=
  .ended value told

theorem asks_ask (question : Question) (harmless : question.Harmless connection) :
    (ask question.route question.statement).Asks connection [question] fun answer =>
      answer = connection question.route question.statement :=
  .continued question [] [] _ harmless (.ended _ rfl)

theorem asks_halt (question : Question) (next : Except ExecError (List Row) → Probing β) (error : ProbeError)
    (halts : next (connection question.route question.statement) = stop error)
    (fatal : question.Stops connection error) :
    (ask question.route question.statement >>= next).Asks connection [question] further := by
  unfold Asks
  rw [run_bind_ok _ _ _ _ _ (run_ask _ _ connection), halts]
  exact .stopped question [] error fatal

end Rules

theorem asks_require (question : Question) (strict : ∀ cause, ¬ Excused question.probe cause)
    (optional : question.probe.needsRow = false) :
    (require question.probe question.route question.statement).Asks connection [question] fun rows =>
      connection question.route question.statement = .ok rows := by
  unfold Asks
  cases answer : connection question.route question.statement with
  | error cause =>
      rw [run_require_error _ _ _ _ _ answer]
      refine .stopped question [] _ ?_
      unfold Question.Stops
      rw [answer]
      exact .failed question.probe cause (strict cause)
  | ok rows =>
      rw [run_require_ok _ _ _ _ _ answer]
      exact .continued question [] [] _ (question.answered_harmless connection rows answer optional)
        (.ended rows rfl)

section Reply

variable {connection} {next : List Row → Probing β} {tells : β → Prop} (question : Question)

theorem asks_failure (cause : ExecError) (reply : connection question.route question.statement = .error cause)
    (severe : ¬ Excused question.probe cause) :
    (require question.probe question.route question.statement >>= next).Asks connection [question] tells := by
  unfold Asks
  rw [run_bind_error _ _ _ _ _ (run_require_error _ _ _ _ _ reply)]
  refine .stopped question [] _ ?_
  unfold Question.Stops
  rw [reply]
  exact .failed question.probe cause severe

theorem asks_misreply (rows : List Row) (error : ProbeError)
    (reply : connection question.route question.statement = .ok rows) (halts : next rows = stop error)
    (fatal : Fatal question.probe (.ok rows) error) :
    (require question.probe question.route question.statement >>= next).Asks connection [question] tells := by
  unfold Asks
  rw [run_bind_ok _ _ _ _ _ (run_require_ok _ _ _ _ _ reply), halts]
  refine .stopped question [] error ?_
  unfold Question.Stops
  rwa [reply]

theorem asks_reply (rows : List Row) (value : β)
    (reply : connection question.route question.statement = .ok rows) (ends : next rows = done value)
    (fine : ∀ error, ¬ Fatal question.probe (.ok rows) error) (told : tells value) :
    (require question.probe question.route question.statement >>= next).Asks connection [question] tells := by
  unfold Asks
  rw [run_bind_ok _ _ _ _ _ (run_require_ok _ _ _ _ _ reply), ends]
  refine .continued question [] [] _ ?_ (.ended value told)
  intro error
  unfold Question.Stops
  rw [reply]
  exact fine error

end Reply

end Probing

end ClusterCaps
