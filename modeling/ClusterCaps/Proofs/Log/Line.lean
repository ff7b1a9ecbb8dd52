import ClusterCaps.Log.Line
import ClusterCaps.Proofs.NameMap

set_option autoImplicit false

namespace ClusterCaps.Log

-- The value that stays for a key: of several the last.
def Recorded (fields : Fields) (key : String) (value : Value) : Prop :=
  ∃ before after, fields = before ++ (key, value) :: after ∧ key ∉ after.map Prod.fst

def Unrecorded (fields : Fields) (key : String) : Prop := key ∉ fields.map Prod.fst

-- A key is recorded in a written form only, as a text or by printing a value.
def Event.Writes (event : Event) (key : String) : Prop :=
  ∀ value, (key, value) ∈ event.fields → ∃ text, value = .text text

inductive Represents : Value → Json → Prop where
  | text (value : String) : Represents (.text value) (.string value)
  | int (value : Int) : Represents (.int value) (.number (.int value))
  | bool (value : Bool) : Represents (.bool value) (.bool value)
  | float (value : Binary64) (finite : value.isFinite = true) :
      Represents (.float value) (.number (.float value))

def Kept (fields : Fields) (key : String) (json : Json) : Prop :=
  ∃ before value after, fields = before ++ (key, value) :: after ∧ Represents value json ∧
    ∀ later, (key, later) ∈ after → ∀ other, ¬ Represents later other

-- Where a line has the value of a key from: the event, or else the innermost span that records it.
inductive Correlates (spans : List Span) (event : Event) (key : String) : Option String → Prop where
  | own (value : Value) (recorded : Recorded event.fields key value) : Correlates spans event key (some value.shown)
  | span (outer inner : List Span) (span : Span) (value : Value) (within : spans = outer ++ span :: inner)
      (silent : Unrecorded event.fields key) (passed : ∀ later ∈ inner, Unrecorded later.fields key)
      (recorded : Recorded span.fields key value) : Correlates spans event key (some value.shown)
  | nowhere (silent : Unrecorded event.fields key) (passed : ∀ span ∈ spans, Unrecorded span.fields key) :
      Correlates spans event key none

theorem passed_iff (fields : Fields) (key : String) :
    (∀ field ∈ fields, (key != field.1) = true) ↔ Unrecorded fields key := by
  constructor
  · intro passed member
    obtain ⟨field, listed, rfl⟩ := List.mem_map.mp member
    simpa using passed field listed
  · intro silent field listed
    rw [bne_iff_ne]
    rintro rfl
    exact silent (List.mem_map_of_mem listed)

theorem recorded_iff (fields : Fields) (key : String) (value : Value) :
    fields.reverse.lookup key = some value ↔ Recorded fields key value := by
  simp only [List.lookup_eq_some_iff, passed_iff]
  constructor
  · rintro ⟨back, front, parts, passed⟩
    refine ⟨front.reverse, back.reverse, ?_, by simpa [Unrecorded] using passed⟩
    rw [← fields.reverse_reverse, parts]
    simp
  · rintro ⟨before, after, rfl, passed⟩
    exact ⟨after.reverse, before.reverse, by simp, by simpa [Unrecorded] using passed⟩

theorem unrecorded_iff (fields : Fields) (key : String) :
    fields.reverse.lookup key = none ↔ Unrecorded fields key := by
  rw [NameMap.lookup_none_iff, List.map_reverse, List.mem_reverse, Unrecorded]

section Recorded

variable {fields : Fields} {spans : List Span} {event : Event} {key : String} {value : Value}

theorem Recorded.not_unrecorded (recorded : Recorded fields key value) : ¬ Unrecorded fields key := by
  obtain ⟨before, after, rfl, -⟩ := recorded
  simp [Unrecorded]

theorem Correlates.of_recorded {text? : Option String} (correlates : Correlates spans event key text?)
    (recorded : Recorded event.fields key value) : text? = some value.shown := by
  cases correlates with
  | own other also =>
      have same := ((recorded_iff _ _ _).mpr also).symm.trans ((recorded_iff _ _ _).mpr recorded)
      rw [Option.some.inj same]
  | span _ _ _ _ _ silent => exact absurd silent recorded.not_unrecorded
  | nowhere silent => exact absurd silent recorded.not_unrecorded

end Recorded

theorem represents_iff (value : Value) (json : Json) : value.toJson? = some json ↔ Represents value json := by
  constructor
  · intro written
    cases value with
    | text value => cases written; exact .text value
    | int value => cases written; exact .int value
    | bool value => cases written; exact .bool value
    | float value =>
        by_cases finite : value.isFinite = true
        · simp only [Value.toJson?, Json.float, finite, if_true, Option.some.injEq] at written
          subst written
          exact .float value finite
        · simp [Value.toJson?, finite] at written
  · intro represents
    cases represents with
    | text value => rfl
    | int value => rfl
    | bool value => rfl
    | float value finite => simp [Value.toJson?, Json.float, finite]

theorem written_lookup (key : String) (fields : Fields)
    (written : ∀ value, (key, value) ∈ fields → ∃ text, value = .text text) :
    (fields.filter fun field => field.1 == key).findSome? (fun field => field.2.text?) =
      (fields.lookup key).map Value.shown := by
  induction fields with
  | nil => rfl
  | cons field rest ih =>
      obtain ⟨name, value⟩ := field
      by_cases same : name = key
      · subst same
        obtain ⟨text, rfl⟩ := written value List.mem_cons_self
        simp [Value.text?, Value.shown]
      · have other : (key == name) = false := by simpa using Ne.symm same
        rw [List.filter_cons_of_neg (by simpa using same), List.lookup_cons, other]
        exact ih fun value listed => written value (List.mem_cons_of_mem _ listed)

theorem text_of_written (event : Event) (key : String) (written : event.Writes key) :
    textOf? event.fields key = (event.fields.reverse.lookup key).map Value.shown := by
  rw [textOf?, ← List.filter_reverse]
  exact written_lookup key _ fun value listed => written value (List.mem_reverse.mp listed)

theorem correlated (spans : List Span) (event : Event) (key : String) (written : event.Writes key) :
    Correlates spans event key (correlated? spans event key) := by
  rw [correlated?, text_of_written event key written]
  cases own : event.fields.reverse.lookup key with
  | some value => exact .own value ((recorded_iff _ _ _).mp own)
  | none =>
      have silent := (unrecorded_iff _ _).mp own
      change Correlates spans event key (ofSpans? spans key)
      cases inSpans : ofSpans? spans key with
      | none =>
          rw [ofSpans?, List.findSome?_eq_none_iff] at inSpans
          refine .nowhere silent fun span listed => (unrecorded_iff _ _).mp ?_
          exact Option.map_eq_none_iff.mp (inSpans span (List.mem_reverse.mpr listed))
      | some text =>
          rw [ofSpans?, List.findSome?_eq_some_iff] at inSpans
          obtain ⟨inner, span, outer, parts, shown, passed⟩ := inSpans
          obtain ⟨value, found, rfl⟩ := Option.map_eq_some_iff.mp shown
          have within : spans = outer.reverse ++ span :: inner.reverse := by
            rw [← spans.reverse_reverse, parts]
            simp
          refine .span outer.reverse inner.reverse span value within silent (fun later listed => ?_)
            ((recorded_iff _ _ _).mp found)
          exact (unrecorded_iff _ _).mp (Option.map_eq_none_iff.mp (passed later (List.mem_reverse.mp listed)))

def placed? (key : String) (field : String × Value) : Option Json :=
  if field.1 = key ∧ isOrdinary field = true then field.2.toJson? else none

theorem ordinary_entries (key : String) (fields : Fields) :
    ((fields.filter isOrdinary).filterMap fun field => field.2.toJson?.map fun value => (field.1, value)).reverse.lookup
      key = fields.reverse.findSome? (placed? key) := by
  rw [← List.filterMap_reverse, ← List.filter_reverse]
  generalize fields.reverse = fields
  induction fields with
  | nil => rfl
  | cons field rest ih =>
      obtain ⟨name, value⟩ := field
      by_cases ordinary : isOrdinary (name, value) = true
      · rw [List.filter_cons_of_pos ordinary, List.findSome?_cons]
        by_cases same : name = key
        · subst same
          cases json : value.toJson? with
          | none => simpa [placed?, ordinary, json] using ih
          | some json => simp [placed?, ordinary, json]
        · have other : (key == name) = false := by simpa using Ne.symm same
          cases json : value.toJson? with
          | none => simpa [placed?, same, json] using ih
          | some json => simpa [placed?, same, json, List.lookup_cons, other] using ih
      · rw [List.filter_cons_of_neg ordinary, ih, List.findSome?_cons]
        simp [placed?, ordinary]

theorem ordinary_lookup (fields : Fields) (key : String) :
    (ordinaryFields fields).lookup key = fields.reverse.findSome? (placed? key) := by
  rw [ordinaryFields, NameMap.ofList, NameMap.lookup_insert_all_last, ordinary_entries]
  exact Option.or_none

theorem ordinary_kept_iff (fields : Fields) (key : String) (json : Json) (free : key ∉ reservedKeys) :
    (ordinaryFields fields).lookup key = some json ↔ Kept fields key json := by
  have placed (value : Value) : placed? key (key, value) = value.toJson? := by
    simp [placed?, isOrdinary, free]
  rw [ordinary_lookup, List.findSome?_eq_some_iff]
  constructor
  · rintro ⟨back, ⟨name, value⟩, front, parts, written, passed⟩
    have same : name = key := Decidable.byContradiction fun other => by simp [placed?, other] at written
    subst same
    rw [placed] at written
    refine ⟨front.reverse, value, back.reverse, ?_, (represents_iff value json).mp written, ?_⟩
    · rw [← fields.reverse_reverse, parts]
      simp
    · intro later listed other represents
      have none := passed _ (List.mem_reverse.mp listed)
      rw [placed, (represents_iff later other).mpr represents] at none
      cases none
  · rintro ⟨before, value, after, rfl, represents, unheld⟩
    refine ⟨after.reverse, (key, value), before.reverse, by simp, ?_, ?_⟩
    · rw [placed, (represents_iff value json).mpr represents]
    · rintro ⟨name, later⟩ listed
      by_cases same : name = key
      · subst same
        rw [placed]
        cases other : later.toJson? with
        | none => rfl
        | some other =>
            exact absurd ((represents_iff later _).mp other) (unheld later (List.mem_reverse.mp listed) _)
      · simp [placed?, same]

theorem reserved_not_ordinary (event : Event) (key : String) (reserved : key ∈ reservedKeys)
    (written : event.Writes key) : (ordinaryFields event.fields).lookup key = none := by
  rw [ordinary_lookup, List.findSome?_eq_none_iff]
  rintro ⟨name, value⟩ listed
  by_cases same : name = key
  · subst same
    obtain ⟨text, rfl⟩ := written value (List.mem_reverse.mp listed)
    simp [placed?, isOrdinary, reserved, Value.text?]
  · simp [placed?, same]

theorem ordinary_ascending (fields : Fields) : NameMap.Ascending (ordinaryFields fields) :=
  NameMap.insert_all_ascending [] _ List.Pairwise.nil

structure Line.Shows (line : Line) (spans : List Span) (event : Event) : Prop where
  correlated : ∀ entry ∈ [("pass_id", line.pass?), ("stage", line.stage?), ("node", line.node?)],
    event.Writes entry.1 → Correlates spans event entry.1 entry.2
  ascending : NameMap.Ascending line.fields
  kept : ∀ key, key ∉ reservedKeys → ∀ json, line.fields.lookup key = some json ↔ Kept event.fields key json
  reserved : ∀ key ∈ reservedKeys, event.Writes key → line.fields.lookup key = none

-- An event is told apart from its correlation by keys, and JSON has no value for a double that is not
-- finite. Such a field is missing from the line.
theorem line_shows_event (time : Timestamp) (spans : List Span) (event : Event) :
    (Line.ofEvent time spans event).Shows spans event where
  correlated := by
    simp only [List.forall_mem_cons]
    exact ⟨correlated spans event "pass_id", correlated spans event "stage", correlated spans event "node",
      List.forall_mem_nil _⟩
  ascending := ordinary_ascending event.fields
  kept key free json := ordinary_kept_iff event.fields key json free
  reserved key reserved written := reserved_not_ordinary event key reserved written

def publishing : Event :=
  ⟨.info, "sc_core", [("event", .text "cluster.folded"), ("stage", .text "publish"), ("nodes", .int 3),
    ("ratio", .float ⟨0x3FE0000000000000⟩)]⟩

def passSpanWithStage : Span :=
  ⟨"pass", "sc_core", .info, [("pass_id", .text "sc-1"), ("stage", .text "probe"), ("node", .text "all")]⟩

def nodeSpan : Span := ⟨"node", "sc_core", .info, [("node", .text "dn-2")]⟩

theorem publishing_line_shown :
    let spans := [passSpanWithStage, nodeSpan]
    let line := Line.ofEvent ⟨0, 0⟩ spans publishing
    (∀ key ∈ ["pass_id", "stage", "node"], publishing.Writes key) ∧
      Correlates spans publishing "pass_id" line.pass? ∧ Correlates spans publishing "stage" line.stage? ∧
      Correlates spans publishing "node" line.node? ∧ line.fields.lookup "stage" = none ∧
      Kept publishing.fields "nodes" (.nat 3) := by
  intro spans line
  have shows : line.Shows spans publishing := line_shows_event ⟨0, 0⟩ spans publishing
  have writes : ∀ key ∈ ["pass_id", "stage", "node"], publishing.Writes key := by
    simp [Event.Writes, publishing]
  have correlated := shows.correlated
  simp only [List.forall_mem_cons] at correlated writes
  obtain ⟨pass, stage, node, -⟩ := correlated
  obtain ⟨passWritten, stageWritten, nodeWritten, -⟩ := writes
  refine ⟨by simp [passWritten, stageWritten, nodeWritten], pass passWritten, stage stageWritten, node nodeWritten,
    shows.reserved "stage" (by decide) stageWritten, ?_⟩
  exact (shows.kept "nodes" (by decide) _).mp rfl

def untold : Event := ⟨.info, "sc_core", [("ratio", .float Binary64.nan), ("node", .bool true)]⟩

theorem untold_values_lost :
    let line := Line.ofEvent ⟨0, 0⟩ [nodeSpan] untold
    Recorded untold.fields "ratio" (.float Binary64.nan) ∧ "ratio" ∉ line.fields.map Prod.fst ∧
      ¬ Correlates [nodeSpan] untold "node" line.node? := by
  intro line
  have node : line.node? = some "dn-2" := rfl
  have recorded : Recorded untold.fields "node" (.bool true) :=
    ⟨[("ratio", .float Binary64.nan)], [], rfl, by decide⟩
  refine ⟨⟨[], [("node", .bool true)], rfl, by decide⟩, by decide +kernel, fun correlates => ?_⟩
  have same := node.symm.trans (correlates.of_recorded recorded)
  revert same
  decide

end ClusterCaps.Log
