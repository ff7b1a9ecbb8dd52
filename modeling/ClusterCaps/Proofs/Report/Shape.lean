import ClusterCaps.Proofs.PassId
import ClusterCaps.Proofs.Report.Table
import ClusterCaps.Report.Cluster
import ClusterCaps.Report.Rules
import ClusterCaps.Topology.Transcript

set_option autoImplicit false

namespace ClusterCaps

namespace Report

theorem of_nat_unbroken (value : Nat) : Unbroken (Text.ofNat value) :=
  fun broken => absurd (Text.digit_of_nat value '\n' broken) (by decide)

theorem of_int_unbroken (value : Int) : Unbroken (Text.ofInt value) := by
  unfold Text.ofInt
  split
  · exact (unbroken_append _ _).mpr ⟨by decide, of_nat_unbroken _⟩
  · exact of_nat_unbroken _

theorem yes_no_plain (value : Bool) : Plain (yesNo value) := by cases value <;> decide

theorem flag_table_length (flags : List (String × Bool)) : (flagTable flags).length = flags.length + 2 := by
  simp [flagTable, tableLines]

theorem flag_table_meets (flags : List (String × Bool)) (plain : ∀ flag ∈ flags, Plain flag.1) :
    Meets (tablePlan 2 flags.length) (flagTable flags) := by
  have heading : ∀ cell ∈ ["Capability", "Supported"], Plain cell := by decide
  have table := meets_table _ (flags.map fun flag => [flag.1, yesNo flag.2]) (List.cons_ne_nil _ _) heading
    (List.forall_mem_map.mpr fun _ _ => rfl)
  rw [List.length_map] at table
  refine table.mpr (List.forall_mem_map.mpr fun flag member => ?_)
  exact List.forall_mem_cons.mpr ⟨plain flag member, List.forall_mem_singleton.mpr (yes_no_plain flag.2)⟩

end Report

open Report

theorem Engine.text_plain (engine : Engine) : Plain engine.text := by cases engine <;> decide

theorem Capability.name_plain (capability : Capability) : Plain capability.name := by
  cases capability <;> simp [plain_iff, Unbroken, name]

namespace NodeReport

def plan : List Slot := List.replicate 6 .prose ++ tablePlan 2 16

theorem flags_plain (node : Node.Snapshot) : ∀ flag ∈ node.flags, Plain flag.1 := by
  simp [Node.Snapshot.flags, plain_iff, Unbroken]

theorem summary_shaped_iff (report : NodeReport) :
    Shaped [.prose] (report.render .summary) ↔ Unbroken report.name ∧ Unbroken report.facts.version := by
  have last := (yes_no_plain report.facts.distributedTx).unbroken
  have some : yesNo report.facts.distributedTx ≠ "" := by cases report.facts.distributedTx <;> decide
  have words : Unbroken ": version=" ∧ Unbroken " engine=" ∧ Unbroken " legacy=" ∧ Unbroken " distributed_tx=" := by
    simp [Unbroken]
  rw [render, summary, single_line_iff _ _ some last]
  simp only [unbroken_append, words, (Engine.text_plain _).unbroken, (yes_no_plain _).unbroken, and_true]

theorem markdown_shaped_iff (report : NodeReport) :
    Shaped plan (report.render .markdown) ↔ Unbroken report.name ∧ Unbroken report.facts.version := by
  have flags : Meets (tablePlan 2 16) (flagTable report.facts.flags) := flag_table_meets _ (flags_plain report.facts)
  have same : plan.length = report.markdownLines.length := by
    simp [plan, tablePlan, markdownLines, flag_table_length, Node.Snapshot.flags]
  rw [render, shaped_iff_meets _ _ same, plan, markdownLines, meets_append _ _ _ _ rfl, meets_prose 6 _ rfl]
  simp only [flags, and_true, List.forall_mem_cons, List.not_mem_nil, false_implies, implies_true, unbroken_append,
    of_int_unbroken, (Engine.text_plain _).unbroken]
  have words : Unbroken "# Node " ∧ Unbroken "" ∧ Unbroken "Version: " ∧ Unbroken "Engine: " ∧
      Unbroken "lower_case_table_names: " := by simp [Unbroken]
  simp only [words, true_and, and_true]

theorem cells_plain_iff (report : NodeReport) :
    (∀ cell ∈ report.cells, Plain cell) ↔ Plain report.name ∧ Plain report.facts.version := by
  simp only [cells, List.forall_mem_cons, List.not_mem_nil, false_implies, implies_true, Engine.text_plain,
    yes_no_plain, and_true]

end NodeReport

namespace Report

def rulesPlan (rules : List Rule.Description) : List Slot := tablePlan 5 rules.length

theorem rule_cells_plain_iff (rule : Rule.Description) :
    (∀ cell ∈ ruleCells rule, Plain cell) ↔ Plain rule.condition := by
  have fold : Plain (foldWord rule.fold) := by cases rule.fold <;> decide
  have override : Plain rule.override.text := by cases rule.override <;> simp [plain_iff, Unbroken, Override.text]
  simp only [ruleCells, List.forall_mem_cons, List.not_mem_nil, false_implies, implies_true,
    rule.capability.name_plain, fold, override, yes_no_plain, true_and, and_true]

theorem descriptions_plain : ∀ rule ∈ Rule.descriptions, Plain rule.condition := by
  simp [Rule.descriptions, Rule.all, Rule.describe, plain_iff, Unbroken]

theorem rules_summary_shaped (rules : List Rule.Description) : Shaped [.prose] (renderRules rules .summary) := by
  have words : Unbroken " rules, " := by decide
  rw [renderRules, rulesSummary, single_line_iff _ _ (by decide) (by decide)]
  simp only [unbroken_append, of_nat_unbroken, words, and_self]

theorem rules_markdown_shaped_iff (rules : List Rule.Description) :
    Shaped (rulesPlan rules) (renderRules rules .markdown) ↔ ∀ rule ∈ rules, Plain rule.condition := by
  have heading : ∀ cell ∈ ["Capability", "Node condition", "Fold", "Override", "Published"], Plain cell := by
    simp [plain_iff, Unbroken]
  have table := meets_table _ (rules.map ruleCells) (List.cons_ne_nil _ _) heading
    (List.forall_mem_map.mpr fun _ _ => rfl)
  rw [List.length_map, List.forall_mem_map] at table
  rw [renderRules, rulesMarkdown, shaped_iff_meets _ _ (by simp [rulesPlan, tablePlan, tableLines]), rulesPlan]
  exact table.trans (forall₂_congr fun rule _ => rule_cells_plain_iff rule)

end Report

namespace ClusterReport

def skippedPlan (report : ClusterReport) : List Slot := if report.skipped.isEmpty then [] else [.prose]

def nodesPlan (report : ClusterReport) : List Slot :=
  if report.nodes.isEmpty then [] else List.replicate 3 .prose ++ tablePlan 5 report.nodes.length

def configPlan (report : ClusterReport) : List Slot :=
  match report.config? with
  | none => []
  | some _ => List.replicate 2 .prose

def plan (report : ClusterReport) : List Slot :=
  List.replicate 4 .prose ++ report.skippedPlan ++ List.replicate 3 .prose ++ tablePlan 2 15 ++ report.nodesPlan ++
    report.configPlan

theorem flags_plain (cluster : Cluster) : ∀ flag ∈ cluster.flags, Plain flag.1 := by
  intro flag member
  rcases List.mem_append.mp member with listed | alone
  · obtain ⟨rule, _, told⟩ := List.mem_filterMap.mp listed
    obtain ⟨value, _, rfl⟩ := Option.map_eq_some_iff.mp told
    exact rule.capability.name_plain
  · rw [List.mem_singleton.mp alone]
    simp [plain_iff, Unbroken]

def enabledText (report : ClusterReport) : String :=
  let enabled := (report.cluster.flags.filter (·.2)).map (·.1)
  if enabled.isEmpty then "none" else Text.joined "," enabled

theorem enabled_unbroken (report : ClusterReport) : Unbroken report.enabledText := by
  have names : ∀ name ∈ (report.cluster.flags.filter (·.2)).map (·.1), Unbroken name := by
    refine List.forall_mem_map.mpr fun flag member => ?_
    exact (flags_plain report.cluster flag (List.mem_of_mem_filter member)).unbroken
  unfold enabledText
  dsimp only
  split
  · decide
  · exact (unbroken_joined "," (by decide) _).mpr names

theorem summary_shaped_iff (report : ClusterReport) :
    Shaped [.prose] (report.render .summary) ↔ Unbroken report.passText := by
  have parts : report.summary = "[" ++ report.passText ++ "] probe: " ++ Text.ofNat report.nodes.length ++ " nodes, " ++
      Text.ofNat report.skipped.length ++ (" skipped; enabled: " ++ report.enabledText) := by
    rw [← String.append_assoc]
    rfl
  have last : Unbroken (" skipped; enabled: " ++ report.enabledText) :=
    (unbroken_append _ _).mpr ⟨by decide, report.enabled_unbroken⟩
  have words : Unbroken "[" ∧ Unbroken "] probe: " ∧ Unbroken " nodes, " := by decide
  rw [render, parts, single_line_iff _ _ (by simp) last]
  simp only [unbroken_append, of_nat_unbroken, words, true_and, and_true]

theorem skipped_meets_iff (report : ClusterReport) :
    Meets report.skippedPlan report.skippedLines ↔ ∀ name ∈ report.skipped, Unbroken name := by
  unfold skippedPlan skippedLines
  cases report.skipped with
  | nil => simp [meets_nil]
  | cons first rest =>
      change Meets (List.replicate 1 .prose) ["Skipped: " ++ Text.joined ", " (first :: rest)] ↔ _
      rw [meets_prose 1 _ rfl, List.forall_mem_singleton, unbroken_append, unbroken_joined ", " (by decide)]
      exact and_iff_right (by decide)

theorem nodes_meets_iff (report : ClusterReport) :
    Meets report.nodesPlan report.nodeLines ↔
      ∀ node ∈ report.nodes, Plain node.name ∧ Plain node.facts.version := by
  have heading : ∀ cell ∈ ["Node", "Version", "Engine", "Legacy", "Distributed TX"], Plain cell := by
    simp [plain_iff, Unbroken]
  have table := meets_table _ (report.nodes.map NodeReport.cells) (List.cons_ne_nil _ _) heading
    (List.forall_mem_map.mpr fun _ _ => rfl)
  have above : Meets (List.replicate 3 .prose) ["", "## Nodes", ""] := (meets_prose 3 _ rfl).mpr (by decide)
  rw [List.length_map, List.forall_mem_map] at table
  simp only [NodeReport.cells_plain_iff] at table
  unfold nodesPlan nodeLines
  split
  · next none => simp [meets_nil, List.isEmpty_iff.mp none]
  · rw [meets_append _ _ _ _ rfl]
    exact (and_iff_right above).trans table

theorem config_meets_iff (report : ClusterReport) :
    Meets report.configPlan report.configLines ↔
      ∀ snapshot ∈ report.config?, Unbroken (snapshot.path?.getD "built-in defaults") ∧ Unbroken snapshot.source := by
  unfold configPlan configLines
  cases report.config? with
  | none => simp [meets_nil]
  | some snapshot =>
      have words : Unbroken "" ∧ Unbroken "Config: " ∧ Unbroken " (" ∧ Unbroken ")" := by simp [Unbroken]
      rw [meets_prose 2 _ rfl]
      simp only [List.forall_mem_cons, List.not_mem_nil, false_implies, implies_true, unbroken_append, words, true_and,
        and_true, Option.mem_def, Option.some.injEq, forall_eq']

theorem plan_lengths (report : ClusterReport) :
    report.skippedPlan.length = report.skippedLines.length ∧ report.nodesPlan.length = report.nodeLines.length ∧
      report.configPlan.length = report.configLines.length := by
  refine ⟨?_, ?_, ?_⟩
  · unfold skippedPlan skippedLines
    split <;> rfl
  · unfold nodesPlan nodeLines
    split
    · rfl
    · simp [tablePlan, tableLines]
  · unfold configPlan configLines
    cases report.config? <;> rfl

-- What a report says of its pass, the nodes that were passed over and the configuration stands outside of tables,
-- where bars do no harm.
structure Legible (report : ClusterReport) : Prop where
  pass : Unbroken report.passText
  skipped : ∀ name ∈ report.skipped, Unbroken name
  nodes : ∀ node ∈ report.nodes, Plain node.name ∧ Plain node.facts.version
  config : ∀ snapshot ∈ report.config?,
    Unbroken (snapshot.path?.getD "built-in defaults") ∧ Unbroken snapshot.source

theorem head_meets_iff (report : ClusterReport) :
    Meets (List.replicate 4 .prose) ["# sc-core probe", "", "Pass: " ++ report.passText,
      "Nodes: " ++ Text.ofNat report.nodes.length] ↔ Unbroken report.passText := by
  have words : Unbroken "# sc-core probe" ∧ Unbroken "" ∧ Unbroken "Pass: " ∧ Unbroken "Nodes: " := by
    simp [Unbroken]
  rw [meets_prose 4 _ rfl]
  simp only [List.forall_mem_cons, List.not_mem_nil, false_implies, implies_true, unbroken_append, of_nat_unbroken,
    words, true_and, and_true]

theorem markdown_shaped_iff (report : ClusterReport) :
    Shaped report.plan (report.render .markdown) ↔ report.Legible := by
  obtain ⟨skipped, nodes, config⟩ := report.plan_lengths
  have flags : Meets (tablePlan 2 15) (flagTable report.cluster.flags) :=
    flag_table_meets _ (flags_plain report.cluster)
  have between : Meets (List.replicate 3 .prose) ["", "## Cluster", ""] := (meets_prose 3 _ rfl).mpr (by decide)
  have table : (tablePlan 2 15).length = (flagTable report.cluster.flags).length := by
    rw [flag_table_length]
    rfl
  have parts : Meets report.plan report.markdownLines ↔ report.Legible := by
    unfold plan markdownLines
    rw [meets_append _ _ _ _ (by simp [skipped, nodes, table]), meets_append _ _ _ _ (by simp [skipped, table]),
      meets_append _ _ _ _ (by simp [skipped]), meets_append _ _ _ _ (by simp [skipped]), meets_append _ _ _ _ rfl,
      head_meets_iff, skipped_meets_iff, nodes_meets_iff, config_meets_iff]
    constructor
    · rintro ⟨⟨⟨⟨⟨pass, passedOver⟩, _⟩, _⟩, rows⟩, origin⟩
      exact ⟨pass, passedOver, rows, origin⟩
    · rintro ⟨pass, passedOver, rows, origin⟩
      exact ⟨⟨⟨⟨⟨pass, passedOver⟩, between⟩, flags⟩, rows⟩, origin⟩
  rw [render, shaped_iff_meets _ _ (by simp [plan, markdownLines, skipped, nodes, config, table]), parts]

theorem pass_unbroken (report : ClusterReport) (named : ∀ id ∈ report.pass?, PassId.Written id.text.toList) :
    Unbroken report.passText := by
  unfold passText
  split
  · next id known =>
      obtain ⟨date, clock, suffix, text, ⟨_, digits⟩, ⟨_, moreDigits⟩, ⟨_, letters⟩⟩ := named id known
      rw [Unbroken, text, PassId.compose]
      simp only [List.mem_append, List.mem_cons, not_or]
      exact ⟨⟨by decide, fun broken => absurd (digits _ broken) (by decide)⟩, by decide,
        fun broken => absurd (moreDigits _ broken) (by decide), by decide,
        fun broken => absurd (letters _ broken) (by decide)⟩
  · decide

end ClusterReport

namespace Report

-- Nothing is done about line breaks and bars in the texts that go into a report. A summary is a single line if and
-- only if its texts have no line break. A table has a line for every row, and every row a cell for every column, if
-- and only if no text in a cell has a line break or a bar and no text beside the table has a line break.
theorem reports_shaped_iff_texts_plain (report : ClusterReport) (node : NodeReport) (rules : List Rule.Description) :
    ((∀ id ∈ report.pass?, PassId.Written id.text.toList) → Unbroken report.passText) ∧
      (Shaped [.prose] (report.render .summary) ↔ Unbroken report.passText) ∧
      (Shaped report.plan (report.render .markdown) ↔ report.Legible) ∧
      (Shaped [.prose] (node.render .summary) ↔ Unbroken node.name ∧ Unbroken node.facts.version) ∧
      (Shaped NodeReport.plan (node.render .markdown) ↔ Unbroken node.name ∧ Unbroken node.facts.version) ∧
      Shaped [.prose] (renderRules rules .summary) ∧
      (Shaped (rulesPlan rules) (renderRules rules .markdown) ↔ ∀ rule ∈ rules, Plain rule.condition) :=
  ⟨report.pass_unbroken, report.summary_shaped_iff, report.markdown_shaped_iff, node.summary_shaped_iff,
    node.markdown_shaped_iff, rules_summary_shaped rules, rules_markdown_shaped_iff rules⟩

theorem reports_shaped_of_plain_nodes :
    let node : NodeReport := ⟨"dn-0", { version := "8.0.32" }⟩
    let report : ClusterReport :=
      { schemaVersion := ClusterReport.currentVersion, pass? := some ⟨"sc-20260115-143022-a7xq"⟩,
        time := Timestamp.epoch, cluster := Cluster.nothing, nodes := [node, ⟨"dn 1", { version := "" }⟩],
        skipped := ["col|0"], config? := none }
    (∀ id ∈ report.pass?, PassId.Written id.text.toList) ∧ Shaped [.prose] (report.render .summary) ∧
      Shaped report.plan (report.render .markdown) ∧ Shaped [.prose] (node.render .summary) ∧
      Shaped NodeReport.plan (node.render .markdown) ∧
      Shaped (rulesPlan Rule.descriptions) (renderRules Rule.descriptions .markdown) := by
  intro node report
  obtain ⟨pass, summary, markdown, nodeSummary, nodeMarkdown, _, rules⟩ :=
    reports_shaped_iff_texts_plain report node Rule.descriptions
  have named : ∀ id ∈ report.pass?, PassId.Written id.text.toList := by
    rintro id known
    cases known
    exact (PassId.parse_iff "sc-20260115-143022-a7xq").mp (by decide +kernel)
  have texts : Unbroken node.name ∧ Unbroken node.facts.version := by decide
  refine ⟨named, summary.mpr (pass named), markdown.mpr ⟨pass named, ?_, ?_, nofun⟩, nodeSummary.mpr texts,
    nodeMarkdown.mpr texts, rules.mpr descriptions_plain⟩
  · decide
  · decide

theorem accepted_texts_break_reports :
    let version := "8.0.32 | nightly"
    let profile : Profile :=
      { name := "dn-0\nspare", version? := some version, nativeProcedures? := some [], mdlPrivilege := true }
    let rule : Rule.Description := { (Rule.of .returning).describe with condition := "ON | 1" }
    let node : NodeReport := ⟨profile.name, { version }⟩
    let report : ClusterReport :=
      { schemaVersion := ClusterReport.currentVersion, pass? := none, time := Timestamp.epoch,
        cluster := Cluster.nothing, nodes := [node], skipped := [], config? := none }
    Transcript.ofProfiles [profile] = .ok ⟨[profile]⟩ ∧
      (Check.version.run profile.connection).result = .ok version ∧
      Rule.Description.decode .json (Data.ofJson rule.toJson) = some rule ∧
      ¬ Shaped [.prose] (node.render .summary) ∧ ¬ Shaped report.plan (report.render .markdown) ∧
      ¬ Shaped (rulesPlan [rule]) (renderRules [rule] .markdown) := by
  intro version profile rule node report
  refine ⟨by decide +kernel, rfl, rfl, fun shaped => ?_, fun shaped => ?_, fun shaped => ?_⟩
  · exact absurd (node.summary_shaped_iff.mp shaped).1 (by decide)
  · exact absurd (report.markdown_shaped_iff.mp shaped).nodes (by decide)
  · exact absurd ((rules_markdown_shaped_iff [rule]).mp shaped) (by decide)

end Report

end ClusterCaps
