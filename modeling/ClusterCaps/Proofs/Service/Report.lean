import ClusterCaps.Proofs.Service.Gate

set_option autoImplicit false

namespace ClusterCaps

namespace Service

def Sign.resets : Sign → Bool
  | .cleared => true
  | .blanked => true
  | .wiped => true
  | .forgot => true
  | _ => false

def Unreset (record : List Sighting) : Prop := ∀ seen ∈ record, seen.sign.resets = false

theorem admitted_published (thread : Nat) (errand : Errand) (record : List Sighting) (unreset : Unreset record)
    (admitted : Admitted thread errand record) : ∃ findings, published? record = some findings := by
  rcases published_or_overlapped thread errand record admitted with known | ⟨_, recent, before, rfl, _, store⟩
  · exact known
  · have wiped : ∃ user, ⟨user, .wiped⟩ ∈ recent ++ ⟨thread, .admitted errand⟩ :: before := by
      rcases store with ⟨user, newer, older, rfl, _⟩ | ⟨user, member⟩
      · exact ⟨user, by simp⟩
      · exact ⟨user, List.mem_append_left _ member⟩
    obtain ⟨user, member⟩ := wiped
    cases unreset ⟨user, .wiped⟩ member

theorem published_kept (recent before : List Sighting) (unreset : Unreset recent) (had : published? before ≠ none) :
    published? (recent ++ before) ≠ none := by
  intro gone
  obtain ⟨user, member⟩ := published_dropped recent before had gone
  cases unreset ⟨user, .wiped⟩ member

theorem skipped_from (record : List Sighting) (sound : Sound record) (unreset : Unreset record)
    (published : published? record ≠ none) :
    ∃ findings, Probed findings record ∧ skippedOf record = findings.skipped := by
  induction record with
  | nil => exact absurd rfl published
  | cons seen earlier ih =>
      obtain ⟨now, before⟩ := List.forall_mem_cons.mp unreset
      obtain ⟨thread, sign⟩ := seen
      cases sign with
      | omitted findings => exact ⟨findings, probed_cons findings _ earlier sound.1, rfl⟩
      | published findings =>
          obtain ⟨probed, _, same⟩ := sound.1
          exact ⟨findings, probed_cons findings _ earlier probed, same⟩
      | cleared => cases now
      | blanked => cases now
      | wiped => cases now
      | forgot => cases now
      | _ =>
          obtain ⟨findings, probed, same⟩ := ih sound.2 before published
          exact ⟨findings, probed_cons findings _ earlier probed, same⟩

theorem steady_from (record : List Sighting) (name : String) (facts : Node.Snapshot) (sound : Sound record)
    (known : steadyOf record name = some facts) :
    ∃ findings snapshot, Probed findings record ∧ (name, snapshot) ∈ findings.snapshots ∧
      snapshot.steady = facts := by
  induction record with
  | nil => cases known
  | cons seen earlier ih =>
      have past : steadyOf earlier name = some facts → ∃ findings snapshot, Probed findings (seen :: earlier) ∧
          (name, snapshot) ∈ findings.snapshots ∧ snapshot.steady = facts := by
        intro before
        obtain ⟨findings, snapshot, probed, member, same⟩ := ih sound.2 before
        exact ⟨findings, snapshot, probed_cons findings seen earlier probed, member, same⟩
      by_cases quiet : seen.sign.renews = false
      · exact past (((quiet_keeps seen earlier quiet).steady name).symm.trans known)
      · obtain ⟨thread, sign⟩ := seen
        cases sign with
        | placed other snapshot =>
            change (((nodesOf earlier).insert other snapshot).lookup name).map Node.Snapshot.steady = some facts at known
            by_cases same : name = other
            · subst same
              rw [NameMap.lookup_insert_self] at known
              obtain ⟨findings, probed, member⟩ := sound.1
              exact ⟨findings, snapshot, probed_cons findings _ earlier probed, member, Option.some.inj known⟩
            · rw [NameMap.lookup_insert_of_ne _ _ _ _ same] at known
              exact past known
        | listed findings =>
            change (((nodesOf earlier).retain findings.names).lookup name).map Node.Snapshot.steady = some facts
              at known
            rw [NameMap.lookup_retain] at known
            split at known
            · exact past known
            · cases known
        | cleared => cases known
        | omitted _ => exact past known
        | published _ => exact past known
        | blanked => exact past known
        | wiped => exact past known
        | forgot => exact past known
        | _ => exact absurd rfl quiet

theorem nodes_from (record : List Sighting) (name : String) (facts : Node.Snapshot) (sound : Sound record)
    (entry : (name, facts) ∈ nodesOf record) :
    ∃ findings snapshot, Probed findings record ∧ (name, snapshot) ∈ findings.snapshots ∧
      snapshot.steady = facts.steady := by
  have distinct := NameMap.ascending_distinct _ (nodes_of_ascending record)
  have looked := (NameMap.lookup_iff_mem _ distinct name facts).mpr entry
  exact steady_from record name facts.steady sound (by rw [steadyOf, looked, Option.map_some])

theorem saw_pass_reads (thread : Nat) (time : Timestamp) (cluster : Cluster) (nodes : NameMap Node.Snapshot)
    (pass? : Option PassId) (record : List Sighting) (saw : SawPass thread time cluster nodes pass? record) :
    ∃ second first before, record = second ++ first ++ ⟨thread, .sawCluster cluster⟩ :: before ∧
      (∀ seen ∈ second ++ first, seen.thread = thread → ∀ other, seen.sign ≠ .sawCluster other) ∧
      nodes = nodesOf (first ++ ⟨thread, .sawCluster cluster⟩ :: before) ∧ cluster = clusterOf before ∧
      Admitted thread (.report time) before := by
  obtain ⟨third, _, rfl, othersThird, second, _, rfl, othersSecond, sameNodes, first, before, rfl, othersFirst,
    sameCluster, admitted⟩ := saw
  refine ⟨third ++ ⟨thread, .sawPass pass?⟩ :: (second ++ [⟨thread, .sawNodes nodes⟩]), first, before, ?_, ?_,
    sameNodes, sameCluster, admitted⟩
  · simp only [List.append_assoc, List.cons_append, List.nil_append]
  · intro seen member own
    simp only [List.append_assoc, List.cons_append, List.nil_append, List.mem_append, List.mem_cons] at member
    rcases member with later | rfl | middle | rfl | earlier
    · exact absurd own (othersThird seen later)
    · exact fun _ => nofun
    · exact absurd own (othersSecond seen middle)
    · exact fun _ => nofun
    · exact absurd own (othersFirst seen earlier)

-- Flags, nodes and skipped names are read at three times since a pass has stored its flags, and no store since.
theorem quiet_reads_show (manager : Manager) (time : Timestamp) (user : Nat) (findings : Findings)
    (first second third older : List Sighting) (sound : Sound (⟨user, .published findings⟩ :: older))
    (quiet : ∀ seen ∈ third ++ (second ++ first), seen.sign.renews = false)
    (cluster : manager.cluster = clusterOf (first ++ ⟨user, .published findings⟩ :: older))
    (nodes : manager.nodes = nodesOf (second ++ first ++ ⟨user, .published findings⟩ :: older))
    (skipped : manager.skipped = skippedOf (third ++ (second ++ first) ++ ⟨user, .published findings⟩ :: older)) :
    (ClusterReport.ofManager manager manager.cluster time).Shows findings := by
  obtain ⟨_, stocked, omitted⟩ := sound.1
  obtain ⟨_, quietNodes⟩ := List.forall_mem_append.mp quiet
  have keepsAll := quiet_stretch _ (⟨user, .published findings⟩ :: older) quiet
  have keepsNodes := quiet_stretch _ (⟨user, .published findings⟩ :: older) quietNodes
  have keepsFlags := quiet_stretch first (⟨user, .published findings⟩ :: older) (List.forall_mem_append.mp quietNodes).2
  refine Manager.Carries.shows manager findings time ?_ ⟨?_, ?_, fun name => ?_⟩
  · rw [nodes]
    exact nodes_of_ascending _
  · rw [cluster, clusterOf, keepsFlags.published]
    rfl
  · exact skipped.trans (keepsAll.skipped.trans omitted)
  · rw [nodes]
    exact (keepsNodes.steady name).trans (stocked name)

-- The flags, the skipped names and every node of a report are those of passes that have succeeded. They are
-- of one pass where its flags were the last store before the report began and nothing is stored while it reads.
theorem report_pieces_from_passes (options : ProbeOptions) (parallelism : Nat) (schedule : List Act) (thread : Nat)
    (time : Timestamp) (report : ClusterReport) (later earlier : List Sighting)
    (answered : ((State.start options parallelism).after schedule).record =
      later ++ ⟨thread, .answered (.report time) (.ok (.report report))⟩ :: earlier)
    (unreset : Unreset ((State.start options parallelism).after schedule).record) :
    ∃ reads before, earlier = reads ++ ⟨thread, .sawCluster report.cluster⟩ :: before ∧
      (∀ seen ∈ reads, seen.thread = thread → ∀ other, seen.sign ≠ .sawCluster other) ∧
      (∃ user findings, ⟨user, .published findings⟩ ∈ before ∧ Probed findings before ∧
        report.cluster = findings.cluster) ∧
      (∃ findings, Probed findings earlier ∧ report.skipped = findings.skipped) ∧
      (∀ node ∈ report.nodes, ∃ findings snapshot, Probed findings earlier ∧
        (node.name, snapshot) ∈ findings.snapshots ∧ snapshot.steady = node.facts.steady) ∧
      ∀ recent user findings older, before = recent ++ ⟨user, .published findings⟩ :: older →
        (∀ seen ∈ reads ++ recent, seen.sign.renews = false) → report.Shows findings := by
  have sound := run_sound options parallelism schedule
  rw [answered] at sound unreset
  obtain ⟨manager, saw, skipped, same⟩ := sound_at later earlier _ sound
  cases same
  obtain ⟨second, first, before, rfl, own, nodes, cluster, admitted⟩ :=
    saw_pass_reads thread time manager.cluster manager.nodes manager.lastPass? earlier saw
  have now := (sound_append later _ sound).2
  have atFirst := sound_append (second ++ first) _ now
  have atSecond : Sound (first ++ ⟨thread, .sawCluster manager.cluster⟩ :: before) := by
    rw [List.append_assoc] at now
    exact sound_append second _ now
  have unresetNow := (List.forall_mem_cons.mp (List.forall_mem_append.mp unreset).2).2
  obtain ⟨unresetReads, unresetFirst⟩ := List.forall_mem_append.mp unresetNow
  obtain ⟨published, known⟩ :=
    admitted_published thread _ before (List.forall_mem_cons.mp unresetFirst).2 admitted
  refine ⟨second ++ first, before, rfl, own, ?_, ?_, ?_, ?_⟩
  · obtain ⟨user, member, probed, same⟩ := published_flags before published atFirst.2 known
    exact ⟨user, published, member, probed, cluster.trans same⟩
  · have kept := published_kept (second ++ first) (⟨thread, .sawCluster manager.cluster⟩ :: before) unresetReads
      (known.trans_ne (Option.some_ne_none published))
    obtain ⟨findings, probed, omitted⟩ := skipped_from _ now unresetNow kept
    exact ⟨findings, probed, skipped.trans omitted⟩
  · intro node member
    obtain ⟨⟨name, facts⟩, entry, rfl⟩ := List.mem_map.mp member
    rw [nodes] at entry
    obtain ⟨findings, snapshot, probed, placed, steady⟩ := nodes_from _ name facts atSecond entry
    refine ⟨findings, snapshot, ?_, placed, steady⟩
    rw [List.append_assoc]
    exact probed_append findings second _ probed
  · rintro recent user findings older rfl quiet
    obtain ⟨quietReads, quietRecent⟩ := List.forall_mem_append.mp quiet
    obtain ⟨quietSecond, quietFirst⟩ := List.forall_mem_append.mp quietReads
    refine quiet_reads_show manager time user findings recent (first ++ [⟨thread, .sawCluster manager.cluster⟩])
      second older (sound_append recent _ atFirst.2) ?_ cluster ?_ ?_
    · simp only [List.forall_mem_append, List.forall_mem_singleton]
      exact ⟨quietSecond, ⟨quietFirst, rfl⟩, quietRecent⟩
    · simpa using nodes
    · simpa using skipped

def reading : Wish := .errand (.report Timestamp.epoch)

def wholeReport : ClusterReport where
  schemaVersion := ClusterReport.currentVersion
  pass? := some ⟨"sc-20260115-143022-a7xq"⟩
  time := Timestamp.epoch
  cluster := oneNode.cluster
  nodes := [⟨"dn-0", .synthetic⟩]
  skipped := []
  config? := none

theorem whole_record :
    ((State.start ⟨false, true, "udf", "udf_functions"⟩ 1).after
        (stint 0 18 (.errand .capabilities) oneNode true ++ stint 1 7 reading oneNode true)).record =
      ⟨1, .answered (.report Timestamp.epoch) (.ok (.report wholeReport))⟩ ::
        ([⟨1, .sawPass (some ⟨"sc-20260115-143022-a7xq"⟩)⟩, ⟨1, .sawNodes [("dn-0", .synthetic)]⟩] ++
          ⟨1, .sawCluster oneNode.cluster⟩ :: ⟨1, .admitted (.report Timestamp.epoch)⟩ :: afterPass oneNode .synthetic) := rfl

theorem undisturbed_report_shows_pass :
    ∃ later earlier report,
      ((State.start ⟨false, true, "udf", "udf_functions"⟩ 1).after
          (stint 0 18 (.errand .capabilities) oneNode true ++ stint 1 7 reading oneNode true)).record =
        later ++ ⟨1, .answered (.report Timestamp.epoch) (.ok (.report report))⟩ :: earlier ∧
      report.Shows oneNode := by
  have unreset : Unreset ((State.start ⟨false, true, "udf", "udf_functions"⟩ 1).after
      (stint 0 18 (.errand .capabilities) oneNode true ++ stint 1 7 reading oneNode true)).record := by
    rw [whole_record]
    simp [Unreset, afterPass, Sign.resets]
  refine ⟨[], _, wholeReport, whole_record, ?_⟩
  obtain ⟨reads, before, whole, own, _, _, _, shows⟩ :=
    report_pieces_from_passes ⟨false, true, "udf", "udf_functions"⟩ 1 _ 1 Timestamp.epoch wholeReport [] _
      whole_record unreset
  obtain ⟨rfl, rfl⟩ := last_place (fun seen => ∃ cluster, seen = ⟨1, .sawCluster cluster⟩) _ reads _ before _ _ whole
    ⟨oneNode.cluster, rfl⟩ ⟨wholeReport.cluster, rfl⟩ (by simp)
    (by rintro seen member ⟨cluster, rfl⟩; exact own _ member rfl cluster rfl)
  exact shows [⟨1, .admitted (.report Timestamp.epoch)⟩, ⟨0, .answered .capabilities (.ok (.cluster oneNode.cluster))⟩,
    ⟨0, .admitted .capabilities⟩] 0 oneNode _ rfl (by simp [Sign.renews])

def wideTopology : Topology where
  nodes := .ok [⟨"dn-0", .sql⟩, ⟨"dn-1", .sql⟩, ⟨"cn-0", .columnar⟩]
  connect _ := .ok (.answering fun _ _ => .ok [])

def twoNodes : Findings :=
  Pass.mockedFindings ⟨true, false⟩ [⟨"dn-0", .sql⟩, ⟨"dn-1", .sql⟩, ⟨"cn-0", .columnar⟩]

def tearingSchedule : List Act :=
  stint 0 18 (.errand .capabilities) oneNode true ++ stint 1 4 reading oneNode true ++
    stint 2 11 .refresh twoNodes true ++ stint 1 3 reading oneNode true

def tornReport : ClusterReport :=
  { wholeReport with nodes := [⟨"dn-0", .synthetic⟩, ⟨"dn-1", .synthetic⟩], skipped := ["cn-0"] }

def beforeTornReport : List Sighting :=
  [⟨1, .sawPass (some ⟨"sc-20260115-143022-a7xq"⟩)⟩, ⟨1, .sawNodes [("dn-0", .synthetic), ("dn-1", .synthetic)]⟩,
    ⟨2, .published twoNodes⟩, ⟨2, .omitted twoNodes⟩, ⟨2, .listed twoNodes⟩, ⟨2, .placed "dn-1" .synthetic⟩,
    ⟨2, .placed "dn-0" .synthetic⟩, ⟨2, .probed (.ok twoNodes)⟩, ⟨1, .sawCluster oneNode.cluster⟩,
    ⟨1, .admitted (.report Timestamp.epoch)⟩] ++ afterPass oneNode .synthetic

set_option maxRecDepth 2000 in
theorem torn_record :
    ((State.start ⟨false, true, "udf", "udf_functions"⟩ 1).after tearingSchedule).record =
      ⟨1, .answered (.report Timestamp.epoch) (.ok (.report tornReport))⟩ :: beforeTornReport := rfl

theorem refresh_tears_report :
    let options : ProbeOptions := ⟨false, true, "udf", "udf_functions"⟩
    let run := ((State.start options 1).after tearingSchedule).record
    (Pass.run quietTopology options 1 ⟨false, false⟩).result = .ok oneNode ∧
      (Pass.run wideTopology options 1 ⟨true, false⟩).result = .ok twoNodes ∧
      run = ⟨1, .answered (.report Timestamp.epoch) (.ok (.report tornReport))⟩ :: beforeTornReport ∧
      Unreset run ∧
      ∀ user findings, ⟨user, .published findings⟩ ∈ run → ¬ tornReport.Shows findings := by
  intro options run
  have first := Pass.run_mocked_result quietTopology options ⟨false, false⟩ [⟨"dn-0", .sql⟩] rfl rfl 1
  have second := Pass.run_mocked_result wideTopology options ⟨true, false⟩
    [⟨"dn-0", .sql⟩, ⟨"dn-1", .sql⟩, ⟨"cn-0", .columnar⟩] rfl rfl 1
  have record : run = ⟨1, .answered (.report Timestamp.epoch) (.ok (.report tornReport))⟩ :: beforeTornReport :=
    torn_record
  refine ⟨first, second, record, ?_, fun user findings member shows => ?_⟩
  · rw [record]
    simp [Unreset, beforeTornReport, afterPass, Sign.resets]
  · rw [record] at member
    have published : findings = twoNodes ∨ findings = oneNode := by
      simp only [beforeTornReport, afterPass, List.mem_cons, List.cons_append, List.nil_append,
        Sighting.mk.injEq, Sign.published.injEq, reduceCtorEq, and_false, false_or, List.not_mem_nil, or_false] at member
      exact member.imp And.right And.right
    rcases published with rfl | rfl
    · exact absurd shows.cluster (by decide)
    · exact absurd shows.skipped (by decide)

end Service

end ClusterCaps
