import ClusterCaps.Proofs.Manager.Synthetic
import ClusterCaps.Proofs.Service.Gate

set_option autoImplicit false

namespace ClusterCaps

namespace Service

def Sign.touches (name : String) : Sign → Bool
  | .placed other _ => other == name
  | .beat other _ _ => other == name
  | _ => false

-- No reset takes nodes away, and no pass leaves this one out.
structure Standing (name : String) (record : List Sighting) : Prop where
  uncleared : ∀ seen ∈ record, seen.sign ≠ .cleared
  listed : ∀ seen ∈ record, ∀ findings, seen.sign = .listed findings → name ∈ findings.names

theorem standing_subset (name : String) (part whole : List Sighting) (subset : part ⊆ whole)
    (standing : Standing name whole) : Standing name part :=
  ⟨fun seen member => standing.uncleared seen (subset member),
    fun seen member => standing.listed seen (subset member)⟩

theorem beat_lookup (thread : Nat) (name : String) (edition : Nat) (supported : Bool) (record : List Sighting) :
    (nodesOf (⟨thread, .beat name edition supported⟩ :: record)).lookup name =
      if editions name record = edition then
        ((nodesOf record).lookup name).map fun snapshot => { snapshot with heartbeat := supported }
      else (nodesOf record).lookup name := by
  change (if editions name record = edition then withBeat (nodesOf record) name supported
    else nodesOf record).lookup name = _
  split
  · exact lookup_with_beat (nodesOf record) name supported
  · rfl

theorem beat_lookup_of_ne (thread : Nat) (name other : String) (edition : Nat) (supported : Bool)
    (record : List Sighting) (apart : name ≠ other) :
    (nodesOf (⟨thread, .beat other edition supported⟩ :: record)).lookup name = (nodesOf record).lookup name := by
  change (if editions other record = edition then withBeat (nodesOf record) other supported
    else nodesOf record).lookup name = _
  split
  · exact lookup_with_beat_of_ne (nodesOf record) other name supported apart
  · rfl

theorem untouched_lookup (name : String) (seen : Sighting) (earlier : List Sighting) (standing : Standing name [seen])
    (untouched : seen.sign.touches name = false) :
    (nodesOf (seen :: earlier)).lookup name = (nodesOf earlier).lookup name := by
  obtain ⟨thread, sign⟩ := seen
  cases sign with
  | placed other snapshot =>
      have apart : name ≠ other := by
        rintro rfl
        simp [Sign.touches] at untouched
      exact NameMap.lookup_insert_of_ne _ _ _ _ apart
  | listed findings =>
      have named := standing.listed _ List.mem_cons_self findings rfl
      change ((nodesOf earlier).retain findings.names).lookup name = _
      rw [NameMap.lookup_retain, if_pos named]
  | cleared => exact absurd rfl (standing.uncleared _ List.mem_cons_self)
  | beat other edition supported =>
      have apart : name ≠ other := by
        rintro rfl
        simp [Sign.touches] at untouched
      exact beat_lookup_of_ne thread name other edition supported earlier apart
  | _ => rfl

theorem touched_present (name : String) (seen : Sighting) (earlier : List Sighting)
    (touched : seen.sign.touches name = true) (present : (nodesOf earlier).lookup name ≠ none) :
    (nodesOf (seen :: earlier)).lookup name ≠ none := by
  obtain ⟨thread, sign⟩ := seen
  cases sign with
  | placed other snapshot =>
      have same : other = name := by simpa [Sign.touches] using touched
      subst same
      change ((nodesOf earlier).insert other snapshot).lookup other ≠ none
      rw [NameMap.lookup_insert_self]
      exact Option.some_ne_none snapshot
  | beat other edition supported =>
      have same : other = name := by simpa [Sign.touches] using touched
      subst same
      rw [beat_lookup]
      split
      · rw [ne_eq, Option.map_eq_none_iff]
        exact present
      · exact present
  | _ => cases touched

theorem untouched_stretch (name : String) (recent earlier : List Sighting) (standing : Standing name recent)
    (untouched : ∀ seen ∈ recent, seen.sign.touches name = false) :
    (nodesOf (recent ++ earlier)).lookup name = (nodesOf earlier).lookup name := by
  induction recent with
  | nil => rfl
  | cons seen recent ih =>
      have now := standing_subset name [seen] (seen :: recent) (by simp) standing
      have before := standing_subset name recent (seen :: recent) (List.subset_cons_self seen recent) standing
      rw [List.cons_append, untouched_lookup name seen _ now (untouched seen List.mem_cons_self)]
      exact ih before fun later member => untouched later (List.mem_cons_of_mem seen member)

theorem present_stretch (name : String) (recent earlier : List Sighting) (standing : Standing name recent)
    (present : (nodesOf earlier).lookup name ≠ none) : (nodesOf (recent ++ earlier)).lookup name ≠ none := by
  induction recent with
  | nil => exact present
  | cons seen recent ih =>
      have now := standing_subset name [seen] (seen :: recent) (by simp) standing
      have before := standing_subset name recent (seen :: recent) (List.subset_cons_self seen recent) standing
      cases touched : seen.sign.touches name with
      | false =>
          rw [List.cons_append, untouched_lookup name seen _ now touched]
          exact ih before
      | true => exact touched_present name seen _ touched (ih before)

theorem editions_append (name : String) (recent earlier : List Sighting) :
    editions name (recent ++ earlier) =
      recent.countP (fun seen => seen.sign.places name) + editions name earlier := List.countP_append

-- A store finds its snapshot in the map just if no other has been placed since the recheck found it.
theorem same_edition_iff (name : String) (recent earlier : List Sighting) :
    editions name (recent ++ earlier) = editions name earlier ↔
      ∀ seen ∈ recent, seen.sign.places name = false := by
  rw [editions_append, Nat.add_eq_right, List.countP_eq_zero]
  simp only [Bool.not_eq_true]

theorem recheck_sound (thread : Nat) (name : String) (supported : Bool) (earlier : List Sighting)
    (sound : Sound (⟨thread, .answered (.recheck name) (.ok (.flag supported))⟩ :: earlier)) :
    ∃ edition since between before, earlier = since ++ ⟨thread, .beat name edition supported⟩ ::
        (between ++ ⟨thread, .fetched name edition⟩ :: before) ∧
      Others thread since ∧ (∀ seen ∈ between, seen.thread = thread → seen.sign = .heard name supported) ∧
      editions name (⟨thread, .fetched name edition⟩ :: before) = edition ∧
      (nodesOf before).lookup name ≠ none := by
  obtain ⟨edition, other, same, beaten⟩ := sound.1 (.flag supported) rfl
  cases same
  obtain ⟨since, record, rfl, unlike, heard⟩ := beaten
  obtain ⟨recent, middle, rfl, others, older, before, rfl, foreign, fetched, present⟩ := heard
  refine ⟨edition, since, recent ++ ⟨thread, .heard name supported⟩ :: older, before, ?_, unlike, ?_, fetched.symm,
    present⟩
  · rw [List.append_assoc, List.cons_append]
  · intro seen member own
    rcases List.mem_append.mp member with later | earlier
    · exact absurd own (others seen later)
    · rcases List.mem_cons.mp earlier with rfl | earlier
      · rfl
      · exact absurd own (foreign seen earlier)

theorem found_some (nodes : NameMap Node.Snapshot) (name : String) (snapshot : Node.Snapshot)
    (known : nodes.lookup name = some snapshot) : found nodes name = .ok (.snapshot snapshot) := by
  simp only [found, known]

-- What is read of a node once a recheck has stored its answer and nothing has touched the node since: the answer,
-- unless a new snapshot came in between the recheck's look and its store. Then the store shows nowhere.
structure Shown (name : String) (supported : Bool) (between before : List Sighting)
    (result : Except PassError Answer) : Prop where
  current : (∀ seen ∈ between, seen.sign.places name = false) →
    ∃ snapshot, result = .ok (.snapshot snapshot) ∧ snapshot.heartbeat = supported
  outdated : (∃ seen ∈ between, seen.sign.places name = true) →
    ∃ snapshot, result = .ok (.snapshot snapshot) ∧ (nodesOf (between ++ before)).lookup name = some snapshot

theorem beat_shown (thread : Nat) (name : String) (edition : Nat) (supported : Bool)
    (recent between before : List Sighting)
    (standing : Standing name (recent ++ ⟨thread, .beat name edition supported⟩ :: (between ++ before)))
    (untouched : ∀ seen ∈ recent, seen.sign.touches name = false) (held : editions name before = edition)
    (present : (nodesOf before).lookup name ≠ none) :
    Shown name supported between before
      (found (nodesOf (recent ++ ⟨thread, .beat name edition supported⟩ :: (between ++ before))) name) := by
  have meantime := standing_subset name recent _ (fun seen member => by simp [member]) standing
  have underway := standing_subset name between _ (fun seen member => by simp [member]) standing
  have kept : (nodesOf (between ++ before)).lookup name ≠ none := present_stretch name between _ underway present
  obtain ⟨snapshot, known⟩ := Option.ne_none_iff_exists'.mp kept
  have read := untouched_stretch name recent (⟨thread, .beat name edition supported⟩ :: (between ++ before))
    meantime untouched
  rw [beat_lookup, known] at read
  have single := same_edition_iff name between before
  rw [held] at single
  constructor
  · intro alone
    rw [if_pos (single.mpr alone), Option.map_some] at read
    exact ⟨_, found_some _ name _ read, rfl⟩
  · rintro ⟨seen, member, places⟩
    have replaced : editions name (between ++ before) ≠ edition := by
      intro same
      rw [single.mp same seen member] at places
      cases places
    rw [if_neg replaced] at read
    exact ⟨snapshot, found_some _ name _ read, known⟩

-- A recheck that returns what it was told has stored it before. From then on, before its return and after it, that
-- is what is read of its node until another recheck stores or a pass puts in a new snapshot, unless a pass has done
-- so since the recheck looked. In that case what was read before is read on.
theorem recheck_shows_until_written_or_replaced (options : ProbeOptions) (parallelism : Nat) (schedule : List Act)
    (name : String) (thread : Nat) (supported : Bool) (later earlier : List Sighting)
    (answered : ((State.start options parallelism).after schedule).record =
      later ++ ⟨thread, .answered (.recheck name) (.ok (.flag supported))⟩ :: earlier)
    (standing : Standing name ((State.start options parallelism).after schedule).record) :
    ∃ edition since between before,
      earlier = since ++ ⟨thread, .beat name edition supported⟩ ::
        (between ++ ⟨thread, .fetched name edition⟩ :: before) ∧
      Others thread since ∧ (∀ seen ∈ between, seen.thread = thread → seen.sign = .heard name supported) ∧
      ∀ ahead user result recent,
        later ++ ⟨thread, .answered (.recheck name) (.ok (.flag supported))⟩ :: since =
          ahead ++ ⟨user, .answered (.node name) result⟩ :: recent →
        (∀ seen ∈ recent, seen.sign.touches name = false) →
          Shown name supported between (⟨thread, .fetched name edition⟩ :: before) result := by
  have sound := run_sound options parallelism schedule
  rw [answered] at sound standing
  obtain ⟨edition, since, between, before, rfl, others, own, held, present⟩ :=
    recheck_sound thread name supported earlier (sound_append later _ sound)
  refine ⟨edition, since, between, before, rfl, others, own, fun ahead user result recent read untouched => ?_⟩
  rw [← List.cons_append, ← List.append_assoc, read, List.append_assoc, List.cons_append] at sound standing
  obtain ⟨_, told⟩ := sound_at ahead _ _ sound
  rw [told]
  exact beat_shown thread name edition supported recent between _
    (standing_subset name _ _ (fun seen member => List.mem_append_right ahead (List.mem_cons_of_mem _ member)) standing)
    untouched held present

def plainTopology : Topology where
  nodes := .ok [⟨"dn-0", .sql⟩]
  connect _ := .ok (.answering fun _ statement =>
    if statement = Statement.version then .ok [Row.ofTexts ["8.0.32"]]
    else if statement = Statement.lowerCaseTableNames then .ok [Row.ofTexts ["1"]]
    else .ok [])

def plainSnapshot : Node.Snapshot := { version := "8.0.32", mdlPrivilege := true, lowerCaseMode := 1 }

def plainNode : Findings := ⟨{ distributedTx := true, lowerCaseTableNames := true }, [("dn-0", plainSnapshot)], []⟩

-- By the time of the recheck the node has a heartbeat. One thread reads it before the recheck returns, another after.
def recheckSchedule : List Act :=
  stint 0 18 (.errand .capabilities) plainNode true ++ stint 1 6 (.errand (.recheck "dn-0")) plainNode true ++
    stint 2 4 (.errand (.node "dn-0")) plainNode true ++ stint 1 1 (.errand (.recheck "dn-0")) plainNode true ++
    stint 3 4 (.errand (.node "dn-0")) plainNode true

def beating : Node.Snapshot := { plainSnapshot with heartbeat := true }

def readBefore : List Sighting :=
  [⟨2, .answered (.node "dn-0") (.ok (.snapshot beating))⟩, ⟨2, .admitted (.node "dn-0")⟩]

def readAfter : List Sighting :=
  [⟨3, .answered (.node "dn-0") (.ok (.snapshot beating))⟩, ⟨3, .admitted (.node "dn-0")⟩]

def begun (thread : Nat) (supported : Bool) : List Sighting :=
  [⟨thread, .heard "dn-0" supported⟩, ⟨thread, .fetched "dn-0" 1⟩, ⟨thread, .admitted (.recheck "dn-0")⟩]

set_option maxRecDepth 2000 in
theorem rechecked_record :
    ((State.start ⟨false, false, "udf", "udf_functions"⟩ 1).after recheckSchedule).record =
      readAfter ++ ⟨1, .answered (.recheck "dn-0") (.ok (.flag true))⟩ ::
        (readBefore ++ ⟨1, .beat "dn-0" 1 true⟩ :: (begun 1 true ++ afterPass plainNode plainSnapshot)) := rfl

theorem recheck_shows_before_and_after_return :
    ∃ later since older,
      ((State.start ⟨false, false, "udf", "udf_functions"⟩ 1).after recheckSchedule).record =
        later ++ ⟨1, .answered (.recheck "dn-0") (.ok (.flag true))⟩ :: (since ++ ⟨1, .beat "dn-0" 1 true⟩ :: older) ∧
      ∀ user result recent, ⟨user, .answered (.node "dn-0") result⟩ :: recent = later ∨
          ⟨user, .answered (.node "dn-0") result⟩ :: recent = since →
        ∃ snapshot, result = .ok (.snapshot snapshot) ∧ snapshot.heartbeat = true := by
  have standing : Standing "dn-0"
      ((State.start ⟨false, false, "udf", "udf_functions"⟩ 1).after recheckSchedule).record := by
    rw [rechecked_record]
    exact ⟨by simp [readAfter, readBefore, begun, afterPass],
      by simp [readAfter, readBefore, begun, afterPass, plainNode, Findings.names]⟩
  obtain ⟨edition, since, between, before, whole, others, own, shown⟩ :=
    recheck_shows_until_written_or_replaced ⟨false, false, "udf", "udf_functions"⟩ 1 recheckSchedule "dn-0" 1 true
      readAfter _ rechecked_record standing
  obtain ⟨rfl, rest⟩ := last_place (fun seen => ∃ edition supported, seen = ⟨1, .beat "dn-0" edition supported⟩)
    readBefore since _ _ ⟨1, .beat "dn-0" 1 true⟩ _ whole ⟨1, true, rfl⟩ ⟨edition, true, rfl⟩
    (by simp [readBefore]) (by rintro seen member ⟨_, _, rfl⟩; exact others _ member rfl)
  obtain ⟨rfl, _⟩ := last_place (fun seen => ∃ edition, seen = ⟨1, .fetched "dn-0" edition⟩)
    [⟨1, .heard "dn-0" true⟩] between _ before ⟨1, .fetched "dn-0" 1⟩ _ rest ⟨1, rfl⟩ ⟨edition, rfl⟩ (by simp)
    (by rintro seen member ⟨_, rfl⟩; cases own _ member rfl)
  refine ⟨readAfter, readBefore, _, rechecked_record, ?_⟩
  rintro user result recent (after | within)
  · obtain ⟨_, rfl⟩ := List.cons.inj after
    have shownAfter := shown [] user result
      (⟨3, .admitted (.node "dn-0")⟩ :: ⟨1, .answered (.recheck "dn-0") (.ok (.flag true))⟩ :: readBefore)
    refine (shownAfter ?_ ?_).current (by simp [Sign.places])
    · rw [← after]
      rfl
    · simp [readBefore, Sign.touches]
  · obtain ⟨_, rfl⟩ := List.cons.inj within
    have shownBefore := shown (readAfter ++ [⟨1, .answered (.recheck "dn-0") (.ok (.flag true))⟩]) user result
      [⟨2, .admitted (.node "dn-0")⟩]
    refine (shownBefore ?_ ?_).current (by simp [Sign.places])
    · rw [within, List.append_assoc, List.singleton_append]
    · simp [Sign.touches]

-- After a recheck has returned what it was told, another heartbeat is read of its node, though no recheck has stored
-- meanwhile, and no pass has got its answers since the recheck was told.
def Misread (name : String) (run : List Sighting) : Prop :=
  ∃ user thread supported snapshot recent since older,
    run = ⟨user, .answered (.node name) (.ok (.snapshot snapshot))⟩ ::
      (recent ++ ⟨thread, .answered (.recheck name) (.ok (.flag supported))⟩ ::
        (since ++ ⟨thread, .heard name supported⟩ :: older)) ∧
    snapshot.heartbeat ≠ supported ∧
    (∀ seen ∈ recent, ∀ edition told, seen.sign ≠ .beat name edition told) ∧
    ∀ seen ∈ recent ++ since, ∀ outcome, seen.sign ≠ .probed outcome

def stored (thread : Nat) (findings : Findings) (snapshot : Node.Snapshot) : List Sighting :=
  [⟨thread, .published findings⟩, ⟨thread, .omitted findings⟩, ⟨thread, .listed findings⟩,
    ⟨thread, .placed "dn-0" snapshot⟩]

-- A pass asks the node before it has a heartbeat, and puts in what it was told when the recheck is done.
def outdatingSchedule : List Act :=
  stint 0 18 (.errand .capabilities) plainNode true ++ stint 1 5 .refresh plainNode true ++
    stint 2 7 (.errand (.recheck "dn-0")) plainNode true ++ stint 1 5 .refresh plainNode true ++
    stint 3 4 (.errand (.node "dn-0")) plainNode true

set_option maxRecDepth 2000 in
theorem outdated_record :
    ((State.start ⟨false, false, "udf", "udf_functions"⟩ 1).after outdatingSchedule).record =
      ⟨3, .answered (.node "dn-0") (.ok (.snapshot plainSnapshot))⟩ ::
        ((⟨3, .admitted (.node "dn-0")⟩ :: stored 1 plainNode plainSnapshot) ++
          ⟨2, .answered (.recheck "dn-0") (.ok (.flag true))⟩ :: ([⟨2, .beat "dn-0" 1 true⟩] ++
            (begun 2 true ++ ⟨1, .probed (.ok plainNode)⟩ :: afterPass plainNode plainSnapshot))) := rfl

-- The same pass, with its new snapshot coming in before the recheck stores.
def missingSchedule : List Act :=
  stint 0 18 (.errand .capabilities) plainNode true ++ stint 1 5 .refresh plainNode true ++
    stint 2 5 (.errand (.recheck "dn-0")) plainNode true ++ stint 1 5 .refresh plainNode true ++
    stint 2 2 (.errand (.recheck "dn-0")) plainNode true ++ stint 3 4 (.errand (.node "dn-0")) plainNode true

set_option maxRecDepth 2000 in
theorem missing_record :
    ((State.start ⟨false, false, "udf", "udf_functions"⟩ 1).after missingSchedule).record =
      ⟨3, .answered (.node "dn-0") (.ok (.snapshot plainSnapshot))⟩ ::
        ([⟨3, .admitted (.node "dn-0")⟩] ++ ⟨2, .answered (.recheck "dn-0") (.ok (.flag true))⟩ ::
          ((⟨2, .beat "dn-0" 1 true⟩ :: stored 1 plainNode plainSnapshot) ++
            (begun 2 true ++ ⟨1, .probed (.ok plainNode)⟩ :: afterPass plainNode plainSnapshot))) := rfl

-- Two rechecks are told different things, and the first to store is the last to return.
def rivalSchedule : List Act :=
  stint 0 18 (.errand .capabilities) plainNode true ++ stint 1 6 (.errand (.recheck "dn-0")) plainNode true ++
    stint 2 7 (.errand (.recheck "dn-0")) plainNode false ++ stint 1 1 (.errand (.recheck "dn-0")) plainNode true ++
    stint 3 4 (.errand (.node "dn-0")) plainNode true

set_option maxRecDepth 2000 in
theorem rival_record :
    ((State.start ⟨false, false, "udf", "udf_functions"⟩ 1).after rivalSchedule).record =
      ⟨3, .answered (.node "dn-0") (.ok (.snapshot plainSnapshot))⟩ ::
        ([⟨3, .admitted (.node "dn-0")⟩] ++ ⟨1, .answered (.recheck "dn-0") (.ok (.flag true))⟩ ::
          ((⟨2, .answered (.recheck "dn-0") (.ok (.flag false))⟩ :: ⟨2, .beat "dn-0" 1 false⟩ :: begun 2 false ++
            [⟨1, .beat "dn-0" 1 true⟩]) ++ (begun 1 true ++ afterPass plainNode plainSnapshot))) := rfl

-- Passes that do not ask at all, one call after the other.
def mockedSchedule : List Act :=
  stint 0 18 (.errand .capabilities) oneNode true ++ stint 2 7 (.errand (.recheck "dn-0")) oneNode true ++
    stint 1 15 .refresh oneNode true ++ stint 3 4 (.errand (.node "dn-0")) oneNode true

def sinceMockedRecheck : List Sighting :=
  ⟨3, .admitted (.node "dn-0")⟩ :: stored 1 oneNode .synthetic ++ [⟨1, .probed (.ok oneNode)⟩]

set_option maxRecDepth 2000 in
theorem mocked_record :
    ((State.start ⟨false, true, "udf", "udf_functions"⟩ 1).after mockedSchedule).record =
      ⟨3, .answered (.node "dn-0") (.ok (.snapshot .synthetic))⟩ ::
        (sinceMockedRecheck ++ ⟨2, .answered (.recheck "dn-0") (.ok (.flag true))⟩ :: ⟨2, .beat "dn-0" 1 true⟩ ::
          (begun 2 true ++ afterPass oneNode .synthetic)) := rfl

theorem refresh_outdates_recheck :
    let asking : ProbeOptions := ⟨false, false, "udf", "udf_functions"⟩
    let mocked : ProbeOptions := ⟨false, true, "udf", "udf_functions"⟩
    let asked := Pass.run plainTopology asking 1 ⟨false, false⟩
    let unasked := Pass.run quietTopology mocked 1 ⟨false, false⟩
    let mockedRun := ((State.start mocked 1).after mockedSchedule).record
    (asked.result.toOption = some plainNode ∧
        Manager.heartbeatQuery "dn-0" ∈ asked.contacts.filterMap Contact.query? ∧
        ∀ schedule ∈ [outdatingSchedule, missingSchedule, rivalSchedule],
          Misread "dn-0" ((State.start asking 1).after schedule).record ∧
            Standing "dn-0" ((State.start asking 1).after schedule).record) ∧
      unasked.result = .ok oneNode ∧ unasked.contacts.filterMap Contact.query? = [] ∧
        (∃ earlier, mockedRun = ⟨3, .answered (.node "dn-0") (.ok (.snapshot .synthetic))⟩ ::
          (sinceMockedRecheck ++ ⟨2, .answered (.recheck "dn-0") (.ok (.flag true))⟩ :: earlier)) ∧
        Node.Snapshot.synthetic.heartbeat = false ∧ Standing "dn-0" mockedRun ∧
        ∀ seen ∈ sinceMockedRecheck, ∀ edition supported, seen.sign ≠ .beat "dn-0" edition supported := by
  intro asking mocked asked unasked mockedRun
  have differs : plainSnapshot.heartbeat ≠ true := by decide
  have mockedStanding : Standing "dn-0" mockedRun := by
    rw [show mockedRun = _ from mocked_record]
    have named : "dn-0" ∈ oneNode.names := by decide
    exact ⟨by simp [sinceMockedRecheck, stored, begun, afterPass],
      by simp [sinceMockedRecheck, stored, begun, afterPass, named]⟩
  have named : "dn-0" ∈ plainNode.names := by decide
  have outdated : Misread "dn-0" ((State.start asking 1).after outdatingSchedule).record ∧
      Standing "dn-0" ((State.start asking 1).after outdatingSchedule).record := by
    rw [outdated_record]
    refine ⟨⟨3, 2, true, plainSnapshot, _, _, _, rfl, differs, by simp [stored], by simp [stored]⟩, ?_, ?_⟩
    · simp [stored, begun, afterPass]
    · simp [stored, begun, afterPass, named]
  have missing : Misread "dn-0" ((State.start asking 1).after missingSchedule).record ∧
      Standing "dn-0" ((State.start asking 1).after missingSchedule).record := by
    rw [missing_record]
    refine ⟨⟨3, 2, true, plainSnapshot, _, _, _, rfl, differs, by simp, by simp [stored]⟩, ?_, ?_⟩
    · simp [stored, begun, afterPass]
    · simp [stored, begun, afterPass, named]
  have rival : Misread "dn-0" ((State.start asking 1).after rivalSchedule).record ∧
      Standing "dn-0" ((State.start asking 1).after rivalSchedule).record := by
    rw [rival_record]
    refine ⟨⟨3, 1, true, plainSnapshot, _, _, _, rfl, differs, by simp, by simp [begun]⟩, ?_, ?_⟩
    · simp [begun, afterPass]
    · simp [begun, afterPass, named]
  refine ⟨⟨by decide +kernel, by decide +kernel, ?_⟩, ?_, ?_, ⟨_, mocked_record⟩, rfl, mockedStanding,
    by simp [sinceMockedRecheck, stored]⟩
  · simp only [List.forall_mem_cons, List.not_mem_nil, false_implies, implies_true, and_true]
    exact ⟨outdated, missing, rival⟩
  · exact Pass.run_mocked_result quietTopology mocked ⟨false, false⟩ [⟨"dn-0", .sql⟩] rfl rfl 1
  · exact Pass.run_mocked_queries quietTopology mocked ⟨false, false⟩ rfl 1

end Service

end ClusterCaps
