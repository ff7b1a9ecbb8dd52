import ClusterCaps.Proofs.Pass.Synthetic
import ClusterCaps.Proofs.Service.Invariant

set_option autoImplicit false

namespace ClusterCaps

namespace Service

theorem listed_present (record : List Sighting) (findings : Findings) (name : String) (sound : Sound record)
    (listed : listed? record = some findings) (named : name ∈ findings.names) : steadyOf record name ≠ none := by
  induction record with
  | nil => cases listed
  | cons seen earlier ih =>
      by_cases quiet : seen.sign.renews = false
      · have keeps := quiet_keeps seen earlier quiet
        rw [keeps.steady name]
        exact ih sound.2 (keeps.listed.symm.trans listed)
      · obtain ⟨thread, sign⟩ := seen
        cases sign with
        | placed other snapshot =>
            change (((nodesOf earlier).insert other snapshot).lookup name).map Node.Snapshot.steady ≠ none
            by_cases same : name = other
            · subst same
              rw [NameMap.lookup_insert_self]
              exact Option.some_ne_none snapshot.steady
            · rw [NameMap.lookup_insert_of_ne _ _ _ _ same]
              exact ih sound.2 listed
        | listed other =>
            cases listed
            rw [laid_stocked findings thread earlier sound.1.2 name]
            cases entry : findings.snapshots.reverse.lookup name with
            | none => exact absurd named ((unnamed_iff findings name).mp entry)
            | some snapshot => exact Option.some_ne_none snapshot.steady
        | cleared => cases listed
        | omitted _ => exact ih sound.2 listed
        | published _ => exact ih sound.2 listed
        | blanked => exact ih sound.2 listed
        | wiped => exact ih sound.2 listed
        | forgot => exact ih sound.2 listed
        | _ => exact absurd rfl quiet

-- When the thread's call was let in, a reset had made this store and not yet its last, or it has made it since.
def Overlapped (mark : Sign) (thread : Nat) (errand : Errand) (record : List Sighting) : Prop :=
  ∃ recent before, record = recent ++ ⟨thread, .admitted errand⟩ :: before ∧ Others thread recent ∧
    (Unfinished mark before ∨ ∃ user, ⟨user, mark⟩ ∈ recent)

theorem published_or_overlapped (thread : Nat) (errand : Errand) (record : List Sighting)
    (admitted : Admitted thread errand record) :
    (∃ findings, published? record = some findings) ∨
      published? record = none ∧ Overlapped .wiped thread errand record := by
  obtain ⟨recent, before, rfl, others, opened⟩ := admitted
  cases now : published? (recent ++ ⟨thread, .admitted errand⟩ :: before) with
  | some findings => exact Or.inl ⟨findings, rfl⟩
  | none =>
      refine Or.inr ⟨rfl, recent, before, rfl, others, ?_⟩
      rcases opened.flags with known | unfinished
      · exact Or.inr (published_dropped recent (⟨thread, .admitted errand⟩ :: before) known now)
      · exact Or.inl unfinished

theorem listed_or_overlapped (thread : Nat) (errand : Errand) (record : List Sighting)
    (admitted : Admitted thread errand record) :
    (∃ findings, listed? record = some findings) ∨ Overlapped .cleared thread errand record := by
  obtain ⟨recent, before, rfl, others, opened⟩ := admitted
  cases now : listed? (recent ++ ⟨thread, .admitted errand⟩ :: before) with
  | some findings => exact Or.inl ⟨findings, rfl⟩
  | none =>
      refine Or.inr ⟨recent, before, rfl, others, ?_⟩
      rcases opened.nodes with known | unfinished
      · exact Or.inr (listed_dropped recent (⟨thread, .admitted errand⟩ :: before) known now)
      · exact Or.inl unfinished

theorem stored_probed (store : Findings → Sign)
    (stores : ∀ user findings earlier, Sighting.Sound ⟨user, store findings⟩ earlier → Probed findings earlier)
    (record : List Sighting) (user : Nat) (findings : Findings) (sound : Sound record)
    (member : ⟨user, store findings⟩ ∈ record) : Probed findings record := by
  obtain ⟨later, earlier, rfl, stored⟩ := sound_mem record _ sound member
  exact probed_append findings later _ (probed_cons findings _ earlier (stores user findings earlier stored))

theorem published_flags (record : List Sighting) (findings : Findings) (sound : Sound record)
    (now : published? record = some findings) :
    ∃ user, ⟨user, .published findings⟩ ∈ record ∧ Probed findings record ∧ clusterOf record = findings.cluster := by
  obtain ⟨user, member⟩ := published_stored record findings now
  refine ⟨user, member, stored_probed .published (fun _ _ _ stored => stored.1) record user findings sound member, ?_⟩
  rw [clusterOf, now]
  rfl

theorem found_error (nodes : NameMap Node.Snapshot) (name : String) (error : PassError)
    (failed : found nodes name = .error error) : error = .nodeNotFound name ∧ nodes.lookup name = none := by
  unfold found at failed
  cases known : nodes.lookup name with
  | some snapshot =>
      rw [known] at failed
      cases failed
  | none =>
      rw [known] at failed
      cases failed
      exact ⟨rfl, rfl⟩

def FlagsFrom (thread : Nat) (errand : Errand) (record : List Sighting) (cluster : Cluster) : Prop :=
  (∃ user findings, ⟨user, .published findings⟩ ∈ record ∧ Probed findings record ∧ cluster = findings.cluster) ∨
    cluster = Cluster.nothing ∧ Overlapped .wiped thread errand record

def MissingFrom (thread : Nat) (errand : Errand) (record : List Sighting) (name : String) : Prop :=
  (∃ user findings, ⟨user, .listed findings⟩ ∈ record ∧ Probed findings record ∧ name ∉ findings.names) ∨
    Overlapped .cleared thread errand record

theorem admitted_flags (thread : Nat) (errand : Errand) (record : List Sighting) (sound : Sound record)
    (admitted : Admitted thread errand record) : FlagsFrom thread errand record (clusterOf record) := by
  rcases published_or_overlapped thread errand record admitted with ⟨findings, now⟩ | ⟨now, overlapped⟩
  · obtain ⟨user, member, probed, same⟩ := published_flags record findings sound now
    exact Or.inl ⟨user, findings, member, probed, same⟩
  · refine Or.inr ⟨?_, overlapped⟩
    rw [clusterOf, now]
    rfl

theorem admitted_missing (thread : Nat) (errand : Errand) (record : List Sighting) (name : String)
    (sound : Sound record) (admitted : Admitted thread errand record)
    (missing : (nodesOf record).lookup name = none) : MissingFrom thread errand record name := by
  rcases listed_or_overlapped thread errand record admitted with ⟨findings, now⟩ | overlapped
  · obtain ⟨user, member⟩ := listed_stored record findings now
    have probed := stored_probed .listed (fun _ _ _ stored => stored.1) record user findings sound member
    refine Or.inl ⟨user, findings, member, probed, fun named => ?_⟩
    apply listed_present record findings name sound now named
    rw [steadyOf, missing, Option.map_none]
  · exact Or.inr overlapped

-- No flag that a call reads and no node that it misses comes from nowhere: a pass has published it so, or a
-- reset overlapped the call.
theorem gated_read_published_or_overlapped (options : ProbeOptions) (parallelism : Nat) (schedule : List Act)
    (thread : Nat) (errand : Errand) (result : Except PassError Answer) (later earlier : List Sighting)
    (answered : ((State.start options parallelism).after schedule).record =
      later ++ ⟨thread, .answered errand result⟩ :: earlier) :
    (∀ read, errand = .flag read →
      ∃ cluster, result = .ok (.flag (read cluster)) ∧ FlagsFrom thread errand earlier cluster) ∧
      (errand = .capabilities →
        ∃ cluster, result = .ok (.cluster cluster) ∧ FlagsFrom thread errand earlier cluster) ∧
      ∀ name error, errand = .node name → result = .error error →
        error = .nodeNotFound name ∧ MissingFrom thread errand earlier name := by
  have sound := run_sound options parallelism schedule
  rw [answered] at sound
  have before : Sound earlier := (sound_append later _ sound).2
  have settled := sound_at later earlier _ sound
  refine ⟨?_, ?_, ?_⟩
  · rintro read rfl
    obtain ⟨admitted, told⟩ := settled
    exact ⟨_, told, admitted_flags thread _ earlier before admitted⟩
  · rintro rfl
    obtain ⟨admitted, told⟩ := settled
    exact ⟨_, told, admitted_flags thread _ earlier before admitted⟩
  · rintro name error rfl failed
    obtain ⟨admitted, told⟩ := settled
    obtain ⟨named, missing⟩ := found_error (nodesOf earlier) name error (told.symm.trans failed)
    exact ⟨named, admitted_missing thread _ earlier name before admitted missing⟩

def stint (thread count : Nat) (wish : Wish) (findings : Findings) (supported : Bool) : List Act :=
  List.replicate count ⟨thread, wish, .ok findings, ⟨"sc-20260115-143022-a7xq"⟩, .ok supported⟩

def quietTopology : Topology := ⟨.ok [⟨"dn-0", .sql⟩], fun _ => .ok (.answering fun _ _ => .ok [])⟩

def oneNode : Findings := Pass.mockedFindings ⟨false, false⟩ [⟨"dn-0", .sql⟩]

def slippingSchedule (errand : Errand) : List Act :=
  stint 0 18 (.errand .capabilities) oneNode true ++ stint 1 3 (.errand errand) oneNode true ++
    stint 2 8 .reset oneNode true ++ stint 1 1 (.errand errand) oneNode true

def afterPass (findings : Findings) (snapshot : Node.Snapshot) : List Sighting :=
  [⟨0, .answered .capabilities (.ok (.cluster findings.cluster))⟩, ⟨0, .admitted .capabilities⟩,
    ⟨0, .published findings⟩, ⟨0, .omitted findings⟩, ⟨0, .listed findings⟩, ⟨0, .placed "dn-0" snapshot⟩,
    ⟨0, .probed (.ok findings)⟩]

def beforeSlip (errand : Errand) : List Sighting :=
  [⟨2, .forgot⟩, ⟨2, .wiped⟩, ⟨2, .blanked⟩, ⟨2, .cleared⟩, ⟨1, .admitted errand⟩] ++ afterPass oneNode .synthetic

theorem published_before_slip (errand : Errand) (user : Nat) (findings : Findings)
    (member : ⟨user, .published findings⟩ ∈ beforeSlip errand) : findings = oneNode := by
  have first : user = 0 ∧ findings = oneNode := by simpa [beforeSlip, afterPass] using member
  exact first.2

theorem listed_before_slip (errand : Errand) (user : Nat) (findings : Findings)
    (member : ⟨user, .listed findings⟩ ∈ beforeSlip errand) : findings = oneNode := by
  have first : user = 0 ∧ findings = oneNode := by simpa [beforeSlip, afterPass] using member
  exact first.2

theorem slipped_flags :
    ((State.start ⟨false, true, "udf", "udf_functions"⟩ 1).after (slippingSchedule .capabilities)).record =
      ⟨1, .answered .capabilities (.ok (.cluster Cluster.nothing))⟩ :: beforeSlip .capabilities := rfl

theorem slipped_node :
    ((State.start ⟨false, true, "udf", "udf_functions"⟩ 1).after (slippingSchedule (.node "dn-0"))).record =
      ⟨1, .answered (.node "dn-0") (.error (.nodeNotFound "dn-0"))⟩ :: beforeSlip (.node "dn-0") := rfl

theorem read_after_overlapping_reset :
    let run := ((State.start ⟨false, true, "udf", "udf_functions"⟩ 1).after (slippingSchedule .capabilities)).record
    run = ⟨1, .answered .capabilities (.ok (.cluster Cluster.nothing))⟩ :: beforeSlip .capabilities ∧
      Overlapped .wiped 1 .capabilities (beforeSlip .capabilities) := by
  intro run
  refine ⟨slipped_flags, ?_⟩
  obtain ⟨_, capabilities, _⟩ :=
    gated_read_published_or_overlapped ⟨false, true, "udf", "udf_functions"⟩ 1 (slippingSchedule .capabilities)
      1 .capabilities (.ok (.cluster Cluster.nothing)) [] (beforeSlip .capabilities) slipped_flags
  obtain ⟨cluster, told, ⟨user, findings, member, _, same⟩ | ⟨_, overlapped⟩⟩ := capabilities rfl
  · rw [published_before_slip .capabilities user findings member] at same
    cases told
    exact absurd same (by decide)
  · exact overlapped

theorem reset_slips_between_gate_and_read :
    let options : ProbeOptions := ⟨false, true, "udf", "udf_functions"⟩
    let run := fun errand => ((State.start options 1).after (slippingSchedule errand)).record
    (Pass.run quietTopology options 1 ⟨false, false⟩).result = .ok oneNode ∧
      run .capabilities =
        ⟨1, .answered .capabilities (.ok (.cluster Cluster.nothing))⟩ :: beforeSlip .capabilities ∧
      (∀ user findings, ⟨user, .published findings⟩ ∈ beforeSlip .capabilities →
        findings.cluster ≠ Cluster.nothing) ∧
      run (.node "dn-0") =
        ⟨1, .answered (.node "dn-0") (.error (.nodeNotFound "dn-0"))⟩ :: beforeSlip (.node "dn-0") ∧
      ∀ user findings, ⟨user, .listed findings⟩ ∈ beforeSlip (.node "dn-0") → "dn-0" ∈ findings.names := by
  intro options run
  have passed := Pass.run_mocked_result quietTopology options ⟨false, false⟩ [⟨"dn-0", .sql⟩] rfl rfl 1
  refine ⟨passed, slipped_flags, fun user findings member => ?_, slipped_node, fun user findings member => ?_⟩
  · rw [published_before_slip .capabilities user findings member]
    decide
  · rw [listed_before_slip (.node "dn-0") user findings member]
    decide

end Service

end ClusterCaps
