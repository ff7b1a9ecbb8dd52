import Mathlib.Data.List.Induction
import ClusterCaps.Proofs.Text.Pieces
import ClusterCaps.Topology.Transcript

set_option autoImplicit false

namespace ClusterCaps

namespace Transcript

def Named (transcript : Transcript) : Prop := (transcript.profiles.map Profile.name).Nodup

def Nameless (profile : Profile) : Prop := Text.trimmed profile.name = ""

structure Usable (profiles : List Profile) : Prop where
  told : ∀ profile ∈ profiles, ¬ Nameless profile
  distinct : (profiles.map Profile.name).Nodup

-- What is wrong with a list. The earliest node in trouble decides, so those before it are in order.
inductive Defect (profiles : List Profile) : TopologyError → Prop where
  | nameless (earlier later : List Profile) (profile : Profile) (split : profiles = earlier ++ profile :: later)
      (usable : Usable earlier) (blank : Nameless profile) : Defect profiles (.invalid "node with empty name")
  | repeated (earlier later : List Profile) (profile : Profile) (split : profiles = earlier ++ profile :: later)
      (usable : Usable earlier) (known : profile.name ∈ earlier.map Profile.name) :
      Defect profiles (.invalid ("duplicate node name '" ++ profile.name ++ "'"))

theorem name_error_nameless (seen : List String) (profile : Profile) (rest : List Profile) (blank : Nameless profile) :
    nameError? seen (profile :: rest) = some (.invalid "node with empty name") := by
  rw [nameError?, if_pos ((Text.all_blank_iff profile.name).mpr blank)]

theorem name_error_repeated (seen : List String) (profile : Profile) (rest : List Profile) (told : ¬ Nameless profile)
    (known : profile.name ∈ seen) :
    nameError? seen (profile :: rest) = some (.invalid ("duplicate node name '" ++ profile.name ++ "'")) := by
  rw [nameError?, if_neg (mt (Text.all_blank_iff profile.name).mp told), if_pos (List.contains_iff_mem.mpr known)]

theorem name_error_passes (seen : List String) (profile : Profile) (rest : List Profile) (told : ¬ Nameless profile)
    (fresh : profile.name ∉ seen) : nameError? seen (profile :: rest) = nameError? (profile.name :: seen) rest := by
  rw [nameError?, if_neg (mt (Text.all_blank_iff profile.name).mp told), if_neg (mt List.contains_iff_mem.mp fresh)]

theorem name_error_after (seen : List String) (earlier rest : List Profile) (usable : Usable earlier)
    (apart : ∀ profile ∈ earlier, profile.name ∉ seen) :
    ∃ known, (∀ name, name ∈ known ↔ name ∈ earlier.map Profile.name ∨ name ∈ seen) ∧
      nameError? seen (earlier ++ rest) = nameError? known rest := by
  induction earlier generalizing seen with
  | nil => exact ⟨seen, by simp, rfl⟩
  | cons head earlier ih =>
      obtain ⟨unlike, distinct⟩ := List.nodup_cons.mp usable.distinct
      obtain ⟨known, names, same⟩ := ih (head.name :: seen)
        ⟨fun profile later => usable.told profile (List.mem_cons_of_mem head later), distinct⟩
        fun profile later again => by
          rcases List.mem_cons.mp again with twice | before
          · exact unlike (twice ▸ List.mem_map_of_mem later)
          · exact apart profile (List.mem_cons_of_mem head later) before
      refine ⟨known, fun name => ?_, ?_⟩
      · rw [names, List.map_cons, List.mem_cons, List.mem_cons, or_left_comm, or_assoc]
      · rw [List.cons_append, name_error_passes seen head _ (usable.told head List.mem_cons_self)
          (apart head List.mem_cons_self), same]

theorem usable_or_defective (profiles : List Profile) : Usable profiles ∨ ∃ error, Defect profiles error := by
  induction profiles using List.reverseRecOn with
  | nil => exact Or.inl ⟨nofun, List.nodup_nil⟩
  | append_singleton earlier last ih =>
      rcases ih with usable | ⟨error, defect⟩
      · by_cases blank : Nameless last
        · exact Or.inr ⟨_, .nameless earlier [] last rfl usable blank⟩
        · by_cases known : last.name ∈ earlier.map Profile.name
          · exact Or.inr ⟨_, .repeated earlier [] last rfl usable known⟩
          · refine Or.inl ⟨List.forall_mem_append.mpr ⟨usable.told, List.forall_mem_singleton.mpr blank⟩, ?_⟩
            rw [List.map_append, List.map_singleton]
            refine List.nodup_append.mpr ⟨usable.distinct, List.pairwise_singleton _ _, ?_⟩
            intro name before other alone same
            rw [List.mem_singleton.mp alone] at same
            exact known (same ▸ before)
      · right
        cases defect with
        | nameless before later profile split usable blank =>
            exact ⟨_, .nameless before (later ++ [last]) profile (by simp [split]) usable blank⟩
        | repeated before later profile split usable known =>
            exact ⟨_, .repeated before (later ++ [last]) profile (by simp [split]) usable known⟩

theorem of_profiles_usable (profiles : List Profile) (usable : Usable profiles) :
    ofProfiles profiles = .ok ⟨profiles⟩ := by
  obtain ⟨known, _, same⟩ := name_error_after [] profiles [] usable fun _ _ => List.not_mem_nil
  rw [List.append_nil] at same
  rw [ofProfiles, same]
  rfl

theorem of_profiles_defective (profiles : List Profile) (error : TopologyError) (defect : Defect profiles error) :
    ofProfiles profiles = .error error := by
  cases defect with
  | nameless earlier later profile split usable blank =>
      obtain ⟨known, _, same⟩ := name_error_after [] earlier (profile :: later) usable fun _ _ => List.not_mem_nil
      rw [ofProfiles, split, same, name_error_nameless known profile later blank]
  | repeated earlier later profile split usable again =>
      obtain ⟨known, names, same⟩ := name_error_after [] earlier (profile :: later) usable fun _ _ => List.not_mem_nil
      have told : ¬ Nameless profile := by
        obtain ⟨first, before, equal⟩ := List.mem_map.mp again
        rw [Nameless, ← equal]
        exact usable.told first before
      rw [ofProfiles, split, same, name_error_repeated known profile later told ((names _).mpr (Or.inl again))]

theorem of_profiles_ok_iff (profiles : List Profile) (transcript : Transcript) :
    ofProfiles profiles = .ok transcript ↔ Usable profiles ∧ transcript = ⟨profiles⟩ := by
  constructor
  · intro accepted
    rcases usable_or_defective profiles with usable | ⟨error, defect⟩
    · rw [of_profiles_usable profiles usable] at accepted
      exact ⟨usable, (Except.ok.inj accepted).symm⟩
    · rw [of_profiles_defective profiles error defect] at accepted
      cases accepted
  · rintro ⟨usable, rfl⟩
    exact of_profiles_usable profiles usable

theorem of_profiles_error_iff (profiles : List Profile) (error : TopologyError) :
    ofProfiles profiles = .error error ↔ Defect profiles error := by
  constructor
  · intro refused
    rcases usable_or_defective profiles with usable | ⟨other, defect⟩
    · rw [of_profiles_usable profiles usable] at refused
      cases refused
    · rw [of_profiles_defective profiles other defect] at refused
      exact Except.error.inj refused ▸ defect
  · exact of_profiles_defective profiles error

theorem of_profiles_named (profiles : List Profile) (transcript : Transcript)
    (read : ofProfiles profiles = .ok transcript) : transcript.Named := by
  obtain ⟨usable, rfl⟩ := (of_profiles_ok_iff profiles transcript).mp read
  exact usable.distinct

theorem find_listed (transcript : Transcript) (named : transcript.Named) (profile : Profile)
    (listed : profile ∈ transcript.profiles) : transcript.find? profile.name = some profile := by
  obtain ⟨earlier, later, split⟩ := List.append_of_mem listed
  unfold Named at named
  rw [split, List.map_append, List.map_cons, List.nodup_append] at named
  unfold find?
  rw [List.find?_eq_some_iff_append]
  refine ⟨by simp, earlier, later, split, fun before member => ?_⟩
  have apart := named.2.2 before.name (List.mem_map_of_mem member) profile.name List.mem_cons_self
  simpa using apart

theorem connect_listed (transcript : Transcript) (named : transcript.Named) (profile : Profile)
    (listed : profile ∈ transcript.profiles) :
    transcript.connect profile.name =
      if profile.unreachable then .error (.connection profile.name "no connection available in pool")
      else .ok (.answering profile.connection) := by
  unfold connect
  rw [find_listed transcript named profile listed]

theorem connect_unlisted (transcript : Transcript) (name : String)
    (unlisted : ∀ profile ∈ transcript.profiles, profile.name ≠ name) :
    transcript.connect name = .error (.unknownNode name) := by
  have missing : transcript.find? name = none := by
    rw [find?, List.find?_eq_none]
    exact fun profile listed same => unlisted profile listed (beq_iff_eq.mp same)
  rw [connect, missing]

theorem connect_unknown_iff (transcript : Transcript) (name : String) :
    transcript.connect name = .error (.unknownNode name) ↔ ∀ profile ∈ transcript.profiles, profile.name ≠ name := by
  constructor
  · rintro unknown profile listed rfl
    unfold connect at unknown
    split at unknown
    · next missing =>
        rw [find?, List.find?_eq_none] at missing
        exact absurd rfl (mt beq_iff_eq.mpr (missing profile listed))
    · split at unknown <;> cases unknown
  · exact connect_unlisted transcript name

theorem connect_connection_iff (transcript : Transcript) (named : transcript.Named) (profile : Profile)
    (listed : profile ∈ transcript.profiles) :
    (∃ message, transcript.connect profile.name = .error (.connection profile.name message)) ↔
      profile.unreachable = true := by
  rw [connect_listed transcript named profile listed]
  cases profile.unreachable <;> simp

-- A list of nodes makes up a topology if and only if their names are usable, and else the earliest node in trouble
-- is named. The topology has the nodes in their order. Under a name it knows the node of that name or none, and
-- what it connects to answers every statement as that node does.
theorem usable_names_accepted_and_found (profiles : List Profile) :
    ((∃ transcript, ofProfiles profiles = .ok transcript) ↔ Usable profiles) ∧
      (∀ error, ofProfiles profiles = .error error ↔ Defect profiles error) ∧
      ∀ transcript, ofProfiles profiles = .ok transcript →
        transcript.topology.nodes = .ok (profiles.map Profile.descriptor) ∧
          ∀ name,
            (transcript.topology.connect name = .error (.unknownNode name) ↔
                ∀ profile ∈ profiles, profile.name ≠ name) ∧
              ∀ profile ∈ profiles, profile.name = name →
                ((∃ message, transcript.topology.connect name = .error (.connection name message)) ↔
                    profile.unreachable = true) ∧
                  (profile.unreachable = false →
                    ∃ connection, transcript.topology.connect name = .ok (.answering connection) ∧
                      ∀ route statement, connection route statement = profile.answer statement) := by
  refine ⟨?_, of_profiles_error_iff profiles, fun transcript accepted => ?_⟩
  · simp only [of_profiles_ok_iff, exists_and_left, exists_eq, and_true]
  · have named := of_profiles_named profiles transcript accepted
    obtain ⟨_, rfl⟩ := (of_profiles_ok_iff profiles transcript).mp accepted
    refine ⟨rfl, fun name => ⟨connect_unknown_iff ⟨profiles⟩ name, ?_⟩⟩
    rintro profile listed rfl
    refine ⟨connect_connection_iff ⟨profiles⟩ named profile listed, fun reachable => ?_⟩
    refine ⟨profile.connection, ?_, fun _ _ => rfl⟩
    change connect ⟨profiles⟩ profile.name = _
    rw [connect_listed ⟨profiles⟩ named profile listed, reachable, if_neg Bool.false_ne_true]

theorem usable_names_padded_twin :
    let primary : Profile := { name := "dn-0", version? := some "8.0.32" }
    let twin : Profile := { name := "dn-0 ", unreachable := true }
    let transcript : Transcript := ⟨[primary, twin]⟩
    ofProfiles [primary, twin] = .ok transcript ∧ primary ∈ [primary, twin] ∧ twin ∈ [primary, twin] ∧
      (∃ message, transcript.topology.connect "dn-0 " = .error (.connection "dn-0 " message)) ∧
      (∃ connection, transcript.topology.connect "dn-0" = .ok (.answering connection) ∧
        ∀ route, connection route Statement.version = .ok [⟨[some "8.0.32"]⟩]) ∧
      transcript.topology.connect " dn-0" = .error (.unknownNode " dn-0") := by
  intro primary twin transcript
  have accepted : ofProfiles [primary, twin] = .ok transcript := by decide +kernel
  have first : primary ∈ [primary, twin] := List.mem_cons_self
  have second : twin ∈ [primary, twin] := List.mem_cons_of_mem primary List.mem_cons_self
  obtain ⟨_, reached⟩ := (usable_names_accepted_and_found [primary, twin]).2.2 transcript accepted
  obtain ⟨connection, connected, answers⟩ := ((reached "dn-0").2 primary first rfl).2 rfl
  refine ⟨accepted, first, second, ((reached "dn-0 ").2 twin second rfl).1.mpr rfl, ?_, ?_⟩
  · exact ⟨connection, connected, fun route => (answers route Statement.version).trans rfl⟩
  · refine (reached " dn-0").1.mpr (List.forall_mem_cons.mpr ⟨?_, List.forall_mem_singleton.mpr ?_⟩) <;> decide

end Transcript

end ClusterCaps
