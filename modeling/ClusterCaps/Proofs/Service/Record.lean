import ClusterCaps.Proofs.Manager.Naming
import ClusterCaps.Proofs.Service.Step

set_option autoImplicit false

namespace ClusterCaps

namespace Service

def Sign.publish : Sign → Option Findings → Option Findings
  | .published findings, _ => some findings
  | .wiped, _ => none
  | _, earlier => earlier

def Sign.list : Sign → Option Findings → Option Findings
  | .listed findings, _ => some findings
  | .cleared, _ => none
  | _, earlier => earlier

def Sign.omit : Sign → List String → List String
  | .omitted findings, _ => findings.skipped
  | .blanked, _ => []
  | _, earlier => earlier

def Sign.shelve (earlier : List Sighting) (nodes : NameMap Node.Snapshot) : Sign → NameMap Node.Snapshot
  | .placed name snapshot => nodes.insert name snapshot
  | .listed findings => nodes.retain findings.names
  | .cleared => []
  | .beat name edition supported => if editions name earlier = edition then withBeat nodes name supported else nodes
  | _ => nodes

-- What passes and resets store. A recheck changes no more than a heartbeat.
def Sign.renews : Sign → Bool
  | .placed _ _ => true
  | .listed _ => true
  | .omitted _ => true
  | .published _ => true
  | .cleared => true
  | .blanked => true
  | .wiped => true
  | .forgot => true
  | _ => false

def remembered (keep : Sign → Option Findings → Option Findings) (record : List Sighting) : Option Findings :=
  record.foldr (fun seen earlier => keep seen.sign earlier) none

def published? (record : List Sighting) : Option Findings := remembered Sign.publish record

def listed? (record : List Sighting) : Option Findings := remembered Sign.list record

def clusterOf (record : List Sighting) : Cluster := (published? record).elim Cluster.nothing Findings.cluster

def skippedOf (record : List Sighting) : List String :=
  record.foldr (fun seen earlier => seen.sign.omit earlier) []

def nodesOf : List Sighting → NameMap Node.Snapshot
  | [] => []
  | seen :: earlier => seen.sign.shelve earlier (nodesOf earlier)

def steadyOf (record : List Sighting) (name : String) : Option Node.Snapshot :=
  ((nodesOf record).lookup name).map Node.Snapshot.steady

def Others (thread : Nat) (record : List Sighting) : Prop := ∀ seen ∈ record, seen.thread ≠ thread

def Last (thread : Nat) (sign : Sign) (Holds : List Sighting → Prop) (record : List Sighting) : Prop :=
  ∃ recent before, record = recent ++ ⟨thread, sign⟩ :: before ∧ Others thread recent ∧ Holds before

def Unfinished (sign : Sign) (record : List Sighting) : Prop :=
  ∃ user recent before, record = recent ++ ⟨user, sign⟩ :: before ∧ ∀ seen ∈ recent, seen.sign ≠ .forgot

-- What lets a call in: flags and nodes of some pass are there, or a reset is about to take the state back.
structure Open (record : List Sighting) : Prop where
  flags : published? record ≠ none ∨ Unfinished .wiped record
  nodes : listed? record ≠ none ∨ Unfinished .cleared record

def Admitted (thread : Nat) (errand : Errand) (record : List Sighting) : Prop :=
  Last thread (.admitted errand) Open record

def Fetched (thread : Nat) (name : String) (edition : Nat) (record : List Sighting) : Prop :=
  Last thread (.fetched name edition)
    (fun before => edition = editions name before ∧ (nodesOf before).lookup name ≠ none) record

def Heard (thread : Nat) (name : String) (edition : Nat) (supported : Bool) (record : List Sighting) : Prop :=
  Last thread (.heard name supported) (Fetched thread name edition) record

def Beaten (thread : Nat) (name : String) (edition : Nat) (supported : Bool) (record : List Sighting) : Prop :=
  Last thread (.beat name edition supported) (Heard thread name edition supported) record

def SawCluster (thread : Nat) (time : Timestamp) (cluster : Cluster) (record : List Sighting) : Prop :=
  Last thread (.sawCluster cluster)
    (fun before => cluster = clusterOf before ∧ Admitted thread (.report time) before) record

def SawNodes (thread : Nat) (time : Timestamp) (cluster : Cluster) (nodes : NameMap Node.Snapshot)
    (record : List Sighting) : Prop :=
  Last thread (.sawNodes nodes) (fun before => nodes = nodesOf before ∧ SawCluster thread time cluster before) record

def SawPass (thread : Nat) (time : Timestamp) (cluster : Cluster) (nodes : NameMap Node.Snapshot)
    (pass? : Option PassId) (record : List Sighting) : Prop :=
  Last thread (.sawPass pass?) (SawNodes thread time cluster nodes) record

def Probed (findings : Findings) (record : List Sighting) : Prop :=
  ∃ user, ⟨user, .probed (.ok findings)⟩ ∈ record

def Laid (entries : List (String × Node.Snapshot)) (record : List Sighting) : Prop :=
  ∀ name snapshot, entries.reverse.lookup name = some snapshot → steadyOf record name = some snapshot.steady

def Stocked (findings : Findings) (record : List Sighting) : Prop :=
  ∀ name, steadyOf record name = (findings.snapshots.reverse.lookup name).map Node.Snapshot.steady

def Errand.Settled (thread : Nat) (earlier : List Sighting) (result : Except PassError Answer) : Errand → Prop
  | .flag read => Admitted thread (.flag read) earlier ∧ result = .ok (.flag (read (clusterOf earlier)))
  | .capabilities => Admitted thread .capabilities earlier ∧ result = .ok (.cluster (clusterOf earlier))
  | .node name => Admitted thread (.node name) earlier ∧ result = found (nodesOf earlier) name
  | .recheck name => ∀ answer, result = .ok answer →
      ∃ edition supported, answer = .flag supported ∧ Beaten thread name edition supported earlier
  | .report time => ∃ manager, SawPass thread time manager.cluster manager.nodes manager.lastPass? earlier ∧
      manager.skipped = skippedOf earlier ∧
      result = .ok (.report (ClusterReport.ofManager manager manager.cluster time))

def Sighting.Sound (seen : Sighting) (earlier : List Sighting) : Prop :=
  match seen.sign with
  | .placed name snapshot => ∃ findings, Probed findings earlier ∧ (name, snapshot) ∈ findings.snapshots
  | .listed findings => Probed findings earlier ∧ Laid findings.snapshots earlier
  | .omitted findings => Probed findings earlier
  | .published findings =>
      Probed findings earlier ∧ Stocked findings earlier ∧ skippedOf earlier = findings.skipped
  | .beat name edition supported => Heard seen.thread name edition supported earlier
  | .answered errand result => errand.Settled seen.thread earlier result
  | _ => True

def Sound : List Sighting → Prop
  | [] => True
  | seen :: earlier => seen.Sound earlier ∧ Sound earlier

theorem sound_append (later earlier : List Sighting) (sound : Sound (later ++ earlier)) : Sound earlier := by
  induction later with
  | nil => exact sound
  | cons seen later ih => exact ih sound.2

theorem sound_at (later earlier : List Sighting) (seen : Sighting) (sound : Sound (later ++ seen :: earlier)) :
    seen.Sound earlier := (sound_append later _ sound).1

theorem sound_mem (record : List Sighting) (seen : Sighting) (sound : Sound record) (member : seen ∈ record) :
    ∃ later earlier, record = later ++ seen :: earlier ∧ seen.Sound earlier := by
  obtain ⟨later, earlier, rfl⟩ := List.append_of_mem member
  exact ⟨later, earlier, rfl, sound_at later earlier seen sound⟩

theorem others_nil (thread : Nat) : Others thread [] := fun _ member => absurd member List.not_mem_nil

theorem last_now (thread : Nat) (sign : Sign) (Holds : List Sighting → Prop) (record : List Sighting)
    (holds : Holds record) : Last thread sign Holds (⟨thread, sign⟩ :: record) :=
  ⟨[], record, rfl, others_nil thread, holds⟩

theorem last_cons (thread : Nat) (sign : Sign) (Holds : List Sighting → Prop) (seen : Sighting)
    (record : List Sighting) (other : seen.thread ≠ thread) (last : Last thread sign Holds record) :
    Last thread sign Holds (seen :: record) := by
  obtain ⟨recent, before, whole, others, holds⟩ := last
  refine ⟨seen :: recent, before, by rw [whole, List.cons_append], ?_, holds⟩
  exact List.forall_mem_cons.mpr ⟨other, others⟩

theorem last_place (kind : Sighting → Prop) (recent other older before : List Sighting) (seen mark : Sighting)
    (whole : recent ++ seen :: older = other ++ mark :: before) (here : kind seen) (there : kind mark)
    (none : ∀ later ∈ recent, ¬ kind later) (neither : ∀ later ∈ other, ¬ kind later) :
    recent = other ∧ older = before := by
  induction recent generalizing other with
  | nil =>
      cases other with
      | nil => exact ⟨rfl, (List.cons.inj whole).2⟩
      | cons first other =>
          obtain ⟨rfl, _⟩ := List.cons.inj whole
          exact absurd here (neither seen List.mem_cons_self)
  | cons first recent ih =>
      cases other with
      | nil =>
          obtain ⟨rfl, _⟩ := List.cons.inj whole
          exact absurd there (none first List.mem_cons_self)
      | cons second other =>
          obtain ⟨rfl, rest⟩ := List.cons.inj whole
          obtain ⟨rfl, same⟩ := ih other rest (fun later member => none later (List.mem_cons_of_mem first member))
            fun later member => neither later (List.mem_cons_of_mem first member)
          exact ⟨rfl, same⟩

theorem unfinished_now (user : Nat) (sign : Sign) (record : List Sighting) :
    Unfinished sign (⟨user, sign⟩ :: record) :=
  ⟨user, [], record, rfl, fun _ member => absurd member List.not_mem_nil⟩

theorem unfinished_cons (sign : Sign) (seen : Sighting) (record : List Sighting) (kept : seen.sign ≠ .forgot)
    (unfinished : Unfinished sign record) : Unfinished sign (seen :: record) := by
  obtain ⟨user, recent, before, whole, working⟩ := unfinished
  refine ⟨user, seen :: recent, before, by rw [whole, List.cons_append], ?_⟩
  exact List.forall_mem_cons.mpr ⟨kept, working⟩

theorem open_cons (seen : Sighting) (record : List Sighting) (kept : seen.sign ≠ .forgot) (opened : Open record) :
    Open (seen :: record) := by
  have flags := opened.flags.imp_right (unfinished_cons .wiped seen record kept)
  have nodes := opened.nodes.imp_right (unfinished_cons .cleared seen record kept)
  obtain ⟨thread, sign⟩ := seen
  cases sign with
  | published findings => exact ⟨Or.inl nofun, nodes⟩
  | wiped => exact ⟨Or.inr (unfinished_now thread .wiped record), nodes⟩
  | listed findings => exact ⟨flags, Or.inl nofun⟩
  | cleared => exact ⟨flags, Or.inr (unfinished_now thread .cleared record)⟩
  | forgot => exact absurd rfl kept
  | _ => exact ⟨flags, nodes⟩

theorem probed_cons (findings : Findings) (seen : Sighting) (record : List Sighting)
    (probed : Probed findings record) : Probed findings (seen :: record) :=
  probed.imp fun _ member => List.mem_cons_of_mem seen member

theorem probed_append (findings : Findings) (later earlier : List Sighting) (probed : Probed findings earlier) :
    Probed findings (later ++ earlier) := probed.imp fun _ member => List.mem_append_right later member

theorem remembered_stored (keep : Sign → Option Findings → Option Findings) (store : Findings → Sign)
    (stores : ∀ sign earlier findings, keep sign earlier = some findings →
      earlier = some findings ∨ sign = store findings)
    (record : List Sighting) (findings : Findings) (kept : remembered keep record = some findings) :
    ∃ user, ⟨user, store findings⟩ ∈ record := by
  induction record with
  | nil => cases kept
  | cons seen earlier ih =>
      rcases stores seen.sign (remembered keep earlier) findings kept with before | now
      · obtain ⟨user, member⟩ := ih before
        exact ⟨user, List.mem_cons_of_mem seen member⟩
      · refine ⟨seen.thread, ?_⟩
        rw [← now]
        exact List.mem_cons_self

theorem remembered_dropped (keep : Sign → Option Findings → Option Findings) (drop : Sign)
    (drops : ∀ sign earlier, keep sign earlier = none → earlier = none ∨ sign = drop)
    (recent before : List Sighting) (had : remembered keep before ≠ none)
    (gone : remembered keep (recent ++ before) = none) : ∃ user, ⟨user, drop⟩ ∈ recent := by
  induction recent with
  | nil => exact absurd gone had
  | cons seen recent ih =>
      rcases drops seen.sign (remembered keep (recent ++ before)) gone with earlier | now
      · obtain ⟨user, member⟩ := ih earlier
        exact ⟨user, List.mem_cons_of_mem seen member⟩
      · refine ⟨seen.thread, ?_⟩
        rw [← now]
        exact List.mem_cons_self

theorem published_stored (record : List Sighting) (findings : Findings) (kept : published? record = some findings) :
    ∃ user, ⟨user, .published findings⟩ ∈ record := by
  refine remembered_stored Sign.publish .published ?_ record findings kept
  intro sign earlier findings stored
  cases sign with
  | published other => exact Or.inr (congrArg Sign.published (Option.some.inj stored))
  | wiped => cases stored
  | _ => exact Or.inl stored

theorem published_dropped (recent before : List Sighting) (had : published? before ≠ none)
    (gone : published? (recent ++ before) = none) : ∃ user, ⟨user, .wiped⟩ ∈ recent := by
  refine remembered_dropped Sign.publish .wiped ?_ recent before had gone
  intro sign earlier dropped
  cases sign with
  | published other => cases dropped
  | wiped => exact Or.inr rfl
  | _ => exact Or.inl dropped

theorem listed_stored (record : List Sighting) (findings : Findings) (kept : listed? record = some findings) :
    ∃ user, ⟨user, .listed findings⟩ ∈ record := by
  refine remembered_stored Sign.list .listed ?_ record findings kept
  intro sign earlier findings stored
  cases sign with
  | listed other => exact Or.inr (congrArg Sign.listed (Option.some.inj stored))
  | cleared => cases stored
  | _ => exact Or.inl stored

theorem listed_dropped (recent before : List Sighting) (had : listed? before ≠ none)
    (gone : listed? (recent ++ before) = none) : ∃ user, ⟨user, .cleared⟩ ∈ recent := by
  refine remembered_dropped Sign.list .cleared ?_ recent before had gone
  intro sign earlier dropped
  cases sign with
  | listed other => cases dropped
  | cleared => exact Or.inr rfl
  | _ => exact Or.inl dropped

theorem with_beat_ascending (nodes : NameMap Node.Snapshot) (name : String) (supported : Bool)
    (ascending : NameMap.Ascending nodes) : NameMap.Ascending (withBeat nodes name supported) := by
  unfold withBeat
  split
  · exact NameMap.insert_ascending nodes name _ ascending
  · exact ascending

theorem lookup_with_beat (nodes : NameMap Node.Snapshot) (name : String) (supported : Bool) :
    (withBeat nodes name supported).lookup name =
      (nodes.lookup name).map fun snapshot => { snapshot with heartbeat := supported } := by
  unfold withBeat
  split
  · next snapshot known => rw [NameMap.lookup_insert_self, known, Option.map_some]
  · next unknown => rw [unknown, Option.map_none]

theorem lookup_with_beat_of_ne (nodes : NameMap Node.Snapshot) (name other : String) (supported : Bool)
    (apart : other ≠ name) : (withBeat nodes name supported).lookup other = nodes.lookup other := by
  unfold withBeat
  split
  · exact NameMap.lookup_insert_of_ne nodes name other _ apart
  · rfl

theorem with_beat_steady (nodes : NameMap Node.Snapshot) (name other : String) (supported : Bool) :
    ((withBeat nodes name supported).lookup other).map Node.Snapshot.steady =
      (nodes.lookup other).map Node.Snapshot.steady := by
  by_cases same : other = name
  · subst same
    rw [lookup_with_beat, Option.map_map]
    rfl
  · rw [lookup_with_beat_of_ne nodes name other supported same]

theorem nodes_of_ascending (record : List Sighting) : NameMap.Ascending (nodesOf record) := by
  induction record with
  | nil => exact List.Pairwise.nil
  | cons seen earlier ih =>
      obtain ⟨thread, sign⟩ := seen
      cases sign with
      | placed name snapshot => exact NameMap.insert_ascending _ name snapshot ih
      | listed findings => exact NameMap.retain_ascending _ findings.names ih
      | cleared => exact List.Pairwise.nil
      | beat name edition supported =>
          change NameMap.Ascending (if editions name earlier = edition then _ else _)
          split
          · exact with_beat_ascending _ name supported ih
          · exact ih
      | _ => exact ih

-- The later record leaves the same in the manager, but for heartbeats.
structure Keeps (later earlier : List Sighting) : Prop where
  published : published? later = published? earlier
  listed : listed? later = listed? earlier
  skipped : skippedOf later = skippedOf earlier
  steady : ∀ name, steadyOf later name = steadyOf earlier name

theorem quiet_keeps (seen : Sighting) (earlier : List Sighting) (quiet : seen.sign.renews = false) :
    Keeps (seen :: earlier) earlier := by
  obtain ⟨thread, sign⟩ := seen
  cases sign with
  | placed _ _ => cases quiet
  | listed _ => cases quiet
  | omitted _ => cases quiet
  | published _ => cases quiet
  | cleared => cases quiet
  | blanked => cases quiet
  | wiped => cases quiet
  | forgot => cases quiet
  | beat name edition supported =>
      refine ⟨rfl, rfl, rfl, fun other => ?_⟩
      change ((if editions name earlier = edition then withBeat (nodesOf earlier) name supported
        else nodesOf earlier).lookup other).map Node.Snapshot.steady = _
      split
      · exact with_beat_steady (nodesOf earlier) name other supported
      · rfl
  | _ => exact ⟨rfl, rfl, rfl, fun _ => rfl⟩

theorem quiet_stretch (recent earlier : List Sighting) (quiet : ∀ seen ∈ recent, seen.sign.renews = false) :
    Keeps (recent ++ earlier) earlier := by
  induction recent with
  | nil => exact ⟨rfl, rfl, rfl, fun _ => rfl⟩
  | cons seen recent ih =>
      have before := ih fun later member => quiet later (List.mem_cons_of_mem seen member)
      have now := quiet_keeps seen (recent ++ earlier) (quiet seen List.mem_cons_self)
      exact ⟨now.published.trans before.published, now.listed.trans before.listed,
        now.skipped.trans before.skipped, fun name => (now.steady name).trans (before.steady name)⟩

theorem quiet_not_forgot (sign : Sign) (quiet : sign.renews = false) : sign ≠ .forgot := by
  rintro rfl
  cases quiet

theorem laid_keeps (entries : List (String × Node.Snapshot)) (later earlier : List Sighting)
    (keeps : Keeps later earlier) (laid : Laid entries earlier) : Laid entries later :=
  fun name snapshot entry => (keeps.steady name).trans (laid name snapshot entry)

theorem stocked_keeps (findings : Findings) (later earlier : List Sighting) (keeps : Keeps later earlier)
    (stocked : Stocked findings earlier) : Stocked findings later :=
  fun name => (keeps.steady name).trans (stocked name)

theorem laid_placed (entries : List (String × Node.Snapshot)) (thread : Nat) (name : String)
    (snapshot : Node.Snapshot) (record : List Sighting) (laid : Laid entries record) :
    Laid (entries ++ [(name, snapshot)]) (⟨thread, .placed name snapshot⟩ :: record) := by
  intro other found entry
  rw [List.reverse_concat, List.lookup_cons] at entry
  change (((nodesOf record).insert name snapshot).lookup other).map Node.Snapshot.steady = some found.steady
  by_cases same : other = name
  · subst same
    simp only [BEq.rfl, Option.some.injEq] at entry
    rw [NameMap.lookup_insert_self, entry, Option.map_some]
  · have differs : (other == name) = false := by simpa using same
    rw [differs] at entry
    rw [NameMap.lookup_insert_of_ne _ _ _ _ same]
    exact laid other found entry

theorem unnamed_iff (findings : Findings) (name : String) :
    findings.snapshots.reverse.lookup name = none ↔ name ∉ findings.names := by
  rw [NameMap.lookup_none_iff, List.map_reverse, List.mem_reverse]
  rfl

theorem laid_stocked (findings : Findings) (thread : Nat) (record : List Sighting)
    (laid : Laid findings.snapshots record) : Stocked findings (⟨thread, .listed findings⟩ :: record) := by
  intro name
  change (((nodesOf record).retain findings.names).lookup name).map Node.Snapshot.steady = _
  rw [NameMap.lookup_retain]
  cases entry : findings.snapshots.reverse.lookup name with
  | none => rw [if_neg ((unnamed_iff findings name).mp entry)]
  | some snapshot =>
      have named : name ∈ findings.names := by
        refine Decidable.byContradiction fun absent => ?_
        rw [(unnamed_iff findings name).mpr absent] at entry
        cases entry
      rw [if_pos named]
      exact laid name snapshot entry

end Service

end ClusterCaps
