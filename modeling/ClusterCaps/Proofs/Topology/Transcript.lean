import Mathlib.Data.List.Forall2
import ClusterCaps.Proofs.Manager.History
import ClusterCaps.Proofs.Topology.Acceptance

set_option autoImplicit false

namespace ClusterCaps

namespace Transcript

inductive WrittenIn (path : String) : Dialect → Prop where
  | toml (named : Path.extension? path = some "toml") : WrittenIn path .toml
  | yaml (named : Path.extension? path = some "yaml") : WrittenIn path .yaml
  | yml (named : Path.extension? path = some "yml") : WrittenIn path .yaml
  | json (named : Path.extension? path = some "json") : WrittenIn path .json

-- A text can be read at the path, and in the notation of the path it is a list of these nodes.
def Lists (files : Files) (path : String) (profiles : List Profile) : Prop :=
  ∃ dialect content, WrittenIn path dialect ∧ (files path).Holds content ∧
    (dialect.read? content).bind (decodeProfiles dialect) = some profiles

inductive Unfit (files : Files) (path : String) : TopologyError → Prop where
  | foreign (unwritten : ∀ dialect, ¬ WrittenIn path dialect) :
      Unfit files path (.invalid ("unsupported topology file extension: " ++ path))
  | unreadable (dialect : Dialect) (cause : ReadError) (written : WrittenIn path dialect)
      (broken : (files path).read = .error cause) :
      Unfit files path (.unavailable ("cannot read " ++ path ++ ": " ++ cause.text))
  | malformed (dialect : Dialect) (content : String) (written : WrittenIn path dialect)
      (holds : (files path).Holds content) (unread : (dialect.read? content).bind (decodeProfiles dialect) = none) :
      Unfit files path unreadable
  | defective (profiles : List Profile) (error : TopologyError) (lists : Lists files path profiles)
      (defect : Defect profiles error) : Unfit files path error

def sql (transcript : Transcript) : List Profile :=
  transcript.profiles.filter fun profile => profile.descriptor.isSql

def skipped (transcript : Transcript) : List String :=
  (transcript.profiles.filter fun profile => !profile.descriptor.isSql).map Profile.name

end Transcript

namespace Profile

variable (options : ProbeOptions) (profile : Profile)

def Answers (snapshot : Node.Snapshot) : Prop :=
  profile.unreachable = false ∧ ((Node.Snapshot.probe options).run profile.connection).result = .ok snapshot

def Refuses (cause : ProbeError) : Prop :=
  profile.unreachable = false ∧ ((Node.Snapshot.probe options).run profile.connection).result = .error cause

end Profile

namespace Transcript

section

variable (options : ProbeOptions)

def Surveyed (profiles : List Profile) (entries : List (String × Node.Snapshot)) : Prop :=
  List.Forall₂ (fun profile entry => entry.1 = profile.name ∧ profile.Answers options entry.2) profiles entries

structure Halts (profiles : List Profile) (profile : Profile) : Prop where
  first : ∃ earlier later, profiles = earlier ++ profile :: later ∧
    ∀ before ∈ earlier, ∃ snapshot, before.Answers options snapshot
  silent : ∀ snapshot, ¬ profile.Answers options snapshot

variable {options} {profiles : List Profile} {entries : List (String × Node.Snapshot)}

end

variable (transcript : Transcript) (options : ProbeOptions)

def visit (profile : Profile) : Visit := Visit.of transcript.topology options profile.name

section

variable (named : transcript.Named) (profile : Profile) (listed : profile ∈ transcript.profiles)

include named listed

end

variable {transcript options}

end Transcript

end ClusterCaps
