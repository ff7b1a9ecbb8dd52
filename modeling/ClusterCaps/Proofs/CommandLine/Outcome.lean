import ClusterCaps.CommandLine.Run
import ClusterCaps.Proofs.Config.Loading
import ClusterCaps.Proofs.Topology.Profile
import ClusterCaps.Proofs.Topology.Transcript

set_option autoImplicit false

namespace ClusterCaps

def Failure.Category.firstCode : Failure.Category → Nat
  | config => 10
  | topology => 20
  | probe => 30
  | lifecycle => 40
  | io => 60

namespace CommandLine

inductive Inquiry where
  | probe
  | node (name : String) (recheck : Bool)

def Inquiry.task : Inquiry → Task
  | probe => .probe
  | node name recheck => .node name recheck

inductive Trouble where
  | config
  | noTopology
  | topologyFile
  | unreachable (node : String)
  | probe (node : String)
  | noSnapshot (node : String)

namespace Trouble

def status : Trouble → Nat
  | config => 11
  | noTopology => 12
  | topologyFile => 12
  | unreachable _ => 12
  | probe _ => 13
  | noSnapshot _ => 14

def category : Trouble → Failure.Category
  | config => .config
  | noTopology => .topology
  | topologyFile => .topology
  | unreachable _ => .topology
  | probe _ => .probe
  | noSnapshot _ => .topology

def node? : Trouble → Option String
  | config => none
  | noTopology => none
  | topologyFile => none
  | unreachable node => some node
  | probe node => some node
  | noSnapshot node => some node

end Trouble

section

variable (around : Surroundings) (options : Options)

def Configures (result : Except Config.Error Config.Loaded) : Prop :=
  Config.Settles around.files around.environment options.config? around.time result

structure Opened (loaded : Config.Loaded) (transcript : Transcript) : Prop where
  config : Configures around options (.ok loaded)
  topology : ∃ path, options.topology? = some path ∧ Transcript.Lists around.files path transcript.profiles
  usable : Transcript.Usable transcript.profiles

-- What goes wrong first. Each case has all stages before its own succeed.
inductive Fails : Inquiry → Trouble → Prop where
  | config (inquiry : Inquiry) (error : Config.Error) (failed : Configures around options (.error error)) :
      Fails inquiry .config
  | noTopology (inquiry : Inquiry) (loaded : Config.Loaded) (config : Configures around options (.ok loaded))
      (unset : options.topology? = none) : Fails inquiry .noTopology
  | topologyFile (inquiry : Inquiry) (loaded : Config.Loaded) (path : String) (error : TopologyError)
      (config : Configures around options (.ok loaded)) (set : options.topology? = some path)
      (unfit : Transcript.Unfit around.files path error) : Fails inquiry .topologyFile
  | unreachable (inquiry : Inquiry) (loaded : Config.Loaded) (transcript : Transcript) (profile : Profile)
      (opened : Opened around options loaded transcript)
      (halted : Transcript.Halts loaded.config.probeOptions transcript.sql profile)
      (cut : profile.unreachable = true) : Fails inquiry (.unreachable profile.name)
  | probe (inquiry : Inquiry) (loaded : Config.Loaded) (transcript : Transcript) (profile : Profile)
      (cause : ProbeError) (opened : Opened around options loaded transcript)
      (halted : Transcript.Halts loaded.config.probeOptions transcript.sql profile)
      (refused : profile.Refuses loaded.config.probeOptions cause) : Fails inquiry (.probe profile.name)
  | noSnapshot (name : String) (recheck : Bool) (loaded : Config.Loaded) (transcript : Transcript)
      (entries : List (String × Node.Snapshot)) (opened : Opened around options loaded transcript)
      (surveyed : Transcript.Surveyed loaded.config.probeOptions transcript.sql entries)
      (absent : ∀ profile ∈ transcript.sql, profile.name ≠ name) :
      Fails (.node name recheck) (.noSnapshot name)
  | recheck (loaded : Config.Loaded) (transcript : Transcript)
      (entries : List (String × Node.Snapshot)) (profile : Profile) (cause : ProbeError)
      (opened : Opened around options loaded transcript)
      (surveyed : Transcript.Surveyed loaded.config.probeOptions transcript.sql entries)
      (asked : profile ∈ transcript.sql)
      (failed : (Check.timestampHeartbeat.run profile.connection).result = .error cause) :
      Fails (.node profile.name true) (.probe profile.name)

variable (loaded : Config.Loaded) (transcript : Transcript) (entries : List (String × Node.Snapshot))

variable {loaded} {transcript} {entries}

end

structure Documents (trouble : Trouble) (members : List (String × Json)) : Prop where
  category : members.lookup "category" = some (.string trouble.category.name)
  code : ∃ code, members.lookup "code" = some (.nat code) ∧ trouble.category.firstCode ≤ code ∧
    code < trouble.category.firstCode + 10
  node : ∀ node, trouble.node? = some node →
    ∃ context, members.lookup "context" = some (.object context) ∧ context.lookup "node" = some (.string node)
  unrelated : trouble.node? = none → members.lookup "context" = none

-- What a failed run puts out: one document for a program, and nothing among what people read.
inductive Told (trouble : Trouble) : Layout → String → Prop where
  | document (members : List (String × Json)) (told : Documents trouble members) :
      Told trouble .json (Json.pretty (.object members) ++ "\n")
  | silent (layout : Layout) (forPeople : layout ≠ .json) : Told trouble layout ""

section

variable {around : Surroundings} {options : Options} {loaded : Config.Loaded} {transcript : Transcript}

end

namespace Inquiry

variable (around : Surroundings) (options : Options)

def answer : Inquiry → Except Halt String
  | probe => (around.ask options (clusterReport around.time)).result.map (·.render options.layout)
  | node name recheck =>
    (around.ask options fun _ => nodeReport name recheck).result.map (·.render options.layout)

variable {around options} {loaded : Config.Loaded} {transcript : Transcript}

end Inquiry

def answeringText : String :=
  "nodes:\n- name: dn-0\n  version: 8.0.32\n  variables:\n    innodb_heartbeat_seq: present\n"

def pairText : String := answeringText ++ "- name: col-0\n  engine: columnar\n"
def lostText : String := answeringText ++ "- name: dn-1\n  unreachable: true\n"
def muteText : String := "nodes:\n- name: dn-0\n"
def deafText : String := "nodes:\n- name: dn-0\n  faults:\n  - matches: heartbeat\n"
def mockText : String := "[deployment]\nfast_mock = true\n"

def stored : Surroundings where
  environment := []
  files path :=
    if path = "pair.yaml" then .file true (.ok pairText.toUTF8)
    else if path = "lost.yaml" then .file true (.ok lostText.toUTF8)
    else if path = "mute.yaml" then .file true (.ok muteText.toUTF8)
    else if path = "deaf.yaml" then .file true (.ok deafText.toUTF8)
    else if path = "mock.toml" then .file true (.ok mockText.toUTF8)
    else if path = "sealed.toml" then .file true (.error .denied)
    else .absent .missing
  time := Timestamp.epoch
  passId := ⟨"sc-19700101-000000"⟩

def answering : Profile :=
  { name := "dn-0", version? := some "8.0.32", serverVariables := [("innodb_heartbeat_seq", "present")] }

def columnar : Profile := { name := "col-0", kind := .columnar }
def lost : Profile := { name := "dn-1", unreachable := true }
structure Ends (words : List String) (options : Options) (inquiry : Inquiry) (trouble : Trouble) : Prop where
  asked : Invocation.ofWords stored.environment words = .ok ⟨options, inquiry.task⟩
  fails : Fails stored options inquiry trouble
  status : (run words stored).status = trouble.status
  told : Told trouble options.layout (run words stored).output

end CommandLine

end ClusterCaps
