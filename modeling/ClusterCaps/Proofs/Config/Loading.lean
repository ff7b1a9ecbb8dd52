import Mathlib.Data.List.Nodup
import ClusterCaps.Config.Load

set_option autoImplicit false

namespace ClusterCaps

namespace Config

inductive Searched (environment : Environment) : Nat → Source → String → Prop where
  | named (directory : String) (set : environment.get? "STORAGE_CAPS_CONFIG_DIR" = some directory) :
      Searched environment 1 .environment directory
  | user (directory : String) (known : userDirectory? environment = some directory) :
      Searched environment 3 .userDirectory (Path.inside directory "storage-caps")
  | system : Searched environment 5 .systemDirectory "/etc/storage-caps"

inductive Stands (environment : Environment) : Nat → Candidate → Prop where
  | named (path : String) (set : environment.get? "STORAGE_CAPS_CONFIG" = some path) :
      Stands environment 0 ⟨path, .environment, false⟩
  | toml (rank : Nat) (source : Source) (directory : String) (searched : Searched environment rank source directory) :
      Stands environment rank ⟨Path.inside directory "capabilities.toml", source, true⟩
  | json (rank : Nat) (source : Source) (directory : String) (searched : Searched environment rank source directory) :
      Stands environment (rank + 1) ⟨Path.inside directory "capabilities.json", source, true⟩

def Passed (files : Files) (environment : Environment) (rank : Nat) : Prop :=
  ∀ before candidate, Stands environment before candidate → before < rank → candidate.isThere files = false

inductive Chooses (files : Files) (environment : Environment) : Option String → Choice → Prop where
  | argument (path : String) (there : (files path).isThere = true) :
      Chooses files environment (some path) ⟨some path, .commandLine⟩
  | place (rank : Nat) (candidate : Candidate) (stands : Stands environment rank candidate)
      (there : candidate.isThere files = true) (first : Passed files environment rank) :
      Chooses files environment none ⟨some candidate.path, candidate.source⟩
  | nothing (bare : ∀ rank, Passed files environment rank) : Chooses files environment none ⟨none, .builtin⟩

structure Snapshot.Records (snapshot : Snapshot) (config : Config) (content? path? : Option String)
    (source : Source) (time : Timestamp) : Prop where
  time : snapshot.time = time
  version : snapshot.schemaVersion = config.schemaVersion
  digest : snapshot.digest? = content?.map fun content => Digest.sha256 content.toUTF8
  path : snapshot.path? = path?
  source : snapshot.source = source.text
  mode : snapshot.summary.mode = config.deployment.mode.name
  fastMock : snapshot.summary.fastMock = config.deployment.fastMock
  extendedProtocol : snapshot.summary.extendedProtocol = config.protocol.extendedProtocol
  extendedMetadata : snapshot.summary.metadataExtendedProtocol = config.protocol.metadataExtendedProtocol
  plugin : snapshot.summary.udfPlugin = config.udf.pluginName
  parallelism : snapshot.summary.parallelism = config.probe.parallelism

def extensionOf (path : String) : String := Text.lowered ((Path.extension? path).getD "")

inductive WrittenIn (path : String) : Dialect → Prop where
  | toml (named : extensionOf path = "toml") : WrittenIn path .toml
  | json (named : extensionOf path = "json") : WrittenIn path .json

-- The file that is chosen is the configuration, or else it is the reason why there is none.
inductive Judged (files : Files) (time : Timestamp) : Choice → Except Error Loaded → Prop where
  | defaults (snapshot : Snapshot) (records : snapshot.Records standard none none .builtin time) :
      Judged files time ⟨none, .builtin⟩ (.ok ⟨standard, snapshot⟩)
  | unreadable (path : String) (source : Source) (cause : ReadError) (broken : (files path).read = .error cause) :
      Judged files time ⟨some path, source⟩ (.error (.unreadable path cause))
  | foreign (path : String) (source : Source) (content : String) (holds : (files path).Holds content)
      (unwritten : ∀ dialect, ¬ WrittenIn path dialect) :
      Judged files time ⟨some path, source⟩ (.error (.unknownNotation (extensionOf path)))
  | malformed (path : String) (source : Source) (content : String) (dialect : Dialect)
      (holds : (files path).Holds content) (written : WrittenIn path dialect)
      (unread : (readData? dialect content).bind (decode dialect) = none) :
      Judged files time ⟨some path, source⟩ (.error (.malformed dialect))
  | invalid (path : String) (source : Source) (content : String) (dialect : Dialect) (config : Config) (error : Error)
      (holds : (files path).Holds content) (written : WrittenIn path dialect)
      (read : (readData? dialect content).bind (decode dialect) = some config)
      (refused : config.validate = .error error) : Judged files time ⟨some path, source⟩ (.error error)
  | loaded (path : String) (source : Source) (content : String) (dialect : Dialect) (config : Config)
      (snapshot : Snapshot) (holds : (files path).Holds content) (written : WrittenIn path dialect)
      (read : (readData? dialect content).bind (decode dialect) = some config)
      (accepted : config.validate = .ok ())
      (records : snapshot.Records config (some content) (some path) source time) :
      Judged files time ⟨some path, source⟩ (.ok ⟨config, snapshot⟩)

inductive Settles (files : Files) (environment : Environment) (argument : Option String) (time : Timestamp) :
    Except Error Loaded → Prop where
  | missing (path : String) (named : argument = some path) (absent : (files path).isThere = false) :
      Settles files environment argument time (.error (.missing path))
  | judged (choice : Choice) (result : Except Error Loaded) (chooses : Chooses files environment argument choice)
      (judged : Judged files time choice result) : Settles files environment argument time result

end Config

end ClusterCaps
