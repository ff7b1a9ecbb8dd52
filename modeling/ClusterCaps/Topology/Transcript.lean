import ClusterCaps.Topology.Profile
import ClusterCaps.Files.Entry
import ClusterCaps.Files.Path
import ClusterCaps.Json.Reader
import ClusterCaps.Text.Blank
import ClusterCaps.Toml.Reader
import ClusterCaps.Yaml.Reader

set_option autoImplicit false

namespace ClusterCaps

def Dialect.read? : Dialect → String → Option Data
  | .toml, content => Toml.read? content
  | .yaml, content => Yaml.read? content
  | .json, content => Json.read? content

structure Transcript where
  profiles : List Profile
deriving DecidableEq, Repr

namespace Transcript

def nameError? (seen : List String) : List Profile → Option TopologyError
  | [] => none
  | profile :: rest =>
    if Text.allBlank profile.name then some (.invalid "node with empty name")
    else if seen.contains profile.name then
      some (.invalid ("duplicate node name '" ++ profile.name ++ "'"))
    else nameError? (profile.name :: seen) rest

def ofProfiles (profiles : List Profile) : Except TopologyError Transcript :=
  match nameError? [] profiles with
  | some error => .error error
  | none => .ok ⟨profiles⟩

open Decode in
def decodeProfiles : Decoder (List Profile) := fun dialect data => do
  let fields ← Fields.ofData? ["nodes"] dialect data
  fields.withDefault dialect "nodes" (list Profile.decode) []

def unreadable : TopologyError := .invalid "the text does not hold a list of nodes"

def parse (dialect : Dialect) (content : String) : Except TopologyError Transcript :=
  match (dialect.read? content).bind (decodeProfiles dialect) with
  | none => .error unreadable
  | some profiles => ofProfiles profiles

def dialectOfPath (path : String) : Except TopologyError Dialect :=
  match Path.extension? path with
  | some "toml" => .ok .toml
  | some "yaml" => .ok .yaml
  | some "yml" => .ok .yaml
  | some "json" => .ok .json
  | _ => .error (.invalid ("unsupported topology file extension: " ++ path))

def ofFile (files : Files) (path : String) : Except TopologyError Transcript :=
  match dialectOfPath path with
  | .error error => .error error
  | .ok dialect =>
    match (files path).read with
    | .error cause => .error (.unavailable ("cannot read " ++ path ++ ": " ++ cause.text))
    | .ok content => parse dialect content

def nodes (transcript : Transcript) : List Descriptor := transcript.profiles.map Profile.descriptor

def find? (transcript : Transcript) (name : String) : Option Profile :=
  transcript.profiles.find? fun profile => profile.name == name

def connect (transcript : Transcript) (name : String) : Except TopologyError Link :=
  match transcript.find? name with
  | none => .error (.unknownNode name)
  | some profile =>
    if profile.unreachable then .error (.connection name "no connection available in pool")
    else .ok (.answering profile.connection)

def topology (transcript : Transcript) : Topology := ⟨.ok transcript.nodes, transcript.connect⟩

end Transcript

end ClusterCaps
