import ClusterCaps.Config.Error
import ClusterCaps.Config.Snapshot
import ClusterCaps.Json.Reader
import ClusterCaps.Text.Letter
import ClusterCaps.Toml.Reader

set_option autoImplicit false

namespace ClusterCaps.Config

def readData? : Dialect → String → Option Data
  | .toml, content => Toml.read? content
  | .json, content => Json.read? content
  | .yaml, _ => none

def parse (dialect : Dialect) (content : String) : Except Error Config :=
  match (readData? dialect content).bind (decode dialect) with
  | some config => .ok config
  | none => .error (.malformed dialect)

def dialectOfPath (path : String) : Except Error Dialect :=
  match Text.lowered ((Path.extension? path).getD "") with
  | "toml" => .ok .toml
  | "json" => .ok .json
  | extension => .error (.unknownNotation extension)

def readFile (files : Files) (path : String) : Except Error String :=
  match (files path).read with
  | .ok content => .ok content
  | .error cause => .error (.unreadable path cause)

def ofFile (files : Files) (path : String) : Except Error Config := do
  let content ← readFile files path
  let dialect ← dialectOfPath path
  parse dialect content

structure Loaded where
  config : Config
  snapshot : Snapshot
deriving DecidableEq, Repr

def checkArgument (files : Files) : Option String → Except Error Unit
  | none => .ok ()
  | some path => if (files path).isThere then .ok () else .error (.missing path)

def loadChoice (files : Files) (choice : Choice) (time : Timestamp) : Except Error Loaded :=
  match choice.path? with
  | none => .ok ⟨standard, Snapshot.ofDefaults time⟩
  | some path => do
    let content ← readFile files path
    let dialect ← dialectOfPath path
    let config ← parse dialect content
    validate config
    return ⟨config, config.snapshot choice content time⟩

def load (files : Files) (environment : Environment) (argument : Option String)
    (time : Timestamp) : Except Error Loaded := do
  checkArgument files argument
  loadChoice files (resolve files environment argument) time

end ClusterCaps.Config
