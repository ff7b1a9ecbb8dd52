import ClusterCaps.Files.Entry
import ClusterCaps.Files.Path

set_option autoImplicit false

namespace ClusterCaps.Config

inductive Source where
  | commandLine
  | environment
  | userDirectory
  | systemDirectory
  | builtin
deriving DecidableEq, Repr

def Source.text : Source → String
  | commandLine => "CLI argument"
  | environment => "environment variable"
  | userDirectory => "XDG config"
  | systemDirectory => "system config"
  | builtin => "builtin default"

structure Choice where
  path? : Option String
  source : Source
deriving DecidableEq, Repr

structure Candidate where
  path : String
  source : Source
  -- The place counts only with a regular file in it, not with anything else.
  regular : Bool
deriving DecidableEq, Repr

def fileNames : List String := ["capabilities.toml", "capabilities.json"]

def directoryName : String := "storage-caps"

def inDirectory (source : Source) (directory : String) : List Candidate :=
  fileNames.map fun name => ⟨Path.inside directory name, source, true⟩

def userDirectory? (environment : Environment) : Option String :=
  match (environment.get? "XDG_CONFIG_HOME").filter Path.isAbsolute with
  | some directory => some directory
  | none =>
    match environment.get? "HOME" with
    | some home => if home = "" then none else some (Path.inside home ".config")
    | none => none

def systemDirectory : String := "/etc/storage-caps"

def candidates (environment : Environment) (argument : Option String) : List Candidate :=
  (argument.map fun path => Candidate.mk path .commandLine false).toList ++
  ((environment.get? "STORAGE_CAPS_CONFIG").map fun path =>
    Candidate.mk path .environment false).toList ++
  ((environment.get? "STORAGE_CAPS_CONFIG_DIR").map (inDirectory .environment)).getD [] ++
  ((userDirectory? environment).map fun directory =>
    inDirectory .userDirectory (Path.inside directory directoryName)).getD [] ++
  inDirectory .systemDirectory systemDirectory

def Candidate.isThere (candidate : Candidate) (files : Files) : Bool :=
  if candidate.regular then (files candidate.path).isFile else (files candidate.path).isThere

def choose (files : Files) (places : List Candidate) : Choice :=
  match places.find? (·.isThere files) with
  | some candidate => ⟨some candidate.path, candidate.source⟩
  | none => ⟨none, .builtin⟩

def resolve (files : Files) (environment : Environment) (argument : Option String) : Choice :=
  choose files (candidates environment argument)

end ClusterCaps.Config
