import ClusterCaps.Config.Basic
import ClusterCaps.Files.Entry
import ClusterCaps.Text.Quoted

set_option autoImplicit false

namespace ClusterCaps.Config

inductive Error where
  | missing (path : String)
  | unreadable (path : String) (cause : ReadError)
  | unknownNotation (extension : String)
  | malformed (dialect : Dialect)
  | invalidValue (field message : String)
  | versionMismatch (expected actual : String)
deriving DecidableEq, Repr

-- The text of a configuration is not what it should be; what exactly is wrong is not said.
def malformedText : Dialect → String
  | .toml => "Invalid TOML: the text does not hold a configuration"
  | .json => "Invalid JSON: the text does not hold a configuration"
  | .yaml => "Invalid YAML: the text does not hold a configuration"

inductive Error.Kind where
  | io
  | parse
  | value
  | version
deriving DecidableEq, Repr

namespace Error

def kind : Error → Kind
  | missing _ => .io
  | unreadable _ _ => .io
  | unknownNotation _ => .parse
  | malformed _ => .parse
  | invalidValue _ _ => .value
  | versionMismatch _ _ => .version

def detail : Error → String
  | missing path => "Config file not found: " ++ path
  | unreadable path cause => "Failed to read " ++ path ++ ": " ++ cause.text
  | unknownNotation extension => "unsupported config format: " ++ Text.quoted extension
  | malformed dialect => malformedText dialect
  | invalidValue field message => field ++ ": " ++ message
  | versionMismatch expected actual => "expected " ++ expected ++ ", got " ++ actual

def Kind.title : Kind → String
  | io => "I/O error: "
  | parse => "Parse error: "
  | value => "Invalid value for "
  | version => "Version mismatch: "

def text (error : Error) : String := error.kind.title ++ error.detail

def Kind.code : Kind → Nat
  | io => 60
  | parse => 61
  | value => 65
  | version => 66

def code (error : Error) : Nat := error.kind.code

end Error

def major? (version : String) : Option Nat :=
  match Text.splitOn '.' version.toList with
  | first :: _ => Text.uint32? first
  | [] => none

def isNameChar (c : Char) : Bool :=
  Text.isDigit c || (65 ≤ c.toNat && c.toNat ≤ 90) || (97 ≤ c.toNat && c.toNat ≤ 122) || c == '_'

def checkName (field name : String) : Except Error Unit :=
  if name.toList.isEmpty then .error (.invalidValue field "Must not be empty")
  else if !name.toList.all isNameChar then
    .error (.invalidValue field ("Must contain only [A-Za-z0-9_], got " ++ Text.quoted name))
  else .ok ()

def maxParallelism : Nat := 64

def checkParallelism (parallelism : Nat) : Except Error Unit :=
  if parallelism = 0 ∨ maxParallelism < parallelism then
    .error (.invalidValue "probe.parallelism"
      ("Must be in [1, " ++ Text.ofNat maxParallelism ++ "], got " ++ Text.ofNat parallelism))
  else .ok ()

def checkVersion (version : String) : Except Error Unit :=
  if major? version = major? Config.currentVersion then .ok ()
  else .error (.versionMismatch (Text.ofNat ((major? Config.currentVersion).getD 0) ++ ".x") version)

def validate (config : Config) : Except Error Unit := do
  checkVersion config.schemaVersion
  checkName "udf.plugin_name" config.udf.pluginName
  checkName "udf.function_list_variable" config.udf.functionListVariable
  checkParallelism config.probe.parallelism

end ClusterCaps.Config
