import ClusterCaps.Files.Entry
import ClusterCaps.Log.Event
import ClusterCaps.Text.Letter
import ClusterCaps.Text.Scan

set_option autoImplicit false

namespace ClusterCaps.Log

inductive Threshold where
  | upTo (level : Level)
  | off
deriving DecidableEq, Repr

namespace Threshold

def name : Threshold → String
  | upTo level => level.name
  | off => "off"

def verbosity : Threshold → Nat
  | upTo level => level.verbosity
  | off => 0

def admits (threshold : Threshold) (level : Level) : Bool :=
  level.verbosity ≤ threshold.verbosity

def words : List (String × Threshold) :=
  [("trace", upTo .trace), ("debug", upTo .debug), ("info", upTo .info), ("warn", upTo .warn),
    ("warning", upTo .warn), ("error", upTo .error), ("off", off), ("none", off), ("quiet", off)]

def ofWord? (word : String) : Option Threshold := words.lookup (Text.lowered word)

def unknownText (word : String) : String := "unknown log level: " ++ word

end Threshold

inductive Form where
  | human
  | jsonLines
deriving DecidableEq, Repr

namespace Form

def name : Form → String
  | human => "human"
  | jsonLines => "jsonl"

def words : List (String × Form) :=
  [("human", human), ("console", human), ("pretty", human), ("jsonl", jsonLines),
    ("json", jsonLines), ("structured", jsonLines)]

def ofWord? (word : String) : Option Form := words.lookup (Text.lowered word)

def unknownText (word : String) : String := "unknown log format: " ++ word

end Form

structure Settings where
  form : Form := .human
  threshold : Threshold := .upTo .warn
  timestamps : Bool := true
  sourceLocation : Bool := false
deriving DecidableEq, Repr

namespace Settings

def levelVariable : String := "SC_LOG"
def formVariable : String := "SC_LOG_FORMAT"
def filterVariable : String := "RUST_LOG"

def mentioned? (filter : String) : Option Threshold :=
  ([.trace, .debug, .info, .error].find? fun level => Text.contains (Level.name level) filter).map
    .upTo

-- The level that the environment asks for. A variable of its own wins even if it cannot be read.
def thresholdOf? (environment : Environment) : Option Threshold :=
  match environment.get? levelVariable with
  | some word => Threshold.ofWord? word
  | none => (environment.get? filterVariable).bind mentioned?

def formOf? (environment : Environment) : Option Form :=
  (environment.get? formVariable).bind Form.ofWord?

def ofEnvironment (environment : Environment) (level : Option Threshold) (form : Option Form) :
    Settings where
  form := form.getD ((formOf? environment).getD .human)
  threshold := level.getD ((thresholdOf? environment).getD (.upTo .warn))

end Settings

end ClusterCaps.Log
