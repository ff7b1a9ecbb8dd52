import ClusterCaps.Log.Settings
import ClusterCaps.Report.Layout

set_option autoImplicit false

namespace ClusterCaps.CommandLine

inductive Setting where
  | config (path : String)
  | topology (path : String)
  | layout (layout : Layout)
  | verbose
  | quiet
  | logForm (form : Log.Form)
  | noColour
  | recheckHeartbeat
  | list
  | all
deriving DecidableEq, Repr

inductive Switch where
  | config
  | topology
  | layout
  | verbose
  | quiet
  | logForm
  | noColour
  | recheckHeartbeat
  | list
  | all
  | help
  | version
deriving DecidableEq, Repr

def Setting.switch : Setting → Switch
  | config _ => .config
  | topology _ => .topology
  | layout _ => .layout
  | verbose => .verbose
  | quiet => .quiet
  | logForm _ => .logForm
  | noColour => .noColour
  | recheckHeartbeat => .recheckHeartbeat
  | list => .list
  | all => .all

inductive Manner where
  | help
  | version
  | alone (setting : Setting)
  | valued (read : String → Option Setting)

namespace Switch

def word : Switch → String
  | config => "config"
  | topology => "topology"
  | layout => "format"
  | verbose => "verbose"
  | quiet => "quiet"
  | logForm => "log-format"
  | noColour => "no-color"
  | recheckHeartbeat => "recheck-heartbeat"
  | list => "list"
  | all => "all"
  | help => "help"
  | version => "version"

def letter? : Switch → Option Char
  | layout => some 'f'
  | verbose => some 'v'
  | quiet => some 'q'
  | help => some 'h'
  | version => some 'V'
  | _ => none

def summary : Switch → String
  | config => "Path to capabilities.\x7btoml,json\x7d"
  | topology => "Topology transcript (.toml, .yaml or .json)"
  | layout => "Output format: json, md or summary"
  | verbose => "Log more; can be repeated"
  | quiet => "Only log errors"
  | logForm => "Log format on stderr: human or jsonl"
  | noColour => "Disable colored output"
  | recheckHeartbeat => "Re-run the heartbeat probe on this node after the pass"
  | list => "List available schema types"
  | all => "Print every schema as one JSON object"
  | help => "Print help"
  | version => "Print version"

def path? (setting : String → Setting) (text : String) : Option Setting :=
  if text.isEmpty then none else some (setting text)

def manner : Switch → Manner
  | config => .valued (path? .config)
  | topology => .valued (path? .topology)
  | layout => .valued fun name => (Layout.ofName? false name).map .layout
  | verbose => .alone .verbose
  | quiet => .alone .quiet
  | logForm => .valued fun word => (Log.Form.ofWord? word).map .logForm
  | noColour => .alone .noColour
  | recheckHeartbeat => .alone .recheckHeartbeat
  | list => .alone .list
  | all => .alone .all
  | help => .help
  | version => .version

def takesValue (switch : Switch) : Bool :=
  match switch.manner with
  | .valued _ => true
  | _ => false

def isRepeatable (switch : Switch) : Bool := switch == verbose

def everywhere : List Switch :=
  [config, topology, layout, verbose, quiet, logForm, noColour, help, version]

end Switch

inductive Command where
  | program
  | probe
  | node
  | rules
  | schema
  | config
  | showConfig
  | validateConfig
  | completions
  | version
deriving DecidableEq, Repr

namespace Command

def word : Command → String
  | program => "sc-core"
  | probe => "probe"
  | node => "node"
  | rules => "rules"
  | schema => "schema"
  | config => "config"
  | showConfig => "show"
  | validateConfig => "validate"
  | completions => "completions"
  | version => "version"

def summary : Command → String
  | program => "Conservative feature detection for storage clusters"
  | probe => "Run a full capability pass and print the aggregate"
  | node => "Show the capability snapshot of one node"
  | rules => "Print the fold rule table"
  | schema => "Print JSON Schemas for output and input types"
  | config => "Configuration management"
  | showConfig => "Show the resolved configuration and where it came from"
  | validateConfig => "Validate the configuration and exit"
  | completions => "Generate shell completions"
  | version => "Print version information"

def inner : Command → List Command
  | program => [probe, node, rules, schema, config, completions, version]
  | config => [showConfig, validateConfig]
  | _ => []

def operand? : Command → Option String
  | node => some "NAME"
  | schema => some "TYPE"
  | completions => some "SHELL"
  | _ => none

def switches : Command → List Switch
  | node => Switch.everywhere ++ [.recheckHeartbeat]
  | schema => Switch.everywhere ++ [.list, .all]
  | _ => Switch.everywhere

def innerNamed? (command : Command) (word : String) : Option Command :=
  command.inner.find? fun other => other.word == word

def switchOfWord? (command : Command) (word : String) : Option Switch :=
  command.switches.find? fun switch => switch.word == word

def switchOfLetter? (command : Command) (letter : Char) : Option Switch :=
  command.switches.find? fun switch => switch.letter? == some letter

end Command

inductive Shell where
  | bash
  | elvish
  | fish
  | powershell
  | zsh
deriving DecidableEq, Repr

namespace Shell

def name : Shell → String
  | bash => "bash"
  | elvish => "elvish"
  | fish => "fish"
  | powershell => "powershell"
  | zsh => "zsh"

def ofName? (name : String) : Option Shell :=
  [bash, elvish, fish, powershell, zsh].find? fun shell => shell.name == name

end Shell

end ClusterCaps.CommandLine
