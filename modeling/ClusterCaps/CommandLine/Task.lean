import ClusterCaps.CommandLine.Command

set_option autoImplicit false

namespace ClusterCaps.CommandLine

inductive SchemaChoice where
  | list
  | all
  | named (name : String)
  | unstated
deriving DecidableEq, Repr

inductive Task where
  | probe
  | node (name : String) (recheck : Bool)
  | rules
  | schema (choice : SchemaChoice)
  | showConfig
  | validateConfig
  | completions (shell : Shell)
  | version
deriving DecidableEq, Repr

structure Options where
  config? : Option String := none
  topology? : Option String := none
  layout : Layout := .json
  verbosity : Nat := 0
  quiet : Bool := false
  logForm? : Option Log.Form := none
  noColour : Bool := false
deriving DecidableEq, Repr

namespace Options

def apply (options : Options) : Setting → Options
  | .config path => { options with config? := some path }
  | .topology path => { options with topology? := some path }
  | .layout layout => { options with layout }
  | .verbose => { options with verbosity := options.verbosity + 1 }
  | .quiet => { options with quiet := true }
  | .logForm form => { options with logForm? := some form }
  | .noColour => { options with noColour := true }
  | .recheckHeartbeat => options
  | .list => options
  | .all => options

-- Takes over the options given to a command. They win over those given to a command around it, and
-- the count of one that is repeated starts anew.
def applyAll (options : Options) (settings : List Setting) : Options :=
  let verbosity := if settings.contains .verbose then 0 else options.verbosity
  settings.foldl apply { options with verbosity }

def threshold? (options : Options) : Option Log.Threshold :=
  if options.quiet then some (.upTo .error)
  else
    match options.verbosity with
    | 0 => none
    | 1 => some (.upTo .info)
    | 2 => some (.upTo .debug)
    | _ => some (.upTo .trace)

end Options

structure Invocation where
  options : Options
  task : Task
deriving DecidableEq, Repr

end ClusterCaps.CommandLine
