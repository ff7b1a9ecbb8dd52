import ClusterCaps.CommandLine.Run
import Std.Time.DateTime.Timestamp

set_option autoImplicit false

namespace ClusterCaps.CommandLine

def variableNames : List String :=
  ["STORAGE_CAPS_CONFIG", "STORAGE_CAPS_CONFIG_DIR", "XDG_CONFIG_HOME", "HOME",
    Level.topologyVariable, Log.Settings.levelVariable, Log.Settings.formVariable,
    Log.Settings.filterVariable]

def readEnvironment : List String → IO Environment
  | [] => return []
  | name :: rest => do
    let others ← readEnvironment rest
    match ← IO.getEnv name with
    | some value => return (name, value) :: others
    | none => return others

def pathsOf (environment : Environment) (options : Options) : List String :=
  (Config.candidates environment options.config?).map Config.Candidate.path ++
    options.topology?.toList

-- Some calls report the number of an error negated, so a directory has two numbers here.
def causeOfError : IO.Error → ReadError
  | .noFileOrDirectory _ _ _ => .missing
  | .inappropriateType _ code _ => if code = 21 ∨ code = 0 - 21 then .isDirectory else .notDirectory
  | .permissionDenied _ _ _ => .denied
  | .hardwareFault _ _ => .faulty
  | error => .other error.toString

def entryOfFailure (isThere : Bool) (cause : ReadError) : Entry :=
  if !isThere then .absent cause
  else if cause = .isDirectory then .directory
  else .file true (.error cause)

def leadsSomewhere (path : String) : IO Bool := do
  try
    let _ ← IO.FS.realPath path
    return true
  catch _ =>
    return false

def readEntry (path : String) : IO Entry := do
  try
    return .file true (.ok (← IO.FS.readBinFile path))
  catch error =>
    return entryOfFailure (← leadsSomewhere path) (causeOfError error)

def readEntries : List String → IO (List (String × Entry))
  | [] => return []
  | path :: rest => do
    let entry ← readEntry path
    return (path, entry) :: (← readEntries rest)

def filesOf (entries : List (String × Entry)) : Files := fun path =>
  (entries.lookup path).getD (.absent .missing)

def readTime : IO Timestamp := do
  let now ← Std.Time.Timestamp.now
  let nanos := now.toNanosecondsSinceUnixEpoch.val
  return ⟨nanos.fdiv 1000000000, (nanos.fmod 1000000000).toNat⟩

def readFiles (environment : Environment) (words : List String) : IO Files := do
  match Invocation.ofWords environment words with
  | .error _ => return filesOf []
  | .ok invocation => return filesOf (← readEntries (pathsOf environment invocation.options))

def gather (words : List String) : IO Surroundings := do
  let environment ← readEnvironment variableNames
  let files ← readFiles environment words
  let time ← readTime
  let bytes ← IO.getRandomBytes 16
  let onTerminal ← (← IO.getStderr).isTty
  return { environment, files, time, passId := PassId.generate time bytes.toList, onTerminal }

def write (result : Result) : IO Unit := do
  for line in result.log do
    IO.eprintln line.text
  IO.eprint result.complaint
  IO.print result.output

end ClusterCaps.CommandLine

open ClusterCaps.CommandLine in
def main (words : List String) : IO UInt32 := do
  let result := run words (← gather words)
  write result
  return result.status.toUInt32
