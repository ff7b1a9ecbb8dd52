import ClusterCaps.Probe.Query

set_option autoImplicit false

namespace ClusterCaps

inductive ScriptPattern where
  | statement (text : String)
  | containing (piece : String)
deriving DecidableEq, Repr

def ScriptPattern.covers (asked : String) : ScriptPattern → Bool
  | statement text => text == asked
  | containing piece => Text.contains piece asked

structure ScriptLine where
  pattern : ScriptPattern
  answer : Except ExecError (List Row)

def scripted (script : List ScriptLine) : Connection := fun _ statement =>
  match script.find? fun line => line.pattern.covers statement with
  | some line => line.answer
  | none => .ok []

end ClusterCaps
