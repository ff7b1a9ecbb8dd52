import ClusterCaps.Decimal.Binary64

set_option autoImplicit false

namespace ClusterCaps

inductive Number where
  | int (value : Int)
  | float (value : Binary64)
deriving DecidableEq, Repr

inductive Json where
  | null
  | bool (value : Bool)
  | number (value : Number)
  | string (value : String)
  | array (items : List Json)
  | object (members : List (String × Json))

namespace Json

def int (value : Int) : Json := .number (.int value)
def nat (value : Nat) : Json := .int value

def float (value : Binary64) : Json := if value.isFinite then .number (.float value) else .null

def strings (texts : List String) : Json := .array (texts.map .string)

def optional {α : Type} (encode : α → Json) : Option α → Json
  | none => .null
  | some value => encode value

def optionalString : Option String → Json := optional .string

def member? (name : String) : List (String × Json) → Option Json
  | [] => none
  | (key, value) :: rest => if key = name then some value else member? name rest

end Json

end ClusterCaps
