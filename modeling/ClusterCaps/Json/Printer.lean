import ClusterCaps.Json.Value
import ClusterCaps.Decimal.Shortest
import ClusterCaps.Text.Integer

set_option autoImplicit false

namespace ClusterCaps.Json

def escapedChar (c : Char) : List Char :=
  if c = '"' then ['\\', '"']
  else if c = '\\' then ['\\', '\\']
  else if c = '\n' then ['\\', 'n']
  else if c = '\r' then ['\\', 'r']
  else if c = '\t' then ['\\', 't']
  else if c.toNat = 8 then ['\\', 'b']
  else if c.toNat = 12 then ['\\', 'f']
  else if c.toNat < 32 then ['\\', 'u'] ++ Text.hexDigits 4 c.toNat
  else [c]

def quote (text : String) : String :=
  String.ofList ('"' :: text.toList.flatMap escapedChar ++ ['"'])

def numberText : Number → String
  | .int value => Text.ofInt value
  | .float value => if value.isFinite then Decimal.text value else "null"

def boolText : Bool → String
  | true => "true"
  | false => "false"

mutual

def compact : Json → String
  | .null => "null"
  | .bool value => boolText value
  | .number value => numberText value
  | .string value => quote value
  | .array [] => "[]"
  | .array (item :: items) => "[" ++ compact item ++ compactItems items ++ "]"
  | .object [] => "\x7b\x7d"
  | .object ((name, value) :: members) =>
    "\x7b" ++ quote name ++ ":" ++ compact value ++ compactMembers members ++ "\x7d"

def compactItems : List Json → String
  | [] => ""
  | item :: items => "," ++ compact item ++ compactItems items

def compactMembers : List (String × Json) → String
  | [] => ""
  | (name, value) :: members =>
    "," ++ quote name ++ ":" ++ compact value ++ compactMembers members

end

def lineBreak (depth : Nat) : String := "\n" ++ String.ofList (List.replicate (2 * depth) ' ')

mutual

def prettyAt (depth : Nat) : Json → String
  | .null => "null"
  | .bool value => boolText value
  | .number value => numberText value
  | .string value => quote value
  | .array [] => "[]"
  | .array (item :: items) =>
    "[" ++ lineBreak (depth + 1) ++ prettyAt (depth + 1) item ++ prettyItems (depth + 1) items ++
      lineBreak depth ++ "]"
  | .object [] => "\x7b\x7d"
  | .object ((name, value) :: members) =>
    "\x7b" ++ lineBreak (depth + 1) ++ quote name ++ ": " ++ prettyAt (depth + 1) value ++
      prettyMembers (depth + 1) members ++ lineBreak depth ++ "\x7d"

def prettyItems (depth : Nat) : List Json → String
  | [] => ""
  | item :: items => "," ++ lineBreak depth ++ prettyAt depth item ++ prettyItems depth items

def prettyMembers (depth : Nat) : List (String × Json) → String
  | [] => ""
  | (name, value) :: members =>
    "," ++ lineBreak depth ++ quote name ++ ": " ++ prettyAt depth value ++
      prettyMembers depth members

end

def pretty (value : Json) : String := prettyAt 0 value

end ClusterCaps.Json
