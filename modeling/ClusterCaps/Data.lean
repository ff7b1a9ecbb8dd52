import ClusterCaps.Json.Value
import ClusterCaps.NameMap

/-!
Data as a file holds it before it is read for a purpose. JSON and TOML say what kind a scalar has;
YAML leaves it to the reader for a scalar without quotes, which is therefore kept as text.
-/
set_option autoImplicit false

namespace ClusterCaps

inductive Dialect where
  | toml
  | yaml
  | json
deriving DecidableEq, Repr

inductive Data where
  | null
  | bool (value : Bool)
  | int (value : Int)
  | float (value : Binary64)
  | text (value : String)
  -- A scalar without quotes whose kind is open.
  | bare (value : String)
  -- A text kept line by line, whose kind is open where a tag names it.
  | literal (value : String)
  | list (items : List Data)
  | table (entries : List (Data × Data))
  | tagged (tag : String) (value : Data)
  -- Well-formed, but no value: it may be passed over and not read.
  | unreadable

namespace Data

mutual

def ofJson : Json → Data
  | .null => .null
  | .bool value => .bool value
  | .number (.int value) => .int value
  | .number (.float value) => .float value
  | .string value => .text value
  | .array items => .list (ofItems items)
  | .object members => .table (ofMembers members)

def ofItems : List Json → List Data
  | [] => []
  | item :: items => ofJson item :: ofItems items

def ofMembers : List (String × Json) → List (Data × Data)
  | [] => []
  | (name, value) :: members => (.text name, ofJson value) :: ofMembers members

end

mutual

def json? : Data → Option Json
  | .null => some .null
  | .bool value => some (.bool value)
  | .int value => some (.number (.int value))
  | .float value => some (.number (.float value))
  | .text value => some (.string value)
  | .list items => (jsonItems? items).map .array
  | .table entries => (jsonMembers? entries).map fun members => .object (NameMap.ofList members)
  | .bare _ => none
  | .literal _ => none
  | .tagged _ _ => none
  | .unreadable => none

def jsonItems? : List Data → Option (List Json)
  | [] => some []
  | item :: items =>
    match json? item, jsonItems? items with
    | some value, some values => some (value :: values)
    | _, _ => none

def jsonMembers? : List (Data × Data) → Option (List (String × Json))
  | [] => some []
  | (.text name, item) :: entries =>
    match json? item, jsonMembers? entries with
    | some value, some values => some ((name, value) :: values)
    | _, _ => none
  | _ :: _ => none

end

end Data

end ClusterCaps
