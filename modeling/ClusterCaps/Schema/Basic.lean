import ClusterCaps.Json.Value
import ClusterCaps.NameMap

set_option autoImplicit false

namespace ClusterCaps.Schema

inductive Shape where
  | text
  | time
  | flag
  | int32
  | count
  | list (item : Shape)
  | set (item : Shape)
  | map (value : Shape)
  | named (name : String)
  | optional (shape : Shape)
deriving DecidableEq, Repr

inductive Presence where
  | required
  | voluntary
  | standing (default : Json)

structure Field where
  name : String
  shape : Shape
  presence : Presence := .required
  note? : Option String := none

inductive Body where
  | text
  | record (fields : List Field)
  | choice (plain : List String) (described : List (String × String))
  | tagged (tag : String) (cases : List (String × Option String))

structure Definition where
  name : String
  note? : Option String
  body : Body

def Shape.references : Shape → List String
  | text => []
  | time => []
  | flag => []
  | int32 => []
  | count => []
  | list item => item.references
  | set item => item.references
  | map value => value.references
  | named name => [name]
  | optional shape => shape.references

def Body.references : Body → List String
  | text => []
  | record fields => fields.flatMap fun field => field.shape.references
  | choice _ _ => []
  | tagged _ cases => cases.filterMap (·.2)

abbrev Catalog := List Definition

namespace Catalog

def find? (catalog : Catalog) (name : String) : Option Definition :=
  List.find? (fun definition : Definition => definition.name == name) catalog

-- Names with all that they refer to, and so on, as many times as there are definitions.
def closure (catalog : Catalog) : Nat → List String → List String
  | 0, names => names
  | steps + 1, names =>
    closure catalog steps <| Text.sortedSet <| names ++ names.flatMap fun name =>
      ((catalog.find? name).map fun definition => definition.body.references).getD []

def needed (catalog : Catalog) (definition : Definition) : List String :=
  catalog.closure catalog.length (Text.sortedSet definition.body.references)

end Catalog

abbrev Members := List (String × Json)

def kind (name : String) : String × Json := ("type", .string name)

def reference (name : String) : String × Json := ("$ref", .string ("#/$defs/" ++ name))

def nullable (members : Members) : Members :=
  members.map fun (name, value) =>
    if name = "type" then (name, .array [value, .string "null"]) else (name, value)

def Shape.members : Shape → Members
  | text => [kind "string"]
  | time => [("format", .string "date-time"), kind "string"]
  | flag => [kind "boolean"]
  | int32 => [("format", .string "int32"), kind "integer"]
  | count => [("format", .string "uint"), ("minimum", .nat 0), kind "integer"]
  | list item => [("items", .object item.members), kind "array"]
  | set item => [("items", .object item.members), kind "array", ("uniqueItems", .bool true)]
  | map value => [("additionalProperties", .object value.members), kind "object"]
  | named name => [reference name]
  | optional (named name) =>
    [("anyOf", .array [.object [reference name], .object [kind "null"]])]
  | optional shape => nullable shape.members

def note : Option String → Members
  | none => []
  | some text => [("description", .string text)]

def Presence.members : Presence → Members
  | required => []
  | voluntary => []
  | standing default => [("default", default)]

def Presence.isRequired : Presence → Bool
  | required => true
  | voluntary => false
  | standing _ => false

def object (members : Members) : Json := .object (NameMap.ofList members)

def Field.members (field : Field) : Members :=
  note field.note? ++ field.presence.members ++ field.shape.members

def requirement (names : List String) : Members :=
  if names.isEmpty then [] else [("required", Json.strings names)]

def recordMembers (fields : List Field) : Members :=
  [("properties", object (fields.map fun field => (field.name, object field.members))),
    kind "object"] ++
    requirement ((fields.filter fun field => field.presence.isRequired).map Field.name)

def enumeration (names : List String) : Members := [("enum", Json.strings names), kind "string"]

def describedName (entry : String × String) : Json :=
  object [("const", .string entry.1), ("description", .string entry.2), kind "string"]

def choiceMembers (plain : List String) (described : List (String × String)) : Members :=
  if described.isEmpty then enumeration plain
  else
    let first := if plain.isEmpty then [] else [object (enumeration plain)]
    [("oneOf", .array (first ++ described.map describedName))]

def caseMembers (tag value : String) (record? : Option String) : Members :=
  (record?.map reference).toList ++
    [("properties", object [(tag, object [("const", .string value), kind "string"])]),
      kind "object"] ++ requirement [tag]

def Body.members : Body → Members
  | text => Shape.text.members
  | record fields => recordMembers fields
  | choice plain described => choiceMembers plain described
  | tagged tag cases =>
    [("oneOf", .array (cases.map fun (value, record?) => object (caseMembers tag value record?)))]

def Definition.members (definition : Definition) : Members :=
  note definition.note? ++ definition.body.members

def dialect : String := "https://json-schema.org/draft/2020-12/schema"

def attachments (catalog : Catalog) (names : List String) : Members :=
  let found := names.filterMap fun name =>
    (catalog.find? name).map fun definition => (name, object definition.members)
  if found.isEmpty then [] else [("$defs", object found)]

def document (catalog : Catalog) (definition : Definition) : Json :=
  object <|
    [("$schema", .string dialect), ("title", .string definition.name)] ++ definition.members ++
      attachments catalog (catalog.needed definition)

end ClusterCaps.Schema
