import ClusterCaps.Decode
import ClusterCaps.Json.Printer
import ClusterCaps.Log.Event
import ClusterCaps.Text.Quoted
import ClusterCaps.Time.Timestamp

set_option autoImplicit false

namespace ClusterCaps.Log

structure Line where
  time : Timestamp
  level : Level
  name : String
  pass? : Option String := none
  stage? : Option String := none
  node? : Option String := none
  message : String := ""
  fields : NameMap Json := []

def Value.toJson? : Value → Option Json
  | text value => some (.string value)
  | int value => some (.int value)
  | bool value => some (.bool value)
  | float value => if value.isFinite then some (.float value) else none

def floatText (value : Binary64) : String :=
  if value.isFinite then Decimal.logText value
  else if value.fractionField ≠ 0 then "NaN"
  else if value.isNegative then "-inf"
  else "inf"

def Value.shown : Value → String
  | text value => value
  | int value => Text.ofInt value
  | bool value => Json.boolText value
  | float value => floatText value

def Value.text? : Value → Option String
  | text value => some value
  | int _ => none
  | float _ => none
  | bool _ => none

def reservedKeys : List String := ["message", "event", "pass_id", "stage", "node"]

def textOf? (fields : Fields) (key : String) : Option String :=
  (fields.filter fun field => field.1 == key).reverse.findSome? fun field => field.2.text?

def Span.shown? (span : Span) (key : String) : Option String :=
  (span.fields.reverse.lookup key).map Value.shown

-- What the innermost span with a value says; spans are listed from the outermost on.
def ofSpans? (spans : List Span) (key : String) : Option String :=
  spans.reverse.findSome? fun span => span.shown? key

def correlated? (spans : List Span) (event : Event) (key : String) : Option String :=
  match textOf? event.fields key with
  | some value => some value
  | none => ofSpans? spans key

-- A text under a reserved key has its place in the line; every other value is an ordinary field.
def isOrdinary (field : String × Value) : Bool :=
  !(reservedKeys.contains field.1 && field.2.text?.isSome)

def ordinaryFields (fields : Fields) : NameMap Json :=
  NameMap.ofList <| (fields.filter isOrdinary).filterMap fun field =>
    field.2.toJson?.map fun value => (field.1, value)

def Line.ofEvent (time : Timestamp) (spans : List Span) (event : Event) : Line where
  time := time
  level := event.level
  name := (textOf? event.fields "event").getD event.target
  pass? := correlated? spans event "pass_id"
  stage? := correlated? spans event "stage"
  node? := correlated? spans event "node"
  message := (textOf? event.fields "message").getD ""
  fields := ordinaryFields event.fields

namespace Line

def textMember (key : String) : Option String → List (String × Json)
  | none => []
  | some value => [(key, .string value)]

def messageMember (message : String) : List (String × Json) :=
  if message.isEmpty then [] else [("message", .string message)]

def fieldsMember (fields : NameMap Json) : List (String × Json) :=
  if fields.isEmpty then [] else [("fields", .object fields)]

def toJson (line : Line) : Json :=
  .object <|
    [("ts", .string line.time.text), ("level", .string line.level.name),
      ("event", .string line.name)] ++
    textMember "pass_id" line.pass? ++ textMember "stage" line.stage? ++
    textMember "node" line.node? ++ messageMember line.message ++ fieldsMember line.fields

def text (line : Line) : String := Json.compact line.toJson

open Decode in
def decode : Decoder Line := fun dialect data => do
  let fields ← Decode.Fields.ofData?
    ["ts", "level", "event", "pass_id", "stage", "node", "message", "fields"] dialect data
  let time ← fields.required dialect "ts" fun dialect data =>
    (Decode.text dialect data).bind Timestamp.ofText?
  let level ← fields.required dialect "level" (choice Level.named)
  let name ← fields.required dialect "event" Decode.text
  let pass? ← fields.optionalWithDefault dialect "pass_id" Decode.text
  let stage? ← fields.optionalWithDefault dialect "stage" Decode.text
  let node? ← fields.optionalWithDefault dialect "node" Decode.text
  let message ← fields.withDefault dialect "message" Decode.text ""
  let others ← fields.withDefault dialect "fields" (map fun _ data => data.json?) []
  return { time, level, name, pass?, stage?, node?, message, fields := others }

end Line

end ClusterCaps.Log
