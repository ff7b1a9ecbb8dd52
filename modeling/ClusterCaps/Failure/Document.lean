import ClusterCaps.Decode
import ClusterCaps.Failure.Basic
import ClusterCaps.Json.Printer

set_option autoImplicit false

namespace ClusterCaps.Failure

structure Document where
  code : Nat
  category : Category
  message : String
  recoverable : Bool
  action : Action
  context : NameMap Json

def context : Failure → NameMap Json
  | nodeNotFound node => [("node", .string node)]
  | connectionUnavailable node _ => [("node", .string node)]
  | probeFailed node probe _ => [("node", .string node), ("probe", .string probe)]
  | malformedResponse node probe _ => [("node", .string node), ("probe", .string probe)]
  | _ => []

def document (failure : Failure) : Document where
  code := failure.code
  category := failure.category
  message := failure.text
  recoverable := failure.isRecoverable
  action := failure.action
  context := failure.context

namespace Document

def withContext (document : Document) (key : String) (value : Json) : Document :=
  { document with context := document.context.insert key value }

def contextMember (context : NameMap Json) : List (String × Json) :=
  if context.isEmpty then [] else [("context", .object context)]

def toJson (document : Document) : Json :=
  .object <|
    [("code", .nat document.code), ("category", .string document.category.name),
      ("message", .string document.message), ("recoverable", .bool document.recoverable),
      ("suggested_action", .string document.action.name)] ++ contextMember document.context

def text (document : Document) : String := Json.compact document.toJson

def prettyText (document : Document) : String := Json.pretty document.toJson

def codeLimit : Nat := 4294967296

open Decode in
def decode : Decoder Document := fun dialect data => do
  let fields ← Fields.ofData?
    ["code", "category", "message", "recoverable", "suggested_action", "context"] dialect data
  let code ← fields.required dialect "code" (natBelow codeLimit)
  let category ← fields.required dialect "category" (choice Category.named)
  let message ← fields.required dialect "message" Decode.text
  let recoverable ← fields.required dialect "recoverable" bool
  let action ← fields.required dialect "suggested_action" (choice Action.named)
  let context ← fields.withDefault dialect "context" (map fun _ data => data.json?) []
  return { code, category, message, recoverable, action, context }

end Document

end ClusterCaps.Failure
