import ClusterCaps.Toml.Table
import ClusterCaps.Toml.Scalar

set_option autoImplicit false

namespace ClusterCaps.Toml

def nestingLimit : Nat := 80

def isBareChar (c : Char) : Bool :=
  Text.isDigit c || (65 ≤ c.toNat && c.toNat ≤ 90) || (97 ≤ c.toNat && c.toNat ≤ 122) ||
    c == '_' || c == '-'

def keyPart? (text : List Char) : Option (String × List Char) :=
  match text with
  | '"' :: rest => (basic? rest).map fun (body, rest) => (String.ofList body, rest)
  | '\'' :: rest => (literal? rest).map fun (body, rest) => (String.ofList body, rest)
  | text =>
    let part := text.takeWhile isBareChar
    if part.isEmpty then none else some (String.ofList part, text.dropWhile isBareChar)

def keyParts? : Nat → List Char → Option (List String × List Char)
  | 0, _ => none
  | steps + 1, text =>
    match keyPart? (skipSpace text) with
    | none => none
    | some (part, rest) =>
      match skipSpace rest with
      | '.' :: tail => (keyParts? steps tail).map fun (parts, rest) => (part :: parts, rest)
      | tail => some ([part], tail)

def key? (text : List Char) : Option (List String × List Char) := keyParts? (nestingLimit - 1) text

def skipComment (text : List Char) : Option (List Char) :=
  match text with
  | '#' :: rest =>
    match rest.dropWhile fun c => c == '\t' || (32 ≤ c.toNat) with
    | [] => some []
    | '\n' :: tail => some ('\n' :: tail)
    | '\r' :: '\n' :: tail => some ('\r' :: '\n' :: tail)
    | _ => none
  | text => some text

def skipLines : Nat → List Char → Option (List Char)
  | 0, _ => none
  | steps + 1, text =>
    match skipSpace text with
    | '\n' :: rest => skipLines steps rest
    | '\r' :: '\n' :: rest => skipLines steps rest
    | '#' :: rest => (skipComment ('#' :: rest)).bind (skipLines steps)
    | rest => some rest

mutual

def value? : Nat → Nat → List Char → Option (Data × List Char)
  | 0, _, _ => none
  | steps + 1, depth, text =>
    match text with
    | '[' :: rest =>
      if nestingLimit ≤ depth + 1 then none
      else (items? steps (depth + 1) rest).map fun (items, rest) => (.list items, rest)
    | '\x7b' :: rest =>
      if nestingLimit ≤ depth + 1 then none
      else
        match skipSpace rest with
        | '\x7d' :: tail => some (.table [], tail)
        | tail =>
          (pairs? steps (depth + 1) Table.defined tail).map fun (table, rest) =>
            (tableData table, rest)
    | '"' :: _ => (string? text).map fun (body, rest) => (.text (String.ofList body), rest)
    | '\'' :: _ => (string? text).map fun (body, rest) => (.text (String.ofList body), rest)
    | text =>
      let (word, rest) := takeWord text
      (word? word).map fun data => (data, rest)

def items? : Nat → Nat → List Char → Option (List Data × List Char)
  | 0, _, _ => none
  | steps + 1, depth, text =>
    match skipLines (text.length + 1) text with
    | none => none
    | some (']' :: rest) => some ([], rest)
    | some start =>
      match value? steps depth start with
      | none => none
      | some (item, rest) =>
        match skipLines (rest.length + 1) rest with
        | some (']' :: tail) => some ([item], tail)
        | some (',' :: tail) =>
          (items? steps depth tail).map fun (items, rest) => (item :: items, rest)
        | _ => none

def pairs? : Nat → Nat → Table → List Char → Option (Table × List Char)
  | 0, _, _, _ => none
  | steps + 1, depth, table, text =>
    match key? text with
    | none => none
    | some (parts, rest) =>
      match rest with
      | '=' :: rest =>
        match value? steps depth (skipSpace rest) with
        | none => none
        | some (data, rest) =>
          match table.addValue parts.dropLast (parts.getLast?.getD "") data with
          | none => none
          | some table =>
            match skipSpace rest with
            | '\x7d' :: tail => some (table, tail)
            | ',' :: tail => pairs? steps depth table tail
            | _ => none
      | _ => none

end

structure State where
  root : Table
  current : Table
  path : List String
  inArray : Bool

namespace State

def start : State := ⟨Table.defined, Table.defined, [], false⟩

def close (state : State) : Option Table :=
  match state.path.getLast? with
  | none => some state.current
  | some key =>
    if state.inArray then Table.pushTable state.path.dropLast key state.current state.root
    else Table.putTable state.path.dropLast key state.current state.root

def openTable (state : State) (path : List String) : Option State := do
  let root ← state.close
  let key ← path.getLast?
  let current ← Table.inspect (Table.takeForHeader key) path.dropLast root
  let root ← Table.update false (fun table => some (table.erase key)) path.dropLast root
  return ⟨root, current, path, false⟩

def openArray (state : State) (path : List String) : Option State := do
  let root ← state.close
  let key ← path.getLast?
  Table.inspect (Table.acceptsAnother key) path.dropLast root
  return ⟨root, Table.defined, path, true⟩

def add (state : State) (parts : List String) (data : Data) : Option State :=
  (state.current.addValue parts.dropLast (parts.getLast?.getD "") data).map fun current =>
    { state with current }

end State

def endLine? (text : List Char) : Option (List Char) :=
  match skipComment (skipSpace text) with
  | some [] => some []
  | some ('\n' :: rest) => some rest
  | some ('\r' :: '\n' :: rest) => some rest
  | _ => none

def header? (text : List Char) : Option (List String × List Char) :=
  match key? text with
  | some (parts, ']' :: rest) => some (parts, rest)
  | _ => none

def lines? : Nat → State → List Char → Option State
  | 0, _, _ => none
  | steps + 1, state, text =>
    match skipSpace text with
    | [] => some state
    | '\n' :: rest => lines? steps state rest
    | '\r' :: '\n' :: rest => lines? steps state rest
    | '#' :: rest => (endLine? ('#' :: rest)).bind (lines? steps state)
    | '[' :: '[' :: rest =>
      match header? rest with
      | some (path, ']' :: rest) =>
        match state.openArray path, endLine? rest with
        | some state, some rest => lines? steps state rest
        | _, _ => none
      | _ => none
    | '[' :: rest =>
      match header? rest with
      | some (path, rest) =>
        match state.openTable path, endLine? rest with
        | some state, some rest => lines? steps state rest
        | _, _ => none
      | none => none
    | text =>
      match key? text with
      | some (parts, '=' :: rest) =>
        match value? (2 * rest.length + 2) 0 (skipSpace rest) with
        | some (data, rest) =>
          match state.add parts data, endLine? rest with
          | some state, some rest => lines? steps state rest
          | _, _ => none
        | none => none
      | _ => none

def skipByteOrderMark : List Char → List Char
  | c :: rest => if c.toNat = 0xFEFF then rest else c :: rest
  | [] => []

def read? (text : String) : Option Data :=
  let chars := skipByteOrderMark text.toList
  ((lines? (chars.length + 1) State.start chars).bind State.close).map tableData

end ClusterCaps.Toml
