import ClusterCaps.Yaml.Cursor
import ClusterCaps.Json.Reader

set_option autoImplicit false

namespace ClusterCaps.Yaml

structure Gap where
  spaces : List Char
  first : List Char
  others : List Char
  broken : Bool

namespace Gap

def empty : Gap := ⟨[], [], [], false⟩

def fold (gap : Gap) : List Char :=
  if gap.broken then
    if gap.first.head? = some '\n' then
      if gap.others.isEmpty then [' '] else gap.others
    else gap.first ++ gap.others
  else gap.spaces

end Gap

-- Reads blanks and line ends. A tab in the indentation stops it, where `indent` asks for one.
def readGap (indent : Nat) : Nat → Gap → Cursor → Option (Gap × Cursor)
  | 0, gap, cursor => some (gap, cursor)
  | steps + 1, gap, cursor =>
    match cursor.peek? with
    | none => some (gap, cursor)
    | some c =>
      if isBlank c then
        if gap.broken then
          if c = '\t' ∧ cursor.column < indent then none
          else readGap indent steps gap (cursor.skip 1)
        else readGap indent steps { gap with spaces := gap.spaces ++ [c] } (cursor.skip 1)
      else if isBreak c then
        let (text, cursor) := cursor.takeBreak
        if gap.broken then readGap indent steps { gap with others := gap.others ++ text } cursor
        else readGap indent steps ⟨[], text, [], true⟩ cursor
      else some (gap, cursor)

def isFlowMark (c : Char) : Bool := c == ',' || c == '[' || c == ']' || c == '\x7b' || c == '\x7d'

def endsPlain (inFlow : Bool) (cursor : Cursor) : Bool :=
  match cursor.peek? with
  | none => true
  | some c =>
    isBlank c || isBreak c || (c == ':' && Cursor.blankOrEnd (cursor.ahead? 1)) ||
      (inFlow && isFlowMark c)

def colonInFlow (inFlow : Bool) (cursor : Cursor) : Bool :=
  inFlow && cursor.isAt ':' &&
    match cursor.ahead? 1 with
    | some c => isFlowMark c || c == '?'
    | none => false

def plainWord (inFlow : Bool) : Nat → Cursor → Option (List Char × Cursor)
  | 0, cursor => some ([], cursor)
  | steps + 1, cursor =>
    if Cursor.blankOrEnd cursor.peek? then some ([], cursor)
    else if colonInFlow inFlow cursor then none
    else if endsPlain inFlow cursor then some ([], cursor)
    else
      match cursor.peek? with
      | none => some ([], cursor)
      | some c => (plainWord inFlow steps (cursor.skip 1)).map fun (text, rest) => (c :: text, rest)

def plain (inFlow : Bool) (indent : Nat) : Nat → List Char → Gap → Cursor →
    Option (List Char × Bool × Cursor)
  | 0, text, gap, cursor => some (text, gap.broken, cursor)
  | steps + 1, text, gap, cursor =>
    if cursor.atAnyDocumentMark || cursor.isAt '#' then some (text, gap.broken, cursor)
    else
      match plainWord inFlow (cursor.text.length + 1) cursor with
      | none => none
      | some (word, rest) =>
        let text := if word.isEmpty then text else text ++ gap.fold ++ word
        let gap := if word.isEmpty then gap else Gap.empty
        if !(rest.atBlank || rest.atBreak) then some (text, gap.broken, rest)
        else
          match readGap indent (rest.text.length + 1) gap rest with
          | none => none
          | some (gap, rest) =>
            if !inFlow && rest.column < indent then some (text, gap.broken, rest)
            else plain inFlow indent steps text gap rest

def escapeChar? (c : Char) : Option Char :=
  match c with
  | '0' => some (Char.ofNat 0)
  | 'a' => some (Char.ofNat 7)
  | 'b' => some (Char.ofNat 8)
  | 't' => some '\t'
  | '\t' => some '\t'
  | 'n' => some '\n'
  | 'v' => some (Char.ofNat 11)
  | 'f' => some (Char.ofNat 12)
  | 'r' => some '\r'
  | 'e' => some (Char.ofNat 27)
  | ' ' => some ' '
  | '"' => some '"'
  | '/' => some '/'
  | '\\' => some '\\'
  | 'N' => some (Char.ofNat 0x85)
  | '_' => some (Char.ofNat 0xA0)
  | 'L' => some (Char.ofNat 0x2028)
  | 'P' => some (Char.ofNat 0x2029)
  | _ => none

def escapeWidth (c : Char) : Nat :=
  if c = 'x' then 2 else if c = 'u' then 4 else if c = 'U' then 8 else 0

def hexNumber? (digits : List Char) : Option Nat :=
  digits.foldl (fun value c =>
    match value, Json.hexValue? c with
    | some value, some digit => some (value * 16 + digit)
    | _, _ => none) (some 0)

def escape? (text : List Char) : Option (Char × Nat) :=
  match text with
  | [] => none
  | c :: rest =>
    let width := escapeWidth c
    if width = 0 then (escapeChar? c).map fun char => (char, 1)
    else
      let digits := rest.take width
      if digits.length < width then none
      else
        (hexNumber? digits).bind fun code =>
          if code < 0xD800 ∨ (0xDFFF < code ∧ code < 0x110000) then
            some (Char.ofNat code, width + 1)
          else none

def quotedWord (single : Bool) : Nat → Cursor → Option (List Char × Bool × Cursor)
  | 0, cursor => some ([], false, cursor)
  | steps + 1, cursor =>
    match cursor.peek? with
    | none => some ([], false, cursor)
    | some c =>
      if isBlank c || isBreak c then some ([], false, cursor)
      else if single then
        if c = '\'' then
          if cursor.ahead? 1 = some '\'' then
            (quotedWord single steps (cursor.skip 2)).map fun (text, rest) => ('\'' :: text, rest)
          else some ([], false, cursor)
        else (quotedWord single steps (cursor.skip 1)).map fun (text, rest) => (c :: text, rest)
      else if c = '"' then some ([], false, cursor)
      else if c = '\\' then
        if (cursor.ahead? 1).any isBreak then some ([], true, (cursor.skip 1).takeBreak.2)
        else
          match escape? (cursor.text.drop 1) with
          | none => none
          | some (char, width) =>
            (quotedWord single steps (cursor.skip (width + 1))).map fun (text, rest) =>
              (char :: text, rest)
      else (quotedWord single steps (cursor.skip 1)).map fun (text, rest) => (c :: text, rest)

def quotedScalar (single : Bool) : Nat → List Char → Cursor → Option (List Char × Cursor)
  | 0, _, _ => none
  | steps + 1, text, cursor =>
    if cursor.atAnyDocumentMark then none
    else
      match quotedWord single (cursor.text.length + 1) cursor with
      | none => none
      | some (word, broken, rest) =>
        let text := text ++ word
        match rest.peek? with
        | none => none
        | some c =>
          if (single && c == '\'') || (!single && c == '"') then some (text, rest.skip 1)
          else
            match readGap 0 (rest.text.length + 1) ⟨[], [], [], broken⟩ rest with
            | none => none
            | some (gap, rest) => quotedScalar single steps (text ++ gap.fold) rest

inductive Chomping where
  | strip
  | clip
  | keep
deriving DecidableEq

-- Line ends in front of a line of a block, and the largest indentation among them. An indentation
-- of zero is not known yet.
def blockBreaks (indent : Nat) : Nat → Nat → List Char → Cursor → Option (Nat × List Char × Cursor)
  | 0, widest, breaks, cursor => some (widest, breaks, cursor)
  | steps + 1, widest, breaks, cursor =>
    let spaces := (cursor.text.takeWhile (· == ' ')).length
    let cursor :=
      cursor.skip (if indent = 0 then spaces else min spaces (indent - cursor.column))
    let widest := max widest cursor.column
    if (indent = 0 ∨ cursor.column < indent) ∧ cursor.isAt '\t' then none
    else if cursor.atBreak then
      let (text, cursor) := cursor.takeBreak
      blockBreaks indent steps widest (breaks ++ text) cursor
    else some (widest, breaks, cursor)

def blockIndent (given widest : Nat) (outer : Int) : Nat :=
  if given ≠ 0 then given else (max (max (widest : Int) (outer + 1)) 1).toNat

structure Block where
  text : List Char
  leadingBreak : List Char
  breaks : List Char
  leadingBlank : Bool

def blockLines (literal : Bool) (indent : Nat) : Nat → Block → Cursor → Option (Block × Cursor)
  | 0, block, cursor => some (block, cursor)
  | steps + 1, block, cursor =>
    if cursor.column ≠ indent ∨ cursor.text.isEmpty then some (block, cursor)
    else
      let blank := cursor.atBlank
      let folds := !literal && block.leadingBreak.head? == some '\n' && !block.leadingBlank && !blank
      let joint :=
        if folds then (if block.breaks.isEmpty then [' '] else []) else block.leadingBreak
      let (line, rest) := cursor.takeWhile fun c => !isBreak c
      let text := block.text ++ joint ++ block.breaks ++ line
      let (leadingBreak, rest) := rest.takeBreak
      match blockBreaks indent (rest.text.length + 1) 0 [] rest with
      | none => none
      | some (_, breaks, rest) => blockLines literal indent steps ⟨text, leadingBreak, breaks, blank⟩ rest

def chomped (chomping : Chomping) (block : Block) : List Char :=
  match chomping with
  | .strip => block.text
  | .clip => block.text ++ block.leadingBreak
  | .keep => block.text ++ block.leadingBreak ++ block.breaks

def chompingMark? (c : Char) : Option Chomping :=
  if c = '+' then some .keep else if c = '-' then some .strip else none

def blockHeader (cursor : Cursor) : Option (Chomping × Nat × Cursor) :=
  let digit? := fun (cursor : Cursor) => cursor.peek?.filter Text.isDigit
  match cursor.peek?.bind chompingMark? with
  | some chomping =>
    match digit? (cursor.skip 1) with
    | some '0' => none
    | some c => some (chomping, Text.digitValue c, cursor.skip 2)
    | none => some (chomping, 0, cursor.skip 1)
  | none =>
    match digit? cursor with
    | some '0' => none
    | some c =>
      match (cursor.skip 1).peek?.bind chompingMark? with
      | some chomping => some (chomping, Text.digitValue c, cursor.skip 2)
      | none => some (.clip, Text.digitValue c, cursor.skip 1)
    | none => some (.clip, 0, cursor)

def blockScalar (literal : Bool) (outer : Int) (cursor : Cursor) : Option (List Char × Cursor) := do
  let (chomping, increment, cursor) ← blockHeader cursor
  let cursor := cursor.skipWhile isBlank
  let cursor := if cursor.isAt '#' then cursor.skipWhile fun c => !isBreak c else cursor
  if !Cursor.breakOrEnd cursor.peek? then none
  else
    let cursor := cursor.takeBreak.2
    let given := if increment = 0 then 0 else (if 0 ≤ outer then outer.toNat + increment else increment)
    let (widest, breaks, cursor) ← blockBreaks given (cursor.text.length + 1) 0 [] cursor
    let indent := blockIndent given widest outer
    let (block, cursor) ← blockLines literal indent (cursor.text.length + 1) ⟨[], [], breaks, false⟩ cursor
    return (chomped chomping block, cursor)

end ClusterCaps.Yaml
