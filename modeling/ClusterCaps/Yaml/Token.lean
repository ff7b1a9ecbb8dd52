import ClusterCaps.Yaml.Scalar

/-!
The tokens of a YAML text. Where blocks begin and end follows from indentation; that a scalar is a
key is known only at the colon behind it, so the tokens for it are put in front afterwards.
-/
set_option autoImplicit false

namespace ClusterCaps.Yaml

inductive Style where
  | plain
  | quoted
  | literal
  | folded
deriving DecidableEq

inductive Token where
  | version (supported : Bool)
  | tagHandle (handle start : List Char)
  | documentStart
  | documentEnd
  | blockSequenceStart
  | blockMappingStart
  | blockEnd
  | flowSequenceStart
  | flowSequenceEnd
  | flowMappingStart
  | flowMappingEnd
  | blockEntry
  | flowEntry
  | key
  | value
  | alias (name : List Char)
  | anchor (name : List Char)
  | tag (handle suffix : List Char)
  | scalar (style : Style) (text : List Char)
deriving DecidableEq

structure SimpleKey where
  required : Bool
  position : Nat
  line : Nat
  column : Nat
  index : Nat

structure Scanner where
  cursor : Cursor
  tokens : Array Token
  indent : Int
  outerIndents : List Int
  keyAllowed : Bool
  keys : List (Option SimpleKey)

namespace Scanner

def start (text : List Char) : Scanner :=
  ⟨Cursor.start text, #[], -1, [], true, [none]⟩

def inFlow (scanner : Scanner) : Bool := 1 < scanner.keys.length

def push (scanner : Scanner) (token : Token) : Scanner :=
  { scanner with tokens := scanner.tokens.push token }

def insert (scanner : Scanner) (position : Nat) (token : Token) : Scanner :=
  { scanner with tokens := scanner.tokens.insertIdxIfInBounds position token }

def unroll (column : Int) : Nat → Scanner → Scanner
  | 0, scanner => scanner
  | steps + 1, scanner =>
    if scanner.indent ≤ column then scanner
    else
      match scanner.outerIndents with
      | [] => scanner
      | outer :: rest =>
        unroll column steps { scanner.push .blockEnd with indent := outer, outerIndents := rest }

def closeBlocks (scanner : Scanner) (column : Int) : Scanner :=
  if scanner.inFlow then scanner else unroll column (scanner.outerIndents.length + 1) scanner

def openBlock (scanner : Scanner) (column position : Nat) (token : Token) : Scanner :=
  if scanner.inFlow || (column : Int) ≤ scanner.indent then scanner
  else
    { scanner.insert position token with
      indent := column, outerIndents := scanner.indent :: scanner.outerIndents }

def keyLengthLimit : Nat := 1024

-- A key has to end on its line and within the limit.
def isStale (key : SimpleKey) (cursor : Cursor) : Bool :=
  key.line < cursor.line || key.index + keyLengthLimit < cursor.index

-- Gives up the keys that no colon can follow any more; a key that had to be one is an error.
def dropStale (cursor : Cursor) : List (Option SimpleKey) → Option (List (Option SimpleKey))
  | [] => some []
  | none :: rest => (dropStale cursor rest).map (none :: ·)
  | some key :: rest =>
    if isStale key cursor then
      if key.required then none else (dropStale cursor rest).map (none :: ·)
    else (dropStale cursor rest).map (some key :: ·)

def removeKey (scanner : Scanner) : Option Scanner :=
  match scanner.keys with
  | some key :: rest => if key.required then none else some { scanner with keys := none :: rest }
  | _ => some scanner

def saveKey (scanner : Scanner) : Option Scanner :=
  if scanner.keyAllowed then do
    let scanner ← scanner.removeKey
    let cursor := scanner.cursor
    let required := !scanner.inFlow && scanner.indent == (cursor.column : Int)
    let key : SimpleKey := ⟨required, scanner.tokens.size, cursor.line, cursor.column, cursor.index⟩
    return { scanner with keys := some key :: scanner.keys.drop 1 }
  else some scanner

def allow (scanner : Scanner) (allowed : Bool) : Scanner := { scanner with keyAllowed := allowed }

def moveTo (scanner : Scanner) (cursor : Cursor) : Scanner := { scanner with cursor }

def skip (scanner : Scanner) (count : Nat) : Scanner := scanner.moveTo (scanner.cursor.skip count)

def skipToToken : Nat → Scanner → Scanner
  | 0, scanner => scanner
  | steps + 1, scanner =>
    let cursor := scanner.cursor
    let tabs := scanner.inFlow || !scanner.keyAllowed
    let cursor := cursor.skipWhile fun c => c == ' ' || (tabs && c == '\t')
    let cursor := if cursor.isAt '#' then cursor.skipWhile fun c => !isBreak c else cursor
    if cursor.atBreak then
      let scanner := scanner.moveTo cursor.takeBreak.2
      skipToToken steps (if scanner.inFlow then scanner else scanner.allow true)
    else scanner.moveTo cursor

def versionNumber? (cursor : Cursor) : Option (Nat × Cursor) :=
  let (digits, rest) := cursor.takeWhile Text.isDigit
  if 9 < digits.length then none else (Text.decimal? digits).map fun value => (value, rest)

def isTagChar (wide : Bool) (c : Char) : Bool :=
  isNameChar c || c == ';' || c == '/' || c == '?' || c == ':' || c == '@' || c == '&' ||
    c == '=' || c == '+' || c == '$' || c == '.' || c == '%' || c == '!' || c == '~' || c == '*' ||
    c == '\'' || c == '(' || c == ')' || (wide && (c == ',' || c == '[' || c == ']'))

def unescapeBytes : List Char → Option (List UInt8)
  | [] => some []
  | '%' :: a :: b :: rest =>
    match Json.hexValue? a, Json.hexValue? b, unescapeBytes rest with
    | some high, some low, some bytes => some (UInt8.ofNat (high * 16 + low) :: bytes)
    | _, _, _ => none
  | '%' :: _ => none
  | c :: rest => (unescapeBytes rest).map fun bytes => (String.singleton c).toUTF8.toList ++ bytes

def unescape (text : List Char) : Option (List Char) :=
  (unescapeBytes text).bind fun bytes =>
    (String.fromUTF8? ⟨bytes.toArray⟩).map String.toList

def tagName? (wide : Bool) (known : List Char) (cursor : Cursor) : Option (List Char × Cursor) :=
  let (text, rest) := cursor.takeWhile (isTagChar wide)
  if text.isEmpty ∧ known.isEmpty then none
  else (unescape text).map fun name => (known.drop 1 ++ name, rest)

def handle? (directive : Bool) (cursor : Cursor) : Option (List Char × Cursor) :=
  if cursor.isAt '!' then
    let (name, rest) := (cursor.skip 1).takeWhile isNameChar
    if rest.isAt '!' then some ('!' :: name ++ ['!'], rest.skip 1)
    else if directive ∧ !name.isEmpty then none
    else some ('!' :: name, rest)
  else none

def directive? (cursor : Cursor) : Option (Token × Cursor) := do
  let (name, cursor) := (cursor.skip 1).takeWhile isNameChar
  if name = "YAML".toList ∧ Cursor.blankOrEnd cursor.peek? then
    let (major, cursor) ← versionNumber? (cursor.skipWhile isBlank)
    if cursor.isAt '.' then
      let (minor, cursor) ← versionNumber? (cursor.skip 1)
      return (.version (major == 1 && (minor == 1 || minor == 2)), cursor)
    else none
  else if name = "TAG".toList ∧ Cursor.blankOrEnd cursor.peek? then
    let (handle, cursor) ← handle? true (cursor.skipWhile isBlank)
    if cursor.atBlank then
      let (start, cursor) ← tagName? true [] (cursor.skipWhile isBlank)
      if Cursor.blankOrEnd cursor.peek? then return (.tagHandle handle start, cursor) else none
    else none
  else none

def endDirective? (cursor : Cursor) : Option Cursor :=
  let cursor := cursor.skipWhile isBlank
  let cursor := if cursor.isAt '#' then cursor.skipWhile fun c => !isBreak c else cursor
  if Cursor.breakOrEnd cursor.peek? then some cursor.takeBreak.2 else none

def endsName (c : Char) : Bool :=
  isBlank c || isBreak c || c == '?' || c == ':' || c == ',' || c == ']' || c == '\x7d' ||
    c == '%' || c == '@' || c.toNat == 0x60

def anchorName? (cursor : Cursor) : Option (List Char × Cursor) :=
  let (name, rest) := (cursor.skip 1).takeWhile isNameChar
  if name.isEmpty || !(rest.peek?.all endsName) then none else some (name, rest)

def verbatimTag? (cursor : Cursor) : Option (Token × Cursor) :=
  match tagName? true [] (cursor.skip 2) with
  | some (name, rest) => if rest.isAt '>' then some (.tag [] name, rest.skip 1) else none
  | none => none

def tag? (inFlow : Bool) (cursor : Cursor) : Option (Token × Cursor) := do
  let found ←
    if cursor.ahead? 1 = some '<' then verbatimTag? cursor
    else do
      let (handle, rest) ← handle? false cursor
      if 2 ≤ handle.length ∧ handle.getLast? = some '!' then
        let (name, rest) ← tagName? false [] rest
        pure (Token.tag handle name, rest)
      else
        let (name, rest) ← tagName? false handle rest
        if name.isEmpty then pure (Token.tag [] ['!'], rest) else pure (Token.tag ['!'] name, rest)
  if (inFlow && found.2.isAt ',') || Cursor.blankOrEnd found.2.peek? then some found else none

def fetchDirective (scanner : Scanner) : Option Scanner := do
  let scanner ← (scanner.closeBlocks (-1)).removeKey
  let (token, cursor) ← directive? scanner.cursor
  let cursor ← endDirective? cursor
  return (((scanner.allow false).push token).moveTo cursor)

def fetchDocumentMark (scanner : Scanner) (token : Token) : Option Scanner := do
  let scanner ← (scanner.closeBlocks (-1)).removeKey
  return ((scanner.allow false).push token).skip 3

def fetchFlowStart (scanner : Scanner) (token : Token) : Option Scanner := do
  let scanner ← scanner.saveKey
  return { (((scanner.allow true).push token).skip 1) with keys := none :: scanner.keys }

def fetchFlowEnd (scanner : Scanner) (token : Token) : Option Scanner := do
  let scanner ← scanner.removeKey
  let keys := if scanner.inFlow then scanner.keys.drop 1 else scanner.keys
  return { (((scanner.allow false).push token).skip 1) with keys }

def fetchFlowEntry (scanner : Scanner) : Option Scanner := do
  let scanner ← scanner.removeKey
  return ((scanner.allow true).push .flowEntry).skip 1

def fetchBlockEntry (scanner : Scanner) : Option Scanner := do
  if !scanner.inFlow && !scanner.keyAllowed then none
  else
    let scanner := scanner.openBlock scanner.cursor.column scanner.tokens.size .blockSequenceStart
    let scanner ← scanner.removeKey
    return ((scanner.allow true).push .blockEntry).skip 1

def fetchKey (scanner : Scanner) : Option Scanner := do
  if !scanner.inFlow && !scanner.keyAllowed then none
  else
    let scanner := scanner.openBlock scanner.cursor.column scanner.tokens.size .blockMappingStart
    let scanner ← scanner.removeKey
    return ((scanner.allow (!scanner.inFlow)).push .key).skip 1

def fetchValue (scanner : Scanner) : Option Scanner :=
  match scanner.keys with
  | some key :: rest =>
    let scanner := { scanner.insert key.position .key with keys := none :: rest }
    let scanner := scanner.openBlock key.column key.position .blockMappingStart
    some (((scanner.allow false).push .value).skip 1)
  | _ =>
    if !scanner.inFlow && !scanner.keyAllowed then none
    else
      let scanner := scanner.openBlock scanner.cursor.column scanner.tokens.size .blockMappingStart
      some (((scanner.allow (!scanner.inFlow)).push .value).skip 1)

def fetchAlias (scanner : Scanner) : Option Scanner := do
  let scanner ← scanner.saveKey
  let (name, cursor) ← anchorName? scanner.cursor
  return ((scanner.allow false).push (.alias name)).moveTo cursor

def fetchAnchor (scanner : Scanner) : Option Scanner := do
  let scanner ← scanner.saveKey
  let (name, cursor) ← anchorName? scanner.cursor
  return ((scanner.allow false).push (.anchor name)).moveTo cursor

def fetchTag (scanner : Scanner) : Option Scanner := do
  let scanner ← scanner.saveKey
  let (token, cursor) ← tag? scanner.inFlow scanner.cursor
  return ((scanner.allow false).push token).moveTo cursor

def fetchBlockScalar (scanner : Scanner) (literal : Bool) : Option Scanner := do
  let scanner ← scanner.removeKey
  let (text, cursor) ← blockScalar literal scanner.indent (scanner.cursor.skip 1)
  let style : Style := if literal then .literal else .folded
  return ((scanner.allow true).push (.scalar style text)).moveTo cursor

def fetchQuoted (scanner : Scanner) (single : Bool) : Option Scanner := do
  let scanner ← scanner.saveKey
  let cursor := scanner.cursor.skip 1
  let (text, cursor) ← quotedScalar single (cursor.text.length + 1) [] cursor
  return ((scanner.allow false).push (.scalar .quoted text)).moveTo cursor

def fetchPlain (scanner : Scanner) : Option Scanner := do
  let scanner ← scanner.saveKey
  let indent := (scanner.indent + 1).toNat
  let (text, broken, cursor) ←
    plain scanner.inFlow indent (scanner.cursor.text.length + 1) [] Gap.empty scanner.cursor
  return ((scanner.allow broken).push (.scalar .plain text)).moveTo cursor

def isIndicator (c : Char) : Bool :=
  c == '-' || c == '?' || c == ':' || c == ',' || c == '[' || c == ']' || c == '\x7b' ||
    c == '\x7d' || c == '#' || c == '&' || c == '*' || c == '!' || c == '|' || c == '>' ||
    c == '\'' || c == '"' || c == '%' || c == '@' || c.toNat == 0x60

def startsPlain (scanner : Scanner) (c : Char) : Bool :=
  let next := scanner.cursor.ahead? 1
  (!isBlank c && !isBreak c && !isIndicator c) ||
    (c == '-' && !(next.any isBlank)) ||
    (!scanner.inFlow && (c == '?' || c == ':') && !Cursor.blankOrEnd next)

def fetchAt (scanner : Scanner) (c : Char) : Option Scanner :=
  let spaced := Cursor.blankOrEnd (scanner.cursor.ahead? 1)
  if scanner.cursor.column == 0 && c == '%' then scanner.fetchDirective
  else if scanner.cursor.atDocumentMark '-' then scanner.fetchDocumentMark .documentStart
  else if scanner.cursor.atDocumentMark '.' then scanner.fetchDocumentMark .documentEnd
  else if c == '[' then scanner.fetchFlowStart .flowSequenceStart
  else if c == '\x7b' then scanner.fetchFlowStart .flowMappingStart
  else if c == ']' then scanner.fetchFlowEnd .flowSequenceEnd
  else if c == '\x7d' then scanner.fetchFlowEnd .flowMappingEnd
  else if c == ',' then scanner.fetchFlowEntry
  else if c == '-' && spaced then scanner.fetchBlockEntry
  else if c == '?' && (scanner.inFlow || spaced) then scanner.fetchKey
  else if c == ':' && (scanner.inFlow || spaced) then scanner.fetchValue
  else if c == '*' then scanner.fetchAlias
  else if c == '&' then scanner.fetchAnchor
  else if c == '!' then scanner.fetchTag
  else if c == '|' && !scanner.inFlow then scanner.fetchBlockScalar true
  else if c == '>' && !scanner.inFlow then scanner.fetchBlockScalar false
  else if c == '\'' then scanner.fetchQuoted true
  else if c == '"' then scanner.fetchQuoted false
  else if scanner.startsPlain c then scanner.fetchPlain
  else none

def finish (scanner : Scanner) : Option (Array Token) :=
  ((scanner.closeBlocks (-1)).removeKey).map (·.tokens)

def run : Nat → Scanner → Option (Array Token)
  | 0, _ => none
  | steps + 1, scanner => do
    let scanner := skipToToken (scanner.cursor.text.length + 1) scanner
    let keys ← dropStale scanner.cursor scanner.keys
    let scanner := { scanner with keys }
    let scanner := scanner.closeBlocks scanner.cursor.column
    match scanner.cursor.peek? with
    | none => scanner.finish
    | some c => run steps (← scanner.fetchAt c)

end Scanner

def skipByteOrderMark : List Char → List Char
  | c :: rest => if c.toNat = 0xFEFF then rest else c :: rest
  | [] => []

def tokens? (text : List Char) : Option (List Token) :=
  let text := skipByteOrderMark text
  if text.all isAllowed then
    (Scanner.run (text.length + 2) (Scanner.start text)).map Array.toList
  else none

end ClusterCaps.Yaml
