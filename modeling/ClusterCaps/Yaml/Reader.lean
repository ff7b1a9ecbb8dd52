import ClusterCaps.Yaml.Token
import ClusterCaps.Data

set_option autoImplicit false

namespace ClusterCaps.Yaml

-- Names that stand for data read before, the latest first; one whose data are still being read
-- stands for nothing yet.
abbrev Anchors := List (List Char × Option Data)

structure Input where
  tokens : List Token
  anchors : Anchors
  handles : List (List Char × List Char)

namespace Input

def next? (input : Input) : Option Token := input.tokens.head?

def skip (input : Input) : Input := { input with tokens := input.tokens.drop 1 }

def bindAnchor (input : Input) (anchor : Option (List Char)) (data : Option Data) : Input :=
  match anchor with
  | none => input
  | some name => { input with anchors := (name, data) :: input.anchors }

end Input

def emptyScalar : Data := .bare ""

def scalarData : Style → String → Data
  | .plain => .bare
  | .quoted => .text
  | .literal => .literal
  | .folded => .text

structure Marks where
  anchor : Option (List Char)
  tag : Option String

def tagText? (input : Input) (handle suffix : List Char) : Option String :=
  if handle.isEmpty then some (String.ofList suffix)
  else (input.handles.lookup handle).map fun start => String.ofList (start ++ suffix)

def marks? (input : Input) : Option (Marks × Input) :=
  match input.tokens with
  | .anchor name :: .tag handle suffix :: rest =>
    (tagText? input handle suffix).map fun tag => (⟨some name, some tag⟩, { input with tokens := rest })
  | .tag handle suffix :: .anchor name :: rest =>
    (tagText? input handle suffix).map fun tag => (⟨some name, some tag⟩, { input with tokens := rest })
  | .anchor name :: rest => some (⟨some name, none⟩, { input with tokens := rest })
  | .tag handle suffix :: rest =>
    (tagText? input handle suffix).map fun tag => (⟨none, some tag⟩, { input with tokens := rest })
  | _ => some (⟨none, none⟩, input)

def Marks.isEmpty (marks : Marks) : Bool := marks.anchor.isNone && marks.tag.isNone

-- A tag without a name leaves a scalar as it is.
def Marks.on (marks : Marks) : Option Token → Marks
  | some (.scalar _ _) => if marks.tag = some "!" then { marks with tag := none } else marks
  | _ => marks

def Marks.apply (marks : Marks) (data : Data) : Data :=
  match marks.tag with
  | some tag => .tagged tag data
  | none => data

inductive Place where
  | blockItem
  | indentlessItem
  | blockKey
  | flowItem
  | pairKey
  | flowKey
  | flowValue
deriving DecidableEq

def Place.isLeft (place : Place) : Option Token → Bool
  | none => false
  | some token =>
    match place with
    | .blockItem => token == .blockEntry || token == .blockEnd
    | .indentlessItem =>
      token == .blockEntry || token == .key || token == .value || token == .blockEnd
    | .blockKey => token == .key || token == .value || token == .blockEnd
    | .flowItem => false
    | .pairKey => token == .value || token == .flowEntry || token == .flowSequenceEnd
    | .flowKey => token == .value || token == .flowEntry || token == .flowMappingEnd
    | .flowValue =>
      token == .flowEntry || token == .flowMappingEnd || token == .flowSequenceEnd

mutual

-- One node. Blocks are refused inside brackets; a list without indentation of its own may stand as
-- a key or a value of a block.
def node? : Nat → (block indentless : Bool) → Input → Option (Data × Input)
  | 0, _, _, _ => none
  | steps + 1, block, indentless, input =>
    match input.tokens with
    | .alias name :: rest =>
      (input.anchors.lookup name).map fun data => (data.getD .unreadable, { input with tokens := rest })
    | _ =>
      match marks? input with
      | none => none
      | some (marks, input) =>
        let next? := input.next?
        let content : Option (Data × Input) :=
          match next? with
          | some (.scalar style text) => some (scalarData style (String.ofList text), input.skip)
          | some .flowSequenceStart =>
            flowItems? steps true (input.skip.bindAnchor marks.anchor none)
          | some .flowMappingStart =>
            flowPairs? steps true (input.skip.bindAnchor marks.anchor none)
          | some .blockSequenceStart =>
            if block then blockItems? steps (input.skip.bindAnchor marks.anchor none) else none
          | some .blockMappingStart =>
            if block then blockPairs? steps (input.skip.bindAnchor marks.anchor none) else none
          | some .blockEntry =>
            if indentless then indentlessItems? steps (input.bindAnchor marks.anchor none)
            else if marks.isEmpty then none
            else some (emptyScalar, input)
          | _ => if marks.isEmpty then none else some (emptyScalar, input)
        content.map fun (data, input) =>
          let data := (marks.on next?).apply data
          (data, input.bindAnchor marks.anchor (some data))

def nodeOr? : Nat → Place → Input → Option (Data × Input)
  | 0, _, _ => none
  | steps + 1, place, input =>
    if place.isLeft input.next? then some (emptyScalar, input)
    else
      match place with
      | .blockItem => node? steps true false input
      | .indentlessItem => node? steps true false input
      | .blockKey => node? steps true true input
      | _ => node? steps false false input

def blockItems? : Nat → Input → Option (Data × Input)
  | 0, _ => none
  | steps + 1, input =>
    match input.next? with
    | some .blockEnd => some (.list [], input.skip)
    | some .blockEntry =>
      match nodeOr? steps .blockItem input.skip with
      | none => none
      | some (item, input) =>
        match blockItems? steps input with
        | some (.list items, input) => some (.list (item :: items), input)
        | _ => none
    | _ => none

def indentlessItems? : Nat → Input → Option (Data × Input)
  | 0, _ => none
  | steps + 1, input =>
    match input.next? with
    | some .blockEntry =>
      match nodeOr? steps .indentlessItem input.skip with
      | none => none
      | some (item, input) =>
        match indentlessItems? steps input with
        | some (.list items, input) => some (.list (item :: items), input)
        | _ => none
    | _ => some (.list [], input)

def blockValue? : Nat → Input → Option (Data × Input)
  | 0, _ => none
  | steps + 1, input =>
    match input.next? with
    | some .value => nodeOr? steps .blockKey input.skip
    | _ => some (emptyScalar, input)

def blockPairs? : Nat → Input → Option (Data × Input)
  | 0, _ => none
  | steps + 1, input =>
    match input.next? with
    | some .blockEnd => some (.table [], input.skip)
    | some token =>
      let key : Option (Data × Input) :=
        if token = .key then nodeOr? steps .blockKey input.skip
        else if token = .value then some (emptyScalar, input)
        else none
      match key with
      | none => none
      | some (key, input) =>
        match blockValue? steps input with
        | none => none
        | some (value, input) =>
          match blockPairs? steps input with
          | some (.table pairs, input) => some (.table ((key, value) :: pairs), input)
          | _ => none
    | none => none

def flowValue? : Nat → Input → Option (Data × Input)
  | 0, _ => none
  | steps + 1, input =>
    match input.next? with
    | some .value => nodeOr? steps .flowValue input.skip
    | _ => some (emptyScalar, input)

-- An item of a list in brackets; a pair there is a table of its own.
def flowItem? : Nat → Input → Option (Data × Input)
  | 0, _ => none
  | steps + 1, input =>
    match input.next? with
    | some .key =>
      match nodeOr? steps .pairKey input.skip with
      | none => none
      | some (key, input) =>
        (flowValue? steps input).map fun (value, input) => (.table [(key, value)], input)
    | _ => node? steps false false input

def flowItems? : Nat → (first : Bool) → Input → Option (Data × Input)
  | 0, _, _ => none
  | steps + 1, first, input =>
    match input.next? with
    | some .flowSequenceEnd => some (.list [], input.skip)
    | next =>
      let input? : Option Input :=
        if first then some input else if next = some .flowEntry then some input.skip else none
      match input? with
      | none => none
      | some input =>
        if !first && input.next? == some .flowSequenceEnd then some (.list [], input.skip)
        else
          match flowItem? steps input with
          | none => none
          | some (item, input) =>
            match flowItems? steps false input with
            | some (.list items, input) => some (.list (item :: items), input)
            | _ => none

def flowPair? : Nat → Input → Option ((Data × Data) × Input)
  | 0, _ => none
  | steps + 1, input =>
    match input.next? with
    | some .key =>
      match nodeOr? steps .flowKey input.skip with
      | none => none
      | some (key, input) =>
        (flowValue? steps input).map fun (value, input) => ((key, value), input)
    | _ => (node? steps false false input).map fun (key, input) => ((key, emptyScalar), input)

def flowPairs? : Nat → (first : Bool) → Input → Option (Data × Input)
  | 0, _, _ => none
  | steps + 1, first, input =>
    match input.next? with
    | some .flowMappingEnd => some (.table [], input.skip)
    | next =>
      let input? : Option Input :=
        if first then some input else if next = some .flowEntry then some input.skip else none
      match input? with
      | none => none
      | some input =>
        if !first && input.next? == some .flowMappingEnd then some (.table [], input.skip)
        else
          match flowPair? steps input with
          | none => none
          | some (pair, input) =>
            match flowPairs? steps false input with
            | some (.table pairs, input) => some (.table (pair :: pairs), input)
            | _ => none

end

def standardHandles : List (List Char × List Char) :=
  [(['!'], ['!']), (['!', '!'], "tag:yaml.org,2002:".toList)]

-- The directives in front of a document: at most one version, and no handle twice.
def directives? : Nat → (versioned : Bool) → List (List Char × List Char) → List Token →
    Option (List (List Char × List Char) × List Token)
  | 0, _, _, _ => none
  | steps + 1, versioned, handles, tokens =>
    match tokens with
    | .version supported :: rest =>
      if versioned || !supported then none else directives? steps true handles rest
    | .tagHandle handle start :: rest =>
      if handles.any fun entry => entry.1 == handle then none
      else directives? steps versioned ((handle, start) :: handles) rest
    | rest => some (handles, rest)

def content? (steps : Nat) (input : Input) : Option (Data × Input) :=
  match input.next? with
  | none => some (emptyScalar, input)
  | some .documentStart => some (emptyScalar, input)
  | some .documentEnd => some (emptyScalar, input)
  | some (.version _) => some (emptyScalar, input)
  | some (.tagHandle _ _) => some (emptyScalar, input)
  | some _ => node? steps true false input

def document? (tokens : List Token) : Option (Data × List Token) := do
  let steps := 6 * tokens.length + 6
  let (handles, rest) ← directives? (tokens.length + 1) false [] tokens
  let input : Input := ⟨rest, [], handles ++ standardHandles⟩
  let (data, input) ←
    if rest.length = tokens.length ∧ rest.head? ≠ some .documentStart then
      node? steps true false input
    else if rest.head? = some .documentStart then content? steps input.skip
    else none
  return (data, input.tokens)

def read? (text : String) : Option Data := do
  let tokens ← tokens? text.toList
  if tokens.isEmpty then some emptyScalar
  else
    let (data, rest) ← document? tokens
    if rest.all (· == .documentEnd) then some data else none

end ClusterCaps.Yaml
