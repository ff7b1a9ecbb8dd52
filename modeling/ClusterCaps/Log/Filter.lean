import ClusterCaps.Log.Line
import ClusterCaps.Log.Settings
import ClusterCaps.Pass.Run
import ClusterCaps.Text.Blank

/-!
Filters for the log. A filter is a list of directives; each gives a threshold to the targets that begin
with a text, or to all that happens inside a span of a name. A span that does not pass is not there
for the events inside it either.
-/
set_option autoImplicit false

namespace ClusterCaps.Log

structure Directive where
  target : String
  -- The name of the spans that the directive is about, if it is not about single events.
  span? : Option String
  limit : Threshold
deriving DecidableEq, Repr

abbrev Filter := List Directive

namespace Directive

def limits : List (String × Threshold) :=
  [("trace", .upTo .trace), ("debug", .upTo .debug), ("info", .upTo .info), ("warn", .upTo .warn),
    ("error", .upTo .error), ("off", .off), ("0", .off), ("1", .upTo .error), ("2", .upTo .warn),
    ("3", .upTo .info), ("4", .upTo .debug), ("5", .upTo .trace)]

def limit? (word : List Char) : Option Threshold :=
  limits.lookup (Text.asciiLowered (String.ofList word))

def cut (mark : Char) (text : List Char) : List Char × Option (List Char) :=
  match text.dropWhile (· != mark) with
  | [] => (text, none)
  | _ :: rest => (text.takeWhile (· != mark), some rest)

def limitAfter? : Option (List Char) → Option Threshold
  | none => some (.upTo .trace)
  | some [] => some (.upTo .trace)
  | some word => limit? word

def isStart (c : Char) : Bool :=
  c == '-' || c == ':' || c == '_' || c == '[' || c.isAlphanum || 128 ≤ c.toNat

def ofTarget? (text : List Char) : Option Directive :=
  match cut '=' text with
  | (word, none) =>
    match limit? word with
    | some limit => some ⟨"", none, limit⟩
    | none => some ⟨String.ofList word, none, .upTo .trace⟩
  | (target, level) =>
    if target.head?.any Text.isBlank then none
    else (limitAfter? level).map fun limit => ⟨String.ofList target, none, limit⟩

def afterSpan? : List Char → Option Threshold
  | [] => some (.upTo .trace)
  | '=' :: word => limitAfter? (some word)
  | _ => none

def ofSpan? (target rest : List Char) : Option Directive :=
  match cut ']' rest with
  | (_, none) => none
  | (name, some behind) =>
    (afterSpan? behind).map fun limit =>
      ⟨String.ofList target, some (String.ofList name), limit⟩

def parse? (text : List Char) : Option Directive :=
  match Text.trimStart text with
  | [] => none
  | first :: _ =>
    if !isStart first then none
    else
      match cut '[' (cut '=' text).1 with
      | (target, some _) => ofSpan? target (text.drop (target.length + 1))
      | (_, none) => ofTarget? text

end Directive

namespace Filter

def parseAll? : List (List Char) → Option Filter
  | [] => some []
  | text :: rest =>
    match Directive.parse? text, parseAll? rest with
    | some directive, some filter => some (directive :: filter)
    | _, _ => none

def parse? (text : String) : Option Filter :=
  if text.isEmpty then some [] else parseAll? (Text.splitOn ',' text.toList)

def ofThreshold (threshold : Threshold) : Filter :=
  [⟨"sc_core", none, threshold⟩, ⟨"sc_config", none, threshold⟩]

-- A filter in the environment replaces the one of the settings, provided that it can be read.
def ofSettings (environment : Environment) (settings : Settings) : Filter :=
  match (environment.get? Settings.filterVariable).bind parse? with
  | some filter => filter
  | none => ofThreshold settings.threshold

-- Of two directives for one target the one with the longer target counts, or else the later.
def moreSpecific (best : Option Directive) (directive : Directive) : Option Directive :=
  match best with
  | none => some directive
  | some other =>
    if other.target.length ≤ directive.target.length then some directive else some other

def admitsTarget (filter : Filter) (target : String) (level : Level) : Bool :=
  let about := filter.filter fun directive =>
    directive.span?.isNone && Text.startsWith directive.target target
  match about.foldl moreSpecific none with
  | some directive => directive.limit.admits level
  | none => false

def aboutSpan (filter : Filter) (span : Span) : Filter :=
  filter.filter fun directive =>
    directive.span? == some span.name && Text.startsWith directive.target span.target

def opens (filter : Filter) (span : Span) (level : Level) : Bool :=
  (aboutSpan filter span).any fun directive => directive.limit.admits level

def reachesSpans (filter : Filter) (level : Level) : Bool :=
  filter.any fun directive => directive.span?.isSome && directive.limit.admits level

def admitsSpan (filter : Filter) (around : List Span) (span : Span) : Bool :=
  (!(aboutSpan filter span).isEmpty && reachesSpans filter span.level) ||
    around.any (opens filter · span.level) || admitsTarget filter span.target span.level

def admittedSpans (filter : Filter) (around : List Span) : List Span → List Span
  | [] => around
  | span :: inner =>
    if admitsSpan filter around span then admittedSpans filter (around ++ [span]) inner
    else admittedSpans filter around inner

def line? (filter : Filter) (time : Timestamp) (emission : Emission) : Option Line :=
  let spans := admittedSpans filter [] emission.spans
  let event := emission.event
  if spans.any (opens filter · event.level) || admitsTarget filter event.target event.level then
    some (Line.ofEvent time spans event)
  else none

end Filter

end ClusterCaps.Log
