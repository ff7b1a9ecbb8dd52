import ClusterCaps.CommandLine.Task
import ClusterCaps.Files.Entry
import ClusterCaps.Text.Scan

/-!
Reading the words of a command line. Words are read from left to right on the level of one command,
until the name of a command inside it opens the next level. A question for help or for the version is
answered as soon as it is met, so that mistakes behind it do not matter.
-/
set_option autoImplicit false

namespace ClusterCaps.CommandLine

inductive Mistake where
  | unknownOption (word : String)
  | unexpectedWord (word : String)
  | missingValue (switch : Switch)
  | surplusValue (switch : Switch)
  | invalidValue (switch : Switch) (value : String)
  | repeated (switch : Switch)
  | exclusive (first second : Switch)
  | missingOperand (command : Command)
  | missingCommand (command : Command)
deriving DecidableEq, Repr

inductive Interruption where
  | mistake (cause : Mistake)
  | help (commands : List Command)
  | version (commands : List Command)
deriving DecidableEq, Repr

abbrev Attempted (α : Type) := Except Interruption α

def refuse {α : Type} (mistake : Mistake) : Attempted α := .error (.mistake mistake)

structure Level where
  command : Command
  around : List Command := []
  settings : List Setting := []
  operand? : Option String := none
  -- The last option, if its value has not come or has not been looked at.
  waiting : Option (Switch × Option String) := none
deriving DecidableEq, Repr

namespace Level

def commands (level : Level) : List Command := (level.command :: level.around).reverse

def inside (level : Level) (command : Command) : Level :=
  { command, around := level.command :: level.around }

def gives (level : Level) (switch : Switch) : Bool :=
  level.settings.any fun setting => setting.switch == switch

def add (level : Level) (setting : Setting) : Attempted Level :=
  if !setting.switch.isRepeatable && level.gives setting.switch then
    refuse (.repeated setting.switch)
  else .ok { level with settings := level.settings ++ [setting] }

def addValue (level : Level) (switch : Switch) (value : String) : Attempted Level :=
  match switch.manner with
  | .valued read =>
    match read value with
    | some setting => level.add setting
    | none => refuse (.invalidValue switch value)
  | _ => refuse (.surplusValue switch)

def settled (level : Level) : Attempted Level :=
  match level.waiting with
  | none => .ok level
  | some (switch, none) => refuse (.missingValue switch)
  | some (switch, some value) => { level with waiting := none }.addValue switch value

def addBare (level : Level) (switch : Switch) : Attempted Level :=
  match switch.manner with
  | .help => .error (.help level.commands)
  | .version => .error (.version level.commands)
  | .alone setting => level.add setting
  | .valued _ => .ok { level with waiting := some (switch, none) }

def addSwitch (level : Level) (switch : Switch) (value? : Option String) : Attempted Level := do
  let level ← level.settled
  match value? with
  | none => level.addBare switch
  | some value => level.addValue switch value

def valueCut (text : List Char) : String × Option String :=
  (String.ofList (text.takeWhile (· != '=')),
    (Text.after? ['='] text).map String.ofList)

def addLong (level : Level) (text : List Char) : Attempted Level :=
  let (word, value?) := valueCut text
  match level.command.switchOfWord? word with
  | some switch => level.addSwitch switch value?
  | none => refuse (.unknownOption ("--" ++ word))

def attached : List Char → Option String
  | [] => none
  | '=' :: rest => some (String.ofList rest)
  | rest => some (String.ofList rest)

-- Options by their letters. Of one that takes a value, the letters behind it are the value.
def addShort (level : Level) : List Char → Attempted Level
  | [] => .ok level
  | letter :: rest =>
    match level.command.switchOfLetter? letter with
    | none => refuse (.unknownOption (String.ofList ['-', letter]))
    | some switch =>
      if switch.takesValue then level.addSwitch switch (attached rest)
      else
        match level.addSwitch switch none with
        | .ok next => next.addShort rest
        | .error interruption => .error interruption

def accepts (command : Command) (word : String) : Bool :=
  match command with
  | .completions => (Shell.ofName? word).isSome
  | _ => command.operand?.isSome

def addOperand (level : Level) (word : String) : Attempted Level := do
  let level ← level.settled
  if level.operand?.isSome || !accepts level.command word then refuse (.unexpectedWord word)
  else return { level with operand? := some word }

def topologyVariable : String := "SC_TOPOLOGY"

-- The variable may be unset but not empty, unless this very level does without it.
def close (level : Level) (environment : Environment) : Attempted Level := do
  let level ← level.settled
  if environment.get? topologyVariable = some "" ∧ level.gives .topology = false then
    refuse (.missingValue .topology)
  else if level.gives .list ∧ level.gives .all then refuse (.exclusive .list .all)
  else return level

def schemaChoice (level : Level) : SchemaChoice :=
  if level.gives .list then .list
  else if level.gives .all then .all
  else
    match level.operand? with
    | some name => .named name
    | none => .unstated

def task (level : Level) : Attempted Task :=
  match level.command, level.operand? with
  | .probe, _ => .ok .probe
  | .node, some name => .ok (.node name (level.gives .recheckHeartbeat))
  | .rules, _ => .ok .rules
  | .schema, _ => .ok (.schema level.schemaChoice)
  | .showConfig, _ => .ok .showConfig
  | .validateConfig, _ => .ok .validateConfig
  | .completions, some name =>
    match Shell.ofName? name with
    | some shell => .ok (.completions shell)
    | none => refuse (.unexpectedWord name)
  | .version, _ => .ok .version
  | .node, none => refuse (.missingOperand .node)
  | .completions, none => refuse (.missingOperand .completions)
  | .program, _ => refuse (.missingCommand .program)
  | .config, _ => refuse (.missingCommand .config)

def helpWord : String := "help"

def helpOn (commands : List Command) (command : Command) : List String → Interruption
  | [] => .help commands
  | word :: rest =>
    match command.innerNamed? word with
    | some other => helpOn (commands ++ [other]) other rest
    | none =>
      if word = helpWord ∧ rest = [] ∧ command.inner ≠ [] then .help commands
      else .mistake (.unexpectedWord word)

inductive Role where
  | command (command : Command)
  | help
  | separator
  | long (text : List Char)
  | short (letters : List Char)
  | value (switch : Switch)
  | operand
deriving DecidableEq, Repr

def expected? (level : Level) : Option Switch :=
  match level.waiting with
  | some (switch, none) => some switch
  | _ => none

def plainRole (level : Level) (word : String) : Role :=
  match level.expected?, level.command.innerNamed? word with
  | some switch, _ => .value switch
  | none, some command => .command command
  | none, none =>
    if word = helpWord ∧ level.command.inner ≠ [] then .help else .operand

def role (level : Level) (word : String) : Role :=
  match word.toList with
  | ['-', '-'] => .separator
  | '-' :: '-' :: text => .long text
  | '-' :: letter :: letters => .short (letter :: letters)
  | _ => level.plainRole word

-- A word that does not open another level. Behind the separator all words are operands.
def addWord (level : Level) (word : String) : Attempted Level :=
  match level.role word with
  | .long text => level.addLong text
  | .short letters => level.addShort letters
  | .value switch => .ok { level with waiting := some (switch, some word) }
  | _ => level.addOperand word

structure Parsed where
  task : Task
  settings : List (List Setting)
deriving DecidableEq, Repr

-- Reads all words behind a command. A level is closed after those inside it.
def read (environment : Environment) (level : Level) (operandsOnly : Bool) :
    List String → Attempted Parsed
  | [] => do
    let level ← level.close environment
    return ⟨← level.task, [level.settings]⟩
  | word :: rest =>
    if operandsOnly then do
      let level ← level.addOperand word
      level.read environment true rest
    else
      match level.role word with
      | .command command => do
        let inner ← (level.inside command).read environment false rest
        let level ← level.close environment
        return { inner with settings := level.settings :: inner.settings }
      | .help => .error (helpOn level.commands level.command rest)
      | .separator => level.read environment true rest
      | _ => do
        let level ← level.addWord word
        level.read environment false rest

end Level

def Invocation.ofWords (environment : Environment) (words : List String) :
    Attempted Invocation := do
  let parsed ← ({ command := .program } : Level).read environment false words
  let given : Options := { topology? := environment.get? Level.topologyVariable }
  return ⟨parsed.settings.foldl Options.applyAll given, parsed.task⟩

end ClusterCaps.CommandLine
