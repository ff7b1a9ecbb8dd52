import ClusterCaps.CommandLine.Reading

set_option autoImplicit false

namespace ClusterCaps.CommandLine

def programVersion : String := "0.1.0"

def versionText (commands : List Command) : String :=
  Text.joined "-" (commands.map Command.word) ++ " " ++ programVersion

namespace Switch

def placeholder (switch : Switch) : String := if switch.takesValue then " <VALUE>" else ""

def forms (switch : Switch) : String :=
  match switch.letter? with
  | some letter => String.ofList ['-', letter] ++ ", --" ++ switch.word ++ switch.placeholder
  | none => "    --" ++ switch.word ++ switch.placeholder

end Switch

def padded (width : Nat) (text : String) : String :=
  text ++ String.ofList (List.replicate (width - text.length) ' ')

namespace Command

def usageWords (command : Command) : List String :=
  ["[OPTIONS]"] ++ (if command.inner.isEmpty then [] else ["<COMMAND>"]) ++
    (command.operand?.map fun name => "<" ++ name ++ ">").toList

def innerLines (command : Command) : List String :=
  if command.inner.isEmpty then []
  else
    ["", "Commands:"] ++
      command.inner.map fun other => "  " ++ padded 14 other.word ++ other.summary

def helpLines (command : Command) (commands : List Command) : List String :=
  [command.summary, "",
    "Usage: " ++ Text.joined " " (commands.map Command.word ++ command.usageWords)] ++
    command.innerLines ++ ["", "Options:"] ++
    command.switches.map fun switch => "  " ++ padded 28 switch.forms ++ switch.summary

end Command

def helpText (commands : List Command) : String :=
  Report.ofLines ((commands.getLastD .program).helpLines commands)

namespace Mistake

def text : Mistake → String
  | unknownOption word => "unexpected option '" ++ word ++ "'"
  | unexpectedWord word => "unexpected word '" ++ word ++ "'"
  | missingValue switch => "option '--" ++ switch.word ++ "' needs a value"
  | surplusValue switch => "option '--" ++ switch.word ++ "' takes no value"
  | invalidValue switch value =>
    "invalid value '" ++ value ++ "' for option '--" ++ switch.word ++ "'"
  | repeated switch => "option '--" ++ switch.word ++ "' is given more than once"
  | exclusive first second =>
    "options '--" ++ first.word ++ "' and '--" ++ second.word ++ "' exclude each other"
  | missingOperand command => "command '" ++ command.word ++ "' needs a word behind it"
  | missingCommand command => "'" ++ command.word ++ "' needs a command behind it"

def advice : String := "For more information, try '--help'."

end Mistake

def knownSwitches : List Switch := Command.node.switches ++ [.list, .all]

def knownWords : List String :=
  (Command.program.inner ++ Command.config.inner).map Command.word ++
    knownSwitches.map fun switch => "--" ++ switch.word

namespace Shell

def script (shell : Shell) : String :=
  let program := Command.program.word
  let words := Text.joined " " knownWords
  match shell with
  | bash => "complete -W \"" ++ words ++ "\" " ++ program
  | elvish =>
    "set edit:completion:arg-completer[" ++ program ++ "] = \x7b|@given| put " ++ words ++ " \x7d"
  | fish => "complete -c " ++ program ++ " -f -a \"" ++ words ++ "\""
  | powershell =>
    "Register-ArgumentCompleter -Native -CommandName " ++ program ++
      " -ScriptBlock \x7b param($word) -split \"" ++ words ++
      "\" | Where-Object \x7b $_ -like \"$word*\" \x7d \x7d"
  | zsh => "#compdef " ++ program ++ "\ncompadd -- " ++ words

end Shell

end ClusterCaps.CommandLine
