import ClusterCaps.Text.Scan

set_option autoImplicit false

namespace ClusterCaps

inductive Layout where
  | json
  | markdown
  | summary
deriving DecidableEq, Repr

namespace Layout

def name : Layout → String
  | json => "json"
  | markdown => "md"
  | summary => "summary"

def all : List Layout := [json, markdown, summary]

def named : List (String × Layout) := all.map fun layout => (layout.name, layout)

def isForPrograms : Layout → Bool
  | json => true
  | markdown => false
  | summary => false

def ofName? (ignoringCase : Bool) (name : String) : Option Layout :=
  all.find? fun layout =>
    if ignoringCase then Text.sameIgnoringAsciiCase layout.name name else layout.name == name

end Layout

namespace Report

def ofLines : List String → String
  | [] => ""
  | line :: lines => line ++ "\n" ++ ofLines lines

def tableRow (cells : List String) : String := "| " ++ Text.joined " | " cells ++ " |"

def tableRule (columns : Nat) : String := "|" ++ String.join (List.replicate columns "---|")

def tableLines (heading : List String) (rows : List (List String)) : List String :=
  tableRow heading :: tableRule heading.length :: rows.map tableRow

def yesNo : Bool → String
  | true => "yes"
  | false => "no"

def flagTable (flags : List (String × Bool)) : List String :=
  tableLines ["Capability", "Supported"] (flags.map fun (name, value) => [name, yesNo value])

end Report

end ClusterCaps
