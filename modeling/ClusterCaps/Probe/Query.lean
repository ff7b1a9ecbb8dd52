import ClusterCaps.Text.Scan
import ClusterCaps.Text.Integer

set_option autoImplicit false

namespace ClusterCaps

inductive Route where
  | master
  | any
deriving DecidableEq, Repr

def Route.name : Route → String
  | master => "master"
  | any => "any"

structure Row where
  cells : List (Option String)
deriving DecidableEq, Repr

namespace Row

def ofTexts (texts : List String) : Row := ⟨texts.map some⟩

def cell? (row : Row) (index : Nat) : Option String := (row.cells[index]?).join

def size (row : Row) : Nat := row.cells.length

end Row

structure SqlError where
  state : String
  code : Int32
  message : String
deriving DecidableEq, Repr

namespace SqlError

def text (error : SqlError) : String :=
  "[" ++ error.state ++ "] (" ++ Text.ofInt error.code.toInt ++ ") " ++ error.message

-- The state is compared without regard to ASCII case, the message has to hold a piece of text.
def isLike (error : SqlError) (state : String) (code : Int32) (piece : String) : Bool :=
  Text.sameIgnoringAsciiCase error.state state && error.code == code &&
    Text.contains piece error.message

end SqlError

inductive ExecError where
  | sql (error : SqlError)
  | connectionLost (message : String)
deriving DecidableEq, Repr

def ExecError.text : ExecError → String
  | sql error => "sql error " ++ error.text
  | connectionLost message => "connection lost: " ++ message

abbrev Connection := Route → String → Except ExecError (List Row)

end ClusterCaps
