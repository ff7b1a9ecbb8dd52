set_option autoImplicit false

namespace ClusterCaps

inductive ReadError where
  | missing
  | notDirectory
  | isDirectory
  | nameTooLong
  | denied
  | faulty
  | notText
  | other (message : String)
deriving DecidableEq, Repr

def ReadError.text : ReadError → String
  | missing => "No such file or directory (os error 2)"
  | notDirectory => "Not a directory (os error 20)"
  | isDirectory => "Is a directory (os error 21)"
  | nameTooLong => "File name too long (os error 36)"
  | denied => "Permission denied (os error 13)"
  | faulty => "Input/output error (os error 5)"
  | notText => "stream did not contain valid UTF-8"
  | other message => message

inductive Entry where
  | directory
  -- What is there may be no regular file, and it may be there without letting itself be read.
  | file (regular : Bool) (content : Except ReadError ByteArray)
  | absent (cause : ReadError)

namespace Entry

def isThere : Entry → Bool
  | directory => true
  | file _ _ => true
  | absent _ => false

def isFile : Entry → Bool
  | directory => false
  | file regular _ => regular
  | absent _ => false

def read : Entry → Except ReadError String
  | directory => .error .isDirectory
  | absent cause => .error cause
  | file _ (.error cause) => .error cause
  | file _ (.ok content) =>
    match String.fromUTF8? content with
    | some text => .ok text
    | none => .error .notText

def Holds (entry : Entry) (content : String) : Prop :=
  ∃ regular, entry = .file regular (.ok content.toUTF8)

end Entry

abbrev Files := String → Entry

abbrev Environment := List (String × String)

def Environment.get? (environment : Environment) (name : String) : Option String :=
  environment.lookup name

end ClusterCaps
