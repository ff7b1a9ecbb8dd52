import ClusterCaps.Text.Scan

set_option autoImplicit false

namespace ClusterCaps.Path

def parts (path : String) : List (List Char) :=
  (Text.splitOn '/' path.toList).filter fun part => !part.isEmpty && part != ['.']

-- What stands behind the last point, unless nothing stands before it.
def extensionOf? (name : List Char) : Option (List Char) :=
  let behind := name.reverse.takeWhile (· != '.')
  let before := (name.reverse.dropWhile (· != '.')).drop 1
  if before.isEmpty then none else some behind.reverse

def extension? (path : String) : Option String :=
  match (parts path).getLast? with
  | none => none
  | some name => if name = ['.', '.'] then none else (extensionOf? name).map String.ofList

def isAbsolute (path : String) : Bool := path.toList.head? == some '/'

def inside (directory name : String) : String :=
  match directory.toList.getLast? with
  | none => name
  | some '/' => directory ++ name
  | some _ => directory ++ "/" ++ name

end ClusterCaps.Path
