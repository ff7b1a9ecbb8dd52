import ClusterCaps.Files.Entry
import ClusterCaps.Files.Path

set_option autoImplicit false

namespace ClusterCaps

-- Files and directories by the parts of their paths. All that stands above an entry is a directory.
structure FileTree where
  entries : List (List String × Option ByteArray)
  start : List String

namespace FileTree

def partLimit : Nat := 255

def entryAt (tree : FileTree) (place : List String) : Entry :=
  if place.isPrefixOf tree.start then .directory
  else
    match tree.entries.lookup place with
    | some (some content) => .file true (.ok content)
    | some none => .directory
    | none =>
      if tree.entries.any fun entry => place.isPrefixOf entry.1 then .directory
      else .absent .missing

def walk (tree : FileTree) (place : List String) : List String → Entry
  | [] => tree.entryAt place
  | part :: rest =>
    match tree.entryAt place with
    | .directory =>
      if partLimit < part.utf8ByteSize then .absent .nameTooLong
      else if part = "" ∨ part = "." then walk tree place rest
      else if part = ".." then walk tree place.dropLast rest
      else walk tree (place ++ [part]) rest
    | .file _ _ => .absent .notDirectory
    | .absent cause => .absent cause

def files (tree : FileTree) : Files := fun path =>
  if path = "" then .absent .missing
  else
    let parts := (Text.splitOn '/' path.toList).map String.ofList
    if Path.isAbsolute path then tree.walk [] parts else tree.walk tree.start parts

end FileTree

end ClusterCaps
