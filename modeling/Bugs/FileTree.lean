import Bugs.Text.Lines

/-!
# Files and paths

A tree is a snapshot of the files below one directory. A path is a text whose parts are
separated by slashes; empty parts and single dots mean nothing, and two dots lead to the
directory above. Paths that leave the tree lead nowhere. A name or a path that is too long
is refused by the system, as is whatever it bars for another reason.
-/

namespace Bugs

/-- Why the system lets nobody look at a path or read what it leads to. -/
inductive SystemFault where
  | denied
  | nameTooLong
  /-- Any other fault, in the words of the system. -/
  | other (reason : String)
deriving Repr, DecidableEq

/-- What a path leads to. -/
inductive Node where
  | directory
  | file (bytes : List UInt8)
  /-- Something that the system bars. -/
  | barred (fault : SystemFault)
deriving Repr, DecidableEq

namespace Path

/-- The parts of a path that mean something. -/
def parts (path : String) : List String :=
  (Text.splitAt '/' path.toList |>.filter fun part ↦ part ≠ [] ∧ part ≠ ['.']).map String.ofList

/-- The slashes in front of an absolute path: two if there are exactly two, else one. -/
def root (path : String) : String :=
  match (path.toList.takeWhile (· = '/')).length with
  | 0 => ""
  | 2 => "//"
  | _ => "/"

/-- A path without the parts that mean nothing. -/
def shown (path : String) : String :=
  let text := root path ++ String.intercalate "/" (parts path)
  if text.isEmpty then "." else text

/-- Follows parts from a directory by the names alone, so two dots undo the part in front
of them. Above the first directory there is nothing. -/
def follow : List String → List String → Option (List String)
  | place, [] => some place
  | place, part :: parts =>
    if part = ".." then
      if place = [] then none else follow place.dropLast parts
    else follow (place ++ [part]) parts

/-- The place that a relative path names, by the names alone. -/
def place? (path : String) : Option (List String) :=
  if (root path).isEmpty then follow [] (parts path) else none

/-- The directory in which a place stands. The first directory stands in none of the tree. -/
def directory? : List String → Option (List String)
  | [] => none
  | part :: parts => some (part :: parts).dropLast

end Path

/-- The files and the directories below one directory, each under the parts of its path. -/
structure FileTree where
  nodes : List (List String × Node)

namespace FileTree

/-- The most bytes of one name. -/
def nameLimit : Nat :=
  255

/-- The most bytes of a whole path. -/
def pathLimit : Nat :=
  4095

/-- What the parts of a resolved path lead to, once all but the last are known to lead to
directories. Whatever lies on the way to a file or a directory is a directory. -/
def node? (tree : FileTree) (place : List String) : Option Node :=
  if place.getLast?.any fun name ↦ nameLimit < name.utf8ByteSize then
    some (.barred .nameTooLong)
  else
    match tree.nodes.find? (·.1 = place) with
    | some (_, node) => some node
    | none =>
      if place = [] ∨ tree.nodes.any (place.isPrefixOf ·.1) then some .directory else none

/-- Follows the parts of a path from a directory on. Every part but the last has to lead
to a directory; the first that is barred ends the way. -/
def walk (tree : FileTree) : List String → List String → Option Node
  | place, [] => tree.node? place
  | place, part :: parts =>
    match tree.node? place with
    | some .directory =>
      if part = ".." then
        if place = [] then none else walk tree place.dropLast parts
      else walk tree (place ++ [part]) parts
    | some (.barred fault) => some (.barred fault)
    | _ => none

/-- What a path leads to. Absolute paths and names with a zero character lead nowhere. -/
def find? (tree : FileTree) (path : String) : Option Node :=
  if '\x00' ∈ path.toList then none
  else if pathLimit < (Path.shown path).utf8ByteSize then some (.barred .nameTooLong)
  else if (Path.root path).isEmpty then tree.walk [] (Path.parts path)
  else none

end FileTree

end Bugs
