/-
# Files and folders

A tree of files and folders below one folder. A path is followed step by step,
where every folder on the way has to be there or is created; or it is resolved
by its names alone, where two dots take back the name before them whether or
not anything bears it. Two dots at the start lead out of the tree, to folders
of which nothing else is known.

Key definitions: `FileKind`, `FileTree`, `FileTree.kind?`, `FileTree.names`,
`FileTree.walk`, `FileTree.resolve`, `FileTree.hasFile`.
-/
import FleetTelemetry.Text.Parts

namespace FleetTelemetry

/-- What can stand at the end of a path. -/
inductive FileKind where
  | folder
  | database
  | otherFile
  deriving DecidableEq, Repr

/-- What stands below a folder, by the names on the way to it. -/
structure FileTree where
  nodes : List (List String × FileKind) := []
  /-- The octets of the path to the folder itself, with the slash behind it. -/
  origin : Nat := 0

namespace FileTree

/-- The octets that a name may have at most. -/
def maxName : Nat := 255

/-- The octets that a whole path may have at most if it is resolved. -/
def maxPath : Nat := 504

/-- Adds a node. -/
def add (t : FileTree) (place : List String) (kind : FileKind) : FileTree :=
  { t with nodes := t.nodes ++ [(place, kind)] }

/-- What stands at a place. The folder itself is at the empty one, those around it are above. -/
def kind? (t : FileTree) (place : List String) : Option FileKind :=
  if place.all (· == "..") then some .folder else t.nodes.lookup place

/-- The place one name back. -/
def above (place : List String) : List String :=
  if place.all (· == "..") then place ++ [".."] else place.dropLast

/-- The names in a path. Empty names and single dots say nothing. -/
def names (path : List Char) : List String :=
  ((Parts.splitAt '/' path).map String.ofList).filter fun n => n ≠ "" && n ≠ "."

/-- Whether a path says by its end that it means a folder. -/
def namesFolder (path : List Char) : Bool :=
  match (Parts.splitAt '/' path).getLast? with
  | none => true
  | some last => last == [] || last == ['.'] || last == ['.', '.']

/-- Whether a folder can have a name: not with a NUL in it, and not beyond the limit. -/
def isFolderName (name : String) : Bool :=
  !name.toList.elem '\x00' && decide (name.utf8ByteSize ≤ maxName)

/-- Walks along names from a place; two dots lead back. A missing folder is created if `create`
says so. The answer is the place at the end, unless the way is blocked. -/
def walk (create : Bool) : List String → List String → FileTree → Option (List String × FileTree)
  | [], place, t => some (place, t)
  | ".." :: rest, place, t => walk create rest (above place) t
  | name :: rest, place, t =>
    match t.kind? (place ++ [name]) with
    | some .folder => walk create rest (place ++ [name]) t
    | some _ => none
    | none =>
      if create && isFolderName name then
        walk create rest (place ++ [name]) (t.add (place ++ [name]) .folder)
      else none

/-- Whether a name can be looked up at a place, where it may stand for nothing: not behind a file,
and within the limits. What is not there has no limit of its own for the names in it. -/
def canLookUp (t : FileTree) (place : List String) (name : String) : Bool :=
  let within := decide
    (t.origin + (String.intercalate "/" (place ++ [name])).utf8ByteSize ≤ maxPath)
  match t.kind? place with
  | some .folder => within && decide (name.utf8ByteSize ≤ maxName)
  | some _ => false
  | none => within

/-- The place that names lead to from a place. -/
def resolve (t : FileTree) : List String → List String → Option (List String)
  | [], place => some place
  | ".." :: rest, place => resolve t rest (above place)
  | name :: rest, place =>
    if t.canLookUp place name then resolve t rest (place ++ [name]) else none

/-- Whether a file stands at a path. -/
def hasFile (t : FileTree) (path : String) : Bool :=
  let names := names path.toList
  match walk false names.dropLast [] t, names.getLast? with
  | some (place, _), some name =>
    !namesFolder path.toList &&
      match t.kind? (place ++ [name]) with
      | some .database => true
      | some .otherFile => true
      | _ => false
  | _, _ => false

end FileTree
end FleetTelemetry
