/-
# Opening the database

The store connects to a file, given by a path below a folder. Missing folders
on the way are created, and so is the file; a file that is no database, or a
folder in its place, is refused. The folders are created by the path as it is
written. For the file, percent signs are decoded and the path is then resolved
by its names alone. Behind a question mark the path says how the database is
to be opened.

Key definitions: `ConnectError`, `OpenOptions`, `FileTree.createFolders`,
`FileTree.openDatabase`, `FileTree.connect`, `poolSize`, `Store.setUp`.
-/
import FleetTelemetry.Store.Basic
import FleetTelemetry.Store.FileTree
import FleetTelemetry.Text.Parts

namespace FleetTelemetry

/-- Why a database is not opened. -/
inductive ConnectError where
  /-- A folder on the way cannot be created. -/
  | blocked
  /-- There is no database at the path, and none can be created. -/
  | refused
  deriving DecidableEq, Repr

/-- The connections that a pool opens at most; there is always one. -/
def poolSize (wanted : UInt32) : Nat := Nat.max wanted.toNat 1

/-- How a database is opened. -/
structure OpenOptions where
  /-- What is not there is not created. -/
  readOnly : Bool := false
  /-- No file is opened at all. -/
  inMemory : Bool := false
  /-- The file is taken not to change. -/
  immutable : Bool := false
  /-- The layer between the database and its files, if it is named. -/
  vfs : Option String := none
  deriving DecidableEq, Repr

namespace OpenOptions

/-- Adds an option to others; of two layers the last counts. -/
def add (o : OpenOptions) (key value : String) : Option OpenOptions :=
  match key, value with
  | "mode", "ro" => some { o with readOnly := true }
  | "mode", "rw" => some o
  | "mode", "rwc" => some o
  | "mode", "memory" => some { o with inMemory := true }
  | "cache", value => if value ∈ ["private", "shared"] then some o else none
  | "immutable", value =>
    if value ∈ ["true", "1"] then some { o with immutable := true }
    else if value ∈ ["false", "0"] then some { o with immutable := false }
    else none
  | "vfs", value => some { o with vfs := some value }
  | _, _ => none

/-- The options that a text spells: pairs of a key and a value, joined by `&`. Octets that spell no
text stand for a word that means nothing. -/
def ofChars? (chars : List Char) : Option OpenOptions :=
  let decoded (part : List Char) : String := (Percent.decodeForm? part).getD "\uFFFD"
  ((Parts.splitAt '&' chars).filter fun part => !part.isEmpty).foldlM
    (fun o part =>
      let (key, value) := Parts.cutAt '=' part
      o.add (decoded key) (decoded value))
    {}

/-- Whether the layer and the constancy of the file are asked for, which go with its name. -/
def qualifiesName (o : OpenOptions) : Bool := o.immutable || o.vfs.isSome

/-- What a NUL leaves of a text. -/
def upToNul (text : List Char) : List Char := text.takeWhile (· ≠ '\x00')

/-- The name under which a file is opened. A name that options go with ends at a NUL, any other must
have none. -/
def fileName? (o : OpenOptions) (name : List Char) : Option (List Char) :=
  if o.qualifiesName then some (upToNul name) else if name.elem '\x00' then none else some name

/-- The layer between the database and its files. -/
def layer (o : OpenOptions) : String :=
  match o.vfs with
  | some name => String.ofList (upToNul name.toList)
  | none => "unix"

/-- Whether the layer is one of those that there are. -/
def hasLayer (o : OpenOptions) : Bool :=
  ["unix", "unix-none", "unix-dotfile", "unix-excl", "memdb"].elem o.layer

/-- Whether the database is kept in memory alone. -/
def keepsNoFile (o : OpenOptions) : Bool := o.inMemory || o.layer == "memdb"

end OpenOptions

namespace FileTree

/-- The octets that the name of a new database may have at most, so that those of the journals
beside it are within the limit. -/
def maxDatabaseName : Nat := maxName - "-journal".utf8ByteSize

/-- Creates the folders on the way to a file. -/
def createFolders (t : FileTree) (path : List Char) : Except ConnectError FileTree :=
  match walk true (names path).dropLast [] t with
  | some (_, t) => .ok t
  | none => .error .blocked

/-- Whether a database can be created at a place. -/
def hasRoom (t : FileTree) (place : List String) : Bool :=
  t.kind? place.dropLast == some .folder &&
    decide ((place.getLastD "").utf8ByteSize ≤ maxDatabaseName)

/-- Opens the database at a path, or creates it unless it is only to be read. -/
def openDatabase (t : FileTree) (readOnly : Bool) (path : List Char) :
    Except ConnectError FileTree :=
  match t.resolve (names path) [] with
  | none => .error .refused
  | some place =>
    match t.kind? place with
    | some .database => .ok t
    | some _ => .error .refused
    | none =>
      if readOnly || !t.hasRoom place then .error .refused else .ok (t.add place .database)

/-- Connects to the database at a path. -/
def connect (t : FileTree) (path : String) : Except ConnectError FileTree := do
  let t ← t.createFolders path.toList
  let (file, options) := Parts.cutAt '?' path.toList
  match Percent.decode? file, OpenOptions.ofChars? options with
  | some file, some options =>
    match options.fileName? file.toList with
    | none => .error .refused
    | some name =>
      if !options.hasLayer then .error .refused
      else if options.keepsNoFile then .ok t
      else t.openDatabase options.readOnly name
  | _, _ => .error .refused

end FileTree

namespace Store

variable {α : Type}

/-- Creates the tables of summaries and the table of the current month. -/
def setUp (s : Store α) (now : Int) : Except StoreError (Store α) :=
  match Month.containing? now with
  | none => .error (.timestampOutOfRange now)
  | some m => s.createSummaries.ensure m

end Store
end FleetTelemetry
