/-
# The JSON form of a type

`Wire` ties a type to the JSON values that stand for it. A structure is
described by a table of fields in the order of their declaration; the table
writes it as an object and reads it from an object, or from a list that gives
the fields in that order. A reader goes from left to right and reports the
first thing that is wrong: a known member that comes twice, a value that is
refused, or, at the end, a required field that has not come.

Key definitions: `Wire`, `Wire.ofDocument`, `Field`, `Field.readObject`,
`Field.readList`, `Field.readAll`, `Field.writeAll`.
-/
import FleetTelemetry.OrderedMap
import FleetTelemetry.Text.Json

namespace FleetTelemetry

open Json (Fault)

/-- Values with a JSON form. -/
class Wire (α : Type) where
  write : α → Json
  read : Json → Except Fault α

namespace Wire

/-- Reads a whole text; behind the value only blanks may follow. -/
def ofDocument {α : Type} [Wire α] (d : Json.Document) : Except Fault α :=
  match read d.value with
  | .ok a => if d.whole then .ok a else .error .malformed
  | .error f => .error f

/-- Integers from `low` to `high`. -/
def readInt (low high : Int) : Json → Except Fault Int
  | .int n => if low ≤ n ∧ n ≤ high then .ok n else .error .mismatch
  | json => .error json.fault

/-- Reads each item of a list. -/
def readEach {α : Type} (read : Json → Except Fault α) : List Json → Except Fault (List α)
  | [] => .ok []
  | j :: js =>
    match read j with
    | .error f => .error f
    | .ok a =>
      match readEach read js with
      | .error f => .error f
      | .ok as => .ok (a :: as)

instance : Wire Bool where
  write b := .bool b
  read
    | .bool b => .ok b
    | json => .error json.fault

instance : Wire String where
  write s := .str s
  read
    | .str s => .ok s
    | json => .error json.fault

/-- A number that is not finite is written as `null`. -/
instance : Wire Float where
  write x := if x.isFinite then .float x else .null
  read
    | .float x => .ok x
    | .int n => .ok (Float.ofInt n)
    | json => .error json.fault

instance : Wire UInt64 where
  write n := .int n.toNat
  read json := (readInt 0 (Word.size64 - 1) json).map fun n => UInt64.ofNat n.toNat

instance : Wire UInt32 where
  write n := .int n.toNat
  read json := (readInt 0 (Word.size32 - 1) json).map fun n => UInt32.ofNat n.toNat

/-- Integers are read within 64 bits. -/
instance : Wire Int where
  write n := .int n
  read := readInt Word.minSigned64 Word.maxSigned64

instance : Wire Int64 where
  write n := .int n.toInt
  read json := (readInt Word.minSigned64 Word.maxSigned64 json).map Int64.ofInt

instance {α : Type} [Wire α] : Wire (List α) where
  write as := .arr (as.map write)
  read
    | .arr items => readEach read items
    | json => .error json.fault

instance {α : Type} [Wire α] : Wire (Option α) where
  write
    | none => .null
    | some a => write a
  read
    | .null => .ok none
    | json => (read json).map some

/-- Keyed items stand in a list; of two with one key the later counts. -/
instance {κ α : Type} [DecidableEq κ] [Keyed α κ] [Wire α] : Wire (OrderedMap κ α) where
  write m := .arr (m.values.map write)
  read json := (read json : Except Fault (List α)).map OrderedMap.ofItems

end Wire

/-- One field of a structure: how it is written, if at all, and how it is read into a value. -/
structure Field (σ : Type) where
  name : String
  write : σ → Option Json
  read : Json → σ → Except Fault σ
  required : Bool

namespace Field

variable {σ β : Type}

/-- A field that keeps its value when it is not given. -/
def of [Wire β] (name : String) (get : σ → β) (set : β → σ → σ) : Field σ where
  name := name
  write s := some (Wire.write (get s))
  read json s := (Wire.read json).map fun b => set b s
  required := false

/-- A field that has to be given. -/
def must [Wire β] (name : String) (get : σ → β) (set : β → σ → σ) : Field σ :=
  { of name get set with required := true }

/-- A field that is not written when it holds nothing. -/
def omittable [Wire β] (name : String) (get : σ → Option β) (set : Option β → σ → σ) : Field σ :=
  { of name get set with write := fun s => (get s).map Wire.write }

/-- Whether every required field of a table has been read. -/
def complete (fields : List (Field σ)) (seen : List String) : Bool :=
  fields.all fun f => !f.required || seen.contains f.name

/-- Reads the members of an object into `s`. Members with unknown keys are passed over. -/
def readObject (fields : List (Field σ)) :
    List (Option String × Json) → List String → σ → Except Fault σ
  | [], seen, s => if complete fields seen then .ok s else .error .mismatch
  | (none, _) :: _, _, _ => .error .malformed
  | (some k, json) :: rest, seen, s =>
    match fields.find? fun f => f.name == k with
    | none => readObject fields rest seen s
    | some f =>
      if seen.contains k then .error .mismatch
      else
        match f.read json s with
        | .error fault => .error fault
        | .ok s => readObject fields rest (k :: seen) s

/-- Reads the items of a list into the fields in order. Fields at the end may be missing if they
are not required; an item without a field is no JSON for the structure. -/
def readList : List (Field σ) → List Json → σ → Except Fault σ
  | [], [], s => .ok s
  | [], _ :: _, _ => .error .malformed
  | f :: fs, [], s => if (f :: fs).any (·.required) then .error .mismatch else .ok s
  | f :: fs, json :: rest, s =>
    match f.read json s with
    | .error fault => .error fault
    | .ok s => readList fs rest s

/-- Reads a structure; fields that are not given are those of `base`. -/
def readAll (fields : List (Field σ)) (base : σ) : Json → Except Fault σ
  | .obj members => readObject fields members [] base
  | .arr items => readList fields items base
  | json => .error json.fault

/-- Writes a structure as an object. -/
def writeAll (fields : List (Field σ)) (s : σ) : Json :=
  .ofMembers (fields.filterMap fun f => (f.write s).map fun json => (f.name, json))

end Field

/-- The JSON form that a table of fields describes. -/
@[reducible] def Wire.ofFields {σ : Type} (fields : List (Field σ)) (base : σ) : Wire σ where
  write := Field.writeAll fields
  read := Field.readAll fields base

end FleetTelemetry
