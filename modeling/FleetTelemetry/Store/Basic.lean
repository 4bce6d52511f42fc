/-
# The store

Raw rows are kept in one table per month, hourly and daily summaries in two
tables beside them. Whoever else can reach the database may break a month (a
table without the columns of a row) or drop it. The store remembers the months
whose tables it has already seen to, and does not look again.

Key definitions: `MonthTable`, `Summaries`, `Store`, `StoreError`,
`Store.table?`, `Store.listed`, `Store.ensure`, `Store.save`, `Store.saveAll`.
Key theorems: `Store.saveAll_fst`.
-/
import FleetTelemetry.Month
import FleetTelemetry.OrderedMap
import FleetTelemetry.Sorted
import FleetTelemetry.Summary

namespace FleetTelemetry

/-- The table of a month: rows in the order in which they were saved, or no columns for them. -/
inductive MonthTable (α : Type) where
  | rows (rs : List (Record α))
  | broken

/-- The tables of summaries. -/
structure Summaries (α : Type) where
  hourly : List (Summary α .hour) := []
  daily : List (Summary α .day) := []

/-- A database and what the store that writes it remembers. -/
structure Store (α : Type) where
  months : OrderedMap Month (MonthTable α) := {}
  /-- The tables of summaries, once they have been created. -/
  summaries : Option (Summaries α) := none
  /-- The months whose tables have been seen to. -/
  ensured : List Month := []

/-- Why an operation of the store fails. -/
inductive StoreError where
  /-- No month can be reckoned for the instant. -/
  | timestampOutOfRange (ts : Int)
  /-- The database refuses a statement. -/
  | database
  deriving DecidableEq, Repr

namespace StoreError

/-- The complaint about an instant without a month. -/
def timestampMessage (ts : Int) : String := "timestamp out of range: " ++ toString ts

end StoreError

namespace Store

variable {α : Type}

/-- The table of a month. -/
def table? (s : Store α) (m : Month) : Option (MonthTable α) := s.months.get? m

/-- Puts the table of a month into place. -/
def setTable (s : Store α) (m : Month) (t : MonthTable α) : Store α :=
  { s with months := s.months.insert m t }

/-- The months that have a table whose name is recognised, oldest first. -/
def listed (s : Store α) : List Month :=
  Ascending.ofList (s.months.keys.filterMap fun m => Month.ofName? m.name)

/-- Whether a month has a table. -/
def hasMonth (s : Store α) (m : Month) : Bool := (s.table? m).isSome

/-- Creates the table of a month if it is missing, and remembers it. A negative year gives no name
that the database takes, and a broken table cannot be indexed. -/
def ensure (s : Store α) (m : Month) : Except StoreError (Store α) :=
  if m ∈ s.ensured then .ok s
  else if m.year < 0 then .error .database
  else
    match s.table? m with
    | some .broken => .error .database
    | some (.rows _) => .ok { s with ensured := m :: s.ensured }
    | none => .ok { s.setTable m (.rows []) with ensured := m :: s.ensured }

/-- Appends a row to the table of a month. -/
def append [Gauge α] (s : Store α) (m : Month) (r : Record α) : Except StoreError (Store α) :=
  match s.table? m, r.stored? with
  | some (.rows rs), some r => .ok (s.setTable m (.rows (rs ++ [r])))
  | _, _ => .error .database

/-- Saves a row into the table of its month. A failure may leave that table behind, empty. -/
def save [Gauge α] (s : Store α) (r : Record α) : Store α × Except StoreError Unit :=
  match Month.containing? r.timestamp with
  | none => (s, .error (.timestampOutOfRange r.timestamp))
  | some m =>
    match s.ensure m with
    | .error e => (s, .error e)
    | .ok s =>
      match s.append m r with
      | .error e => (s, .error e)
      | .ok s => (s, .ok ())

/-- Saves each row on its own and counts those that were taken. -/
def saveAll [Gauge α] (s : Store α) : List (Record α) → Store α × Nat
  | [] => (s, 0)
  | r :: rs =>
    match s.save r with
    | (s, .ok _) =>
      let (s, saved) := s.saveAll rs
      (s, saved + 1)
    | (s, .error _) => s.saveAll rs

/-- The store after saving rows one after another. -/
theorem saveAll_fst [Gauge α] (s : Store α) (rs : List (Record α)) :
    (s.saveAll rs).1 = rs.foldl (fun s r => (s.save r).1) s := by
  induction rs generalizing s with
  | nil => rfl
  | cons r rs ih =>
    rw [List.foldl_cons, saveAll]
    split
    · next s' _ h => rw [ih, h]
    · next s' _ h => rw [ih, h]

/-! ### Around the store -/

/-- Another store on the same database remembers nothing. -/
def reconnect (s : Store α) : Store α := { s with ensured := [] }

/-- Creates the tables of summaries if they are missing. -/
def createSummaries (s : Store α) : Store α :=
  { s with summaries := some (s.summaries.getD {}) }

/-- Somebody else creates a table with the name of a month and without the columns of a row. -/
def breakMonth (s : Store α) (m : Month) : Except StoreError (Store α) :=
  if m.year < 0 ∨ s.hasMonth m then .error .database else .ok (s.setTable m .broken)

/-- Somebody else drops the table of a month. -/
def dropMonth (s : Store α) (m : Month) : Store α :=
  { s with months := s.months.erase m }

end Store
end FleetTelemetry
