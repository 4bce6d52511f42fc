/-
# Reading the store

Rows of an agent in a window are read month by month, oldest first; within a
month they stand in the order of their instants, and those of one instant in
the order in which they were saved. A limit holds for each month on its own.

Key definitions: `Store.range`, `Store.aggregated`, `Store.hourly`,
`Store.daily`, `Summary.select`.
-/
import FleetTelemetry.Bucket
import FleetTelemetry.Sorted
import FleetTelemetry.Store.Basic

namespace FleetTelemetry

/-- Rows in the order of their instants; those of one instant keep their order. -/
def Record.inOrder {α : Type} (rows : List (Record α)) : List (Record α) :=
  StableOrder.sort Record.timestamp rows

/-- Summaries of an agent that begin in a window, ascending. -/
def Summary.select {α : Type} {span : Span} (agentId : String) (first last : Int)
    (table : List (Summary α span)) : List (Summary α span) :=
  StableOrder.sort Summary.start
    (table.filter fun s => s.agentId == agentId && within first last s.start)

namespace Store

variable {α : Type}

/-- The first `limit` of some rows, or all of them if the limit is zero. -/
def limited (limit : Nat) (rows : List (Record α)) : List (Record α) :=
  if limit = 0 then rows else rows.take limit

/-- The rows of a month in a window, in order; none of a month that is broken. -/
def monthRange (s : Store α) (agentId : String) (first last : Int) (m : Month) :
    List (Record α) :=
  match s.table? m with
  | some (.rows rs) =>
    Record.inOrder (rs.filter fun r => r.agentId == agentId && within first last r.timestamp)
  | _ => []

/-- The rows of an agent in a window, both ends included, ascending; of each month no more than
`limit`, unless that is zero. Broken months are passed over. -/
def range (s : Store α) (agentId : String) (first last : Int) (limit : Nat) :
    List (Record α) :=
  (Month.inWindow s.listed first last).flatMap fun m =>
    limited limit (s.monthRange agentId first last m)

/-- Bucketed means of the rows of an agent in a window. -/
def aggregated [Gauge α] (s : Store α) (agentId : String) (first last : Int)
    (interval : Option String) : List (Record α) :=
  Record.bucketed (BucketWidth.resolve interval (last - first)) (s.range agentId first last 0)

/-- The hourly summaries of an agent in a window, both ends included. -/
def hourly (s : Store α) (agentId : String) (first last : Int) :
    Except StoreError (List (Summary α .hour)) :=
  match s.summaries with
  | none => .error .database
  | some tables => .ok (Summary.select agentId first last tables.hourly)

/-- The daily summaries of an agent in a window, both ends included. -/
def daily (s : Store α) (agentId : String) (first last : Int) :
    Except StoreError (List (Summary α .day)) :=
  match s.summaries with
  | none => .error .database
  | some tables => .ok (Summary.select agentId first last tables.daily)

end Store
end FleetTelemetry
