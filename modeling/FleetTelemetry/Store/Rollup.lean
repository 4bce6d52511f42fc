/-
# Rollups

An hour is rolled up from the raw rows that it holds, agent by agent; a day
from its hourly summaries. A summary takes the place of the one that the agent
had for the same span. What fails for one agent does not stop the others, but
an hour that touches a broken month is not rolled up at all.

Key definitions: `RollupReport`, `Summary.put`, `Store.rowsBetween`,
`Store.rollupHour`, `Store.rollupDay`.
-/
import FleetTelemetry.Sorted
import FleetTelemetry.Store.Query

namespace FleetTelemetry

/-- What a rollup did: the agents it found, the summaries it wrote and those it could not. -/
structure RollupReport where
  agents : Nat := 0
  rowsWritten : Nat := 0
  failures : Nat := 0
  deriving DecidableEq, Repr, Inhabited

/-- Puts a summary in the place of the one for the same agent and span. -/
def Summary.put {α : Type} {span : Span} (s : Summary α span) (table : List (Summary α span)) :
    List (Summary α span) :=
  table.filter (fun t => !(t.agentId == s.agentId && t.start == s.start)) ++ [s]

namespace Store

variable {α : Type}

/-- The raw rows of all agents from `start` on and before `stop`, month by month. -/
def rowsBetween (s : Store α) (start stop : Int) : Except StoreError (List (Record α)) :=
  (Month.inWindow s.listed start (stop - 1)).foldlM
    (fun rows m =>
      match s.table? m with
      | some (.rows rs) => .ok (rows ++ rs.filter fun r => within start (stop - 1) r.timestamp)
      | _ => .error .database)
    []

/-- The rows of one agent, in order. -/
def rowsOf (agentId : String) (rows : List (Record α)) : List (Record α) :=
  Record.inOrder (rows.filter fun r => r.agentId == agentId)

/-- Writes an hourly summary, if its table takes it. -/
def putHourly [Gauge α] (s : Store α) (summary : Summary α .hour) :
    Except StoreError (Store α) :=
  match s.summaries, summary.stored? with
  | some tables, some summary =>
    .ok { s with summaries := some { tables with hourly := summary.put tables.hourly } }
  | _, _ => .error .database

/-- Writes a daily summary, if its table takes it. -/
def putDaily [Gauge α] (s : Store α) (summary : Summary α .day) :
    Except StoreError (Store α) :=
  match s.summaries, summary.stored? with
  | some tables, some summary =>
    .ok { s with summaries := some { tables with daily := summary.put tables.daily } }
  | _, _ => .error .database

/-- Writes the summary of each agent in turn, if there is one, and counts. -/
def rollupEach (summarise : Store α → String → Option (Except StoreError (Store α))) :
    List String → Store α → RollupReport → Store α × RollupReport
  | [], s, report => (s, report)
  | agentId :: rest, s, report =>
    match summarise s agentId with
    | none => rollupEach summarise rest s report
    | some (.ok s) =>
      rollupEach summarise rest s { report with rowsWritten := report.rowsWritten + 1 }
    | some (.error _) =>
      rollupEach summarise rest s { report with failures := report.failures + 1 }

/-- Summarises the hour from `start` on for every agent that has a row in it. -/
def rollupHour [Gauge α] (s : Store α) (start : Int) :
    Except StoreError (Store α × RollupReport) :=
  match s.rowsBetween start (start + Span.hour.millis) with
  | .error e => .error e
  | .ok rows =>
    let agents := Ascending.ofList (rows.map Record.agentId)
    .ok (rollupEach
      (fun s agentId => (Summary.ofHour? agentId start (rowsOf agentId rows)).map s.putHourly)
      agents s { agents := agents.length })

/-- Summarises the day from `start` on, from the hourly summaries of every agent that has one. -/
def rollupDay [Gauge α] (s : Store α) (start : Int) :
    Except StoreError (Store α × RollupReport) :=
  match s.summaries with
  | none => .error .database
  | some tables =>
    let stop := start + Span.day.millis
    let agents := Ascending.ofList
      ((tables.hourly.filter fun h => within start (stop - 1) h.start).map Summary.agentId)
    .ok (rollupEach
      (fun s agentId =>
        (Summary.ofDay? agentId start (Summary.select agentId start (stop - 1) tables.hourly)).map
          s.putDaily)
      agents s { agents := agents.length })

end Store
end FleetTelemetry
