/-
# Summaries

An hour of an agent is summarised from its raw rows, a day from its hours.
Averages of a day are weighted by the number of raw rows behind each hour, so
that they are those of the rows. Totals are held at the greatest counter.

Key definitions: `Summary`, `Summary.ofHour?`, `Summary.ofDay?`,
`Summary.stored?`.
Key theorems: `Summary.ofHour?_eq_none_iff`, `Summary.ofHour?_eq_some`,
`Summary.ofDay?_isSome_iff`, `Summary.ofDay?_eq_some`.
-/
import FleetTelemetry.Record
import FleetTelemetry.Timeline

namespace FleetTelemetry

/-- What is kept of an agent for the span that begins at `start`. -/
structure Summary (α : Type) (span : Span) where
  agentId : String
  start : Int
  cpuAvg : α
  cpuMax : α
  memAvg : α
  memMax : α
  /-- The sum of the receive rates of every raw row. -/
  netRxTotal : UInt64
  netTxTotal : UInt64
  dataPoints : Int
  deriving DecidableEq, Inhabited

namespace Summary

variable {α : Type}

/-- The number of raw rows behind some summaries. -/
def totalPoints {span : Span} : List (Summary α span) → Int
  | [] => 0
  | s :: rest => s.dataPoints + totalPoints rest

variable [Gauge α]

/-- The mean of the readings. -/
def mean (xs : List α) : α :=
  Gauge.div (Gauge.sum xs) (Gauge.ofInt xs.length)

/-- The mean of the readings, each as often as its weight says. -/
def weightedMean (total : Int) (xs : List (α × Int)) : α :=
  Gauge.div (Gauge.sum (xs.map fun x => Gauge.mul x.1 (Gauge.ofInt x.2))) (Gauge.ofInt total)

/-- The summary of an hour; there is none without rows. -/
def ofHour? (agentId : String) (start : Int) (rows : List (Record α)) :
    Option (Summary α .hour) :=
  if rows.isEmpty then none
  else some {
    agentId
    start
    cpuAvg := mean (rows.map Record.cpuPercent)
    cpuMax := Gauge.peak (rows.map Record.cpuPercent)
    memAvg := mean (rows.map Record.memPercent)
    memMax := Gauge.peak (rows.map Record.memPercent)
    netRxTotal := Word.saturatingSum (rows.map Record.netRxBps)
    netTxTotal := Word.saturatingSum (rows.map Record.netTxBps)
    dataPoints := rows.length }

theorem ofHour?_eq_none_iff {agentId : String} {start : Int} {rows : List (Record α)} :
    ofHour? agentId start rows = none ↔ rows = [] := by
  unfold ofHour?
  cases rows <;> simp

/-- What the summary of an hour counts and adds up. -/
theorem ofHour?_eq_some {agentId : String} {start : Int} {rows : List (Record α)}
    {sm : Summary α .hour} (h : ofHour? agentId start rows = some sm) :
    rows ≠ [] ∧ sm.dataPoints = rows.length ∧
      sm.netRxTotal = Word.saturatingSum (rows.map Record.netRxBps) ∧
      sm.netTxTotal = Word.saturatingSum (rows.map Record.netTxBps) := by
  unfold ofHour? at h
  split at h
  · cases h
  · next hne =>
    obtain rfl := Option.some.inj h
    exact ⟨fun hnil => hne (List.isEmpty_iff.mpr hnil), rfl, rfl, rfl⟩

/-- The summary of a day; there is none without hours, or if no raw row is behind them. -/
def ofDay? (agentId : String) (start : Int) (hours : List (Summary α .hour)) :
    Option (Summary α .day) :=
  let dataPoints := totalPoints hours
  if hours.isEmpty || dataPoints ≤ 0 then none
  else some {
    agentId
    start
    cpuAvg := weightedMean dataPoints (hours.map fun h => (h.cpuAvg, h.dataPoints))
    cpuMax := Gauge.peak (hours.map Summary.cpuMax)
    memAvg := weightedMean dataPoints (hours.map fun h => (h.memAvg, h.dataPoints))
    memMax := Gauge.peak (hours.map Summary.memMax)
    netRxTotal := Word.saturatingSum (hours.map Summary.netRxTotal)
    netTxTotal := Word.saturatingSum (hours.map Summary.netTxTotal)
    dataPoints }

theorem ofDay?_isSome_iff {agentId : String} {start : Int} {hours : List (Summary α .hour)} :
    (ofDay? agentId start hours).isSome = true ↔ 0 < totalPoints hours := by
  unfold ofDay?
  dsimp only
  cases hours with
  | nil => exact iff_of_false Bool.false_ne_true (Int.lt_irrefl 0)
  | cons h hours =>
    rw [List.isEmpty_cons, Bool.false_or]
    split
    · next hle => exact iff_of_false Bool.false_ne_true (Int.not_lt.mpr (of_decide_eq_true hle))
    · next hle => exact iff_of_true rfl (Int.not_le.mp fun h => hle (decide_eq_true h))

/-- What the summary of a day counts and adds up. -/
theorem ofDay?_eq_some {agentId : String} {start : Int} {hours : List (Summary α .hour)}
    {sm : Summary α .day} (h : ofDay? agentId start hours = some sm) :
    sm.dataPoints = totalPoints hours ∧
      sm.netRxTotal = Word.saturatingSum (hours.map Summary.netRxTotal) ∧
      sm.netTxTotal = Word.saturatingSum (hours.map Summary.netTxTotal) := by
  unfold ofDay? at h
  dsimp only at h
  split at h
  · cases h
  · obtain rfl := Option.some.inj h
    exact ⟨rfl, rfl, rfl⟩

/-- What a table gives back for a summary, or nothing if it refuses one of its readings. -/
def stored? {span : Span} (s : Summary α span) : Option (Summary α span) := do
  let cpuAvg ← Gauge.stored s.cpuAvg
  let cpuMax ← Gauge.stored s.cpuMax
  let memAvg ← Gauge.stored s.memAvg
  let memMax ← Gauge.stored s.memMax
  return { s with cpuAvg, cpuMax, memAvg, memMax }

end Summary
end FleetTelemetry
