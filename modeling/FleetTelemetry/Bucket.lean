/-
# Bucketed means

Rows of a long window are thinned out: those of one bucket of the time line
become one row with the means of their fields. The width of the buckets is
named, or follows from the length of the window.

Key definitions: `BucketWidth`, `BucketWidth.ofName?`, `BucketWidth.forRange`,
`BucketWidth.resolve`, `Record.mean`, `Record.bucketed`.
-/
import FleetTelemetry.Record
import FleetTelemetry.Sorted
import FleetTelemetry.Text.Quoted
import FleetTelemetry.Timeline

namespace FleetTelemetry

/-- The widths that buckets can have. -/
inductive BucketWidth where
  | oneMinute
  | fiveMinutes
  | fifteenMinutes
  | oneHour
  | oneDay
  deriving DecidableEq, Repr

namespace BucketWidth

/-- From the narrowest to the widest. -/
def all : List BucketWidth := [oneMinute, fiveMinutes, fifteenMinutes, oneHour, oneDay]

/-- What a width is called in requests and messages. -/
def name : BucketWidth → String
  | oneMinute => "1m"
  | fiveMinutes => "5m"
  | fifteenMinutes => "15m"
  | oneHour => "1h"
  | oneDay => "1d"

/-- The length of a bucket. -/
def millis : BucketWidth → Int
  | oneMinute => millisPerMinute
  | fiveMinutes => 5 * millisPerMinute
  | fifteenMinutes => 15 * millisPerMinute
  | oneHour => millisPerHour
  | oneDay => millisPerDay

/-- The width with a name. -/
def ofName? (s : String) : Option BucketWidth := all.find? fun w => w.name == s

/-- The complaint about a name that no width has. -/
def unknownMessage (s : String) : String :=
  "unknown bucket width " ++ Quoted.quote s ++ " (expected 1m, 5m, 15m, 1h or 1d)"

/-- The longer the window, the wider the buckets. -/
def forRange (length : Int) : BucketWidth :=
  if length ≤ millisPerHour then oneMinute
  else if length ≤ 6 * millisPerHour then fiveMinutes
  else if length ≤ millisPerDay then fifteenMinutes
  else if length ≤ 7 * millisPerDay then oneHour
  else oneDay

/-- The named width, if the name is that of one, and otherwise the one for the window. -/
def resolve (interval : Option String) (length : Int) : BucketWidth :=
  (interval.bind ofName?).getD (forRange length)

end BucketWidth

namespace Record

variable {α : Type} [Gauge α]

/-- The row of a bucket: means of the readings, floors of the means of the counters. Sums of
readings go from left to right and begin with zero. -/
def mean (agentId : String) (start : Int) (rows : List (Record α)) : Record α :=
  let average (field : Record α → α) : α :=
    Gauge.div (Gauge.sumFromZero (rows.map field)) (Gauge.ofInt rows.length)
  { agentId
    timestamp := start
    cpuPercent := average cpuPercent
    memPercent := average memPercent
    diskReadBps := Word.meanFloor (rows.map diskReadBps)
    diskWriteBps := Word.meanFloor (rows.map diskWriteBps)
    netRxBps := Word.meanFloor (rows.map netRxBps)
    netTxBps := Word.meanFloor (rows.map netTxBps)
    gpuPercent := average gpuPercent
    loadAvg1 := average loadAvg1 }

/-- The starts of the buckets that hold a row, ascending. -/
def bucketStarts (width : Int) (rows : List (Record α)) : List Int :=
  Ascending.ofList (rows.map fun r => bucketStart width r.timestamp)

/-- One row for each bucket that holds a row, ascending; it bears the agent of the first. -/
def bucketed (width : BucketWidth) (rows : List (Record α)) : List (Record α) :=
  (bucketStarts width.millis rows).map fun start =>
    let held := rows.filter fun r => bucketStart width.millis r.timestamp == start
    mean ((held.head?.map agentId).getD "") start held

end Record
end FleetTelemetry
