/-
# Maintenance

The store is rolled up every hour and cleaned up on a slower clock. The first
hourly rollup waits past the top of the hour until the last rows of the hour
have been written; the one at the start of the program covers the hour that
ended before it. A cleanup first rolls up the day that ended before it.

Key definitions: `firstRollupDelay?`, `Store.rollupPreviousHour`,
`Store.cleanupCycle`.
-/
import FleetTelemetry.Store.Retention
import FleetTelemetry.Store.Rollup

namespace FleetTelemetry

/-- The start of the last span of the time line that ended by `now`. -/
def previousStart (span : Span) (now : Int) : Int :=
  bucketStart span.millis now - span.millis

/-- The milliseconds from `now` to the next top of the hour. On the hour they are a full hour. -/
def millisToNextHour (now : Int) : Nat :=
  (bucketStart millisPerHour now + millisPerHour - now).toNat

/-- The milliseconds from `now` to the first hourly rollup, `graceSecs` past the top of the hour,
unless its seconds need more than 64 bits. -/
def firstRollupDelay? (now : Int) (graceSecs : UInt64) : Option Nat :=
  if millisToNextHour now / 1000 + graceSecs.toNat < Word.size64 then
    some (millisToNextHour now + 1000 * graceSecs.toNat)
  else none

namespace Store

variable {α : Type}

/-- Rolls up the last complete hour. There is no report if that fails. -/
def rollupPreviousHour [Gauge α] (s : Store α) (now : Int) : Store α × Option RollupReport :=
  match s.rollupHour (previousStart .hour now) with
  | .ok (s, report) => (s, some report)
  | .error _ => (s, none)

/-- Gives space back to the file system; no row changes. -/
def vacuum (s : Store α) : Store α := s

/-- Rolls up the last complete day, as far as that succeeds, then removes what a policy keeps no
longer, and gives the space back if that is wanted. -/
def cleanupCycle [Gauge α] (s : Store α) (now : Int) (policy : RetentionPolicy)
    (vacuumAfter : Bool) : Store α × CleanupReport :=
  let s := match s.rollupDay (previousStart .day now) with
    | .ok (s, _) => s
    | .error _ => s
  let (s, report) := s.cleanup now policy
  (if vacuumAfter then s.vacuum else s, report)

end Store
end FleetTelemetry
