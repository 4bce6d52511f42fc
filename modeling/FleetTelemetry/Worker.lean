/-
# The aggregation worker

The worker rolls up the last hour at regular ticks, the first of them past the
top of the hour, and cleans up at the times of a schedule, or at regular ticks
where there is none that can be read. A schedule that never fires again is
asked once more after an hour.

Key definitions: `WorkerConfig`, `WorkerConfig.cleanupDelay`,
`WorkerConfig.rollupTick?`, `Store.workFor`.
-/
import FleetTelemetry.Schedule.Expression
import FleetTelemetry.Store.Maintenance

namespace FleetTelemetry

/-- What the worker does when. -/
structure WorkerConfig where
  rollupIntervalSecs : UInt64
  /-- How long past the top of the hour the first rollup waits. -/
  flushGraceSecs : UInt64
  cleanupIntervalSecs : UInt64
  cleanupSchedule : Option String
  vacuumAfterCleanup : Bool
  retention : RetentionPolicy
  deriving DecidableEq, Repr

namespace WorkerConfig

/-- The seconds between two ticks of the hourly rollup; never zero. -/
def rollupPeriodSecs (c : WorkerConfig) : Nat := Nat.max c.rollupIntervalSecs.toNat 1

/-- The seconds between two cleanups without a schedule; never zero. -/
def cleanupPeriodSecs (c : WorkerConfig) : Nat := Nat.max c.cleanupIntervalSecs.toNat 1

/-- The schedule of the cleanup, if there is one that can be read. -/
def schedule? (c : WorkerConfig) : Option Schedule :=
  c.cleanupSchedule.bind Schedule.ofText?

/-- The milliseconds from `now` to the next cleanup. -/
def cleanupDelay (c : WorkerConfig) (now : Int) : Nat :=
  match c.schedule? with
  | some s =>
    match s.nextAfter? now with
    | some next => (next - now).toNat
    | none => 3600 * 1000
  | none => c.cleanupPeriodSecs * 1000

/-- The instant of a tick of the hourly rollup for a worker started at `now`. -/
def rollupTick? (c : WorkerConfig) (now : Int) (tick : Nat) : Option Int :=
  (firstRollupDelay? now c.flushGraceSecs).map fun delay =>
    now + delay + tick * (c.rollupPeriodSecs * 1000)

end WorkerConfig

namespace Store

variable {α : Type} [Gauge α]

/-- What a worker that was started at `now` does when its timers run `elapsed` milliseconds ahead at
once: a rollup and a cleanup are due once each, and missed ticks are skipped. Both go by `now`. -/
def workFor (s : Store α) (config : WorkerConfig) (now : Int) (elapsed : Nat) : Store α :=
  let s :=
    match firstRollupDelay? now config.flushGraceSecs with
    | some delay => if delay ≤ elapsed then (s.rollupPreviousHour now).1 else s
    | none => s
  if config.cleanupDelay now ≤ elapsed then
    (s.cleanupCycle now config.retention config.vacuumAfterCleanup).1
  else s

end Store
end FleetTelemetry
