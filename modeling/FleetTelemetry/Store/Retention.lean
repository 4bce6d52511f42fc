/-
# Retention

Rows are kept for so many days, raw rows, hourly and daily summaries each for
their own. Whole months that end before the raw cutoff are dropped with their
tables; in the month of the cutoff the older rows are deleted. A step that
fails is counted, and the others are still taken.

Key definitions: `RetentionPolicy`, `CleanupReport`, `Store.pruneRaw`,
`Store.pruneSummaries`, `Store.cleanup`.
-/
import FleetTelemetry.Store.Basic

namespace FleetTelemetry

/-- For how many days each kind of row is kept. -/
structure RetentionPolicy where
  rawDays : UInt32
  hourlyDays : UInt32
  dailyDays : UInt32
  deriving DecidableEq, Repr, Inhabited

/-- What a cleanup removed, and how many of its steps failed. -/
structure CleanupReport where
  monthsDropped : Nat := 0
  rawRowsDeleted : Nat := 0
  hourlyRowsDeleted : Nat := 0
  dailyRowsDeleted : Nat := 0
  failures : Nat := 0
  deriving DecidableEq, Repr, Inhabited

/-- The first instant that is kept, so many days before `now`. -/
def cutoff (now : Int) (days : UInt32) : Int := now - days.toNat * millisPerDay

namespace Store

variable {α : Type}

/-- Drops the table of a month and forgets that it was there. -/
def dropExpired (s : Store α) (m : Month) : Store α :=
  { s.dropMonth m with ensured := s.ensured.filter (· ≠ m) }

/-- Applies the raw cutoff to one month. -/
def pruneMonth (first : Int) (cutoffMonth : Month) (s : Store α) (report : CleanupReport)
    (m : Month) : Store α × CleanupReport :=
  if m < cutoffMonth then
    (s.dropExpired m, { report with monthsDropped := report.monthsDropped + 1 })
  else if m = cutoffMonth then
    match s.table? m with
    | some (.rows rs) =>
      let kept := rs.filter fun r => decide (first ≤ r.timestamp)
      (s.setTable m (.rows kept),
        { report with rawRowsDeleted := report.rawRowsDeleted + (rs.length - kept.length) })
    | _ => (s, { report with failures := report.failures + 1 })
  else (s, report)

/-- Applies the raw cutoff to every month. -/
def pruneRaw (first : Int) (s : Store α) (report : CleanupReport) : Store α × CleanupReport :=
  match Month.containing? first with
  | none => (s, { report with failures := report.failures + 1 })
  | some cutoffMonth =>
    s.listed.foldl (fun (s, report) m => pruneMonth first cutoffMonth s report m) (s, report)

/-- The summaries that begin at the cutoff or later. -/
def keptSummaries {span : Span} (first : Int) (table : List (Summary α span)) :
    List (Summary α span) :=
  table.filter fun s => decide (first ≤ s.start)

/-- Applies the cutoffs of the summaries. Each fails if their tables are missing. -/
def pruneSummaries (firstHour firstDay : Int) (s : Store α) (report : CleanupReport) :
    Store α × CleanupReport :=
  match s.summaries with
  | none => (s, { report with failures := report.failures + 2 })
  | some tables =>
    let hourly := keptSummaries firstHour tables.hourly
    let daily := keptSummaries firstDay tables.daily
    ({ s with summaries := some { hourly, daily } },
      { report with
        hourlyRowsDeleted := tables.hourly.length - hourly.length
        dailyRowsDeleted := tables.daily.length - daily.length })

/-- Removes everything that a policy keeps no longer. -/
def cleanup (s : Store α) (now : Int) (policy : RetentionPolicy) : Store α × CleanupReport :=
  let (s, report) := pruneRaw (cutoff now policy.rawDays) s {}
  pruneSummaries (cutoff now policy.hourlyDays) (cutoff now policy.dailyDays) s report

end Store
end FleetTelemetry
