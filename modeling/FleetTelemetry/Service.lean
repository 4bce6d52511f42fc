/-
# The service

Reports of agents come in here. Each is written to the live cache; when rows
are kept for long, the row of the new snapshot is handed to the record writer.
A snapshot whose row does not fit is in the cache, but the report fails.

Key definitions: `Report`, `Service`, `Service.receive`, `Service.disconnect`.
Key theorems: `Service.cacheReport_eq`.
-/
import FleetTelemetry.Cache
import FleetTelemetry.Writer

namespace FleetTelemetry

/-- What an agent reports: all it knows, or an update. -/
inductive Report where
  | full (s : Snapshot)
  | update (u : Update)

/-- The live cache, the store, and the channel to the record writer if rows are kept for long. -/
structure Service where
  cache : Cache
  store : Store Float := {}
  channel : Option (RecordChannel Float) := none

namespace Service

/-- Writes a report to the cache. -/
def cacheReport (c : Cache) (now : Int) (agentId : String) : Report → Cache × Snapshot
  | .full s => c.store now agentId s
  | .update u => c.merge now agentId u

/-- A report is written to the cache as the snapshot to which it leads. -/
theorem cacheReport_eq (c : Cache) (now : Int) (agentId : String) (report : Report) :
    (cacheReport c now agentId report).1 =
      c.write agentId (cacheReport c now agentId report).2 := by
  cases report <;> rfl

/-- Takes a report in. The answer is the snapshot that it led to, unless the row of that snapshot
is wanted and does not fit. -/
def receive (s : Service) (now : Int) (agentId : String) (report : Report) :
    Service × Option Snapshot :=
  let (cache, snapshot) := cacheReport s.cache now agentId report
  let s := { s with cache }
  match s.channel with
  | none => (s, some snapshot)
  | some channel =>
    match Record.ofSnapshot? agentId snapshot with
    | none => (s, none)
    | some r => ({ s with channel := some (channel.trySend r) }, some snapshot)

/-- Forgets the live state of an agent; what the store holds stays. -/
def disconnect (s : Service) (agentId : String) : Service × Bool :=
  let (cache, known) := s.cache.remove agentId
  ({ s with cache }, known)

end Service
end FleetTelemetry
