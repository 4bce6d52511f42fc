/-
# The live cache

For each agent the cache holds its current snapshot and a bounded history of
the snapshots before it, this one included. Every write stamps the snapshot
with the time of the server, hands it to the subscriber, and returns it.

Key definitions: `Cache`, `Cache.empty`, `Cache.store`, `Cache.merge`,
`Cache.remove`, `Cache.current?`, `Cache.historyOf`, `Cache.allHistory`,
`CacheSummary`, `Cache.summary`.
-/
import FleetTelemetry.Broadcast
import FleetTelemetry.Gauge
import FleetTelemetry.Merge
import FleetTelemetry.Word

namespace FleetTelemetry

/-- Current snapshots and histories. -/
structure Cache where
  historyCapacity : Nat
  broadcastCapacity : Nat
  current : OrderedMap String Snapshot := {}
  history : OrderedMap String (List Snapshot) := {}
  /-- The way to the subscriber, once there is one. -/
  hook : Option Broadcast := none

/-- The fleet in one line. -/
structure CacheSummary where
  agentCount : Nat
  avgCpuPercent : Float
  totalMemory : UInt64
  usedMemory : UInt64
  memoryPercent : Float

/-- The last `limit` entries; all of them if the limit is zero. -/
def lastEntries {β : Type} (limit : Nat) (entries : List β) : List β :=
  if limit = 0 then entries else entries.drop (entries.length - limit)

namespace Cache

/-- Ten minutes at one snapshot a second. -/
def defaultHistoryCapacity : Nat := 600

/-- The frames that a subscriber may lag behind. -/
def defaultBroadcastCapacity : Nat := 1024

/-- An empty cache. Both capacities are at least one. -/
def empty (historyCapacity broadcastCapacity : Nat) : Cache where
  historyCapacity := Nat.max historyCapacity 1
  broadcastCapacity := Nat.max broadcastCapacity 1

/-- Sets the way to the subscriber, unless there is one. -/
def subscribe (c : Cache) : Cache × Bool :=
  match c.hook with
  | some _ => (c, false)
  | none => ({ c with hook := some { capacity := c.broadcastCapacity } }, true)

/-- Appends to a history and drops what no longer fits. -/
def pushBounded (capacity : Nat) (ring : List Snapshot) (s : Snapshot) : List Snapshot :=
  (ring ++ [s]).drop (ring.length + 1 - capacity)

/-- Makes a snapshot the current one of an agent. -/
def write (c : Cache) (agentId : String) (s : Snapshot) : Cache :=
  { c with
    current := c.current.insert agentId s
    history := c.history.insert agentId
      (pushBounded c.historyCapacity ((c.history.get? agentId).getD []) s)
    hook := c.hook.map fun b => b.offer ⟨agentId, s⟩ }

/-- Replaces the snapshot of an agent. -/
def store (c : Cache) (now : Int) (agentId : String) (s : Snapshot) : Cache × Snapshot :=
  let s := s.stamped now
  (c.write agentId s, s)

/-- Merges an update into the snapshot of an agent, an empty one if there is none. -/
def merge (c : Cache) (now : Int) (agentId : String) (u : Update) : Cache × Snapshot :=
  let s := (u.apply ((c.current.get? agentId).getD {})).stamped now
  (c.write agentId s, s)

/-- The current snapshot of an agent. -/
def current? (c : Cache) (agentId : String) : Option Snapshot := c.current.get? agentId

/-- The last `limit` snapshots of an agent, oldest first; all of them if the limit is zero. -/
def historyOf (c : Cache) (agentId : String) (limit : Nat) : List Snapshot :=
  lastEntries limit ((c.history.get? agentId).getD [])

/-- The histories of all agents. -/
def allHistory (c : Cache) (limit : Nat) : List (String × List Snapshot) :=
  c.history.entries.map fun e => (e.1, lastEntries limit e.2)

/-- Forgets an agent. The answer tells whether it was known. -/
def remove (c : Cache) (agentId : String) : Cache × Bool :=
  ({ c with current := c.current.erase agentId, history := c.history.erase agentId },
    c.current.contains agentId || c.history.contains agentId)

/-- The fleet in one line. Totals are held at the greatest counter. -/
def summary (c : Cache) : CacheSummary :=
  let snapshots := c.current.values
  let total := Word.saturatingSum (snapshots.map fun s => s.memory.total)
  let used := Word.saturatingSum (snapshots.map fun s => s.memory.used)
  { agentCount := c.current.size
    avgCpuPercent :=
      if snapshots.isEmpty then 0.0
      else Gauge.sumFromZero (snapshots.map fun s => s.cpu.usagePercent)
        / Float.ofNat snapshots.length
    totalMemory := total
    usedMemory := used
    memoryPercent := percentOf used total }

end Cache
end FleetTelemetry
