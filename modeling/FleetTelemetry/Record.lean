/-
# Records

The part of a snapshot that is kept for long: one row of numbers for an agent
and an instant. Throughput is summed over all devices of a kind and does not
fit when the sum needs more than 64 bits; the load of graphics processors is
averaged.

Key definitions: `Record`, `Record.ofSnapshot?`, `Record.stored?`.
Key theorems: `Record.stored?_eq_some`.
-/
import FleetTelemetry.Gauge
import FleetTelemetry.Snapshot
import FleetTelemetry.Word

namespace FleetTelemetry

/-- A raw row. `timestamp` is a Unix time in milliseconds. -/
structure Record (α : Type) where
  agentId : String
  timestamp : Int
  cpuPercent : α
  memPercent : α
  diskReadBps : UInt64
  diskWriteBps : UInt64
  netRxBps : UInt64
  netTxBps : UInt64
  gpuPercent : α
  loadAvg1 : α
  deriving DecidableEq, Inhabited

namespace Record

/-- The mean load of the graphics processors; zero without any. -/
def gpuLoad (s : Snapshot) : Float :=
  if s.gpus.isEmpty then 0.0
  else Gauge.sum (s.gpus.values.map GpuStat.usagePercent) / Float.ofNat s.gpus.size

/-- The row of a snapshot, if its sums of throughput fit. -/
def ofSnapshot? (agentId : String) (s : Snapshot) : Option (Record Float) := do
  let diskReadBps ← Word.checkedSum? (s.disks.values.map DiskStat.readBytesPerSec)
  let diskWriteBps ← Word.checkedSum? (s.disks.values.map DiskStat.writeBytesPerSec)
  let netRxBps ← Word.checkedSum? (s.networks.values.map InterfaceStat.rxBytesPerSec)
  let netTxBps ← Word.checkedSum? (s.networks.values.map InterfaceStat.txBytesPerSec)
  return {
    agentId
    timestamp := s.timestamp
    cpuPercent := s.cpu.usagePercent
    memPercent := s.memoryPercent
    diskReadBps
    diskWriteBps
    netRxBps
    netTxBps
    gpuPercent := gpuLoad s
    loadAvg1 := s.loadAverage.headD 0.0 }

/-- What a table gives back for a row, or nothing if it refuses one of its readings. -/
def stored? {α : Type} [Gauge α] (r : Record α) : Option (Record α) := do
  let cpuPercent ← Gauge.stored r.cpuPercent
  let memPercent ← Gauge.stored r.memPercent
  let gpuPercent ← Gauge.stored r.gpuPercent
  let loadAvg1 ← Gauge.stored r.loadAvg1
  return { r with cpuPercent, memPercent, gpuPercent, loadAvg1 }

/-- What is read back for a row differs from it in its readings alone. -/
theorem stored?_eq_some {α : Type} [Gauge α] {r r' : Record α} (h : r.stored? = some r') :
    Gauge.stored r.cpuPercent = some r'.cpuPercent ∧
      Gauge.stored r.memPercent = some r'.memPercent ∧
      Gauge.stored r.gpuPercent = some r'.gpuPercent ∧
      Gauge.stored r.loadAvg1 = some r'.loadAvg1 ∧
      r' = { r with
        cpuPercent := r'.cpuPercent, memPercent := r'.memPercent, gpuPercent := r'.gpuPercent,
        loadAvg1 := r'.loadAvg1 } := by
  simp only [stored?, Option.bind_eq_bind, Option.pure_def, Option.bind_eq_some_iff,
    Option.some.injEq] at h
  obtain ⟨_, h₁, _, h₂, _, h₃, _, h₄, rfl⟩ := h
  exact ⟨h₁, h₂, h₃, h₄, rfl⟩

theorem stored?_timestamp {α : Type} [Gauge α] {r r' : Record α} (h : r.stored? = some r') :
    r'.timestamp = r.timestamp := by
  obtain ⟨-, -, -, -, h⟩ := stored?_eq_some h
  rw [h]

end Record
end FleetTelemetry
