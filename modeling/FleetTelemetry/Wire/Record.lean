/-
# The JSON form of records and summaries

Every field has to be given. The start of a summary is named after its span.

Key definitions: the `Wire` instances of `Record Float`, `Summary Float .hour`
and `Summary Float .day`, and `CacheSummary.toJson`.
-/
import FleetTelemetry.Cache
import FleetTelemetry.Summary
import FleetTelemetry.Wire.Snapshot

namespace FleetTelemetry

/-- A row of zeros. -/
def Record.zeros : Record Float where
  agentId := ""
  timestamp := 0
  cpuPercent := 0.0
  memPercent := 0.0
  diskReadBps := 0
  diskWriteBps := 0
  netRxBps := 0
  netTxBps := 0
  gpuPercent := 0.0
  loadAvg1 := 0.0

instance : Wire (Record Float) := .ofFields
  [
    .must "agentId" Record.agentId fun v r => { r with agentId := v },
    .must "timestamp" Record.timestamp fun v r => { r with timestamp := v },
    .must "cpuPercent" Record.cpuPercent fun v r => { r with cpuPercent := v },
    .must "memPercent" Record.memPercent fun v r => { r with memPercent := v },
    .must "diskReadBps" Record.diskReadBps fun v r => { r with diskReadBps := v },
    .must "diskWriteBps" Record.diskWriteBps fun v r => { r with diskWriteBps := v },
    .must "netRxBps" Record.netRxBps fun v r => { r with netRxBps := v },
    .must "netTxBps" Record.netTxBps fun v r => { r with netTxBps := v },
    .must "gpuPercent" Record.gpuPercent fun v r => { r with gpuPercent := v },
    .must "loadAvg1" Record.loadAvg1 fun v r => { r with loadAvg1 := v }
  ] Record.zeros

namespace Summary

/-- A summary of zeros. -/
def zeros (span : Span) : Summary Float span where
  agentId := ""
  start := 0
  cpuAvg := 0.0
  cpuMax := 0.0
  memAvg := 0.0
  memMax := 0.0
  netRxTotal := 0
  netTxTotal := 0
  dataPoints := 0

/-- The fields of a summary, with the name of its start. -/
def fields (startName : String) (span : Span) : List (Field (Summary Float span)) :=
  [
    .must "agentId" Summary.agentId fun v s => { s with agentId := v },
    .must startName Summary.start fun v s => { s with start := v },
    .must "cpuAvg" Summary.cpuAvg fun v s => { s with cpuAvg := v },
    .must "cpuMax" Summary.cpuMax fun v s => { s with cpuMax := v },
    .must "memAvg" Summary.memAvg fun v s => { s with memAvg := v },
    .must "memMax" Summary.memMax fun v s => { s with memMax := v },
    .must "netRxTotal" Summary.netRxTotal fun v s => { s with netRxTotal := v },
    .must "netTxTotal" Summary.netTxTotal fun v s => { s with netTxTotal := v },
    .must "dataPoints" Summary.dataPoints fun v s => { s with dataPoints := v }
  ]

end Summary

instance : Wire (Summary Float .hour) := .ofFields (Summary.fields "hourStart" .hour) (.zeros _)

instance : Wire (Summary Float .day) := .ofFields (Summary.fields "dayStart" .day) (.zeros _)

/-- The fleet in one line, as JSON. -/
def CacheSummary.toJson (s : CacheSummary) : Json :=
  .ofMembers [
    ("agentCount", .int s.agentCount),
    ("avgCpuPercent", Wire.write s.avgCpuPercent),
    ("totalMemory", Wire.write s.totalMemory),
    ("usedMemory", Wire.write s.usedMemory),
    ("memoryPercent", Wire.write s.memoryPercent)]

end FleetTelemetry
