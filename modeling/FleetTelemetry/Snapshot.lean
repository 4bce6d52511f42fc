/-
# Snapshots

What is known of one agent at a moment: processor, memory, devices, the
identity of the host and its sessions. Devices of one kind are found under
their names: a disk under its device, an interface under its name, an
accelerator under its index. Throughput is in bytes per second.

Key definitions: `Snapshot`, `CpuStats`, `MemoryStats`, `DiskStat`,
`InterfaceStat`, `GpuStat`, `NpuStat`, `Snapshot.memoryPercent`.
-/
import FleetTelemetry.OrderedMap

namespace FleetTelemetry

/-- Processor load and description. -/
structure CpuStats where
  usagePercent : Float := 0.0
  perCoreUsage : List Float := []
  temperature : Float := 0.0
  frequencyMhz : UInt64 := 0
  frequencyMaxMhz : UInt64 := 0
  model : String := ""
  vendor : String := ""
  physicalCores : UInt32 := 0
  logicalCores : UInt32 := 0
  architecture : String := ""
  deriving BEq, Inhabited

/-- Memory in bytes. -/
structure MemoryStats where
  total : UInt64 := 0
  used : UInt64 := 0
  available : UInt64 := 0
  swapTotal : UInt64 := 0
  swapUsed : UInt64 := 0
  cached : UInt64 := 0
  buffers : UInt64 := 0
  memoryType : String := ""
  memorySpeedMhz : UInt32 := 0
  deriving BEq, Inhabited

/-- A disk, named by its device. -/
structure DiskStat where
  device : String := ""
  mountPoint : String := ""
  fsType : String := ""
  total : UInt64 := 0
  used : UInt64 := 0
  available : UInt64 := 0
  usagePercent : Float := 0.0
  readBytesPerSec : UInt64 := 0
  writeBytesPerSec : UInt64 := 0
  readIops : UInt64 := 0
  writeIops : UInt64 := 0
  model : String := ""
  serial : String := ""
  diskType : String := ""
  temperature : Float := 0.0
  healthStatus : String := ""
  deriving BEq, Inhabited

/-- A network interface, named by itself. -/
structure InterfaceStat where
  interface : String := ""
  rxBytesPerSec : UInt64 := 0
  txBytesPerSec : UInt64 := 0
  rxPacketsPerSec : UInt64 := 0
  txPacketsPerSec : UInt64 := 0
  isUp : Bool := false
  macAddress : String := ""
  ipAddresses : List String := []
  speedMbps : UInt64 := 0
  interfaceType : String := ""
  deriving BEq, Inhabited

/-- A graphics processor, named by its index. -/
structure GpuStat where
  index : UInt32 := 0
  name : String := ""
  vendor : String := ""
  usagePercent : Float := 0.0
  memoryTotal : UInt64 := 0
  memoryUsed : UInt64 := 0
  temperature : Float := 0.0
  fanSpeedPercent : UInt32 := 0
  powerWatts : UInt32 := 0
  powerLimitWatts : UInt32 := 0
  clockCoreMhz : UInt64 := 0
  clockMemoryMhz : UInt64 := 0
  driverVersion : String := ""
  pcieGeneration : String := ""
  encoderUsage : Float := 0.0
  decoderUsage : Float := 0.0
  deriving BEq, Inhabited

/-- A neural processor, named by its index. -/
structure NpuStat where
  index : UInt32 := 0
  name : String := ""
  vendor : String := ""
  usagePercent : Float := 0.0
  memoryTotal : UInt64 := 0
  memoryUsed : UInt64 := 0
  temperature : Float := 0.0
  powerWatts : UInt32 := 0
  driverVersion : String := ""
  deriving BEq, Inhabited

instance : Keyed DiskStat String := ⟨DiskStat.device⟩
instance : Keyed InterfaceStat String := ⟨InterfaceStat.interface⟩
instance : Keyed GpuStat UInt32 := ⟨GpuStat.index⟩
instance : Keyed NpuStat UInt32 := ⟨NpuStat.index⟩

/-- The identity of a host. -/
structure SystemInfo where
  osName : String := ""
  osVersion : String := ""
  kernelVersion : String := ""
  hostname : String := ""
  bootTime : Int64 := 0
  uptimeSeconds : Int64 := 0
  motherboardModel : String := ""
  motherboardVendor : String := ""
  biosVersion : String := ""
  systemModel : String := ""
  systemVendor : String := ""
  deriving BEq, Inhabited

/-- A logged-in user. -/
structure UserSession where
  username : String := ""
  tty : String := ""
  loginTime : Int64 := 0
  remoteHost : String := ""
  idleSeconds : Int64 := 0
  sessionType : String := ""
  deriving BEq, Inhabited

/-- The best-known state of an agent. `timestamp` is the Unix time in milliseconds at which the
server last touched it. -/
structure Snapshot where
  timestamp : Int := 0
  cpu : CpuStats := {}
  memory : MemoryStats := {}
  disks : OrderedMap String DiskStat := {}
  networks : OrderedMap String InterfaceStat := {}
  gpus : OrderedMap UInt32 GpuStat := {}
  npus : OrderedMap UInt32 NpuStat := {}
  systemInfo : Option SystemInfo := none
  userSessions : List UserSession := []
  loadAverage : List Float := []
  deriving BEq, Inhabited

/-- `used` as a percentage of `total`; zero while the total is unknown. -/
def percentOf (used total : UInt64) : Float :=
  if total = 0 then 0.0 else used.toFloat / total.toFloat * 100.0

namespace Snapshot

/-- Memory in use, as a percentage of the whole. -/
def memoryPercent (s : Snapshot) : Float := percentOf s.memory.used s.memory.total

/-- The snapshot as of the time at which the server touched it. -/
def stamped (s : Snapshot) (now : Int) : Snapshot := { s with timestamp := now }

end Snapshot
end FleetTelemetry
