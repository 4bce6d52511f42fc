/-
# Updates

An agent reports in three cadences, and a report carries only what its cadence
owns: counters every second, the hardware when it connects or on demand, disk
usage with sessions and interface state every so often.

Key definitions: `RealtimeUpdate`, `StaticUpdate`, `PeriodicUpdate`, `Update`.
-/
import FleetTelemetry.Snapshot

namespace FleetTelemetry

/-- Counters of a disk. -/
structure DiskIo where
  device : String := ""
  readBytesPerSec : UInt64 := 0
  writeBytesPerSec : UInt64 := 0
  readIops : UInt64 := 0
  writeIops : UInt64 := 0
  deriving Inhabited

/-- Counters of an interface. -/
structure NetworkIo where
  interface : String := ""
  rxBytesPerSec : UInt64 := 0
  txBytesPerSec : UInt64 := 0
  rxPacketsPerSec : UInt64 := 0
  txPacketsPerSec : UInt64 := 0
  isUp : Bool := false
  deriving Inhabited

/-- Counters of a graphics processor. -/
structure GpuUsage where
  index : UInt32 := 0
  usagePercent : Float := 0.0
  memoryUsed : UInt64 := 0
  temperature : Float := 0.0
  powerWatts : UInt32 := 0
  clockCoreMhz : UInt64 := 0
  clockMemoryMhz : UInt64 := 0
  encoderUsage : Float := 0.0
  decoderUsage : Float := 0.0
  deriving Inhabited

/-- Counters of a neural processor. -/
structure NpuUsage where
  index : UInt32 := 0
  usagePercent : Float := 0.0
  memoryUsed : UInt64 := 0
  temperature : Float := 0.0
  powerWatts : UInt32 := 0
  deriving Inhabited

/-- The counters of a second. -/
structure RealtimeUpdate where
  cpuUsage : Float := 0.0
  cpuPerCore : List Float := []
  cpuTemperature : Float := 0.0
  cpuFrequencyMhz : UInt64 := 0
  memoryUsed : UInt64 := 0
  memoryCached : UInt64 := 0
  swapUsed : UInt64 := 0
  loadAverage : List Float := []
  diskIo : List DiskIo := []
  networkIo : List NetworkIo := []
  gpuUsage : List GpuUsage := []
  npuUsage : List NpuUsage := []
  deriving Inhabited

/-- The description of a processor. -/
structure CpuInfo where
  model : String := ""
  vendor : String := ""
  physicalCores : UInt32 := 0
  logicalCores : UInt32 := 0
  architecture : String := ""
  frequencyMaxMhz : UInt64 := 0
  deriving Inhabited

/-- The description of the memory. -/
structure MemoryInfo where
  total : UInt64 := 0
  swapTotal : UInt64 := 0
  memoryType : String := ""
  memorySpeedMhz : UInt32 := 0
  deriving Inhabited

/-- The description of a disk. -/
structure DiskInfo where
  device : String := ""
  mountPoint : String := ""
  model : String := ""
  serial : String := ""
  diskType : String := ""
  fsType : String := ""
  healthStatus : String := ""
  total : UInt64 := 0
  deriving Inhabited

/-- The description of an interface. -/
structure InterfaceInfo where
  interface : String := ""
  macAddress : String := ""
  ipAddresses : List String := []
  speedMbps : UInt64 := 0
  interfaceType : String := ""
  deriving Inhabited

/-- The description of a graphics processor. -/
structure GpuInfo where
  index : UInt32 := 0
  name : String := ""
  vendor : String := ""
  memoryTotal : UInt64 := 0
  driverVersion : String := ""
  pcieGeneration : String := ""
  powerLimitWatts : UInt32 := 0
  deriving Inhabited

/-- The description of a neural processor. -/
structure NpuInfo where
  index : UInt32 := 0
  name : String := ""
  vendor : String := ""
  memoryTotal : UInt64 := 0
  driverVersion : String := ""
  deriving Inhabited

/-- The description of the hardware. -/
structure StaticUpdate where
  cpu : Option CpuInfo := none
  memory : Option MemoryInfo := none
  disks : List DiskInfo := []
  networks : List InterfaceInfo := []
  gpus : List GpuInfo := []
  npus : List NpuInfo := []
  systemInfo : Option SystemInfo := none
  deriving Inhabited

/-- How full a disk is. -/
structure DiskUsage where
  device : String := ""
  mountPoint : String := ""
  total : UInt64 := 0
  used : UInt64 := 0
  available : UInt64 := 0
  usagePercent : Float := 0.0
  temperature : Float := 0.0
  deriving Inhabited

/-- Addresses and state of an interface. -/
structure NetworkState where
  interface : String := ""
  ipAddresses : List String := []
  isUp : Bool := false
  deriving Inhabited

/-- Disk usage, sessions and interface state. No sessions at all means that they are as before; an
empty list means that nobody is logged in. -/
structure PeriodicUpdate where
  diskUsage : List DiskUsage := []
  userSessions : Option (List UserSession) := none
  networkUpdates : List NetworkState := []
  deriving Inhabited

/-- A report of any cadence. -/
inductive Update where
  | realtime (u : RealtimeUpdate)
  | static (u : StaticUpdate)
  | periodic (u : PeriodicUpdate)

end FleetTelemetry
