/-
# Merging updates into a snapshot

An update overwrites the fields that its cadence owns. A device that it names
is found by its key, or appended with nothing but those fields set; only an
interface state never introduces an interface. There is no clock in it: of two
updates that write one field, the later application wins.

Key definitions: `RealtimeUpdate.apply`, `StaticUpdate.apply`,
`PeriodicUpdate.apply`, `Update.apply`, `Update.applyAll`.
-/
import FleetTelemetry.Update

namespace FleetTelemetry

/-! ### One device or group

What is not named here stays as it is. -/

def DiskIo.apply (io : DiskIo) (d : DiskStat) : DiskStat :=
  { d with
    readBytesPerSec := io.readBytesPerSec
    writeBytesPerSec := io.writeBytesPerSec
    readIops := io.readIops
    writeIops := io.writeIops }

def NetworkIo.apply (io : NetworkIo) (n : InterfaceStat) : InterfaceStat :=
  { n with
    rxBytesPerSec := io.rxBytesPerSec
    txBytesPerSec := io.txBytesPerSec
    rxPacketsPerSec := io.rxPacketsPerSec
    txPacketsPerSec := io.txPacketsPerSec
    isUp := io.isUp }

def GpuUsage.apply (u : GpuUsage) (g : GpuStat) : GpuStat :=
  { g with
    usagePercent := u.usagePercent
    memoryUsed := u.memoryUsed
    temperature := u.temperature
    powerWatts := u.powerWatts
    clockCoreMhz := u.clockCoreMhz
    clockMemoryMhz := u.clockMemoryMhz
    encoderUsage := u.encoderUsage
    decoderUsage := u.decoderUsage }

def NpuUsage.apply (u : NpuUsage) (n : NpuStat) : NpuStat :=
  { n with
    usagePercent := u.usagePercent
    memoryUsed := u.memoryUsed
    temperature := u.temperature
    powerWatts := u.powerWatts }

/-- An empty mount point and a total of zero say nothing. -/
def DiskInfo.apply (info : DiskInfo) (d : DiskStat) : DiskStat :=
  { d with
    mountPoint := if info.mountPoint = "" then d.mountPoint else info.mountPoint
    model := info.model
    serial := info.serial
    diskType := info.diskType
    fsType := info.fsType
    healthStatus := info.healthStatus
    total := if info.total = 0 then d.total else info.total }

def InterfaceInfo.apply (info : InterfaceInfo) (n : InterfaceStat) : InterfaceStat :=
  { n with
    macAddress := info.macAddress
    ipAddresses := info.ipAddresses
    speedMbps := info.speedMbps
    interfaceType := info.interfaceType }

def GpuInfo.apply (info : GpuInfo) (g : GpuStat) : GpuStat :=
  { g with
    name := info.name
    vendor := info.vendor
    memoryTotal := info.memoryTotal
    driverVersion := info.driverVersion
    pcieGeneration := info.pcieGeneration
    powerLimitWatts := info.powerLimitWatts }

def NpuInfo.apply (info : NpuInfo) (n : NpuStat) : NpuStat :=
  { n with
    name := info.name
    vendor := info.vendor
    memoryTotal := info.memoryTotal
    driverVersion := info.driverVersion }

/-- An empty mount point, a total of zero and a temperature that is not above zero say nothing. -/
def DiskUsage.apply (u : DiskUsage) (d : DiskStat) : DiskStat :=
  { d with
    mountPoint := if u.mountPoint = "" then d.mountPoint else u.mountPoint
    used := u.used
    available := u.available
    usagePercent := u.usagePercent
    total := if u.total = 0 then d.total else u.total
    temperature := if 0.0 < u.temperature then u.temperature else d.temperature }

/-- No addresses say nothing. -/
def NetworkState.apply (state : NetworkState) (n : InterfaceStat) : InterfaceStat :=
  { n with
    ipAddresses := if state.ipAddresses = [] then n.ipAddresses else state.ipAddresses
    isUp := state.isUp }

def CpuInfo.apply (info : CpuInfo) (c : CpuStats) : CpuStats :=
  { c with
    model := info.model
    vendor := info.vendor
    physicalCores := info.physicalCores
    logicalCores := info.logicalCores
    architecture := info.architecture
    frequencyMaxMhz := info.frequencyMaxMhz }

def MemoryInfo.apply (info : MemoryInfo) (m : MemoryStats) : MemoryStats :=
  { m with
    total := info.total
    swapTotal := info.swapTotal
    memoryType := info.memoryType
    memorySpeedMhz := info.memorySpeedMhz }

/-! ### Whole updates -/

/-- Overwrites the counters. Per-core usage stays if none is reported. -/
def RealtimeUpdate.apply (u : RealtimeUpdate) (s : Snapshot) : Snapshot :=
  { s with
    cpu :=
      { s.cpu with
        usagePercent := u.cpuUsage
        perCoreUsage := if u.cpuPerCore.isEmpty then s.cpu.perCoreUsage else u.cpuPerCore
        temperature := u.cpuTemperature
        frequencyMhz := u.cpuFrequencyMhz }
    memory :=
      { s.memory with
        used := u.memoryUsed
        cached := u.memoryCached
        swapUsed := u.swapUsed }
    loadAverage := u.loadAverage
    disks := s.disks.upsertEach DiskIo.device (fun k => { device := k }) DiskIo.apply u.diskIo
    networks := s.networks.upsertEach NetworkIo.interface (fun k => { interface := k })
      NetworkIo.apply u.networkIo
    gpus := s.gpus.upsertEach GpuUsage.index (fun k => { index := k }) GpuUsage.apply u.gpuUsage
    npus := s.npus.upsertEach NpuUsage.index (fun k => { index := k }) NpuUsage.apply u.npuUsage }

/-- Overwrites the description of the hardware; the identity of the host is replaced as a whole. -/
def StaticUpdate.apply (u : StaticUpdate) (s : Snapshot) : Snapshot :=
  { s with
    cpu := (u.cpu.map fun info => info.apply s.cpu).getD s.cpu
    memory := (u.memory.map fun info => info.apply s.memory).getD s.memory
    disks := s.disks.upsertEach DiskInfo.device (fun k => { device := k }) DiskInfo.apply u.disks
    networks := s.networks.upsertEach InterfaceInfo.interface (fun k => { interface := k })
      InterfaceInfo.apply u.networks
    gpus := s.gpus.upsertEach GpuInfo.index (fun k => { index := k }) GpuInfo.apply u.gpus
    npus := s.npus.upsertEach NpuInfo.index (fun k => { index := k }) NpuInfo.apply u.npus
    systemInfo := u.systemInfo.or s.systemInfo }

/-- Merges disk usage, replaces the sessions and updates the interfaces that are known. -/
def PeriodicUpdate.apply (u : PeriodicUpdate) (s : Snapshot) : Snapshot :=
  { s with
    disks := s.disks.upsertEach DiskUsage.device (fun k => { device := k }) DiskUsage.apply
      u.diskUsage
    userSessions := u.userSessions.getD s.userSessions
    networks := u.networkUpdates.foldl (fun m state => m.modify state.interface state.apply)
      s.networks }

namespace Update

/-- Merges one update into a snapshot. -/
def apply : Update → Snapshot → Snapshot
  | .realtime u => u.apply
  | .static u => u.apply
  | .periodic u => u.apply

/-- Merges updates in order. -/
def applyAll (us : List Update) (s : Snapshot) : Snapshot :=
  us.foldl (fun s u => u.apply s) s

end Update
end FleetTelemetry
