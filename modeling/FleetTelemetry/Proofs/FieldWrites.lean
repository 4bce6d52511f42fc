/-
# The most recent value of every field

Every field of a snapshot holds what the last update wrote to it. Which update
writes which field, and when it leaves it, is said once for the fields of the
snapshot itself (`SnapshotField.said`) and once for those of each kind of device
(`DiskField.said` and the like). What an update does agrees with these tables
for one step (`SnapshotField.get_apply`, `Notice.get_apply`), so it does for any
number of them (`Update.latest_applyAll`).

Key definitions: `Update.cadence`, `SnapshotField`, `DiskField`,
`InterfaceField`, `GpuField`, `NpuField`, their `get` and `said`,
`Update.disks`, `Update.networks`, `Update.gpus`, `Update.npus`.
Key theorems: `SnapshotField.said_eq_none_or`, `SnapshotField.get_apply`,
`SnapshotField.get_applyAll`, `SnapshotField.ext`, `Update.applyAll_devices`,
`Update.latest_applyAll`.
-/
import FleetTelemetry.Proofs.Notice

namespace FleetTelemetry

/-- The three cadences of updates. -/
inductive Cadence where
  | realtime
  | static
  | periodic

def Update.cadence : Update → Cadence
  | .realtime _ => .realtime
  | .static _ => .static
  | .periodic _ => .periodic

/-! ### The snapshot itself -/

/-- The fields of a snapshot besides its devices. -/
inductive SnapshotField : Type → Type where
  | timestamp : SnapshotField Int
  | cpuUsage : SnapshotField Float
  | perCoreUsage : SnapshotField (List Float)
  | cpuTemperature : SnapshotField Float
  | frequencyMhz : SnapshotField UInt64
  | frequencyMaxMhz : SnapshotField UInt64
  | cpuModel : SnapshotField String
  | cpuVendor : SnapshotField String
  | physicalCores : SnapshotField UInt32
  | logicalCores : SnapshotField UInt32
  | architecture : SnapshotField String
  | memoryTotal : SnapshotField UInt64
  | memoryUsed : SnapshotField UInt64
  | memoryAvailable : SnapshotField UInt64
  | swapTotal : SnapshotField UInt64
  | swapUsed : SnapshotField UInt64
  | cached : SnapshotField UInt64
  | buffers : SnapshotField UInt64
  | memoryType : SnapshotField String
  | memorySpeedMhz : SnapshotField UInt32
  | systemInfo : SnapshotField (Option SystemInfo)
  | userSessions : SnapshotField (List UserSession)
  | loadAverage : SnapshotField (List Float)

namespace SnapshotField

variable {V : Type}

def get : SnapshotField V → Snapshot → V
  | .timestamp, s => s.timestamp
  | .cpuUsage, s => s.cpu.usagePercent
  | .perCoreUsage, s => s.cpu.perCoreUsage
  | .cpuTemperature, s => s.cpu.temperature
  | .frequencyMhz, s => s.cpu.frequencyMhz
  | .frequencyMaxMhz, s => s.cpu.frequencyMaxMhz
  | .cpuModel, s => s.cpu.model
  | .cpuVendor, s => s.cpu.vendor
  | .physicalCores, s => s.cpu.physicalCores
  | .logicalCores, s => s.cpu.logicalCores
  | .architecture, s => s.cpu.architecture
  | .memoryTotal, s => s.memory.total
  | .memoryUsed, s => s.memory.used
  | .memoryAvailable, s => s.memory.available
  | .swapTotal, s => s.memory.swapTotal
  | .swapUsed, s => s.memory.swapUsed
  | .cached, s => s.memory.cached
  | .buffers, s => s.memory.buffers
  | .memoryType, s => s.memory.memoryType
  | .memorySpeedMhz, s => s.memory.memorySpeedMhz
  | .systemInfo, s => s.systemInfo
  | .userSessions, s => s.userSessions
  | .loadAverage, s => s.loadAverage

/-- What an update writes to a field, unless it leaves it. Nothing writes the time of the last
touch, the memory that is available, or the buffers. -/
def said : SnapshotField V → Update → Option V
  | .cpuUsage, .realtime u => some u.cpuUsage
  | .perCoreUsage, .realtime u => if u.cpuPerCore.isEmpty then none else some u.cpuPerCore
  | .cpuTemperature, .realtime u => some u.cpuTemperature
  | .frequencyMhz, .realtime u => some u.cpuFrequencyMhz
  | .memoryUsed, .realtime u => some u.memoryUsed
  | .cached, .realtime u => some u.memoryCached
  | .swapUsed, .realtime u => some u.swapUsed
  | .loadAverage, .realtime u => some u.loadAverage
  | .cpuModel, .static u => u.cpu.map CpuInfo.model
  | .cpuVendor, .static u => u.cpu.map CpuInfo.vendor
  | .physicalCores, .static u => u.cpu.map CpuInfo.physicalCores
  | .logicalCores, .static u => u.cpu.map CpuInfo.logicalCores
  | .architecture, .static u => u.cpu.map CpuInfo.architecture
  | .frequencyMaxMhz, .static u => u.cpu.map CpuInfo.frequencyMaxMhz
  | .memoryTotal, .static u => u.memory.map MemoryInfo.total
  | .swapTotal, .static u => u.memory.map MemoryInfo.swapTotal
  | .memoryType, .static u => u.memory.map MemoryInfo.memoryType
  | .memorySpeedMhz, .static u => u.memory.map MemoryInfo.memorySpeedMhz
  | .systemInfo, .static u => u.systemInfo.map some
  | .userSessions, .periodic u => u.userSessions
  | _, _ => none

/-- Every field belongs to one cadence: updates of two cadences never write the same. -/
theorem said_eq_none_or {u v : Update} (h : u.cadence ≠ v.cadence) (f : SnapshotField V) :
    f.said u = none ∨ f.said v = none := by
  cases u <;> cases v
  all_goals first
    | exact absurd rfl h
    | cases f <;> first | exact .inl rfl | exact .inr rfl

/-- An update writes what it says and leaves the rest. -/
theorem get_apply (f : SnapshotField V) (u : Update) (s : Snapshot) :
    f.get (u.apply s) = (f.said u).getD (f.get s) := by
  cases u with
  | realtime u =>
    cases f with
    | perCoreUsage => exact (apply_ite (Option.getD · s.cpu.perCoreUsage) _ none (some _)).symm
    | _ => rfl
  | static u =>
    obtain ⟨cpu, memory, disks, networks, gpus, npus, systemInfo⟩ := u
    cases f with
    | timestamp | userSessions | loadAverage => rfl
    | systemInfo => cases systemInfo <;> rfl
    | memoryTotal | memoryUsed | memoryAvailable | swapTotal | swapUsed | cached | buffers
    | memoryType | memorySpeedMhz => cases memory <;> rfl
    | _ => cases cpu <;> rfl
  | periodic u => cases f <;> rfl

/-- After updates a field holds the value of the last write to it. -/
theorem get_applyAll (f : SnapshotField V) (us : List Update) (s : Snapshot) :
    f.get (Update.applyAll us s) = latest (f.get s) (us.filterMap f.said) :=
  get_foldl f.get_apply us s

/-- Snapshots that agree in every field differ in their devices at most. -/
theorem ext {s s' : Snapshot} (h : ∀ {V : Type} (f : SnapshotField V), f.get s = f.get s') :
    s' = { s with
      disks := s'.disks, networks := s'.networks, gpus := s'.gpus, npus := s'.npus } := by
  obtain ⟨t, ⟨⟩, ⟨⟩, disks, networks, gpus, npus, systemInfo, sessions, load⟩ := s
  obtain ⟨t', ⟨⟩, ⟨⟩, disks', networks', gpus', npus', systemInfo', sessions', load'⟩ := s'
  simp only [Snapshot.mk.injEq, CpuStats.mk.injEq, MemoryStats.mk.injEq, true_and]
  refine ⟨(h .timestamp).symm, ?_, ?_, (h .systemInfo).symm, (h .userSessions).symm,
    (h .loadAverage).symm⟩
  · exact ⟨(h .cpuUsage).symm, (h .perCoreUsage).symm, (h .cpuTemperature).symm,
      (h .frequencyMhz).symm, (h .frequencyMaxMhz).symm, (h .cpuModel).symm, (h .cpuVendor).symm,
      (h .physicalCores).symm, (h .logicalCores).symm, (h .architecture).symm⟩
  · exact ⟨(h .memoryTotal).symm, (h .memoryUsed).symm, (h .memoryAvailable).symm,
      (h .swapTotal).symm, (h .swapUsed).symm, (h .cached).symm, (h .buffers).symm,
      (h .memoryType).symm, (h .memorySpeedMhz).symm⟩

end SnapshotField

/-! ### Disks -/

inductive DiskField : Type → Type where
  | device : DiskField String
  | mountPoint : DiskField String
  | fsType : DiskField String
  | total : DiskField UInt64
  | used : DiskField UInt64
  | available : DiskField UInt64
  | usagePercent : DiskField Float
  | readBytesPerSec : DiskField UInt64
  | writeBytesPerSec : DiskField UInt64
  | readIops : DiskField UInt64
  | writeIops : DiskField UInt64
  | model : DiskField String
  | serial : DiskField String
  | diskType : DiskField String
  | temperature : DiskField Float
  | healthStatus : DiskField String

def DiskField.get {V : Type} : DiskField V → DiskStat → V
  | .device, d => d.device
  | .mountPoint, d => d.mountPoint
  | .fsType, d => d.fsType
  | .total, d => d.total
  | .used, d => d.used
  | .available, d => d.available
  | .usagePercent, d => d.usagePercent
  | .readBytesPerSec, d => d.readBytesPerSec
  | .writeBytesPerSec, d => d.writeBytesPerSec
  | .readIops, d => d.readIops
  | .writeIops, d => d.writeIops
  | .model, d => d.model
  | .serial, d => d.serial
  | .diskType, d => d.diskType
  | .temperature, d => d.temperature
  | .healthStatus, d => d.healthStatus

instance : Device DiskStat String DiskField where
  blank k := { device := k }
  get := DiskField.get
  ext {a b} h := by
    obtain ⟨⟩ := a
    obtain ⟨⟩ := b
    exact DiskStat.mk.injEq .. ▸ ⟨h .device, h .mountPoint, h .fsType, h .total, h .used,
      h .available, h .usagePercent, h .readBytesPerSec, h .writeBytesPerSec, h .readIops,
      h .writeIops, h .model, h .serial, h .diskType, h .temperature, h .healthStatus⟩

/-- What an update says of a disk. -/
inductive DiskNotice where
  | io (io : DiskIo)
  | info (info : DiskInfo)
  | usage (usage : DiskUsage)

/-- Counters are written always, the description too but for an empty mount point and a total of
zero; with the usage, a temperature that is not above zero is left out as well. -/
def DiskField.said {V : Type} : DiskField V → DiskNotice → Option V
  | .readBytesPerSec, .io n => some n.readBytesPerSec
  | .writeBytesPerSec, .io n => some n.writeBytesPerSec
  | .readIops, .io n => some n.readIops
  | .writeIops, .io n => some n.writeIops
  | .mountPoint, .info n => if n.mountPoint = "" then none else some n.mountPoint
  | .model, .info n => some n.model
  | .serial, .info n => some n.serial
  | .diskType, .info n => some n.diskType
  | .fsType, .info n => some n.fsType
  | .healthStatus, .info n => some n.healthStatus
  | .total, .info n => if n.total = 0 then none else some n.total
  | .mountPoint, .usage n => if n.mountPoint = "" then none else some n.mountPoint
  | .used, .usage n => some n.used
  | .available, .usage n => some n.available
  | .usagePercent, .usage n => some n.usagePercent
  | .total, .usage n => if n.total = 0 then none else some n.total
  | .temperature, .usage n => if 0.0 < n.temperature then some n.temperature else none
  | _, _ => none

instance : Notice DiskNotice String DiskStat DiskField where
  device
    | .io n => n.device
    | .info n => n.device
    | .usage n => n.device
  introduces _ := true
  apply
    | .io n => n.apply
    | .info n => n.apply
    | .usage n => n.apply
  said := DiskField.said
  get_apply f n d := by
    cases n with
    | io n => cases f <;> rfl
    | info n =>
      cases f with
      | mountPoint => exact (apply_ite (Option.getD · d.mountPoint) _ none (some _)).symm
      | total => exact (apply_ite (Option.getD · d.total) _ none (some _)).symm
      | _ => rfl
    | usage n =>
      cases f with
      | mountPoint => exact (apply_ite (Option.getD · d.mountPoint) _ none (some _)).symm
      | total => exact (apply_ite (Option.getD · d.total) _ none (some _)).symm
      | temperature => exact (apply_ite (Option.getD · d.temperature) _ (some _) none).symm
      | _ => rfl

/-! ### Interfaces -/

inductive InterfaceField : Type → Type where
  | interface : InterfaceField String
  | rxBytesPerSec : InterfaceField UInt64
  | txBytesPerSec : InterfaceField UInt64
  | rxPacketsPerSec : InterfaceField UInt64
  | txPacketsPerSec : InterfaceField UInt64
  | isUp : InterfaceField Bool
  | macAddress : InterfaceField String
  | ipAddresses : InterfaceField (List String)
  | speedMbps : InterfaceField UInt64
  | interfaceType : InterfaceField String

def InterfaceField.get {V : Type} : InterfaceField V → InterfaceStat → V
  | .interface, n => n.interface
  | .rxBytesPerSec, n => n.rxBytesPerSec
  | .txBytesPerSec, n => n.txBytesPerSec
  | .rxPacketsPerSec, n => n.rxPacketsPerSec
  | .txPacketsPerSec, n => n.txPacketsPerSec
  | .isUp, n => n.isUp
  | .macAddress, n => n.macAddress
  | .ipAddresses, n => n.ipAddresses
  | .speedMbps, n => n.speedMbps
  | .interfaceType, n => n.interfaceType

instance : Device InterfaceStat String InterfaceField where
  blank k := { interface := k }
  get := InterfaceField.get
  ext {a b} h := by
    obtain ⟨⟩ := a
    obtain ⟨⟩ := b
    exact InterfaceStat.mk.injEq .. ▸ ⟨h .interface, h .rxBytesPerSec, h .txBytesPerSec,
      h .rxPacketsPerSec, h .txPacketsPerSec, h .isUp, h .macAddress, h .ipAddresses,
      h .speedMbps, h .interfaceType⟩

/-- What an update says of an interface. -/
inductive InterfaceNotice where
  | io (io : NetworkIo)
  | info (info : InterfaceInfo)
  | state (state : NetworkState)

/-- Everything is written always, but for the addresses of a state that has none. -/
def InterfaceField.said {V : Type} : InterfaceField V → InterfaceNotice → Option V
  | .rxBytesPerSec, .io n => some n.rxBytesPerSec
  | .txBytesPerSec, .io n => some n.txBytesPerSec
  | .rxPacketsPerSec, .io n => some n.rxPacketsPerSec
  | .txPacketsPerSec, .io n => some n.txPacketsPerSec
  | .isUp, .io n => some n.isUp
  | .macAddress, .info n => some n.macAddress
  | .ipAddresses, .info n => some n.ipAddresses
  | .speedMbps, .info n => some n.speedMbps
  | .interfaceType, .info n => some n.interfaceType
  | .ipAddresses, .state n => if n.ipAddresses = [] then none else some n.ipAddresses
  | .isUp, .state n => some n.isUp
  | _, _ => none

/-- The state of an interface does not introduce it. -/
instance : Notice InterfaceNotice String InterfaceStat InterfaceField where
  device
    | .io n => n.interface
    | .info n => n.interface
    | .state n => n.interface
  introduces
    | .state _ => false
    | _ => true
  apply
    | .io n => n.apply
    | .info n => n.apply
    | .state n => n.apply
  said := InterfaceField.said
  get_apply f n i := by
    cases n with
    | io n => cases f <;> rfl
    | info n => cases f <;> rfl
    | state n =>
      cases f with
      | ipAddresses => exact (apply_ite (Option.getD · i.ipAddresses) _ none (some _)).symm
      | _ => rfl

namespace InterfaceNotice

theorem introduces_io (n : NetworkIo) : Notice.introduces (io n) = true := rfl

theorem introduces_info (n : InterfaceInfo) : Notice.introduces (info n) = true := rfl

theorem introduces_state (n : NetworkState) : Notice.introduces (state n) = false := rfl

end InterfaceNotice

/-! ### Accelerators -/

inductive GpuField : Type → Type where
  | index : GpuField UInt32
  | name : GpuField String
  | vendor : GpuField String
  | usagePercent : GpuField Float
  | memoryTotal : GpuField UInt64
  | memoryUsed : GpuField UInt64
  | temperature : GpuField Float
  | fanSpeedPercent : GpuField UInt32
  | powerWatts : GpuField UInt32
  | powerLimitWatts : GpuField UInt32
  | clockCoreMhz : GpuField UInt64
  | clockMemoryMhz : GpuField UInt64
  | driverVersion : GpuField String
  | pcieGeneration : GpuField String
  | encoderUsage : GpuField Float
  | decoderUsage : GpuField Float

def GpuField.get {V : Type} : GpuField V → GpuStat → V
  | .index, g => g.index
  | .name, g => g.name
  | .vendor, g => g.vendor
  | .usagePercent, g => g.usagePercent
  | .memoryTotal, g => g.memoryTotal
  | .memoryUsed, g => g.memoryUsed
  | .temperature, g => g.temperature
  | .fanSpeedPercent, g => g.fanSpeedPercent
  | .powerWatts, g => g.powerWatts
  | .powerLimitWatts, g => g.powerLimitWatts
  | .clockCoreMhz, g => g.clockCoreMhz
  | .clockMemoryMhz, g => g.clockMemoryMhz
  | .driverVersion, g => g.driverVersion
  | .pcieGeneration, g => g.pcieGeneration
  | .encoderUsage, g => g.encoderUsage
  | .decoderUsage, g => g.decoderUsage

instance : Device GpuStat UInt32 GpuField where
  blank k := { index := k }
  get := GpuField.get
  ext {a b} h := by
    obtain ⟨⟩ := a
    obtain ⟨⟩ := b
    exact GpuStat.mk.injEq .. ▸ ⟨h .index, h .name, h .vendor, h .usagePercent, h .memoryTotal,
      h .memoryUsed, h .temperature, h .fanSpeedPercent, h .powerWatts, h .powerLimitWatts,
      h .clockCoreMhz, h .clockMemoryMhz, h .driverVersion, h .pcieGeneration, h .encoderUsage,
      h .decoderUsage⟩

/-- What an update says of a graphics processor. -/
inductive GpuNotice where
  | usage (usage : GpuUsage)
  | info (info : GpuInfo)

def GpuField.said {V : Type} : GpuField V → GpuNotice → Option V
  | .usagePercent, .usage n => some n.usagePercent
  | .memoryUsed, .usage n => some n.memoryUsed
  | .temperature, .usage n => some n.temperature
  | .powerWatts, .usage n => some n.powerWatts
  | .clockCoreMhz, .usage n => some n.clockCoreMhz
  | .clockMemoryMhz, .usage n => some n.clockMemoryMhz
  | .encoderUsage, .usage n => some n.encoderUsage
  | .decoderUsage, .usage n => some n.decoderUsage
  | .name, .info n => some n.name
  | .vendor, .info n => some n.vendor
  | .memoryTotal, .info n => some n.memoryTotal
  | .driverVersion, .info n => some n.driverVersion
  | .pcieGeneration, .info n => some n.pcieGeneration
  | .powerLimitWatts, .info n => some n.powerLimitWatts
  | _, _ => none

instance : Notice GpuNotice UInt32 GpuStat GpuField where
  device
    | .usage n => n.index
    | .info n => n.index
  introduces _ := true
  apply
    | .usage n => n.apply
    | .info n => n.apply
  said := GpuField.said
  get_apply f n g := by cases n <;> cases f <;> rfl

inductive NpuField : Type → Type where
  | index : NpuField UInt32
  | name : NpuField String
  | vendor : NpuField String
  | usagePercent : NpuField Float
  | memoryTotal : NpuField UInt64
  | memoryUsed : NpuField UInt64
  | temperature : NpuField Float
  | powerWatts : NpuField UInt32
  | driverVersion : NpuField String

def NpuField.get {V : Type} : NpuField V → NpuStat → V
  | .index, n => n.index
  | .name, n => n.name
  | .vendor, n => n.vendor
  | .usagePercent, n => n.usagePercent
  | .memoryTotal, n => n.memoryTotal
  | .memoryUsed, n => n.memoryUsed
  | .temperature, n => n.temperature
  | .powerWatts, n => n.powerWatts
  | .driverVersion, n => n.driverVersion

instance : Device NpuStat UInt32 NpuField where
  blank k := { index := k }
  get := NpuField.get
  ext {a b} h := by
    obtain ⟨⟩ := a
    obtain ⟨⟩ := b
    exact NpuStat.mk.injEq .. ▸ ⟨h .index, h .name, h .vendor, h .usagePercent, h .memoryTotal,
      h .memoryUsed, h .temperature, h .powerWatts, h .driverVersion⟩

/-- What an update says of a neural processor. -/
inductive NpuNotice where
  | usage (usage : NpuUsage)
  | info (info : NpuInfo)

def NpuField.said {V : Type} : NpuField V → NpuNotice → Option V
  | .usagePercent, .usage n => some n.usagePercent
  | .memoryUsed, .usage n => some n.memoryUsed
  | .temperature, .usage n => some n.temperature
  | .powerWatts, .usage n => some n.powerWatts
  | .name, .info n => some n.name
  | .vendor, .info n => some n.vendor
  | .memoryTotal, .info n => some n.memoryTotal
  | .driverVersion, .info n => some n.driverVersion
  | _, _ => none

instance : Notice NpuNotice UInt32 NpuStat NpuField where
  device
    | .usage n => n.index
    | .info n => n.index
  introduces _ := true
  apply
    | .usage n => n.apply
    | .info n => n.apply
  said := NpuField.said
  get_apply f n g := by cases n <;> cases f <;> rfl

/-! ### Updates as notices -/

namespace Update

/-- What an update says of disks, in its order. -/
def disks : Update → List DiskNotice
  | .realtime u => u.diskIo.map .io
  | .static u => u.disks.map .info
  | .periodic u => u.diskUsage.map .usage

/-- What an update says of interfaces, in its order. -/
def networks : Update → List InterfaceNotice
  | .realtime u => u.networkIo.map .io
  | .static u => u.networks.map .info
  | .periodic u => u.networkUpdates.map .state

/-- What an update says of graphics processors, in its order. -/
def gpus : Update → List GpuNotice
  | .realtime u => u.gpuUsage.map .usage
  | .static u => u.gpus.map .info
  | .periodic _ => []

/-- What an update says of neural processors, in its order. -/
def npus : Update → List NpuNotice
  | .realtime u => u.npuUsage.map .usage
  | .static u => u.npus.map .info
  | .periodic _ => []

theorem apply_disks (u : Update) (s : Snapshot) :
    (u.apply s).disks = s.disks.heedAll u.disks := by
  cases u with
  | _ => rw [disks, OrderedMap.heedAll_map]; rfl

theorem apply_networks (u : Update) (s : Snapshot) :
    (u.apply s).networks = s.networks.heedAll u.networks := by
  cases u with
  | _ => rw [networks, OrderedMap.heedAll_map]; rfl

theorem apply_gpus (u : Update) (s : Snapshot) : (u.apply s).gpus = s.gpus.heedAll u.gpus := by
  cases u with
  | periodic => rfl
  | _ => rw [gpus, OrderedMap.heedAll_map]; rfl

theorem apply_npus (u : Update) (s : Snapshot) : (u.apply s).npus = s.npus.heedAll u.npus := by
  cases u with
  | periodic => rfl
  | _ => rw [npus, OrderedMap.heedAll_map]; rfl

/-! ### Any number of updates -/

/-- The devices of a kind heed what all updates say of them, one after the other. -/
theorem applyAll_devices {ν κ α : Type} {φ : Type → Type} [DecidableEq κ] [Device α κ φ]
    [Notice ν κ α φ] {get : Snapshot → OrderedMap κ α} {notices : Update → List ν}
    (h : ∀ u s, get (u.apply s) = (get s).heedAll (notices u)) (us : List Update) (s : Snapshot) :
    get (applyAll us s) = (get s).heedAll (us.flatMap notices) := by
  induction us generalizing s with
  | nil => rfl
  | cons u us ih =>
    rw [List.flatMap_cons, OrderedMap.heedAll_append, ← h]
    exact ih (u.apply s)

/-- **Every field holds the value of the last write to it**, or its value before if nothing writes
it, after updates of any kinds in any order. Of a device that was not known, the fields are those of
a blank one until something writes them; an interface that has not been introduced yet heeds no
state. -/
theorem latest_applyAll (us : List Update) (s : Snapshot) :
    let s' := applyAll us s
    (∀ {V : Type} (f : SnapshotField V), f.get s' = latest (f.get s) (us.filterMap f.said)) ∧
    OrderedMap.Latest (us.flatMap disks) s.disks s'.disks ∧
    OrderedMap.Latest (us.flatMap networks) s.networks s'.networks ∧
    OrderedMap.Latest (us.flatMap gpus) s.gpus s'.gpus ∧
    OrderedMap.Latest (us.flatMap npus) s.npus s'.npus := by
  intro s'
  refine ⟨fun f => f.get_applyAll us s, ?_, ?_, ?_, ?_⟩
  · rw [applyAll_devices apply_disks us s]
    exact OrderedMap.latest_heedAll _ _
  · rw [applyAll_devices apply_networks us s]
    exact OrderedMap.latest_heedAll _ _
  · rw [applyAll_devices apply_gpus us s]
    exact OrderedMap.latest_heedAll _ _
  · rw [applyAll_devices apply_npus us s]
    exact OrderedMap.latest_heedAll _ _

end Update
end FleetTelemetry
