/-
# The JSON form of updates

Members bear the names of the fields, and every field may be missing.

Key definitions: the `Wire` instances of `RealtimeUpdate`, `StaticUpdate`,
`PeriodicUpdate` and of their parts.
-/
import FleetTelemetry.Update
import FleetTelemetry.Wire.Snapshot

namespace FleetTelemetry

instance : Wire DiskIo := .ofFields
  [
    .of "device" DiskIo.device fun v s => { s with device := v },
    .of "readBytesPerSec" DiskIo.readBytesPerSec fun v s => { s with readBytesPerSec := v },
    .of "writeBytesPerSec" DiskIo.writeBytesPerSec fun v s => { s with writeBytesPerSec := v },
    .of "readIops" DiskIo.readIops fun v s => { s with readIops := v },
    .of "writeIops" DiskIo.writeIops fun v s => { s with writeIops := v }
  ] {}

instance : Wire NetworkIo := .ofFields
  [
    .of "interface" NetworkIo.interface fun v s => { s with interface := v },
    .of "rxBytesPerSec" NetworkIo.rxBytesPerSec fun v s => { s with rxBytesPerSec := v },
    .of "txBytesPerSec" NetworkIo.txBytesPerSec fun v s => { s with txBytesPerSec := v },
    .of "rxPacketsPerSec" NetworkIo.rxPacketsPerSec fun v s => { s with rxPacketsPerSec := v },
    .of "txPacketsPerSec" NetworkIo.txPacketsPerSec fun v s => { s with txPacketsPerSec := v },
    .of "isUp" NetworkIo.isUp fun v s => { s with isUp := v }
  ] {}

instance : Wire GpuUsage := .ofFields
  [
    .of "index" GpuUsage.index fun v s => { s with index := v },
    .of "usagePercent" GpuUsage.usagePercent fun v s => { s with usagePercent := v },
    .of "memoryUsed" GpuUsage.memoryUsed fun v s => { s with memoryUsed := v },
    .of "temperature" GpuUsage.temperature fun v s => { s with temperature := v },
    .of "powerWatts" GpuUsage.powerWatts fun v s => { s with powerWatts := v },
    .of "clockCoreMhz" GpuUsage.clockCoreMhz fun v s => { s with clockCoreMhz := v },
    .of "clockMemoryMhz" GpuUsage.clockMemoryMhz fun v s => { s with clockMemoryMhz := v },
    .of "encoderUsage" GpuUsage.encoderUsage fun v s => { s with encoderUsage := v },
    .of "decoderUsage" GpuUsage.decoderUsage fun v s => { s with decoderUsage := v }
  ] {}

instance : Wire NpuUsage := .ofFields
  [
    .of "index" NpuUsage.index fun v s => { s with index := v },
    .of "usagePercent" NpuUsage.usagePercent fun v s => { s with usagePercent := v },
    .of "memoryUsed" NpuUsage.memoryUsed fun v s => { s with memoryUsed := v },
    .of "temperature" NpuUsage.temperature fun v s => { s with temperature := v },
    .of "powerWatts" NpuUsage.powerWatts fun v s => { s with powerWatts := v }
  ] {}

instance : Wire RealtimeUpdate := .ofFields
  [
    .of "cpuUsage" RealtimeUpdate.cpuUsage fun v s => { s with cpuUsage := v },
    .of "cpuPerCore" RealtimeUpdate.cpuPerCore fun v s => { s with cpuPerCore := v },
    .of "cpuTemperature" RealtimeUpdate.cpuTemperature fun v s => { s with cpuTemperature := v },
    .of "cpuFrequencyMhz" RealtimeUpdate.cpuFrequencyMhz fun v s => { s with cpuFrequencyMhz := v },
    .of "memoryUsed" RealtimeUpdate.memoryUsed fun v s => { s with memoryUsed := v },
    .of "memoryCached" RealtimeUpdate.memoryCached fun v s => { s with memoryCached := v },
    .of "swapUsed" RealtimeUpdate.swapUsed fun v s => { s with swapUsed := v },
    .of "loadAverage" RealtimeUpdate.loadAverage fun v s => { s with loadAverage := v },
    .of "diskIo" RealtimeUpdate.diskIo fun v s => { s with diskIo := v },
    .of "networkIo" RealtimeUpdate.networkIo fun v s => { s with networkIo := v },
    .of "gpuUsage" RealtimeUpdate.gpuUsage fun v s => { s with gpuUsage := v },
    .of "npuUsage" RealtimeUpdate.npuUsage fun v s => { s with npuUsage := v }
  ] {}

instance : Wire CpuInfo := .ofFields
  [
    .of "model" CpuInfo.model fun v s => { s with model := v },
    .of "vendor" CpuInfo.vendor fun v s => { s with vendor := v },
    .of "physicalCores" CpuInfo.physicalCores fun v s => { s with physicalCores := v },
    .of "logicalCores" CpuInfo.logicalCores fun v s => { s with logicalCores := v },
    .of "architecture" CpuInfo.architecture fun v s => { s with architecture := v },
    .of "frequencyMaxMhz" CpuInfo.frequencyMaxMhz fun v s => { s with frequencyMaxMhz := v }
  ] {}

instance : Wire MemoryInfo := .ofFields
  [
    .of "total" MemoryInfo.total fun v s => { s with total := v },
    .of "swapTotal" MemoryInfo.swapTotal fun v s => { s with swapTotal := v },
    .of "memoryType" MemoryInfo.memoryType fun v s => { s with memoryType := v },
    .of "memorySpeedMhz" MemoryInfo.memorySpeedMhz fun v s => { s with memorySpeedMhz := v }
  ] {}

instance : Wire DiskInfo := .ofFields
  [
    .of "device" DiskInfo.device fun v s => { s with device := v },
    .of "mountPoint" DiskInfo.mountPoint fun v s => { s with mountPoint := v },
    .of "model" DiskInfo.model fun v s => { s with model := v },
    .of "serial" DiskInfo.serial fun v s => { s with serial := v },
    .of "diskType" DiskInfo.diskType fun v s => { s with diskType := v },
    .of "fsType" DiskInfo.fsType fun v s => { s with fsType := v },
    .of "healthStatus" DiskInfo.healthStatus fun v s => { s with healthStatus := v },
    .of "total" DiskInfo.total fun v s => { s with total := v }
  ] {}

instance : Wire InterfaceInfo := .ofFields
  [
    .of "interface" InterfaceInfo.interface fun v s => { s with interface := v },
    .of "macAddress" InterfaceInfo.macAddress fun v s => { s with macAddress := v },
    .of "ipAddresses" InterfaceInfo.ipAddresses fun v s => { s with ipAddresses := v },
    .of "speedMbps" InterfaceInfo.speedMbps fun v s => { s with speedMbps := v },
    .of "interfaceType" InterfaceInfo.interfaceType fun v s => { s with interfaceType := v }
  ] {}

instance : Wire GpuInfo := .ofFields
  [
    .of "index" GpuInfo.index fun v s => { s with index := v },
    .of "name" GpuInfo.name fun v s => { s with name := v },
    .of "vendor" GpuInfo.vendor fun v s => { s with vendor := v },
    .of "memoryTotal" GpuInfo.memoryTotal fun v s => { s with memoryTotal := v },
    .of "driverVersion" GpuInfo.driverVersion fun v s => { s with driverVersion := v },
    .of "pcieGeneration" GpuInfo.pcieGeneration fun v s => { s with pcieGeneration := v },
    .of "powerLimitWatts" GpuInfo.powerLimitWatts fun v s => { s with powerLimitWatts := v }
  ] {}

instance : Wire NpuInfo := .ofFields
  [
    .of "index" NpuInfo.index fun v s => { s with index := v },
    .of "name" NpuInfo.name fun v s => { s with name := v },
    .of "vendor" NpuInfo.vendor fun v s => { s with vendor := v },
    .of "memoryTotal" NpuInfo.memoryTotal fun v s => { s with memoryTotal := v },
    .of "driverVersion" NpuInfo.driverVersion fun v s => { s with driverVersion := v }
  ] {}

instance : Wire StaticUpdate := .ofFields
  [
    .of "cpu" StaticUpdate.cpu fun v s => { s with cpu := v },
    .of "memory" StaticUpdate.memory fun v s => { s with memory := v },
    .of "disks" StaticUpdate.disks fun v s => { s with disks := v },
    .of "networks" StaticUpdate.networks fun v s => { s with networks := v },
    .of "gpus" StaticUpdate.gpus fun v s => { s with gpus := v },
    .of "npus" StaticUpdate.npus fun v s => { s with npus := v },
    .of "systemInfo" StaticUpdate.systemInfo fun v s => { s with systemInfo := v }
  ] {}

instance : Wire DiskUsage := .ofFields
  [
    .of "device" DiskUsage.device fun v s => { s with device := v },
    .of "mountPoint" DiskUsage.mountPoint fun v s => { s with mountPoint := v },
    .of "total" DiskUsage.total fun v s => { s with total := v },
    .of "used" DiskUsage.used fun v s => { s with used := v },
    .of "available" DiskUsage.available fun v s => { s with available := v },
    .of "usagePercent" DiskUsage.usagePercent fun v s => { s with usagePercent := v },
    .of "temperature" DiskUsage.temperature fun v s => { s with temperature := v }
  ] {}

instance : Wire NetworkState := .ofFields
  [
    .of "interface" NetworkState.interface fun v s => { s with interface := v },
    .of "ipAddresses" NetworkState.ipAddresses fun v s => { s with ipAddresses := v },
    .of "isUp" NetworkState.isUp fun v s => { s with isUp := v }
  ] {}

instance : Wire PeriodicUpdate := .ofFields
  [
    .of "diskUsage" PeriodicUpdate.diskUsage fun v s => { s with diskUsage := v },
    .of "userSessions" PeriodicUpdate.userSessions fun v s => { s with userSessions := v },
    .of "networkUpdates" PeriodicUpdate.networkUpdates fun v s => { s with networkUpdates := v }
  ] {}

end FleetTelemetry
