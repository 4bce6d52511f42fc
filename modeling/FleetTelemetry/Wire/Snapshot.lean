/-
# The JSON form of snapshots

Members bear the names of the fields. Every field may be missing; an absent
host identity is not written.

Key definitions: the `Wire` instances of `Snapshot` and of its parts.
-/
import FleetTelemetry.Snapshot
import FleetTelemetry.Wire.Basic

namespace FleetTelemetry

instance : Wire CpuStats := .ofFields
  [
    .of "usagePercent" CpuStats.usagePercent fun v s => { s with usagePercent := v },
    .of "perCoreUsage" CpuStats.perCoreUsage fun v s => { s with perCoreUsage := v },
    .of "temperature" CpuStats.temperature fun v s => { s with temperature := v },
    .of "frequencyMhz" CpuStats.frequencyMhz fun v s => { s with frequencyMhz := v },
    .of "frequencyMaxMhz" CpuStats.frequencyMaxMhz fun v s => { s with frequencyMaxMhz := v },
    .of "model" CpuStats.model fun v s => { s with model := v },
    .of "vendor" CpuStats.vendor fun v s => { s with vendor := v },
    .of "physicalCores" CpuStats.physicalCores fun v s => { s with physicalCores := v },
    .of "logicalCores" CpuStats.logicalCores fun v s => { s with logicalCores := v },
    .of "architecture" CpuStats.architecture fun v s => { s with architecture := v }
  ] {}

instance : Wire MemoryStats := .ofFields
  [
    .of "total" MemoryStats.total fun v s => { s with total := v },
    .of "used" MemoryStats.used fun v s => { s with used := v },
    .of "available" MemoryStats.available fun v s => { s with available := v },
    .of "swapTotal" MemoryStats.swapTotal fun v s => { s with swapTotal := v },
    .of "swapUsed" MemoryStats.swapUsed fun v s => { s with swapUsed := v },
    .of "cached" MemoryStats.cached fun v s => { s with cached := v },
    .of "buffers" MemoryStats.buffers fun v s => { s with buffers := v },
    .of "memoryType" MemoryStats.memoryType fun v s => { s with memoryType := v },
    .of "memorySpeedMhz" MemoryStats.memorySpeedMhz fun v s => { s with memorySpeedMhz := v }
  ] {}

instance : Wire DiskStat := .ofFields
  [
    .of "device" DiskStat.device fun v s => { s with device := v },
    .of "mountPoint" DiskStat.mountPoint fun v s => { s with mountPoint := v },
    .of "fsType" DiskStat.fsType fun v s => { s with fsType := v },
    .of "total" DiskStat.total fun v s => { s with total := v },
    .of "used" DiskStat.used fun v s => { s with used := v },
    .of "available" DiskStat.available fun v s => { s with available := v },
    .of "usagePercent" DiskStat.usagePercent fun v s => { s with usagePercent := v },
    .of "readBytesPerSec" DiskStat.readBytesPerSec fun v s => { s with readBytesPerSec := v },
    .of "writeBytesPerSec" DiskStat.writeBytesPerSec fun v s => { s with writeBytesPerSec := v },
    .of "readIops" DiskStat.readIops fun v s => { s with readIops := v },
    .of "writeIops" DiskStat.writeIops fun v s => { s with writeIops := v },
    .of "model" DiskStat.model fun v s => { s with model := v },
    .of "serial" DiskStat.serial fun v s => { s with serial := v },
    .of "diskType" DiskStat.diskType fun v s => { s with diskType := v },
    .of "temperature" DiskStat.temperature fun v s => { s with temperature := v },
    .of "healthStatus" DiskStat.healthStatus fun v s => { s with healthStatus := v }
  ] {}

instance : Wire InterfaceStat := .ofFields
  [
    .of "interface" InterfaceStat.interface fun v s => { s with interface := v },
    .of "rxBytesPerSec" InterfaceStat.rxBytesPerSec fun v s => { s with rxBytesPerSec := v },
    .of "txBytesPerSec" InterfaceStat.txBytesPerSec fun v s => { s with txBytesPerSec := v },
    .of "rxPacketsPerSec" InterfaceStat.rxPacketsPerSec fun v s => { s with rxPacketsPerSec := v },
    .of "txPacketsPerSec" InterfaceStat.txPacketsPerSec fun v s => { s with txPacketsPerSec := v },
    .of "isUp" InterfaceStat.isUp fun v s => { s with isUp := v },
    .of "macAddress" InterfaceStat.macAddress fun v s => { s with macAddress := v },
    .of "ipAddresses" InterfaceStat.ipAddresses fun v s => { s with ipAddresses := v },
    .of "speedMbps" InterfaceStat.speedMbps fun v s => { s with speedMbps := v },
    .of "interfaceType" InterfaceStat.interfaceType fun v s => { s with interfaceType := v }
  ] {}

instance : Wire GpuStat := .ofFields
  [
    .of "index" GpuStat.index fun v s => { s with index := v },
    .of "name" GpuStat.name fun v s => { s with name := v },
    .of "vendor" GpuStat.vendor fun v s => { s with vendor := v },
    .of "usagePercent" GpuStat.usagePercent fun v s => { s with usagePercent := v },
    .of "memoryTotal" GpuStat.memoryTotal fun v s => { s with memoryTotal := v },
    .of "memoryUsed" GpuStat.memoryUsed fun v s => { s with memoryUsed := v },
    .of "temperature" GpuStat.temperature fun v s => { s with temperature := v },
    .of "fanSpeedPercent" GpuStat.fanSpeedPercent fun v s => { s with fanSpeedPercent := v },
    .of "powerWatts" GpuStat.powerWatts fun v s => { s with powerWatts := v },
    .of "powerLimitWatts" GpuStat.powerLimitWatts fun v s => { s with powerLimitWatts := v },
    .of "clockCoreMhz" GpuStat.clockCoreMhz fun v s => { s with clockCoreMhz := v },
    .of "clockMemoryMhz" GpuStat.clockMemoryMhz fun v s => { s with clockMemoryMhz := v },
    .of "driverVersion" GpuStat.driverVersion fun v s => { s with driverVersion := v },
    .of "pcieGeneration" GpuStat.pcieGeneration fun v s => { s with pcieGeneration := v },
    .of "encoderUsage" GpuStat.encoderUsage fun v s => { s with encoderUsage := v },
    .of "decoderUsage" GpuStat.decoderUsage fun v s => { s with decoderUsage := v }
  ] {}

instance : Wire NpuStat := .ofFields
  [
    .of "index" NpuStat.index fun v s => { s with index := v },
    .of "name" NpuStat.name fun v s => { s with name := v },
    .of "vendor" NpuStat.vendor fun v s => { s with vendor := v },
    .of "usagePercent" NpuStat.usagePercent fun v s => { s with usagePercent := v },
    .of "memoryTotal" NpuStat.memoryTotal fun v s => { s with memoryTotal := v },
    .of "memoryUsed" NpuStat.memoryUsed fun v s => { s with memoryUsed := v },
    .of "temperature" NpuStat.temperature fun v s => { s with temperature := v },
    .of "powerWatts" NpuStat.powerWatts fun v s => { s with powerWatts := v },
    .of "driverVersion" NpuStat.driverVersion fun v s => { s with driverVersion := v }
  ] {}

instance : Wire SystemInfo := .ofFields
  [
    .of "osName" SystemInfo.osName fun v s => { s with osName := v },
    .of "osVersion" SystemInfo.osVersion fun v s => { s with osVersion := v },
    .of "kernelVersion" SystemInfo.kernelVersion fun v s => { s with kernelVersion := v },
    .of "hostname" SystemInfo.hostname fun v s => { s with hostname := v },
    .of "bootTime" SystemInfo.bootTime fun v s => { s with bootTime := v },
    .of "uptimeSeconds" SystemInfo.uptimeSeconds fun v s => { s with uptimeSeconds := v },
    .of "motherboardModel" SystemInfo.motherboardModel fun v s => { s with motherboardModel := v },
    .of "motherboardVendor" SystemInfo.motherboardVendor fun v s =>
      { s with motherboardVendor := v },
    .of "biosVersion" SystemInfo.biosVersion fun v s => { s with biosVersion := v },
    .of "systemModel" SystemInfo.systemModel fun v s => { s with systemModel := v },
    .of "systemVendor" SystemInfo.systemVendor fun v s => { s with systemVendor := v }
  ] {}

instance : Wire UserSession := .ofFields
  [
    .of "username" UserSession.username fun v s => { s with username := v },
    .of "tty" UserSession.tty fun v s => { s with tty := v },
    .of "loginTime" UserSession.loginTime fun v s => { s with loginTime := v },
    .of "remoteHost" UserSession.remoteHost fun v s => { s with remoteHost := v },
    .of "idleSeconds" UserSession.idleSeconds fun v s => { s with idleSeconds := v },
    .of "sessionType" UserSession.sessionType fun v s => { s with sessionType := v }
  ] {}

instance : Wire Snapshot := .ofFields
  [
    .of "timestamp" Snapshot.timestamp fun v s => { s with timestamp := v },
    .of "cpu" Snapshot.cpu fun v s => { s with cpu := v },
    .of "memory" Snapshot.memory fun v s => { s with memory := v },
    .of "disks" Snapshot.disks fun v s => { s with disks := v },
    .of "networks" Snapshot.networks fun v s => { s with networks := v },
    .of "gpus" Snapshot.gpus fun v s => { s with gpus := v },
    .of "npus" Snapshot.npus fun v s => { s with npus := v },
    .omittable "systemInfo" Snapshot.systemInfo fun v s => { s with systemInfo := v },
    .of "userSessions" Snapshot.userSessions fun v s => { s with userSessions := v },
    .of "loadAverage" Snapshot.loadAverage fun v s => { s with loadAverage := v }
  ] {}

end FleetTelemetry
