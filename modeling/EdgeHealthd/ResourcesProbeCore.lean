import EdgeHealthd.Config
import EdgeHealthd.DaemonCore

/-!
Executable `ResourcesProbe` of `src/probes.cpp`: memory, storage and thermal
readings from what the kernel answers. The network list comes from the netlink
cache and is passed through; the quotient of a temperature in millidegrees is
floating point, so the definitions take it as the parameter `celsius`.
-/

namespace EdgeHealthd

structure MemInfoStats where
  memTotalKb : Option UInt64 := none
  memAvailableKb : Option UInt64 := none
  memFreeKb : Option UInt64 := none
  buffersKb : Option UInt64 := none
  cachedKb : Option UInt64 := none
  sreclaimableKb : Option UInt64 := none
  shmemKb : Option UInt64 := none
  swapTotalKb : Option UInt64 := none
  swapFreeKb : Option UInt64 := none
  deriving DecidableEq

def MemInfoStats.store (stats : MemInfoStats) : String × UInt64 → MemInfoStats
  | ("MemTotal:", value) => { stats with memTotalKb := some value }
  | ("MemAvailable:", value) => { stats with memAvailableKb := some value }
  | ("MemFree:", value) => { stats with memFreeKb := some value }
  | ("Buffers:", value) => { stats with buffersKb := some value }
  | ("Cached:", value) => { stats with cachedKb := some value }
  | ("SReclaimable:", value) => { stats with sreclaimableKb := some value }
  | ("Shmem:", value) => { stats with shmemKb := some value }
  | ("SwapTotal:", value) => { stats with swapTotalKb := some value }
  | ("SwapFree:", value) => { stats with swapFreeKb := some value }
  | _ => stats

/-- The estimate for kernels without `MemAvailable`. -/
def MemInfoStats.estimateAvailable (stats : MemInfoStats) : Option UInt64 :=
  match stats.memFreeKb, stats.buffersKb, stats.cachedKb, stats.sreclaimableKb, stats.shmemKb with
  | some memFree, some buffers, some cached, some sreclaimable, some shmem =>
      let available := memFree + buffers + cached + sreclaimable
      some (if available > shmem then available - shmem else 0)
  | _, _, _, _, _ => none

structure MemoryAmounts where
  total : UInt64
  available : UInt64
  swapTotal : UInt64
  swapFree : UInt64

/-- `lines` are the lines of `/proc/meminfo` that start with a word and a number. -/
def readMeminfo (lines : List (String × UInt64)) : Option MemoryAmounts :=
  let stats := lines.foldl MemInfoStats.store {}
  match stats.memTotalKb, stats.memAvailableKb.or stats.estimateAvailable with
  | some total, some available => some {
      total, available
      swapTotal := stats.swapTotalKb.getD 0
      swapFree := stats.swapFreeKb.getD 0 }
  | _, _ => none

structure Sysinfo where
  totalram : UInt64
  freeram : UInt64
  bufferram : UInt64
  totalswap : UInt64
  freeswap : UInt64
  memUnit : UInt32

def Sysinfo.amounts (info : Sysinfo) : MemoryAmounts :=
  let unit : UInt64 := if info.memUnit == 0 then 1 else info.memUnit.toUInt64
  { total := info.totalram * unit / 1024
    available := (info.freeram + info.bufferram) * unit / 1024
    swapTotal := info.totalswap * unit / 1024
    swapFree := info.freeswap * unit / 1024 }

def MemoryAmounts.usage (amounts : MemoryAmounts) : MemoryUsage where
  memTotalMb := amounts.total / 1024
  memUsedMb :=
    if amounts.total ≥ amounts.available then (amounts.total - amounts.available) / 1024 else 0
  swapUsedMb :=
    if amounts.swapTotal ≥ amounts.swapFree then (amounts.swapTotal - amounts.swapFree) / 1024
    else 0

/-- The `.error` of either argument is the `errno` of the failed call. -/
def ResourcesProbe.collectMemory (meminfo : Except Int (List (String × UInt64)))
    (sysinfo : Except Int Sysinfo) : ProbeResult MemoryUsage :=
  let openError := match meminfo with
    | .error errno => errno
    | .ok _ => 0
  match meminfo.toOption.bind readMeminfo, sysinfo with
  | some amounts, _ => .ok amounts.usage
  | none, .ok info => .ok info.amounts.usage
  | none, .error errno => .error {
      probe := "resources"
      message := "Failed to read memory via /proc/meminfo and sysinfo()"
      code := if openError != 0 then openError else errno }

structure Statvfs where
  blocks : UInt64
  bfree : UInt64
  bavail : UInt64
  frsize : UInt64

structure MountReplies where
  statvfs : Option Statvfs := none
  -- `f_type` of `statfs`.
  fsType : Option Int := none

def fsTypeToString (type : Int) : String :=
  if type == 0xEF53 then "ext4"
  else if type == 0x01021994 then "tmpfs"
  else if type == 0x6969 then "nfs"
  else if type == 0x9123683E then "btrfs"
  else if type == 0x58465342 then "xfs"
  else if type == 0x4d44 then "vfat"
  else if type == 0x794c7630 then "overlay"
  else ""

def ResourcesProbe.collectMount (replies : MountReplies) (path : String) : StorageMount :=
  let mount : StorageMount := { mount := path, fs := (replies.fsType.map fsTypeToString).getD "" }
  match replies.statvfs with
  | none => { mount with available := false }
  | some stat =>
      let total := stat.blocks * stat.frsize
      let free := stat.bfree * stat.frsize
      let avail := stat.bavail * stat.frsize
      if total > 0 then
        { mount with
          usedPct := some ((total - free) * 100 / total).toUInt8
          availMb := some (avail / (1024 * 1024)) }
      else { mount with available := false }

-- One entry of the directory. `typeLine` is the first line of an opened `type` file.
structure ThermalZone where
  name : String
  typeLine : Option String := none
  millidegrees : Option Int := none

def ResourcesProbe.collectZone (celsius : Int → Double) (zone : ThermalZone) : ThermalSensor :=
  let sensor : ThermalSensor := { sensor := zone.typeLine.getD zone.name }
  match zone.millidegrees with
  | none => { sensor with available := false }
  | some millidegrees =>
      let reading := celsius millidegrees
      if reading.ge (.finite (-40)) && (Double.finite 150).ge reading then
        { sensor with tempC := some reading }
      else { sensor with available := false }

def isThermalZone (zone : ThermalZone) : Bool :=
  "thermal_zone".toList.isPrefixOf zone.name.toList

-- `getloadavg` counts only with all three values; a directory that does not open is empty.
structure ResourceReplies where
  loadavg : Option CpuLoad := none
  meminfo : Except Int (List (String × UInt64))
  sysinfo : Except Int Sysinfo
  mounts : Nat → MountReplies
  zones : List ThermalZone := []
  network : List NetworkInterface := []

def ResourcesProbe.collectStorage (config : Config) (mounts : Nat → MountReplies) :
    List StorageMount :=
  config.monitoredMounts.zipIdx.map fun (path, index) => collectMount (mounts index) path

def ResourcesProbe.collectThermal (celsius : Int → Double) (zones : List ThermalZone) :
    List ThermalSensor :=
  (zones.filter isThermalZone).map (collectZone celsius)

def ResourcesProbe.collect (config : Config) (celsius : Int → Double)
    (replies : ResourceReplies) : ProbeResult ResourcesStatus :=
  match collectMemory replies.meminfo replies.sysinfo with
  | .error failure => .error failure
  | .ok memory => .ok {
      sampleWindowSec := config.sampleWindowSec
      cpu := replies.loadavg.getD {}
      memory
      storage := collectStorage config replies.mounts
      thermal := if config.enableThermal then collectThermal celsius replies.zones else []
      network := replies.network }

end EdgeHealthd
