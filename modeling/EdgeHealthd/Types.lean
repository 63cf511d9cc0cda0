/-!
Core data of the daemon, following `inc/types.hpp`. Every record keeps the
source's fields and default member initialisers, so a never-collected section
is exactly the default value of its structure.
-/

namespace EdgeHealthd

-- `steady_clock` and `system_clock` readings, in nanoseconds.
abbrev SteadyTime := Int
abbrev WallTime := Int

def seconds (count : Int) : Int := count * 1000000000

/-- The values of a C++ `double`. Finite doubles are rational numbers. -/
inductive Double where
  | nan
  | negInfinity
  | finite (value : Rat)
  | posInfinity
  deriving DecidableEq, Repr

def Double.ge : Double → Double → Bool
  | .nan, _ => false
  | _, .nan => false
  | .posInfinity, _ => true
  | _, .negInfinity => true
  | .finite left, .finite right => decide (right ≤ left)
  | _, _ => false

inductive Severity where
  | ok
  | warn
  | crit
  | unknown
  | unavailable
  | stale
  deriving DecidableEq, Repr

def Severity.toString : Severity → String
  | .ok => "ok"
  | .warn => "warn"
  | .crit => "crit"
  | .unknown => "unknown"
  | .unavailable => "unavailable"
  | .stale => "stale"

inductive ServiceState where
  | active
  | inactive
  | failed
  | activating
  | deactivating
  | unknown
  deriving DecidableEq, Repr

inductive LinkState where
  | up
  | down
  | unknown
  deriving DecidableEq, Repr

inductive Duplex where
  | full
  | half
  | unknown
  deriving DecidableEq, Repr

inductive TimeSyncSource where
  | none
  | ntp
  | ptp
  deriving DecidableEq, Repr

inductive TimeSyncState where
  | locked
  | freeRunning
  | holdover
  | unknown
  deriving DecidableEq, Repr

inductive UpdateResult where
  | success
  | failed
  | unknown
  deriving DecidableEq, Repr

structure OsInfo where
  distro : String := "unknown"
  version : String := ""
  buildId : String := ""
  kernel : String := "unknown"
  deriving DecidableEq

structure DeviceInfo where
  deviceId : String := "unknown"
  hostname : String := "unknown"
  platform : String := "unknown"
  -- The source spells this default without its first "n".
  arch : String := "uknown"
  os : OsInfo := {}
  deriving DecidableEq

structure SectionFreshness where
  collectedAt : Option WallTime := none
  stale : Bool := false
  deriving DecidableEq

structure BootStatus where
  freshness : SectionFreshness := {}
  bootId : String := ""
  lastBootAt : WallTime := 0
  -- The source leaves the uptime of a default-constructed section unset.
  uptime : Int := 0
  bootOk : Bool := true
  bootFailCount : UInt32 := 0
  lastRebootReason : Option String := none
  deriving DecidableEq

-- A `std::string` that need not be valid UTF-8.
abbrev ByteString := List UInt8

structure ServiceUnit where
  name : String := ""
  state : ServiceState := .unknown
  severity : Severity := .unknown
  since : Option WallTime := none
  restartCount : UInt32 := 0
  result : Option String := none
  detail : Option String := none
  logExcerpt : List ByteString := []
  deriving DecidableEq

structure ServicesStatus where
  freshness : SectionFreshness := {}
  overall : Severity := .unknown
  units : List ServiceUnit := []
  deriving DecidableEq

structure CpuLoad where
  load1 : Double := .finite 0
  load5 : Double := .finite 0
  load15 : Double := .finite 0
  deriving DecidableEq

structure MemoryUsage where
  memTotalMb : UInt64 := 0
  memUsedMb : UInt64 := 0
  swapUsedMb : UInt64 := 0
  deriving DecidableEq

structure StorageMount where
  mount : String := ""
  fs : String := ""
  available : Bool := true
  usedPct : Option UInt8 := none
  availMb : Option UInt64 := none
  deriving DecidableEq

structure ThermalSensor where
  sensor : String := ""
  available : Bool := true
  tempC : Option Double := none
  deriving DecidableEq

structure NetworkInterface where
  ifname : String := ""
  link : LinkState := .unknown
  carrier : Bool := false
  ip : Option String := none
  rxBytes : UInt64 := 0
  txBytes : UInt64 := 0
  rxPackets : UInt64 := 0
  txPackets : UInt64 := 0
  rxDropped : UInt64 := 0
  txDropped : UInt64 := 0
  rxErr : UInt64 := 0
  txErr : UInt64 := 0
  mtu : UInt32 := 0
  mac : String := ""
  operstate : String := ""
  carrierChanges : UInt32 := 0
  carrierUpCount : UInt32 := 0
  carrierDownCount : UInt32 := 0
  speedMbps : Option UInt32 := none
  duplex : Option Duplex := none
  deriving DecidableEq

structure ResourcesStatus where
  freshness : SectionFreshness := {}
  sampleWindowSec : UInt32 := 60
  cpu : CpuLoad := {}
  memory : MemoryUsage := {}
  storage : List StorageMount := []
  thermal : List ThermalSensor := []
  network : List NetworkInterface := []
  deriving DecidableEq

structure NtpStatus where
  enabled : Bool := false
  state : Option TimeSyncState := none
  lastSyncAt : Option WallTime := none
  deriving DecidableEq

structure PtpStatus where
  enabled : Bool := false
  interface : Option String := none
  offsetNs : Option Int := none
  rmsNs : Option UInt64 := none
  state : Option TimeSyncState := none
  lastSyncAt : Option WallTime := none
  role : Option String := none
  deriving DecidableEq

structure RtcStatus where
  enabled : Bool := false
  hctosys : Bool := false
  voltageMv : Option UInt32 := none
  driftSec : Option Int := none
  deriving DecidableEq

structure TimeSyncStatus where
  freshness : SectionFreshness := {}
  overall : Severity := .unknown
  source : TimeSyncSource := .none
  ntp : NtpStatus := {}
  ptp : PtpStatus := {}
  rtc : RtcStatus := {}
  deriving DecidableEq

structure LastUpdate where
  id : String := ""
  installedAt : Option WallTime := none
  result : UpdateResult := .unknown
  detail : Option String := none
  deriving DecidableEq

structure UpdateStatus where
  freshness : SectionFreshness := {}
  overall : Severity := .unknown
  activeSlot : Option String := none
  lastUpdate : Option LastUpdate := none
  deriving DecidableEq

structure JournalStatus where
  freshness : SectionFreshness := {}
  overall : Severity := .unknown
  errorCount : UInt32 := 0
  recentErrors : List ByteString := []
  deriving DecidableEq

structure CrashArtifact where
  name : String := ""
  sizeBytes : UInt64 := 0
  mtime : Option WallTime := none
  kind : String := ""
  deriving DecidableEq

structure CrashStatus where
  freshness : SectionFreshness := {}
  present : Bool := false
  source : Option String := none
  lastPanicAt : Option WallTime := none
  fingerprint : Option String := none
  artifactCount : UInt32 := 0
  artifacts : List CrashArtifact := []
  acknowledged : Bool := false
  panicCount : UInt32 := 0
  panicCurrentBoot : Bool := false
  deriving DecidableEq

inductive Domain where
  | boot
  | services
  | resources
  | timeSync
  | update
  | journal
  | crash
  deriving DecidableEq, Repr

structure DomainSeverities where
  boot : Severity := .unknown
  services : Severity := .unknown
  resources : Severity := .unknown
  timeSync : Severity := .unknown
  update : Severity := .unknown
  journal : Severity := .unknown
  crash : Severity := .unknown
  deriving DecidableEq

def DomainSeverities.get (domains : DomainSeverities) : Domain → Severity
  | .boot => domains.boot
  | .services => domains.services
  | .resources => domains.resources
  | .timeSync => domains.timeSync
  | .update => domains.update
  | .journal => domains.journal
  | .crash => domains.crash

structure SnapshotSummary where
  severity : Severity := .unknown
  domains : DomainSeverities := {}
  reasons : List String := ["initial"]
  notes : Option String := none
  deriving DecidableEq

structure SnapshotState where
  generatedAt : WallTime := 0
  cycle : UInt64 := 0
  device : DeviceInfo := {}
  boot : BootStatus := {}
  services : ServicesStatus := {}
  resources : ResourcesStatus := {}
  timeSync : TimeSyncStatus := {}
  update : UpdateStatus := {}
  journal : JournalStatus := {}
  crash : CrashStatus := {}
  summary : SnapshotSummary := {}
  deriving DecidableEq

end EdgeHealthd
