import EdgeHealthd.Json

/-!
Executable `src/json.cpp`: the document of a snapshot, member by member in the order of
the source. The calendar is the proleptic Gregorian one in UTC. Log lines are bytes; the
parameter `text` is the text that `dump` prints for them, with replacement characters
where they are not UTF-8.
-/

namespace EdgeHealthd

structure Tm where
  year : Int
  month : Nat
  day : Nat
  hour : Nat
  minute : Nat
  second : Nat
  deriving DecidableEq

/-- The date of a day counted from the epoch. Years are counted from March, in eras of
400 years, so that the leap day comes last. -/
def civilFromDays (days : Int) : Int × Nat × Nat :=
  let shifted := days + 719468
  let era := shifted / 146097
  let dayOfEra := (shifted % 146097).toNat
  let yearOfEra := (dayOfEra - dayOfEra / 1460 + dayOfEra / 36524 - dayOfEra / 146096) / 365
  let dayOfYear := dayOfEra - (365 * yearOfEra + yearOfEra / 4 - yearOfEra / 100)
  let shiftedMonth := (5 * dayOfYear + 2) / 153
  let day := dayOfYear - (153 * shiftedMonth + 2) / 5 + 1
  let month := if shiftedMonth < 10 then shiftedMonth + 3 else shiftedMonth - 9
  let year := era * 400 + yearOfEra
  (if month ≤ 2 then year + 1 else year, month, day)

def gmtime (time : Int) : Tm :=
  let (year, month, day) := civilFromDays (time / 86400)
  let second := (time % 86400).toNat
  { year, month, day, hour := second / 3600, minute := second / 60 % 60, second := second % 60 }

def twoDigits (value : Nat) : String :=
  if value < 10 then "0" ++ toString value else toString value

/-- `to_time_t` drops the fraction of a second. -/
def formatTime (time : WallTime) : String :=
  let tm := gmtime (time.tdiv 1000000000)
  toString tm.year ++ "-" ++ twoDigits tm.month ++ "-" ++ twoDigits tm.day ++ "T" ++
    twoDigits tm.hour ++ ":" ++ twoDigits tm.minute ++ ":" ++ twoDigits tm.second ++ "Z"

example : formatTime 1772325296999999999 = "2026-03-01T00:34:56Z" := by decide +kernel

def finiteOrZero : Double → Double
  | .finite value => .finite value
  | .nan | .negInfinity | .posInfinity => .finite 0

def ServiceState.toString : ServiceState → String
  | .active => "active"
  | .inactive => "inactive"
  | .failed => "failed"
  | .activating => "activating"
  | .deactivating => "deactivating"
  | .unknown => "unknown"

def LinkState.toString : LinkState → String
  | .up => "up"
  | .down => "down"
  | .unknown => "unknown"

def TimeSyncSource.toString : TimeSyncSource → String
  | .none => "none"
  | .ntp => "ntp"
  | .ptp => "ptp"

def TimeSyncState.toString : TimeSyncState → String
  | .locked => "locked"
  | .freeRunning => "free_running"
  | .holdover => "holdover"
  | .unknown => "unknown"

def UpdateResult.toString : UpdateResult → String
  | .success => "success"
  | .failed => "failed"
  | .unknown => "unknown"

def Duplex.toString : Duplex → String
  | .full => "full"
  | .half => "half"
  | .unknown => "unknown"

namespace Json

def natural (value : Nat) : Json := .integer value

def time (value : WallTime) : Json := .string (formatTime value)

def severity (value : Severity) : Json := .string value.toString

def texts (values : List String) : Json := .array (values.map .string)

end Json

def optionalMember {Value : Type} (key : String) (value : Option Value) (json : Value → Json) :
    List (String × Json) :=
  match value with
  | some found => [(key, json found)]
  | none => []

def memberIf (key : String) (present : Bool) (json : Json) : List (String × Json) :=
  if present then [(key, json)] else []

def emitFreshness (freshness : SectionFreshness) : List (String × Json) :=
  optionalMember "collected_at" freshness.collectedAt .time ++
    [("stale", Json.boolean freshness.stale)]

def OsInfo.toJson (os : OsInfo) : Json :=
  .object [
    ("distro", .string os.distro),
    ("version", .string os.version),
    ("build_id", .string os.buildId),
    ("kernel", .string os.kernel)]

def DeviceInfo.toJson (device : DeviceInfo) : Json :=
  .object [
    ("device_id", .string device.deviceId),
    ("hostname", .string device.hostname),
    ("platform", .string device.platform),
    ("arch", .string device.arch),
    ("os", device.os.toJson)]

def BootStatus.toJson (boot : BootStatus) : Json :=
  .object ([
    ("boot_id", Json.string boot.bootId),
    ("last_boot_at", .time boot.lastBootAt),
    ("uptime", .integer boot.uptime),
    ("boot_ok", .boolean boot.bootOk),
    ("boot_fail_count", .natural boot.bootFailCount.toNat)] ++
    optionalMember "last_reboot_reason" boot.lastRebootReason .string ++
    emitFreshness boot.freshness)

def ServiceUnit.toJson (text : ByteString → String) (unit : ServiceUnit) : Json :=
  .object ([
    ("name", Json.string unit.name),
    ("state", .string unit.state.toString),
    ("severity", .severity unit.severity),
    ("restart_count", .natural unit.restartCount.toNat)] ++
    optionalMember "since" unit.since .time ++
    optionalMember "result" unit.result .string ++
    optionalMember "detail" unit.detail .string ++
    memberIf "log_excerpt" (!unit.logExcerpt.isEmpty) (.texts (unit.logExcerpt.map text)))

def ServicesStatus.toJson (text : ByteString → String) (services : ServicesStatus) : Json :=
  .object ([
    ("overall", Json.severity services.overall),
    ("units", .array (services.units.map (ServiceUnit.toJson text)))] ++
    emitFreshness services.freshness)

def CpuLoad.toJson (cpu : CpuLoad) : Json :=
  .object [
    ("load1", .float (finiteOrZero cpu.load1)),
    ("load5", .float (finiteOrZero cpu.load5)),
    ("load15", .float (finiteOrZero cpu.load15))]

def MemoryUsage.toJson (memory : MemoryUsage) : Json :=
  .object [
    ("mem_total_mb", .natural memory.memTotalMb.toNat),
    ("mem_used_mb", .natural memory.memUsedMb.toNat),
    ("swap_used_mb", .natural memory.swapUsedMb.toNat)]

def StorageMount.toJson (mount : StorageMount) : Json :=
  .object ([
    ("mount", Json.string mount.mount),
    ("fs", .string mount.fs),
    ("available", .boolean mount.available)] ++
    optionalMember "used_pct" mount.usedPct (fun value => .natural value.toNat) ++
    optionalMember "avail_mb" mount.availMb (fun value => .natural value.toNat))

def ThermalSensor.toJson (sensor : ThermalSensor) : Json :=
  .object ([
    ("sensor", Json.string sensor.sensor),
    ("available", .boolean sensor.available)] ++
    optionalMember "temp_c" sensor.tempC (fun value => .float (finiteOrZero value)))

def NetworkInterface.toJson (iface : NetworkInterface) : Json :=
  .object ([
    ("ifname", Json.string iface.ifname),
    ("link", .string iface.link.toString),
    ("rx_bytes", .natural iface.rxBytes.toNat),
    ("tx_bytes", .natural iface.txBytes.toNat),
    ("rx_packets", .natural iface.rxPackets.toNat),
    ("tx_packets", .natural iface.txPackets.toNat),
    ("rx_dropped", .natural iface.rxDropped.toNat),
    ("tx_dropped", .natural iface.txDropped.toNat),
    ("rx_err", .natural iface.rxErr.toNat),
    ("tx_err", .natural iface.txErr.toNat)] ++
    optionalMember "ip" iface.ip .string ++
    [("carrier", Json.boolean iface.carrier)] ++
    memberIf "mtu" (iface.mtu > 0) (.natural iface.mtu.toNat) ++
    memberIf "mac" (iface.mac != "") (.string iface.mac) ++
    memberIf "operstate" (iface.operstate != "") (.string iface.operstate) ++
    memberIf "carrier_changes" (iface.carrierChanges > 0) (.natural iface.carrierChanges.toNat) ++
    memberIf "carrier_up_count" (iface.carrierUpCount > 0) (.natural iface.carrierUpCount.toNat) ++
    memberIf "carrier_down_count" (iface.carrierDownCount > 0)
      (.natural iface.carrierDownCount.toNat) ++
    optionalMember "speed_mbps" iface.speedMbps (fun value => .natural value.toNat) ++
    optionalMember "duplex" iface.duplex (fun value => .string value.toString))

def ResourcesStatus.toJson (resources : ResourcesStatus) : Json :=
  .object ([
    ("sample_window_sec", Json.natural resources.sampleWindowSec.toNat),
    ("cpu", resources.cpu.toJson),
    ("memory", resources.memory.toJson),
    ("storage", .array (resources.storage.map StorageMount.toJson)),
    ("thermal", .array (resources.thermal.map ThermalSensor.toJson)),
    ("network", .array (resources.network.map NetworkInterface.toJson))] ++
    emitFreshness resources.freshness)

def NtpStatus.toJson (ntp : NtpStatus) : Json :=
  .object ([("enabled", Json.boolean ntp.enabled)] ++
    optionalMember "state" ntp.state (fun value => .string value.toString) ++
    optionalMember "last_sync_at" ntp.lastSyncAt .time)

def PtpStatus.toJson (ptp : PtpStatus) : Json :=
  .object ([("enabled", Json.boolean ptp.enabled)] ++
    optionalMember "interface" ptp.interface .string ++
    optionalMember "offset_ns" ptp.offsetNs .integer ++
    optionalMember "rms_ns" ptp.rmsNs (fun value => .natural value.toNat) ++
    optionalMember "state" ptp.state (fun value => .string value.toString) ++
    optionalMember "last_sync_at" ptp.lastSyncAt .time ++
    optionalMember "role" ptp.role .string)

def RtcStatus.toJson (rtc : RtcStatus) : Json :=
  .object ([("enabled", Json.boolean rtc.enabled)] ++
    if rtc.enabled then
      [("hctosys", Json.boolean rtc.hctosys)] ++
        optionalMember "voltage_mv" rtc.voltageMv (fun value => .natural value.toNat) ++
        optionalMember "drift_sec" rtc.driftSec .integer
    else [])

def TimeSyncStatus.toJson (timeSync : TimeSyncStatus) : Json :=
  .object ([
    ("overall", Json.severity timeSync.overall),
    ("source", .string timeSync.source.toString),
    ("ntp", timeSync.ntp.toJson),
    ("ptp", timeSync.ptp.toJson),
    ("rtc", timeSync.rtc.toJson)] ++
    emitFreshness timeSync.freshness)

def LastUpdate.toJson (update : LastUpdate) : Json :=
  .object ([
    ("id", Json.string update.id),
    ("result", .string update.result.toString)] ++
    optionalMember "installed_at" update.installedAt .time ++
    optionalMember "detail" update.detail .string)

def UpdateStatus.toJson (update : UpdateStatus) : Json :=
  .object ([("overall", Json.severity update.overall)] ++
    optionalMember "active_slot" update.activeSlot .string ++
    optionalMember "last_update" update.lastUpdate LastUpdate.toJson ++
    emitFreshness update.freshness)

def JournalStatus.toJson (text : ByteString → String) (journal : JournalStatus) : Json :=
  .object ([
    ("overall", Json.severity journal.overall),
    ("error_count", .natural journal.errorCount.toNat),
    ("recent_errors", .texts (journal.recentErrors.map text))] ++
    emitFreshness journal.freshness)

def CrashArtifact.toJson (artifact : CrashArtifact) : Json :=
  .object ([
    ("name", Json.string artifact.name),
    ("size_bytes", .natural artifact.sizeBytes.toNat)] ++
    memberIf "kind" (artifact.kind != "") (.string artifact.kind) ++
    optionalMember "mtime" artifact.mtime .time)

-- The panic count and its boot are not part of the document.
def CrashStatus.toJson (crash : CrashStatus) : Json :=
  .object ([
    ("present", Json.boolean crash.present),
    ("artifact_count", .natural crash.artifactCount.toNat),
    ("artifacts", .array (crash.artifacts.map CrashArtifact.toJson)),
    ("acknowledged", .boolean crash.acknowledged)] ++
    optionalMember "source" crash.source .string ++
    optionalMember "last_panic_at" crash.lastPanicAt .time ++
    optionalMember "fingerprint" crash.fingerprint .string ++
    emitFreshness crash.freshness)

def DomainSeverities.toJson (domains : DomainSeverities) : Json :=
  .object [
    ("boot", .severity domains.boot),
    ("services", .severity domains.services),
    ("resources", .severity domains.resources),
    ("time_sync", .severity domains.timeSync),
    ("update", .severity domains.update),
    ("journal", .severity domains.journal),
    ("crash", .severity domains.crash)]

def SnapshotSummary.toJson (summary : SnapshotSummary) : Json :=
  .object ([
    ("severity", Json.severity summary.severity),
    ("domains", summary.domains.toJson),
    ("reasons", .texts summary.reasons)] ++
    optionalMember "notes" summary.notes .string)

def SnapshotState.toJson (text : ByteString → String) (state : SnapshotState) : Json :=
  .object [
    ("schema", .string "edge.health.state"),
    ("schema_version", .string "1.1"),
    ("generated_at", .time state.generatedAt),
    ("cycle", .natural state.cycle.toNat),
    ("device", state.device.toJson),
    ("boot", state.boot.toJson),
    ("services", state.services.toJson text),
    ("resources", state.resources.toJson),
    ("time_sync", state.timeSync.toJson),
    ("update", state.update.toJson),
    ("journal", state.journal.toJson text),
    ("crash", state.crash.toJson),
    ("summary", state.summary.toJson)]

end EdgeHealthd
