import EdgeHealthd.Config
import EdgeHealthd.Json

/-!
Executable `Config::load` and `Config::to_json_string` of `src/config.cpp`. The
text of a file is kept as its parsed value, as for the state files; the
conversions are those of `nlohmann::json::get<T>` for each type the loader asks for.
-/

namespace EdgeHealthd

-- The conversion is undefined in C++ where the truncated value does not fit.
def Double.truncate : Double → Int
  | .finite value => value.num.tdiv value.den
  | .nan | .negInfinity | .posInfinity => 0

/-- The library's own number types convert from numbers alone. -/
def Json.getNumber {Value : Type} (convert : Int → Value) : Json → Option Value
  | .integer value => some (convert value)
  | .float value => some (convert value.truncate)
  | _ => none

/-- Every other arithmetic type converts from booleans as well. -/
def Json.getArithmetic {Value : Type} (convert : Int → Value) : Json → Option Value
  | .boolean value => some (convert (if value then 1 else 0))
  | json => json.getNumber convert

def narrowInt (value : Int) : Int := (Int32.ofInt value).toInt

def Json.getInt : Json → Option Int := Json.getArithmetic narrowInt

def Json.getUint8 : Json → Option UInt8 := Json.getArithmetic UInt8.ofInt

def Json.getUint64 : Json → Option UInt64 := Json.getNumber UInt64.ofInt

def roundHalfEven (value unit : Nat) : Nat :=
  let quotient := value / unit
  let remainder := value % unit
  if 2 * remainder < unit then quotient
  else if unit < 2 * remainder then quotient + 1
  else quotient + quotient % 2

/-- The double nearest to an integer: 53 significant bits, ties to even. -/
def Double.ofInteger (value : Int) : Double :=
  let unit := 1 <<< (value.natAbs.log2 - 52)
  .finite (value.sign * (roundHalfEven value.natAbs unit * unit : Nat))

def Json.getDouble : Json → Option Double
  | .integer value => some (.ofInteger value)
  | .float value => some value
  | _ => none

def Json.getStrings : Json → Option (List String)
  | .array items => items.mapM Json.getString
  | _ => none

def Json.fieldOr {Value : Type} (json : Json) (key : String) (get : Json → Option Value)
    (default : Value) : Except Unit Value :=
  (json.field key get).map fun found => found.getD default

def normalizeLogLevel (level : String) : String := String.ofList (level.toList.map Char.toLower)

def priorityFromString (name : String) : Option Int :=
  let lower := normalizeLogLevel name
  if lower == "emerg" || lower == "panic" then some 0
  else if lower == "alert" then some 1
  else if lower == "crit" || lower == "critical" then some 2
  else if lower == "err" || lower == "error" then some 3
  else if lower == "warning" || lower == "warn" then some 4
  else if lower == "notice" then some 5
  else if lower == "info" || lower == "informational" then some 6
  else if lower == "debug" then some 7
  else none

def Json.getPriority : Json → Option Int
  | .string name => priorityFromString name
  | .integer value =>
      if narrowInt value ≥ 0 && narrowInt value ≤ 7 then some (narrowInt value) else none
  | _ => none

def Config.loadLogExcerpt (config : Config) (le : Json) : Except Unit Config := do
  let maxLines ← le.fieldOr "max_lines" Json.getUint32 config.logExcerptMaxLines
  let windowSec ← le.fieldOr "window_sec" (fun json => json.getUint64.map some)
    config.logExcerptWindowSec
  let scanTimeout ← le.fieldOr "scan_timeout_ms" Json.getInt config.journalScanTimeout
  let bufferMaxEntries ← le.fieldOr "buffer_max_entries" Json.getUint32
    config.journalBufferMaxEntries
  return { config with
    logExcerptMaxLines := maxLines
    logExcerptMinPriority :=
      ((le.find? "min_priority").bind Json.getPriority).or config.logExcerptMinPriority
    logExcerptWindowSec := windowSec
    journalScanTimeout := scanTimeout
    journalBufferMaxEntries := bufferMaxEntries }

def Thresholds.load (thresholds : Thresholds) (t : Json) : Except Unit Thresholds := do
  let cpuLoadWarn ← t.fieldOr "cpu_load_warn" Json.getUint8 thresholds.cpuLoadWarn
  let cpuLoadCrit ← t.fieldOr "cpu_load_crit" Json.getUint8 thresholds.cpuLoadCrit
  let memUsedWarn ← t.fieldOr "mem_used_warn" Json.getUint8 thresholds.memUsedWarn
  let memUsedCrit ← t.fieldOr "mem_used_crit" Json.getUint8 thresholds.memUsedCrit
  let diskUsedWarn ← t.fieldOr "disk_used_warn" Json.getUint8 thresholds.diskUsedWarn
  let diskUsedCrit ← t.fieldOr "disk_used_crit" Json.getUint8 thresholds.diskUsedCrit
  let tempWarnC ← t.fieldOr "temp_warn_c" Json.getDouble thresholds.tempWarnC
  let tempCritC ← t.fieldOr "temp_crit_c" Json.getDouble thresholds.tempCritC
  let serviceRestartWarn ← t.fieldOr "service_restart_warn" Json.getUint32
    thresholds.serviceRestartWarn
  let serviceRestartCrit ← t.fieldOr "service_restart_crit" Json.getUint32
    thresholds.serviceRestartCrit
  let bootFailWarn ← t.fieldOr "boot_fail_warn" Json.getUint32 thresholds.bootFailWarn
  let bootFailCrit ← t.fieldOr "boot_fail_crit" Json.getUint32 thresholds.bootFailCrit
  let ptpOffsetWarnNs ← t.fieldOr "ptp_offset_warn_ns" Json.getUint32 thresholds.ptpOffsetWarnNs
  let ptpOffsetCritNs ← t.fieldOr "ptp_offset_crit_ns" Json.getUint32 thresholds.ptpOffsetCritNs
  let rtcVoltageWarnMv ← t.fieldOr "rtc_voltage_warn_mv" Json.getUint32
    thresholds.rtcVoltageWarnMv
  let rtcVoltageCritMv ← t.fieldOr "rtc_voltage_crit_mv" Json.getUint32
    thresholds.rtcVoltageCritMv
  return { thresholds with
    cpuLoadWarn, cpuLoadCrit, memUsedWarn, memUsedCrit, diskUsedWarn, diskUsedCrit, tempWarnC,
    tempCritC, serviceRestartWarn, serviceRestartCrit, bootFailWarn, bootFailCrit,
    ptpOffsetWarnNs, ptpOffsetCritNs, rtcVoltageWarnMv, rtcVoltageCritMv }

/-- `if (json.contains(key)) { auto& block = json[key]; … }` -/
def Json.block {Value : Type} (json : Json) (key : String) (load : Value → Json → Except Unit Value)
    (value : Value) : Except Unit Value :=
  match json.find? key with
  | none => .ok value
  | some block => load value block

def Config.loadTopLevel (config : Config) (json : Json) : Except Unit Config := do
  let deviceId ← json.fieldOr "device_id" Json.getString config.deviceId
  let platform ← json.fieldOr "platform" Json.getString config.platform
  let snapshotFile ← json.fieldOr "snapshot_file" Json.getString config.snapshotFile
  let stateDir ← json.fieldOr "state_dir" Json.getString config.stateDir
  let collectInterval ← json.fieldOr "collect_interval_sec" Json.getInt config.collectInterval
  let sampleWindowSec ← json.fieldOr "sample_window_sec" Json.getUint32 config.sampleWindowSec
  let timeSyncInterval ← json.fieldOr "time_sync_interval_sec" Json.getInt
    config.timeSyncInterval
  let updateCheckInterval ← json.fieldOr "update_check_interval_sec" Json.getInt
    config.updateCheckInterval
  let triggerMinInterval ← json.fieldOr "trigger_min_interval_sec" Json.getInt
    config.triggerMinInterval
  let monitoredServices ← json.fieldOr "monitored_services" Json.getStrings
    config.monitoredServices
  let monitoredMounts ← json.fieldOr "monitored_mounts" Json.getStrings config.monitoredMounts
  let monitoredInterfaces ← json.fieldOr "monitored_interfaces" Json.getStrings
    config.monitoredInterfaces
  let enableNtp ← json.fieldOr "enable_ntp" Json.getBool config.enableNtp
  let enablePtp ← json.fieldOr "enable_ptp" Json.getBool config.enablePtp
  let enableRtc ← json.fieldOr "enable_rtc" Json.getBool config.enableRtc
  let rtcDevice ← json.fieldOr "rtc_device" Json.getString config.rtcDevice
  let enableThermal ← json.fieldOr "enable_thermal" Json.getBool config.enableThermal
  let enableUpdateTracking ← json.fieldOr "enable_update_tracking" Json.getBool
    config.enableUpdateTracking
  let logLevel ← json.fieldOr "log_level" (fun json => json.getString.map normalizeLogLevel)
    config.logLevel
  let dbusTimeout ← json.fieldOr "dbus_timeout_ms" Json.getInt config.dbusTimeout
  return { config with
    deviceId, platform, snapshotFile, stateDir, collectInterval, sampleWindowSec,
    timeSyncInterval, updateCheckInterval, triggerMinInterval, monitoredServices,
    monitoredMounts, monitoredInterfaces, enableNtp, enablePtp, enableRtc, rtcDevice,
    enableThermal, enableUpdateTracking, logLevel, dbusTimeout }

def Config.loadJson (json : Json) : Except Unit Config := do
  let config ← Config.loadTopLevel {} json
  let config ← json.block "log_excerpt" Config.loadLogExcerpt config
  let thresholds ← json.block "thresholds" Thresholds.load config.thresholds
  return { config with thresholds }

-- A file that does not open or does not parse is an exception, like a wrong type.
def Config.load : StateFile → Except Unit Config
  | .json value => Config.loadJson value
  | .missing | .corrupt => .error ()

-- A double that is not finite is printed as `null`.
def Json.ofDouble : Double → Json
  | .finite value => .float (.finite value)
  | .nan | .negInfinity | .posInfinity => .null

def Json.ofStrings (strings : List String) : Json := .array (strings.map .string)

def Thresholds.toJson (thresholds : Thresholds) : Json :=
  .object [
    ("cpu_load_warn", .integer thresholds.cpuLoadWarn.toNat),
    ("cpu_load_crit", .integer thresholds.cpuLoadCrit.toNat),
    ("mem_used_warn", .integer thresholds.memUsedWarn.toNat),
    ("mem_used_crit", .integer thresholds.memUsedCrit.toNat),
    ("disk_used_warn", .integer thresholds.diskUsedWarn.toNat),
    ("disk_used_crit", .integer thresholds.diskUsedCrit.toNat),
    ("temp_warn_c", .ofDouble thresholds.tempWarnC),
    ("temp_crit_c", .ofDouble thresholds.tempCritC),
    ("service_restart_warn", .integer thresholds.serviceRestartWarn.toNat),
    ("service_restart_crit", .integer thresholds.serviceRestartCrit.toNat),
    ("boot_fail_warn", .integer thresholds.bootFailWarn.toNat),
    ("boot_fail_crit", .integer thresholds.bootFailCrit.toNat),
    ("ptp_offset_warn_ns", .integer thresholds.ptpOffsetWarnNs.toNat),
    ("ptp_offset_crit_ns", .integer thresholds.ptpOffsetCritNs.toNat),
    ("rtc_voltage_warn_mv", .integer thresholds.rtcVoltageWarnMv.toNat),
    ("rtc_voltage_crit_mv", .integer thresholds.rtcVoltageCritMv.toNat)]

def Json.optionalMember (key : String) : Option Json → List (String × Json)
  | some value => [(key, value)]
  | none => []

def Config.logExcerptJson (config : Config) : Json :=
  .object (
    ("max_lines", .integer config.logExcerptMaxLines.toNat) ::
    Json.optionalMember "min_priority" (config.logExcerptMinPriority.map Json.integer) ++
    Json.optionalMember "window_sec"
      (config.logExcerptWindowSec.map fun window => Json.integer window.toNat) ++
    [("scan_timeout_ms", Json.integer config.journalScanTimeout),
      ("buffer_max_entries", Json.integer config.journalBufferMaxEntries.toNat)])

/-- What a parser reads from the text of `to_json_string`. -/
def Config.toJson (config : Config) : Json :=
  .object [
    ("device_id", .string config.deviceId),
    ("platform", .string config.platform),
    ("snapshot_file", .string config.snapshotFile),
    ("state_dir", .string config.stateDir),
    ("collect_interval_sec", .integer config.collectInterval),
    ("sample_window_sec", .integer config.sampleWindowSec.toNat),
    ("time_sync_interval_sec", .integer config.timeSyncInterval),
    ("update_check_interval_sec", .integer config.updateCheckInterval),
    ("trigger_min_interval_sec", .integer config.triggerMinInterval),
    ("log_level", .string config.logLevel),
    ("dbus_timeout_ms", .integer config.dbusTimeout),
    ("monitored_services", .ofStrings config.monitoredServices),
    ("monitored_mounts", .ofStrings config.monitoredMounts),
    ("monitored_interfaces", .ofStrings config.monitoredInterfaces),
    ("enable_ntp", .boolean config.enableNtp),
    ("enable_ptp", .boolean config.enablePtp),
    ("enable_rtc", .boolean config.enableRtc),
    ("rtc_device", .string config.rtcDevice),
    ("enable_thermal", .boolean config.enableThermal),
    ("enable_update_tracking", .boolean config.enableUpdateTracking),
    ("thresholds", config.thresholds.toJson),
    ("log_excerpt", config.logExcerptJson)]

end EdgeHealthd
