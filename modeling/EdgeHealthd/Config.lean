import EdgeHealthd.Types

/-!
Configuration record, its defaults and `Config::validate`, following
`inc/config.hpp` and `src/config.cpp`. Durations are signed counts in the unit
of the source field.
-/

namespace EdgeHealthd

structure Thresholds where
  cpuLoadWarn : UInt8 := 80
  cpuLoadCrit : UInt8 := 95
  memUsedWarn : UInt8 := 80
  memUsedCrit : UInt8 := 95
  diskUsedWarn : UInt8 := 80
  diskUsedCrit : UInt8 := 95
  tempWarnC : Double := .finite 70
  tempCritC : Double := .finite 85
  serviceRestartWarn : UInt32 := 3
  serviceRestartCrit : UInt32 := 10
  bootFailWarn : UInt32 := 1
  bootFailCrit : UInt32 := 3
  ptpOffsetWarnNs : UInt32 := 10000
  ptpOffsetCritNs : UInt32 := 100000
  rtcVoltageWarnMv : UInt32 := 2700
  rtcVoltageCritMv : UInt32 := 2500
  deriving DecidableEq

structure Config where
  deviceId : String := ""
  platform : String := ""
  snapshotFile : String := "/run/health/state.json"
  stateDir : String := "/data/edge/health"
  collectInterval : Int := 60
  sampleWindowSec : UInt32 := 60
  timeSyncInterval : Int := 300
  updateCheckInterval : Int := 1800
  triggerMinInterval : Int := 5
  monitoredServices : List String := ["sshd.socket", "NetworkManager.service"]
  monitoredMounts : List String := ["/", "/data"]
  monitoredInterfaces : List String := ["eth0", "eth1"]
  enableNtp : Bool := true
  enablePtp : Bool := false
  enableRtc : Bool := true
  rtcDevice : String := "/sys/class/rtc/rtc0"
  enableThermal : Bool := true
  enableUpdateTracking : Bool := true
  thresholds : Thresholds := {}
  dbusTimeout : Int := 2000
  logLevel : String := "info"
  logExcerptMaxLines : UInt32 := 20
  logExcerptMinPriority : Option Int := none
  logExcerptWindowSec : Option UInt64 := none
  journalScanTimeout : Int := 3000
  journalBufferMaxEntries : UInt32 := 1000
  deriving DecidableEq

def isValidLogLevel (level : String) : Bool :=
  level == "debug" || level == "info" || level == "warn" || level == "error"

def Config.validate (config : Config) : Option String :=
  let thresholds := config.thresholds
  if config.collectInterval < 1 then
    some "collect_interval must be at least 1 second"
  else if config.timeSyncInterval < 1 then
    some "time_sync_interval_sec must be at least 1"
  else if config.updateCheckInterval < 1 then
    some "update_check_interval_sec must be at least 1"
  else if config.triggerMinInterval < 0 then
    some "trigger_min_interval_sec must be >= 0 (0 disables rate-limiting)"
  else if !isValidLogLevel config.logLevel then
    some "log_level must be one of: debug, info, warn, error"
  else if config.dbusTimeout < 1 then
    some "dbus_timeout_ms must be at least 1"
  else if config.logExcerptMaxLines == 0 || config.logExcerptMaxLines > 1000 then
    some "log_excerpt.max_lines must be between 1 and 1000"
  else if config.journalScanTimeout < 100 then
    some "log_excerpt.scan_timeout_ms must be at least 100"
  else if config.journalBufferMaxEntries > 100000 then
    some "log_excerpt.buffer_max_entries must be at most 100000"
  else if thresholds.cpuLoadWarn ≥ thresholds.cpuLoadCrit then
    some "cpu_load_warn must be less than cpu_load_crit"
  else if thresholds.memUsedWarn ≥ thresholds.memUsedCrit then
    some "mem_used_warn must be less than mem_used_crit"
  else if thresholds.diskUsedWarn ≥ thresholds.diskUsedCrit then
    some "disk_used_warn must be less than disk_used_crit"
  else if thresholds.tempWarnC.ge thresholds.tempCritC then
    some "temp_warn_c must be less than temp_crit_c"
  else
    none

theorem ite_some_eq_none_iff {Value : Type} {condition : Prop} [Decidable condition]
    (value : Value) (rest : Option Value) :
    (if condition then some value else rest) = none ↔ ¬condition ∧ rest = none := by
  by_cases holds : condition
  · simp [holds]
  · simp [holds]

theorem validate_intervals (config : Config) (valid : config.validate = none) :
    1 ≤ config.collectInterval ∧ 1 ≤ config.timeSyncInterval ∧
      1 ≤ config.updateCheckInterval ∧ 0 ≤ config.triggerMinInterval := by
  simp only [Config.validate, ite_some_eq_none_iff] at valid
  obtain ⟨collect, timeSync, update, trigger, _⟩ := valid
  omega

theorem validate_thresholds (config : Config) (valid : config.validate = none) :
    config.thresholds.cpuLoadWarn < config.thresholds.cpuLoadCrit ∧
      config.thresholds.memUsedWarn < config.thresholds.memUsedCrit ∧
      config.thresholds.diskUsedWarn < config.thresholds.diskUsedCrit := by
  simp only [Config.validate, ite_some_eq_none_iff] at valid
  obtain ⟨_, _, _, _, _, _, _, _, _, cpu, memory, disk, _⟩ := valid
  exact ⟨UInt8.not_le.mp cpu, UInt8.not_le.mp memory, UInt8.not_le.mp disk⟩

example : ({} : Config).validate = none := by decide

end EdgeHealthd
