import EdgeHealthd.Config

/-!
Executable severity evaluation of `src/aggregator.cpp`. The percentage behind
the CPU classification is floating point over the machine's core count, so the
definitions take it as the parameter `loadPct`.
-/

namespace EdgeHealthd

def severityRank : Severity → Nat
  | .unknown => 0
  | .ok => 1
  | .stale => 2
  | .unavailable => 3
  | .warn => 4
  | .crit => 5

def worstFrom : List Severity → Severity → Int → Severity
  | [], worst, _ => worst
  | severity :: rest, worst, worstRank =>
      if (severityRank severity : Int) > worstRank then
        worstFrom rest severity (severityRank severity)
      else
        worstFrom rest worst worstRank

def worstOf (severities : List Severity) : Severity :=
  worstFrom severities .unknown (-1)

section Evaluate

variable (config : Config) (loadPct : CpuLoad → Double)

def evaluateBoot (boot : BootStatus) : Severity :=
  if boot.bootFailCount ≥ config.thresholds.bootFailCrit then .crit
  else if boot.bootFailCount ≥ config.thresholds.bootFailWarn then .warn
  else if !boot.bootOk then .warn
  else .ok

def evaluateServices (services : ServicesStatus) : Severity := services.overall

def evaluateCpu (cpu : CpuLoad) : Severity :=
  if (loadPct cpu).ge (.finite config.thresholds.cpuLoadCrit.toNat) then .crit
  else if (loadPct cpu).ge (.finite config.thresholds.cpuLoadWarn.toNat) then .warn
  else .ok

def memoryPct (memory : MemoryUsage) : UInt64 :=
  memory.memUsedMb * 100 / memory.memTotalMb

def evaluateMemory (memory : MemoryUsage) : Severity :=
  if memory.memTotalMb == 0 then .unknown
  else if memoryPct memory ≥ config.thresholds.memUsedCrit.toUInt64 then .crit
  else if memoryPct memory ≥ config.thresholds.memUsedWarn.toUInt64 then .warn
  else .ok

/-- One iteration of the disk and thermal loops: an element without a reading
is unavailable, the others raise `worst` by threshold. -/
def escalate {Reading : Type} (atCrit atWarn : Reading → Bool) (worst : Severity)
    (available : Bool) (reading : Option Reading) : Severity :=
  match available, reading with
  | true, some value =>
      if atCrit value then worstOf [worst, .crit]
      else if atWarn value then worstOf [worst, .warn]
      else worst
  | _, _ => worstOf [worst, .unavailable]

def evaluateDisk (storage : List StorageMount) : Severity :=
  storage.foldl (fun worst mount =>
    escalate (fun usedPct => usedPct ≥ config.thresholds.diskUsedCrit)
      (fun usedPct => usedPct ≥ config.thresholds.diskUsedWarn)
      worst mount.available mount.usedPct) .ok

def evaluateThermal (thermal : List ThermalSensor) : Severity :=
  thermal.foldl (fun worst sensor =>
    escalate (fun tempC => tempC.ge config.thresholds.tempCritC)
      (fun tempC => tempC.ge config.thresholds.tempWarnC)
      worst sensor.available sensor.tempC) .ok

def evaluateResources (resources : ResourcesStatus) : Severity :=
  worstOf [evaluateCpu config loadPct resources.cpu, evaluateMemory config resources.memory,
    evaluateDisk config resources.storage, evaluateThermal config resources.thermal]

def evaluateTimeSync (timeSync : TimeSyncStatus) : Severity := timeSync.overall

def evaluateUpdate (update : UpdateStatus) : Severity := update.overall

def evaluateJournal (journal : JournalStatus) : Severity := journal.overall

def evaluateCrash (crash : CrashStatus) : Severity :=
  if crash.panicCount == 0 then .ok
  else if crash.acknowledged then .ok
  else if crash.panicCurrentBoot then .crit
  else .warn

def computeOverall (boot services resources timeSync update journal crash : Severity) : Severity :=
  worstOf [boot, services, resources, timeSync, update, journal, crash]

def generateReasons (boot : BootStatus) (services : ServicesStatus) (resources : ResourcesStatus)
    (timeSync : TimeSyncStatus) (update : UpdateStatus) (journal : JournalStatus)
    (crash : CrashStatus) : List String :=
  let thresholds := config.thresholds
  (if boot.bootFailCount > 0 then ["boot_failures"] else []) ++
  (services.units.filterMap fun unit =>
    if unit.state == .failed then some ("svc_failed:" ++ unit.name) else none) ++
  (if resources.memory.memTotalMb > 0 &&
      memoryPct resources.memory ≥ thresholds.memUsedWarn.toUInt64 then
    ["mem_used_high"] else []) ++
  (resources.storage.filterMap fun mount =>
    -- An absent reading compares below every threshold.
    if mount.usedPct.any (· ≥ thresholds.diskUsedWarn) then
      some ("disk_used_high:" ++ mount.mount) else none) ++
  (resources.thermal.filterMap fun sensor =>
    if sensor.tempC.any (·.ge thresholds.tempWarnC) then
      some (if sensor.sensor != "" then "temp_high:" ++ sensor.sensor else "temp_high")
    else none) ++
  (if timeSync.source == .none then ["time_unsynced"] else []) ++
  (if timeSync.rtc.enabled && timeSync.rtc.voltageMv.any (· < thresholds.rtcVoltageWarnMv) then
    ["rtc_battery_low"] else []) ++
  (if update.lastUpdate.any (·.result == .failed) then ["update_failed"] else []) ++
  (if journal.overall == .warn || journal.overall == .crit then ["journal_errors"] else []) ++
  (if crash.panicCount > 0 && !crash.acknowledged && crash.panicCurrentBoot then
    ["kernel_panic_detected"]
  else if crash.panicCount > 0 then ["historical_crash_artifacts"] else []) ++
  (if crash.present then ["pstore_records_present"] else [])

def raiseStale (freshness : SectionFreshness) (severity : Severity) : Severity :=
  if freshness.stale then worstOf [severity, .stale] else severity

def aggregate (generatedAt : WallTime) (device : DeviceInfo) (boot : BootStatus)
    (services : ServicesStatus) (resources : ResourcesStatus) (timeSync : TimeSyncStatus)
    (update : UpdateStatus) (journal : JournalStatus) (crash : CrashStatus) : SnapshotState :=
  let domains : DomainSeverities := {
    boot := raiseStale boot.freshness (evaluateBoot config boot)
    services := raiseStale services.freshness (evaluateServices services)
    resources := raiseStale resources.freshness (evaluateResources config loadPct resources)
    timeSync := raiseStale timeSync.freshness (evaluateTimeSync timeSync)
    update := raiseStale update.freshness (evaluateUpdate update)
    journal := raiseStale journal.freshness (evaluateJournal journal)
    crash := raiseStale crash.freshness (evaluateCrash crash)
  }
  { generatedAt, device, boot, services, resources, timeSync, update, journal, crash
    summary := {
      severity := computeOverall domains.boot domains.services domains.resources
        domains.timeSync domains.update domains.journal domains.crash
      domains
      reasons := generateReasons config boot services resources timeSync update journal crash
    } }

end Evaluate

end EdgeHealthd
