import EdgeHealthd.Probes

/-!
Which domains the reasons of a summary speak about. Severities and reasons come
from two passes over the same sections; here the conditions of the two are
compared domain by domain.
-/

namespace EdgeHealthd

def reasonCode (reason : String) : List Char := reason.toList.takeWhile (· != ':')

def reasonDomain (reason : String) : Option Domain :=
  let code := reasonCode reason
  let startsWith := fun (word : String) => word.toList.isPrefixOf code
  if code == "boot_failures".toList then some .boot
  else if startsWith "svc_" then some .services
  else if startsWith "cpu" || startsWith "mem" || startsWith "disk" || startsWith "temp" then
    some .resources
  else if code == "time_unsynced".toList || code == "rtc_battery_low".toList then some .timeSync
  else if code == "update_failed".toList then some .update
  else if code == "journal_errors".toList then some .journal
  else if code == "kernel_panic_detected".toList ||
      code == "historical_crash_artifacts".toList then some .crash
  else none

def Names (domain : Domain) (reasons : List String) : Prop :=
  ∃ reason ∈ reasons, reasonDomain reason = some domain

def DegradedAreNamed (summary : SnapshotSummary) : Prop :=
  ∀ domain, (summary.domains.get domain).isDegraded = true → Names domain summary.reasons

theorem takeWhile_code {code : List Char} (rest : List Char) (plain : ':' ∉ code) :
    (code ++ rest).takeWhile (· != ':') = code ++ rest.takeWhile (· != ':') := by
  apply List.takeWhile_append_of_pos
  intro ch member
  rw [bne_iff_ne]
  rintro rfl
  exact plain member

theorem reasonDomain_subject (code subject : String) (plain : ':' ∉ code.toList) :
    reasonDomain (code ++ ":" ++ subject) = reasonDomain code := by
  have bare := takeWhile_code [] plain
  have joined := takeWhile_code (":" ++ subject).toList plain
  have same : reasonCode (code ++ ":" ++ subject) = reasonCode code := by
    rw [reasonCode, reasonCode, String.append_assoc, String.toList_append, joined]
    simpa using bare.symm
  simp only [reasonDomain, same]

theorem names_append (domain : Domain) (first second : List String) :
    Names domain (first ++ second) ↔ Names domain first ∨ Names domain second := by
  simp only [Names, List.mem_append, or_and_right, exists_or]

theorem names_nil (domain : Domain) : ¬Names domain [] := by
  simp [Names]

theorem names_if {domain : Domain} {condition : Prop} [Decidable condition] (reason : String)
    (rest : List String) :
    Names domain (if condition then [reason] else rest) ↔
      condition ∧ reasonDomain reason = some domain ∨ ¬condition ∧ Names domain rest := by
  by_cases holds : condition
  · simp [Names, holds]
  · simp [holds]

theorem mem_filterMap_if {Item : Type} (flagged : Item → Bool) (reason : Item → String)
    (items : List Item) (other : String) :
    (other ∈ items.filterMap fun item =>
        if flagged item = true then some (reason item) else none) ↔
      ∃ item ∈ items, flagged item = true ∧ reason item = other := by
  simp only [List.mem_filterMap, Option.ite_none_right_eq_some, Option.some.injEq]

theorem names_filterMap {Item : Type} {domain : Domain} (flagged : Item → Bool)
    (reason : Item → String) (owner : Domain)
    (owned : ∀ item, reasonDomain (reason item) = some owner) (items : List Item) :
    Names domain (items.filterMap fun item =>
        if flagged item = true then some (reason item) else none) ↔
      (∃ item ∈ items, flagged item = true) ∧ owner = domain := by
  simp only [Names, mem_filterMap_if]
  constructor
  · rintro ⟨_, ⟨item, member, flag, rfl⟩, spoken⟩
    exact ⟨⟨item, member, flag⟩, Option.some.inj ((owned item).symm.trans spoken)⟩
  · rintro ⟨⟨item, member, flag⟩, same⟩
    exact ⟨reason item, ⟨item, member, flag, rfl⟩, same ▸ owned item⟩

theorem reasonDomain_svcFailed (name : String) :
    reasonDomain ("svc_failed:" ++ name) = some .services :=
  (reasonDomain_subject "svc_failed" name (by decide)).trans (by decide)

theorem reasonDomain_diskUsedHigh (mount : String) :
    reasonDomain ("disk_used_high:" ++ mount) = some .resources :=
  (reasonDomain_subject "disk_used_high" mount (by decide)).trans (by decide)

theorem reasonDomain_tempHigh (sensor : String) :
    reasonDomain (if sensor != "" then "temp_high:" ++ sensor else "temp_high") =
      some .resources := by
  split
  · exact (reasonDomain_subject "temp_high" sensor (by decide)).trans (by decide)
  · decide

section Reasons

variable (config : Config)

def memoryFlagged (memory : MemoryUsage) : Bool :=
  memory.memTotalMb > 0 && memoryPct memory ≥ config.thresholds.memUsedWarn.toUInt64

def mountFlagged (mount : StorageMount) : Bool :=
  mount.usedPct.any (· ≥ config.thresholds.diskUsedWarn)

def sensorFlagged (sensor : ThermalSensor) : Bool :=
  sensor.tempC.any (·.ge config.thresholds.tempWarnC)

def batteryFlagged (rtc : RtcStatus) : Bool :=
  rtc.enabled && rtc.voltageMv.any (· < config.thresholds.rtcVoltageWarnMv)

def Flagged (sections : SnapshotState) : Domain → Prop
  | .boot => sections.boot.bootFailCount > 0
  | .services => ∃ unit ∈ sections.services.units, (unit.state == .failed) = true
  | .resources => memoryFlagged config sections.resources.memory = true ∨
      (∃ mount ∈ sections.resources.storage, mountFlagged config mount = true) ∨
      ∃ sensor ∈ sections.resources.thermal, sensorFlagged config sensor = true
  | .timeSync => sections.timeSync.source = .none ∨
      batteryFlagged config sections.timeSync.rtc = true
  | .update => sections.update.lastUpdate.any (·.result == .failed) = true
  | .journal => sections.journal.overall.isDegraded = true
  | .crash => sections.crash.panicCount > 0

def SnapshotState.reasons (sections : SnapshotState) : List String :=
  generateReasons config sections.boot sections.services sections.resources sections.timeSync
    sections.update sections.journal sections.crash

theorem reasons_eq (sections : SnapshotState) :
    sections.reasons config =
      (if sections.boot.bootFailCount > 0 then ["boot_failures"] else []) ++
      (sections.services.units.filterMap fun unit =>
        if (unit.state == .failed) = true then some ("svc_failed:" ++ unit.name) else none) ++
      (if memoryFlagged config sections.resources.memory = true then ["mem_used_high"] else []) ++
      (sections.resources.storage.filterMap fun mount =>
        if mountFlagged config mount = true then some ("disk_used_high:" ++ mount.mount)
        else none) ++
      (sections.resources.thermal.filterMap fun sensor =>
        if sensorFlagged config sensor = true then
          some (if sensor.sensor != "" then "temp_high:" ++ sensor.sensor else "temp_high")
        else none) ++
      (if sections.timeSync.source == .none then ["time_unsynced"] else []) ++
      (if batteryFlagged config sections.timeSync.rtc = true then ["rtc_battery_low"] else []) ++
      (if sections.update.lastUpdate.any (·.result == .failed) then ["update_failed"] else []) ++
      (if sections.journal.overall == .warn || sections.journal.overall == .crit then
        ["journal_errors"] else []) ++
      (if sections.crash.panicCount > 0 && !sections.crash.acknowledged &&
          sections.crash.panicCurrentBoot then ["kernel_panic_detected"]
      else if sections.crash.panicCount > 0 then ["historical_crash_artifacts"] else []) ++
      (if sections.crash.present then ["pstore_records_present"] else []) := rfl

theorem reasons_names_iff (sections : SnapshotState) (domain : Domain) :
    Names domain (sections.reasons config) ↔ Flagged config sections domain := by
  have units := @names_filterMap ServiceUnit domain (fun unit => unit.state == .failed)
    (fun unit => "svc_failed:" ++ unit.name) .services
    (fun unit => reasonDomain_svcFailed unit.name) sections.services.units
  have mounts := @names_filterMap StorageMount domain (mountFlagged config)
    (fun mount => "disk_used_high:" ++ mount.mount) .resources
    (fun mount => reasonDomain_diskUsedHigh mount.mount) sections.resources.storage
  have sensors := @names_filterMap ThermalSensor domain (sensorFlagged config)
    (fun sensor => if sensor.sensor != "" then "temp_high:" ++ sensor.sensor else "temp_high")
    .resources (fun sensor => reasonDomain_tempHigh sensor.sensor) sections.resources.thermal
  have boot : reasonDomain "boot_failures" = some .boot := by decide
  have memory : reasonDomain "mem_used_high" = some .resources := by decide
  have unsynced : reasonDomain "time_unsynced" = some .timeSync := by decide
  have battery : reasonDomain "rtc_battery_low" = some .timeSync := by decide
  have update : reasonDomain "update_failed" = some .update := by decide
  have journal : reasonDomain "journal_errors" = some .journal := by decide
  have panic : reasonDomain "kernel_panic_detected" = some .crash := by decide
  have historical : reasonDomain "historical_crash_artifacts" = some .crash := by decide
  have pstore : reasonDomain "pstore_records_present" = none := by decide
  simp only [reasons_eq, names_append, names_if, names_nil, units, mounts, sensors, boot, memory,
    unsynced, battery, update, journal, panic, historical, pstore, Option.some.injEq,
    reduceCtorEq, and_false, or_false]
  cases domain with
  | boot => simp [Flagged]
  | services => simp [Flagged]
  | resources => simp [Flagged, or_assoc]
  | timeSync => simp [Flagged]
  | update => simp [Flagged]
  | journal => simp [Flagged, isDegraded_iff_eq]
  | crash =>
      by_cases panics : sections.crash.panicCount > 0
      · cases sections.crash.acknowledged <;> cases sections.crash.panicCurrentBoot <;>
          simp [Flagged, panics]
      · simp [Flagged, panics]

end Reasons

theorem raiseStale_isDegraded (freshness : SectionFreshness) (severity : Severity) :
    (raiseStale freshness severity).isDegraded = severity.isDegraded := by
  unfold raiseStale
  split
  · cases severity <;> rfl
  · rfl

theorem Double.ge_of_ge_finite {value : Double} {low high : Rat}
    (above : value.ge (.finite high) = true) (below : low ≤ high) :
    value.ge (.finite low) = true := by
  cases value with
  | nan => cases above
  | negInfinity => cases above
  | posInfinity => rfl
  | finite value =>
      simp only [Double.ge, decide_eq_true_eq] at above ⊢
      exact Rat.le_trans below above

theorem elementClass_degraded_iff {Reading : Type} (atCrit atWarn : Reading → Bool)
    (available : Bool) (reading : Option Reading) :
    (elementClass atCrit atWarn available reading).isDegraded = true ↔
      available = true ∧ (reading.any atCrit = true ∨ reading.any atWarn = true) := by
  cases available with
  | false => simp [elementClass, Severity.isDegraded]
  | true =>
      cases reading with
      | none => simp [elementClass, Severity.isDegraded]
      | some value =>
          by_cases crit : atCrit value = true
          · simp [elementClass, crit, Severity.isDegraded]
          · by_cases warn : atWarn value = true
            · simp [elementClass, crit, warn, Severity.isDegraded]
            · simp [elementClass, crit, warn, Severity.isDegraded]

section Evaluators

variable (config : Config) (loadPct : CpuLoad → Double)

def cpuFlagged (cpu : CpuLoad) : Bool :=
  (loadPct cpu).ge (.finite config.thresholds.cpuLoadWarn.toNat)

theorem evaluateCpu_degraded_iff (valid : config.validate = none) (cpu : CpuLoad) :
    (evaluateCpu config loadPct cpu).isDegraded = true ↔
      cpuFlagged config loadPct cpu = true := by
  have order : (config.thresholds.cpuLoadWarn.toNat : Rat) ≤ config.thresholds.cpuLoadCrit.toNat :=
    Rat.natCast_le_natCast.mpr (Nat.le_of_lt (validate_thresholds config valid).1)
  unfold evaluateCpu cpuFlagged
  by_cases crit : (loadPct cpu).ge (.finite config.thresholds.cpuLoadCrit.toNat) = true
  · simp [crit, Severity.isDegraded, Double.ge_of_ge_finite crit order]
  · by_cases warn : (loadPct cpu).ge (.finite config.thresholds.cpuLoadWarn.toNat) = true
    · simp [crit, warn, Severity.isDegraded]
    · simp [crit, warn, Severity.isDegraded]

theorem evaluateMemory_degraded_iff (valid : config.validate = none) (memory : MemoryUsage) :
    (evaluateMemory config memory).isDegraded = true ↔ memoryFlagged config memory = true := by
  have order : config.thresholds.memUsedWarn.toUInt64 ≤ config.thresholds.memUsedCrit.toUInt64 := by
    have less := (validate_thresholds config valid).2.1
    rw [UInt64.le_iff_toNat_le, UInt8.toNat_toUInt64, UInt8.toNat_toUInt64]
    exact Nat.le_of_lt less
  unfold evaluateMemory memoryFlagged
  by_cases empty : memory.memTotalMb = 0
  · simp [empty, Severity.isDegraded]
  · have present : memory.memTotalMb > 0 := UInt64.pos_iff_ne_zero.mpr empty
    by_cases crit : config.thresholds.memUsedCrit.toUInt64 ≤ memoryPct memory
    · simp [empty, present, crit, Severity.isDegraded, UInt64.le_trans order crit]
    · by_cases warn : config.thresholds.memUsedWarn.toUInt64 ≤ memoryPct memory
      · simp [empty, present, crit, warn, Severity.isDegraded]
      · simp [empty, present, crit, warn, Severity.isDegraded]

theorem mountClass_degraded_iff (valid : config.validate = none) (mount : StorageMount) :
    (mountClass config mount).isDegraded = true ↔
      mount.available = true ∧ mountFlagged config mount = true := by
  have less := (validate_thresholds config valid).2.2
  rw [mountClass, elementClass_degraded_iff]
  cases reading : mount.usedPct with
  | none => simp [mountFlagged, reading]
  | some usedPct =>
      simp only [mountFlagged, reading, Option.any_some, decide_eq_true_eq]
      constructor
      · rintro ⟨available, crit | warn⟩
        · exact ⟨available, UInt8.le_trans (UInt8.le_of_lt less) crit⟩
        · exact ⟨available, warn⟩
      · rintro ⟨available, warn⟩
        exact ⟨available, Or.inr warn⟩

def sensorCritical (sensor : ThermalSensor) : Bool :=
  sensor.tempC.any (·.ge config.thresholds.tempCritC)

theorem sensorClass_degraded_iff (sensor : ThermalSensor) :
    (sensorClass config sensor).isDegraded = true ↔
      sensor.available = true ∧
        (sensorCritical config sensor = true ∨ sensorFlagged config sensor = true) :=
  elementClass_degraded_iff _ _ _ _

theorem evaluateResources_degraded_iff (valid : config.validate = none)
    (resources : ResourcesStatus) :
    (evaluateResources config loadPct resources).isDegraded = true ↔
      cpuFlagged config loadPct resources.cpu = true ∨
        memoryFlagged config resources.memory = true ∨
        (∃ mount ∈ resources.storage, mount.available = true ∧ mountFlagged config mount = true) ∨
        ∃ sensor ∈ resources.thermal, sensor.available = true ∧
          (sensorCritical config sensor = true ∨ sensorFlagged config sensor = true) := by
  have greatest := evaluateResources_isGreatest config loadPct resources
  have reached : (evaluateResources config loadPct resources).isDegraded = true ↔
      ∃ severity ∈ resourceClasses config loadPct resources, severity.isDegraded = true := by
    constructor
    · intro degraded
      exact ⟨_, greatest.1, degraded⟩
    · rintro ⟨severity, member, degraded⟩
      rw [isDegraded_iff] at degraded ⊢
      exact le_trans degraded (greatest.2 member)
  rw [reached, ← evaluateCpu_degraded_iff config loadPct valid,
    ← evaluateMemory_degraded_iff config valid]
  simp only [← mountClass_degraded_iff config valid, ← sensorClass_degraded_iff]
  have calm : (Severity.ok.isDegraded = true) = False := by simp [Severity.isDegraded]
  simp only [resourceClasses, Set.mem_union, Set.mem_insert_iff, Set.mem_singleton_iff,
    or_and_right, exists_or, exists_eq_left, Rollup.exists_mem_grades, calm, false_or, or_assoc]

end Evaluators

section Comparison

variable (config : Config) (loadPct : CpuLoad → Double)

/-- The sections in which no domain is degraded by something that only the
evaluators look at. -/
structure Explained (sections : SnapshotState) : Prop where
  boot : sections.boot.bootFailCount > 0 ∨
    config.thresholds.bootFailWarn > 0 ∧ config.thresholds.bootFailCrit > 0
  services : (∃ unit ∈ sections.services.units, unit.state = .failed) ∨
    sections.services.overall = .unknown ∨
    ∀ unit ∈ sections.services.units, unit.state ≠ .inactive ∧
      unit.restartCount < config.thresholds.serviceRestartWarn ∧
      unit.restartCount < config.thresholds.serviceRestartCrit
  resources : Flagged config sections .resources ∨
    cpuFlagged config loadPct sections.resources.cpu = false ∧
      ∀ sensor ∈ sections.resources.thermal, sensor.available = true →
        sensorCritical config sensor = false
  timeSync : sections.timeSync.source = .none ∨
    ∀ voltage, sections.timeSync.rtc.voltageMv = some voltage →
      voltage < config.thresholds.rtcVoltageCritMv → voltage < config.thresholds.rtcVoltageWarnMv

variable {config} {sections : SnapshotState}

theorem SectionsReturned.bootOk (returned : SectionsReturned config sections) :
    sections.boot.bootOk = (sections.boot.bootFailCount == 0) := by
  refine returned.holds .boot (fun boot => boot.bootOk = (boot.bootFailCount == 0))
    (fun _ => Iff.rfl) rfl ?_
  rintro payload ⟨file, bootId, uptime, now, saved, rfl⟩
  rfl

theorem SectionsReturned.boot_explained_iff (returned : SectionsReturned config sections) :
    ((evaluateBoot config sections.boot).isDegraded = true →
        sections.boot.bootFailCount > 0) ↔
      sections.boot.bootFailCount > 0 ∨
        config.thresholds.bootFailWarn > 0 ∧ config.thresholds.bootFailCrit > 0 := by
  by_cases failures : sections.boot.bootFailCount > 0
  · simp [failures]
  have none : sections.boot.bootFailCount = 0 := by
    by_contra nonzero
    exact failures (UInt32.pos_iff_ne_zero.mpr nonzero)
  have bootOk := returned.bootOk
  rw [none] at bootOk
  simp only [evaluateBoot, none, bootOk, gt_iff_lt, UInt32.lt_irrefl, false_or, imp_false,
    ge_iff_le, UInt32.le_zero_iff, UInt32.pos_iff_ne_zero]
  by_cases crit : config.thresholds.bootFailCrit = 0
  · simp [crit, Severity.isDegraded]
  · by_cases warn : config.thresholds.bootFailWarn = 0
    · simp [crit, warn, Severity.isDegraded]
    · simp [crit, warn, Severity.isDegraded]

theorem SectionsReturned.services_degraded (returned : SectionsReturned config sections) :
    sections.services.overall = .unknown ∨
      (sections.services.overall.isDegraded = true ↔ ∃ unit ∈ sections.services.units,
        unit.state = .failed ∨ unit.state = .inactive ∨
          config.thresholds.serviceRestartWarn ≤ unit.restartCount ∨
          config.thresholds.serviceRestartCrit ≤ unit.restartCount) :=
  returned.holds .services (fun services => services.overall = .unknown ∨
      (services.overall.isDegraded = true ↔ ∃ unit ∈ services.units,
        unit.state = .failed ∨ unit.state = .inactive ∨
          config.thresholds.serviceRestartWarn ≤ unit.restartCount ∨
          config.thresholds.serviceRestartCrit ≤ unit.restartCount))
    (fun _ => Iff.rfl) (Or.inl rfl) (fun _ => servicesReturned_degraded config)

theorem SectionsReturned.services_explained_iff (returned : SectionsReturned config sections) :
    (sections.services.overall.isDegraded = true → Flagged config sections .services) ↔
      (∃ unit ∈ sections.services.units, unit.state = .failed) ∨
        sections.services.overall = .unknown ∨
        ∀ unit ∈ sections.services.units, unit.state ≠ .inactive ∧
          unit.restartCount < config.thresholds.serviceRestartWarn ∧
          unit.restartCount < config.thresholds.serviceRestartCrit := by
  have degraded := returned.services_degraded
  have flagged : Flagged config sections .services ↔
      ∃ unit ∈ sections.services.units, unit.state = .failed := by
    simp only [Flagged, beq_iff_eq]
  rw [flagged]
  by_cases failed : ∃ unit ∈ sections.services.units, unit.state = .failed
  · simp only [failed, implies_true, true_or]
  rcases degraded with unknown | causes
  · simp [unknown, Severity.isDegraded]
  by_cases unknown : sections.services.overall = .unknown
  · simp [unknown, Severity.isDegraded]
  simp only [failed, unknown, false_or, imp_false]
  rw [causes]
  constructor
  · intro calm unit member
    refine ⟨?_, ?_, ?_⟩
    · intro inactive
      exact calm ⟨unit, member, Or.inr (Or.inl inactive)⟩
    · rw [← UInt32.not_le]
      intro restarts
      exact calm ⟨unit, member, Or.inr (Or.inr (Or.inl restarts))⟩
    · rw [← UInt32.not_le]
      intro restarts
      exact calm ⟨unit, member, Or.inr (Or.inr (Or.inr restarts))⟩
  · rintro calm ⟨unit, member, state | state | restarts | restarts⟩
    · exact failed ⟨unit, member, state⟩
    · exact (calm unit member).1 state
    · exact UInt32.not_le.mpr (calm unit member).2.1 restarts
    · exact UInt32.not_le.mpr (calm unit member).2.2 restarts

theorem resources_explained_iff (valid : config.validate = none) :
    ((evaluateResources config loadPct sections.resources).isDegraded = true →
        Flagged config sections .resources) ↔
      Flagged config sections .resources ∨
        cpuFlagged config loadPct sections.resources.cpu = false ∧
          ∀ sensor ∈ sections.resources.thermal, sensor.available = true →
            sensorCritical config sensor = false := by
  by_cases flagged : Flagged config sections .resources
  · simp [flagged]
  rw [evaluateResources_degraded_iff config loadPct valid]
  simp only [flagged, false_or, imp_false]
  simp only [Flagged, not_or, not_exists, not_and, Bool.not_eq_true] at flagged
  obtain ⟨memory, mounts, sensors⟩ := flagged
  constructor
  · intro calm
    refine ⟨?_, ?_⟩
    · rw [Bool.eq_false_iff]
      intro load
      exact calm (Or.inl load)
    · intro sensor member available
      rw [Bool.eq_false_iff]
      intro critical
      exact calm (Or.inr (Or.inr (Or.inr ⟨sensor, member, available, Or.inl critical⟩)))
  · rintro ⟨load, calm⟩ (cpu | used | ⟨mount, member, _, used⟩ | ⟨sensor, member, available, hot⟩)
    · rw [load] at cpu
      cases cpu
    · rw [memory] at used
      cases used
    · rw [mounts mount member] at used
      cases used
    · rw [calm sensor member available, sensors sensor member] at hot
      simp at hot

theorem SectionsReturned.timeSync_degraded (returned : SectionsReturned config sections)
    (synced : sections.timeSync.source ≠ .none) :
    sections.timeSync.overall.isDegraded = true ↔
      ∃ voltage, sections.timeSync.rtc.voltageMv = some voltage ∧
        (voltage < config.thresholds.rtcVoltageCritMv ∨
          voltage < config.thresholds.rtcVoltageWarnMv) :=
  returned.holds .timeSync (fun timeSync => timeSync.source ≠ .none →
      (timeSync.overall.isDegraded = true ↔ ∃ voltage, timeSync.rtc.voltageMv = some voltage ∧
        (voltage < config.thresholds.rtcVoltageCritMv ∨
          voltage < config.thresholds.rtcVoltageWarnMv)))
    (fun _ => Iff.rfl) (fun synced => absurd rfl synced)
    (fun _ => timeSyncReturned_degraded config) synced

theorem SectionsReturned.timeSync_rtc (returned : SectionsReturned config sections)
    {voltage : UInt32} (reading : sections.timeSync.rtc.voltageMv = some voltage) :
    sections.timeSync.rtc.enabled = true :=
  returned.holds .timeSync (fun timeSync => timeSync.rtc.voltageMv = some voltage →
      timeSync.rtc.enabled = true)
    (fun _ => Iff.rfl) (fun reading => nomatch reading)
    (fun _ collected => timeSyncReturned_rtc config collected) reading

theorem SectionsReturned.timeSync_explained_iff (returned : SectionsReturned config sections) :
    (sections.timeSync.overall.isDegraded = true → Flagged config sections .timeSync) ↔
      sections.timeSync.source = .none ∨
        ∀ voltage, sections.timeSync.rtc.voltageMv = some voltage →
          voltage < config.thresholds.rtcVoltageCritMv →
            voltage < config.thresholds.rtcVoltageWarnMv := by
  by_cases source : sections.timeSync.source = .none
  · simp [Flagged, source]
  rw [returned.timeSync_degraded source]
  simp only [Flagged, source, false_or, batteryFlagged, Bool.and_eq_true, Option.any_eq_true,
    decide_eq_true_eq]
  constructor
  · intro named voltage reading crit
    obtain ⟨_, other, same, low⟩ := named ⟨voltage, reading, Or.inl crit⟩
    rw [reading] at same
    exact Option.some.inj same ▸ low
  · rintro ordered ⟨voltage, reading, crit | warn⟩
    · exact ⟨returned.timeSync_rtc reading, voltage, reading, ordered voltage reading crit⟩
    · exact ⟨returned.timeSync_rtc reading, voltage, reading, warn⟩

theorem SectionsReturned.update_explained (returned : SectionsReturned config sections) :
    sections.update.overall.isDegraded = true → Flagged config sections .update :=
  returned.holds .update (fun update => update.overall.isDegraded = true →
      update.lastUpdate.any (·.result == .failed) = true)
    (fun _ => Iff.rfl) (fun degraded => nomatch degraded)
    (fun _ => updateReturned_degraded config)

theorem crash_explained (crash : CrashStatus) (degraded : (evaluateCrash crash).isDegraded = true) :
    crash.panicCount > 0 := by
  by_cases panics : crash.panicCount = 0
  · simp [evaluateCrash, panics, Severity.isDegraded] at degraded
  · exact UInt32.pos_iff_ne_zero.mpr panics

/-- The reasons name every degraded domain exactly in the explained sections. -/
theorem degradedAreNamed_iff (valid : config.validate = none)
    (returned : SectionsReturned config sections) (generatedAt : WallTime) :
    DegradedAreNamed (aggregateSections config loadPct generatedAt sections).summary ↔
      Explained config loadPct sections := by
  have named : DegradedAreNamed (aggregateSections config loadPct generatedAt sections).summary ↔
      ∀ domain, (evaluateDomain config loadPct sections domain).isDegraded = true →
        Flagged config sections domain := by
    apply forall_congr'
    intro domain
    rw [aggregate_domain, raiseStale_isDegraded, ← reasons_names_iff]
    rfl
  rw [named]
  constructor
  · intro every
    exact ⟨returned.boot_explained_iff.mp (every .boot),
      returned.services_explained_iff.mp (every .services),
      (resources_explained_iff loadPct valid).mp (every .resources),
      returned.timeSync_explained_iff.mp (every .timeSync)⟩
  · intro explained domain
    cases domain with
    | boot => exact returned.boot_explained_iff.mpr explained.boot
    | services => exact returned.services_explained_iff.mpr explained.services
    | resources => exact (resources_explained_iff loadPct valid).mpr explained.resources
    | timeSync => exact returned.timeSync_explained_iff.mpr explained.timeSync
    | update => exact returned.update_explained
    | journal => exact id
    | crash => exact crash_explained sections.crash

end Comparison

/-! One monitored unit, with what systemd says about its state. -/

def oneUnitConfig (name : String) : Config := { monitoredServices := [name] }

def oneUnit (name activeState : String) : ServiceUnit :=
  ServicesProbe.queryAndEvaluate (oneUnitConfig name) none { activeState := .ok activeState } name

def oneUnitSections (name activeState : String) : SnapshotState where
  services := {
    overall := ServicesProbe.updateOverall .ok (oneUnit name activeState)
    units := [oneUnit name activeState] }

theorem oneUnitSections_returned (name activeState : String) :
    SectionsReturned (oneUnitConfig name) (oneUnitSections name activeState) := by
  intro kind
  cases kind with
  | services =>
      exact ⟨_, Or.inr ⟨none, some fun _ => { activeState := .ok activeState }, rfl⟩, rfl⟩
  | device | boot | resources | timeSync | update | journal | crash =>
      exact ⟨_, Or.inl rfl, rfl⟩

theorem degradedAreNamed_failedUnit :
    DegradedAreNamed (aggregateSections (oneUnitConfig "cron.service") (fun _ => .finite 0) 0
      (oneUnitSections "cron.service" "failed")).summary := by
  refine (degradedAreNamed_iff _ (by decide) (oneUnitSections_returned _ _) 0).mpr ?_
  exact ⟨Or.inr (by decide), Or.inl ⟨_, List.mem_singleton.mpr rfl, by decide⟩,
    Or.inr ⟨by decide, by intro sensor member; cases member⟩, Or.inl rfl⟩

theorem inactiveUnit_not_named :
    (oneUnitConfig "cron.service").validate = none ∧
      SectionsReturned (oneUnitConfig "cron.service")
        (oneUnitSections "cron.service" "inactive") ∧
      ¬DegradedAreNamed (aggregateSections (oneUnitConfig "cron.service") (fun _ => .finite 0) 0
        (oneUnitSections "cron.service" "inactive")).summary := by
  refine ⟨by decide, oneUnitSections_returned _ _, ?_⟩
  intro named
  have services := named .services (by decide)
  have silent : ¬Names .services
      ((oneUnitSections "cron.service" "inactive").reasons (oneUnitConfig "cron.service")) := by
    rw [reasons_names_iff]
    rintro ⟨unit, member, failed⟩
    obtain rfl := List.mem_singleton.mp member
    exact absurd failed (by decide)
  exact silent services

end EdgeHealthd
