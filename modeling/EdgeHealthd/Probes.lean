import EdgeHealthd.BootProbeCore
import EdgeHealthd.CrashProbeCore
import EdgeHealthd.ProbesDbusCore
import EdgeHealthd.ResourcesProbeCore
import EdgeHealthd.Snapshots

/-!
What the probes can return. A section of a snapshot is, up to its freshness,
either its default or something its probe returned, so what holds of every
return of a probe and of the default holds of the section in every snapshot.
-/

namespace EdgeHealthd

def Severity.isDegraded : Severity → Bool
  | .warn | .crit => true
  | .ok | .unknown | .unavailable | .stale => false

theorem isDegraded_iff_eq (severity : Severity) :
    severity.isDegraded = true ↔ severity = .warn ∨ severity = .crit := by
  cases severity <;> decide

theorem isDegraded_iff (severity : Severity) :
    severity.isDegraded = true ↔ Severity.warn ≤ severity := by
  cases severity <;> decide

/-- The payloads a probe can return, over everything the system may answer it.
The device probe is not modelled and may return anything. -/
def ProbeReturns (config : Config) : (kind : Section) → kind.Payload → Prop
  | .device, _ => True
  | .boot, payload => ∃ file bootId uptime now saved,
      (BootProbe.collect file bootId uptime now saved).1 = payload
  | .services, payload => ∃ journal bus, ServicesProbe.collect config journal bus = .ok payload
  | .resources, payload => ∃ celsius replies,
      ResourcesProbe.collect config celsius replies = .ok payload
  | .timeSync, payload => ∃ bus files, TimeSyncProbe.collect config bus files = .ok payload
  | .update, payload => ∃ parseTime slots file,
      UpdateProbe.collect parseTime config slots file = .ok payload
  | .journal, payload => ∃ clocks reader, JournalProbe.collect config clocks reader = .ok payload
  | .crash, payload => ∃ clocks pstore file, CrashProbe.collect clocks pstore file = .ok payload

def SectionsReturned (config : Config) (sections : SnapshotState) : Prop :=
  ∀ kind : Section, ∃ payload : kind.Payload,
    (payload = kind.initial ∨ ProbeReturns config kind payload) ∧
      eraseFreshness (sections.payload kind) = eraseFreshness payload

theorem SectionsReturned.holds {config : Config} {sections : SnapshotState}
    (returned : SectionsReturned config sections) (kind : Section)
    (property : kind.Payload → Prop)
    (unmarked : ∀ payload, property (eraseFreshness payload) ↔ property payload)
    (initial : property kind.initial)
    (probe : ∀ payload, ProbeReturns config kind payload → property payload) :
    property (sections.payload kind) := by
  obtain ⟨payload, origin, same⟩ := returned kind
  rw [← unmarked, same, unmarked]
  rcases origin with default | collected
  · rw [default]
    exact initial
  · exact probe payload collected

section Specs

variable (config : Config)

theorem evaluateUnitSeverity_degraded_iff (unit : ServiceUnit) :
    (ServicesProbe.evaluateUnitSeverity config unit).isDegraded = true ↔
      unit.state = .failed ∨ unit.state = .inactive ∨
        config.thresholds.serviceRestartWarn ≤ unit.restartCount ∨
        config.thresholds.serviceRestartCrit ≤ unit.restartCount := by
  unfold ServicesProbe.evaluateUnitSeverity
  by_cases failed : unit.state = .failed
  · simp [failed, Severity.isDegraded]
  by_cases crit : config.thresholds.serviceRestartCrit ≤ unit.restartCount
  · simp [failed, crit, Severity.isDegraded]
  by_cases warn : config.thresholds.serviceRestartWarn ≤ unit.restartCount
  · simp [failed, crit, warn, Severity.isDegraded]
  cases state : unit.state with
  | failed => exact absurd state failed
  | inactive => simp [crit, warn, Severity.isDegraded]
  | active | activating | deactivating | unknown => simp [crit, warn, Severity.isDegraded]

theorem updateOverall_isDegraded (overall : Severity) (unit : ServiceUnit) :
    (ServicesProbe.updateOverall overall unit).isDegraded =
      (overall.isDegraded || unit.severity.isDegraded) := by
  unfold ServicesProbe.updateOverall
  cases unit.severity <;> cases overall <;> rfl

theorem foldl_updateOverall_isDegraded (units : List ServiceUnit) (overall : Severity) :
    (units.foldl ServicesProbe.updateOverall overall).isDegraded =
      (overall.isDegraded || units.any fun unit => unit.severity.isDegraded) := by
  induction units generalizing overall with
  | nil => simp
  | cons unit rest ih =>
      rw [List.foldl_cons, ih, updateOverall_isDegraded, List.any_cons, Bool.or_assoc]

theorem collectUnits_severity (journal : Option JournalReader) (replies : Nat → UnitReplies) :
    ∀ unit ∈ ServicesProbe.collectUnits config journal replies,
      unit.severity = ServicesProbe.evaluateUnitSeverity config unit := by
  intro unit member
  obtain ⟨⟨name, index⟩, _, rfl⟩ := List.mem_map.mp member
  rfl

theorem servicesReturned_degraded {status : ServicesStatus}
    (returned : ProbeReturns config .services status) :
    status.overall = .unknown ∨
      (status.overall.isDegraded = true ↔ ∃ unit ∈ status.units,
        unit.state = .failed ∨ unit.state = .inactive ∨
          config.thresholds.serviceRestartWarn ≤ unit.restartCount ∨
          config.thresholds.serviceRestartCrit ≤ unit.restartCount) := by
  obtain ⟨journal, bus, collected⟩ := returned
  cases bus with
  | none =>
      obtain rfl := Except.ok.inj collected
      exact Or.inl rfl
  | some replies =>
      obtain rfl := Except.ok.inj collected
      right
      rw [foldl_updateOverall_isDegraded]
      simp only [Severity.isDegraded, Bool.false_or, List.any_eq_true]
      constructor
      · rintro ⟨unit, member, degraded⟩
        rw [collectUnits_severity config journal replies unit member] at degraded
        exact ⟨unit, member, (evaluateUnitSeverity_degraded_iff config unit).mp degraded⟩
      · rintro ⟨unit, member, cause⟩
        refine ⟨unit, member, ?_⟩
        rw [collectUnits_severity config journal replies unit member]
        exact (evaluateUnitSeverity_degraded_iff config unit).mpr cause

theorem applyActiveState_name (replies : UnitReplies) (activeState : String)
    (unit : ServiceUnit) :
    (ServicesProbe.applyActiveState replies activeState unit).name = unit.name := by
  unfold ServicesProbe.applyActiveState
  repeat' split
  all_goals rfl

theorem queryUnit_failed_safe (journal : Option JournalReader) (replies : UnitReplies)
    (name : String)
    (failed : (ServicesProbe.queryUnit config journal replies name).state = .failed) :
    isSafeUnitName (ServicesProbe.queryUnit config journal replies name).name = true := by
  unfold ServicesProbe.queryUnit at failed ⊢
  by_cases safe : isSafeUnitName name = true
  · simp only [safe, Bool.not_true, Bool.false_eq_true, if_false]
    cases replies.activeState with
    | error message => exact safe
    | ok activeState =>
        simp only [applyActiveState_name]
        exact safe
  · simp [safe] at failed

theorem servicesReturned_failed_safe {status : ServicesStatus}
    (returned : ProbeReturns config .services status) :
    ∀ unit ∈ status.units, unit.state = .failed → isSafeUnitName unit.name = true := by
  obtain ⟨journal, bus, collected⟩ := returned
  intro unit member failed
  cases bus with
  | none =>
      obtain rfl := Except.ok.inj collected
      obtain ⟨name, _, rfl⟩ := List.mem_map.mp member
      cases failed
  | some replies =>
      obtain rfl := Except.ok.inj collected
      obtain ⟨⟨name, index⟩, _, rfl⟩ := List.mem_map.mp member
      exact queryUnit_failed_safe config journal (replies index) name failed

theorem readStatus_source (bus : Option TimedateReplies) (files : RtcFiles)
    (synced : (TimeSyncProbe.readStatus config bus files).source ≠ .none) :
    (TimeSyncProbe.readStatus config bus files).source = .ntp ∧
      (TimeSyncProbe.readStatus config bus files).ntp.state = some .locked := by
  simp only [TimeSyncProbe.readStatus] at synced ⊢
  generalize (if config.enableNtp = true then TimeSyncProbe.collectNtp bus else {}) = ntp at *
  by_cases locked : ntp.enabled = true ∧ ntp.state = some .locked
  · simp [locked.1, locked.2]
  · simp [locked] at synced

theorem timeSyncReturned_degraded {status : TimeSyncStatus}
    (returned : ProbeReturns config .timeSync status) (synced : status.source ≠ .none) :
    status.overall.isDegraded = true ↔ ∃ voltage, status.rtc.voltageMv = some voltage ∧
      (voltage < config.thresholds.rtcVoltageCritMv ∨
        voltage < config.thresholds.rtcVoltageWarnMv) := by
  obtain ⟨bus, files, collected⟩ := returned
  obtain rfl := Except.ok.inj collected
  obtain ⟨source, locked⟩ := readStatus_source config bus files synced
  have calm : (if config.enableNtp then
      if (TimeSyncProbe.readStatus config bus files).source == .none then Severity.warn
      else if (TimeSyncProbe.readStatus config bus files).source == .ntp &&
        (TimeSyncProbe.readStatus config bus files).ntp.state != some .locked then .warn
      else .ok else .ok) = .ok := by
    simp [source, locked]
  simp only [TimeSyncProbe.evaluateSyncSeverity, calm]
  cases enabled : config.enableRtc with
  | false => simp [Severity.isDegraded, TimeSyncProbe.readStatus, enabled]
  | true =>
      cases reading : (TimeSyncProbe.readStatus config bus files).rtc.voltageMv with
      | none => simp [Severity.isDegraded]
      | some voltage =>
          simp only [Option.some.injEq, exists_eq_left']
          by_cases crit : voltage < config.thresholds.rtcVoltageCritMv
          · simp [crit, Severity.isDegraded]
          · by_cases warn : voltage < config.thresholds.rtcVoltageWarnMv
            · simp [crit, warn, Severity.isDegraded]
            · simp [crit, warn, Severity.isDegraded]

theorem timeSyncReturned_rtc {status : TimeSyncStatus}
    (returned : ProbeReturns config .timeSync status) {voltage : UInt32}
    (reading : status.rtc.voltageMv = some voltage) : status.rtc.enabled = true := by
  obtain ⟨bus, files, collected⟩ := returned
  obtain rfl := Except.ok.inj collected
  simp only [TimeSyncProbe.readStatus] at reading ⊢
  cases enabled : config.enableRtc with
  | false => simp [enabled] at reading
  | true => rfl

theorem updateReturned_degraded {status : UpdateStatus}
    (returned : ProbeReturns config .update status) (degraded : status.overall.isDegraded = true) :
    status.lastUpdate.any (·.result == .failed) = true := by
  obtain ⟨parseTime, slots, file, collected⟩ := returned
  unfold UpdateProbe.collect at collected
  by_cases tracking : config.enableUpdateTracking = true
  · simp only [tracking, Bool.not_true, Bool.false_eq_true, if_false] at collected
    cases rauc : UpdateProbe.collectRaucUpdate parseTime { overall := .ok } slots with
    | some live =>
        rw [rauc] at collected
        obtain rfl := Except.ok.inj collected
        obtain ⟨props, _, rfl⟩ := Option.map_eq_some_iff.mp rauc
        simp only [UpdateProbe.bootedSlot] at degraded ⊢
        split at degraded
        · cases degraded
        · rename_i bad
          rw [if_neg bad]
          rfl
    | none =>
        rw [rauc] at collected
        cases stored : UpdateProbe.loadLastUpdate parseTime file with
        | none =>
            rw [stored] at collected
            obtain rfl := Except.ok.inj collected
            cases degraded
        | some update =>
            rw [stored] at collected
            obtain rfl := Except.ok.inj collected
            by_cases failed : update.result = .failed
            · simp [failed]
            · simp [failed, Severity.isDegraded] at degraded
  · simp only [tracking, Bool.not_false, if_true] at collected
    obtain rfl := Except.ok.inj collected
    cases degraded

end Specs

def CycleInput.FromProbes (config : Config) (input : CycleInput) : Prop :=
  ∀ (kind : Section) payload, (input.reading kind).result = .ok payload →
    ProbeReturns config kind payload

section Runs

variable (config : Config) (loadPct : CpuLoad → Double) (healthManager : Option HealthManager)

theorem successOf_eq_some {Payload : Type} {now : SteadyTime} {reading : Reading Payload}
    {call : Option (ProbeResult Payload)} {success : Success Payload}
    (found : successOf now reading call = some success) : call = some (.ok success.payload) := by
  cases call with
  | none => simp [successOf] at found
  | some result =>
      cases result with
      | error failure => simp [successOf] at found
      | ok payload =>
          simp only [successOf, Option.some.injEq] at found
          rw [← found]

theorem collectionCycle_success_returns (daemon : Daemon) (input : CycleInput)
    (probed : input.FromProbes config) (kind : Section) {success : Success kind.Payload}
    (found : (collectionCycle config loadPct daemon input).2.success kind = some success) :
    ProbeReturns config kind success.payload := by
  rw [collectionCycle_success] at found
  have called := successOf_eq_some found
  simp only [Slot.call] at called
  split at called
  · exact probed kind _ (Option.some.inj called)
  · cases called

theorem mem_runCycles {inputs : List CycleInput} {report : CycleReport}
    (member : report ∈ (runCycles config loadPct healthManager inputs).2) :
    ∃ past input rest, inputs = past ++ input :: rest ∧
      report = (collectionCycle config loadPct
        (runCycles config loadPct healthManager past).1 input).2 := by
  obtain ⟨index, present⟩ := List.getElem?_of_mem member
  rw [runCycles_getElem?, Option.map_eq_some_iff] at present
  obtain ⟨input, given, rfl⟩ := present
  obtain ⟨bound, rfl⟩ := List.getElem?_eq_some_iff.mp given
  refine ⟨inputs.take index, inputs[index], inputs.drop (index + 1), ?_, rfl⟩
  rw [List.getElem_cons_drop, List.take_append_drop]

theorem runCycles_success_returns (inputs : List CycleInput)
    (probed : ∀ input ∈ inputs, input.FromProbes config) (kind : Section) :
    ∀ report ∈ (runCycles config loadPct healthManager inputs).2, ∀ success,
      report.success kind = some success → ProbeReturns config kind success.payload := by
  intro report member success found
  obtain ⟨past, input, rest, shape, rfl⟩ := mem_runCycles config loadPct healthManager member
  have given : input ∈ inputs := by simp [shape]
  exact collectionCycle_success_returns config loadPct _ input (probed input given) kind found

theorem runCycles_section_origin (inputs : List CycleInput) (kind : Section) :
    ∃ payload : kind.Payload,
      (payload = kind.initial ∨
        ∃ report ∈ (runCycles config loadPct healthManager inputs).2, ∃ success,
          report.success kind = some success ∧ success.payload = payload) ∧
        eraseFreshness ((runCycles config loadPct healthManager inputs).1.slot kind).cache =
          eraseFreshness payload := by
  have tracks := runCycles_tracks config loadPct healthManager inputs kind
  refine ⟨_, ?_, tracks.payload⟩
  cases latest : History.latest (CycleReport.success kind)
      (runCycles config loadPct healthManager inputs).2 with
  | none => exact Or.inl rfl
  | some success =>
      right
      have member := List.mem_of_getLast? latest
      obtain ⟨report, inside, found⟩ := List.mem_filterMap.mp member
      exact ⟨report, inside, success, found, rfl⟩

theorem runCycles_shows_success (past : List CycleInput) (current : CycleInput) (kind : Section)
    {success : Success kind.Payload}
    (found : (collectionCycle config loadPct (runCycles config loadPct healthManager past).1
      current).2.success kind = some success) :
    eraseFreshness ((collectionCycle config loadPct
      (runCycles config loadPct healthManager past).1 current).2.snapshot.payload kind) =
        eraseFreshness success.payload := by
  have tracks := runCycles_tracks config loadPct healthManager (past ++ [current]) kind
  have latest : History.latest (CycleReport.success kind)
      (runCycles config loadPct healthManager (past ++ [current])).2 = some success := by
    rw [runCycles_snoc, History.latest_snoc, found, Option.some_or]
  rw [runCycles_snapshot, tracks.payload, latest]
  rfl

/-- What holds of the default section holds of the section in every snapshot of
a run exactly when it holds of everything the run collected for it. -/
theorem runCycles_payloads_iff (kind : Section) (property : kind.Payload → Prop)
    (unmarked : ∀ payload, property (eraseFreshness payload) ↔ property payload)
    (initial : property kind.initial) (inputs : List CycleInput) :
    (∀ report ∈ (runCycles config loadPct healthManager inputs).2,
        property (report.snapshot.payload kind)) ↔
      ∀ report ∈ (runCycles config loadPct healthManager inputs).2, ∀ success,
        report.success kind = some success → property success.payload := by
  constructor
  · intro shown report member success found
    have holds := shown report member
    obtain ⟨past, input, rest, shape, rfl⟩ := mem_runCycles config loadPct healthManager member
    rw [← unmarked, runCycles_shows_success config loadPct healthManager _ _ kind found,
      unmarked] at holds
    exact holds
  · intro collected report member
    obtain ⟨past, input, rest, shape, rfl⟩ := mem_runCycles config loadPct healthManager member
    obtain ⟨payload, origin, same⟩ := runCycles_section_origin config loadPct healthManager
      (past ++ [input]) kind
    rw [← unmarked, runCycles_snapshot, same, unmarked]
    rcases origin with default | ⟨earlier, inside, success, found, rfl⟩
    · rw [default]
      exact initial
    · refine collected earlier ?_ success found
      have joined : inputs = (past ++ [input]) ++ rest := by simp [shape]
      rw [joined, runCycles_append]
      exact List.mem_append_left _ inside

theorem runCycles_sectionsReturned (past : List CycleInput) (current : CycleInput)
    (probed : ∀ input ∈ past ++ [current], input.FromProbes config) :
    SectionsReturned config (collectionCycle config loadPct
      (runCycles config loadPct healthManager past).1 current).2.snapshot := by
  intro kind
  obtain ⟨payload, origin, same⟩ :=
    runCycles_section_origin config loadPct healthManager (past ++ [current]) kind
  refine ⟨payload, ?_, ?_⟩
  · rcases origin with initial | ⟨report, member, success, found, rfl⟩
    · exact Or.inl initial
    · exact Or.inr (runCycles_success_returns config loadPct healthManager _ probed kind
        report member success found)
  · rw [runCycles_snapshot]
    exact same

end Runs

end EdgeHealthd
