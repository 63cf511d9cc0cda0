import EdgeHealthd.Snapshots

/-!
Which `HealthAlarm` signals a run emits. Both alarms compare the new snapshot
with a summary of the past, the crash latch and `last_severity_`; over a whole
run either summary is a fact about the previous snapshot alone.
-/

namespace EdgeHealthd

def BusSignal.isAlarm : BusSignal → Bool
  | .healthAlarm _ _ _ => true
  | .propertiesChanged _ => false

def BusSignal.isAlarmOf (component : String) : BusSignal → Bool
  | .healthAlarm source _ _ => source == component
  | .propertiesChanged _ => false

def CycleReport.alarms (component : String) (report : CycleReport) : List BusSignal :=
  report.signals.filter (BusSignal.isAlarmOf component)

def CrashStatus.Active (crash : CrashStatus) (fingerprint : String) : Prop :=
  crash.panicCount > 0 ∧ crash.acknowledged = false ∧ crash.panicCurrentBoot = true ∧
    crash.fingerprint = some fingerprint

def CrashStatus.activePanic (crash : CrashStatus) : Option String :=
  if crash.panicCount > 0 && !crash.acknowledged && crash.panicCurrentBoot then
    crash.fingerprint
  else none

theorem activePanic_eq_some_iff (crash : CrashStatus) (fingerprint : String) :
    crash.activePanic = some fingerprint ↔ crash.Active fingerprint := by
  unfold CrashStatus.activePanic CrashStatus.Active
  split
  · rename_i active
    simp only [Bool.and_eq_true, decide_eq_true_eq, Bool.not_eq_true'] at active
    simp [active]
  · rename_i inactive
    simp only [Bool.and_eq_true, decide_eq_true_eq, Bool.not_eq_true'] at inactive
    simp only [reduceCtorEq, false_iff]
    tauto

theorem crashAlarm_latch (lastAlarmed : Option String) (crash : CrashStatus) :
    (crashAlarm lastAlarmed crash).1 = crash.activePanic := by
  unfold crashAlarm CrashStatus.activePanic
  cases present : crash.fingerprint with
  | none => simp
  | some fingerprint =>
      simp only [Option.isSome_some, Bool.and_true]
      split
      · split
        · rfl
        · rename_i same
          simpa using same
      · rfl

theorem crashAlarm_signals (lastAlarmed : Option String) (crash : CrashStatus) :
    (crashAlarm lastAlarmed crash).2 =
      if crash.activePanic.isSome ∧ lastAlarmed ≠ crash.activePanic then
        [HealthManager.emitAlarm "crash" (crashAlarmMessage crash) .crit]
      else [] := by
  unfold crashAlarm CrashStatus.activePanic
  cases present : crash.fingerprint with
  | none => simp
  | some fingerprint =>
      simp only [Option.isSome_some, Bool.and_true]
      split
      · simp only [Option.isSome_some, true_and, bne_iff_ne, ne_eq]
        split <;> rfl
      · rfl

theorem updateSeverity_crash (manager : HealthManager) (newSev prevSev : Severity) :
    (manager.updateSeverity newSev prevSev).2.filter (BusSignal.isAlarmOf "crash") = [] := by
  unfold HealthManager.updateSeverity
  simp only [List.filter_append, List.append_eq_nil_iff]
  constructor <;> split <;> simp [BusSignal.isAlarmOf]

theorem updateSeverity_overall (manager : HealthManager) (newSev prevSev : Severity) :
    (manager.updateSeverity newSev prevSev).2.filter (BusSignal.isAlarmOf "overall") ≠ [] ↔
      prevSev < newSev := by
  have rank : isDegradation prevSev newSev = true ↔ prevSev < newSev := by
    rw [severity_lt_iff, isDegradation, decide_eq_true_eq]
    cases prevSev <;> cases newSev <;> decide
  unfold HealthManager.updateSeverity
  simp only [List.filter_append, ne_eq, List.append_eq_nil_iff, not_and_or]
  rw [← rank]
  constructor
  · rintro (property | alarm)
    · exfalso
      apply property
      split <;> simp [BusSignal.isAlarmOf]
    · by_contra calm
      rw [if_neg calm] at alarm
      exact alarm rfl
  · intro worse
    right
    simp [worse, BusSignal.isAlarmOf]

theorem crashAlarm_overall (lastAlarmed : Option String) (crash : CrashStatus) :
    (crashAlarm lastAlarmed crash).2.filter (BusSignal.isAlarmOf "overall") = [] := by
  rw [crashAlarm_signals]
  split <;> rfl

theorem crashAlarm_crash (lastAlarmed : Option String) (crash : CrashStatus) :
    (crashAlarm lastAlarmed crash).2.filter (BusSignal.isAlarmOf "crash") =
      (crashAlarm lastAlarmed crash).2 := by
  rw [crashAlarm_signals]
  split <;> rfl

structure Announced (daemon : Daemon) (latest : SnapshotState) : Prop where
  managed : daemon.healthManager.isSome
  severity : daemon.lastSeverity = latest.summary.severity
  latch : daemon.lastAlarmedCrashFp = latest.crash.activePanic

section Runs

variable (config : Config) (loadPct : CpuLoad → Double)

theorem notifyManager_some {daemon : Daemon} {manager : HealthManager}
    (present : daemon.healthManager = some manager) (prevSev : Severity) :
    (daemon.notifyManager prevSev).1.healthManager.isSome ∧
      (daemon.notifyManager prevSev).1.lastSeverity = daemon.lastSeverity ∧
      (daemon.notifyManager prevSev).1.lastAlarmedCrashFp =
        (crashAlarm daemon.lastAlarmedCrashFp daemon.currentState.crash).1 ∧
      (daemon.notifyManager prevSev).2 =
        (manager.updateSeverity daemon.lastSeverity prevSev).2 ++
          (crashAlarm daemon.lastAlarmedCrashFp daemon.currentState.crash).2 := by
  unfold Daemon.notifyManager
  rw [present]
  exact ⟨rfl, rfl, rfl, rfl⟩

theorem collectionCycle_announced {daemon : Daemon} {latest : SnapshotState}
    (announced : Announced daemon latest) (input : CycleInput) :
    let cycle := collectionCycle config loadPct daemon input
    Announced cycle.1 cycle.2.snapshot ∧
      ∃ manager : HealthManager, cycle.2.signals =
        (manager.updateSeverity cycle.2.snapshot.summary.severity latest.summary.severity).2 ++
          (crashAlarm latest.crash.activePanic cycle.2.snapshot.crash).2 := by
  intro cycle
  obtain ⟨manager, present⟩ := Option.isSome_iff_exists.mp announced.managed
  let published := ((daemon.collect input).daemon.markStale input.now).publish cycle.2.snapshot
  have kept : published.healthManager = some manager := present
  obtain ⟨managed, severity, latch, signals⟩ := notifyManager_some kept daemon.lastSeverity
  refine ⟨⟨managed, severity, latch.trans (crashAlarm_latch _ _)⟩, manager, ?_⟩
  rw [← announced.severity, ← announced.latch]
  exact signals

/-- The snapshot before cycle `index`, counted from 0; the first has none before it. -/
def snapshotBefore (reports : List CycleReport) : Nat → SnapshotState
  | 0 => {}
  | index + 1 => (reports[index]?.map CycleReport.snapshot).getD {}

theorem runCycles_length (healthManager : Option HealthManager) (inputs : List CycleInput) :
    (runCycles config loadPct healthManager inputs).2.length = inputs.length :=
  Machine.respond_length _ _ inputs

theorem runCycles_announced (manager : HealthManager) (inputs : List CycleInput) :
    Announced (runCycles config loadPct (some manager) inputs).1
      (snapshotBefore (runCycles config loadPct (some manager) inputs).2 inputs.length) := by
  induction inputs using List.reverseRecOn with
  | nil => exact ⟨rfl, rfl, rfl⟩
  | append_singleton past input ih =>
      have step := (collectionCycle_announced config loadPct ih input).1
      rw [runCycles_snoc]
      have last := runCycles_length config loadPct (some manager) past
      simpa [snapshotBefore, last] using step

theorem snapshotBefore_take (reports : List CycleReport) (index : Nat) :
    snapshotBefore (reports.take index) index = snapshotBefore reports index := by
  cases index with
  | zero => rfl
  | succ index =>
      simp only [snapshotBefore]
      rw [List.getElem?_take_of_lt (Nat.lt_succ_self index)]

theorem runCycles_signals (manager : HealthManager) {inputs : List CycleInput} {index : Nat}
    {report : CycleReport}
    (found : (runCycles config loadPct (some manager) inputs).2[index]? = some report) :
    let before := snapshotBefore (runCycles config loadPct (some manager) inputs).2 index
    ∃ current : HealthManager, report.signals =
      (current.updateSeverity report.snapshot.summary.severity before.summary.severity).2 ++
        (crashAlarm before.crash.activePanic report.snapshot.crash).2 := by
  intro before
  have bound : index < inputs.length := by
    rw [← runCycles_length config loadPct (some manager)]
    exact (List.getElem?_eq_some_iff.mp found).1
  rw [runCycles_getElem?, Option.map_eq_some_iff] at found
  obtain ⟨input, _, rfl⟩ := found
  have announced := runCycles_announced config loadPct manager (inputs.take index)
  rw [List.length_take_of_le (le_of_lt bound), ← runCycles_take, snapshotBefore_take] at announced
  exact (collectionCycle_announced config loadPct announced input).2

def ActiveIn (reports : List CycleReport) (index : Nat) (fingerprint : String) : Prop :=
  ∃ report, reports[index]? = some report ∧ report.snapshot.crash.Active fingerprint

def ActiveBefore (reports : List CycleReport) : Nat → String → Prop
  | 0, _ => False
  | index + 1, fingerprint => ActiveIn reports index fingerprint

theorem activeIn_iff {reports : List CycleReport} {index : Nat} {report : CycleReport}
    (found : reports[index]? = some report) (fingerprint : String) :
    ActiveIn reports index fingerprint ↔
      report.snapshot.crash.activePanic = some fingerprint := by
  rw [activePanic_eq_some_iff, ActiveIn, found]
  simp

theorem activeBefore_iff (reports : List CycleReport) (index : Nat) (fingerprint : String) :
    ActiveBefore reports index fingerprint ↔
      (snapshotBefore reports index).crash.activePanic = some fingerprint := by
  cases index with
  | zero => simp [ActiveBefore, snapshotBefore, CrashStatus.activePanic]
  | succ index =>
      cases found : reports[index]? with
      | none => simp [ActiveBefore, ActiveIn, snapshotBefore, found, CrashStatus.activePanic]
      | some report =>
          rw [ActiveBefore, activeIn_iff found, snapshotBefore, found]
          rfl

theorem runCycles_crash_alarms (manager : HealthManager) {inputs : List CycleInput} {index : Nat}
    {report : CycleReport}
    (found : (runCycles config loadPct (some manager) inputs).2[index]? = some report) :
    let before := snapshotBefore (runCycles config loadPct (some manager) inputs).2 index
    report.alarms "crash" = (crashAlarm before.crash.activePanic report.snapshot.crash).2 := by
  intro before
  obtain ⟨current, signals⟩ := runCycles_signals config loadPct manager found
  rw [CycleReport.alarms, signals, List.filter_append, updateSeverity_crash, crashAlarm_crash]
  rfl

theorem runCycles_crash_edge (manager : HealthManager) {inputs : List CycleInput} {index : Nat}
    {report : CycleReport}
    (found : (runCycles config loadPct (some manager) inputs).2[index]? = some report) :
    let reports := (runCycles config loadPct (some manager) inputs).2
    (report.alarms "crash").length ≤ 1 ∧
      (report.alarms "crash" ≠ [] ↔
        ∃ fingerprint, ActiveIn reports index fingerprint ∧
          ¬ActiveBefore reports index fingerprint) := by
  intro reports
  rw [runCycles_crash_alarms config loadPct manager found, crashAlarm_signals]
  simp only [reports, activeIn_iff found, activeBefore_iff]
  constructor
  · split <;> simp
  · split
    · rename_i edge
      obtain ⟨fingerprint, active⟩ := Option.isSome_iff_exists.mp edge.1
      simp only [ne_eq, List.cons_ne_nil, not_false_eq_true, true_iff]
      refine ⟨fingerprint, active, ?_⟩
      rw [← active]
      exact edge.2
    · rename_i level
      simp only [ne_eq, not_true_eq_false, false_iff]
      rintro ⟨fingerprint, active, changed⟩
      apply level
      rw [active]
      exact ⟨rfl, changed⟩

/-- With a manager from the first cycle on, a crash alarm marks exactly the
cycles in which a panic becomes active or changes its fingerprint: one alarm
for each uninterrupted period, none without an active panic, which also
releases the latch. -/
theorem crash_alarm_marks_active_edges (manager : HealthManager) (inputs : List CycleInput) :
    let reports := (runCycles config loadPct (some manager) inputs).2
    (∀ index report, reports[index]? = some report →
      (report.alarms "crash" ≠ [] ↔
        ∃ fingerprint, ActiveIn reports index fingerprint ∧
          ¬ActiveBefore reports index fingerprint)) ∧
      (∀ first last fingerprint,
        (∀ index, first ≤ index → index ≤ last → ActiveIn reports index fingerprint) →
        ¬ActiveBefore reports first fingerprint →
        ∀ index report, reports[index]? = some report → first ≤ index → index ≤ last →
          (report.alarms "crash").length = if index = first then 1 else 0) ∧
      (∀ index report before after, reports[index]? = some report →
        ActiveBefore reports index before → ActiveIn reports index after → before ≠ after →
          report.alarms "crash" ≠ []) ∧
      (∀ index report, reports[index]? = some report →
        (∀ fingerprint, ¬ActiveIn reports index fingerprint) →
          report.alarms "crash" = [] ∧
            (runCycles config loadPct (some manager)
              (inputs.take (index + 1))).1.lastAlarmedCrashFp = none) := by
  intro reports
  have edge := fun index report (found : reports[index]? = some report) =>
    runCycles_crash_edge config loadPct manager found
  refine ⟨fun index report found => (edge index report found).2, ?_, ?_, ?_⟩
  · intro first last fingerprint period rising index report found lower upper
    have single := (edge index report found).1
    have active := period index lower upper
    split
    · rename_i isFirst
      subst index
      have raised := (edge first report found).2.mpr ⟨fingerprint, active, rising⟩
      have positive := List.length_pos_iff.mpr raised
      omega
    · rename_i later
      obtain ⟨previous, rfl⟩ : ∃ previous, index = previous + 1 :=
        ⟨index - 1, by omega⟩
      have before : ActiveBefore reports (previous + 1) fingerprint :=
        period previous (by omega) (by omega)
      rw [List.length_eq_zero_iff]
      by_contra raised
      obtain ⟨other, activeOther, changed⟩ := (edge _ report found).2.mp raised
      rw [activeIn_iff found] at active activeOther
      obtain rfl := Option.some.inj (active.symm.trans activeOther)
      exact changed before
  · intro index report before after found activeBefore activeAfter different
    apply (edge index report found).2.mpr
    refine ⟨after, activeAfter, ?_⟩
    intro still
    rw [activeBefore_iff] at activeBefore still
    exact different (Option.some.inj (activeBefore.symm.trans still))
  · intro index report found inactive
    have silent : report.alarms "crash" = [] := by
      by_contra raised
      obtain ⟨fingerprint, active, _⟩ := (edge index report found).2.mp raised
      exact inactive fingerprint active
    refine ⟨silent, ?_⟩
    have bound : index + 1 ≤ inputs.length := by
      rw [← runCycles_length config loadPct (some manager)]
      exact (List.getElem?_eq_some_iff.mp found).1
    have latch := (runCycles_announced config loadPct manager (inputs.take (index + 1))).latch
    rw [List.length_take_of_le bound, ← runCycles_take, snapshotBefore_take, snapshotBefore,
      found] at latch
    rw [latch, Option.eq_none_iff_forall_ne_some]
    intro fingerprint active
    exact inactive fingerprint ((activeIn_iff found fingerprint).mpr active)

def CycleInput.firstSections (first : CycleInput) : SnapshotState where
  device := first.device.result.toOption.getD {}
  boot := first.boot.result.toOption.getD {}
  services := first.services.result.toOption.getD {}
  resources := first.resources.result.toOption.getD {}
  timeSync := first.timeSync.result.toOption.getD {}
  update := first.update.result.toOption.getD {}
  journal := first.journal.result.toOption.getD {}
  crash := first.crash.result.toOption.getD {}

theorem firstSections_payload (first : CycleInput) (kind : Section) :
    first.firstSections.payload kind =
      (first.reading kind).result.toOption.getD kind.initial := by
  cases kind <;> rfl

theorem successOf_payload {Payload : Type} (now : SteadyTime) (reading : Reading Payload) :
    (successOf now reading (some reading.result)).map Success.payload =
      reading.result.toOption := by
  cases result : reading.result with
  | error _ => rfl
  | ok payload => rfl

theorem collectionCycle_success_fresh (daemon : Daemon) (input : CycleInput) (domain : Domain)
    (succeeded : ((collectionCycle config loadPct daemon input).2.success domain.section).isSome) :
    ((collectionCycle config loadPct daemon input).2.snapshot.freshness domain).stale = false := by
  have found := sectionFreshness_payload
    (collectionCycle config loadPct daemon input).2.snapshot domain
  rw [collectionCycle_snapshot, collectionCycle_slot] at found
  rw [collectionCycle_success] at succeeded
  exact Slot.cycle_success_fresh _ _ _ _ succeeded found

theorem collectionCycle_first_domain (healthManager : Option HealthManager) (first : CycleInput)
    (domain : Domain) :
    (collectionCycle config loadPct (initializeDaemon config healthManager)
      first).2.snapshot.summary.domains.get domain =
        evaluateDomain config loadPct first.firstSections domain := by
  have tracks := runCycles_tracks config loadPct healthManager [first] domain.section
  have shown := runCycles_snapshot config loadPct healthManager [] first domain.section
  have collected : History.latest (CycleReport.success domain.section)
      (runCycles config loadPct healthManager [first]).2 =
        successOf first.now (first.reading domain.section)
          (some (first.reading domain.section).result) := by
    rw [← runCycles_first_success config loadPct healthManager]
    exact (History.latest_snoc _ [] _).trans Option.or_none
  have unmarked : ((collectionCycle config loadPct (initializeDaemon config healthManager)
      first).2.snapshot.freshness domain).stale = false := by
    by_cases succeeded : (successOf first.now (first.reading domain.section)
        (some (first.reading domain.section).result)).isSome
    · apply collectionCycle_success_fresh
      rw [runCycles_first_success]
      exact succeeded
    · have found := sectionFreshness_payload (collectionCycle config loadPct
        (initializeDaemon config healthManager) first).2.snapshot domain
      have stamped := tracks.staleCollected _ (shown ▸ found)
      rw [tracks.collectedAt _ (shown ▸ found), collected, Option.isSome_map] at stamped
      rw [Bool.eq_false_iff]
      exact fun marked => succeeded (stamped marked)
  rw [collectionCycle_domain, raiseStale, unmarked]
  apply evaluateDomain_congr
  rw [firstSections_payload, ← successOf_payload first.now, ← collected]
  exact (congrArg eraseFreshness shown).trans tracks.payload

theorem collectionCycle_severity (daemon : Daemon) (input : CycleInput) :
    IsGreatest
      (Set.range (collectionCycle config loadPct daemon input).2.snapshot.summary.domains.get)
      (collectionCycle config loadPct daemon input).2.snapshot.summary.severity := by
  rw [collectionCycle_summary]
  exact aggregate_severity config loadPct input.generatedAt _

theorem ok_le_severity (daemon : Daemon) (input : CycleInput) :
    Severity.ok ≤ (collectionCycle config loadPct daemon input).2.snapshot.summary.severity := by
  have boot := (collectionCycle_severity config loadPct daemon input).2 ⟨.boot, rfl⟩
  refine le_trans ?_ boot
  rw [collectionCycle_domain]
  exact le_trans (ok_le_evaluateBoot config _) (le_raiseStale _ _)

theorem first_severity_above_ok (healthManager : Option HealthManager) (first : CycleInput) :
    Severity.ok < (collectionCycle config loadPct (initializeDaemon config healthManager)
      first).2.snapshot.summary.severity ↔
        ∃ domain, Severity.ok < evaluateDomain config loadPct first.firstSections domain := by
  have greatest := collectionCycle_severity config loadPct
    (initializeDaemon config healthManager) first
  simp only [← collectionCycle_first_domain config loadPct healthManager first]
  constructor
  · intro above
    obtain ⟨domain, worst⟩ := greatest.1
    exact ⟨domain, worst ▸ above⟩
  · rintro ⟨domain, above⟩
    exact lt_of_lt_of_le above (greatest.2 ⟨domain, rfl⟩)

/-- The contract of the overall alarm: it goes out for a severity worse than
`ok` that is also worse than the one before. -/
def OverallAlarmLaw (reports : List CycleReport) : Prop :=
  ∀ index report, reports[index]? = some report →
    (report.alarms "overall" ≠ [] ↔
      .ok < report.snapshot.summary.severity ∧
        (snapshotBefore reports index).summary.severity < report.snapshot.summary.severity)

def QuietWhileHealthy (reports : List CycleReport) : Prop :=
  (∀ report ∈ reports, report.snapshot.summary.severity = .ok ∨
    report.snapshot.summary.severity = .unknown) →
  ∀ report ∈ reports, ∀ signal ∈ report.signals, signal.isAlarm = false

theorem runCycles_overall_alarms (manager : HealthManager) {inputs : List CycleInput}
    {index : Nat} {report : CycleReport}
    (found : (runCycles config loadPct (some manager) inputs).2[index]? = some report) :
    report.alarms "overall" ≠ [] ↔
      (snapshotBefore (runCycles config loadPct (some manager) inputs).2
        index).summary.severity < report.snapshot.summary.severity := by
  obtain ⟨current, signals⟩ := runCycles_signals config loadPct manager found
  rw [CycleReport.alarms, signals, List.filter_append, crashAlarm_overall, List.append_nil]
  exact updateSeverity_overall _ _ _

theorem runCycles_ok_le (healthManager : Option HealthManager) {inputs : List CycleInput}
    {index : Nat} {report : CycleReport}
    (found : (runCycles config loadPct healthManager inputs).2[index]? = some report) :
    Severity.ok ≤ report.snapshot.summary.severity := by
  rw [runCycles_getElem?, Option.map_eq_some_iff] at found
  obtain ⟨input, _, rfl⟩ := found
  exact ok_le_severity config loadPct _ input

theorem runCycles_first (healthManager : Option HealthManager) (first : CycleInput)
    (rest : List CycleInput) :
    (runCycles config loadPct healthManager (first :: rest)).2[0]? =
      some (collectionCycle config loadPct (initializeDaemon config healthManager) first).2 :=
  runCycles_getElem? config loadPct healthManager (first :: rest) 0

/-- A freshly started daemon keeps the contract of the overall alarm exactly
when some domain is worse than `ok` in its first cycle; otherwise the first
snapshot is announced as the change from `unknown` to `ok`. -/
theorem overall_alarm_law_iff (inputs : List CycleInput) :
    let reports := (runCycles config loadPct (some {}) inputs).2
    (OverallAlarmLaw reports ∧ QuietWhileHealthy reports) ↔
      ∀ first, inputs.head? = some first →
        ∃ domain, .ok < evaluateDomain config loadPct first.firstSections domain := by
  intro reports
  cases inputs with
  | nil => simp [reports, runCycles, Machine.respond, OverallAlarmLaw, QuietWhileHealthy]
  | cons first rest =>
      have start := runCycles_first config loadPct (some {}) first rest
      simp only [List.head?_cons, Option.some.injEq, forall_eq']
      rw [← first_severity_above_ok config loadPct (some {})]
      constructor
      · rintro ⟨law, _⟩
        refine ((law 0 _ start).mp ?_).1
        rw [runCycles_overall_alarms config loadPct {} start]
        have lowest : Severity.unknown < Severity.ok := by decide
        exact lt_of_lt_of_le lowest (ok_le_severity config loadPct _ first)
      · intro above
        constructor
        · intro index report found
          rw [runCycles_overall_alarms config loadPct {} found]
          refine ⟨fun worse => ⟨?_, worse⟩, And.right⟩
          cases index with
          | zero =>
              rw [start] at found
              exact Option.some.inj found ▸ above
          | succ index =>
              have bound := (List.getElem?_eq_some_iff.mp found).1
              have present := List.getElem?_eq_getElem (Nat.lt_of_succ_lt bound)
              rw [snapshotBefore, present] at worse
              exact lt_of_le_of_lt (runCycles_ok_le config loadPct (some {}) present) worse
        · intro healthy
          rcases healthy _ (List.mem_of_getElem? start) with same | same
          · rw [same] at above
            exact absurd above (lt_irrefl _)
          · rw [same] at above
            exact absurd above (by decide)

theorem healthy_start_alarms :
    let reports := (runCycles {} (fun _ => .finite 0) (some {}) [healthyInput 0]).2
    ¬OverallAlarmLaw reports ∧ ¬QuietWhileHealthy reports := by
  constructor
  · intro law
    have raised := (law 0 _ rfl).mp (by decide)
    exact absurd raised.1 (by decide)
  · intro quiet
    have silent := quiet (by decide) _ (List.mem_of_getElem? (i := 0) rfl)
      (.healthAlarm "overall" "unknown -> ok" "ok") (by decide)
    cases silent

end Runs

end EdgeHealthd
