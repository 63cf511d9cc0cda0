import EdgeHealthd.EventLoop
import EdgeHealthd.Freshness

/-!
What an accepted `TriggerSnapshot` buys. The callback wakes the main thread and
leaves the probe schedules alone, so the woken cycle re-collects a section only
if its schedule happens to be due.
-/

namespace EdgeHealthd

def perCycleSections : List Section := [.boot, .services, .resources, .journal, .crash]

def Recollected (kind : Section) (report : CycleReport) : Prop :=
  ∃ payload, report.calls.get kind = some (.ok payload) ∧
    eraseFreshness (report.snapshot.payload kind) = eraseFreshness payload

theorem recollected_iff (config : Config) (loadPct : CpuLoad → Double) (daemon : Daemon)
    (input : CycleInput) (kind : Section) {payload : kind.Payload}
    (result : (input.reading kind).result = .ok payload) :
    Recollected kind (collectionCycle config loadPct daemon input).2 ↔
      ((daemon.slot kind).force (input.forced kind) input.now).schedule.isDue input.now = true := by
  constructor
  · rintro ⟨collected, called, _⟩
    rw [collectionCycle_calls] at called
    by_contra idle
    simp [Slot.call, idle] at called
  · intro due
    have outcome : successOf input.now (input.reading kind)
        (((daemon.slot kind).force (input.forced kind) input.now).call input.now
          (input.reading kind)) = some ⟨input.now, (input.reading kind).stampedAt, payload⟩ := by
      simp only [Slot.call, due, if_true, result, successOf]
    refine ⟨payload, ?_, ?_⟩
    · rw [collectionCycle_calls]
      simp only [Slot.call, due, if_true, result]
    · rw [collectionCycle_snapshot, collectionCycle_slot, Slot.cycle,
        (Slot.markStale_same _ _).eraseFreshness_eq, (Slot.maybeCollect_success _ _ _ outcome).2]
      exact eraseFreshness_stampCollected _ _

section Runs

variable (config : Config) (loadPct : CpuLoad → Double)

/-- A trigger accepted at time `now`; the next cycle starts in `ready` with
`input` and publishes `report`. -/
def TriggeredCycle (start : System) (now : SteadyTime) (ready : System) (input : CycleInput)
    (report : CycleReport) : Prop :=
  ∃ past before accepted wait rest final,
    Machine.follow (step config loadPct) start past = some before ∧
      step config loadPct before (.bus (.triggerSnapshot now)) = some accepted ∧
      accepted.bus = .triggerWake ∧
      Machine.follow (step config loadPct) accepted wait = some ready ∧
      (∀ action ∈ wait, action.startsCycle = false) ∧
      Machine.follow (step config loadPct) ready (.main (.startCycle input) :: rest) =
        some final ∧
      (∀ action ∈ rest, action.startsCycle = false) ∧ final.main = .published report

theorem TriggeredCycle.report_eq {start ready : System} {now : SteadyTime} {input : CycleInput}
    {report : CycleReport}
    (triggered : TriggeredCycle config loadPct start now ready input report) :
    report.input.now = input.now ∧
      report = (collectionCycle config loadPct ready.daemon report.input).2 := by
  obtain ⟨_, _, _, _, rest, final, _, _, _, _, _, cycle, same, done⟩ := triggered
  obtain ⟨fills, equal⟩ := cycle_report config loadPct cycle same done
  refine ⟨?_, congrArg Prod.snd equal⟩
  rw [fills]

theorem TriggeredCycle.interval {healthManager : Option HealthManager} {crashState : StateFile}
    {pstore : Pstore} {ready : System} {now : SteadyTime} {input : CycleInput}
    {report : CycleReport}
    (triggered : TriggeredCycle config loadPct
      (System.start config healthManager crashState pstore) now ready input report)
    (kind : Section) : (ready.daemon.slot kind).schedule.interval = kind.interval config := by
  obtain ⟨past, before, accepted, wait, _, _, reached, trigger, _, waited, _⟩ := triggered
  have run : Machine.follow (step config loadPct)
      (System.start config healthManager crashState pstore)
      (past ++ .bus (.triggerSnapshot now) :: wait) = some ready :=
    Machine.follow_append_some.mpr ⟨before, reached,
      Machine.follow_cons_some.mpr ⟨accepted, trigger, waited⟩⟩
  exact run_interval config loadPct run kind

/-- The cycle after an accepted trigger publishes new data for all per-cycle
sections exactly when every one of their schedules is due as it starts, where a
pending acknowledgement counts as due for the crash section. -/
theorem trigger_recollects_iff (valid : config.validate = none)
    (healthManager : Option HealthManager) (crashState : StateFile) (pstore : Pstore)
    (now : SteadyTime) (ready : System) (input : CycleInput) (report : CycleReport)
    (triggered : TriggeredCycle config loadPct
      (System.start config healthManager crashState pstore) now ready input report)
    (succeed : ∀ kind ∈ perCycleSections,
      ∃ payload, (report.input.reading kind).result = .ok payload) :
    (∀ kind ∈ perCycleSections, Recollected kind report) ↔
      ∀ kind ∈ perCycleSections,
        (ready.daemon.slot kind).schedule.isDue input.now = true ∨
          report.input.forced kind = true := by
  obtain ⟨clock, equal⟩ := triggered.report_eq config loadPct
  have each : ∀ kind ∈ perCycleSections, (Recollected kind report ↔
      (ready.daemon.slot kind).schedule.isDue input.now = true ∨
        report.input.forced kind = true) := by
    intro kind member
    obtain ⟨payload, result⟩ := succeed kind member
    have repeats : 0 < (ready.daemon.slot kind).schedule.interval := by
      rw [triggered.interval config loadPct kind]
      have intervals := validate_intervals config valid
      simp only [perCycleSections, List.mem_cons, List.not_mem_nil, or_false] at member
      rcases member with rfl | rfl | rfl | rfl | rfl <;> simp only [Section.interval] <;> omega
    have collected := recollected_iff config loadPct ready.daemon report.input kind result
    rw [← equal, clock] at collected
    exact collected.trans (Slot.force_isDue_iff _ _ _ repeats)
  constructor
  · intro collected kind member
    exact (each kind member).mp (collected kind member)
  · intro due kind member
    exact (each kind member).mpr (due kind member)

theorem early_trigger_recollects_nothing :
    ∃ ready report, TriggeredCycle {} (fun _ => .finite 0)
      (System.start {} (some {}) .missing {}) (seconds 10) ready (healthyInput (seconds 10))
      report ∧
      (∀ kind ∈ perCycleSections, ∃ payload, (report.input.reading kind).result = .ok payload) ∧
      ¬∀ kind ∈ perCycleSections, Recollected kind report := by
  refine ⟨_, _, ⟨firstCycle, _, _, .bus .triggerWake :: wakeUp, cycleSteps false, _, rfl, rfl,
    rfl, rfl, by decide, rfl, by decide, rfl⟩, ?_, ?_⟩
  · intro kind member
    cases kind <;> exact ⟨_, rfl⟩
  · intro collected
    obtain ⟨_, called, _⟩ := collected .boot (by decide)
    cases called

theorem late_trigger_recollects_all :
    ∃ ready report, TriggeredCycle {} (fun _ => .finite 0)
      (System.start {} (some {}) .missing {}) (seconds 120) ready (healthyInput (seconds 120))
      report ∧ ∀ kind ∈ perCycleSections, Recollected kind report := by
  have triggered : TriggeredCycle {} (fun _ => .finite 0) (System.start {} (some {}) .missing {})
      (seconds 120) _ (healthyInput (seconds 120)) _ :=
    ⟨firstCycle, _, _, .bus .triggerWake :: wakeUp, cycleSteps true, _, rfl, rfl, rfl, rfl,
      by decide, rfl, by decide, rfl⟩
  refine ⟨_, _, triggered, ?_⟩
  refine (trigger_recollects_iff {} (fun _ => .finite 0) (by decide) (some {}) .missing {}
    (seconds 120) _ _ _ triggered ?_).mpr ?_
  · intro kind member
    cases kind <;> exact ⟨_, rfl⟩
  · intro kind member
    cases kind <;> first | exact Or.inl rfl | exact absurd member (by decide)

end Runs

end EdgeHealthd
