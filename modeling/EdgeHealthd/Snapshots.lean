import EdgeHealthd.Aggregator
import EdgeHealthd.Freshness

/-!
What the snapshots of a run say about each domain: the evaluation of the latest
successful collection, or of the default section where there was none. Three of
the seven default sections evaluate to something other than `unknown`.
-/

namespace EdgeHealthd

def Domain.section : Domain → Section
  | .boot => .boot
  | .services => .services
  | .resources => .resources
  | .timeSync => .timeSync
  | .update => .update
  | .journal => .journal
  | .crash => .crash

section Evaluation

variable (config : Config) (loadPct : CpuLoad → Double)

theorem sectionFreshness_payload (sections : SnapshotState) (domain : Domain) :
    sectionFreshness (sections.payload domain.section) = some (sections.freshness domain) := by
  cases domain <;> rfl

theorem evaluateDomain_congr (first second : SnapshotState) (domain : Domain)
    (same : eraseFreshness (first.payload domain.section) =
      eraseFreshness (second.payload domain.section)) :
    evaluateDomain config loadPct first domain = evaluateDomain config loadPct second domain := by
  cases domain with
  | boot => have equal := congrArg (evaluateBoot config) same; exact equal
  | services => have equal := congrArg evaluateServices same; exact equal
  | resources => have equal := congrArg (evaluateResources config loadPct) same; exact equal
  | timeSync => have equal := congrArg evaluateTimeSync same; exact equal
  | update => have equal := congrArg evaluateUpdate same; exact equal
  | journal => have equal := congrArg evaluateJournal same; exact equal
  | crash => have equal := congrArg evaluateCrash same; exact equal

theorem ok_le_evaluateBoot (boot : BootStatus) : Severity.ok ≤ evaluateBoot config boot := by
  unfold evaluateBoot
  split
  · decide
  · split
    · decide
    · split <;> decide

def neverUnknown : List Domain := [.boot, .resources, .crash]

theorem evaluateDomain_initial (sections : SnapshotState) (domain : Domain)
    (initial : eraseFreshness (sections.payload domain.section) =
      eraseFreshness domain.section.initial) :
    evaluateDomain config loadPct sections domain = .unknown ↔ domain ∉ neverUnknown := by
  have default : evaluateDomain config loadPct sections domain =
      evaluateDomain config loadPct {} domain := by
    apply evaluateDomain_congr
    rw [initial]
    cases domain <;> rfl
  have above {severity : Severity} (bound : Severity.ok ≤ severity) : severity ≠ .unknown := by
    intro unknown
    rw [unknown] at bound
    exact absurd bound (by decide)
  rw [default]
  cases domain with
  | boot => simpa [neverUnknown, evaluateDomain] using above (ok_le_evaluateBoot config {})
  | resources =>
      simpa [neverUnknown, evaluateDomain] using
        above (ok_le_evaluateResources config loadPct {})
  | crash => simp [neverUnknown, evaluateDomain, evaluateCrash]
  | services | timeSync | update | journal =>
      simp [neverUnknown, evaluateDomain, evaluateServices, evaluateTimeSync, evaluateUpdate,
        evaluateJournal]

end Evaluation

section Runs

variable (config : Config) (loadPct : CpuLoad → Double) (healthManager : Option HealthManager)

theorem collectionCycle_summary (daemon : Daemon) (input : CycleInput) :
    (collectionCycle config loadPct daemon input).2.snapshot.summary =
      (aggregateSections config loadPct input.generatedAt
        (collectionCycle config loadPct daemon input).2.snapshot).summary := rfl

theorem collectionCycle_domain (daemon : Daemon) (input : CycleInput) (domain : Domain) :
    let snapshot := (collectionCycle config loadPct daemon input).2.snapshot
    snapshot.summary.domains.get domain =
      raiseStale (snapshot.freshness domain) (evaluateDomain config loadPct snapshot domain) := by
  intro snapshot
  simp only [snapshot]
  rw [collectionCycle_summary, aggregate_domain]

theorem runCycles_getElem? (inputs : List CycleInput) (index : Nat) :
    (runCycles config loadPct healthManager inputs).2[index]? = inputs[index]?.map fun input =>
      (collectionCycle config loadPct
        (runCycles config loadPct healthManager (inputs.take index)).1 input).2 :=
  Machine.respond_getElem? _ _ inputs index

theorem runCycles_take (inputs : List CycleInput) (count : Nat) :
    (runCycles config loadPct healthManager inputs).2.take count =
      (runCycles config loadPct healthManager (inputs.take count)).2 :=
  Machine.respond_take _ _ inputs count

theorem runCycles_snapshot (past : List CycleInput) (current : CycleInput) (kind : Section) :
    (collectionCycle config loadPct (runCycles config loadPct healthManager past).1
      current).2.snapshot.payload kind =
        ((runCycles config loadPct healthManager (past ++ [current])).1.slot kind).cache := by
  rw [runCycles_snoc]
  exact collectionCycle_snapshot config loadPct _ current kind

def NeverSucceeded (kind : Section) (reports : List CycleReport) : Prop :=
  ∀ report ∈ reports, report.success kind = none

theorem neverSucceeded_iff (kind : Section) (reports : List CycleReport) :
    NeverSucceeded kind reports ↔ History.latest (CycleReport.success kind) reports = none := by
  rw [← Option.not_isSome_iff_eq_none, History.latest_isSome_iff]
  simp [NeverSucceeded]

theorem collectionCycle_unobserved (past : List CycleInput) (current : CycleInput)
    (domain : Domain)
    (never : NeverSucceeded domain.section
      (runCycles config loadPct healthManager (past ++ [current])).2) :
    (collectionCycle config loadPct (runCycles config loadPct healthManager past).1
      current).2.snapshot.summary.domains.get domain = .unknown ↔ domain ∉ neverUnknown := by
  have tracks := runCycles_tracks config loadPct healthManager (past ++ [current]) domain.section
  rw [(neverSucceeded_iff _ _).mp never] at tracks
  have shown := runCycles_snapshot config loadPct healthManager past current domain.section
  have found := sectionFreshness_payload (collectionCycle config loadPct
    (runCycles config loadPct healthManager past).1 current).2.snapshot domain
  rw [shown] at found
  have unmarked : ((collectionCycle config loadPct (runCycles config loadPct healthManager past).1
      current).2.snapshot.freshness domain).stale = false := by
    have stamped := tracks.staleCollected _ found
    rw [tracks.collectedAt _ found, Option.map_none] at stamped
    simpa using stamped
  rw [collectionCycle_domain, raiseStale, unmarked]
  apply evaluateDomain_initial
  rw [shown]
  exact tracks.payload

/-- Every snapshot of a run shows `unknown` for each domain without a success so far. -/
def UnobservedAreUnknown (reports : List CycleReport) : Prop :=
  ∀ index report, reports[index]? = some report →
    ∀ domain : Domain, NeverSucceeded domain.section (reports.take (index + 1)) →
      report.snapshot.summary.domains.get domain = .unknown

theorem runCycles_first_success (first : CycleInput) (kind : Section) :
    (collectionCycle config loadPct (initializeDaemon config healthManager)
      first).2.success kind =
        successOf first.now (first.reading kind) (some (first.reading kind).result) := by
  rw [collectionCycle_success]
  apply Slot.success_of_due
  simp only [ProbeSchedule.isDue, Slot.force_hasResult]
  cases kind <;> rfl

theorem successOf_isSome_iff {Payload : Type} (now : SteadyTime) (reading : Reading Payload) :
    (successOf now reading (some reading.result)).isSome ↔
      ∃ payload, reading.result = .ok payload := by
  cases result : reading.result with
  | error _ => simp [successOf]
  | ok payload => simp [successOf]

theorem runCycles_unobserved {inputs : List CycleInput} {index : Nat} {report : CycleReport}
    (found : (runCycles config loadPct healthManager inputs).2[index]? = some report)
    (domain : Domain)
    (never : NeverSucceeded domain.section
      ((runCycles config loadPct healthManager inputs).2.take (index + 1))) :
    report.snapshot.summary.domains.get domain = .unknown ↔ domain ∉ neverUnknown := by
  rw [runCycles_getElem?, Option.map_eq_some_iff] at found
  obtain ⟨input, present, rfl⟩ := found
  rw [runCycles_take, List.take_add_one, present] at never
  exact collectionCycle_unobserved config loadPct healthManager _ input domain never

theorem runCycles_head_success {inputs : List CycleInput} {first : CycleInput}
    (found : inputs.head? = some first) (kind : Section) :
    ∃ report, (runCycles config loadPct healthManager inputs).2[0]? = some report ∧
      ((report.success kind).isSome ↔ ∃ payload, (first.reading kind).result = .ok payload) := by
  rw [runCycles_getElem?, ← List.head?_eq_getElem?, found]
  refine ⟨_, rfl, ?_⟩
  rw [List.take_zero]
  change ((collectionCycle config loadPct (initializeDaemon config healthManager)
    first).2.success kind).isSome ↔ _
  rw [runCycles_first_success, successOf_isSome_iff]

/-- A run keeps every unobserved domain `unknown` exactly when its first cycle
collects boot, resources and crash: these three read as observed from the start. -/
theorem unobserved_unknown_iff (inputs : List CycleInput) :
    let reports := (runCycles config loadPct healthManager inputs).2
    (UnobservedAreUnknown reports ↔
      ∀ first, inputs.head? = some first → ∀ domain ∈ neverUnknown,
        ∃ payload, (first.reading domain.section).result = .ok payload) ∧
      ∀ index report, reports[index]? = some report → ∀ domain : Domain,
        NeverSucceeded domain.section (reports.take (index + 1)) →
          (report.snapshot.summary.domains.get domain = .unknown ↔ domain ∉ neverUnknown) := by
  intro reports
  have exactly : ∀ index report, reports[index]? = some report → ∀ domain : Domain,
      NeverSucceeded domain.section (reports.take (index + 1)) →
        (report.snapshot.summary.domains.get domain = .unknown ↔ domain ∉ neverUnknown) :=
    fun _ _ found domain never =>
      runCycles_unobserved config loadPct healthManager found domain never
  refine ⟨⟨?_, ?_⟩, exactly⟩
  · intro law first isFirst domain member
    obtain ⟨report, found, outcome⟩ :=
      runCycles_head_success config loadPct healthManager isFirst domain.section
    by_contra failed
    have never : NeverSucceeded domain.section (reports.take (0 + 1)) := by
      intro earlier inside
      rw [List.take_add_one, List.take_zero, found] at inside
      obtain rfl : earlier = report := by simpa using inside
      rw [← Option.not_isSome_iff_eq_none, outcome]
      exact failed
    exact (exactly 0 report found domain never).mp (law 0 report found domain never) member
  · intro collected index report found domain never
    rw [exactly index report found domain never]
    intro member
    have length : index < inputs.length := by
      rw [runCycles_getElem?, Option.map_eq_some_iff] at found
      obtain ⟨input, present, _⟩ := found
      exact (List.getElem?_eq_some_iff.mp present).1
    obtain ⟨first, isFirst⟩ : ∃ first, inputs.head? = some first := by
      cases inputs with
      | nil => simp at length
      | cons first rest => exact ⟨first, rfl⟩
    obtain ⟨initial, start, outcome⟩ :=
      runCycles_head_success config loadPct healthManager isFirst domain.section
    have inside : initial ∈ reports.take (index + 1) := by
      apply List.mem_of_getElem? (i := 0)
      rw [List.getElem?_take_of_lt (by omega)]
      exact start
    have succeeded := outcome.mpr (collected first isFirst domain member)
    rw [never initial inside] at succeeded
    cases succeeded

theorem unobserved_resources_read_ok :
    ¬UnobservedAreUnknown
      (runCycles {} (fun _ => .finite 0) none [memoryFailureInput 0]).2 := by
  intro law
  have unknown := law 0 _ rfl .resources (by
    intro report member
    obtain rfl := List.mem_singleton.mp member
    rfl)
  exact absurd unknown (by decide)

end Runs

end EdgeHealthd
