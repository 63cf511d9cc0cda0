import EdgeHealthd.Sections
import Mathlib.Algebra.Order.Group.Int

/-!
What a section of `last_known_good_` says about its probe. The cache is the
latest success, the stamp is its stamp, and for a section no flag can force the
`stale` mark is a law about the age of that success.
-/

namespace EdgeHealthd

section Payload

variable {Payload : Type} [CachedSection Payload]

def sectionFreshness (payload : Payload) : Option SectionFreshness :=
  (freshnessField Payload).map fun field => field.get payload

def eraseFreshness (payload : Payload) : Payload :=
  match freshnessField Payload with
  | some field => field.set {} payload
  | none => payload

def SameButStale (before after : Payload) : Prop :=
  match freshnessField Payload with
  | some field => ∃ stale, after = field.set { field.get before with stale } before
  | none => after = before

theorem sectionFreshness_stampCollected (stampedAt : WallTime) (payload : Payload)
    {freshness : SectionFreshness}
    (found : sectionFreshness (stampCollected stampedAt payload) = some freshness) :
    freshness = { collectedAt := some stampedAt, stale := false } := by
  unfold sectionFreshness stampCollected at found
  cases field : freshnessField Payload with
  | none => simp [field] at found
  | some field' =>
      simp only [field, Option.map_some, Option.some.injEq, field'.get_set] at found
      exact found.symm

theorem eraseFreshness_stampCollected (stampedAt : WallTime) (payload : Payload) :
    eraseFreshness (stampCollected stampedAt payload) = eraseFreshness payload := by
  unfold eraseFreshness stampCollected
  cases field : freshnessField Payload with
  | none => rfl
  | some field' => exact field'.set_set _ _ _

theorem SameButStale.eraseFreshness_eq {before after : Payload} (same : SameButStale before after) :
    eraseFreshness after = eraseFreshness before := by
  unfold SameButStale at same
  unfold eraseFreshness
  cases field : freshnessField Payload with
  | none =>
      simp only [field] at same ⊢
      exact same
  | some field' =>
      simp only [field] at same ⊢
      obtain ⟨stale, rfl⟩ := same
      exact field'.set_set _ _ _

theorem SameButStale.collectedAt_eq {before after : Payload} (same : SameButStale before after)
    {freshness : SectionFreshness} (found : sectionFreshness after = some freshness) :
    ∃ earlier, sectionFreshness before = some earlier ∧
      earlier.collectedAt = freshness.collectedAt := by
  unfold SameButStale at same
  unfold sectionFreshness at found ⊢
  cases field : freshnessField Payload with
  | none => simp [field] at found
  | some field' =>
      simp only [field] at same found ⊢
      obtain ⟨stale, rfl⟩ := same
      simp only [Option.map_some, Option.some.injEq, field'.get_set] at found
      exact ⟨field'.get before, rfl, by rw [← found]⟩

theorem Slot.markStale_same (slot : Slot Payload) (now : SteadyTime) :
    SameButStale slot.cache (slot.markStale now).cache := by
  unfold SameButStale Slot.markStale
  cases field : freshnessField Payload with
  | none => rfl
  | some field' =>
      simp only
      split
      · exact ⟨_, rfl⟩
      · exact ⟨(field'.get slot.cache).stale, (field'.set_get slot.cache).symm⟩

theorem Slot.markStale_stale (slot : Slot Payload) (now : SteadyTime)
    {freshness : SectionFreshness}
    (found : sectionFreshness (slot.markStale now).cache = some freshness) :
    freshness.stale =
      if slot.schedule.hasResult && slot.schedule.interval > 0 then
        decide (now > slot.schedule.nextRun +
          max (seconds slot.schedule.interval) (seconds 30))
      else (sectionFreshness slot.cache).any SectionFreshness.stale := by
  unfold sectionFreshness Slot.markStale at found
  unfold sectionFreshness
  cases field : freshnessField Payload with
  | none => simp [field] at found
  | some field' =>
      simp only [field, Option.map_some, Option.some.injEq, Option.any_some] at found ⊢
      split at found
      · rename_i repeats
        rw [if_pos repeats, ← found, field'.get_set]
      · rename_i idle
        rw [if_neg idle, found]

/-- What a section shows after a run, in terms of its latest successful collection. -/
structure TracksLatest (initial : Payload) (slot : Slot Payload)
    (latest : Option (Success Payload)) : Prop where
  payload : eraseFreshness slot.cache =
    eraseFreshness ((latest.map Success.payload).getD initial)
  hasResult : slot.schedule.hasResult = true ↔ latest.isSome
  collectedAt : ∀ freshness, sectionFreshness slot.cache = some freshness →
    freshness.collectedAt = latest.map Success.stampedAt
  staleCollected : ∀ freshness, sectionFreshness slot.cache = some freshness →
    freshness.stale = true → freshness.collectedAt.isSome

theorem TracksLatest.markStale {initial : Payload} {slot : Slot Payload}
    {latest : Option (Success Payload)} (tracks : TracksLatest initial slot latest)
    (now : SteadyTime) : TracksLatest initial (slot.markStale now) latest := by
  have same := slot.markStale_same now
  have stamp : ∀ freshness, sectionFreshness (slot.markStale now).cache = some freshness →
      freshness.collectedAt = latest.map Success.stampedAt := by
    intro freshness found
    obtain ⟨earlier, present, equal⟩ := same.collectedAt_eq found
    rw [← equal]
    exact tracks.collectedAt earlier present
  refine ⟨same.eraseFreshness_eq.trans tracks.payload, ?_, stamp, ?_⟩
  · rw [Slot.markStale_schedule]
    exact tracks.hasResult
  · intro freshness found marked
    obtain ⟨earlier, present, equal⟩ := same.collectedAt_eq found
    rw [slot.markStale_stale now found] at marked
    split at marked
    · rename_i repeats
      simp only [Bool.and_eq_true, decide_eq_true_eq] at repeats
      rw [stamp freshness found, Option.isSome_map]
      exact tracks.hasResult.mp repeats.1
    · rw [present] at marked
      rw [← equal]
      exact tracks.staleCollected earlier present marked

theorem TracksLatest.cycle {initial : Payload} {slot : Slot Payload}
    {latest : Option (Success Payload)} (tracks : TracksLatest initial slot latest)
    (forced : Bool) (now : SteadyTime) (reading : Reading Payload) :
    TracksLatest initial (slot.cycle forced now reading)
      ((slot.success forced now reading).or latest) := by
  apply TracksLatest.markStale
  cases outcome : slot.success forced now reading with
  | none =>
      rw [Slot.maybeCollect_failed _ _ _ outcome, Option.none_or]
      refine ⟨?_, ?_, ?_, ?_⟩
      · simpa using tracks.payload
      · simpa using tracks.hasResult
      · simpa using tracks.collectedAt
      · simpa using tracks.staleCollected
  | some success =>
      rw [(Slot.maybeCollect_success _ _ _ outcome).2, Option.some_or]
      refine ⟨?_, ?_, ?_, ?_⟩
      · exact eraseFreshness_stampCollected _ _
      · simp
      · intro freshness found
        rw [sectionFreshness_stampCollected _ _ found]
        rfl
      · intro freshness found marked
        rw [sectionFreshness_stampCollected _ _ found] at marked
        cases marked

theorem Slot.cycle_failed (slot : Slot Payload) (forced : Bool) (now : SteadyTime)
    (reading : Reading Payload) (failed : slot.success forced now reading = none) :
    SameButStale slot.cache (slot.cycle forced now reading).cache := by
  have marked := ((slot.force forced now).maybeCollect now reading).markStale_same now
  rw [Slot.maybeCollect_failed _ _ _ failed, Slot.force_cache] at marked
  rw [Slot.cycle, Slot.maybeCollect_failed _ _ _ failed]
  exact marked

theorem Slot.cycle_success_fresh (slot : Slot Payload) (forced : Bool) (now : SteadyTime)
    (reading : Reading Payload) (succeeded : (slot.success forced now reading).isSome)
    {freshness : SectionFreshness}
    (found : sectionFreshness (slot.cycle forced now reading).cache = some freshness) :
    freshness.stale = false := by
  obtain ⟨success, outcome⟩ := Option.isSome_iff_exists.mp succeeded
  obtain ⟨start, collected⟩ := Slot.maybeCollect_success _ _ _ outcome
  rw [Slot.markStale_stale _ now found, collected]
  split
  · rename_i repeats
    simp only [Bool.true_and, decide_eq_true_eq] at repeats
    have grace := le_max_right (seconds (slot.force forced now).schedule.interval) (seconds 30)
    rw [decide_eq_false_iff_not, not_lt, start]
    refine le_add_of_le_of_nonneg (le_add_of_nonneg_right ?_) (le_trans (by decide) grace)
    exact Int.mul_nonneg (le_of_lt repeats) (by decide)
  · cases stamped : sectionFreshness (stampCollected success.stampedAt success.payload) with
    | none => rfl
    | some fresh => rw [sectionFreshness_stampCollected _ _ stamped]; rfl

structure OnSchedule (interval : Int) (slot : Slot Payload)
    (latest : Option (Success Payload)) : Prop where
  repeats : slot.schedule.interval = interval
  nextRun : ∀ success, latest = some success →
    slot.schedule.nextRun = success.startedAt + seconds interval

theorem OnSchedule.maybeCollect {interval : Int} {slot : Slot Payload}
    {latest : Option (Success Payload)} (scheduled : OnSchedule interval slot latest)
    (now : SteadyTime) (reading : Reading Payload) :
    OnSchedule interval (slot.maybeCollect now reading)
      ((successOf now reading (slot.call now reading)).or latest) := by
  refine ⟨by rw [Slot.maybeCollect_interval]; exact scheduled.repeats, ?_⟩
  intro success found
  cases outcome : successOf now reading (slot.call now reading) with
  | none =>
      rw [outcome, Option.none_or] at found
      rw [Slot.maybeCollect_failed _ _ _ outcome]
      exact scheduled.nextRun success found
  | some current =>
      rw [outcome, Option.some_or, Option.some.injEq] at found
      subst success
      rw [(Slot.maybeCollect_success _ _ _ outcome).2, ← scheduled.repeats]

theorem OnSchedule.cycle {interval : Int} {slot : Slot Payload}
    {latest : Option (Success Payload)} (scheduled : OnSchedule interval slot latest)
    (now : SteadyTime) (reading : Reading Payload) :
    OnSchedule interval (slot.cycle false now reading)
      ((slot.success false now reading).or latest) := by
  have collected := scheduled.maybeCollect now reading
  constructor
  · rw [Slot.cycle, Slot.markStale_schedule]
    exact collected.repeats
  · intro success found
    rw [Slot.cycle, Slot.markStale_schedule]
    exact collected.nextRun success found

/-- How long a success keeps its section fresh: one interval, and a grace period
of one more with a floor of 30 s. -/
def freshnessWindow (interval : Int) : Int :=
  seconds interval + max (seconds interval) (seconds 30)

theorem Slot.cycle_stale_iff {interval : Int} {initial : Payload} {slot : Slot Payload}
    {latest : Option (Success Payload)} (scheduled : OnSchedule interval slot latest)
    (tracks : TracksLatest initial slot latest) (positive : 0 < interval)
    (now : SteadyTime) (reading : Reading Payload) {freshness : SectionFreshness}
    (found : sectionFreshness (slot.cycle false now reading).cache = some freshness) :
    freshness.stale = true ↔
      History.Overdue (freshnessWindow interval)
        (((slot.success false now reading).or latest).map Success.startedAt) now := by
  have collected := scheduled.maybeCollect now reading
  have shown := tracks.cycle false now reading
  have hasResult := shown.hasResult
  rw [Slot.cycle_unforced] at found hasResult
  rw [Slot.markStale_schedule] at hasResult
  have marked := Slot.markStale_stale _ now found
  cases current : (slot.success false now reading).or latest with
  | none =>
      have unmarked := shown.staleCollected freshness found
      rw [shown.collectedAt freshness found, current] at unmarked
      simp only [History.Overdue, Option.map_none, reduceCtorEq, false_and, exists_false,
        iff_false]
      intro stale
      simpa using unmarked stale
  | some success =>
      rw [current] at hasResult
      have present : (slot.maybeCollect now reading).schedule.hasResult = true := by
        simpa using hasResult
      have next := collected.nextRun success current
      rw [marked, present, collected.repeats, next]
      simp only [positive, decide_true, Bool.and_self, if_true, decide_eq_true_eq,
        History.Overdue, Option.map_some, Option.some.injEq, exists_eq_left', freshnessWindow,
        add_assoc, gt_iff_lt]

end Payload

def Section.initial : (kind : Section) → kind.Payload
  | .device => {}
  | .boot => {}
  | .services => {}
  | .resources => {}
  | .timeSync => {}
  | .update => {}
  | .journal => {}
  | .crash => {}

theorem sectionFreshness_isSome (kind : Section) (payload : kind.Payload) :
    (sectionFreshness payload).isSome ↔ kind ≠ .device := by
  cases kind <;> simp [sectionFreshness, freshnessField, CachedSection.freshness]

section Runs

variable (config : Config) (loadPct : CpuLoad → Double) (healthManager : Option HealthManager)

theorem initializeDaemon_tracks (kind : Section) :
    TracksLatest kind.initial ((initializeDaemon config healthManager).slot kind) none := by
  cases kind <;>
    refine ⟨rfl, by simp [initializeDaemon, Daemon.slot], ?_, ?_⟩ <;>
    intro freshness found <;>
    simp only [sectionFreshness, freshnessField, CachedSection.freshness, Option.map_none,
      Option.map_some, reduceCtorEq, Option.some.injEq] at found <;>
    simp [← found, initializeDaemon, Daemon.slot]

theorem runCycles_tracks (inputs : List CycleInput) (kind : Section) :
    TracksLatest kind.initial ((runCycles config loadPct healthManager inputs).1.slot kind)
      (History.latest (CycleReport.success kind)
        (runCycles config loadPct healthManager inputs).2) :=
  runCycles_slot_induction config loadPct kind (TracksLatest kind.initial) healthManager
    (initializeDaemon_tracks config healthManager kind)
    (fun _ _ input tracks => tracks.cycle (input.forced kind) input.now (input.reading kind))
    inputs

/-- After every run, each of the eight sections shows its latest successful
collection and nothing else; a cycle without one moves at most the stale flag. -/
theorem sections_show_latest_success (inputs : List CycleInput) (kind : Section) :
    let run := runCycles config loadPct healthManager inputs
    let latest := History.latest (CycleReport.success kind) run.2
    TracksLatest kind.initial (run.1.slot kind) latest ∧
      ((sectionFreshness (run.1.slot kind).cache).isSome ↔ kind ≠ .device) ∧
      ∀ input, (collectionCycle config loadPct run.1 input).2.success kind = none →
        SameButStale (run.1.slot kind).cache
          ((collectionCycle config loadPct run.1 input).1.slot kind).cache := by
  intro run latest
  refine ⟨runCycles_tracks config loadPct healthManager inputs kind,
    sectionFreshness_isSome kind _, ?_⟩
  intro input failed
  rw [collectionCycle_success] at failed
  rw [collectionCycle_slot]
  exact Slot.cycle_failed _ _ _ _ failed

theorem runCycles_onSchedule (inputs : List CycleInput) (kind : Section)
    (unforced : ∀ input : CycleInput, input.forced kind = false) :
    OnSchedule (kind.interval config)
      ((runCycles config loadPct healthManager inputs).1.slot kind)
      (History.latest (CycleReport.success kind)
        (runCycles config loadPct healthManager inputs).2) := by
  apply runCycles_slot_induction config loadPct kind (OnSchedule (kind.interval config))
  · refine ⟨?_, by simp⟩
    cases kind <;> rfl
  · intro slot latest input scheduled
    rw [unforced input]
    exact scheduled.cycle input.now (input.reading kind)

def unforcedSections : List Section := [.boot, .services, .resources, .timeSync, .journal]

theorem unforcedSections_spec (valid : config.validate = none) {kind : Section}
    (member : kind ∈ unforcedSections) :
    (∀ input : CycleInput, input.forced kind = false) ∧ kind ≠ .device ∧
      0 < kind.interval config := by
  have intervals := validate_intervals config valid
  simp only [unforcedSections, List.mem_cons, List.not_mem_nil, or_false] at member
  rcases member with rfl | rfl | rfl | rfl | rfl <;>
    refine ⟨fun _ => rfl, by decide, ?_⟩ <;>
    simp only [Section.interval] <;>
    omega

def isStale (inputs : List CycleInput) (kind : Section) : Bool :=
  (sectionFreshness
    ((runCycles config loadPct healthManager inputs).1.slot kind).cache).any
      SectionFreshness.stale

theorem isStale_iff_overdue (valid : config.validate = none) {kind : Section}
    (member : kind ∈ unforcedSections) (past : List CycleInput) (current : CycleInput) :
    isStale config loadPct healthManager (past ++ [current]) kind = true ↔
      History.Overdue (freshnessWindow (kind.interval config))
        ((History.latest (CycleReport.success kind)
          (runCycles config loadPct healthManager (past ++ [current])).2).map Success.startedAt)
        current.now := by
  obtain ⟨unforced, notDevice, positive⟩ := unforcedSections_spec config valid member
  have present := (sectionFreshness_isSome kind
    ((runCycles config loadPct healthManager (past ++ [current])).1.slot kind).cache).mpr notDevice
  obtain ⟨freshness, found⟩ := Option.isSome_iff_exists.mp present
  rw [isStale, found, Option.any_some]
  rw [runCycles_snoc] at found ⊢
  rw [collectionCycle_slot, unforced current] at found
  rw [History.latest_snoc, collectionCycle_success, unforced current]
  exact Slot.cycle_stale_iff
    (runCycles_onSchedule config loadPct healthManager past kind unforced)
    (runCycles_tracks config loadPct healthManager past kind) positive current.now
    (current.reading kind) found

def NonDecreasing (inputs : List CycleInput) : Prop :=
  inputs.Pairwise fun earlier later => earlier.now ≤ later.now

theorem overdue_iff (interval : Int) {Payload : Type} (latest : Option (Success Payload))
    (now : SteadyTime) :
    History.Overdue (freshnessWindow interval) (latest.map Success.startedAt) now ↔
      ∃ success, latest = some success ∧ now > success.startedAt + seconds interval +
        max (seconds interval) (seconds 30) := by
  cases latest with
  | none => simp [History.Overdue]
  | some success => simp [History.Overdue, freshnessWindow, add_assoc]

theorem freshnessWindow_nonneg {interval : Int} (positive : 0 < interval) :
    0 ≤ freshnessWindow interval := by
  simp only [freshnessWindow, seconds]
  exact add_nonneg (by omega) (le_max_of_le_right (by decide))

theorem runCycles_last_success {kind : Section} {past : List CycleInput} {current : CycleInput}
    {report : CycleReport} {success : Success kind.Payload}
    (isLast : (runCycles config loadPct healthManager (past ++ [current])).2.getLast? = some report)
    (found : report.success kind = some success) :
    History.latest (CycleReport.success kind)
        (runCycles config loadPct healthManager (past ++ [current])).2 = some success ∧
      success.startedAt = current.now := by
  rw [runCycles_snoc] at isLast ⊢
  rw [List.getLast?_concat, Option.some.injEq] at isLast
  constructor
  · rw [History.latest_snoc, isLast, found, Option.some_or]
  · rw [← isLast, collectionCycle_success] at found
    exact (Slot.maybeCollect_success _ _ _ found).1

/-- At the end of every cycle an unforced section is stale exactly when it was
collected before and its latest success is older than one interval plus the
grace period; without a new success the flag only ever goes up. -/
theorem stale_flag_is_age_law (valid : config.validate = none) (kind : Section)
    (member : kind ∈ unforcedSections) (past : List CycleInput) (current : CycleInput) :
    let stale := fun inputs => isStale config loadPct healthManager inputs kind
    let reports := (runCycles config loadPct healthManager (past ++ [current])).2
    let latest := History.latest (CycleReport.success kind) reports
    let aged := fun now => ∃ success, latest = some success ∧
      now > success.startedAt + seconds (kind.interval config) +
        max (seconds (kind.interval config)) (seconds 30)
    (stale (past ++ [current]) = true ↔ aged current.now) ∧
      (∀ report, reports.getLast? = some report → (report.success kind).isSome →
        stale (past ++ [current]) = false) ∧
      (latest = none → stale (past ++ [current]) = false) ∧
      ∀ more last, NonDecreasing ((past ++ [current]) ++ (more ++ [last])) →
        (∀ report ∈ (Machine.respond (collectionCycle config loadPct)
          (runCycles config loadPct healthManager (past ++ [current])).1 (more ++ [last])).2,
          report.success kind = none) →
        (stale (past ++ [current]) = true →
          stale ((past ++ [current]) ++ (more ++ [last])) = true) ∧
        (stale ((past ++ [current]) ++ (more ++ [last])) = true ↔ aged last.now) := by
  intro stale reports latest aged
  have law := isStale_iff_overdue config loadPct healthManager valid member past current
  have ageLaw : stale (past ++ [current]) = true ↔ aged current.now :=
    law.trans (overdue_iff _ _ _)
  refine ⟨ageLaw, ?_, ?_, ?_⟩
  · intro report isLast succeeded
    obtain ⟨success, found⟩ := Option.isSome_iff_exists.mp succeeded
    obtain ⟨isLatest, start⟩ :=
      runCycles_last_success config loadPct healthManager isLast found
    have positive := (unforcedSections_spec config valid member).2.2
    rw [Bool.eq_false_iff, ne_eq, law]
    change ¬History.Overdue _ (latest.map Success.startedAt) _
    rw [show latest = some success from isLatest, Option.map_some, start]
    exact History.not_overdue_now (freshnessWindow_nonneg positive)
  · intro never
    rw [Bool.eq_false_iff, ne_eq, ageLaw]
    rintro ⟨success, found, _⟩
    rw [never] at found
    cases found
  · intro more last later silent
    have kept : History.latest (CycleReport.success kind)
        (runCycles config loadPct healthManager ((past ++ [current]) ++ (more ++ [last]))).2 =
          latest := by
      rw [runCycles_append]
      exact History.latest_append_silent _ _ _ silent
    have lastLaw := isStale_iff_overdue config loadPct healthManager valid member
      ((past ++ [current]) ++ more) last
    rw [List.append_assoc, kept] at lastLaw
    refine ⟨?_, lastLaw.trans (overdue_iff _ _ _)⟩
    intro marked
    apply lastLaw.mpr
    apply (law.mp marked).later
    have pairs := (List.pairwise_append.mp later).2.2
    exact pairs current (by simp) last (by simp)

theorem stale_after_two_minutes :
    isStale {} (fun _ => .finite 0) none
      [healthyInput 0, memoryFailureInput (seconds 121)] .resources = true :=
  (stale_flag_is_age_law {} (fun _ => .finite 0) none (by decide) .resources (by decide)
    [healthyInput 0] (memoryFailureInput (seconds 121))).1.mpr
    ⟨⟨0, 0, { memory := { memTotalMb := 1024, memUsedMb := 256 } }⟩, rfl, by decide⟩

end Runs

end EdgeHealthd
