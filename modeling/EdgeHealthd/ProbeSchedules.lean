import EdgeHealthd.Freshness

/-!
When the daemon calls a probe, and what a forced collection does to the stale
mark. A probe that nothing forces is called by the age of its latest success
alone. Forcing rewrites `next_run` before the outcome is known, so after a forced
collection that fails the mark is measured from the forced cycle instead.
-/

namespace EdgeHealthd

section Runs

variable (config : Config) (loadPct : CpuLoad → Double) (healthManager : Option HealthManager)

def called (past : List CycleInput) (current : CycleInput) (kind : Section) : Bool :=
  ((collectionCycle config loadPct (runCycles config loadPct healthManager past).1
    current).2.calls.get kind).isSome

def lastSuccess (inputs : List CycleInput) (kind : Section) : Option (Success kind.Payload) :=
  History.latest (CycleReport.success kind) (runCycles config loadPct healthManager inputs).2

theorem runCycles_interval (inputs : List CycleInput) (kind : Section) :
    ((runCycles config loadPct healthManager inputs).1.slot kind).schedule.interval =
      kind.interval config := by
  apply runCycles_slot_induction config loadPct kind
    (fun slot _ => slot.schedule.interval = kind.interval config)
  · cases kind <;> rfl
  · intro slot latest input repeats
    simpa [Slot.cycle] using repeats

theorem lastSuccess_snoc (past : List CycleInput) (current : CycleInput) (kind : Section) :
    lastSuccess config loadPct healthManager (past ++ [current]) kind =
      ((collectionCycle config loadPct (runCycles config loadPct healthManager past).1
        current).2.success kind).or (lastSuccess config loadPct healthManager past kind) := by
  rw [lastSuccess, runCycles_snoc, History.latest_snoc]
  rfl

theorem called_iff_isDue {kind : Section}
    (unforced : ∀ input : CycleInput, input.forced kind = false) (past : List CycleInput)
    (current : CycleInput) :
    called config loadPct healthManager past current kind = true ↔
      ((runCycles config loadPct healthManager past).1.slot kind).schedule.isDue
        current.now = true := by
  rw [called, collectionCycle_calls, unforced current]
  simp [Slot.call, Slot.force]

theorem isDue_iff {Payload : Type} (slot : Slot Payload) (now : SteadyTime) :
    slot.schedule.isDue now = true ↔
      slot.schedule.hasResult = false ∨
        0 < slot.schedule.interval ∧ slot.schedule.nextRun ≤ now := by
  simp [ProbeSchedule.isDue]

theorem called_iff {kind : Section}
    (unforced : ∀ input : CycleInput, input.forced kind = false) (past : List CycleInput)
    (current : CycleInput) :
    called config loadPct healthManager past current kind = true ↔
      lastSuccess config loadPct healthManager past kind = none ∨
        0 < kind.interval config ∧
          ∃ success, lastSuccess config loadPct healthManager past kind = some success ∧
            success.startedAt + seconds (kind.interval config) ≤ current.now := by
  have tracks := runCycles_tracks config loadPct healthManager past kind
  have scheduled := runCycles_onSchedule config loadPct healthManager past kind unforced
  rw [called_iff_isDue config loadPct healthManager unforced, isDue_iff]
  change TracksLatest kind.initial _ (lastSuccess config loadPct healthManager past kind) at tracks
  change OnSchedule _ _ (lastSuccess config loadPct healthManager past kind) at scheduled
  have hasResult := tracks.hasResult
  cases found : lastSuccess config loadPct healthManager past kind with
  | none =>
      rw [found] at hasResult
      have absent : ((runCycles config loadPct healthManager past).1.slot
          kind).schedule.hasResult = false := by
        simpa using hasResult
      simp [absent]
  | some success =>
      rw [found] at hasResult
      have present := hasResult.mpr rfl
      rw [present, scheduled.repeats, scheduled.nextRun success found]
      simp

/-- How one section is collected over whole runs. -/
structure CalledOnSchedule (kind : Section) : Prop where
  due : ∀ past current, called config loadPct healthManager past current kind = true ↔
    lastSuccess config loadPct healthManager past kind = none ∨
      ∃ success, lastSuccess config loadPct healthManager past kind = some success ∧
        success.startedAt + seconds (kind.interval config) ≤ current.now
  spaced : ∀ past current earlier later,
    lastSuccess config loadPct healthManager past kind = some earlier →
    (collectionCycle config loadPct (runCycles config loadPct healthManager past).1
      current).2.success kind = some later →
    earlier.startedAt + seconds (kind.interval config) ≤ later.startedAt
  retried : ∀ past failed more next,
    NonDecreasing (past ++ (failed :: more) ++ [next]) →
    called config loadPct healthManager past failed kind = true →
    (∀ report ∈ (Machine.respond (collectionCycle config loadPct)
      (runCycles config loadPct healthManager past).1 (failed :: more)).2,
      report.success kind = none) →
    called config loadPct healthManager (past ++ (failed :: more)) next kind = true
  undisturbed : ∀ past early next,
    called config loadPct healthManager past early kind = false →
    called config loadPct healthManager (past ++ [early]) next kind =
      called config loadPct healthManager past next kind

theorem success_of_called {kind : Section} {past : List CycleInput} {current : CycleInput}
    {success : Success kind.Payload}
    (succeeded : (collectionCycle config loadPct (runCycles config loadPct healthManager past).1
      current).2.success kind = some success) :
    called config loadPct healthManager past current kind = true ∧
      success.startedAt = current.now := by
  have start : success.startedAt = current.now := by
    rw [collectionCycle_success] at succeeded
    exact (Slot.maybeCollect_success _ _ _ succeeded).1
  refine ⟨?_, start⟩
  rw [called]
  rw [CycleReport.success] at succeeded
  cases result : (collectionCycle config loadPct (runCycles config loadPct healthManager past).1
      current).2.calls.get kind with
  | none =>
      rw [result] at succeeded
      cases succeeded
  | some outcome => rfl

theorem lastSuccess_uncalled {kind : Section} {past : List CycleInput} {early : CycleInput}
    (idle : called config loadPct healthManager past early kind = false) :
    lastSuccess config loadPct healthManager (past ++ [early]) kind =
      lastSuccess config loadPct healthManager past kind := by
  rw [lastSuccess_snoc]
  cases outcome : (collectionCycle config loadPct
      (runCycles config loadPct healthManager past).1 early).2.success kind with
  | none => rfl
  | some success =>
      have busy := (success_of_called config loadPct healthManager outcome).1
      rw [idle] at busy
      cases busy

theorem lastSuccess_append_silent {kind : Section} {past more : List CycleInput}
    (silent : ∀ report ∈ (Machine.respond (collectionCycle config loadPct)
      (runCycles config loadPct healthManager past).1 more).2, report.success kind = none) :
    lastSuccess config loadPct healthManager (past ++ more) kind =
      lastSuccess config loadPct healthManager past kind := by
  rw [lastSuccess, runCycles_append]
  exact History.latest_append_silent _ _ _ silent

theorem unforced_calledOnSchedule (valid : config.validate = none) {kind : Section}
    (member : kind ∈ unforcedSections) :
    CalledOnSchedule config loadPct healthManager kind := by
  obtain ⟨unforced, _, positive⟩ := unforcedSections_spec config valid member
  have due : ∀ past current, called config loadPct healthManager past current kind = true ↔
      lastSuccess config loadPct healthManager past kind = none ∨
        ∃ success, lastSuccess config loadPct healthManager past kind = some success ∧
          success.startedAt + seconds (kind.interval config) ≤ current.now := by
    intro past current
    rw [called_iff config loadPct healthManager unforced past current]
    simp only [positive, true_and]
  refine ⟨due, ?_, ?_, ?_⟩
  · intro past current earlier later before succeeded
    obtain ⟨busy, start⟩ := success_of_called config loadPct healthManager succeeded
    rcases (due past current).mp busy with never | ⟨success, found, passed⟩
    · rw [never] at before
      cases before
    · obtain rfl := Option.some.inj (found.symm.trans before)
      rwa [start]
  · intro past failed more next times busy silent
    rw [due, lastSuccess_append_silent config loadPct healthManager silent]
    have later : failed.now ≤ next.now := by
      refine (List.pairwise_append.mp times).2.2 failed ?_ next ?_
      · simp
      · simp
    rcases (due past failed).mp busy with never | ⟨success, found, passed⟩
    · exact Or.inl never
    · exact Or.inr ⟨success, found, le_trans passed later⟩
  · intro past early next idle
    rw [Bool.eq_iff_iff, due, due, lastSuccess_uncalled config loadPct healthManager idle]

/-- The probe of an unforced section is called exactly when it has never succeeded
or its latest success is one interval old, with what follows for runs of cycles;
the device probe is called up to its first success and never again. -/
theorem probes_called_on_schedule (valid : config.validate = none) :
    (∀ kind ∈ unforcedSections, CalledOnSchedule config loadPct healthManager kind) ∧
      ∀ past current, called config loadPct healthManager past current .device = true ↔
        lastSuccess config loadPct healthManager past .device = none := by
  constructor
  · intro kind member
    exact unforced_calledOnSchedule config loadPct healthManager valid member
  · intro past current
    rw [called_iff config loadPct healthManager (fun _ => rfl) past current]
    simp [Section.interval]

theorem probes_called_on_schedule_default :
    called {} (fun _ => .finite 0) none [healthyInput 0] (healthyInput (seconds 59))
        .services = false ∧
      called {} (fun _ => .finite 0) none [healthyInput 0] (healthyInput (seconds 60))
        .services = true := by
  have law := (probes_called_on_schedule {} (fun _ => .finite 0) none (by decide)).1 .services
    (by decide)
  have shown : lastSuccess {} (fun _ => .finite 0) none [healthyInput 0] .services =
      some ⟨0, 0, { overall := .ok }⟩ := rfl
  constructor
  · rw [Bool.eq_false_iff, ne_eq, law.due, shown]
    rintro (never | ⟨success, found, passed⟩)
    · cases never
    · obtain rfl := Option.some.inj found
      exact absurd passed (by decide)
  · rw [law.due, shown]
    exact Or.inr ⟨_, rfl, by decide⟩

def forcedSections : List Section := [.update, .crash]

theorem forcedSections_spec (valid : config.validate = none) {kind : Section}
    (member : kind ∈ forcedSections) : kind ≠ .device ∧ 0 < kind.interval config := by
  have intervals := validate_intervals config valid
  simp only [forcedSections, List.mem_cons, List.not_mem_nil, or_false] at member
  rcases member with rfl | rfl <;>
    refine ⟨by decide, ?_⟩ <;>
    simp only [Section.interval] <;>
    omega

inductive ForceEvent
  | succeeded
  | failedForce (time : SteadyTime)

def CycleReport.forceEvent (kind : Section) (report : CycleReport) : Option ForceEvent :=
  if (report.success kind).isSome then some .succeeded
  else if report.input.forced kind then some (.failedForce report.input.now)
  else none

def forcedFailure (kind : Section) (reports : List CycleReport) : Option SteadyTime :=
  match History.latest (CycleReport.forceEvent kind) reports with
  | some (.failedForce time) => some time
  | _ => none

/-- When a collection was last forced in vain since the latest success. -/
def lastForcedFailure (inputs : List CycleInput) (kind : Section) : Option SteadyTime :=
  forcedFailure kind (runCycles config loadPct healthManager inputs).2

theorem forcedFailure_snoc (kind : Section) (reports : List CycleReport) (report : CycleReport) :
    forcedFailure kind (reports ++ [report]) =
      if (report.success kind).isSome then none
      else if report.input.forced kind then some report.input.now
      else forcedFailure kind reports := by
  rw [forcedFailure, History.latest_snoc, CycleReport.forceEvent]
  by_cases succeeded : (report.success kind).isSome
  · simp [succeeded]
  · by_cases forced : report.input.forced kind = true
    · simp [succeeded, forced]
    · simp [succeeded, forced, forcedFailure]

theorem collectionCycle_input (daemon : Daemon) (input : CycleInput) :
    (collectionCycle config loadPct daemon input).2.input = input := rfl

theorem runCycles_nextRun (inputs : List CycleInput) (kind : Section)
    (success : Success kind.Payload)
    (found : lastSuccess config loadPct healthManager inputs kind = some success) :
    ((runCycles config loadPct healthManager inputs).1.slot kind).schedule.nextRun =
      (lastForcedFailure config loadPct healthManager inputs kind).getD
        (success.startedAt + seconds (kind.interval config)) := by
  induction inputs using List.reverseRecOn with
  | nil => cases found
  | append_singleton past input ih =>
      have repeats := runCycles_interval config loadPct healthManager past kind
      rw [lastSuccess_snoc, collectionCycle_success] at found
      rw [lastForcedFailure, runCycles_snoc, forcedFailure_snoc, collectionCycle_success,
        collectionCycle_input, collectionCycle_slot, Slot.cycle, Slot.markStale_schedule]
      cases outcome : ((runCycles config loadPct healthManager past).1.slot kind).success
          (input.forced kind) input.now (input.reading kind) with
      | some current =>
          rw [outcome, Option.some_or] at found
          obtain rfl := Option.some.inj found
          rw [(Slot.maybeCollect_success _ _ _ outcome).2]
          simp [repeats]
      | none =>
          rw [outcome, Option.none_or] at found
          rw [Slot.maybeCollect_failed _ _ _ outcome]
          by_cases forced : input.forced kind = true
          · simp [forced, Slot.force]
          · simp only [forced, Slot.force, Option.isSome_none, Bool.false_eq_true, if_false]
            exact ih found

def grace (kind : Section) : Int := max (seconds (kind.interval config)) (seconds 30)

theorem isStale_iff_nextRun {kind : Section} (notDevice : kind ≠ .device)
    (positive : 0 < kind.interval config) (past : List CycleInput) (current : CycleInput) :
    isStale config loadPct healthManager (past ++ [current]) kind = true ↔
      ∃ success, lastSuccess config loadPct healthManager (past ++ [current]) kind = some success ∧
        ((runCycles config loadPct healthManager (past ++ [current])).1.slot
          kind).schedule.nextRun + grace config kind < current.now := by
  have tracks := runCycles_tracks config loadPct healthManager (past ++ [current]) kind
  have repeats := runCycles_interval config loadPct healthManager (past ++ [current]) kind
  change TracksLatest kind.initial _
    (lastSuccess config loadPct healthManager (past ++ [current]) kind) at tracks
  obtain ⟨freshness, shown⟩ := Option.isSome_iff_exists.mp ((sectionFreshness_isSome kind
    ((runCycles config loadPct healthManager (past ++ [current])).1.slot kind).cache).mpr notDevice)
  rw [isStale, shown, Option.any_some]
  cases found : lastSuccess config loadPct healthManager (past ++ [current]) kind with
  | none =>
      have marked := tracks.staleCollected freshness shown
      rw [tracks.collectedAt freshness shown, found] at marked
      constructor
      · intro stale
        cases marked stale
      · rintro ⟨success, impossible, _⟩
        cases impossible
  | some success =>
      have collected := tracks.hasResult.mpr (by rw [found]; rfl)
      have slot : (runCycles config loadPct healthManager (past ++ [current])).1.slot kind =
          (((runCycles config loadPct healthManager past).1.slot kind).force
            (current.forced kind) current.now |>.maybeCollect current.now
              (current.reading kind)).markStale current.now := by
        rw [runCycles_snoc, collectionCycle_slot]
        rfl
      rw [slot] at shown collected repeats ⊢
      rw [Slot.markStale_schedule] at collected repeats ⊢
      rw [Slot.markStale_stale _ current.now shown, collected, repeats]
      simp [positive, grace]

/-- The mark after a cycle: the age of the latest success decides it, or that of a
forced collection that failed since. -/
theorem isStale_iff_forced {kind : Section} (notDevice : kind ≠ .device)
    (positive : 0 < kind.interval config) (past : List CycleInput) (current : CycleInput) :
    isStale config loadPct healthManager (past ++ [current]) kind = true ↔
      ∃ success, lastSuccess config loadPct healthManager (past ++ [current]) kind = some success ∧
        (lastForcedFailure config loadPct healthManager (past ++ [current]) kind).getD
          (success.startedAt + seconds (kind.interval config)) + grace config kind <
            current.now := by
  rw [isStale_iff_nextRun config loadPct healthManager notDevice positive]
  refine exists_congr fun success => and_congr_right fun found => ?_
  rw [runCycles_nextRun config loadPct healthManager _ kind success found]

def CycleInput.unforced (input : CycleInput) : Section → CycleInput
  | .update => { input with raucUpdatePending := false }
  | .crash => { input with crashAckPending := false }
  | .device | .boot | .services | .resources | .timeSync | .journal => input

def CycleInput.forcesFailure (input : CycleInput) (kind : Section) : Prop :=
  input.forced kind = true ∧ ∃ failure, (input.reading kind).result = .error failure

/-- A forced collection that fails leaves the verdict as it is without the force. -/
def VerdictIgnoresForce (past : List CycleInput) (current : CycleInput) (kind : Section) : Prop :=
  current.forcesFailure kind →
    isStale config loadPct healthManager (past ++ [current]) kind =
      isStale config loadPct healthManager (past ++ [current.unforced kind]) kind

def StaleByAge (past : List CycleInput) (current : CycleInput) (kind : Section) : Prop :=
  isStale config loadPct healthManager (past ++ [current]) kind = true ↔
    ∃ success, lastSuccess config loadPct healthManager (past ++ [current]) kind = some success ∧
      success.startedAt + seconds (kind.interval config) +
        max (seconds (kind.interval config)) (seconds 30) < current.now

/-- No forced collection failed since the latest success, or the time is not one at
which counting from that cycle and counting from the due time give different marks. -/
def ForceHarmless (past : List CycleInput) (current : CycleInput) (kind : Section) : Prop :=
  ∀ success, lastSuccess config loadPct healthManager (past ++ [current]) kind = some success →
    let due := success.startedAt + seconds (kind.interval config)
    (∀ failure,
      lastForcedFailure config loadPct healthManager (past ++ [current]) kind = some failure →
      current.now ≤ min failure due + grace config kind ∨
        max failure due + grace config kind < current.now) ∧
    (current.forcesFailure kind → ∀ failure,
      lastForcedFailure config loadPct healthManager past kind = some failure →
      current.now ≤ failure + grace config kind)

theorem grace_pos (kind : Section) : 0 < grace config kind :=
  lt_of_lt_of_le (by decide) (le_max_right _ (seconds 30))

theorem marks_agree_iff (failure due window now : Int) :
    (failure + window < now ↔ due + window < now) ↔
      now ≤ min failure due + window ∨ max failure due + window < now := by
  omega

theorem staleByAge_iff {kind : Section} (notDevice : kind ≠ .device)
    (positive : 0 < kind.interval config) (past : List CycleInput) (current : CycleInput) :
    StaleByAge config loadPct healthManager past current kind ↔
      ∀ success, lastSuccess config loadPct healthManager (past ++ [current]) kind = some success →
        ∀ failure,
          lastForcedFailure config loadPct healthManager (past ++ [current]) kind = some failure →
          current.now ≤ min failure (success.startedAt + seconds (kind.interval config)) +
              grace config kind ∨
            max failure (success.startedAt + seconds (kind.interval config)) +
              grace config kind < current.now := by
  rw [StaleByAge, isStale_iff_forced config loadPct healthManager notDevice positive]
  change (_ ↔ ∃ success, _ ∧ _ + grace config kind < _) ↔ _
  cases found : lastSuccess config loadPct healthManager (past ++ [current]) kind with
  | none => simp
  | some success =>
      simp only [Option.some.injEq, exists_eq_left', forall_eq']
      generalize success.startedAt + seconds (kind.interval config) = due
      cases forced : lastForcedFailure config loadPct healthManager (past ++ [current]) kind with
      | none => simp
      | some failure =>
          simp only [Option.getD_some, Option.some.injEq, forall_eq']
          exact marks_agree_iff failure due (grace config kind) current.now

theorem success_of_error (daemon : Daemon) (input : CycleInput) (kind : Section)
    {failure : ProbeError} (failed : (input.reading kind).result = .error failure) :
    (collectionCycle config loadPct daemon input).2.success kind = none := by
  rw [collectionCycle_success, Slot.success, Slot.call]
  split
  · rw [failed]
    rfl
  · rfl

theorem lastSuccess_error (past : List CycleInput) (input : CycleInput) (kind : Section)
    {failure : ProbeError} (failed : (input.reading kind).result = .error failure) :
    lastSuccess config loadPct healthManager (past ++ [input]) kind =
      lastSuccess config loadPct healthManager past kind := by
  rw [lastSuccess_snoc, success_of_error config loadPct _ input kind failed, Option.none_or]

theorem lastForcedFailure_error (past : List CycleInput) (input : CycleInput) (kind : Section)
    {failure : ProbeError} (failed : (input.reading kind).result = .error failure) :
    lastForcedFailure config loadPct healthManager (past ++ [input]) kind =
      if input.forced kind then some input.now
      else lastForcedFailure config loadPct healthManager past kind := by
  rw [lastForcedFailure, runCycles_snoc, forcedFailure_snoc,
    success_of_error config loadPct _ input kind failed, collectionCycle_input]
  rfl

theorem unforced_reading (input : CycleInput) (kind other : Section) :
    (input.unforced kind).reading other = input.reading other := by
  cases kind <;> cases other <;> rfl

theorem unforced_now (input : CycleInput) (kind : Section) :
    (input.unforced kind).now = input.now := by
  cases kind <;> rfl

theorem unforced_forced (input : CycleInput) (kind : Section) :
    (input.unforced kind).forced kind = false := by
  cases kind <;> rfl

theorem verdictIgnoresForce_iff {kind : Section} (notDevice : kind ≠ .device)
    (positive : 0 < kind.interval config) (past : List CycleInput) (current : CycleInput) :
    VerdictIgnoresForce config loadPct healthManager past current kind ↔
      (current.forcesFailure kind →
        ∀ success, lastSuccess config loadPct healthManager past kind = some success →
          current.now ≤ (lastForcedFailure config loadPct healthManager past kind).getD
            (success.startedAt + seconds (kind.interval config)) + grace config kind) := by
  refine imp_congr_right fun forces => ?_
  obtain ⟨forced, failure, failed⟩ := forces
  have failed' : ((current.unforced kind).reading kind).result = .error failure := by
    rw [unforced_reading]
    exact failed
  have fresh : isStale config loadPct healthManager (past ++ [current]) kind = false := by
    rw [Bool.eq_false_iff, ne_eq, isStale_iff_forced config loadPct healthManager notDevice positive,
      lastForcedFailure_error config loadPct healthManager past current kind failed, if_pos forced]
    rintro ⟨success, _, passed⟩
    have positiveGrace := grace_pos config kind
    simp only [Option.getD_some] at passed
    exact absurd passed (not_lt.mpr (le_add_of_nonneg_right (le_of_lt positiveGrace)))
  rw [fresh, eq_comm, Bool.eq_false_iff, ne_eq,
    isStale_iff_forced config loadPct healthManager notDevice positive,
    lastForcedFailure_error config loadPct healthManager past _ kind failed',
    lastSuccess_error config loadPct healthManager past _ kind failed', unforced_forced,
    unforced_now]
  simp only [Bool.false_eq_true, if_false, not_exists, not_and, not_lt]

/-- For the two sections a flag can force, the mark obeys the age law and ignores
forced collections that fail exactly where those are harmless. -/
theorem forced_staleness_iff (valid : config.validate = none) (kind : Section)
    (member : kind ∈ forcedSections) (past : List CycleInput) (current : CycleInput) :
    VerdictIgnoresForce config loadPct healthManager past current kind ∧
        StaleByAge config loadPct healthManager past current kind ↔
      ForceHarmless config loadPct healthManager past current kind := by
  obtain ⟨notDevice, positive⟩ := forcedSections_spec config valid member
  rw [verdictIgnoresForce_iff config loadPct healthManager notDevice positive,
    staleByAge_iff config loadPct healthManager notDevice positive]
  constructor
  · rintro ⟨verdict, aged⟩ success found
    refine ⟨aged success found, ?_⟩
    intro forces failure earlier
    have bound := verdict forces success (by
      obtain ⟨_, _, failed⟩ := forces
      rwa [lastSuccess_error config loadPct healthManager past current kind failed] at found)
    rwa [earlier, Option.getD_some] at bound
  · intro harmless
    refine ⟨?_, fun success found => (harmless success found).1⟩
    intro forces success found
    have forces' := forces
    obtain ⟨forced, failure, failed⟩ := forces
    rw [← lastSuccess_error config loadPct healthManager past current kind failed] at found
    obtain ⟨window, again⟩ := harmless success found
    cases earlier : lastForcedFailure config loadPct healthManager past kind with
    | some time => exact again forces' time earlier
    | none =>
        have now := lastForcedFailure_error config loadPct healthManager past current kind failed
        rw [if_pos forced] at now
        rcases window current.now now with early | late
        · exact le_trans early (Int.add_le_add_right (min_le_right _ _) _)
        · have positiveGrace := grace_pos config kind
          have bound := le_max_left current.now
            (success.startedAt + seconds (kind.interval config))
          exact absurd late (not_lt.mpr (le_add_of_le_of_nonneg bound (le_of_lt positiveGrace)))

def raucFailureInput (now : SteadyTime) : CycleInput :=
  { healthyInput now with
    update.result := .error ⟨"update", "RAUC query failed", 5⟩
    raucUpdatePending := true }

theorem forced_staleness_early :
    VerdictIgnoresForce {} (fun _ => .finite 0) none [healthyInput 0]
        (raucFailureInput (seconds 100)) .update ∧
      StaleByAge {} (fun _ => .finite 0) none [healthyInput 0]
        (raucFailureInput (seconds 100)) .update := by
  refine (forced_staleness_iff {} (fun _ => .finite 0) none (by decide) .update (by decide)
    [healthyInput 0] (raucFailureInput (seconds 100))).mpr ?_
  intro success found
  obtain rfl : (⟨0, 0, { overall := .ok }⟩ : Success UpdateStatus) = success :=
    Option.some.inj found
  constructor
  · intro failure forced
    obtain rfl : seconds 100 = failure := Option.some.inj forced
    exact Or.inl (by decide)
  · intro _ failure forced
    cases forced

theorem forced_failure_hides_staleness :
    ¬(VerdictIgnoresForce {} (fun _ => .finite 0) none [healthyInput 0]
        (raucFailureInput (seconds 3601)) .update ∧
      StaleByAge {} (fun _ => .finite 0) none [healthyInput 0]
        (raucFailureInput (seconds 3601)) .update) := by
  rintro ⟨_, aged⟩
  have fresh : isStale {} (fun _ => .finite 0) none
      ([healthyInput 0] ++ [raucFailureInput (seconds 3601)]) .update = false := rfl
  rw [StaleByAge, fresh] at aged
  exact absurd (aged.mpr ⟨⟨0, 0, { overall := .ok }⟩, rfl, by decide⟩) (by decide)

end Runs

end EdgeHealthd
