import EdgeHealthd.EventLoop
import EdgeHealthd.Library.Spacing
import Mathlib.Algebra.Group.Nat.Defs

/-!
The rate limit on `TriggerSnapshot`, over runs of the whole daemon. The callback
reads the clock before it takes the lock, so readings may arrive out of order;
what it accepts is what the gate of `Library.Spacing` lets through, whatever the
other callbacks and the main thread do in between.
-/

namespace EdgeHealthd

def Action.triggerReading : Action → Option SteadyTime
  | .bus (.triggerSnapshot now) => some now
  | _ => none

def Action.acceptedReading (action : Action) (next : System) : Option SteadyTime :=
  if next.bus = .triggerWake then action.triggerReading else none

theorem Action.eq_triggerSnapshot {action : Action} {now : SteadyTime}
    (reading : action.triggerReading = some now) : action = .bus (.triggerSnapshot now) := by
  unfold Action.triggerReading at reading
  split at reading <;> cases reading
  rfl

section Callback

/-- Signed 64-bit arithmetic, where overflow is undefined. -/
def checkedInt64 (value : Int) : Option Int :=
  if -2 ^ 63 ≤ value ∧ value < 2 ^ 63 then some value else none

def timePointMin : Int := -2 ^ 63

/-- The callback on 64-bit nanosecond counts: its answer and the time it keeps.
The minimum stands for a trigger that never happened. -/
def triggerCallback (minInterval lastTriggerTime now : Int) : Option (Bool × Int) :=
  if minInterval > 0 && lastTriggerTime != timePointMin then do
    let elapsed ← checkedInt64 (now - lastTriggerTime)
    let limit ← checkedInt64 (seconds minInterval)
    if elapsed < limit then pure (false, lastTriggerTime) else pure (true, now)
  else pure (true, now)

/-- `steady_clock` counts nanoseconds since boot. -/
def SteadyReading (time : Int) : Prop := 0 ≤ time ∧ time < 2 ^ 63

def System.keptTriggerTime (state : System) : Int := state.lastTriggerTime.getD timePointMin

theorem checkedInt64_of_bounds {value : Int} (lower : -2 ^ 63 ≤ value) (upper : value < 2 ^ 63) :
    checkedInt64 value = some value := if_pos ⟨lower, upper⟩

theorem SteadyReading.sub {now last : Int} (current : SteadyReading now)
    (kept : SteadyReading last) : checkedInt64 (now - last) = some (now - last) := by
  obtain ⟨nowLower, nowUpper⟩ := current
  obtain ⟨lastLower, lastUpper⟩ := kept
  exact checkedInt64_of_bounds (by omega) (by omega)

theorem SteadyReading.ne_min {last : Int} (kept : SteadyReading last) :
    last ≠ timePointMin := by
  have lower : 0 ≤ last := kept.1
  simp only [timePointMin]
  omega

end Callback

section Runs

variable (config : Config) (loadPct : CpuLoad → Double)

def acceptedTriggers : System → List Action → List SteadyTime
  | _, [] => []
  | state, action :: rest =>
      match step config loadPct state action with
      | none => []
      | some next => (action.acceptedReading next).toList ++ acceptedTriggers next rest

theorem step_triggerSnapshot {state next : System} {now : SteadyTime}
    (taken : step config loadPct state (.bus (.triggerSnapshot now)) = some next) :
    (triggerLimited config state now = true ∧ next = state ∧ next.bus = .idle) ∨
      (triggerLimited config state now = false ∧ next.bus = .triggerWake ∧
        next.lastTriggerTime = some now) := by
  have done := step_bus config loadPct taken
  cases done with
  | limited pc limit => exact Or.inl ⟨limit, rfl, pc⟩
  | triggered pc free => exact Or.inr ⟨free, rfl, rfl⟩

theorem step_lastTriggerTime {state next : System} {action : Action}
    (taken : step config loadPct state action = some next)
    (other : action.triggerReading = none) : next.lastTriggerTime = state.lastTriggerTime := by
  cases action with
  | main action =>
      rcases mainStep_sound config loadPct taken with cycle | loop
      · cases cycle <;> rfl
      · cases loop <;> rfl
  | bus action =>
      have done := step_bus config loadPct taken
      cases done <;> first | rfl | cases other
  | signal action =>
      cases action with
      | setFlag => cases taken; rfl
      | writeEventfd =>
          simp only [step, signalStep] at taken
          split at taken
          · cases taken; rfl
          · cases taken
  | pstoreChange pstore => cases taken; rfl

theorem triggerLimited_eq_not_passes (positive : 0 < config.triggerMinInterval) (state : System)
    (now : SteadyTime) :
    triggerLimited config state now =
      !Spacing.passes (seconds config.triggerMinInterval) state.lastTriggerTime now := by
  cases kept : state.lastTriggerTime with
  | none => simp [triggerLimited, Spacing.passes, kept]
  | some last =>
      have apart (now last gap : Int) : decide (now - last < gap) = !decide (last + gap ≤ now) := by
        rw [← decide_not, decide_eq_decide]
        omega
      simp only [triggerLimited, Spacing.passes, kept, positive, Option.any_some,
        Option.all_some, decide_true, Bool.true_and]
      exact apart now last _

theorem acceptedTriggers_cons {state next : System} {action : Action} {rest : List Action}
    (taken : step config loadPct state action = some next) :
    acceptedTriggers config loadPct state (action :: rest) =
      (action.acceptedReading next).toList ++ acceptedTriggers config loadPct next rest := by
  simp only [acceptedTriggers, taken]

theorem acceptedReading_none {action : Action} (other : action.triggerReading = none)
    (next : System) : action.acceptedReading next = none := by
  simp [Action.acceptedReading, other]

theorem step_accepts_iff (positive : 0 < config.triggerMinInterval) {state next : System}
    {now : SteadyTime} (taken : step config loadPct state (.bus (.triggerSnapshot now)) = some next) :
    next.bus = .triggerWake ↔
      Spacing.passes (seconds config.triggerMinInterval) state.lastTriggerTime now = true := by
  have checked := triggerLimited_eq_not_passes config positive state now
  rcases step_triggerSnapshot config loadPct taken with ⟨limit, _, idle⟩ | ⟨free, woken, _⟩
  · rw [limit] at checked
    simp_all
  · rw [free] at checked
    simp_all

theorem step_acceptedReading {state next : System} {action : Action}
    (taken : step config loadPct state action = some next) :
    next.lastTriggerTime = (action.acceptedReading next).or state.lastTriggerTime := by
  cases reading : action.triggerReading with
  | none =>
      rw [acceptedReading_none reading, step_lastTriggerTime config loadPct taken reading]
      rfl
  | some now =>
      obtain rfl := Action.eq_triggerSnapshot reading
      rcases step_triggerSnapshot config loadPct taken with ⟨_, rfl, idle⟩ | ⟨_, woken, stored⟩
      · simp [Action.acceptedReading, idle]
      · simp [Action.acceptedReading, woken, stored, reading]

theorem run_lastTriggerTime {actions : List Action} {state final : System}
    (run : Machine.follow (step config loadPct) state actions = some final) :
    final.lastTriggerTime =
      (acceptedTriggers config loadPct state actions).getLast?.or state.lastTriggerTime := by
  induction actions generalizing state with
  | nil =>
      simp only [Machine.follow, Option.some.injEq] at run
      simp [acceptedTriggers, run]
  | cons action rest ih =>
      obtain ⟨next, taken, later⟩ := Machine.follow_cons_some.mp run
      rw [ih later, acceptedTriggers_cons config loadPct taken,
        step_acceptedReading config loadPct taken, List.getLast?_append, Option.or_assoc]
      cases action.acceptedReading next <;> rfl

theorem run_admits (positive : 0 < config.triggerMinInterval) {actions : List Action}
    {state final : System} (run : Machine.follow (step config loadPct) state actions = some final) :
    acceptedTriggers config loadPct state actions =
      Spacing.passed (seconds config.triggerMinInterval) state.lastTriggerTime
        (actions.filterMap Action.triggerReading) := by
  induction actions generalizing state with
  | nil => rfl
  | cons action rest ih =>
      obtain ⟨next, taken, later⟩ := Machine.follow_cons_some.mp run
      have stored := step_acceptedReading config loadPct taken
      rw [acceptedTriggers_cons config loadPct taken, ih later]
      cases reading : action.triggerReading with
      | none =>
          rw [acceptedReading_none reading] at stored ⊢
          rw [stored, List.filterMap_cons_none reading]
          rfl
      | some now =>
          rw [List.filterMap_cons_some reading, Spacing.passed_cons]
          obtain rfl := Action.eq_triggerSnapshot reading
          have decided := step_accepts_iff config loadPct positive taken
          by_cases woken : next.bus = .triggerWake
          · simp only [Action.acceptedReading, if_pos woken, reading] at stored ⊢
            rw [if_pos (decided.mp woken), stored]
            rfl
          · simp only [Action.acceptedReading, if_neg woken] at stored ⊢
            rw [if_neg fun passed => woken (decided.mpr passed), stored]
            rfl

theorem acceptedTriggers_mem {actions : List Action} {state : System} {time : SteadyTime}
    (accepted : time ∈ acceptedTriggers config loadPct state actions) :
    .bus (.triggerSnapshot time) ∈ actions := by
  induction actions generalizing state with
  | nil => cases accepted
  | cons action rest ih =>
      rw [acceptedTriggers] at accepted
      split at accepted
      · cases accepted
      · rcases List.mem_append.mp accepted with first | later
        · rw [Option.mem_toList, Action.acceptedReading] at first
          split at first
          · exact List.mem_cons.mpr (Or.inl (Action.eq_triggerSnapshot first).symm)
          · cases first
        · exact List.mem_cons_of_mem _ (ih later)

theorem triggerCallback_eq (interval : config.triggerMinInterval < 2 ^ 31) (state : System)
    {now : SteadyTime} (current : SteadyReading now)
    (kept : ∀ last, state.lastTriggerTime = some last → SteadyReading last) :
    triggerCallback config.triggerMinInterval state.keptTriggerTime now =
      some (!triggerLimited config state now,
        if triggerLimited config state now then state.keptTriggerTime else now) := by
  cases last : state.lastTriggerTime with
  | none => simp [triggerCallback, triggerLimited, System.keptTriggerTime, last]
  | some time =>
      have elapsed := current.sub (kept time last)
      have set := (kept time last).ne_min
      by_cases positive : 0 < config.triggerMinInterval
      · have limit : checkedInt64 (seconds config.triggerMinInterval) =
            some (seconds config.triggerMinInterval) :=
          checkedInt64_of_bounds (by simp only [seconds]; omega) (by simp only [seconds]; omega)
        simp only [triggerCallback, triggerLimited, System.keptTriggerTime, last, positive, set,
          Option.getD_some, Option.any_some, decide_true, bne_iff_ne, ne_eq,
          not_false_eq_true, Bool.true_and, if_true, elapsed, limit,
          Option.bind_eq_bind, Option.bind_some, decide_eq_true_eq]
        split <;> simp_all
      · simp [triggerCallback, triggerLimited, positive]

/-- On readings of the steady clock the callback cannot overflow, and the
minimum stands for the missing time of the model. -/
theorem triggerCallback_refines (interval : config.triggerMinInterval < 2 ^ 31)
    {state next : System} {now : SteadyTime}
    (taken : step config loadPct state (.bus (.triggerSnapshot now)) = some next)
    (current : SteadyReading now)
    (kept : ∀ last, state.lastTriggerTime = some last → SteadyReading last) :
    triggerCallback config.triggerMinInterval state.keptTriggerTime now =
      some (decide (next.bus = .triggerWake), next.keptTriggerTime) := by
  rw [triggerCallback_eq config interval state current kept]
  rcases step_triggerSnapshot config loadPct taken with ⟨limit, rfl, idle⟩ | ⟨free, woken, stored⟩
  · simp [limit, idle]
  · simp [free, woken, System.keptTriggerTime, stored]

/-- The run takes this step from `before` to `after`, with `past` behind it. -/
def StepOf (start : System) (actions past : List Action) (action : Action)
    (before after : System) : Prop :=
  (past ++ [action]) <+: actions ∧ Machine.follow (step config loadPct) start past = some before ∧
    step config loadPct before action = some after

theorem triggers_spaced (positive : 0 < config.triggerMinInterval)
    (healthManager : Option HealthManager) (crashState : StateFile) (pstore : Pstore)
    (start : System) (fresh : start = System.start config healthManager crashState pstore)
    (actions : List Action) (final : System)
    (run : Machine.follow (step config loadPct) start actions = some final) :
    (∀ past now before after,
      StepOf config loadPct start actions past (.bus (.triggerSnapshot now)) before after →
        (after.bus = .triggerWake ↔
          ∀ last, (acceptedTriggers config loadPct start past).getLast? = some last →
            last + seconds config.triggerMinInterval ≤ now) ∧
        (after.bus ≠ .triggerWake → after = before) ∧
        (config.triggerMinInterval < 2 ^ 31 →
          (∀ time, .bus (.triggerSnapshot time) ∈ actions → SteadyReading time) →
          triggerCallback config.triggerMinInterval before.keptTriggerTime now =
            some (decide (after.bus = .triggerWake), after.keptTriggerTime))) ∧
      ((acceptedTriggers config loadPct start actions).Pairwise fun earlier later =>
        earlier < later ∧ earlier + seconds config.triggerMinInterval ≤ later) ∧
      (∀ lower width : Int, 0 ≤ width →
        (((acceptedTriggers config loadPct start actions).filter fun time =>
          lower ≤ time ∧ time ≤ lower + width).length : Int) ≤
            width / seconds config.triggerMinInterval + 1) ∧
      (∀ past action before after, StepOf config loadPct start actions past action before after →
        action.triggerReading = none → after.lastTriggerTime = before.lastTriggerTime) ∧
      acceptedTriggers config loadPct start actions =
        Spacing.passed (seconds config.triggerMinInterval) none
          (actions.filterMap Action.triggerReading) := by
  have gap : 0 < seconds config.triggerMinInterval := by
    simp only [seconds]
    omega
  have unset : start.lastTriggerTime = none := by
    rw [fresh]
    rfl
  have admitted := run_admits config loadPct positive run
  rw [unset] at admitted
  have spaced : Spacing.Spaced (seconds config.triggerMinInterval)
      (acceptedTriggers config loadPct start actions) := by
    rw [admitted]
    exact Spacing.passed_spaced _ gap.le _ none
  refine ⟨?_, (spaced.lt gap).and spaced, spaced.window_count gap, ?_, admitted⟩
  · rintro past now before after ⟨shape, reached, taken⟩
    have kept := run_lastTriggerTime config loadPct reached
    rw [unset, Option.or_none] at kept
    refine ⟨?_, ?_, ?_⟩
    · rw [step_accepts_iff config loadPct positive taken, kept, Spacing.passes,
        Option.all_eq_true]
      simp only [decide_eq_true_eq]
    · intro silent
      rcases step_triggerSnapshot config loadPct taken with ⟨_, same, _⟩ | ⟨_, woken, _⟩
      · exact same
      · exact absurd woken silent
    · intro interval steady
      refine triggerCallback_refines config loadPct interval taken ?_ ?_
      · exact steady now (shape.subset (by simp))
      · intro last stored
        rw [kept] at stored
        have accepted := acceptedTriggers_mem config loadPct (List.mem_of_getLast? stored)
        exact steady last (shape.subset (List.mem_append_left _ accepted))
  · rintro past action before after ⟨_, _, taken⟩ other
    exact step_lastTriggerTime config loadPct taken other

def triggerFlood : List Action :=
  firstCycle ++
    [Action.bus (.triggerSnapshot (seconds 10)), .bus .triggerWake, .bus .raucCompleted,
      .bus .raucTrigger, .bus .raucWake, .bus (.triggerSnapshot (seconds 12)),
      .bus (.acknowledgeCrash "stale"), .bus (.triggerSnapshot (seconds 9)),
      .bus (.triggerSnapshot (seconds 15)), .bus .triggerWake]

theorem triggerFlood_accepts_two :
    ∃ final, Machine.follow (step {} fun _ => .finite 0) (System.start {} (some {}) .missing {})
        triggerFlood = some final ∧
      acceptedTriggers {} (fun _ => .finite 0) (System.start {} (some {}) .missing {})
        triggerFlood = [seconds 10, seconds 15] ∧
      ((acceptedTriggers {} (fun _ => .finite 0) (System.start {} (some {}) .missing {})
        triggerFlood).filter fun time =>
          seconds 10 ≤ time ∧ time ≤ seconds 10 + seconds 5).length = 2 ∧
      seconds 5 / seconds (Config.triggerMinInterval {}) + 1 = 2 := by
  have spaced := triggers_spaced {} (fun _ => .finite 0) (by decide) (some {}) .missing {}
    (System.start {} (some {}) .missing {}) rfl triggerFlood _ rfl
  have accepted := spaced.2.2.2.2
  refine ⟨_, rfl, accepted.trans (by decide), ?_, by decide⟩
  rw [accepted]
  decide

end Runs

end EdgeHealthd
