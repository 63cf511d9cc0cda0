import EdgeHealthd.DaemonCore
import EdgeHealthd.Library.Machine
import EdgeHealthd.Library.History

/-!
The collection cycle, section by section. Each of the eight sections follows its
own small automaton (`Slot.cycle`); one cycle of the daemon is the product of
these automata, so a fact about one slot carries over to every section.
-/

namespace EdgeHealthd

inductive Section where
  | device
  | boot
  | services
  | resources
  | timeSync
  | update
  | journal
  | crash
  deriving DecidableEq, Repr

abbrev Section.Payload : Section → Type
  | .device => DeviceInfo
  | .boot => BootStatus
  | .services => ServicesStatus
  | .resources => ResourcesStatus
  | .timeSync => TimeSyncStatus
  | .update => UpdateStatus
  | .journal => JournalStatus
  | .crash => CrashStatus

instance : (kind : Section) → CachedSection kind.Payload
  | .device => inferInstanceAs (CachedSection DeviceInfo)
  | .boot => inferInstanceAs (CachedSection BootStatus)
  | .services => inferInstanceAs (CachedSection ServicesStatus)
  | .resources => inferInstanceAs (CachedSection ResourcesStatus)
  | .timeSync => inferInstanceAs (CachedSection TimeSyncStatus)
  | .update => inferInstanceAs (CachedSection UpdateStatus)
  | .journal => inferInstanceAs (CachedSection JournalStatus)
  | .crash => inferInstanceAs (CachedSection CrashStatus)

def Section.interval (config : Config) : Section → Int
  | .device => 0
  | .boot | .services | .resources | .journal | .crash => config.collectInterval
  | .timeSync => config.timeSyncInterval
  | .update => config.updateCheckInterval

def SnapshotState.payload (state : SnapshotState) : (kind : Section) → kind.Payload
  | .device => state.device
  | .boot => state.boot
  | .services => state.services
  | .resources => state.resources
  | .timeSync => state.timeSync
  | .update => state.update
  | .journal => state.journal
  | .crash => state.crash

def Daemon.slot (daemon : Daemon) : (kind : Section) → Slot kind.Payload
  | .device => daemon.device
  | .boot => daemon.boot
  | .services => daemon.services
  | .resources => daemon.resources
  | .timeSync => daemon.timeSync
  | .update => daemon.update
  | .journal => daemon.journal
  | .crash => daemon.crash

def CycleInput.reading (input : CycleInput) : (kind : Section) → Reading kind.Payload
  | .device => input.device
  | .boot => input.boot
  | .services => input.services
  | .resources => input.resources
  | .timeSync => input.timeSync
  | .update => input.update
  | .journal => input.journal
  | .crash => input.crash

def CycleInput.forced (input : CycleInput) : Section → Bool
  | .update => input.raucUpdatePending
  | .crash => input.crashAckPending
  | .device | .boot | .services | .resources | .timeSync | .journal => false

def Calls.get (calls : Calls) : (kind : Section) → Option (ProbeResult kind.Payload)
  | .device => calls.device
  | .boot => calls.boot
  | .services => calls.services
  | .resources => calls.resources
  | .timeSync => calls.timeSync
  | .update => calls.update
  | .journal => calls.journal
  | .crash => calls.crash

structure Success (Payload : Type) where
  startedAt : SteadyTime
  stampedAt : WallTime
  payload : Payload

section Slot

variable {Payload : Type}

def successOf (now : SteadyTime) (reading : Reading Payload) :
    Option (ProbeResult Payload) → Option (Success Payload)
  | some (.ok payload) => some ⟨now, reading.stampedAt, payload⟩
  | _ => none

def Slot.success (slot : Slot Payload) (forced : Bool) (now : SteadyTime)
    (reading : Reading Payload) : Option (Success Payload) :=
  successOf now reading ((slot.force forced now).call now reading)

theorem Slot.success_of_due (slot : Slot Payload) (forced : Bool) (now : SteadyTime)
    (reading : Reading Payload) (due : (slot.force forced now).schedule.isDue now = true) :
    slot.success forced now reading = successOf now reading (some reading.result) := by
  simp only [Slot.success, Slot.call, due, if_true]

@[simp] theorem Slot.force_cache (slot : Slot Payload) (forced : Bool) (now : SteadyTime) :
    (slot.force forced now).cache = slot.cache := by
  cases forced <;> rfl

@[simp] theorem Slot.force_hasResult (slot : Slot Payload) (forced : Bool) (now : SteadyTime) :
    (slot.force forced now).schedule.hasResult = slot.schedule.hasResult := by
  cases forced <;> rfl

@[simp] theorem Slot.force_interval (slot : Slot Payload) (forced : Bool) (now : SteadyTime) :
    (slot.force forced now).schedule.interval = slot.schedule.interval := by
  cases forced <;> rfl

theorem Slot.force_isDue_iff (slot : Slot Payload) (forced : Bool)
    (now : SteadyTime) (repeats : 0 < slot.schedule.interval) :
    (slot.force forced now).schedule.isDue now = true ↔
      slot.schedule.isDue now = true ∨ forced = true := by
  cases forced with
  | false => simp [Slot.force]
  | true => simp [Slot.force, ProbeSchedule.isDue, repeats]

variable [CachedSection Payload]

def Slot.cycle (slot : Slot Payload) (forced : Bool) (now : SteadyTime)
    (reading : Reading Payload) : Slot Payload :=
  ((slot.force forced now).maybeCollect now reading).markStale now

theorem Slot.cycle_unforced (slot : Slot Payload) (now : SteadyTime)
    (reading : Reading Payload) :
    slot.cycle false now reading = (slot.maybeCollect now reading).markStale now := rfl

theorem Slot.maybeCollect_failed (slot : Slot Payload) (now : SteadyTime)
    (reading : Reading Payload) (failed : successOf now reading (slot.call now reading) = none) :
    slot.maybeCollect now reading = slot := by
  unfold Slot.maybeCollect
  cases called : slot.call now reading with
  | none => rfl
  | some result =>
      cases result with
      | error _ => rfl
      | ok payload => simp [called, successOf] at failed

theorem Slot.maybeCollect_success (slot : Slot Payload) (now : SteadyTime)
    (reading : Reading Payload) {success : Success Payload}
    (succeeded : successOf now reading (slot.call now reading) = some success) :
    success.startedAt = now ∧
      slot.maybeCollect now reading = {
        schedule := { slot.schedule with
          nextRun := success.startedAt + seconds slot.schedule.interval
          hasResult := true }
        cache := stampCollected success.stampedAt success.payload } := by
  unfold Slot.maybeCollect
  cases called : slot.call now reading with
  | none => simp [called, successOf] at succeeded
  | some result =>
      cases result with
      | error _ => simp [called, successOf] at succeeded
      | ok payload =>
          simp only [called, successOf, Option.some.injEq] at succeeded
          subst success
          exact ⟨rfl, rfl⟩

@[simp] theorem Slot.markStale_schedule (slot : Slot Payload) (now : SteadyTime) :
    (slot.markStale now).schedule = slot.schedule := by
  unfold Slot.markStale
  split
  · split <;> rfl
  · rfl

@[simp] theorem Slot.markStale_interval (slot : Slot Payload) (now : SteadyTime) :
    (slot.markStale now).schedule.interval = slot.schedule.interval := by
  rw [Slot.markStale_schedule]

@[simp] theorem Slot.maybeCollect_interval (slot : Slot Payload) (now : SteadyTime)
    (reading : Reading Payload) :
    (slot.maybeCollect now reading).schedule.interval = slot.schedule.interval := by
  unfold Slot.maybeCollect
  split <;> rfl

end Slot

section Cycle

variable (config : Config) (loadPct : CpuLoad → Double)

theorem notifyManager_slot (daemon : Daemon) (prevSev : Severity) (kind : Section) :
    (daemon.notifyManager prevSev).1.slot kind = daemon.slot kind := by
  unfold Daemon.notifyManager
  split <;> cases kind <;> rfl

theorem finish_slot (collection : Collection) (input : CycleInput) (kind : Section) :
    (collection.finish config loadPct input).1.slot kind =
      (collection.daemon.slot kind).markStale input.now := by
  simp only [Collection.finish]
  rw [notifyManager_slot]
  cases kind <;> rfl

theorem collectionCycle_slot (daemon : Daemon) (input : CycleInput) (kind : Section) :
    (collectionCycle config loadPct daemon input).1.slot kind =
      (daemon.slot kind).cycle (input.forced kind) input.now (input.reading kind) := by
  rw [collectionCycle, finish_slot]
  cases kind <;> rfl

theorem collectionCycle_calls (daemon : Daemon) (input : CycleInput) (kind : Section) :
    (collectionCycle config loadPct daemon input).2.calls.get kind =
      ((daemon.slot kind).force (input.forced kind) input.now).call input.now
        (input.reading kind) := by
  cases kind <;> rfl

theorem finish_snapshot (collection : Collection) (input : CycleInput) (kind : Section) :
    (collection.finish config loadPct input).2.snapshot.payload kind =
      ((collection.finish config loadPct input).1.slot kind).cache := by
  rw [finish_slot]
  cases kind <;> rfl

theorem collectionCycle_snapshot (daemon : Daemon) (input : CycleInput) (kind : Section) :
    (collectionCycle config loadPct daemon input).2.snapshot.payload kind =
      ((collectionCycle config loadPct daemon input).1.slot kind).cache :=
  finish_snapshot config loadPct _ input kind

def CycleReport.success (kind : Section) (report : CycleReport) : Option (Success kind.Payload) :=
  successOf report.input.now (report.input.reading kind) (report.calls.get kind)

theorem collectionCycle_success (daemon : Daemon) (input : CycleInput) (kind : Section) :
    (collectionCycle config loadPct daemon input).2.success kind =
      (daemon.slot kind).success (input.forced kind) input.now (input.reading kind) := by
  rw [CycleReport.success, collectionCycle_calls]
  rfl

def runCycles (healthManager : Option HealthManager) (inputs : List CycleInput) :
    Daemon × List CycleReport :=
  Machine.respond (collectionCycle config loadPct) (initializeDaemon config healthManager) inputs

theorem runCycles_snoc (healthManager : Option HealthManager) (past : List CycleInput)
    (input : CycleInput) :
    runCycles config loadPct healthManager (past ++ [input]) =
      ((collectionCycle config loadPct (runCycles config loadPct healthManager past).1 input).1,
        (runCycles config loadPct healthManager past).2 ++
          [(collectionCycle config loadPct
            (runCycles config loadPct healthManager past).1 input).2]) :=
  Machine.respond_snoc _ _ past input

/-- What one slot preserves holds of that section after every run of the daemon.
The property may speak about the latest success recorded so far. -/
theorem runCycles_slot_induction (kind : Section)
    (property : Slot kind.Payload → Option (Success kind.Payload) → Prop)
    (healthManager : Option HealthManager)
    (initial : property ((initializeDaemon config healthManager).slot kind) none)
    (preserved : ∀ slot latest (input : CycleInput), property slot latest →
      property (slot.cycle (input.forced kind) input.now (input.reading kind))
        ((slot.success (input.forced kind) input.now (input.reading kind)).or latest))
    (inputs : List CycleInput) :
    property ((runCycles config loadPct healthManager inputs).1.slot kind)
      (History.latest (CycleReport.success kind)
        (runCycles config loadPct healthManager inputs).2) := by
  induction inputs using List.reverseRecOn with
  | nil => exact initial
  | append_singleton past input ih =>
      rw [runCycles_snoc, History.latest_snoc, collectionCycle_slot, collectionCycle_success]
      exact preserved _ _ input ih

theorem runCycles_append (healthManager : Option HealthManager) (past more : List CycleInput) :
    (runCycles config loadPct healthManager (past ++ more)).2 =
      (runCycles config loadPct healthManager past).2 ++
        (Machine.respond (collectionCycle config loadPct)
          (runCycles config loadPct healthManager past).1 more).2 := by
  rw [runCycles, Machine.respond_append]
  rfl

end Cycle

def healthyInput (now : SteadyTime) : CycleInput where
  now := now
  device := ⟨.ok {}, 0⟩
  boot := ⟨.ok { bootId := "b1", uptime := 30 }, 0⟩
  services := ⟨.ok { overall := .ok }, 0⟩
  resources := ⟨.ok { memory := { memTotalMb := 1024, memUsedMb := 256 } }, 0⟩
  timeSync := ⟨.ok { overall := .ok, source := .ntp }, 0⟩
  update := ⟨.ok { overall := .ok }, 0⟩
  journal := ⟨.ok { overall := .ok }, 0⟩
  crash := ⟨.ok {}, 0⟩

def memoryFailureInput (now : SteadyTime) : CycleInput :=
  { healthyInput now with resources.result := .error ⟨"resources",
      "Failed to read memory via /proc/meminfo and sysinfo()", 2⟩ }

end EdgeHealthd
