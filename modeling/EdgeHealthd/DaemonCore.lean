import EdgeHealthd.AggregatorCore
import EdgeHealthd.DbusManagerCore

/-!
Executable collection cycle of `src/daemon.cpp`. A cycle reads the steady clock
once, calls the probes that are due, marks stale sections, aggregates and
publishes. Probe results, clock readings and the two pending flags are the
inputs of a cycle.
-/

namespace EdgeHealthd

structure ProbeError where
  probe : String
  message : String
  code : Int := 0
  deriving DecidableEq

abbrev ProbeResult (Payload : Type) := Except ProbeError Payload

structure ProbeSchedule where
  interval : Int := 0
  nextRun : SteadyTime := 0
  hasResult : Bool := false
  deriving DecidableEq

def ProbeSchedule.isDue (schedule : ProbeSchedule) (now : SteadyTime) : Bool :=
  !schedule.hasResult || (schedule.interval > 0 && now ≥ schedule.nextRun)

structure FreshnessField (Payload : Type) where
  get : Payload → SectionFreshness
  set : SectionFreshness → Payload → Payload
  get_set : ∀ freshness payload, get (set freshness payload) = freshness
  set_set : ∀ first second payload, set first (set second payload) = set first payload
  set_get : ∀ payload, set (get payload) payload = payload

/-- Which sections satisfy `requires { cache.freshness; }`: all but `DeviceInfo`. -/
class CachedSection (Payload : Type) where
  freshness : Option (FreshnessField Payload)

def freshnessField (Payload : Type) [CachedSection Payload] : Option (FreshnessField Payload) :=
  CachedSection.freshness

instance : CachedSection DeviceInfo := ⟨none⟩
instance : CachedSection BootStatus :=
  ⟨some ⟨BootStatus.freshness, fun freshness boot => { boot with freshness },
    fun _ _ => rfl, fun _ _ _ => rfl, fun _ => rfl⟩⟩
instance : CachedSection ServicesStatus :=
  ⟨some ⟨ServicesStatus.freshness, fun freshness services => { services with freshness },
    fun _ _ => rfl, fun _ _ _ => rfl, fun _ => rfl⟩⟩
instance : CachedSection ResourcesStatus :=
  ⟨some ⟨ResourcesStatus.freshness, fun freshness resources => { resources with freshness },
    fun _ _ => rfl, fun _ _ _ => rfl, fun _ => rfl⟩⟩
instance : CachedSection TimeSyncStatus :=
  ⟨some ⟨TimeSyncStatus.freshness, fun freshness timeSync => { timeSync with freshness },
    fun _ _ => rfl, fun _ _ _ => rfl, fun _ => rfl⟩⟩
instance : CachedSection UpdateStatus :=
  ⟨some ⟨UpdateStatus.freshness, fun freshness update => { update with freshness },
    fun _ _ => rfl, fun _ _ _ => rfl, fun _ => rfl⟩⟩
instance : CachedSection JournalStatus :=
  ⟨some ⟨JournalStatus.freshness, fun freshness journal => { journal with freshness },
    fun _ _ => rfl, fun _ _ _ => rfl, fun _ => rfl⟩⟩
instance : CachedSection CrashStatus :=
  ⟨some ⟨CrashStatus.freshness, fun freshness crash => { crash with freshness },
    fun _ _ => rfl, fun _ _ _ => rfl, fun _ => rfl⟩⟩

structure Reading (Payload : Type) where
  result : ProbeResult Payload
  stampedAt : WallTime := 0

/-- A schedule together with the section of `last_known_good_` it guards. -/
structure Slot (Payload : Type) where
  schedule : ProbeSchedule
  cache : Payload

section Slot

variable {Payload : Type} [CachedSection Payload]

def stampCollected (stampedAt : WallTime) (payload : Payload) : Payload :=
  match freshnessField Payload with
  | some field => field.set { collectedAt := some stampedAt, stale := false } payload
  | none => payload

def Slot.call (slot : Slot Payload) (now : SteadyTime) (reading : Reading Payload) :
    Option (ProbeResult Payload) :=
  if slot.schedule.isDue now then some reading.result else none

def Slot.maybeCollect (slot : Slot Payload) (now : SteadyTime) (reading : Reading Payload) :
    Slot Payload :=
  match slot.call now reading with
  | some (.ok payload) => {
      schedule := { slot.schedule with
        nextRun := now + seconds slot.schedule.interval
        hasResult := true }
      cache := stampCollected reading.stampedAt payload }
  -- A failed probe is only logged: cache and schedule stay, so it is retried.
  | some (.error _) => slot
  | none => slot

def Slot.force (slot : Slot Payload) (pending : Bool) (now : SteadyTime) : Slot Payload :=
  if pending then { slot with schedule.nextRun := now } else slot

def Slot.markStale (slot : Slot Payload) (now : SteadyTime) : Slot Payload :=
  match freshnessField Payload with
  | some field =>
      if slot.schedule.hasResult && slot.schedule.interval > 0 then
        let grace := max (seconds slot.schedule.interval) (seconds 30)
        let stale := decide (now > slot.schedule.nextRun + grace)
        { slot with cache := field.set { field.get slot.cache with stale } slot.cache }
      else slot
  | none => slot

end Slot

structure Daemon where
  device : Slot DeviceInfo
  boot : Slot BootStatus
  services : Slot ServicesStatus
  resources : Slot ResourcesStatus
  timeSync : Slot TimeSyncStatus
  update : Slot UpdateStatus
  journal : Slot JournalStatus
  crash : Slot CrashStatus
  cycleCount : UInt64 := 0
  currentState : SnapshotState := {}
  lastSeverity : Severity := .unknown
  lastAlarmedCrashFp : Option String := none
  currentPanicFingerprint : Option String := none
  -- Absent when the system bus was unavailable at startup.
  healthManager : Option HealthManager

def initializeDaemon (config : Config) (healthManager : Option HealthManager) : Daemon where
  device := ⟨{ interval := 0 }, {}⟩
  boot := ⟨{ interval := config.collectInterval }, {}⟩
  services := ⟨{ interval := config.collectInterval }, {}⟩
  resources := ⟨{ interval := config.collectInterval }, {}⟩
  timeSync := ⟨{ interval := config.timeSyncInterval }, {}⟩
  update := ⟨{ interval := config.updateCheckInterval }, {}⟩
  journal := ⟨{ interval := config.collectInterval }, {}⟩
  crash := ⟨{ interval := config.collectInterval }, {}⟩
  healthManager := healthManager

structure CycleInput where
  now : SteadyTime
  device : Reading DeviceInfo
  boot : Reading BootStatus
  services : Reading ServicesStatus
  resources : Reading ResourcesStatus
  timeSync : Reading TimeSyncStatus
  update : Reading UpdateStatus
  journal : Reading JournalStatus
  crash : Reading CrashStatus
  -- What `rauc_update_pending_.exchange(false)` returned.
  raucUpdatePending : Bool := false
  -- What `crash_ack_pending_.exchange(false)` returned.
  crashAckPending : Bool := false
  generatedAt : WallTime := 0

structure Calls where
  device : Option (ProbeResult DeviceInfo) := none
  boot : Option (ProbeResult BootStatus) := none
  services : Option (ProbeResult ServicesStatus) := none
  resources : Option (ProbeResult ResourcesStatus) := none
  timeSync : Option (ProbeResult TimeSyncStatus) := none
  update : Option (ProbeResult UpdateStatus) := none
  journal : Option (ProbeResult JournalStatus) := none
  crash : Option (ProbeResult CrashStatus) := none

structure CycleReport where
  input : CycleInput
  calls : Calls
  snapshot : SnapshotState
  signals : List BusSignal

structure Collection where
  daemon : Daemon
  calls : Calls := {}

def Collection.collectEarly (collection : Collection) (input : CycleInput) : Collection where
  daemon := { collection.daemon with
    device := collection.daemon.device.maybeCollect input.now input.device
    boot := collection.daemon.boot.maybeCollect input.now input.boot
    services := collection.daemon.services.maybeCollect input.now input.services
    resources := collection.daemon.resources.maybeCollect input.now input.resources
    timeSync := collection.daemon.timeSync.maybeCollect input.now input.timeSync }
  calls := { collection.calls with
    device := collection.daemon.device.call input.now input.device
    boot := collection.daemon.boot.call input.now input.boot
    services := collection.daemon.services.call input.now input.services
    resources := collection.daemon.resources.call input.now input.resources
    timeSync := collection.daemon.timeSync.call input.now input.timeSync }

def Collection.forceUpdate (collection : Collection) (input : CycleInput) : Collection :=
  { collection with
    daemon.update := collection.daemon.update.force input.raucUpdatePending input.now }

def Collection.collectUpdate (collection : Collection) (input : CycleInput) : Collection where
  daemon := { collection.daemon with
    update := collection.daemon.update.maybeCollect input.now input.update }
  calls := { collection.calls with
    update := collection.daemon.update.call input.now input.update }

def Collection.collectJournal (collection : Collection) (input : CycleInput) : Collection where
  daemon := { collection.daemon with
    journal := collection.daemon.journal.maybeCollect input.now input.journal }
  calls := { collection.calls with
    journal := collection.daemon.journal.call input.now input.journal }

def Collection.forceCrash (collection : Collection) (input : CycleInput) : Collection :=
  { collection with
    daemon.crash := collection.daemon.crash.force input.crashAckPending input.now }

def Collection.collectCrash (collection : Collection) (input : CycleInput) : Collection where
  daemon := { collection.daemon with
    crash := collection.daemon.crash.maybeCollect input.now input.crash }
  calls := { collection.calls with
    crash := collection.daemon.crash.call input.now input.crash }

def Daemon.markStale (daemon : Daemon) (now : SteadyTime) : Daemon :=
  { daemon with
    boot := daemon.boot.markStale now
    services := daemon.services.markStale now
    resources := daemon.resources.markStale now
    timeSync := daemon.timeSync.markStale now
    update := daemon.update.markStale now
    journal := daemon.journal.markStale now
    crash := daemon.crash.markStale now }

def crashAlarmMessage (crash : CrashStatus) : String :=
  "kernel panic detected this boot: " ++ toString crash.panicCount.toNat ++
    " panic artifact(s), fingerprint=" ++ crash.fingerprint.getD ""

def crashAlarm (lastAlarmed : Option String) (crash : CrashStatus) :
    Option String × List BusSignal :=
  let activePanic := crash.panicCount > 0 && !crash.acknowledged && crash.panicCurrentBoot &&
    crash.fingerprint.isSome
  if activePanic then
    if lastAlarmed != crash.fingerprint then
      (crash.fingerprint, [HealthManager.emitAlarm "crash" (crashAlarmMessage crash) .crit])
    else (lastAlarmed, [])
  else (none, [])

def Daemon.snapshot (config : Config) (loadPct : CpuLoad → Double) (daemon : Daemon)
    (generatedAt : WallTime) : SnapshotState :=
  { aggregate config loadPct generatedAt daemon.device.cache daemon.boot.cache
      daemon.services.cache daemon.resources.cache daemon.timeSync.cache daemon.update.cache
      daemon.journal.cache daemon.crash.cache with
    cycle := daemon.cycleCount + 1 }

def Daemon.publish (daemon : Daemon) (snapshot : SnapshotState) : Daemon :=
  { daemon with
    cycleCount := snapshot.cycle
    currentState := snapshot
    lastSeverity := snapshot.summary.severity
    currentPanicFingerprint :=
      if snapshot.crash.panicCount > 0 then snapshot.crash.fingerprint else none }

def Daemon.notifyManager (daemon : Daemon) (prevSev : Severity) : Daemon × List BusSignal :=
  match daemon.healthManager with
  | none => (daemon, [])
  | some manager =>
      let updated := manager.updateSeverity daemon.lastSeverity prevSev
      let latched := crashAlarm daemon.lastAlarmedCrashFp daemon.currentState.crash
      ({ daemon with
          healthManager :=
            some (updated.1.updateRecentLogs daemon.currentState.journal.recentErrors)
          lastAlarmedCrashFp := latched.1 },
        updated.2 ++ latched.2)

/-- The end of a cycle. The outcome of writing the snapshot is only logged, so
nothing here depends on it. -/
def Collection.finish (config : Config) (loadPct : CpuLoad → Double) (collection : Collection)
    (input : CycleInput) : Daemon × CycleReport :=
  let marked := collection.daemon.markStale input.now
  let snapshot := marked.snapshot config loadPct input.generatedAt
  let notified := (marked.publish snapshot).notifyManager marked.lastSeverity
  (notified.1, ⟨input, collection.calls, snapshot, notified.2⟩)

def Daemon.collect (daemon : Daemon) (input : CycleInput) : Collection :=
  let collection : Collection := { daemon }
  let collection := collection.collectEarly input
  let collection := collection.forceUpdate input
  let collection := collection.collectUpdate input
  let collection := collection.collectJournal input
  let collection := collection.forceCrash input
  collection.collectCrash input

def collectionCycle (config : Config) (loadPct : CpuLoad → Double) (daemon : Daemon)
    (input : CycleInput) : Daemon × CycleReport :=
  (daemon.collect input).finish config loadPct input

end EdgeHealthd
