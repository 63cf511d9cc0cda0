import EdgeHealthd.Sections

/-!
The manager object of `src/dbus_manager.cpp` on the bus. The main thread updates it in several
critical sections and sends its signals between them, while the bus thread answers readers. Put
together the steps of one cycle are the update of `Daemon.notifyManager`, and a subscriber
learns of every change.
-/

namespace EdgeHealthd

open Machine

/-- What the object sends. A change of the property is sent with its value. -/
inductive BusMessage where
  | propertiesChanged (severity : String)
  | alarm (signal : BusSignal)
  | overallSeverity (caller : Nat) (severity : String)
  | recentLogs (caller : Nat) (lines : List ByteString)

def BusMessage.signal : BusMessage → Option BusSignal
  | .propertiesChanged _ => some (.propertiesChanged "OverallSeverity")
  | .alarm signal => some signal
  | .overallSeverity _ _ | .recentLogs _ _ => none

/-- What a caller that has subscribed takes for the severity after a message. -/
def BusMessage.heardBy (caller : Nat) : BusMessage → Option String
  | .propertiesChanged severity => some severity
  | .overallSeverity receiver severity => if receiver = caller then some severity else none
  | .alarm _ | .recentLogs _ _ => none

/-- Where the main thread is with the end of its cycle. -/
inductive NotifyPc where
  | idle
  | changedSignal (changed : Bool) (prevSev : Severity) (state : SnapshotState)
  | degradationAlarm (prevSev : Severity) (state : SnapshotState)
  | updateRecentLogs (state : SnapshotState)
  | crashAlarm (state : SnapshotState)

def NotifyPc.state : NotifyPc → Option SnapshotState
  | .idle => none
  | .changedSignal _ _ state | .degradationAlarm _ state => some state
  | .updateRecentLogs state | .crashAlarm state => some state

def NotifyPc.announces : NotifyPc → Bool
  | .changedSignal changed _ _ => changed
  | _ => false

structure BusService where
  manager : HealthManager
  lastSeverity : Severity := .unknown
  lastAlarmedCrashFp : Option String := none
  pc : NotifyPc := .idle
  published : List SnapshotState := []
  sent : List BusMessage := []

inductive BusServiceAction where
  -- The critical section of `update_severity`.
  | updateSeverity (state : SnapshotState)
  | proceed
  | overallSeverity (caller : Nat)
  | getRecentLogs (caller : Nat) (maxLines : UInt32)

namespace BusService

def send (service : BusService) (messages : List BusMessage) : BusService :=
  { service with sent := service.sent ++ messages }

def overallAlarm (prevSev newSev : Severity) : List BusSignal :=
  if isDegradation prevSev newSev then
    [.healthAlarm "overall" (prevSev.toString ++ " -> " ++ newSev.toString) newSev.toString]
  else []

def step (service : BusService) : BusServiceAction → Option BusService
  | .updateSeverity state =>
      match service.pc with
      | .idle =>
          let newSev := state.summary.severity
          let changed := service.manager.severityStr != newSev.toString
          some { service with
            manager := { service.manager with severityStr := newSev.toString, lastSev := newSev }
            lastSeverity := newSev
            published := service.published ++ [state]
            pc := .changedSignal changed service.lastSeverity state }
      | _ => none
  | .proceed =>
      match service.pc with
      | .idle => none
      | .changedSignal changed prevSev state =>
          -- The getter is asked for the value when the signal is sent.
          let message := BusMessage.propertiesChanged service.manager.severityStr
          some { service.send (if changed then [message] else []) with
            pc := .degradationAlarm prevSev state }
      | .degradationAlarm prevSev state =>
          some { service.send ((overallAlarm prevSev state.summary.severity).map .alarm) with
            pc := .updateRecentLogs state }
      | .updateRecentLogs state =>
          some { service with
            manager := service.manager.updateRecentLogs state.journal.recentErrors
            pc := .crashAlarm state }
      | .crashAlarm state =>
          let latched := crashAlarm service.lastAlarmedCrashFp state.crash
          some { service.send (latched.2.map .alarm) with
            lastAlarmedCrashFp := latched.1
            pc := .idle }
  | .overallSeverity caller =>
      some (service.send [.overallSeverity caller service.manager.severityStr])
  | .getRecentLogs caller maxLines =>
      some (service.send [.recentLogs caller (service.manager.getRecentLogs maxLines)])

def signals (service : BusService) : List BusSignal := service.sent.filterMap BusMessage.signal

end BusService

/-- What the updates of the manager remember from cycle to cycle. -/
structure Announcer where
  manager : HealthManager
  severity : Severity := .unknown
  latch : Option String := none

/-- The update of a whole cycle at once, as `Daemon.notifyManager` makes it. -/
def Announcer.announce (announcer : Announcer) (state : SnapshotState) :
    Announcer × List BusSignal :=
  let updated := announcer.manager.updateSeverity state.summary.severity announcer.severity
  let latched := crashAlarm announcer.latch state.crash
  (⟨updated.1.updateRecentLogs state.journal.recentErrors, state.summary.severity, latched.1⟩,
    updated.2 ++ latched.2)

section Cycles

variable (config : Config) (loadPct : CpuLoad → Double)

def Daemon.announcer (daemon : Daemon) : Option Announcer :=
  daemon.healthManager.map fun manager =>
    ⟨manager, daemon.lastSeverity, daemon.lastAlarmedCrashFp⟩

theorem notifyManager_announce {daemon : Daemon} {manager : HealthManager}
    (present : daemon.healthManager = some manager) (prevSev : Severity) :
    let announced := Announcer.announce ⟨manager, prevSev, daemon.lastAlarmedCrashFp⟩
      { daemon.currentState with summary.severity := daemon.lastSeverity }
    (daemon.notifyManager prevSev).1.announcer = some announced.1 ∧
      (daemon.notifyManager prevSev).2 = announced.2 := by
  simp [Daemon.notifyManager, Daemon.announcer, Announcer.announce, present]

theorem collectionCycle_announce {daemon : Daemon} {announcer : Announcer}
    (known : daemon.announcer = some announcer) (input : CycleInput) :
    let cycle := collectionCycle config loadPct daemon input
    cycle.1.announcer = some (announcer.announce cycle.2.snapshot).1 ∧
      cycle.2.signals = (announcer.announce cycle.2.snapshot).2 := by
  obtain ⟨manager, present, rfl⟩ := Option.map_eq_some_iff.mp known
  intro cycle
  let marked := (daemon.collect input).daemon.markStale input.now
  have kept : (marked.publish cycle.2.snapshot).healthManager = some manager := present
  exact notifyManager_announce kept marked.lastSeverity

theorem runCycles_announce (manager : HealthManager) (inputs : List CycleInput) :
    let run := runCycles config loadPct (some manager) inputs
    let announced := respond Announcer.announce ⟨manager, .unknown, none⟩
      (run.2.map CycleReport.snapshot)
    run.1.announcer = some announced.1 ∧ run.2.map CycleReport.signals = announced.2 := by
  induction inputs using List.reverseRecOn with
  | nil => exact ⟨rfl, rfl⟩
  | append_singleton past input ih =>
      obtain ⟨known, before⟩ := ih
      obtain ⟨announcer, signals⟩ := collectionCycle_announce config loadPct known input
      simp only [runCycles_snoc, List.map_append, List.map_cons, List.map_nil, respond_snoc]
      exact ⟨announcer, congrArg₂ _ before (congrArg (fun sent => [sent]) signals)⟩

end Cycles

namespace BusService

section Runs

variable {service next : BusService} {start : Announcer}

/-- What the rest of the cycle leaves behind, and the signals it still sends. -/
def finish (service : BusService) : Announcer × List BusSignal :=
  let logged (state : SnapshotState) := service.manager.updateRecentLogs state.journal.recentErrors
  let latched (state : SnapshotState) := crashAlarm service.lastAlarmedCrashFp state.crash
  let alarm (prevSev : Severity) (state : SnapshotState) :=
    overallAlarm prevSev state.summary.severity
  match service.pc with
  | .idle => (⟨service.manager, service.lastSeverity, service.lastAlarmedCrashFp⟩, [])
  | .changedSignal changed prevSev state =>
      (⟨logged state, service.lastSeverity, (latched state).1⟩,
        (if changed then [.propertiesChanged "OverallSeverity"] else []) ++
          (alarm prevSev state ++ (latched state).2))
  | .degradationAlarm prevSev state =>
      (⟨logged state, service.lastSeverity, (latched state).1⟩,
        alarm prevSev state ++ (latched state).2)
  | .updateRecentLogs state =>
      (⟨logged state, service.lastSeverity, (latched state).1⟩, (latched state).2)
  | .crashAlarm state =>
      (⟨service.manager, service.lastSeverity, (latched state).1⟩, (latched state).2)

/-- Finishing the cycle that is under way gives what the updates at once give. -/
structure Refines (start : Announcer) (service : BusService) : Prop where
  announcer : service.finish.1 = (respond Announcer.announce start service.published).1
  told : service.signals ++ service.finish.2 =
    (respond Announcer.announce start service.published).2.flatten

theorem signals_reply (service : BusService) {message : BusMessage}
    (silent : message.signal = none) : (service.send [message]).signals = service.signals := by
  simp [signals, send, silent]

theorem Refines.updateSeverity (refines : Refines start service) {state : SnapshotState}
    (taken : service.step (.updateSeverity state) = some next) : Refines start next := by
  simp only [step] at taken
  split at taken
  · rename_i idle
    have before := refines.announcer
    have sent := refines.told
    simp only [finish, idle, List.append_nil] at before sent
    obtain rfl := Option.some.inj taken
    constructor
    · simp only [finish, respond_snoc, ← before]
      rfl
    · simp only [finish, respond_snoc, List.flatten_append, ← sent, ← before]
      simp [Announcer.announce, HealthManager.updateSeverity, overallAlarm, signals]
  · cases taken

theorem Refines.same (refines : Refines start service)
    (published : next.published = service.published) (left : next.finish.1 = service.finish.1)
    (moved : next.signals ++ next.finish.2 = service.signals ++ service.finish.2) :
    Refines start next :=
  ⟨left.trans (published ▸ refines.announcer), moved.trans (published ▸ refines.told)⟩

theorem Refines.proceed (refines : Refines start service)
    (taken : service.step .proceed = some next) : Refines start next := by
  simp only [step] at taken
  split at taken
  · cases taken
  · rename_i changed prevSev state current
    obtain rfl := Option.some.inj taken
    refine refines.same rfl ?_ ?_
    · simp only [finish, current]
      rfl
    · simp only [finish, current]
      cases changed <;> simp [signals, send, BusMessage.signal]
  · rename_i prevSev state current
    obtain rfl := Option.some.inj taken
    refine refines.same rfl ?_ ?_
    · simp only [finish, current]
      rfl
    · simp [finish, current, signals, send, Function.comp_def, BusMessage.signal]
  · rename_i state current
    obtain rfl := Option.some.inj taken
    refine refines.same rfl ?_ ?_
    · simp only [finish, current]
    · simp [finish, current, signals]
  · rename_i state current
    obtain rfl := Option.some.inj taken
    refine refines.same rfl ?_ ?_
    · simp only [finish, current]
      rfl
    · simp [finish, current, signals, send, Function.comp_def, BusMessage.signal]

theorem Refines.step (refines : Refines start service) {action : BusServiceAction}
    (taken : service.step action = some next) : Refines start next := by
  cases action with
  | updateSeverity state => exact refines.updateSeverity taken
  | proceed => exact refines.proceed taken
  | overallSeverity caller =>
      obtain rfl := Option.some.inj taken
      exact refines.same rfl rfl (congrArg (· ++ _) (signals_reply service rfl))
  | getRecentLogs caller maxLines =>
      obtain rfl := Option.some.inj taken
      exact refines.same rfl rfl (congrArg (· ++ _) (signals_reply service rfl))

/-- The severity a subscriber has last heard of; the property starts as `unknown`. -/
def mirror (service : BusService) (caller : Nat) : String :=
  (service.sent.filterMap (BusMessage.heardBy caller)).getLast?.getD "unknown"

/-- The lines of the cycle before are still there while the new ones are not. -/
def loggedState (service : BusService) : Option SnapshotState :=
  match service.pc with
  | .idle | .crashAlarm _ => service.published.getLast?
  | .changedSignal _ _ _ | .degradationAlarm _ _ | .updateRecentLogs _ =>
      service.published.dropLast.getLast?

/-- What readers and subscribers find. -/
structure Shows (service : BusService) : Prop where
  property : service.manager.severityStr =
    (service.published.getLast?.map fun state => state.summary.severity.toString).getD "unknown"
  logs : service.manager.logsCache =
    (service.loggedState.map fun state => state.journal.recentErrors).getD []
  current : ∀ state, service.pc.state = some state → service.published.getLast? = some state
  mirror : ∀ caller, service.pc.announces = true ∨ service.mirror caller = service.manager.severityStr

theorem mirror_send (service : BusService) (messages : List BusMessage) (caller : Nat) :
    (service.send messages).mirror caller =
      (messages.filterMap (BusMessage.heardBy caller)).getLast?.getD (service.mirror caller) := by
  simp only [mirror, send, List.filterMap_append, List.getLast?_append]
  cases (messages.filterMap (BusMessage.heardBy caller)).getLast? <;> rfl

theorem heardBy_alarms (alarms : List BusSignal) (caller : Nat) :
    (alarms.map BusMessage.alarm).filterMap (BusMessage.heardBy caller) = [] := by
  simp [BusMessage.heardBy]

theorem Shows.updateSeverity (shows : Shows service) {state : SnapshotState}
    (taken : service.step (.updateSeverity state) = some next) : Shows next := by
  simp only [step] at taken
  split at taken
  · rename_i idle
    obtain rfl := Option.some.inj taken
    refine ⟨by simp, ?_, ?_, ?_⟩
    · have before := shows.logs
      simp only [loggedState, idle] at before
      simpa [loggedState] using before
    · rintro _ ⟨⟩
      exact List.getLast?_concat
    · intro caller
      by_cases changed : service.manager.severityStr = state.summary.severity.toString
      · right
        rcases shows.mirror caller with busy | heard
        · rw [idle] at busy
          cases busy
        · exact heard.trans changed
      · left
        simp [NotifyPc.announces, changed]
  · cases taken

theorem Shows.sending (shows : Shows service) (manager : next.manager = service.manager)
    (published : next.published = service.published)
    (logged : next.loggedState = service.loggedState)
    (current : ∀ state, next.pc.state = some state → service.pc.state = some state)
    (heard : ∀ caller, next.pc.announces = true ∨ next.mirror caller = service.manager.severityStr) :
    Shows next := by
  refine ⟨?_, ?_, ?_, manager ▸ heard⟩
  · rw [manager, published]
    exact shows.property
  · rw [manager, logged]
    exact shows.logs
  · intro state busy
    rw [published]
    exact shows.current state (current state busy)

theorem Shows.proceed (shows : Shows service) (taken : service.step .proceed = some next) :
    Shows next := by
  have quiet {pc : NotifyPc} (busy : service.pc = pc) (silent : pc.announces = false)
      (caller : Nat) : service.mirror caller = service.manager.severityStr := by
    refine (shows.mirror caller).resolve_left ?_
    rw [busy, silent]
    exact Bool.false_ne_true
  simp only [step] at taken
  split at taken
  · cases taken
  · rename_i changed prevSev state busy
    obtain rfl := Option.some.inj taken
    refine shows.sending rfl rfl ?_ ?_ ?_
    · simp only [loggedState, busy]
      rfl
    · intro other same
      rw [busy]
      exact same
    · intro caller
      right
      refine (mirror_send service _ caller).trans ?_
      cases changed with
      | true => rfl
      | false => exact quiet busy rfl caller
  · rename_i prevSev state busy
    obtain rfl := Option.some.inj taken
    refine shows.sending rfl rfl ?_ ?_ ?_
    · simp only [loggedState, busy]
      rfl
    · intro other same
      rw [busy]
      exact same
    · intro caller
      right
      refine (mirror_send service _ caller).trans ?_
      rw [heardBy_alarms]
      exact quiet busy rfl caller
  · rename_i state busy
    obtain rfl := Option.some.inj taken
    have last := shows.current state (by rw [busy]; rfl)
    refine ⟨shows.property, ?_, ?_, fun caller => Or.inr (quiet busy rfl caller)⟩
    · simp [loggedState, last, HealthManager.updateRecentLogs]
    · rintro _ ⟨⟩
      exact last
  · rename_i state busy
    obtain rfl := Option.some.inj taken
    refine shows.sending rfl rfl ?_ ?_ ?_
    · simp only [loggedState, busy]
      rfl
    · intro _ none
      cases none
    · intro caller
      right
      refine (mirror_send service _ caller).trans ?_
      rw [heardBy_alarms]
      exact quiet busy rfl caller

theorem Shows.reply (shows : Shows service) (message : BusMessage)
    (heard : ∀ caller, message.heardBy caller = none ∨
      message.heardBy caller = some service.manager.severityStr) :
    Shows (service.send [message]) := by
  refine shows.sending rfl rfl rfl (fun _ same => same) ?_
  intro caller
  rcases shows.mirror caller with busy | same
  · exact Or.inl busy
  · right
    rw [mirror_send]
    rcases heard caller with none | told
    · simp [none, same]
    · simp [told]

theorem Shows.step (shows : Shows service) {action : BusServiceAction}
    (taken : service.step action = some next) : Shows next := by
  cases action with
  | updateSeverity state => exact shows.updateSeverity taken
  | proceed => exact shows.proceed taken
  | overallSeverity caller =>
      obtain rfl := Option.some.inj taken
      refine shows.reply _ fun other => ?_
      by_cases own : caller = other
      · exact Or.inr (if_pos own)
      · exact Or.inl (if_neg own)
  | getRecentLogs caller maxLines =>
      obtain rfl := Option.some.inj taken
      exact shows.reply _ fun _ => Or.inl rfl

theorem run_refines {manager : HealthManager} {actions : List BusServiceAction}
    (run : follow step { manager } actions = some service) :
    Refines ⟨manager, .unknown, none⟩ service :=
  follow_preserves (Refines ⟨manager, .unknown, none⟩) (fun _ => True)
    (fun _ _ _ _ refines taken => refines.step taken) run (fun _ _ => trivial) ⟨rfl, rfl⟩

theorem run_shows {actions : List BusServiceAction}
    (run : follow step { manager := {} } actions = some service) : Shows service := by
  have nothing : Shows { manager := {} } := by
    refine ⟨rfl, rfl, ?_, fun _ => Or.inr rfl⟩
    intro state none
    cases none
  exact follow_preserves Shows (fun _ => True) (fun _ _ _ _ shows taken => shows.step taken) run
    (fun _ _ => trivial) nothing

end Runs

/-- Over every interleaving of the main thread with readers on the bus: the signals sent are
those of the daemon's cycles in their order, a read of the property gives the severity of the
newest snapshot, a read of the logs lines of the newest or, while the manager is being updated,
of the one before, and a subscriber knows the property unless its signal is about to be sent. -/
theorem bus_service_follows (config : Config) (loadPct : CpuLoad → Double)
    (inputs : List CycleInput) (actions : List BusServiceAction) (service : BusService)
    (run : follow step { manager := {} } actions = some service)
    (published : service.published =
      (runCycles config loadPct (some {}) inputs).2.map CycleReport.snapshot) :
    (∃ later, (runCycles config loadPct (some {}) inputs).2.flatMap CycleReport.signals =
        service.signals ++ later ∧ (service.pc = .idle → later = [])) ∧
      service.manager.severityStr = (service.published.getLast?.map fun state =>
        state.summary.severity.toString).getD "unknown" ∧
      (∀ maxLines, service.manager.getRecentLogs maxLines =
        ((service.loggedState.map fun state => state.journal.recentErrors).getD []).take
          maxLines.toNat) ∧
      ∀ caller, service.pc.announces = true ∨
        service.mirror caller = service.manager.severityStr := by
  have shows := run_shows run
  have refines := run_refines run
  refine ⟨⟨service.finish.2, ?_, ?_⟩, shows.property, ?_, shows.mirror⟩
  · rw [refines.told, published, ← (runCycles_announce config loadPct {} inputs).2,
      List.flatMap_def]
  · intro idle
    simp only [finish, idle]
  · intro maxLines
    rw [← shows.logs, HealthManager.getRecentLogs]
    split
    · rename_i nothing
      rcases Bool.or_eq_true_iff.mp nothing with zero | empty
      · rw [eq_of_beq zero]
        rfl
      · rw [List.isEmpty_iff.mp empty, List.take_nil]
    · exact List.take_eq_take_min.symm

section Examples

def degradedRun : List CycleReport :=
  (runCycles {} (fun _ => .finite 0) (some {}) [healthyInput 0, memoryFailureInput (seconds 60)]).2

def readDuringUpdate : List BusServiceAction :=
  (degradedRun.take 1).map (fun report => BusServiceAction.updateSeverity report.snapshot) ++
    [.overallSeverity 0, .proceed, .getRecentLogs 1 10, .proceed, .proceed, .proceed] ++
    (degradedRun.drop 1).map (fun report => BusServiceAction.updateSeverity report.snapshot) ++
    [.getRecentLogs 1 10]

theorem read_during_update :
    ∃ service, follow step { manager := {} } readDuringUpdate = some service ∧
      service.signals ≠ [] ∧
      ∀ caller, service.pc.announces = true ∨
        service.mirror caller = service.manager.severityStr := by
  refine ⟨_, rfl, by decide, ?_⟩
  exact (bus_service_follows {} (fun _ => .finite 0) [healthyInput 0, memoryFailureInput (seconds 60)]
    readDuringUpdate _ rfl rfl).2.2.2

end Examples

end BusService

end EdgeHealthd
