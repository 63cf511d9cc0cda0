import EdgeHealthd.CrashProbeCore
import EdgeHealthd.Library.Machine
import Mathlib.Algebra.Group.Nat.Defs

/-!
The daemon as it runs: `SnapshotDaemon::run` on the main thread, the D-Bus
callbacks on the event loop thread, and the signal handler, interleaved one
shared access at a time. Program counters are named after the next access.
Readings of clocks and probes are fixed when a cycle starts, except those of the
crash probe, which come from the shared pstore directory and `crash_state.json`.
-/

namespace EdgeHealthd

inductive MainPc where
  | starting
  | startCycle
  | exchangeRauc (input : CycleInput) (calls : Calls)
  | collectUpdate (input : CycleInput) (calls : Calls)
  | collectJournal (input : CycleInput) (calls : Calls)
  | exchangeAck (input : CycleInput) (calls : Calls)
  | collectCrash (input : CycleInput) (calls : Calls)
  | readAck (input : CycleInput) (calls : Calls) (scan : CrashStatus)
  | publish (input : CycleInput) (calls : Calls)
  | notify (input : CycleInput) (calls : Calls) (snapshot : SnapshotState) (prevSev : Severity)
  | published (report : CycleReport)
  | checkShutdown
  | checkSignal
  | polling
  | draining
  | clearTrigger
  | recheckShutdown
  | recheckSignal
  | requestShutdown
  | wakeSelf
  | stopped

inductive BusPc where
  | idle
  | raucTrigger
  | raucWake
  | ackReplace (fingerprint : String)
  | ackStore (fingerprint : String)
  | ackTrigger (fingerprint : String)
  | ackWake (fingerprint : String)
  | triggerWake
  deriving DecidableEq

structure System where
  -- Owned by the main thread; the bus thread reads only the panic fingerprint.
  daemon : Daemon
  main : MainPc := .starting
  eventLoopEntered : Bool := false
  bus : BusPc := .idle
  lastTriggerTime : Option SteadyTime := none
  raucUpdatePending : Bool := false
  crashAckPending : Bool := false
  triggerRequested : Bool := false
  shutdownRequested : Bool := false
  shutdownSignal : Bool := false
  signalHandlers : Nat := 0
  eventfd : Nat := 0
  crashState : StateFile
  pstore : Pstore

def System.start (config : Config) (healthManager : Option HealthManager)
    (crashState : StateFile) (pstore : Pstore) : System :=
  { daemon := initializeDaemon config healthManager, crashState, pstore }

inductive PollOutcome where
  | readable
  | timeout
  | interrupted
  deriving DecidableEq

inductive MainAction where
  | startCycle (input : CycleInput)
  | exchangeRauc
  | collectUpdate
  | collectJournal
  | exchangeAck
  | collectCrash (clocks : ScanClocks)
  | readAck
  | publish
  | notify
  | enterLoop
  | checkShutdown
  | checkSignal
  | pollReturn (outcome : PollOutcome)
  | drain
  | clearTrigger
  | recheckShutdown
  | recheckSignal
  | requestShutdown
  | wakeSelf

/-- How `atomic_write_file` ends: it can report a failure after its rename. -/
inductive ReplaceOutcome where
  | replaced
  | failed
  | failedAfterRename
  deriving DecidableEq

inductive BusAction where
  | raucCompleted
  | raucTrigger
  | raucWake
  | acknowledgeCrash (fingerprint : String)
  | ackReplace (fingerprint : String) (outcome : ReplaceOutcome)
  | ackStore
  | ackTrigger
  | ackWake (fingerprint : String)
  | triggerSnapshot (now : SteadyTime)
  | triggerWake
  deriving DecidableEq

inductive SignalAction where
  | setFlag
  | writeEventfd
  deriving DecidableEq

inductive Action where
  | main (action : MainAction)
  | bus (action : BusAction)
  | signal (action : SignalAction)
  | pstoreChange (pstore : Pstore)

/-- Write 1 to the eventfd; at its maximum the write fails with EAGAIN. -/
def wake (eventfd : Nat) : Nat := if eventfd + 1 ≤ 2 ^ 64 - 2 then eventfd + 1 else eventfd

section Step

variable (config : Config) (loadPct : CpuLoad → Double)

def System.collected (state : System) (collection : Collection) (next : Calls → MainPc) : System :=
  { state with daemon := collection.daemon, main := next collection.calls }

def System.startCycle (state : System) (input : CycleInput) : System :=
  state.collected (Collection.collectEarly ⟨state.daemon, {}⟩ input) (.exchangeRauc input)

def System.exchangeRauc (state : System) (input : CycleInput) (calls : Calls) : System :=
  let input := { input with raucUpdatePending := state.raucUpdatePending }
  { state with raucUpdatePending := false }.collected
    (Collection.forceUpdate ⟨state.daemon, calls⟩ input) (.collectUpdate input)

def System.collectUpdate (state : System) (input : CycleInput) (calls : Calls) : System :=
  state.collected (Collection.collectUpdate ⟨state.daemon, calls⟩ input) (.collectJournal input)

def System.collectJournal (state : System) (input : CycleInput) (calls : Calls) : System :=
  state.collected (Collection.collectJournal ⟨state.daemon, calls⟩ input) (.exchangeAck input)

def System.exchangeAck (state : System) (input : CycleInput) (calls : Calls) : System :=
  let input := { input with crashAckPending := state.crashAckPending }
  { state with crashAckPending := false }.collected
    (Collection.forceCrash ⟨state.daemon, calls⟩ input) (.collectCrash input)

def System.collectCrash (state : System) (input : CycleInput) (calls : Calls) : System :=
  state.collected (Collection.collectCrash ⟨state.daemon, calls⟩ input) (.publish input)

def System.readAck (state : System) (input : CycleInput) (calls : Calls) (scan : CrashStatus) :
    System :=
  state.collectCrash
    { input with crash.result := .ok (scan.compareAcknowledged state.crashState) } calls

def System.publish (state : System) (input : CycleInput) (calls : Calls) : System :=
  let marked := state.daemon.markStale input.now
  let snapshot := marked.snapshot config loadPct input.generatedAt
  { state with
    daemon := marked.publish snapshot
    main := .notify input calls snapshot marked.lastSeverity }

def System.notify (state : System) (input : CycleInput) (calls : Calls)
    (snapshot : SnapshotState) (prevSev : Severity) : System :=
  let notified := state.daemon.notifyManager prevSev
  { state with
    daemon := notified.1
    main := .published ⟨input, calls, snapshot, notified.2⟩ }

/-- The steps of `collection_cycle`. The crash probe reads two shared inputs, so
its call takes two steps. -/
def cycleStep (state : System) : MainAction → Option System
  | .startCycle input =>
      match state.main with
      | .starting | .startCycle => some (state.startCycle input)
      | _ => none
  | .exchangeRauc =>
      match state.main with
      | .exchangeRauc input calls => some (state.exchangeRauc input calls)
      | _ => none
  | .collectUpdate =>
      match state.main with
      | .collectUpdate input calls => some (state.collectUpdate input calls)
      | _ => none
  | .collectJournal =>
      match state.main with
      | .collectJournal input calls => some (state.collectJournal input calls)
      | _ => none
  | .exchangeAck =>
      match state.main with
      | .exchangeAck input calls => some (state.exchangeAck input calls)
      | _ => none
  | .collectCrash clocks =>
      match state.main with
      | .collectCrash input calls =>
          if state.daemon.crash.schedule.isDue input.now then
            some { state with
              main := .readAck input calls (CrashProbe.scan clocks state.pstore) }
          else some (state.collectCrash input calls)
      | _ => none
  | .readAck =>
      match state.main with
      | .readAck input calls scan => some (state.readAck input calls scan)
      | _ => none
  | .publish =>
      match state.main with
      | .publish input calls => some (state.publish config loadPct input calls)
      | _ => none
  | .notify =>
      match state.main with
      | .notify input calls snapshot prevSev => some (state.notify input calls snapshot prevSev)
      | _ => none
  | _ => none

def loopStep (state : System) : MainAction → Option System
  | .enterLoop =>
      match state.main with
      -- After the initial cycle this also starts the event loop thread, if there is a bus.
      | .published _ =>
          some { state with
            main := .checkShutdown
            eventLoopEntered := state.daemon.healthManager.isSome }
      | _ => none
  | .checkShutdown =>
      match state.main with
      | .checkShutdown =>
          some { state with main := if state.shutdownRequested then .stopped else .checkSignal }
      | _ => none
  | .checkSignal =>
      match state.main with
      | .checkSignal =>
          some { state with main := if state.shutdownSignal then .requestShutdown else .polling }
      | _ => none
  | .pollReturn outcome =>
      match state.main with
      | .polling =>
          if outcome = .readable then
            if state.eventfd > 0 then some { state with main := .draining } else none
          else some { state with main := .clearTrigger }
      | _ => none
  | .drain =>
      match state.main with
      | .draining =>
          if state.eventfd > 0 then some { state with eventfd := 0 }
          else some { state with main := .clearTrigger }
      | _ => none
  | .clearTrigger =>
      match state.main with
      | .clearTrigger => some { state with triggerRequested := false, main := .recheckShutdown }
      | _ => none
  | .recheckShutdown =>
      match state.main with
      | .recheckShutdown =>
          some { state with
            main := if state.shutdownRequested then .requestShutdown else .recheckSignal }
      | _ => none
  | .recheckSignal =>
      match state.main with
      | .recheckSignal =>
          some { state with main := if state.shutdownSignal then .requestShutdown else .startCycle }
      | _ => none
  | .requestShutdown =>
      match state.main with
      | .requestShutdown => some { state with shutdownRequested := true, main := .wakeSelf }
      | _ => none
  | .wakeSelf =>
      match state.main with
      | .wakeSelf => some { state with eventfd := wake state.eventfd, main := .stopped }
      | _ => none
  | _ => none

def mainStep (state : System) (action : MainAction) : Option System :=
  (cycleStep config loadPct state action).or (loopStep state action)

def triggerLimited (state : System) (now : SteadyTime) : Bool :=
  config.triggerMinInterval > 0 &&
    state.lastTriggerTime.any fun last => now - last < seconds config.triggerMinInterval

def busStep (state : System) : BusAction → Option System
  | .raucCompleted =>
      if state.bus = .idle then
        some { state with raucUpdatePending := true, bus := .raucTrigger }
      else none
  | .raucTrigger =>
      if state.bus = .raucTrigger then
        some { state with triggerRequested := true, bus := .raucWake }
      else none
  | .raucWake =>
      if state.bus = .raucWake then
        some { state with eventfd := wake state.eventfd, bus := .idle }
      else none
  | .acknowledgeCrash fingerprint =>
      if state.bus = .idle then
        if state.daemon.currentPanicFingerprint = some fingerprint then
          some { state with bus := .ackReplace fingerprint }
        else some state
      else none
  | .ackReplace fingerprint outcome =>
      if state.bus = .ackReplace fingerprint then
        match outcome with
        | .replaced =>
            some { state with
              crashState := acknowledgementFile fingerprint, bus := .ackStore fingerprint }
        | .failed => some { state with bus := .idle }
        | .failedAfterRename =>
            some { state with crashState := acknowledgementFile fingerprint, bus := .idle }
      else none
  | .ackStore =>
      match state.bus with
      | .ackStore fingerprint =>
          some { state with crashAckPending := true, bus := .ackTrigger fingerprint }
      | _ => none
  | .ackTrigger =>
      match state.bus with
      | .ackTrigger fingerprint =>
          some { state with triggerRequested := true, bus := .ackWake fingerprint }
      | _ => none
  | .ackWake fingerprint =>
      if state.bus = .ackWake fingerprint then
        some { state with eventfd := wake state.eventfd, bus := .idle }
      else none
  | .triggerSnapshot now =>
      if state.bus = .idle then
        if triggerLimited config state now then some state
        else
          some { state with
            lastTriggerTime := some now, triggerRequested := true, bus := .triggerWake }
      else none
  | .triggerWake =>
      if state.bus = .triggerWake then
        some { state with eventfd := wake state.eventfd, bus := .idle }
      else none

def signalStep (state : System) : SignalAction → Option System
  | .setFlag =>
      some { state with shutdownSignal := true, signalHandlers := state.signalHandlers + 1 }
  | .writeEventfd =>
      if state.signalHandlers > 0 then
        some { state with
          eventfd := wake state.eventfd, signalHandlers := state.signalHandlers - 1 }
      else none

def step (state : System) : Action → Option System
  | .main action => mainStep config loadPct state action
  | .bus action => if state.eventLoopEntered then busStep config state action else none
  | .signal action => signalStep state action
  | .pstoreChange pstore => some { state with pstore }

end Step

end EdgeHealthd
