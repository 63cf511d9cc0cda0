import EdgeHealthd.EventLoopCore
import EdgeHealthd.Sections

/-!
The interleaved daemon, step by step. The relations below list what a step of
the main thread and of the event loop thread can do; every invariant is a case
analysis over them. From the first of them the running daemon refines the
sequential collection cycle: what the other threads contribute are the pending
flags and the inputs of the crash probe.
-/

namespace EdgeHealthd

section Steps

variable (config : Config) (loadPct : CpuLoad → Double)

inductive CycleStep : System → MainAction → System → Prop where
  | startCycle {state : System} {input : CycleInput}
      (pc : state.main = .starting ∨ state.main = .startCycle) :
      CycleStep state (.startCycle input) (state.startCycle input)
  | exchangeRauc {state : System} {input : CycleInput} {calls : Calls}
      (pc : state.main = .exchangeRauc input calls) :
      CycleStep state .exchangeRauc (state.exchangeRauc input calls)
  | collectUpdate {state : System} {input : CycleInput} {calls : Calls}
      (pc : state.main = .collectUpdate input calls) :
      CycleStep state .collectUpdate (state.collectUpdate input calls)
  | collectJournal {state : System} {input : CycleInput} {calls : Calls}
      (pc : state.main = .collectJournal input calls) :
      CycleStep state .collectJournal (state.collectJournal input calls)
  | exchangeAck {state : System} {input : CycleInput} {calls : Calls}
      (pc : state.main = .exchangeAck input calls) :
      CycleStep state .exchangeAck (state.exchangeAck input calls)
  | scanCrash {state : System} {input : CycleInput} {calls : Calls} {clocks : ScanClocks}
      (pc : state.main = .collectCrash input calls)
      (due : state.daemon.crash.schedule.isDue input.now = true) :
      CycleStep state (.collectCrash clocks)
        { state with main := .readAck input calls (CrashProbe.scan clocks state.pstore) }
  | skipCrash {state : System} {input : CycleInput} {calls : Calls} {clocks : ScanClocks}
      (pc : state.main = .collectCrash input calls)
      (idle : state.daemon.crash.schedule.isDue input.now = false) :
      CycleStep state (.collectCrash clocks) (state.collectCrash input calls)
  | readAck {state : System} {input : CycleInput} {calls : Calls} {scan : CrashStatus}
      (pc : state.main = .readAck input calls scan) :
      CycleStep state .readAck (state.readAck input calls scan)
  | publish {state : System} {input : CycleInput} {calls : Calls}
      (pc : state.main = .publish input calls) :
      CycleStep state .publish (state.publish config loadPct input calls)
  | notify {state : System} {input : CycleInput} {calls : Calls} {snapshot : SnapshotState}
      {prevSev : Severity} (pc : state.main = .notify input calls snapshot prevSev) :
      CycleStep state .notify (state.notify input calls snapshot prevSev)

inductive LoopStep : System → MainAction → System → Prop where
  | enterLoop {state : System} {report : CycleReport} (pc : state.main = .published report) :
      LoopStep state .enterLoop
        { state with
          main := .checkShutdown, eventLoopEntered := state.daemon.healthManager.isSome }
  | leave {state : System} (pc : state.main = .checkShutdown)
      (requested : state.shutdownRequested = true) :
      LoopStep state .checkShutdown { state with main := .stopped }
  | stay {state : System} (pc : state.main = .checkShutdown)
      (unrequested : state.shutdownRequested = false) :
      LoopStep state .checkShutdown { state with main := .checkSignal }
  | signalled {state : System} (pc : state.main = .checkSignal)
      (signal : state.shutdownSignal = true) :
      LoopStep state .checkSignal { state with main := .requestShutdown }
  | poll {state : System} (pc : state.main = .checkSignal)
      (quiet : state.shutdownSignal = false) :
      LoopStep state .checkSignal { state with main := .polling }
  | readable {state : System} (pc : state.main = .polling) (ready : state.eventfd > 0) :
      LoopStep state (.pollReturn .readable) { state with main := .draining }
  | elapsed {state : System} {outcome : PollOutcome} (pc : state.main = .polling)
      (other : outcome ≠ .readable) :
      LoopStep state (.pollReturn outcome) { state with main := .clearTrigger }
  | drain {state : System} (pc : state.main = .draining) (ready : state.eventfd > 0) :
      LoopStep state .drain { state with eventfd := 0 }
  | drained {state : System} (pc : state.main = .draining) (empty : state.eventfd = 0) :
      LoopStep state .drain { state with main := .clearTrigger }
  | clearTrigger {state : System} (pc : state.main = .clearTrigger) :
      LoopStep state .clearTrigger
        { state with triggerRequested := false, main := .recheckShutdown }
  | reshutdown {state : System} (pc : state.main = .recheckShutdown)
      (requested : state.shutdownRequested = true) :
      LoopStep state .recheckShutdown { state with main := .requestShutdown }
  | recheck {state : System} (pc : state.main = .recheckShutdown)
      (unrequested : state.shutdownRequested = false) :
      LoopStep state .recheckShutdown { state with main := .recheckSignal }
  | resignalled {state : System} (pc : state.main = .recheckSignal)
      (signal : state.shutdownSignal = true) :
      LoopStep state .recheckSignal { state with main := .requestShutdown }
  | goAhead {state : System} (pc : state.main = .recheckSignal)
      (quiet : state.shutdownSignal = false) :
      LoopStep state .recheckSignal { state with main := .startCycle }
  | requestShutdown {state : System} (pc : state.main = .requestShutdown) :
      LoopStep state .requestShutdown { state with shutdownRequested := true, main := .wakeSelf }
  | wakeSelf {state : System} (pc : state.main = .wakeSelf) :
      LoopStep state .wakeSelf { state with eventfd := wake state.eventfd, main := .stopped }

inductive BusStep : System → BusAction → System → Prop where
  | raucCompleted {state : System} (pc : state.bus = .idle) :
      BusStep state .raucCompleted
        { state with raucUpdatePending := true, bus := .raucTrigger }
  | raucTrigger {state : System} (pc : state.bus = .raucTrigger) :
      BusStep state .raucTrigger { state with triggerRequested := true, bus := .raucWake }
  | raucWake {state : System} (pc : state.bus = .raucWake) :
      BusStep state .raucWake { state with eventfd := wake state.eventfd, bus := .idle }
  | mismatched {state : System} {fingerprint : String} (pc : state.bus = .idle)
      (other : state.daemon.currentPanicFingerprint ≠ some fingerprint) :
      BusStep state (.acknowledgeCrash fingerprint) state
  | matched {state : System} {fingerprint : String} (pc : state.bus = .idle)
      (current : state.daemon.currentPanicFingerprint = some fingerprint) :
      BusStep state (.acknowledgeCrash fingerprint)
        { state with bus := .ackReplace fingerprint }
  | replaced {state : System} {fingerprint : String} (pc : state.bus = .ackReplace fingerprint) :
      BusStep state (.ackReplace fingerprint .replaced)
        { state with
          crashState := acknowledgementFile fingerprint, bus := .ackStore fingerprint }
  | failed {state : System} {fingerprint : String} (pc : state.bus = .ackReplace fingerprint) :
      BusStep state (.ackReplace fingerprint .failed) { state with bus := .idle }
  | failedAfterRename {state : System} {fingerprint : String}
      (pc : state.bus = .ackReplace fingerprint) :
      BusStep state (.ackReplace fingerprint .failedAfterRename)
        { state with crashState := acknowledgementFile fingerprint, bus := .idle }
  | ackStore {state : System} {fingerprint : String} (pc : state.bus = .ackStore fingerprint) :
      BusStep state .ackStore
        { state with crashAckPending := true, bus := .ackTrigger fingerprint }
  | ackTrigger {state : System} {fingerprint : String}
      (pc : state.bus = .ackTrigger fingerprint) :
      BusStep state .ackTrigger
        { state with triggerRequested := true, bus := .ackWake fingerprint }
  | ackWake {state : System} {fingerprint : String} (pc : state.bus = .ackWake fingerprint) :
      BusStep state (.ackWake fingerprint)
        { state with eventfd := wake state.eventfd, bus := .idle }
  | limited {state : System} {now : SteadyTime} (pc : state.bus = .idle)
      (limit : triggerLimited config state now = true) :
      BusStep state (.triggerSnapshot now) state
  | triggered {state : System} {now : SteadyTime} (pc : state.bus = .idle)
      (free : triggerLimited config state now = false) :
      BusStep state (.triggerSnapshot now)
        { state with lastTriggerTime := some now, triggerRequested := true, bus := .triggerWake }
  | triggerWake {state : System} (pc : state.bus = .triggerWake) :
      BusStep state .triggerWake { state with eventfd := wake state.eventfd, bus := .idle }

theorem cycleStep_sound {state next : System} {action : MainAction}
    (taken : cycleStep config loadPct state action = some next) :
    CycleStep config loadPct state action next := by
  unfold cycleStep at taken
  split at taken
  · split at taken
    · cases taken; exact .startCycle (Or.inl ‹_›)
    · cases taken; exact .startCycle (Or.inr ‹_›)
    · cases taken
  · split at taken
    · cases taken; exact .exchangeRauc ‹_›
    · cases taken
  · split at taken
    · cases taken; exact .collectUpdate ‹_›
    · cases taken
  · split at taken
    · cases taken; exact .collectJournal ‹_›
    · cases taken
  · split at taken
    · cases taken; exact .exchangeAck ‹_›
    · cases taken
  · split at taken
    · split at taken
      · cases taken; exact .scanCrash ‹_› ‹_›
      · cases taken; exact .skipCrash ‹_› (Bool.eq_false_iff.mpr ‹_›)
    · cases taken
  · split at taken
    · cases taken; exact .readAck ‹_›
    · cases taken
  · split at taken
    · cases taken; exact .publish ‹_›
    · cases taken
  · split at taken
    · cases taken; exact .notify ‹_›
    · cases taken
  · cases taken

theorem loopStep_sound {state next : System} {action : MainAction}
    (taken : loopStep state action = some next) : LoopStep state action next := by
  unfold loopStep at taken
  split at taken
  · split at taken
    · cases taken; exact .enterLoop ‹_›
    · cases taken
  · split at taken
    · cases taken
      split
      · exact .leave ‹_› ‹_›
      · exact .stay ‹_› (Bool.eq_false_iff.mpr ‹_›)
    · cases taken
  · split at taken
    · cases taken
      split
      · exact .signalled ‹_› ‹_›
      · exact .poll ‹_› (Bool.eq_false_iff.mpr ‹_›)
    · cases taken
  · split at taken
    · split at taken
      · subst_vars
        split at taken
        · cases taken; exact .readable ‹_› ‹_›
        · cases taken
      · cases taken; exact .elapsed ‹_› ‹_›
    · cases taken
  · split at taken
    · split at taken
      · cases taken; exact .drain ‹_› ‹_›
      · cases taken; exact .drained ‹_› (Nat.eq_zero_of_not_pos ‹_›)
    · cases taken
  · split at taken
    · cases taken; exact .clearTrigger ‹_›
    · cases taken
  · split at taken
    · cases taken
      split
      · exact .reshutdown ‹_› ‹_›
      · exact .recheck ‹_› (Bool.eq_false_iff.mpr ‹_›)
    · cases taken
  · split at taken
    · cases taken
      split
      · exact .resignalled ‹_› ‹_›
      · exact .goAhead ‹_› (Bool.eq_false_iff.mpr ‹_›)
    · cases taken
  · split at taken
    · cases taken; exact .requestShutdown ‹_›
    · cases taken
  · split at taken
    · cases taken; exact .wakeSelf ‹_›
    · cases taken
  · cases taken

theorem mainStep_sound {state next : System} {action : MainAction}
    (taken : mainStep config loadPct state action = some next) :
    CycleStep config loadPct state action next ∨ LoopStep state action next := by
  unfold mainStep at taken
  rcases Option.or_eq_some_iff.mp taken with cycle | ⟨_, loop⟩
  · exact Or.inl (cycleStep_sound config loadPct cycle)
  · exact Or.inr (loopStep_sound loop)

theorem busStep_sound {state next : System} {action : BusAction}
    (taken : busStep config state action = some next) : BusStep config state action next := by
  unfold busStep at taken
  split at taken
  · split at taken
    · cases taken; exact .raucCompleted ‹_›
    · cases taken
  · split at taken
    · cases taken; exact .raucTrigger ‹_›
    · cases taken
  · split at taken
    · cases taken; exact .raucWake ‹_›
    · cases taken
  · split at taken
    · split at taken
      · cases taken; exact .matched ‹_› ‹_›
      · cases taken; exact .mismatched ‹_› ‹_›
    · cases taken
  · split at taken
    · split at taken
      · cases taken; exact .replaced ‹_›
      · cases taken; exact .failed ‹_›
      · cases taken; exact .failedAfterRename ‹_›
    · cases taken
  · split at taken
    · cases taken; exact .ackStore ‹_›
    · cases taken
  · split at taken
    · cases taken; exact .ackTrigger ‹_›
    · cases taken
  · split at taken
    · cases taken; exact .ackWake ‹_›
    · cases taken
  · split at taken
    · split at taken
      · cases taken; exact .limited ‹_› ‹_›
      · cases taken; exact .triggered ‹_› (Bool.eq_false_iff.mpr ‹_›)
    · cases taken
  · split at taken
    · cases taken; exact .triggerWake ‹_›
    · cases taken

theorem step_bus {state next : System} {action : BusAction}
    (taken : step config loadPct state (.bus action) = some next) :
    BusStep config state action next := by
  simp only [step] at taken
  split at taken
  · exact busStep_sound config taken
  · cases taken

theorem busStep_kept {state next : System} {action : BusAction}
    (taken : BusStep config state action next) :
    next.daemon = state.daemon ∧ next.main = state.main ∧ next.pstore = state.pstore ∧
      next.shutdownRequested = state.shutdownRequested ∧
      next.shutdownSignal = state.shutdownSignal ∧
      next.signalHandlers = state.signalHandlers := by
  cases taken <;> exact ⟨rfl, rfl, rfl, rfl, rfl, rfl⟩

theorem signalStep_kept {state next : System} {action : SignalAction}
    (taken : signalStep state action = some next) :
    next.daemon = state.daemon ∧ next.main = state.main ∧ next.pstore = state.pstore ∧
      next.bus = state.bus ∧ next.crashState = state.crashState ∧
      next.raucUpdatePending = state.raucUpdatePending ∧
      next.crashAckPending = state.crashAckPending ∧
      next.shutdownRequested = state.shutdownRequested := by
  cases action with
  | setFlag => cases taken; simp
  | writeEventfd =>
      simp only [signalStep] at taken
      split at taken
      · cases taken; simp
      · cases taken

theorem mainStep_kept {state next : System} {action : MainAction}
    (taken : mainStep config loadPct state action = some next) :
    next.bus = state.bus ∧ next.crashState = state.crashState ∧ next.pstore = state.pstore ∧
      next.shutdownSignal = state.shutdownSignal ∧
      next.signalHandlers = state.signalHandlers := by
  rcases mainStep_sound config loadPct taken with cycle | loop
  · cases cycle <;> exact ⟨rfl, rfl, rfl, rfl, rfl⟩
  · cases loop <;> exact ⟨rfl, rfl, rfl, rfl, rfl⟩

theorem loopStep_daemon {state next : System} {action : MainAction}
    (taken : LoopStep state action next) : next.daemon = state.daemon := by
  cases taken <;> rfl

def Action.isMain : Action → Bool
  | .main _ => true
  | .bus _ | .signal _ | .pstoreChange _ => false

theorem step_foreign {state next : System} {action : Action}
    (taken : step config loadPct state action = some next) (foreign : action.isMain = false) :
    next.daemon = state.daemon ∧ next.main = state.main ∧
      next.shutdownRequested = state.shutdownRequested := by
  cases action with
  | main action => cases foreign
  | bus action =>
      have kept := busStep_kept config (step_bus config loadPct taken)
      exact ⟨kept.1, kept.2.1, kept.2.2.2.1⟩
  | signal action =>
      have kept := signalStep_kept taken
      exact ⟨kept.1, kept.2.1, kept.2.2.2.2.2.2.2⟩
  | pstoreChange pstore => cases taken; simp

theorem publish_slot (state : System) (input : CycleInput) (calls : Calls) (kind : Section) :
    (state.publish config loadPct input calls).daemon.slot kind =
      (state.daemon.slot kind).markStale input.now := by
  cases kind <;> rfl

theorem cycleStep_interval {state next : System} {action : MainAction}
    (taken : CycleStep config loadPct state action next) (kind : Section) :
    (next.daemon.slot kind).schedule.interval = (state.daemon.slot kind).schedule.interval := by
  cases taken with
  | scanCrash => rfl
  | startCycle | collectUpdate | collectJournal | skipCrash | readAck =>
      cases kind <;> first | rfl | exact Slot.maybeCollect_interval _ _ _
  | exchangeRauc | exchangeAck =>
      cases kind <;> first | rfl | exact Slot.force_interval _ _ _
  | publish => rw [publish_slot, Slot.markStale_interval]
  | notify =>
      exact congrArg (fun slot : Slot kind.Payload => slot.schedule.interval)
        (notifyManager_slot _ _ kind)

theorem run_interval {healthManager : Option HealthManager} {crashState : StateFile}
    {pstore : Pstore} {history : List Action} {state : System}
    (run : Machine.follow (step config loadPct)
      (System.start config healthManager crashState pstore) history = some state)
    (kind : Section) : (state.daemon.slot kind).schedule.interval = kind.interval config := by
  apply Machine.follow_induction
    (fun _ current => (current.daemon.slot kind).schedule.interval = kind.interval config) _ _ run
  · cases kind <;> rfl
  · intro _ state action next _ same taken
    cases action with
    | main action =>
        rcases mainStep_sound config loadPct taken with cycle | loop
        · rw [cycleStep_interval config loadPct cycle kind]
          exact same
        · rw [loopStep_daemon loop]
          exact same
    | bus | signal | pstoreChange =>
        rw [(step_foreign config loadPct taken rfl).1]
        exact same

end Steps

section Simulation

variable (config : Config) (loadPct : CpuLoad → Double)

def Fills (given current : CycleInput) : Prop :=
  current = { given with
    raucUpdatePending := current.raucUpdatePending
    crashAckPending := current.crashAckPending
    crash := { given.crash with result := current.crash.result } }

theorem Fills.refl (given : CycleInput) : Fills given given := rfl

/-- A cycle in progress has computed the phases before its program counter. -/
def InCycle (start : Daemon) (given : CycleInput) (daemon : Daemon) : MainPc → Prop
  | .exchangeRauc input calls => Fills given input ∧
      (⟨daemon, calls⟩ : Collection) = Collection.collectEarly ⟨start, {}⟩ input
  | .collectUpdate input calls => Fills given input ∧
      (⟨daemon, calls⟩ : Collection) =
        ((Collection.collectEarly ⟨start, {}⟩ input).forceUpdate input)
  | .collectJournal input calls => Fills given input ∧
      (⟨daemon, calls⟩ : Collection) =
        (((Collection.collectEarly ⟨start, {}⟩ input).forceUpdate input).collectUpdate input)
  | .exchangeAck input calls => Fills given input ∧
      (⟨daemon, calls⟩ : Collection) =
        (((Collection.collectEarly ⟨start, {}⟩ input).forceUpdate input).collectUpdate
          input).collectJournal input
  | .collectCrash input calls | .readAck input calls _ => Fills given input ∧
      (⟨daemon, calls⟩ : Collection) =
        ((((Collection.collectEarly ⟨start, {}⟩ input).forceUpdate input).collectUpdate
          input).collectJournal input).forceCrash input
  | .publish input calls => Fills given input ∧
      (⟨daemon, calls⟩ : Collection) = start.collect input
  | .notify input calls snapshot prevSev => Fills given input ∧
      calls = (start.collect input).calls ∧
      prevSev = start.lastSeverity ∧
      snapshot = ((start.collect input).daemon.markStale input.now).snapshot config loadPct
        input.generatedAt ∧
      daemon = ((start.collect input).daemon.markStale input.now).publish snapshot
  | .published report => Fills given report.input ∧
      (daemon, report) = collectionCycle config loadPct start report.input
  | _ => True

theorem cycleStep_inCycle {start : Daemon} {given : CycleInput} {state next : System}
    {action : MainAction} (inside : InCycle config loadPct start given state.daemon state.main)
    (taken : CycleStep config loadPct state action next)
    (continues : ∀ input, action ≠ .startCycle input) :
    InCycle config loadPct start given next.daemon next.main := by
  cases taken with
  | startCycle => exact absurd rfl (continues _)
  | exchangeRauc pc =>
      rw [pc] at inside
      obtain ⟨fills, same⟩ := inside
      refine ⟨by unfold Fills at fills ⊢; rw [fills], ?_⟩
      exact congrArg (fun collection : Collection => collection.forceUpdate _) same
  | collectUpdate pc =>
      rw [pc] at inside
      refine ⟨inside.1, ?_⟩
      exact congrArg (fun collection : Collection => collection.collectUpdate _) inside.2
  | collectJournal pc =>
      rw [pc] at inside
      refine ⟨inside.1, ?_⟩
      exact congrArg (fun collection : Collection => collection.collectJournal _) inside.2
  | exchangeAck pc =>
      rw [pc] at inside
      obtain ⟨fills, same⟩ := inside
      refine ⟨by unfold Fills at fills ⊢; rw [fills], ?_⟩
      exact congrArg (fun collection : Collection => collection.forceCrash _) same
  | scanCrash pc due =>
      rw [pc] at inside
      exact inside
  | skipCrash pc idle =>
      rw [pc] at inside
      refine ⟨inside.1, ?_⟩
      exact congrArg (fun collection : Collection => collection.collectCrash _) inside.2
  | readAck pc =>
      rw [pc] at inside
      obtain ⟨fills, same⟩ := inside
      refine ⟨by unfold Fills at fills ⊢; rw [fills], ?_⟩
      exact congrArg (fun collection : Collection => collection.collectCrash _) same
  | @publish input calls pc =>
      rw [pc] at inside
      obtain ⟨fills, same⟩ := inside
      have daemonEq : state.daemon = (start.collect input).daemon :=
        congrArg Collection.daemon same
      refine ⟨fills, congrArg Collection.calls same, ?_, ?_, ?_⟩
      · rw [daemonEq]
        rfl
      · rw [daemonEq]
      · simp only [System.publish]
        rw [daemonEq]
  | notify pc =>
      rw [pc] at inside
      obtain ⟨fills, rfl, rfl, rfl, same⟩ := inside
      refine ⟨fills, ?_⟩
      simp only [System.notify]
      rw [same]
      rfl

theorem loopStep_inCycle {start : Daemon} {given : CycleInput} {state next : System}
    {action : MainAction} (taken : LoopStep state action next) :
    InCycle config loadPct start given next.daemon next.main := by
  cases taken with
  | drain pc ready =>
      rw [pc]
      trivial
  | _ => trivial

def Action.startsCycle : Action → Bool
  | .main (.startCycle _) => true
  | _ => false

theorem step_inCycle {start : Daemon} {given : CycleInput} {state next : System}
    {action : Action} (continues : action.startsCycle = false)
    (inside : InCycle config loadPct start given state.daemon state.main)
    (taken : step config loadPct state action = some next) :
    InCycle config loadPct start given next.daemon next.main := by
  by_cases foreign : action.isMain = false
  · obtain ⟨daemonEq, mainEq, _⟩ := step_foreign config loadPct taken foreign
    rw [daemonEq, mainEq]
    exact inside
  · cases action with
    | main action =>
        rcases mainStep_sound config loadPct taken with cycle | loop
        · apply cycleStep_inCycle config loadPct inside cycle
          rintro input rfl
          cases continues
        · exact loopStep_inCycle config loadPct loop
    | bus | signal | pstoreChange => exact absurd rfl foreign

/-- From the start of a cycle to its report, whatever the other threads do in
between, the main thread performs one sequential collection cycle. -/
theorem cycle_report {state final : System} {input : CycleInput} {rest : List Action}
    {report : CycleReport}
    (run : Machine.follow (step config loadPct) state (.main (.startCycle input) :: rest) =
      some final)
    (same : ∀ action ∈ rest, action.startsCycle = false)
    (done : final.main = .published report) :
    Fills input report.input ∧
      (final.daemon, report) = collectionCycle config loadPct state.daemon report.input := by
  obtain ⟨started, taken, later⟩ := Machine.follow_cons_some.mp run
  have begun : InCycle config loadPct state.daemon input started.daemon started.main := by
    rcases mainStep_sound config loadPct taken with cycle | loop
    · cases cycle with
      | startCycle pc => exact ⟨Fills.refl input, rfl⟩
    · cases loop
  have finished := Machine.follow_preserves
    (fun current => InCycle config loadPct state.daemon input current.daemon current.main)
    (fun action => action.startsCycle = false)
    (fun _ _ _ continues inside taken => step_inCycle config loadPct continues inside taken)
    later same begun
  rw [done] at finished
  exact finished

def MainPc.inCycle : MainPc → Bool
  | .exchangeRauc _ _ | .collectUpdate _ _ | .collectJournal _ _ | .exchangeAck _ _ => true
  | .collectCrash _ _ | .readAck _ _ _ | .publish _ _ | .notify _ _ _ _ => true
  | _ => false

variable (healthManager : Option HealthManager)

structure Completed (inputs : List CycleInput) (state : System) : Prop where
  during : state.main.inCycle = true → ∃ given, InCycle config loadPct
    (runCycles config loadPct healthManager inputs).1 given state.daemon state.main
  between : state.main.inCycle = false →
    state.daemon = (runCycles config loadPct healthManager inputs).1
  published : ∀ report, state.main = .published report →
    (runCycles config loadPct healthManager inputs).2.getLast? = some report

theorem cycleStep_inside {state next : System} {action : MainAction}
    (taken : CycleStep config loadPct state action next)
    (continues : ∀ input, action ≠ .startCycle input) :
    state.main.inCycle = true ∧
      (next.main.inCycle = true ∨ ∃ report, next.main = .published report) := by
  cases taken with
  | startCycle => exact absurd rfl (continues _)
  | notify pc => exact ⟨by rw [pc]; rfl, Or.inr ⟨_, rfl⟩⟩
  | exchangeRauc pc | collectUpdate pc | collectJournal pc | exchangeAck pc | skipCrash pc
  | scanCrash pc | readAck pc | publish pc => exact ⟨by rw [pc]; rfl, Or.inl rfl⟩

theorem cycleStep_completed {inputs : List CycleInput} {state next : System}
    {action : MainAction} (completed : Completed config loadPct healthManager inputs state)
    (taken : CycleStep config loadPct state action next) :
    ∃ more, Completed config loadPct healthManager (inputs ++ more) next := by
  by_cases starts : ∃ input, action = .startCycle input
  · obtain ⟨input, rfl⟩ := starts
    cases taken with
    | startCycle pc =>
        have idle : state.main.inCycle = false := by
          rcases pc with pc | pc <;> rw [pc] <;> rfl
        refine ⟨[], ?_, ?_, ?_⟩
        · intro _
          refine ⟨input, Fills.refl input, ?_⟩
          rw [List.append_nil, ← completed.between idle]
          rfl
        · intro outside
          cases outside
        · intro report published
          cases published
  · have continues : ∀ input, action ≠ .startCycle input := not_exists.mp starts
    obtain ⟨inside, reached⟩ := cycleStep_inside config loadPct taken continues
    obtain ⟨given, before⟩ := completed.during inside
    have after := cycleStep_inCycle config loadPct before taken continues
    rcases reached with still | ⟨report, isReport⟩
    · refine ⟨[], ?_, ?_, ?_⟩
      · intro _
        rw [List.append_nil]
        exact ⟨given, after⟩
      · intro outside
        rw [still] at outside
        cases outside
      · intro report isReport
        rw [isReport] at still
        cases still
    · rw [isReport] at after
      have equal := after.2
      refine ⟨[report.input], ?_, ?_, ?_⟩
      · intro still
        rw [isReport] at still
        cases still
      · intro _
        rw [runCycles_snoc, ← equal]
      · intro other isOther
        rw [isReport, MainPc.published.injEq] at isOther
        rw [runCycles_snoc, ← equal, isOther]
        exact List.getLast?_concat

theorem loopStep_completed {inputs : List CycleInput} {state next : System}
    {action : MainAction} (completed : Completed config loadPct healthManager inputs state)
    (taken : LoopStep state action next) :
    Completed config loadPct healthManager inputs next := by
  have facts : state.main.inCycle = false ∧ next.daemon = state.daemon ∧
      next.main.inCycle = false ∧ ∀ report, next.main ≠ .published report := by
    cases taken with
    | drain pc => refine ⟨by rw [pc]; rfl, rfl, by rw [pc]; rfl, by rw [pc]; simp⟩
    | _ pc => exact ⟨by rw [pc]; rfl, rfl, rfl, by simp⟩
  obtain ⟨before, daemonEq, after, unpublished⟩ := facts
  refine ⟨?_, ?_, ?_⟩
  · intro inside
    rw [after] at inside
    cases inside
  · intro _
    rw [daemonEq]
    exact completed.between before
  · intro report published
    exact absurd published (unpublished report)

/-- Every run of the interleaved daemon performs a sequence of sequential cycles:
what it publishes is what `runCycles` reports. -/
theorem system_refines_cycles (crashState : StateFile) (pstore : Pstore) {actions : List Action}
    {state : System}
    (run : Machine.follow (step config loadPct)
      (System.start config healthManager crashState pstore) actions = some state) :
    ∃ inputs, Completed config loadPct healthManager inputs state := by
  apply Machine.follow_induction
    (fun _ current => ∃ inputs, Completed config loadPct healthManager inputs current) _ _ run
  · refine ⟨[], ?_, fun _ => rfl, ?_⟩
    · intro inside
      cases inside
    · intro report published
      cases published
  · rintro _ state action next _ ⟨inputs, completed⟩ taken
    cases action with
    | main action =>
        rcases mainStep_sound config loadPct taken with cycle | loop
        · obtain ⟨more, extended⟩ :=
            cycleStep_completed config loadPct healthManager completed cycle
          exact ⟨inputs ++ more, extended⟩
        · exact ⟨inputs, loopStep_completed config loadPct healthManager completed loop⟩
    | bus | signal | pstoreChange =>
        obtain ⟨daemonEq, mainEq, _⟩ := step_foreign config loadPct taken rfl
        refine ⟨inputs, ?_, ?_, ?_⟩ <;> rw [mainEq]
        · rw [daemonEq]
          exact completed.during
        · rw [daemonEq]
          exact completed.between
        · exact completed.published

end Simulation

def cycleSteps (scansCrash : Bool) : List Action :=
  [.main .exchangeRauc, .main .collectUpdate, .main .collectJournal, .main .exchangeAck,
    .main (.collectCrash { now := 0 })] ++
  (if scansCrash then [.main .readAck] else []) ++ [.main .publish, .main .notify]

def goToSleep : List Action := [.main .enterLoop, .main .checkShutdown, .main .checkSignal]

def wakeUp : List Action :=
  [.main (.pollReturn .readable), .main .drain, .main .drain, .main .clearTrigger,
    .main .recheckShutdown, .main .recheckSignal]

def firstCycle : List Action :=
  .main (.startCycle (healthyInput 0)) :: cycleSteps true ++ goToSleep

def panicPstore : Pstore :=
  ⟨some [{ name := "dmesg-0", fileSize := some 3, lastWriteTime := some 7 }]⟩

def panicFingerprint : String := "9dd2cbfa3e2ed24b"

end EdgeHealthd
