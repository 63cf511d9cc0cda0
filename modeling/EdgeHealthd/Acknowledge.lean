import EdgeHealthd.Alarms
import EdgeHealthd.Wakeup

/-!
Crash acknowledgements under every interleaving. First, where an acknowledged
snapshot can come from: each fingerprint in `crash_state.json` was there at the
start or passed the check of a call. Second, what a call that returned true
achieves for the cycles after it.
-/

namespace EdgeHealthd

section Origin

variable (config : Config) (loadPct : CpuLoad → Double) (start : System)

def PublishedFingerprint (fingerprint : String) (history : List Action) : Prop :=
  ∃ earlier later published, history = earlier ++ .main .publish :: later ∧
    Machine.follow (step config loadPct) start (earlier ++ [.main .publish]) = some published ∧
    published.daemon.currentPanicFingerprint = some fingerprint

/-- An `AcknowledgeCrash` call in this history passed its check, against a
fingerprint that an earlier cycle had published. -/
def MatchedCheck (fingerprint : String) (history : List Action) : Prop :=
  ∃ before after state, history = before ++ .bus (.acknowledgeCrash fingerprint) :: after ∧
    Machine.follow (step config loadPct) start before = some state ∧
    state.daemon.currentPanicFingerprint = some fingerprint ∧
    PublishedFingerprint config loadPct start fingerprint before

def KnownFingerprint (fingerprint : String) (history : List Action) : Prop :=
  acknowledgedFingerprint start.crashState = some fingerprint ∨
    MatchedCheck config loadPct start fingerprint history

theorem PublishedFingerprint.append {fingerprint : String} {history : List Action}
    (published : PublishedFingerprint config loadPct start fingerprint history)
    (more : List Action) :
    PublishedFingerprint config loadPct start fingerprint (history ++ more) := by
  obtain ⟨earlier, later, state, rfl, reached, current⟩ := published
  exact ⟨earlier, later ++ more, state, by simp, reached, current⟩

theorem MatchedCheck.append {fingerprint : String} {history : List Action}
    (matched : MatchedCheck config loadPct start fingerprint history) (more : List Action) :
    MatchedCheck config loadPct start fingerprint (history ++ more) := by
  obtain ⟨before, after, state, rfl, reached, current, published⟩ := matched
  exact ⟨before, after ++ more, state, by simp, reached, current, published⟩

theorem KnownFingerprint.append {fingerprint : String} {history : List Action}
    (known : KnownFingerprint config loadPct start fingerprint history) (more : List Action) :
    KnownFingerprint config loadPct start fingerprint (history ++ more) :=
  known.imp_right fun matched => matched.append config loadPct start more

def CrashStatus.Acknowledges (crash : CrashStatus) (fingerprint : String) : Prop :=
  crash.fingerprint = some fingerprint ∧ crash.acknowledged = true

structure AckOrigin (history : List Action) (state : System) : Prop where
  published : ∀ fingerprint, state.daemon.currentPanicFingerprint = some fingerprint →
    PublishedFingerprint config loadPct start fingerprint history
  checked : ∀ fingerprint, state.bus = .ackReplace fingerprint →
    MatchedCheck config loadPct start fingerprint history
  file : ∀ fingerprint, acknowledgedFingerprint state.crashState = some fingerprint →
    KnownFingerprint config loadPct start fingerprint history
  cache : state.daemon.crash.cache.acknowledged = true →
    ∃ fingerprint, state.daemon.crash.cache.fingerprint = some fingerprint ∧
      KnownFingerprint config loadPct start fingerprint history

def CrashStatus.shown (crash : CrashStatus) : Option String × Bool :=
  (crash.fingerprint, crash.acknowledged)

theorem acknowledges_iff (crash : CrashStatus) (fingerprint : String) :
    crash.Acknowledges fingerprint ↔ crash.shown = (some fingerprint, true) := by
  simp [CrashStatus.Acknowledges, CrashStatus.shown]

theorem maybeCollect_shown (slot : Slot CrashStatus) (now : SteadyTime)
    (reading : Reading CrashStatus) {status : CrashStatus} (result : reading.result = .ok status)
    (due : slot.schedule.isDue now = true) :
    (slot.maybeCollect now reading).cache.shown = status.shown := by
  simp only [Slot.maybeCollect, Slot.call, due, if_true, result]
  rfl

theorem maybeCollect_idle {Payload : Type} [CachedSection Payload] (slot : Slot Payload)
    (now : SteadyTime) (reading : Reading Payload) (idle : slot.schedule.isDue now = false) :
    slot.maybeCollect now reading = slot := by
  simp [Slot.maybeCollect, Slot.call, idle]

theorem markStale_shown (slot : Slot CrashStatus) (now : SteadyTime) :
    (slot.markStale now).cache.shown = slot.cache.shown := by
  obtain ⟨stale, same⟩ : ∃ stale, (slot.markStale now).cache =
      { slot.cache with freshness.stale := stale } := slot.markStale_same now
  rw [same]
  rfl

theorem force_shown (slot : Slot CrashStatus) (forced : Bool) (now : SteadyTime) :
    (slot.force forced now).cache.shown = slot.cache.shown := by
  rw [Slot.force_cache]

theorem cycleStep_shown {state next : System} {action : MainAction}
    (taken : CycleStep config loadPct state action next) :
    next.daemon.crash.cache.shown = state.daemon.crash.cache.shown ∨
      ∃ input calls scan, state.main = .readAck input calls scan ∧
        next.daemon.crash.cache.shown = (scan.compareAcknowledged state.crashState).shown := by
  cases taken with
  | startCycle | exchangeRauc | collectUpdate | collectJournal | scanCrash => exact Or.inl rfl
  | exchangeAck pc => exact Or.inl (force_shown _ _ _)
  | skipCrash pc idle =>
      left
      exact congrArg (fun slot : Slot CrashStatus => slot.cache.shown)
        (maybeCollect_idle _ _ _ idle)
  | @readAck input calls scan pc =>
      by_cases due : state.daemon.crash.schedule.isDue input.now = true
      · exact Or.inr ⟨input, calls, scan, pc, maybeCollect_shown _ _ _ rfl due⟩
      · left
        exact congrArg (fun slot : Slot CrashStatus => slot.cache.shown)
          (maybeCollect_idle _ _ _ (Bool.eq_false_iff.mpr due))
  | publish pc => exact Or.inl (markStale_shown _ _)
  | notify pc =>
      left
      simp only [System.notify]
      rw [show (state.daemon.notifyManager _).1.crash = state.daemon.crash from
        notifyManager_slot _ _ .crash]

theorem cycleStep_fingerprint {state next : System} {action : MainAction}
    (taken : CycleStep config loadPct state action next) (other : action ≠ .publish) :
    next.daemon.currentPanicFingerprint = state.daemon.currentPanicFingerprint := by
  cases taken with
  | publish pc => exact absurd rfl other
  | notify pc =>
      simp only [System.notify, Daemon.notifyManager]
      split <;> rfl
  | _ => rfl

variable {start}

theorem AckOrigin.kept {history : List Action} {state next : System} {action : Action}
    (origin : AckOrigin config loadPct start history state)
    (daemonEq : next.daemon = state.daemon) (busEq : next.bus = state.bus)
    (fileEq : next.crashState = state.crashState) :
    AckOrigin config loadPct start (history ++ [action]) next := by
  refine ⟨?_, ?_, ?_, ?_⟩
  · rw [daemonEq]
    intro fingerprint current
    exact (origin.published fingerprint current).append config loadPct start _
  · rw [busEq]
    intro fingerprint pc
    exact (origin.checked fingerprint pc).append config loadPct start _
  · rw [fileEq]
    intro fingerprint stored
    exact (origin.file fingerprint stored).append config loadPct start _
  · rw [daemonEq]
    intro acknowledged
    obtain ⟨fingerprint, found, known⟩ := origin.cache acknowledged
    exact ⟨fingerprint, found, known.append config loadPct start _⟩

theorem AckOrigin.mainStep {history : List Action} {state next : System} {action : MainAction}
    (origin : AckOrigin config loadPct start history state)
    (reached : Machine.follow (step config loadPct) start history = some state)
    (taken : mainStep config loadPct state action = some next) :
    AckOrigin config loadPct start (history ++ [.main action]) next := by
  obtain ⟨busEq, fileEq, _⟩ := mainStep_kept config loadPct taken
  refine ⟨?_, ?_, ?_, ?_⟩
  · intro fingerprint current
    by_cases publishes : action = .publish
    · subst action
      exact ⟨history, [], next, rfl, Machine.follow_snoc_some.mpr ⟨state, reached, taken⟩, current⟩
    · have kept : next.daemon.currentPanicFingerprint = state.daemon.currentPanicFingerprint := by
        rcases mainStep_sound config loadPct taken with cycle | loop
        · exact cycleStep_fingerprint config loadPct cycle publishes
        · rw [loopStep_daemon loop]
      rw [kept] at current
      exact (origin.published fingerprint current).append config loadPct start _
  · intro fingerprint pc
    rw [busEq] at pc
    exact (origin.checked fingerprint pc).append config loadPct start _
  · intro fingerprint stored
    rw [fileEq] at stored
    exact (origin.file fingerprint stored).append config loadPct start _
  · intro acknowledged
    have old : next.daemon.crash.cache.shown = state.daemon.crash.cache.shown →
        ∃ fingerprint, next.daemon.crash.cache.fingerprint = some fingerprint ∧
          KnownFingerprint config loadPct start fingerprint (history ++ [.main action]) := by
      intro same
      obtain ⟨sameFingerprint, sameFlag⟩ := Prod.mk.inj same
      rw [sameFlag] at acknowledged
      obtain ⟨fingerprint, found, known⟩ := origin.cache acknowledged
      exact ⟨fingerprint, sameFingerprint.trans found, known.append config loadPct start _⟩
    rcases mainStep_sound config loadPct taken with cycle | loop
    · rcases cycleStep_shown config loadPct cycle with same | ⟨input, calls, scan, pc, fresh⟩
      · exact old same
      · obtain ⟨sameFingerprint, sameFlag⟩ := Prod.mk.inj fresh
        rw [sameFlag, compareAcknowledged_iff] at acknowledged
        obtain ⟨fingerprint, stored, scanned⟩ := acknowledged
        exact ⟨fingerprint, sameFingerprint.trans scanned,
          (origin.file fingerprint stored).append config loadPct start _⟩
    · exact old (by rw [loopStep_daemon loop])

theorem AckOrigin.busStep {history : List Action} {state next : System} {action : BusAction}
    (origin : AckOrigin config loadPct start history state)
    (reached : Machine.follow (step config loadPct) start history = some state)
    (taken : BusStep config state action next) :
    AckOrigin config loadPct start (history ++ [.bus action]) next := by
  have daemonEq := (busStep_kept config taken).1
  have published : ∀ fingerprint, next.daemon.currentPanicFingerprint = some fingerprint →
      PublishedFingerprint config loadPct start fingerprint (history ++ [.bus action]) := by
    intro fingerprint current
    rw [daemonEq] at current
    exact (origin.published fingerprint current).append config loadPct start _
  have cache : next.daemon.crash.cache.acknowledged = true →
      ∃ fingerprint, next.daemon.crash.cache.fingerprint = some fingerprint ∧
        KnownFingerprint config loadPct start fingerprint (history ++ [.bus action]) := by
    intro acknowledged
    rw [daemonEq] at acknowledged ⊢
    obtain ⟨fingerprint, found, known⟩ := origin.cache acknowledged
    exact ⟨fingerprint, found, known.append config loadPct start _⟩
  have file : ∀ fingerprint, acknowledgedFingerprint state.crashState = some fingerprint →
      KnownFingerprint config loadPct start fingerprint (history ++ [.bus action]) :=
    fun fingerprint stored => (origin.file fingerprint stored).append config loadPct start _
  have replaced : ∀ fingerprint, state.bus = .ackReplace fingerprint → ∀ other,
      acknowledgedFingerprint (acknowledgementFile fingerprint) = some other →
      KnownFingerprint config loadPct start other (history ++ [.bus action]) := by
    intro fingerprint pc other stored
    rw [acknowledgedFingerprint_acknowledgementFile, Option.some.injEq] at stored
    subst other
    exact Or.inr ((origin.checked fingerprint pc).append config loadPct start _)
  cases taken with
  | matched pc current =>
      refine ⟨published, ?_, file, cache⟩
      intro other entered
      obtain rfl := BusPc.ackReplace.inj entered
      exact ⟨history, [], state, rfl, reached, current, origin.published _ current⟩
  | replaced pc => exact ⟨published, by simp, replaced _ pc, cache⟩
  | failedAfterRename pc => exact ⟨published, by simp, replaced _ pc, cache⟩
  | raucCompleted | raucTrigger | raucWake | triggerWake | ackStore | ackTrigger | ackWake
  | failed | triggered => exact ⟨published, by simp, file, cache⟩
  | mismatched pc | limited pc => exact ⟨published, by simp [pc], file, cache⟩

theorem run_ackOrigin (healthManager : Option HealthManager) (crashState : StateFile)
    (pstore : Pstore) {history : List Action} {state : System}
    (run : Machine.follow (step config loadPct)
      (System.start config healthManager crashState pstore) history = some state) :
    AckOrigin config loadPct (System.start config healthManager crashState pstore) history
      state := by
  apply Machine.follow_induction
    (AckOrigin config loadPct (System.start config healthManager crashState pstore)) _ _ run
  · refine ⟨?_, ?_, ?_, ?_⟩
    · intro fingerprint current
      cases current
    · intro fingerprint pc
      cases pc
    · intro fingerprint stored
      exact Or.inl stored
    · intro acknowledged
      cases acknowledged
  · intro past state action next reached origin taken
    cases action with
    | main action => exact origin.mainStep config loadPct reached taken
    | bus action => exact origin.busStep config loadPct reached (step_bus config loadPct taken)
    | signal action =>
        obtain ⟨daemonEq, _, _, busEq, fileEq, _⟩ := signalStep_kept taken
        exact origin.kept config loadPct daemonEq busEq fileEq
    | pstoreChange pstore =>
        cases taken
        exact origin.kept config loadPct rfl rfl rfl

theorem publish_shown {state next : System} {input : CycleInput} {calls : Calls}
    {snapshot : SnapshotState} {prevSev : Severity}
    (taken : step config loadPct state (.main .publish) = some next)
    (shows : next.main = .notify input calls snapshot prevSev) :
    snapshot.crash.shown = state.daemon.crash.cache.shown := by
  rcases mainStep_sound config loadPct taken with cycle | loop
  · cases cycle with
    | publish pc =>
        simp only [System.publish, MainPc.notify.injEq] at shows
        obtain ⟨_, _, rfl, _⟩ := shows
        exact markStale_shown _ _
  · cases loop

end Origin

section Effect

variable (config : Config) (loadPct : CpuLoad → Double)

/-- The next comparison of the crash section, or the one it already shows,
acknowledges this fingerprint. -/
def AckReady (fingerprint : String) (state : System) : Prop :=
  match state.main with
  | .collectCrash input _ => state.daemon.crash.cache.Acknowledges fingerprint ∨
      state.daemon.crash.schedule.isDue input.now = true
  | .readAck input _ scan => scan.fingerprint = some fingerprint ∧
      state.daemon.crash.schedule.isDue input.now = true
  | .publish _ _ => state.daemon.crash.cache.Acknowledges fingerprint
  | .notify _ _ snapshot _ => state.daemon.crash.cache.Acknowledges fingerprint ∧
      snapshot.crash.Acknowledges fingerprint
  | .published report => state.daemon.crash.cache.Acknowledges fingerprint ∧
      report.snapshot.crash.Acknowledges fingerprint
  | _ => state.crashAckPending = true ∨ state.daemon.crash.cache.Acknowledges fingerprint

structure AckHeld (start : System) (contents : Pstore → Prop) (fingerprint : String)
    (state : System) : Prop where
  reached : ∃ history, Machine.follow (step config loadPct) start history = some state
  file : acknowledgedFingerprint state.crashState = some fingerprint
  content : contents state.pstore

def KeepsAck (contents : Pstore → Prop) (fingerprint : String) : Action → Prop
  | .main (.collectCrash clocks) => ∀ content, contents content →
      (CrashProbe.scan clocks content).fingerprint = some fingerprint
  | .bus (.ackReplace other outcome) => outcome = .failed ∨ other = fingerprint
  | .pstoreChange content => contents content
  | _ => True

theorem busStep_crashState {state next : System} {action : BusAction}
    (taken : BusStep config state action next) :
    next.crashState = state.crashState ∨ ∃ fingerprint outcome,
      action = .ackReplace fingerprint outcome ∧ outcome ≠ .failed ∧
        next.crashState = acknowledgementFile fingerprint := by
  cases taken with
  | replaced => exact Or.inr ⟨_, _, rfl, by decide, rfl⟩
  | failedAfterRename => exact Or.inr ⟨_, _, rfl, by decide, rfl⟩
  | _ => exact Or.inl rfl

theorem AckHeld.step {start : System} {contents : Pstore → Prop} {fingerprint : String}
    {state next : System} {action : Action} (keeps : KeepsAck contents fingerprint action)
    (held : AckHeld config loadPct start contents fingerprint state)
    (taken : step config loadPct state action = some next) :
    AckHeld config loadPct start contents fingerprint next := by
  obtain ⟨history, reached⟩ := held.reached
  have further : ∃ history, Machine.follow (EdgeHealthd.step config loadPct) start history =
      some next := ⟨history ++ [action], Machine.follow_snoc_some.mpr ⟨state, reached, taken⟩⟩
  cases action with
  | main action =>
      obtain ⟨_, fileEq, contentEq, _⟩ := mainStep_kept config loadPct taken
      exact ⟨further, by rw [fileEq]; exact held.file, by rw [contentEq]; exact held.content⟩
  | bus action =>
      have bus := step_bus config loadPct taken
      have contentEq := (busStep_kept config bus).2.2.1
      refine ⟨further, ?_, by rw [contentEq]; exact held.content⟩
      rcases busStep_crashState config bus with same | ⟨other, outcome, rfl, written, fresh⟩
      · rw [same]
        exact held.file
      · rw [fresh, acknowledgedFingerprint_acknowledgementFile]
        exact congrArg some (Or.resolve_left keeps written)
  | signal action =>
      obtain ⟨_, _, contentEq, _, fileEq, _⟩ := signalStep_kept taken
      exact ⟨further, by rw [fileEq]; exact held.file, by rw [contentEq]; exact held.content⟩
  | pstoreChange pstore =>
      cases taken
      exact ⟨further, held.file, keeps⟩

theorem AckReady.kept {fingerprint : String} {state next : System}
    (ready : AckReady fingerprint state) (daemonEq : next.daemon = state.daemon)
    (mainEq : next.main = state.main)
    (raised : state.crashAckPending = true → next.crashAckPending = true) :
    AckReady fingerprint next := by
  unfold AckReady at ready ⊢
  rw [daemonEq, mainEq]
  cases pc : state.main with
  | collectCrash | readAck | publish | notify | published =>
      rw [pc] at ready
      exact ready
  | _ =>
      rw [pc] at ready
      exact ready.imp_left raised

theorem Forced.ackReady {fingerprint : String} {state : System}
    (forced : Forced .crashAck state) : AckReady fingerprint state := by
  obtain ⟨input, calls, pc, due⟩ := forced
  unfold AckReady
  rw [pc]
  exact Or.inr due

theorem acknowledges_congr {before after : CrashStatus} {fingerprint : String}
    (same : after.shown = before.shown) (acknowledges : before.Acknowledges fingerprint) :
    after.Acknowledges fingerprint := by
  rw [acknowledges_iff] at acknowledges ⊢
  exact same.trans acknowledges

section Runs

variable {healthManager : Option HealthManager} {crashState : StateFile} {pstore : Pstore}
  {contents : Pstore → Prop} {fingerprint : String}

theorem cycleStep_ackReady (valid : config.validate = none) {state next : System}
    {action : MainAction}
    (held : AckHeld config loadPct (System.start config healthManager crashState pstore) contents
      fingerprint state)
    (ready : AckReady fingerprint state) (keeps : KeepsAck contents fingerprint (.main action))
    (taken : step config loadPct state (.main action) = some next)
    (cycle : CycleStep config loadPct state action next) : AckReady fingerprint next := by
  unfold AckReady at ready
  cases cycle with
  | startCycle pc =>
      rcases pc with pc | pc <;>
      · rw [pc] at ready
        exact ready
  | exchangeRauc pc | collectUpdate pc | collectJournal pc =>
      rw [pc] at ready
      exact ready
  | exchangeAck pc =>
      rw [pc] at ready
      rcases ready with pending | shows
      · obtain ⟨history, reached⟩ := held.reached
        exact (exchange_forced config loadPct valid healthManager crashState pstore reached
          .crashAck pending taken).ackReady
      · exact Or.inl (acknowledges_congr (force_shown _ _ _) shows)
  | scanCrash pc due => exact ⟨keeps _ held.content, due⟩
  | skipCrash pc idle =>
      rw [pc] at ready
      rcases ready with shows | due
      · refine acknowledges_congr ?_ shows
        exact congrArg (fun slot : Slot CrashStatus => slot.cache.shown)
          (maybeCollect_idle _ _ _ idle)
      · rw [idle] at due
        cases due
  | @readAck input calls scan pc =>
      rw [pc] at ready
      obtain ⟨scanned, due⟩ := ready
      have compared : (scan.compareAcknowledged state.crashState).Acknowledges fingerprint :=
        ⟨scanned, (compareAcknowledged_iff _ _).mpr ⟨fingerprint, held.file, scanned⟩⟩
      exact acknowledges_congr (maybeCollect_shown _ _ _ rfl due) compared
  | @publish input calls pc =>
      rw [pc] at ready
      have kept := acknowledges_congr (markStale_shown state.daemon.crash input.now) ready
      exact ⟨kept, kept⟩
  | @notify input calls snapshot prevSev pc =>
      rw [pc] at ready
      refine ⟨?_, ready.2⟩
      have kept : (state.daemon.notifyManager prevSev).1.crash = state.daemon.crash :=
        notifyManager_slot state.daemon prevSev .crash
      simp only [System.notify]
      rw [kept]
      exact ready.1

theorem loopStep_ackReady {state next : System} {action : MainAction}
    (ready : AckReady fingerprint state) (taken : LoopStep state action next) :
    AckReady fingerprint next := by
  unfold AckReady at ready
  cases taken with
  | enterLoop pc =>
      rw [pc] at ready
      exact Or.inr ready.1
  | drain pc =>
      rw [pc] at ready
      unfold AckReady
      rw [pc]
      exact ready
  | _ pc =>
      rw [pc] at ready
      exact ready

theorem step_ackReady (valid : config.validate = none) {state next : System} {action : Action}
    (held : AckHeld config loadPct (System.start config healthManager crashState pstore) contents
      fingerprint state)
    (ready : AckReady fingerprint state) (keeps : KeepsAck contents fingerprint action)
    (taken : step config loadPct state action = some next) : AckReady fingerprint next := by
  cases action with
  | main action =>
      rcases mainStep_sound config loadPct taken with cycle | loop
      · exact cycleStep_ackReady config loadPct valid held ready keeps taken cycle
      · exact loopStep_ackReady ready loop
  | bus | signal | pstoreChange =>
      obtain ⟨daemonEq, mainEq, _⟩ := step_foreign config loadPct taken rfl
      have raised : state.crashAckPending = true → next.crashAckPending = true := by
        intro pending
        exact step_keeps_pending config loadPct .crashAck taken (by simp) pending
      exact ready.kept daemonEq mainEq raised

theorem step_covered (valid : config.validate = none) {state next : System} {action : Action}
    (held : AckHeld config loadPct (System.start config healthManager crashState pstore) contents
      fingerprint state)
    (covered : state.crashAckPending = true ∨ AckReady fingerprint state)
    (keeps : KeepsAck contents fingerprint action)
    (taken : step config loadPct state action = some next) :
    next.crashAckPending = true ∨ AckReady fingerprint next := by
  rcases covered with pending | ready
  · by_cases exchanged : action = .main .exchangeAck
    · subst action
      obtain ⟨history, reached⟩ := held.reached
      exact Or.inr (exchange_forced config loadPct valid healthManager crashState pstore reached
        .crashAck pending taken).ackReady
    · exact Or.inl (step_keeps_pending config loadPct .crashAck taken exchanged pending)
  · exact Or.inr (step_ackReady config loadPct valid held ready keeps taken)

theorem step_from_ackStore {state next : System} {action : Action}
    (replaced : state.bus = .ackStore fingerprint)
    (taken : step config loadPct state action = some next) :
    next.bus = .ackStore fingerprint ∨ next.crashAckPending = true := by
  cases action with
  | main action =>
      rw [(mainStep_kept config loadPct taken).1]
      exact Or.inl replaced
  | bus action =>
      right
      cases step_bus config loadPct taken with
      | ackStore pc => rfl
      | _ pc =>
          rw [replaced] at pc
          cases pc
  | signal action =>
      rw [(signalStep_kept taken).2.2.2.1]
      exact Or.inl replaced
  | pstoreChange pstore =>
      cases taken
      exact Or.inl replaced

theorem step_replaced (valid : config.validate = none) {state next : System} {action : Action}
    (held : AckHeld config loadPct (System.start config healthManager crashState pstore) contents
      fingerprint state)
    (covered : state.bus = .ackStore fingerprint ∨ state.crashAckPending = true ∨
      AckReady fingerprint state)
    (keeps : KeepsAck contents fingerprint action)
    (taken : step config loadPct state action = some next) :
    next.bus = .ackStore fingerprint ∨ next.crashAckPending = true ∨
      AckReady fingerprint next := by
  rcases covered with unstored | covered
  · rcases step_from_ackStore config loadPct unstored taken with still | pending
    · exact Or.inl still
    · exact Or.inr (Or.inl pending)
  · exact Or.inr (step_covered config loadPct valid held covered keeps taken)

theorem run_held {start : System} {property : System → Prop}
    (preserved : ∀ state action next,
      AckHeld config loadPct start contents fingerprint state → property state →
      KeepsAck contents fingerprint action → step config loadPct state action = some next →
      property next)
    {state final : System} {actions : List Action}
    (held : AckHeld config loadPct start contents fingerprint state) (holds : property state)
    (run : Machine.follow (step config loadPct) state actions = some final)
    (keeps : ∀ action ∈ actions, KeepsAck contents fingerprint action) :
    AckHeld config loadPct start contents fingerprint final ∧ property final := by
  refine Machine.follow_preserves
    (fun current => AckHeld config loadPct start contents fingerprint current ∧ property current)
    (KeepsAck contents fingerprint) ?_ run keeps ⟨held, holds⟩
  rintro current action next keep ⟨heldHere, here⟩ taken
  exact ⟨heldHere.step config loadPct keep taken,
    preserved current action next heldHere here keep taken⟩

end Runs

theorem ackWake_enabled {state next : System} {fingerprint : String}
    (taken : step config loadPct state (.bus (.ackWake fingerprint)) = some next) :
    state.bus = .ackWake fingerprint := by
  cases step_bus config loadPct taken with
  | ackWake pc => exact pc

theorem startCycle_enabled {state next : System} {input : CycleInput}
    (taken : step config loadPct state (.main (.startCycle input)) = some next) :
    state.main = .starting ∨ state.main = .startCycle := by
  rcases mainStep_sound config loadPct taken with cycle | loop
  · cases cycle with
    | startCycle pc => exact pc
  · cases loop

theorem ackReady_of_pending {state : System} {fingerprint : String}
    (idle : state.main = .starting ∨ state.main = .startCycle)
    (covered : state.crashAckPending = true ∨ AckReady fingerprint state) :
    AckReady fingerprint state := by
  rcases covered with pending | ready
  · unfold AckReady
    rcases idle with pc | pc <;> rw [pc] <;> exact Or.inl pending
  · exact ready

theorem acknowledged_evaluates_ok (crash : CrashStatus) (acknowledged : crash.acknowledged = true) :
    evaluateCrash crash = .ok := by
  simp [evaluateCrash, acknowledged]

theorem acknowledged_report (daemon : Daemon) (input : CycleInput) :
    let report := (collectionCycle config loadPct daemon input).2
    report.snapshot.crash.acknowledged = true →
      (report.snapshot.summary.domains.get .crash = .ok ∨
        report.snapshot.summary.domains.get .crash = .stale) ∧ report.alarms "crash" = [] := by
  intro report acknowledged
  constructor
  · have domain : report.snapshot.summary.domains.get .crash =
        raiseStale (report.snapshot.freshness .crash) (evaluateCrash report.snapshot.crash) :=
      collectionCycle_domain config loadPct daemon input .crash
    rw [domain, acknowledged_evaluates_ok _ acknowledged, raiseStale_eq]
    split
    · exact Or.inr (by decide)
    · exact Or.inl rfl
  · let published := ((daemon.collect input).daemon.markStale input.now).publish report.snapshot
    have inactive : report.snapshot.crash.activePanic = none := by
      simp [CrashStatus.activePanic, acknowledged]
    cases present : daemon.healthManager with
    | none =>
        have silent : (published.notifyManager daemon.lastSeverity).2 = [] := by
          unfold Daemon.notifyManager
          rw [show published.healthManager = none from present]
        change ((published.notifyManager daemon.lastSeverity).2.filter _) = []
        rw [silent]
        rfl
    | some manager =>
        have kept : published.healthManager = some manager := present
        have signals := (notifyManager_some kept daemon.lastSeverity).2.2.2
        change ((published.notifyManager daemon.lastSeverity).2.filter _) = []
        rw [signals, List.filter_append, updateSeverity_crash, crashAlarm_signals]
        rw [show published.currentState.crash.activePanic = none from inactive]
        rfl

theorem replaced_state {state next : System} {fingerprint : String}
    (taken : step config loadPct state (.bus (.ackReplace fingerprint .replaced)) = some next) :
    next.crashState = acknowledgementFile fingerprint ∧ next.bus = .ackStore fingerprint := by
  cases step_bus config loadPct taken with
  | replaced pc => exact ⟨rfl, rfl⟩

theorem acknowledged_snapshot_origin (healthManager : Option HealthManager)
    (crashState : StateFile) (pstore : Pstore) {past : List Action} {published : System}
    {input : CycleInput} {calls : Calls} {snapshot : SnapshotState} {prevSev : Severity}
    (run : Machine.follow (step config loadPct)
      (System.start config healthManager crashState pstore) (past ++ [.main .publish]) =
        some published)
    (shows : published.main = .notify input calls snapshot prevSev)
    (acknowledged : snapshot.crash.acknowledged = true) :
    ∃ fingerprint, snapshot.crash.fingerprint = some fingerprint ∧
      KnownFingerprint config loadPct (System.start config healthManager crashState pstore)
        fingerprint past := by
  obtain ⟨state, reached, taken⟩ := Machine.follow_snoc_some.mp run
  have origin := run_ackOrigin config loadPct healthManager crashState pstore reached
  obtain ⟨sameFingerprint, sameFlag⟩ := Prod.mk.inj (publish_shown config loadPct taken shows)
  rw [sameFlag] at acknowledged
  obtain ⟨fingerprint, found, known⟩ := origin.cache acknowledged
  exact ⟨fingerprint, sameFingerprint.trans found, known⟩

theorem acknowledged_after_return (valid : config.validate = none)
    {healthManager : Option HealthManager} {crashState : StateFile} {pstore : Pstore}
    {contents : Pstore → Prop} {fingerprint : String} {replaced woken ready final : System}
    {middle wait rest : List Action} {input : CycleInput} {report : CycleReport}
    (held : AckHeld config loadPct (System.start config healthManager crashState pstore) contents
      fingerprint replaced)
    (stored : replaced.bus = .ackStore fingerprint)
    (first : Machine.follow (step config loadPct) replaced middle = some woken)
    (second : Machine.follow (step config loadPct) woken (.bus (.ackWake fingerprint) :: wait) =
      some ready)
    (cycle : Machine.follow (step config loadPct) ready (.main (.startCycle input) :: rest) =
      some final)
    (done : final.main = .published report)
    (keeps : ∀ action ∈ middle ++ .bus (.ackWake fingerprint) ::
      (wait ++ .main (.startCycle input) :: rest), KeepsAck contents fingerprint action) :
    report.snapshot.crash.Acknowledges fingerprint := by
  rw [← List.cons_append] at keeps
  obtain ⟨heldWoken, atWake⟩ := run_held config loadPct
    (fun _ _ _ => step_replaced config loadPct valid) held (Or.inl stored) first
    (fun action member => keeps action (List.mem_append_left _ member))
  have settled : woken.crashAckPending = true ∨ AckReady fingerprint woken := by
    obtain ⟨_, wakes, _⟩ := Machine.follow_cons_some.mp second
    rcases atWake with unstored | covered
    · rw [ackWake_enabled config loadPct wakes] at unstored
      cases unstored
    · exact covered
  obtain ⟨heldReady, atStart⟩ := run_held config loadPct
    (fun _ _ _ => step_covered config loadPct valid) heldWoken settled second
    (fun action member =>
      keeps action (List.mem_append_right _ (List.mem_append_left _ member)))
  have begins : AckReady fingerprint ready := by
    obtain ⟨_, starts, _⟩ := Machine.follow_cons_some.mp cycle
    exact ackReady_of_pending (startCycle_enabled config loadPct starts) atStart
  obtain ⟨_, last⟩ := run_held config loadPct
    (fun _ _ _ => step_ackReady config loadPct valid) heldReady begins cycle
    (fun action member =>
      keeps action (List.mem_append_right _ (List.mem_append_right _ member)))
  unfold AckReady at last
  rw [done] at last
  exact last.2

/-- An acknowledged snapshot traces back to the initial file or to a checked call;
and after a call has returned true, cycles show the panic as acknowledged for as
long as its artifacts stay and no other acknowledgement is written. -/
theorem acknowledgement_authentic_and_effective (valid : config.validate = none)
    (healthManager : Option HealthManager) (crashState : StateFile) (pstore : Pstore) :
    let start := System.start config healthManager crashState pstore
    let follow := Machine.follow (step config loadPct)
    (∀ past published input calls snapshot prevSev,
      follow start (past ++ [.main .publish]) = some published →
      published.main = .notify input calls snapshot prevSev →
      snapshot.crash.acknowledged = true →
        ∃ fingerprint, snapshot.crash.fingerprint = some fingerprint ∧
          (acknowledgedFingerprint crashState = some fingerprint ∨
            MatchedCheck config loadPct start fingerprint past)) ∧
      (∀ fingerprint past replaced middle wait input rest final report,
        let since := middle ++ .bus (.ackWake fingerprint) ::
          (wait ++ .main (.startCycle input) :: rest)
        follow start (past ++ [.bus (.ackReplace fingerprint .replaced)]) = some replaced →
        follow replaced since = some final →
        (∀ action ∈ rest, action.startsCycle = false) → final.main = .published report →
        (∀ other outcome, .bus (.ackReplace other outcome) ∈ since →
          outcome = .failed ∨ other = fingerprint) →
        (∀ clocks content, .main (.collectCrash clocks) ∈ since →
          content = replaced.pstore ∨ .pstoreChange content ∈ since →
            (CrashProbe.scan clocks content).fingerprint = some fingerprint) →
          report.snapshot.crash.Acknowledges fingerprint ∧
            (report.snapshot.summary.domains.get .crash = .ok ∨
              report.snapshot.summary.domains.get .crash = .stale) ∧
            report.alarms "crash" = []) := by
  intro start follow
  constructor
  · intro past published input calls snapshot prevSev run shows acknowledged
    exact acknowledged_snapshot_origin config loadPct healthManager crashState pstore run shows
      acknowledged
  · intro fingerprint past replaced middle wait input rest final report since run later same done
      noOther still
    let contents := fun content => content = replaced.pstore ∨ .pstoreChange content ∈ since
    have keeps : ∀ action ∈ since, KeepsAck contents fingerprint action := by
      intro action member
      cases action with
      | main action =>
          cases action with
          | collectCrash clocks => exact fun content seen => still clocks content member seen
          | _ => trivial
      | bus action =>
          cases action with
          | ackReplace other outcome => exact noOther other outcome member
          | _ => trivial
      | signal action => trivial
      | pstoreChange content => exact Or.inr member
    obtain ⟨_, _, taken⟩ := Machine.follow_snoc_some.mp run
    obtain ⟨fileEq, stored⟩ := replaced_state config loadPct taken
    have held : AckHeld config loadPct start contents fingerprint replaced :=
      ⟨⟨_, run⟩, by rw [fileEq, acknowledgedFingerprint_acknowledgementFile], Or.inl rfl⟩
    obtain ⟨woken, first, afterMiddle⟩ := Machine.follow_append_some.mp later
    rw [← List.cons_append] at afterMiddle
    obtain ⟨ready, second, cycle⟩ := Machine.follow_append_some.mp afterMiddle
    have acknowledges := acknowledged_after_return config loadPct valid held stored first second
      cycle done keeps
    obtain ⟨_, equal⟩ := cycle_report config loadPct cycle same done
    have reportEq : report = (collectionCycle config loadPct ready.daemon report.input).2 :=
      congrArg Prod.snd equal
    have outcome := acknowledged_report config loadPct ready.daemon report.input
    rw [← reportEq] at outcome
    exact ⟨acknowledges, outcome acknowledges.2⟩

end Effect

theorem acknowledged_panic_is_silent :
    ∃ replaced final report,
      Machine.follow (step {} fun _ => .finite 0) (System.start {} (some {}) .missing panicPstore)
        ((firstCycle ++ [.bus (.acknowledgeCrash panicFingerprint)]) ++
          [.bus (.ackReplace panicFingerprint .replaced)]) = some replaced ∧
        Machine.follow (step {} fun _ => .finite 0) replaced
          ([.bus .ackStore, .bus .ackTrigger] ++ .bus (.ackWake panicFingerprint) ::
            (wakeUp ++ .main (.startCycle (healthyInput (seconds 10))) ::
              cycleSteps true)) = some final ∧
        final.main = .published report ∧
        report.snapshot.crash.Acknowledges panicFingerprint ∧ report.alarms "crash" = [] := by
  refine ⟨_, _, _, rfl, rfl, rfl, ?_⟩
  have effective := (acknowledgement_authentic_and_effective {} (fun _ => .finite 0) (by decide)
    (some {}) .missing panicPstore).2 panicFingerprint
    (firstCycle ++ [.bus (.acknowledgeCrash panicFingerprint)]) _ [.bus .ackStore, .bus .ackTrigger]
    wakeUp (healthyInput (seconds 10)) (cycleSteps true) _ _ rfl rfl (by decide) rfl
    (by simp [wakeUp, cycleSteps]) (by
      intro clocks content scanned occurs
      obtain rfl : clocks = { now := 0 } := by simpa [wakeUp, cycleSteps] using scanned
      have same : content = panicPstore := by
        rcases occurs with same | changed
        · exact same
        · simp [wakeUp, cycleSteps] at changed
      rw [same]
      decide)
  exact ⟨effective.1, effective.2.2⟩

end EdgeHealthd
