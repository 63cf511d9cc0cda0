import EdgeHealthd.EventLoop

/-!
No wakeup is lost. A request raises a flag and then the eventfd; the main thread
empties the eventfd before it looks at the flags. So whenever it sleeps on an
empty eventfd, every finished request has been looked at.
-/

namespace EdgeHealthd

inductive Request where
  | update
  | crashAck
  deriving DecidableEq

def System.pending (state : System) : Request → Bool
  | .update => state.raucUpdatePending
  | .crashAck => state.crashAckPending

def Request.store : Request → BusAction
  | .update => .raucCompleted
  | .crashAck => .ackStore

def Request.isWake : Request → BusAction → Bool
  | .update, .raucWake => true
  | .crashAck, .ackWake _ => true
  | _, _ => false

def Request.exchange : Request → MainAction
  | .update => .exchangeRauc
  | .crashAck => .exchangeAck

def BusPc.inside : Request → BusPc → Bool
  | .update, .raucTrigger | .update, .raucWake => true
  | .crashAck, .ackTrigger _ | .crashAck, .ackWake _ => true
  | _, _ => false

/-- From here the main thread exchanges the flag before it can sleep, or never
sleeps again. -/
def MainPc.exchangeAhead : Request → MainPc → Bool
  | _, .starting | _, .startCycle | _, .exchangeRauc _ _ => true
  | .crashAck, .collectUpdate _ _ | .crashAck, .collectJournal _ _ => true
  | .crashAck, .exchangeAck _ _ => true
  | _, .draining | _, .clearTrigger | _, .recheckShutdown | _, .recheckSignal => true
  | _, .requestShutdown | _, .wakeSelf | _, .stopped => true
  | _, _ => false

theorem wake_pos (eventfd : Nat) : 0 < wake eventfd := by
  unfold wake
  split <;> omega

theorem le_wake (eventfd : Nat) : eventfd ≤ wake eventfd := by
  unfold wake
  split <;> omega

section Steps

variable (config : Config) (loadPct : CpuLoad → Double)

def Alerted (kind : Request) (state : System) : Prop :=
  0 < state.eventfd ∨ state.main.exchangeAhead kind = true

theorem cycleStep_alerted {kind : Request} {state next : System} {action : MainAction}
    (alerted : Alerted kind state) (taken : CycleStep config loadPct state action next)
    (other : action ≠ kind.exchange) : Alerted kind next := by
  unfold Alerted at alerted ⊢
  cases taken with
  | startCycle pc => exact Or.inr (by cases kind <;> rfl)
  | exchangeRauc pc =>
      cases kind with
      | update => exact absurd rfl other
      | crashAck => exact Or.inr rfl
  | collectUpdate pc =>
      rw [pc] at alerted
      cases kind with
      | update => exact alerted.imp_right (fun ahead => nomatch ahead)
      | crashAck => exact Or.inr rfl
  | collectJournal pc =>
      rw [pc] at alerted
      cases kind with
      | update => exact alerted.imp_right (fun ahead => nomatch ahead)
      | crashAck => exact Or.inr rfl
  | exchangeAck pc =>
      rw [pc] at alerted
      cases kind with
      | update => exact alerted.imp_right (fun ahead => nomatch ahead)
      | crashAck => exact absurd rfl other
  | scanCrash pc | skipCrash pc | readAck pc | publish pc | notify pc =>
      rw [pc] at alerted
      cases kind <;> exact alerted.imp_right (fun ahead => nomatch ahead)

theorem loopStep_alerted {kind : Request} {state next : System} {action : MainAction}
    (alerted : Alerted kind state) (taken : LoopStep state action next) :
    Alerted kind next := by
  unfold Alerted at alerted ⊢
  cases taken with
  | enterLoop pc | stay pc | poll pc =>
      rw [pc] at alerted
      cases kind <;> exact alerted.imp_right (fun ahead => nomatch ahead)
  | drain pc =>
      rw [pc]
      exact Or.inr (by cases kind <;> rfl)
  | _ => exact Or.inr (by cases kind <;> rfl)

structure BusEffect (kind : Request) (state : System) (action : BusAction) (next : System) :
    Prop where
  raised : action = kind.store → next.pending kind = true ∧ next.bus.inside kind = true
  kept : action ≠ kind.store → next.pending kind = state.pending kind
  woken : kind.isWake action = true → 0 < next.eventfd
  inside : state.bus.inside kind = true → next.bus.inside kind = true ∨ 0 < next.eventfd
  counter : state.eventfd ≤ next.eventfd

theorem busStep_effect {state next : System} {action : BusAction} (kind : Request)
    (taken : BusStep config state action next) : BusEffect kind state action next := by
  cases taken with
  | raucWake pc | ackWake pc | triggerWake pc =>
      cases kind <;>
        refine ⟨?_, ?_, fun _ => wake_pos _, fun _ => Or.inr (wake_pos _), le_wake _⟩ <;>
        simp [Request.store, System.pending]
  | raucCompleted pc | raucTrigger pc | mismatched pc | matched pc | replaced pc | failed pc
  | failedAfterRename pc | ackStore pc | ackTrigger pc | limited pc | triggered pc =>
      cases kind <;>
        refine ⟨?_, ?_, ?_, ?_, Nat.le_refl _⟩ <;>
        simp [Request.store, Request.isWake, System.pending, BusPc.inside, pc]

theorem signalStep_counter {state next : System} {action : SignalAction}
    (taken : signalStep state action = some next) : state.eventfd ≤ next.eventfd := by
  cases action with
  | setFlag => cases taken; exact Nat.le_refl _
  | writeEventfd =>
      simp only [signalStep] at taken
      split at taken
      · cases taken; exact le_wake _
      · cases taken

theorem step_foreign_counter {state next : System} {action : Action}
    (taken : step config loadPct state action = some next) (foreign : action.isMain = false) :
    state.eventfd ≤ next.eventfd := by
  cases action with
  | main action => cases foreign
  | bus action => exact (busStep_effect config .update (step_bus config loadPct taken)).counter
  | signal action => exact signalStep_counter taken
  | pstoreChange pstore => cases taken; exact Nat.le_refl _

theorem step_alerted {kind : Request} {state next : System} {action : Action}
    (alerted : Alerted kind state) (taken : step config loadPct state action = some next)
    (other : action ≠ .main kind.exchange) : Alerted kind next := by
  cases action with
  | main action =>
      rcases mainStep_sound config loadPct taken with cycle | loop
      · apply cycleStep_alerted config loadPct alerted cycle
        intro same
        exact other (congrArg Action.main same)
      · exact loopStep_alerted alerted loop
  | bus | signal | pstoreChange =>
      have mainEq := (step_foreign config loadPct taken rfl).2.1
      have counter := step_foreign_counter config loadPct taken rfl
      rcases alerted with heard | ahead
      · exact Or.inl (by omega)
      · exact Or.inr (by rw [mainEq]; exact ahead)

theorem step_pending (kind : Request) {state next : System} {action : Action}
    (taken : step config loadPct state action = some next) :
    (action = .bus kind.store → next.pending kind = true) ∧
      (action = .main kind.exchange → next.pending kind = false) ∧
      (action ≠ .bus kind.store → action ≠ .main kind.exchange →
        next.pending kind = state.pending kind) := by
  cases action with
  | main action =>
      refine ⟨?_, ?_, ?_⟩
      · intro same
        cases same
      · intro same
        obtain rfl := Action.main.inj same
        rcases mainStep_sound config loadPct taken with cycle | loop
        · cases kind <;> cases cycle <;> rfl
        · cases kind <;> cases loop
      · intro _ other
        have different : action ≠ kind.exchange := fun same => other (congrArg Action.main same)
        rcases mainStep_sound config loadPct taken with cycle | loop
        · cases cycle with
          | exchangeRauc pc =>
              cases kind with
              | update => exact absurd rfl different
              | crashAck => rfl
          | exchangeAck pc =>
              cases kind with
              | update => rfl
              | crashAck => exact absurd rfl different
          | _ => cases kind <;> rfl
        · cases loop <;> cases kind <;> rfl
  | bus action =>
      have effect := busStep_effect config kind (step_bus config loadPct taken)
      refine ⟨?_, ?_, ?_⟩
      · intro same
        exact (effect.raised (Action.bus.inj same)).1
      · intro same
        cases same
      · intro other _
        exact effect.kept fun same => other (congrArg Action.bus same)
  | signal action =>
      have kept := signalStep_kept taken
      refine ⟨?_, ?_, ?_⟩
      · intro same
        cases same
      · intro same
        cases same
      · intro _ _
        cases kind with
        | update => exact kept.2.2.2.2.2.1
        | crashAck => exact kept.2.2.2.2.2.2.1
  | pstoreChange pstore =>
      cases taken
      exact ⟨nofun, nofun, fun _ _ => by cases kind <;> rfl⟩

theorem step_keeps_pending (kind : Request) {state next : System} {action : Action}
    (taken : step config loadPct state action = some next) (other : action ≠ .main kind.exchange)
    (pending : state.pending kind = true) : next.pending kind = true := by
  obtain ⟨raised, _, kept⟩ := step_pending config loadPct kind taken
  by_cases store : action = .bus kind.store
  · exact raised store
  · rw [kept store other]
    exact pending

theorem step_inside {kind : Request} {state next : System} {action : Action}
    (inside : state.bus.inside kind = true) (taken : step config loadPct state action = some next) :
    next.bus.inside kind = true ∨ 0 < next.eventfd := by
  cases action with
  | main action =>
      rw [(mainStep_kept config loadPct taken).1]
      exact Or.inl inside
  | bus action =>
      exact (busStep_effect config kind (step_bus config loadPct taken)).inside inside
  | signal action =>
      rw [(signalStep_kept taken).2.2.2.1]
      exact Or.inl inside
  | pstoreChange pstore =>
      cases taken
      exact Or.inl inside

end Steps

section Runs

variable (config : Config) (loadPct : CpuLoad → Double) {start : System}

theorem run_pending_heard {kind : Request} {history : List Action} {state : System}
    (run : Machine.follow (step config loadPct) start history = some state)
    (unset : start.pending kind = false) (pending : state.pending kind = true) :
    state.bus.inside kind = true ∨ Alerted kind state := by
  revert pending
  apply Machine.follow_induction (fun _ current => current.pending kind = true →
    current.bus.inside kind = true ∨ Alerted kind current) _ _ run
  · intro pending
    rw [unset] at pending
    cases pending
  · intro _ state action next _ heard taken pending
    obtain ⟨_, cleared, kept⟩ := step_pending config loadPct kind taken
    by_cases exchanged : action = .main kind.exchange
    · rw [cleared exchanged] at pending
      cases pending
    by_cases stored : action = .bus kind.store
    · subst action
      have effect := busStep_effect config kind (step_bus config loadPct taken)
      exact Or.inl (effect.raised rfl).2
    · rw [kept stored exchanged] at pending
      rcases heard pending with inside | alerted
      · rcases step_inside config loadPct inside taken with still | counted
        · exact Or.inl still
        · exact Or.inr (Or.inl counted)
      · exact Or.inr (step_alerted config loadPct alerted taken exchanged)

/-- A callback of this kind has run to its end, and no exchange has looked at the
flag since it was stored. -/
def FinishedUnserved (kind : Request) (history : List Action) : Prop :=
  ∃ before middle wake after,
    history = before ++ .bus kind.store :: (middle ++ .bus wake :: after) ∧
      kind.isWake wake = true ∧ .main kind.exchange ∉ middle ++ .bus wake :: after

theorem run_finished_alerted {kind : Request} {history : List Action} {state : System}
    (run : Machine.follow (step config loadPct) start history = some state)
    (finished : FinishedUnserved kind history) : Alerted kind state := by
  revert finished
  apply Machine.follow_induction (fun past current => FinishedUnserved kind past →
    Alerted kind current) _ _ run
  · rintro ⟨before, middle, wake, after, split, _⟩
    simp at split
  · rintro past state action next _ ih taken ⟨before, middle, wake, after, split, isWake, unserved⟩
    rcases List.eq_nil_or_concat after with rfl | ⟨earlier, last, rfl⟩
    · have ends : past ++ [action] =
          (before ++ .bus kind.store :: middle) ++ [Action.bus wake] := by
        rw [split]
        simp
      obtain ⟨_, same⟩ := List.append_inj' ends rfl
      obtain rfl : action = .bus wake := by simpa using same
      have effect := busStep_effect config kind (step_bus config loadPct taken)
      exact Or.inl (effect.woken isWake)
    · have ends : past ++ [action] =
          (before ++ .bus kind.store :: (middle ++ .bus wake :: earlier)) ++ [last] := by
        rw [split]
        simp
      obtain ⟨same, final⟩ := List.append_inj' ends rfl
      obtain rfl : action = last := by simpa using final
      apply step_alerted config loadPct (ih _) taken
      · rintro rfl
        exact unserved (by simp)
      · refine ⟨before, middle, wake, earlier, same, isWake, ?_⟩
        intro served
        apply unserved
        simp only [List.mem_append, List.mem_cons, List.concat_eq_append] at served ⊢
        tauto

structure ShutdownKnown (history : List Action) (state : System) : Prop where
  flagged : 0 < state.signalHandlers ∨ .signal .writeEventfd ∈ history →
    state.shutdownSignal = true
  heard : state.main = .polling → .signal .writeEventfd ∈ history → 0 < state.eventfd
  requested : state.shutdownRequested = true → state.main = .wakeSelf ∨ state.main = .stopped

theorem ShutdownKnown.mainStep {history : List Action} {state next : System}
    {action : MainAction} (known : ShutdownKnown history state)
    (taken : mainStep config loadPct state action = some next) :
    ShutdownKnown (history ++ [.main action]) next := by
  have written : Action.signal .writeEventfd ∈ history ++ [.main action] ↔
      Action.signal .writeEventfd ∈ history := by simp
  obtain ⟨_, _, _, flag, handlers⟩ := mainStep_kept config loadPct taken
  refine ⟨?_, ?_, ?_⟩
  · rw [written, flag, handlers]
    exact known.flagged
  · rw [written]
    intro asleep finished
    rcases mainStep_sound config loadPct taken with cycle | loop
    · cases cycle <;> cases asleep
    · cases loop with
      | poll pc quiet =>
          -- The flag was checked after the handler had set it.
          rw [known.flagged (Or.inr finished)] at quiet
          cases quiet
      | drain pc =>
          rw [pc] at asleep
          cases asleep
      | _ => cases asleep
  · intro requested
    rcases mainStep_sound config loadPct taken with cycle | loop
    · have stopping := known.requested
      cases cycle with
      | startCycle pc =>
          rcases pc with pc | pc <;>
          · rw [pc] at stopping
            simpa using stopping requested
      | _ pc =>
          rw [pc] at stopping
          simpa using stopping requested
    · have stopping := known.requested
      cases loop with
      | requestShutdown pc => exact Or.inl rfl
      | wakeSelf pc => exact Or.inr rfl
      | leave pc => exact Or.inr rfl
      | _ pc =>
          rw [pc] at stopping
          simpa using stopping requested

theorem run_shutdownKnown {history : List Action} {state : System}
    (run : Machine.follow (step config loadPct) start history = some state)
    (initial : ShutdownKnown [] start) : ShutdownKnown history state := by
  apply Machine.follow_induction ShutdownKnown initial _ run
  intro past state action next _ known taken
  cases action with
  | main action => exact known.mainStep config loadPct taken
  | bus action =>
      have bus := step_bus config loadPct taken
      obtain ⟨_, mainEq, _, requestedEq, flag, handlers⟩ := busStep_kept config bus
      have counter := (busStep_effect config .update bus).counter
      refine ⟨?_, ?_, ?_⟩
      · rw [flag, handlers]
        simpa using known.flagged
      · intro asleep finished
        have positive := known.heard (mainEq ▸ asleep) (by simpa using finished)
        omega
      · rw [requestedEq, mainEq]
        exact known.requested
  | signal action =>
      cases action with
      | setFlag =>
          cases taken
          exact ⟨fun _ => rfl, by simpa using known.heard, known.requested⟩
      | writeEventfd =>
          simp only [step, signalStep] at taken
          split at taken
          · rename_i running
            cases taken
            exact ⟨fun _ => known.flagged (Or.inl running), fun _ _ => wake_pos _,
              known.requested⟩
          · cases taken
  | pstoreChange pstore =>
      cases taken
      exact ⟨by simpa using known.flagged, by simpa using known.heard, known.requested⟩

def MainPc.committed : MainPc → Bool
  | .published _ | .checkShutdown | .checkSignal | .requestShutdown | .wakeSelf | .stopped => true
  | pc => pc.inCycle

def OneCycleLeft (since : List Action) (state : System) : Prop :=
  state.shutdownSignal = true ∧
    (since.countP Action.startsCycle = 0 ∨
      since.countP Action.startsCycle = 1 ∧ state.main.committed = true)

theorem mainStep_oneCycleLeft {since : List Action} {state next : System} {action : MainAction}
    (left : OneCycleLeft since state) (taken : mainStep config loadPct state action = some next) :
    OneCycleLeft (since ++ [.main action]) next := by
  obtain ⟨flag, budget⟩ := left
  refine ⟨by rw [(mainStep_kept config loadPct taken).2.2.2.1]; exact flag, ?_⟩
  rw [List.countP_append]
  rcases mainStep_sound config loadPct taken with cycle | loop
  · cases cycle with
    | startCycle pc =>
        have none : since.countP Action.startsCycle = 0 := by
          rcases budget with none | ⟨_, committed⟩
          · exact none
          · rcases pc with pc | pc <;> rw [pc] at committed <;> cases committed
        exact Or.inr ⟨by rw [none]; rfl, rfl⟩
    | _ => exact budget.imp (fun none => none) (fun one => ⟨one.1, rfl⟩)
  · rcases budget with none | ⟨one, committed⟩
    · cases loop <;> exact Or.inl none
    · refine Or.inr ⟨by cases loop <;> exact one, ?_⟩
      cases loop with
      | poll pc quiet =>
          rw [flag] at quiet
          cases quiet
      | enterLoop | leave | stay | signalled | requestShutdown | wakeSelf => rfl
      | reshutdown | resignalled => rfl
      | _ pc =>
          rw [pc] at committed
          cases committed

theorem run_oneCycleLeft {since : List Action} {state : System}
    (run : Machine.follow (step config loadPct) start since = some state)
    (flagged : start.shutdownSignal = true) : OneCycleLeft since state := by
  apply Machine.follow_induction OneCycleLeft ⟨flagged, Or.inl rfl⟩ _ run
  intro past state action next _ left taken
  cases action with
  | main action => exact mainStep_oneCycleLeft config loadPct left taken
  | bus action =>
      obtain ⟨_, mainEq, _, _, flag, _⟩ := busStep_kept config (step_bus config loadPct taken)
      refine ⟨by rw [flag]; exact left.1, ?_⟩
      rw [List.countP_append, mainEq]
      exact left.2
  | signal action =>
      have mainEq := (signalStep_kept taken).2.1
      constructor
      · cases action with
        | setFlag => cases taken; rfl
        | writeEventfd =>
            simp only [step, signalStep] at taken
            split at taken
            · cases taken; exact left.1
            · cases taken
      · rw [List.countP_append, mainEq]
        exact left.2
  | pstoreChange pstore =>
      cases taken
      refine ⟨left.1, ?_⟩
      rw [List.countP_append]
      exact left.2

def Forced : Request → System → Prop
  | .update, state => ∃ input calls, state.main = .collectUpdate input calls ∧
      state.daemon.update.schedule.isDue input.now = true
  | .crashAck, state => ∃ input calls, state.main = .collectCrash input calls ∧
      state.daemon.crash.schedule.isDue input.now = true

def Called : Request → System → Prop
  | .update, state => ∃ input calls result, state.main = .collectJournal input calls ∧
      calls.update = some result
  | .crashAck, state => ∃ input calls scan, state.main = .readAck input calls scan

theorem exchange_forced (valid : config.validate = none) (healthManager : Option HealthManager)
    (crashState : StateFile) (pstore : Pstore) {history : List Action} {state next : System}
    (run : Machine.follow (step config loadPct)
      (System.start config healthManager crashState pstore) history = some state)
    (kind : Request) (pending : state.pending kind = true)
    (taken : step config loadPct state (.main kind.exchange) = some next) : Forced kind next := by
  obtain ⟨collect, _, update, _⟩ := validate_intervals config valid
  cases kind with
  | update =>
      have repeats : 0 < state.daemon.update.schedule.interval := by
        have same := run_interval config loadPct run .update
        simp only [Daemon.slot, Section.interval] at same
        omega
      rcases mainStep_sound config loadPct taken with cycle | loop
      · cases cycle with
        | exchangeRauc pc =>
            exact ⟨_, _, rfl, (Slot.force_isDue_iff _ _ _ repeats).mpr (Or.inr pending)⟩
      · cases loop
  | crashAck =>
      have repeats : 0 < state.daemon.crash.schedule.interval := by
        have same := run_interval config loadPct run .crash
        simp only [Daemon.slot, Section.interval] at same
        omega
      rcases mainStep_sound config loadPct taken with cycle | loop
      · cases cycle with
        | exchangeAck pc =>
            exact ⟨_, _, rfl, (Slot.force_isDue_iff _ _ _ repeats).mpr (Or.inr pending)⟩
      · cases loop

theorem Forced.foreign {kind : Request} {state next : System} {action : Action}
    (forced : Forced kind state) (taken : step config loadPct state action = some next)
    (foreign : action.isMain = false) : Forced kind next := by
  obtain ⟨daemonEq, mainEq, _⟩ := step_foreign config loadPct taken foreign
  cases kind <;>
  · simp only [Forced]
    rw [daemonEq, mainEq]
    exact forced

theorem Forced.called {kind : Request} {state next : System} {action : MainAction}
    (forced : Forced kind state) (taken : mainStep config loadPct state action = some next) :
    Called kind next := by
  cases kind with
  | update =>
      obtain ⟨input, calls, pc, due⟩ := forced
      rcases mainStep_sound config loadPct taken with cycle | loop
      · cases cycle with
        | collectUpdate here =>
            rw [pc, MainPc.collectUpdate.injEq] at here
            obtain ⟨rfl, rfl⟩ := here
            refine ⟨_, _, input.update.result, rfl, ?_⟩
            simp only [Collection.collectUpdate, Slot.call, due, if_true]
        | startCycle here => rcases here with here | here <;> rw [pc] at here <;> cases here
        | _ here => rw [pc] at here; cases here
      · cases loop with
        | _ here => rw [pc] at here; cases here
  | crashAck =>
      obtain ⟨input, calls, pc, due⟩ := forced
      rcases mainStep_sound config loadPct taken with cycle | loop
      · cases cycle with
        | scanCrash here => exact ⟨_, _, _, rfl⟩
        | skipCrash here idle =>
            rw [pc, MainPc.collectCrash.injEq] at here
            obtain ⟨rfl, rfl⟩ := here
            rw [due] at idle
            cases idle
        | startCycle here => rcases here with here | here <;> rw [pc] at here <;> cases here
        | _ here => rw [pc] at here; cases here
      · cases loop with
        | _ here => rw [pc] at here; cases here

/-- However the run goes on, the first step of the main thread calls the probe. -/
def CollectFollows (kind : Request) (state : System) : Prop :=
  ∀ rest final, Machine.follow (step config loadPct) state rest = some final →
    (∀ action ∈ rest, action.isMain = false) ∨
      ∃ idle call later called, rest = idle ++ .main call :: later ∧
        (∀ action ∈ idle, action.isMain = false) ∧
        Machine.follow (step config loadPct) state (idle ++ [.main call]) = some called ∧
        Called kind called

theorem Forced.collectFollows {kind : Request} {state : System} (forced : Forced kind state) :
    CollectFollows config loadPct kind state := by
  intro rest final run
  induction rest generalizing state with
  | nil => exact Or.inl (by simp)
  | cons action rest ih =>
      obtain ⟨next, taken, later⟩ := Machine.follow_cons_some.mp run
      by_cases foreign : action.isMain = false
      · rcases ih (forced.foreign config loadPct taken foreign) later with
          all | ⟨idle, call, after, called, split, quiet, reached, isCalled⟩
        · left
          simp only [List.mem_cons, forall_eq_or_imp]
          exact ⟨foreign, all⟩
        · right
          refine ⟨action :: idle, call, after, called, by rw [split]; rfl, ?_, ?_, isCalled⟩
          · simp only [List.mem_cons, forall_eq_or_imp]
            exact ⟨foreign, quiet⟩
          · exact Machine.follow_cons_some.mpr ⟨next, taken, reached⟩
      · right
        cases action with
        | main call =>
            refine ⟨[], call, rest, next, rfl, by simp, ?_, ?_⟩
            · exact Machine.follow_cons_some.mpr ⟨next, taken, rfl⟩
            · exact forced.called config loadPct taken
        | bus | signal | pstoreChange => exact absurd rfl foreign

theorem run_pending_kept {kind : Request} {before after : List Action} {state : System}
    (run : Machine.follow (step config loadPct) start (before ++ .bus kind.store :: after) =
      some state)
    (unserved : .main kind.exchange ∉ after) : state.pending kind = true := by
  obtain ⟨middle, _, rest⟩ := Machine.follow_append_some.mp run
  obtain ⟨stored, taken, later⟩ := Machine.follow_cons_some.mp rest
  refine Machine.follow_preserves (fun current => current.pending kind = true)
    (fun action => action ≠ .main kind.exchange) ?_ later ?_
    ((step_pending config loadPct kind taken).1 rfl)
  · intro current action next other pending step
    exact step_keeps_pending config loadPct kind step other pending
  · rintro action member rfl
    exact unserved member

/-- The main thread never sleeps on an outstanding request, a flag goes down only
in a cycle that then calls its probe, and a signal leaves room for one cycle. -/
theorem no_request_is_lost (valid : config.validate = none)
    (healthManager : Option HealthManager) (crashState : StateFile) (pstore : Pstore)
    (history : List Action) (state : System)
    (run : Machine.follow (step config loadPct)
      (System.start config healthManager crashState pstore) history = some state) :
    (state.main = .polling → state.eventfd = 0 →
      .signal .writeEventfd ∉ history ∧ state.shutdownRequested = false ∧
        ∀ kind, ¬FinishedUnserved kind history ∧
          (state.pending kind = true → state.bus.inside kind = true)) ∧
      (∀ kind action next, step config loadPct state action = some next →
        state.pending kind = true → next.pending kind = false →
          action = .main kind.exchange ∧ CollectFollows config loadPct kind next) ∧
      (∀ kind before after, history = before ++ .bus kind.store :: after →
        .main kind.exchange ∉ after → state.pending kind = true) ∧
      (∀ before after, history = before ++ .signal .setFlag :: after →
        after.countP Action.startsCycle ≤ 1) := by
  have initial : ShutdownKnown []
      (System.start config healthManager crashState pstore) := by
    refine ⟨?_, ?_, ?_⟩ <;> simp [System.start]
  refine ⟨?_, ?_, ?_, ?_⟩
  · intro asleep empty
    have known := run_shutdownKnown config loadPct run initial
    have deaf : ∀ kind, ¬Alerted kind state := by
      rintro kind (heard | ahead)
      · omega
      · rw [asleep] at ahead
        cases kind <;> cases ahead
    refine ⟨?_, ?_, ?_⟩
    · intro finished
      have heard := known.heard asleep finished
      omega
    · rw [Bool.eq_false_iff]
      intro requested
      have stopping := known.requested requested
      rw [asleep] at stopping
      simp at stopping
    · intro kind
      refine ⟨fun finished => deaf kind (run_finished_alerted config loadPct run finished), ?_⟩
      intro pending
      have heard := run_pending_heard config loadPct run (by cases kind <;> rfl) pending
      exact heard.resolve_right (deaf kind)
  · intro kind action next taken pending cleared
    have isExchange : action = .main kind.exchange := by
      by_contra other
      rw [step_keeps_pending config loadPct kind taken other pending] at cleared
      cases cleared
    refine ⟨isExchange, ?_⟩
    subst action
    exact (exchange_forced config loadPct valid healthManager crashState pstore run kind pending
      taken).collectFollows config loadPct
  · rintro kind before after rfl unserved
    exact run_pending_kept config loadPct run unserved
  · rintro before after rfl
    obtain ⟨middle, _, rest⟩ := Machine.follow_append_some.mp run
    obtain ⟨flagged, taken, later⟩ := Machine.follow_cons_some.mp rest
    cases taken
    have left := (run_oneCycleLeft config loadPct later rfl).2
    omega

def acknowledgedInSleep : List Action :=
  firstCycle ++
    [.bus (.acknowledgeCrash panicFingerprint), .bus (.ackReplace panicFingerprint .replaced),
      .bus .ackStore, .bus .ackTrigger, .bus (.ackWake panicFingerprint),
      .bus (.triggerSnapshot (seconds 10)), .bus .triggerWake] ++
    wakeUp ++ [.main (.startCycle (healthyInput (seconds 10))), .main .exchangeRauc,
      .main .collectUpdate, .main .collectJournal]

def acknowledgementServed : List Action :=
  acknowledgedInSleep ++ .main .exchangeAck ::
    ([.main (.collectCrash { now := 0 }), .main .readAck, .main .publish, .main .notify] ++
      goToSleep)

def panicSystem : System := System.start {} (some {}) .missing panicPstore

theorem acknowledgement_served_before_sleep :
    ∃ asked served state,
      Machine.follow (step {} fun _ => .finite 0) panicSystem acknowledgedInSleep = some asked ∧
        asked.pending .crashAck = true ∧
        step {} (fun _ => .finite 0) asked (.main .exchangeAck) = some served ∧
        CollectFollows {} (fun _ => .finite 0) .crashAck served ∧
        Machine.follow (step {} fun _ => .finite 0) panicSystem acknowledgementServed =
          some state ∧
        state.main = .polling ∧ ¬FinishedUnserved .crashAck acknowledgementServed := by
  refine ⟨_, _, _, rfl, rfl, rfl, ?_, rfl, rfl, ?_⟩
  · exact ((no_request_is_lost {} (fun _ => .finite 0) (by decide) (some {}) .missing panicPstore
      acknowledgedInSleep _ rfl).2.1 .crashAck (.main .exchangeAck) _ rfl rfl rfl).2
  · exact (((no_request_is_lost {} (fun _ => .finite 0) (by decide) (some {}) .missing panicPstore
      acknowledgementServed _ rfl).1 rfl rfl).2.2 .crashAck).1

end Runs

end EdgeHealthd
