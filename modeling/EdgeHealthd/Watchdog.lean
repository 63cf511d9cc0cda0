import EdgeHealthd.Library.Machine
import Mathlib.Algebra.Order.Ring.Int
import Mathlib.Data.List.Chain

/-!
The watchdog thread of `src/daemon.cpp` beside the main thread. The main thread stores the time
of its heartbeats, the watchdog thread loads it after every sleep, reads the clock and, while
the heartbeat is fresh, notifies systemd some time after. Times are microseconds of the steady
clock.
-/

namespace EdgeHealthd.Watchdog

open Machine

/-- What `start_watchdog_thread` does: whether the thread starts and whether it warns. -/
def startWatchdogThread (managed : Bool) (timeout collectInterval : Int) : Bool × Bool :=
  if !managed then (false, false)
  else if timeout ≤ 0 then (false, false)
  else (true, decide (collectInterval ≥ timeout / 2))

def sleepInterval (timeout : Int) : Int := if timeout / 2 ≤ 0 then 1 else timeout / 2

inductive Step where
  -- `update_watchdog_heartbeat` in the main thread.
  | heartbeat
  | load
  -- The clock is read, and the notification that follows is out at `sent`.
  | compare (sent : Int)
  deriving DecidableEq

structure WatchdogState where
  heartbeat : Int
  loaded : Option Int := none
  pings : List Int := []

def step (timeout : Int) (state : WatchdogState) : Int × Step → Option WatchdogState
  | (now, .heartbeat) => some { state with heartbeat := now }
  | (_, .load) =>
      if state.loaded.isSome then none else some { state with loaded := some state.heartbeat }
  | (now, .compare sent) => state.loaded.map fun last =>
      { state with
        loaded := none
        pings := if now - last ≤ timeout then state.pings ++ [sent] else state.pings }

/-- The service manager restarts the service: the last notification, or the readiness, is
more than the timeout ago. -/
def Overdue (timeout ready : Int) (pings : List Int) (time : Int) : Prop :=
  ∀ ping ∈ ready :: pings, ping ≤ time → ping + timeout < time

section Hang

variable {timeout pause last : Int}

/-- From this moment on the main thread beats no more, and a notification is out at most
`pause` after the clock is read. -/
def HangsFrom (last pause : Int) : Int × Step → Prop
  | (now, .heartbeat) => now ≤ last
  | (_, .load) => True
  | (now, .compare sent) => sent ≤ now + pause

def StaysBelow (timeout pause last : Int) (state : WatchdogState) : Prop :=
  state.heartbeat ≤ last ∧ (∀ loaded, state.loaded = some loaded → loaded ≤ last) ∧
    ∀ ping ∈ state.pings, ping ≤ last + timeout + pause

theorem staysBelow_step {state next : WatchdogState} {event : Int × Step}
    (hangs : HangsFrom last pause event) (below : StaysBelow timeout pause last state)
    (taken : step timeout state event = some next) : StaysBelow timeout pause last next := by
  obtain ⟨heartbeat, loaded, pings⟩ := below
  obtain ⟨now, kind⟩ := event
  cases kind with
  | heartbeat =>
      cases taken
      exact ⟨hangs, loaded, pings⟩
  | load =>
      simp only [step] at taken
      split at taken
      · cases taken
      · cases taken
        refine ⟨heartbeat, ?_, pings⟩
        intro value same
        exact Option.some.inj same ▸ heartbeat
  | compare sent =>
      obtain ⟨value, found, rfl⟩ := Option.map_eq_some_iff.mp taken
      refine ⟨heartbeat, nofun, ?_⟩
      have bound := loaded value found
      have soon : sent ≤ now + pause := hangs
      intro ping member
      dsimp only at member
      split at member
      · rcases List.mem_append.mp member with before | new
        · exact pings ping before
        · rw [List.mem_singleton.mp new]
          omega
      · exact pings ping member

end Hang

section Alive

def Within (gap : Int) (times : List Int) : Prop :=
  times.IsChain fun earlier later => later ≤ earlier + gap

def beatTime : Int × Step → Option Int
  | (now, .heartbeat) => some now
  | (_, .load) | (_, .compare _) => none

def sendTime : Int × Step → Option Int
  | (_, .compare sent) => some sent
  | (_, .heartbeat) | (_, .load) => none

/-- The clock is read at most `delay` after the load. -/
def Prompt (delay : Int) : Option Int → List (Int × Step) → Prop
  | _, [] => True
  | since, (_, .heartbeat) :: rest => Prompt delay since rest
  | _, (now, .load) :: rest => Prompt delay (some now) rest
  | since, (now, .compare _) :: rest =>
      (∀ loadedAt, since = some loadedAt → now ≤ loadedAt + delay) ∧ Prompt delay none rest

theorem Within.mono {small large : Int} {times : List Int} (within : Within small times)
    (smaller : small ≤ large) : Within large times :=
  within.imp fun earlier later close => by omega

theorem Within.next_le {gap first finish : Int} {times : List Int} {time : Int}
    (within : Within gap (first :: times ++ [finish]))
    (after : ∀ later ∈ times ++ [finish], time ≤ later) : time ≤ first + gap := by
  cases times with
  | nil =>
      have close : finish ≤ first + gap := (List.isChain_cons_cons.mp within).1
      have reached := after finish (by simp)
      omega
  | cons second rest =>
      have close : second ≤ first + gap := (List.isChain_cons_cons.mp within).1
      have reached := after second (by simp)
      omega

theorem Within.exists_recent {gap finish time : Int} {times : List Int} : ∀ first,
    Within gap (first :: times ++ [finish]) → first ≤ time → time ≤ finish →
      ∃ recent ∈ first :: times, recent ≤ time ∧ time ≤ recent + gap := by
  induction times with
  | nil =>
      intro first within lower upper
      have close : finish ≤ first + gap := (List.isChain_cons_cons.mp within).1
      exact ⟨first, List.mem_cons_self, lower, by omega⟩
  | cons second rest ih =>
      intro first within lower upper
      obtain ⟨close, later⟩ := List.isChain_cons_cons.mp within
      by_cases reached : second ≤ time
      · obtain ⟨recent, member, bounds⟩ := ih second later reached upper
        exact ⟨recent, List.mem_cons_of_mem _ member, bounds⟩
      · exact ⟨first, List.mem_cons_self, lower, by omega⟩

theorem mem_of_mem_beats {events : List (Int × Step)} {time : Int}
    (member : time ∈ events.filterMap beatTime) : time ∈ events.map Prod.fst := by
  obtain ⟨⟨now, kind⟩, inside, found⟩ := List.mem_filterMap.mp member
  cases kind with
  | heartbeat =>
      obtain rfl := Option.some.inj found
      exact List.mem_map_of_mem inside
  | load | compare sent => cases found

variable {timeout silence delay finish : Int}

theorem follow_pings (fresh : silence + delay ≤ timeout) (events : List (Int × Step)) :
    ∀ (state final : WatchdogState) (since : Option Int),
      follow (step timeout) state events = some final →
      (events.map Prod.fst ++ [finish]).Pairwise (· ≤ ·) →
      Within silence (state.heartbeat :: events.filterMap beatTime ++ [finish]) →
      Prompt delay since events →
      (∀ loaded, state.loaded = some loaded →
        ∃ loadedAt, since = some loadedAt ∧ loadedAt ≤ loaded + silence) →
      final.pings = state.pings ++ events.filterMap sendTime := by
  induction events with
  | nil =>
      intro state final since run _ _ _ _
      cases run
      exact (List.append_nil _).symm
  | cons event rest ih =>
      intro state final since run ordered alive prompt loading
      obtain ⟨now, kind⟩ := event
      obtain ⟨next, taken, later⟩ := follow_cons_some.mp run
      obtain ⟨after, sorted⟩ := List.pairwise_cons.mp ordered
      cases kind with
      | heartbeat =>
          cases taken
          rw [List.filterMap_cons_some (rfl : beatTime (now, .heartbeat) = some now)] at alive
          rw [List.filterMap_cons_none rfl]
          exact ih { state with heartbeat := now } final since later sorted
            (List.isChain_cons_cons.mp alive).2 prompt loading
      | load =>
          simp only [step] at taken
          split at taken
          · cases taken
          · cases taken
            rw [List.filterMap_cons_none rfl] at alive ⊢
            refine ih { state with loaded := some state.heartbeat } final (some now) later sorted
              alive prompt ?_
            rintro value same
            obtain rfl := Option.some.inj same
            refine ⟨now, rfl, alive.next_le ?_⟩
            intro reached member
            refine after reached ?_
            rcases List.mem_append.mp member with beat | last
            · exact List.mem_append_left _ (mem_of_mem_beats beat)
            · exact List.mem_append_right _ last
      | compare sent =>
          obtain ⟨value, found, rfl⟩ := Option.map_eq_some_iff.mp taken
          obtain ⟨loadedAt, same, close⟩ := loading value found
          have soon := prompt.1 loadedAt same
          have pinged : now - value ≤ timeout := by omega
          rw [List.filterMap_cons_none rfl] at alive
          have rested := ih _ final none later sorted alive prompt.2 nofun
          rw [rested, List.filterMap_cons_some (rfl : sendTime (now, .compare sent) = some sent),
            if_pos pinged, List.append_assoc]
          rfl

end Alive

section Cycles

/-- The main thread: it waits at most `wait`, then a cycle takes at most `work`. A cycle stores
the heartbeat when it begins and when it ends. -/
def Paced (work wait finish : Int) : Int → List (Int × Int) → Prop
  | since, [] => finish ≤ since + wait
  | since, (begins, ends) :: rest =>
      begins ≤ since + wait ∧ ends ≤ begins + work ∧ Paced work wait finish ends rest

def cycleBeats (cycles : List (Int × Int)) : List Int :=
  cycles.flatMap fun cycle => [cycle.1, cycle.2]

theorem within_cycleBeats {work wait finish : Int} (cycles : List (Int × Int)) : ∀ since,
    Paced work wait finish since cycles →
      Within (max work wait) (since :: cycleBeats cycles ++ [finish]) := by
  induction cycles with
  | nil =>
      intro since paced
      have close : finish ≤ since + wait := paced
      exact List.isChain_pair.mpr (by omega)
  | cons cycle rest ih =>
      intro since paced
      obtain ⟨begins, ends⟩ := cycle
      obtain ⟨waited, worked, later⟩ := paced
      refine List.isChain_cons_cons.mpr ⟨by omega, ?_⟩
      exact List.isChain_cons_cons.mpr ⟨by omega, ih ends later⟩

end Cycles

/-- A main thread that hangs is found: whatever the watchdog thread does in between, the service
is overdue from twice the timeout after the last heartbeat on, and the time that a notification
takes. -/
theorem hang_overdue {timeout pause ready start last : Int} {events : List (Int × Step)}
    {state : WatchdogState} (positive : 0 < timeout) (takes : 0 ≤ pause) (started : ready ≤ start)
    (beaten : start ≤ last)
    (run : follow (step timeout) { heartbeat := start } events = some state)
    (hangs : ∀ event ∈ events, HangsFrom last pause event) :
    ∀ time, last + 2 * timeout + pause < time → Overdue timeout ready state.pings time := by
  have below : StaysBelow timeout pause last state :=
    follow_preserves (StaysBelow timeout pause last) (HangsFrom last pause)
      (fun _ _ _ allowed holds taken => staysBelow_step allowed holds taken) run hangs
      ⟨beaten, nofun, nofun⟩
  intro time late ping member _
  rcases List.mem_cons.mp member with rfl | notified
  · have longer : timeout < 2 * timeout := lt_two_mul_self positive
    omega
  · have bound := below.2.2 ping notified
    omega

theorem hung_service_overdue : Overdue 20 0 [12] 43 :=
  @hang_overdue 20 1 0 1 1 [(10, .load), (11, .compare 12), (13, .load), (30, .compare 30)]
    { heartbeat := 1, pings := [12] } (by decide) (by decide) (by decide) (by decide) rfl
    (by simp [HangsFrom]) 43 (by decide)

/-- Without the warning at startup the watchdog never fires on a healthy service: when cycles
and delays fit, every comparison notifies and at no time of the run the service is overdue. -/
theorem unwarned_never_overdue {timeout collectInterval late work delay slack : Int}
    (quiet : startWatchdogThread true timeout collectInterval = (true, false))
    (waits : late + delay ≤ timeout / 2) (works : work + delay ≤ timeout)
    (scheduled : slack ≤ timeout / 2) {ready start finish : Int} {events : List (Int × Step)}
    {state : WatchdogState}
    (run : follow (step timeout) { heartbeat := start } events = some state)
    (ordered : (events.map Prod.fst ++ [finish]).Pairwise (· ≤ ·)) {cycles : List (Int × Int)}
    (beats : events.filterMap beatTime = cycleBeats cycles)
    (paced : Paced work (collectInterval + late) finish start cycles)
    (prompt : Prompt delay none events)
    (wakes : Within (sleepInterval timeout + slack)
      (ready :: events.filterMap sendTime ++ [finish])) :
    state.pings = events.filterMap sendTime ∧
      ∀ time, ready ≤ time → time ≤ finish → ¬Overdue timeout ready state.pings time := by
  have positive : 0 < timeout := by
    simp only [startWatchdogThread, Bool.not_true, Bool.false_eq_true, if_false] at quiet
    split at quiet
    · cases quiet
    · omega
  have below : collectInterval < timeout / 2 := by
    simp only [startWatchdogThread, Bool.not_true, Bool.false_eq_true, if_false] at quiet
    rw [if_neg (by omega)] at quiet
    simpa using congrArg Prod.snd quiet
  have alive : Within (max work (collectInterval + late))
      (start :: events.filterMap beatTime ++ [finish]) :=
    beats ▸ within_cycleBeats cycles start paced
  have pinged : state.pings = [] ++ events.filterMap sendTime :=
    follow_pings (by omega) events _ state none run ordered alive prompt nofun
  rw [List.nil_append] at pinged
  refine ⟨pinged, ?_⟩
  intro time lower upper overdue
  have short : sleepInterval timeout + slack ≤ timeout := by
    unfold sleepInterval
    split <;> omega
  rw [pinged] at overdue
  obtain ⟨recent, member, reached, close⟩ := (wakes.mono short).exists_recent ready lower upper
  have expired := overdue recent member reached
  omega

theorem one_cycle_not_overdue :
    [12] = [((6 : Int), Step.heartbeat), (8, .heartbeat), (10, .load), (11, .compare 12)].filterMap
        sendTime ∧
      ∀ time, 0 ≤ time → time ≤ 14 → ¬Overdue 20 0 [12] time :=
  @unwarned_never_overdue 20 5 1 3 1 2 rfl (by decide) (by decide) (by decide) 0 0 14
    [(6, .heartbeat), (8, .heartbeat), (10, .load), (11, .compare 12)]
    { heartbeat := 8, pings := [12] } rfl (by decide) [(6, 8)] rfl (by simp [Paced])
    (by simp [Prompt]) (show Within _ [0, 12, 14] by simp [Within, sleepInterval])

end EdgeHealthd.Watchdog
