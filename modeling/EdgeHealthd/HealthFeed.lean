import EdgeHealthd.WebUi
import EdgeHealthd.HealthFeedCore
import EdgeHealthd.Library.Machine
import EdgeHealthd.Library.Tables
import Mathlib.Algebra.Group.Nat.Defs

/-!
What holds of the feed after any order of events before it is stopped. The feed is
always in one of three situations: waiting for the reconnect timer, waiting for a
socket to open, or live. `Represents` ties each of them to the variables, and every
event moves between them.
-/

namespace EdgeHealthd.WebUi

open Machine

inductive Link where
  | waiting (timer : Nat)
  | connecting (socket : Nat)
  | opened (socket : Nat)
  deriving DecidableEq

namespace Link

def socket : Link → Option Nat
  | .waiting _ => none
  | .connecting socket | .opened socket => some socket

def timer : Link → Option Nat
  | .waiting timer => some timer
  | .connecting _ | .opened _ => none

def isOpen : Link → Bool
  | .opened _ => true
  | .waiting _ | .connecting _ => false

end Link

/-- The delay before the attempt that follows this many failures and one more. -/
def backoff (failures : Nat) : Nat := min (reconnectInitialMs * 2 ^ failures) reconnectMaxMs

theorem backoff_succ (failures : Nat) :
    backoff (failures + 1) = min (backoff failures * 2) reconnectMaxMs := by
  rw [backoff, backoff, Nat.pow_succ]
  simp only [reconnectInitialMs, reconnectMaxMs]
  omega

namespace FeedEvent

def opens : FeedEvent → Bool
  | .opened _ => true
  | _ => false

def fails : FeedEvent → Bool
  | .closed _ => true
  | .reconnectTimer _ constructed => !constructed
  | _ => false

end FeedEvent

def countFailure (failures : Nat) (event : FeedEvent) : Nat :=
  if event.opens then 0 else if event.fails then failures + 1 else failures

/-- Closes and failed attempts since the last open, the first attempt included. -/
def failuresSinceOpen (constructed : Bool) (events : List FeedEvent) : Nat :=
  events.foldl countFailure (if constructed then 0 else 1)

structure Represents (link : Link) (failures : Nat) (feed : Feed) : Prop where
  running : feed.stopped = false
  ws : feed.ws = link.socket
  live : feed.store.connection = .live ↔ link.isOpen = true
  sockets : ∀ index socket, feed.sockets[index]? = some socket →
    socket.listening = true ∧ (socket.closed = false ↔ link.socket = some index) ∧
      (socket.closed = false → (socket.opened = true ↔ link.isOpen = true))
  made : ∀ index, link.socket = some index → index < feed.sockets.length
  reconnectTimer : feed.reconnectTimer = link.timer
  timeouts : feed.timeouts = link.timer.toList.map fun timer => ⟨timer, backoff (failures - 1)⟩
  delay : feed.reconnectDelay = backoff failures
  failed : link.timer.isSome = true → 0 < failures
  fresh : link.isOpen = true → failures = 0
  pollTimer : feed.pollTimer.isSome = decide (0 < failures)
  intervals : feed.intervals = feed.pollTimer.toList.map fun timer => ⟨timer, pollIntervalMs⟩

section Frame

variable {link : Link} {failures : Nat} {feed : Feed}

theorem Represents.other {store : Store} {fetching reading : Nat}
    (holds : Represents link failures feed)
    (same : store.connection = .live ↔ feed.store.connection = .live) :
    Represents link failures { feed with store, fetching, reading } :=
  { holds with live := same.trans holds.live }

end Frame

/-- Only the store, with the connection as live as before, and the polls have changed. -/
def OnlyData (feed next : Feed) : Prop :=
  ∃ store fetching reading, next = { feed with store, fetching, reading } ∧
    (store.connection = .live ↔ feed.store.connection = .live)

namespace OnlyData

variable {feed next last : Feed}

theorem refl (feed : Feed) : OnlyData feed feed := ⟨feed.store, _, _, rfl, Iff.rfl⟩

theorem trans (first : OnlyData feed next) (second : OnlyData next last) : OnlyData feed last := by
  obtain ⟨store, fetching, reading, rfl, same⟩ := first
  obtain ⟨store', fetching', reading', rfl, same'⟩ := second
  exact ⟨store', fetching', reading', rfl, same'.trans same⟩

theorem represents {link : Link} {failures : Nat} (change : OnlyData feed next)
    (holds : Represents link failures feed) : Represents link failures next := by
  obtain ⟨store, fetching, reading, rfl, same⟩ := change
  exact holds.other same

end OnlyData

section Data

variable (builtins : Builtins) (feed : Feed)

theorem acceptSnapshot_connection (store : Store) (raw : Json) (source : Source) (seenAt : Double) :
    (acceptSnapshot builtins store raw source seenAt).1.connection = store.connection := by
  unfold acceptSnapshot
  split
  · split <;> rfl
  · dsimp only
    split
    · split <;> rfl
    · split
      · split <;> rfl
      · split <;> rfl

theorem onlyData_reportProblem (problem : FeedProblem) :
    OnlyData feed (feed.reportProblem problem) := ⟨_, _, _, rfl, Iff.rfl⟩

theorem onlyData_poll : OnlyData feed feed.poll := ⟨feed.store, _, _, rfl, Iff.rfl⟩

theorem onlyData_setConnection (connection : Connection) (off : feed.store.connection ≠ .live)
    (other : connection ≠ .live) : OnlyData feed (feed.setConnection connection) :=
  ⟨_, _, _, rfl, iff_of_false other off⟩

theorem onlyData_pollFailed : OnlyData feed feed.pollFailed := by
  rw [Feed.pollFailed]
  split
  · exact .refl feed
  · split
    · rename_i off
      exact (onlyData_setConnection feed .unreachable off (by decide)).trans
        (onlyData_reportProblem _ _)
    · exact .refl feed

theorem onlyData_markPolling : OnlyData feed feed.markPolling := by
  rw [Feed.markPolling]
  split
  · rename_i off
    exact onlyData_setConnection feed .polling off (by decide)
  · exact .refl feed

theorem onlyData_onMessage (data : Option Json) (now : Double) :
    OnlyData feed (feed.onMessage builtins data now) := by
  cases data with
  | none => exact onlyData_reportProblem feed _
  | some raw =>
      have kept := acceptSnapshot_connection builtins feed.store raw .network now
      rw [Feed.onMessage]
      split
      · rename_i store result accepted
        rw [accepted] at kept
        exact ⟨store, _, _, rfl, by rw [kept]⟩
      · rename_i store thrown accepted
        rw [accepted] at kept
        exact ⟨_, _, _, rfl, by rw [kept]⟩

theorem onlyData_onResponse (response : Feed.Response) : OnlyData feed (feed.onResponse response) := by
  cases response with
  | failed => exact onlyData_pollFailed feed
  | status code =>
      rw [Feed.onResponse]
      split
      · exact .refl feed
      · split
        · dsimp only
          split
          · exact (onlyData_markPolling feed).trans (onlyData_reportProblem _ _)
          · exact onlyData_markPolling feed
        · split
          · exact ⟨feed.store, _, _, rfl, Iff.rfl⟩
          · exact onlyData_pollFailed feed

theorem onlyData_onBody (body : Option Json) (now : Double) :
    OnlyData feed (feed.onBody builtins body now) := by
  cases body with
  | none => exact onlyData_reportProblem feed _
  | some raw =>
      have kept := acceptSnapshot_connection builtins feed.store raw .network now
      rw [Feed.onBody]
      split
      · rename_i store result accepted
        rw [accepted] at kept
        have stored : OnlyData feed { feed with store } := ⟨store, _, _, rfl, by rw [kept]⟩
        exact stored.trans (onlyData_markPolling _)
      · rename_i store thrown accepted
        rw [accepted] at kept
        have stored : OnlyData feed { feed with store } := ⟨store, _, _, rfl, by rw [kept]⟩
        exact stored.trans (onlyData_pollFailed _)

end Data

/-- The feed inside a callback, with neither a socket nor a timer for the next one. -/
structure Down (failures : Nat) (feed : Feed) : Prop where
  running : feed.stopped = false
  ws : feed.ws = none
  off : feed.store.connection ≠ .live
  sockets : ∀ socket ∈ feed.sockets, socket.listening = true ∧ socket.closed = true
  reconnectTimer : feed.reconnectTimer = none
  timeouts : feed.timeouts = []
  delay : feed.reconnectDelay = backoff failures
  pollTimer : feed.pollTimer.isSome = decide (0 < failures)
  intervals : feed.intervals = feed.pollTimer.toList.map fun timer => ⟨timer, pollIntervalMs⟩

section Down

variable {failures : Nat} {feed : Feed} (down : Down failures feed)
include down

theorem Down.startPolling :
    feed.startPolling.pollTimer.isSome = true ∧
      feed.startPolling.intervals =
        feed.startPolling.pollTimer.toList.map fun timer => ⟨timer, pollIntervalMs⟩ := by
  cases armed : feed.pollTimer with
  | some timer => simp [Feed.startPolling, armed, down.intervals]
  | none => simp [Feed.startPolling, armed, down.intervals]

theorem Down.scheduleReconnect :
    Represents (.waiting feed.startPolling.nextTimer) (failures + 1) feed.scheduleReconnect := by
  obtain ⟨armed, intervals⟩ := down.startPolling
  have rest : ∃ pollTimer intervals nextTimer,
      feed.startPolling = { feed with pollTimer, intervals, nextTimer } := by
    rw [Feed.startPolling]
    split
    · exact ⟨_, _, _, rfl⟩
    · exact ⟨_, _, _, rfl⟩
  have idle : ¬(feed.stopped || feed.reconnectTimer.isSome) = true := by
    simp [down.running, down.reconnectTimer]
  rw [Feed.scheduleReconnect, if_neg idle]
  obtain ⟨pollTimer, live, nextTimer, same⟩ := rest
  rw [same] at armed intervals ⊢
  exact {
    running := down.running
    ws := down.ws
    live := iff_of_false down.off Bool.false_ne_true
    sockets := by
      intro index socket found
      obtain ⟨listening, closed⟩ := down.sockets socket (List.mem_of_getElem? found)
      simp [listening, closed, Link.socket]
    made := by simp [Link.socket]
    reconnectTimer := rfl
    timeouts := by simp [down.timeouts, down.delay, Link.timer]
    delay := by
      rw [backoff_succ, ← down.delay]
    failed := fun _ => Nat.succ_pos failures
    fresh := by simp [Link.isOpen]
    pollTimer := by simpa using armed
    intervals := intervals }

theorem Down.connect (constructed : Bool) :
    ∃ link, Represents link (if constructed then failures else failures + 1)
      (feed.connect constructed) ∧ link.isOpen = false ∧ (link.timer.isSome = !constructed) := by
  have running : ¬feed.stopped = true := by simp [down.running]
  rw [Feed.connect, if_neg running]
  cases constructed with
  | false => exact ⟨_, down.scheduleReconnect, rfl, rfl⟩
  | true =>
      refine ⟨.connecting feed.sockets.length, ?_, rfl, rfl⟩
      exact {
        running := down.running
        ws := rfl
        live := iff_of_false down.off Bool.false_ne_true
        sockets := by
          intro index socket found
          rcases Table.read_snoc found with ⟨bound, earlier⟩ | ⟨rfl, rfl⟩
          · obtain ⟨listening, closed⟩ := down.sockets socket (List.mem_of_getElem? earlier)
            simp only [listening, closed, Link.socket, Option.some.injEq]
            simp [Nat.ne_of_gt bound]
          · simp [Link.socket, Link.isOpen]
        made := by simp [Link.socket]
        reconnectTimer := down.reconnectTimer
        timeouts := down.timeouts
        delay := down.delay
        failed := by simp [Link.timer]
        fresh := by simp [Link.isOpen]
        pollTimer := down.pollTimer
        intervals := down.intervals }

end Down

theorem Link.timer_of_socket {link : Link} {index : Nat} (current : link.socket = some index) :
    link.timer = none := by
  cases link with
  | waiting timer => cases current
  | connecting | opened => rfl

section Transitions

variable {link : Link} {failures : Nat} {feed : Feed} (holds : Represents link failures feed)
include holds

theorem Represents.current {index : Nat} {socket : Socket}
    (found : feed.sockets[index]? = some socket) (unclosed : socket.closed = false) :
    link.socket = some index :=
  ((holds.sockets index socket found).2.1).mp unclosed

theorem Represents.cleared : Feed.clear feed.intervals feed.pollTimer = [] := by
  rw [holds.intervals]
  cases feed.pollTimer with
  | none => rfl
  | some timer => simp [Feed.clear]

theorem Represents.onOpen {index : Nat} {socket : Socket}
    (found : feed.sockets[index]? = some socket) (unclosed : socket.closed = false) :
    Represents (.opened index) 0
      (Feed.onOpen { feed with sockets := feed.sockets.set index { socket with opened := true } }) := by
  have current := holds.current found unclosed
  have timer := Link.timer_of_socket current
  exact {
    running := holds.running
    ws := holds.ws.trans current
    live := iff_of_true rfl rfl
    sockets := by
      intro place other read
      rcases Table.read_set read with ⟨rfl, rfl⟩ | ⟨distinct, read⟩
      · simp [holds.sockets place socket found, unclosed, Link.socket, Link.isOpen]
      · obtain ⟨listening, closed, _⟩ := holds.sockets place other read
        rw [current] at closed
        have notCurrent : ¬some index = some place := fun same =>
          distinct (Option.some.inj same).symm
        simp only [notCurrent, iff_false, Bool.not_eq_false] at closed
        simp [listening, closed, Link.socket, Ne.symm distinct]
    made := by
      intro place opened
      obtain rfl := Option.some.inj opened
      simpa [Feed.onOpen, Feed.stopPolling, Feed.setConnection] using holds.made index current
    reconnectTimer := holds.reconnectTimer.trans timer
    timeouts := holds.timeouts.trans (by rw [timer]; rfl)
    delay := rfl
    failed := by simp [Link.timer]
    fresh := fun _ => rfl
    pollTimer := rfl
    intervals := holds.cleared }

theorem Represents.timerFired {timer : Nat} (armed : link.timer = some timer) :
    Down failures { feed with
      timeouts := feed.timeouts.filter (·.id ≠ timer), reconnectTimer := none } := by
  have noSocket : link.socket = none := by
    cases link with
    | waiting => rfl
    | connecting | opened => cases armed
  have notOpen : ¬link.isOpen = true := by
    cases link with
    | waiting | connecting => simp [Link.isOpen]
    | opened => cases armed
  exact {
    running := holds.running
    ws := holds.ws.trans noSocket
    off := fun live => notOpen (holds.live.mp live)
    sockets := by
      intro socket member
      obtain ⟨index, read⟩ := List.mem_iff_getElem?.mp member
      obtain ⟨listening, closed, _⟩ := holds.sockets index socket read
      rw [noSocket] at closed
      exact ⟨listening, by simpa using closed⟩
    reconnectTimer := rfl
    timeouts := by simp [holds.timeouts, armed]
    delay := holds.delay
    pollTimer := holds.pollTimer
    intervals := holds.intervals }

theorem Represents.onClose {index : Nat} {socket : Socket}
    (found : feed.sockets[index]? = some socket) (unclosed : socket.closed = false) :
    ∃ timer, Represents (.waiting timer) (failures + 1)
      (Feed.onClose { feed with
        sockets := feed.sockets.set index { socket with closed := true } }) := by
  have current := holds.current found unclosed
  have timer := Link.timer_of_socket current
  have closed : ∀ other ∈ feed.sockets.set index { socket with closed := true },
      other.listening = true ∧ other.closed = true := by
    intro other member
    obtain ⟨place, read⟩ := List.mem_iff_getElem?.mp member
    rcases Table.read_set read with ⟨rfl, rfl⟩ | ⟨distinct, read⟩
    · exact ⟨(holds.sockets place socket found).1, rfl⟩
    · obtain ⟨listening, closed, _⟩ := holds.sockets place other read
      have notCurrent : ¬some index = some place := fun same =>
        distinct (Option.some.inj same).symm
      rw [current] at closed
      exact ⟨listening, by simpa [notCurrent] using closed⟩
  have running : ¬feed.stopped = true := by simp [holds.running]
  rw [Feed.onClose, if_neg running]
  dsimp only
  refine ⟨_, Down.scheduleReconnect ?_⟩
  split
  · exact ⟨holds.running, rfl, by simp [Feed.setConnection], closed,
      holds.reconnectTimer.trans timer, holds.timeouts.trans (by rw [timer]; rfl), holds.delay,
      holds.pollTimer, holds.intervals⟩
  · rename_i off
    exact ⟨holds.running, rfl, off, closed, holds.reconnectTimer.trans timer,
      holds.timeouts.trans (by rw [timer]; rfl), holds.delay, holds.pollTimer, holds.intervals⟩

end Transitions

theorem represents_step (builtins : Builtins) {link : Link} {failures : Nat} {feed next : Feed}
    {event : FeedEvent} (holds : Represents link failures feed)
    (taken : feed.step builtins event = some next) (running : event ≠ .stop) :
    ∃ link', Represents link' (countFailure failures event) next ∧
      (event.fails = true → link'.timer.isSome = true) := by
  cases event with
  | opened index =>
      obtain ⟨socket, found, rest⟩ := Option.bind_eq_some_iff.mp taken
      split at rest
      · cases rest
      · rename_i idle
        simp only [Bool.or_eq_true, not_or, Bool.not_eq_true] at idle
        obtain rfl := Option.some.inj rest
        exact ⟨_, holds.onOpen found idle.2, by simp [FeedEvent.fails]⟩
  | message index data now =>
      obtain ⟨socket, found, rest⟩ := Option.bind_eq_some_iff.mp taken
      split at rest
      · cases rest
      · obtain rfl := Option.some.inj rest
        exact ⟨link, (onlyData_onMessage builtins feed data now).represents holds,
          by simp [FeedEvent.fails]⟩
  | closed index =>
      obtain ⟨socket, found, rest⟩ := Option.bind_eq_some_iff.mp taken
      split at rest
      · cases rest
      · rename_i unclosed
        simp only [Bool.not_eq_true] at unclosed
        have listening := (holds.sockets index socket found).1
        dsimp only at rest
        rw [if_pos listening] at rest
        obtain rfl := Option.some.inj rest
        obtain ⟨timer, waiting⟩ := holds.onClose found unclosed
        exact ⟨_, waiting, fun _ => rfl⟩
  | reconnectTimer timer constructed =>
      rw [Feed.step] at taken
      split at taken
      · rename_i armed
        obtain rfl := Option.some.inj taken
        have same : link.timer = some timer := by
          rw [holds.timeouts] at armed
          cases held : link.timer with
          | none => simp [held] at armed
          | some other => simpa [held] using armed
        obtain ⟨link', represents, _, waiting⟩ := (holds.timerFired same).connect constructed
        refine ⟨link', ?_, fun failed => waiting.trans failed⟩
        cases constructed with
        | true => exact represents
        | false => exact represents
      · cases taken
  | pollTimer timer =>
      rw [Feed.step] at taken
      split at taken
      · obtain rfl := Option.some.inj taken
        exact ⟨link, (onlyData_poll feed).represents holds, by simp [FeedEvent.fails]⟩
      · cases taken
  | response response =>
      rw [Feed.step] at taken
      split at taken
      · cases taken
      · obtain rfl := Option.some.inj taken
        have counted : OnlyData feed { feed with fetching := feed.fetching - 1 } :=
          ⟨feed.store, _, _, rfl, Iff.rfl⟩
        exact ⟨link, (counted.trans (onlyData_onResponse _ response)).represents holds,
          by simp [FeedEvent.fails]⟩
  | body body now =>
      rw [Feed.step] at taken
      split at taken
      · cases taken
      · obtain rfl := Option.some.inj taken
        have counted : OnlyData feed { feed with reading := feed.reading - 1 } :=
          ⟨feed.store, _, _, rfl, Iff.rfl⟩
        exact ⟨link, (counted.trans (onlyData_onBody builtins _ body now)).represents holds,
          by simp [FeedEvent.fails]⟩
  | stop => exact absurd rfl running

section Runs

variable (builtins : Builtins) (location : Location) (stored : Option Json) (constructed : Bool)

theorem start_represents :
    ∃ link, Represents link (failuresSinceOpen constructed [])
      (startHealthFeed builtins location stored constructed) ∧
        (constructed = false → link.timer.isSome = true) := by
  have down : ∀ store : Store, store.connection = .connecting →
      Down 0 (Feed.poll { location, store }) := by
    intro store connecting
    exact ⟨rfl, rfl, by simp [Feed.poll, connecting], by simp [Feed.poll], rfl, rfl, rfl, rfl, rfl⟩
  have started : ∃ store : Store, store.connection = .connecting ∧
      startHealthFeed builtins location stored constructed =
        (Feed.poll { location, store }).connect constructed := by
    rw [startHealthFeed]
    split
    · exact ⟨{}, rfl, rfl⟩
    · exact ⟨_, acceptSnapshot_connection builtins _ _ _ _, rfl⟩
  obtain ⟨store, connecting, same⟩ := started
  obtain ⟨link, represents, _, waiting⟩ := (down store connecting).connect constructed
  rw [same]
  exact ⟨link, represents, fun thrown => by rw [waiting, thrown]; rfl⟩

def lastFailed (events : List FeedEvent) : Prop :=
  match events.getLast? with
  | none => constructed = false
  | some event => event.fails = true

theorem run_represents {events : List FeedEvent} {feed : Feed}
    (run : follow (Feed.step builtins) (startHealthFeed builtins location stored constructed)
      events = some feed) :
    (∀ event ∈ events, event ≠ .stop) → ∃ link,
      Represents link (failuresSinceOpen constructed events) feed ∧
        (lastFailed constructed events → link.timer.isSome = true) := by
  refine follow_induction (fun events feed => (∀ event ∈ events, event ≠ .stop) → ∃ link,
    Represents link (failuresSinceOpen constructed events) feed ∧
      (lastFailed constructed events → link.timer.isSome = true)) ?_ ?_ run
  · intro _
    exact start_represents builtins location stored constructed
  · intro past state event next _ earlier taken running
    obtain ⟨link, represents, _⟩ := earlier fun other member =>
      running other (List.mem_append_left _ member)
    have notStop := running event (List.mem_append_right _ List.mem_cons_self)
    obtain ⟨link', represents', waiting⟩ := represents_step builtins represents taken notStop
    refine ⟨link', ?_, ?_⟩
    · rw [failuresSinceOpen, List.foldl_append]
      exact represents'
    · rw [lastFailed, List.getLast?_concat]
      exact waiting

end Runs

namespace Feed

variable (feed : Feed)

def CurrentOpen : Prop :=
  ∃ index socket, feed.ws = some index ∧ feed.sockets[index]? = some socket ∧
    socket.opened = true ∧ socket.closed = false

def ReconnectArmed : Prop :=
  ∃ timer ∈ feed.timeouts, feed.reconnectTimer = some timer.id

def PollArmed : Prop :=
  ∃ timer ∈ feed.intervals, feed.pollTimer = some timer.id

end Feed

section Laws

variable {link : Link} {failures : Nat} {feed : Feed} (holds : Represents link failures feed)
include holds

theorem Represents.found {index : Nat} (current : link.socket = some index) :
    ∃ socket, feed.sockets[index]? = some socket ∧ socket.closed = false := by
  have bound := holds.made index current
  have read := List.getElem?_eq_getElem bound
  exact ⟨feed.sockets[index], read, (holds.sockets index _ read).2.1.mpr current⟩

theorem Represents.live_iff : feed.store.connection = .live ↔ feed.CurrentOpen := by
  rw [holds.live]
  constructor
  · intro opened
    cases link with
    | waiting | connecting => cases opened
    | opened index =>
        obtain ⟨socket, read, unclosed⟩ := holds.found rfl
        exact ⟨index, socket, holds.ws, read,
          ((holds.sockets index socket read).2.2 unclosed).mpr opened, unclosed⟩
  · rintro ⟨index, socket, _, read, opened, unclosed⟩
    exact ((holds.sockets index socket read).2.2 unclosed).mp opened

theorem Represents.armed_iff : feed.ReconnectArmed ↔ link.timer.isSome = true := by
  rw [Feed.ReconnectArmed, holds.timeouts, holds.reconnectTimer]
  cases link.timer <;> simp

theorem Represents.socket_iff :
    (∃ socket ∈ feed.sockets, socket.closed = false) ↔ ¬feed.ReconnectArmed := by
  rw [holds.armed_iff]
  have either : link.socket.isSome = true ↔ ¬link.timer.isSome = true := by
    cases link <;> simp [Link.socket, Link.timer]
  rw [← either, Option.isSome_iff_exists]
  constructor
  · rintro ⟨socket, member, unclosed⟩
    obtain ⟨index, read⟩ := List.mem_iff_getElem?.mp member
    exact ⟨index, holds.current read unclosed⟩
  · rintro ⟨index, current⟩
    obtain ⟨socket, read, unclosed⟩ := holds.found current
    exact ⟨socket, List.mem_of_getElem? read, unclosed⟩

theorem Represents.pollArmed_iff : feed.PollArmed ↔ 0 < failures := by
  have timer := holds.pollTimer
  rw [Feed.PollArmed, holds.intervals]
  cases armed : feed.pollTimer with
  | none => simpa [armed] using timer
  | some id => simpa [armed] using timer

theorem Represents.open_iff :
    (∃ socket ∈ feed.sockets, socket.opened = true ∧ socket.closed = false) ↔
      feed.store.connection = .live := by
  rw [holds.live_iff]
  constructor
  · rintro ⟨socket, member, opened, unclosed⟩
    obtain ⟨index, read⟩ := List.mem_iff_getElem?.mp member
    exact ⟨index, socket, holds.ws.trans (holds.current read unclosed), read, opened, unclosed⟩
  · rintro ⟨index, socket, _, read, opened, unclosed⟩
    exact ⟨socket, List.mem_of_getElem? read, opened, unclosed⟩

end Laws

/-- Along every order of events before `stop`: the connection is live exactly while the
current socket is open; there is a socket that is not closed or an armed reconnect timer,
never both, and never two of either; the poll timer runs exactly while no socket is open
after a failure; and the delay doubles with each failure since the last open. -/
theorem healthFeed_invariants (builtins : Builtins) (location : Location) (stored : Option Json)
    (constructed : Bool) (events : List FeedEvent) (feed : Feed)
    (running : ∀ event ∈ events, event ≠ .stop)
    (run : follow (Feed.step builtins) (startHealthFeed builtins location stored constructed)
      events = some feed) :
    (feed.store.connection = .live ↔ feed.CurrentOpen) ∧
    ((∃ socket ∈ feed.sockets, socket.closed = false) ↔ ¬feed.ReconnectArmed) ∧
    (∀ (first second : Nat) (left right : Socket), feed.sockets[first]? = some left →
      left.closed = false → feed.sockets[second]? = some right → right.closed = false →
        first = second) ∧
    feed.timeouts.length ≤ 1 ∧
    (feed.PollArmed ↔
      (¬∃ socket ∈ feed.sockets, socket.opened = true ∧ socket.closed = false) ∧
        0 < failuresSinceOpen constructed events) ∧
    feed.intervals.length ≤ 1 ∧
    (lastFailed constructed events →
      feed.ReconnectArmed ∧ ∀ timer ∈ feed.timeouts,
        timer.delay = min (1000 * 2 ^ (failuresSinceOpen constructed events - 1)) 30000) := by
  obtain ⟨link, holds, waiting⟩ :=
    run_represents builtins location stored constructed run running
  refine ⟨holds.live_iff, holds.socket_iff, ?_, ?_, ?_, ?_, ?_⟩
  · intro first second left right leftRead leftUnclosed rightRead rightUnclosed
    have current := holds.current leftRead leftUnclosed
    rw [holds.current rightRead rightUnclosed] at current
    exact (Option.some.inj current).symm
  · rw [holds.timeouts]
    cases link.timer <;> simp
  · rw [holds.pollArmed_iff, holds.open_iff, holds.live, iff_and_self]
    intro failed opened
    exact absurd (holds.fresh opened) (Nat.ne_of_gt failed)
  · rw [holds.intervals]
    cases feed.pollTimer <;> simp
  · intro failed
    refine ⟨holds.armed_iff.mpr (waiting failed), ?_⟩
    intro timer member
    rw [holds.timeouts] at member
    obtain ⟨id, _, rfl⟩ := List.mem_map.mp member
    rfl

def gateway : Location := ⟨"http:", "gateway.local"⟩

theorem drop_then_failure_waits_two_seconds :
    ∃ feed, follow (Feed.step versionOnly) (startHealthFeed versionOnly gateway none true)
        [.opened 0, .closed 0, .reconnectTimer 1 false] = some feed ∧
      feed.ReconnectArmed ∧ ∀ timer ∈ feed.timeouts, timer.delay = 2000 := by
  refine ⟨_, rfl, ?_⟩
  refine (healthFeed_invariants versionOnly gateway none true
    [.opened 0, .closed 0, .reconnectTimer 1 false] _ ?_ rfl).2.2.2.2.2.2 rfl
  simp

end EdgeHealthd.WebUi
