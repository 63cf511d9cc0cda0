import EdgeHealthd.WebUiCore

/-!
Executable `acceptSnapshot` of `state/store.ts` and `startHealthFeed` of
`state/feed.ts`. The state holds the variables of the closure and what the browser
keeps for it: the sockets, the live timers and the requests under way. An event is
one callback, with what the browser answers to it.
-/

namespace EdgeHealthd.WebUi

inductive Connection where
  | connecting
  | live
  | polling
  | unreachable
  deriving DecidableEq

inductive FeedProblem where
  | noSnapshot
  | invalid (message : String)
  | unreachable

structure Store where
  snapshot : Option Json := none
  firstSeenAt : Option Double := none
  fromCache : Bool := false
  connection : Connection := .connecting
  problem : Option FeedProblem := none
  escalated : List Domain := []

inductive Source where
  | network
  | cache
  deriving DecidableEq

inductive AcceptResult where
  | accepted
  | unchanged
  | rejected

-- `===` between values of two documents: no array or object is in both.
def strictEquals : JsValue → JsValue → Bool
  | none, none => true
  | some .null, some .null => true
  | some (.boolean left), some (.boolean right) => left == right
  | some (.string left), some (.string right) => left == right
  | left, right =>
      match asNumber left, asNumber right with
      | some number, some other => number = other && number ≠ .nan
      | _, _ => false

def escalatedDomains (previous current : List (Domain × Severity)) : List Domain :=
  ((previous.zip current).filter fun pair => rank pair.2.2 > rank pair.1.2).map fun pair =>
    pair.2.1

def sameSnapshot (previous : Option Json) (next : Json) : Bool :=
  match previous with
  | none => false
  | some json => strictEquals (json.find? "generated_at") (next.find? "generated_at") &&
      strictEquals (json.find? "cycle") (next.find? "cycle")

def escalation (previous : Option Json) (next : Json) : Js (List Domain) :=
  match previous with
  | none => .ok []
  | some json => do
      let before ← domainSeverities json
      let after ← domainSeverities next
      return escalatedDomains before after

/-- The store is left as far as it was written where the comparison throws. -/
def acceptSnapshot (builtins : Builtins) (store : Store) (raw : Json) (source : Source)
    (seenAt : Double) : Store × Js AcceptResult :=
  match parseHealthState builtins raw with
  | .error failure =>
      if source = .network then
        ({ store with problem := some (.invalid (failure.message builtins)) }, .ok .rejected)
      else (store, .ok .rejected)
  | .ok next =>
      let shown := if source = .network then { store with problem := none, fromCache := false }
        else store
      if sameSnapshot store.snapshot next then (shown, .ok .unchanged)
      else
        match escalation store.snapshot next with
        | .error thrown => (shown, .error thrown)
        | .ok escalated =>
            ({ shown with
                escalated
                snapshot := some next
                firstSeenAt := some seenAt
                fromCache := shown.fromCache || source == .cache }, .ok .accepted)

/-- The item of the local storage, where it is JSON. -/
def loadCachedSnapshot (stored : Option Json) : Option (Json × Double) :=
  match stored with
  | some (.object members) =>
      match (Json.object members).find? "state", asNumber ((Json.object members).find? "firstSeenAt")
      with
      | some state, some firstSeenAt => some (state, firstSeenAt)
      | _, _ => none
  | _ => none

def pollIntervalMs : Nat := 5000
def reconnectInitialMs : Nat := 1000
def reconnectMaxMs : Nat := 30000

structure Location where
  protocol : String
  host : String

def Location.socketUrl (location : Location) : String :=
  let scheme := if location.protocol = "https:" then "wss:" else "ws:"
  scheme ++ "//" ++ location.host ++ "/ws/health"

structure Socket where
  url : String
  opened : Bool := false
  closed : Bool := false
  listening : Bool := true

structure Timer where
  id : Nat
  delay : Nat
  deriving DecidableEq

structure Feed where
  location : Location
  store : Store := {}
  -- The variables of the closure; a socket is named by its place in `sockets`.
  ws : Option Nat := none
  reconnectTimer : Option Nat := none
  pollTimer : Option Nat := none
  reconnectDelay : Nat := reconnectInitialMs
  stopped : Bool := false
  -- The browser: sockets made, live timers, and polls waiting for a response or its body.
  sockets : List Socket := []
  timeouts : List Timer := []
  intervals : List Timer := []
  nextTimer : Nat := 0
  fetching : Nat := 0
  reading : Nat := 0

namespace Feed

def setConnection (feed : Feed) (connection : Connection) : Feed :=
  { feed with store := { feed.store with connection } }

def reportProblem (feed : Feed) (problem : FeedProblem) : Feed :=
  { feed with store := { feed.store with problem := some problem } }

def poll (feed : Feed) : Feed := { feed with fetching := feed.fetching + 1 }

def startPolling (feed : Feed) : Feed :=
  match feed.pollTimer with
  | some _ => feed
  | none =>
      { feed with
        pollTimer := some feed.nextTimer
        intervals := feed.intervals ++ [⟨feed.nextTimer, pollIntervalMs⟩]
        nextTimer := feed.nextTimer + 1 }

def clear (timers : List Timer) (timer : Option Nat) : List Timer :=
  match timer with
  | some id => timers.filter (·.id ≠ id)
  | none => timers

def stopPolling (feed : Feed) : Feed :=
  { feed with intervals := clear feed.intervals feed.pollTimer, pollTimer := none }

def scheduleReconnect (feed : Feed) : Feed :=
  if feed.stopped || feed.reconnectTimer.isSome then feed
  else
    let feed := feed.startPolling
    { feed with
      reconnectTimer := some feed.nextTimer
      timeouts := feed.timeouts ++ [⟨feed.nextTimer, feed.reconnectDelay⟩]
      nextTimer := feed.nextTimer + 1
      reconnectDelay := min (feed.reconnectDelay * 2) reconnectMaxMs }

-- `constructed` is false where the constructor of the socket throws.
def connect (feed : Feed) (constructed : Bool) : Feed :=
  if feed.stopped then feed
  else if constructed then
    { feed with
      ws := some feed.sockets.length
      sockets := feed.sockets ++ [{ url := feed.location.socketUrl }] }
  else feed.scheduleReconnect

def onOpen (feed : Feed) : Feed :=
  (setConnection { feed with reconnectDelay := reconnectInitialMs } .live).stopPolling

-- `data` is absent where it is not JSON.
def onMessage (builtins : Builtins) (feed : Feed) (data : Option Json) (now : Double) : Feed :=
  match data with
  | none => feed.reportProblem (.invalid "a pushed update is not valid JSON")
  | some raw =>
      match acceptSnapshot builtins feed.store raw .network now with
      | (store, .ok _) => { feed with store }
      | (store, .error _) =>
          reportProblem { feed with store } (.invalid "a pushed update is not valid JSON")

def onClose (feed : Feed) : Feed :=
  let feed := { feed with ws := none }
  if feed.stopped then feed
  else
    let feed := if feed.store.connection = .live then feed.setConnection .polling else feed
    feed.scheduleReconnect

def onReconnectTimer (feed : Feed) (constructed : Bool) : Feed :=
  connect { feed with reconnectTimer := none } constructed

inductive Response where
  | failed
  | status (code : Nat)

/-- The `catch` clause of `poll`. -/
def pollFailed (feed : Feed) : Feed :=
  if feed.stopped then feed
  else if feed.store.connection ≠ .live then
    (feed.setConnection .unreachable).reportProblem .unreachable
  else feed

def markPolling (feed : Feed) : Feed :=
  if feed.store.connection ≠ .live then feed.setConnection .polling else feed

def onResponse (feed : Feed) : Response → Feed
  | .failed => feed.pollFailed
  | .status code =>
      if feed.stopped then feed
      else if code = 503 then
        let feed := feed.markPolling
        if feed.store.snapshot.isNone then feed.reportProblem .noSnapshot else feed
      else if 200 ≤ code ∧ code < 300 then { feed with reading := feed.reading + 1 }
      else feed.pollFailed

-- `body` is absent where the body is cut short or is not JSON.
def onBody (builtins : Builtins) (feed : Feed) (body : Option Json) (now : Double) : Feed :=
  match body with
  | none => feed.reportProblem (.invalid "the response is not valid JSON")
  | some raw =>
      match acceptSnapshot builtins feed.store raw .network now with
      | (store, .ok _) => markPolling { feed with store }
      | (store, .error _) => pollFailed { feed with store }

/-- The function that `startHealthFeed` returns. -/
def stop (feed : Feed) : Feed :=
  let feed := stopPolling { feed with stopped := true }
  let feed := { feed with timeouts := clear feed.timeouts feed.reconnectTimer }
  match feed.ws with
  | none => feed
  | some index =>
      { feed with sockets := feed.sockets.modify index fun socket =>
          { socket with listening := false } }

end Feed

def startHealthFeed (builtins : Builtins) (location : Location) (stored : Option Json)
    (constructed : Bool) : Feed :=
  let store :=
    match loadCachedSnapshot stored with
    | none => {}
    | some (state, firstSeenAt) => (acceptSnapshot builtins {} state .cache firstSeenAt).1
  (Feed.poll { location, store }).connect constructed

inductive FeedEvent where
  | opened (socket : Nat)
  | message (socket : Nat) (data : Option Json) (now : Double)
  | closed (socket : Nat)
  | reconnectTimer (timer : Nat) (constructed : Bool)
  | pollTimer (timer : Nat)
  | response (response : Feed.Response)
  | body (body : Option Json) (now : Double)
  | stop

/-- A socket opens at most once, closes at most once and is silent afterwards; a timer
fires while it is live, a timeout once; a poll is answered once. -/
def Feed.step (builtins : Builtins) (feed : Feed) : FeedEvent → Option Feed
  | .opened index => do
      let socket ← feed.sockets[index]?
      if socket.opened || socket.closed then none
      else
        let sockets := feed.sockets.set index { socket with opened := true }
        some (onOpen { feed with sockets })
  | .message index data now => do
      let socket ← feed.sockets[index]?
      if socket.closed then none else some (feed.onMessage builtins data now)
  | .closed index => do
      let socket ← feed.sockets[index]?
      if socket.closed then none
      else
        let sockets := feed.sockets.set index { socket with closed := true }
        some (if socket.listening then onClose { feed with sockets } else { feed with sockets })
  | .reconnectTimer timer constructed =>
      if feed.timeouts.any (·.id = timer) then
        let timeouts := feed.timeouts.filter (·.id ≠ timer)
        some (onReconnectTimer { feed with timeouts } constructed)
      else none
  | .pollTimer timer => if feed.intervals.any (·.id = timer) then some feed.poll else none
  | .response response =>
      if feed.fetching = 0 then none
      else some (onResponse { feed with fetching := feed.fetching - 1 } response)
  | .body body now =>
      if feed.reading = 0 then none
      else some (onBody builtins { feed with reading := feed.reading - 1 } body now)
  | .stop => some feed.stop

end EdgeHealthd.WebUi
