import EdgeHealthd.EventLoopCore
import EdgeHealthd.Json
import EdgeHealthd.MiddlewareCore

/-!
A click on "Collect now" on its way through the web server to the daemon: `requestCollection`
of `web/ui/src/state/feed.ts`, the routes and middleware of `web/server`, `handleTrigger` and the
shared connection of `dbusClient`. Any number of requests run beside each other, the daemon and
the bus.
-/

namespace EdgeHealthd.TriggerApi

structure ServerConfig where
  localOnly : Bool := true
  allowedOrigins : List String := []

/-- A header that is not there reads as the empty text. -/
structure Request where
  method : String
  path : String
  host : String
  remoteAddr : List Char
  origin : String := ""
  xEdgeHealth : String := ""

/-- `parseHost` is the host of the URL that `url.Parse` returns, or its error. -/
def isOriginAllowed (parseHost : String → Option String) (request : Request)
    (allowed : List String) : Bool :=
  if request.origin = "" then true
  else
    match parseHost request.origin with
    | none => false
    | some host =>
        if host = "" then false
        else if host = request.host then true
        else allowed.any fun entry => decide (host = entry)

inductive Route where
  | handleHealthAPI
  | handleTrigger
  | handleWebSocket
  | fileServer
  | methodNotAllowed
  deriving DecidableEq

/-- `setupRoutes` on a path without dots or doubled slashes, which the mux redirects away from.
A pattern for GET also takes HEAD. -/
def setupRoutes (method path : String) : Route :=
  if method = "GET" ∨ method = "HEAD" then
    if path = "/api/health" then .handleHealthAPI
    else if path = "/ws/health" then .handleWebSocket
    else .fileServer
  else if method = "POST" ∧ path = "/api/trigger" then .handleTrigger
  else .methodNotAllowed

/-- The body is what `json()` makes of it, if it is JSON at all. -/
structure Response where
  status : Nat
  body : Option Json

def errorBody (text : String) : Option Json := some (.object [("error", .string text)])

namespace Response

def forbiddenOrigin : Response := ⟨403, errorBody "forbidden: origin not allowed"⟩

def missingHeader : Response := ⟨403, errorBody "forbidden: missing X-Edge-Health header"⟩

def busUnavailable : Response := ⟨503, errorBody "D-Bus system bus unavailable"⟩

def badGateway (text : String) : Response := ⟨502, errorBody text⟩

def unexpectedReply : Response := ⟨500, errorBody "unexpected response from daemon"⟩

def triggered (value : Bool) : Response := ⟨200, some (.object [("triggered", .boolean value)])⟩

end Response

inductive CollectOutcome where
  | requested
  | rateLimited
  | unavailable
  deriving DecidableEq

/-- What the page says about a response, or about none at all. -/
def requestCollection : Option Response → CollectOutcome
  | none => .unavailable
  | some response =>
      if response.status < 200 ∨ 300 ≤ response.status then .unavailable
      else
        match response.body with
        -- Reading a member of null throws too.
        | none | some .null => .unavailable
        | some body =>
            match body.find? "triggered" with
            | some (.boolean true) => .requested
            | _ => .rateLimited

/-- A connection to the system bus: whether it works, and whether `Close` was called. -/
structure BusConn where
  connected : Bool := true
  closed : Bool := false
  deriving DecidableEq

/-- Every connection that was ever dialled, and the one the client holds. -/
structure DbusClient where
  conns : List BusConn := []
  conn : Option Nat := none

namespace DbusClient

def closeConn (client : DbusClient) (index : Nat) : DbusClient :=
  { client with conns := client.conns.set index { connected := false, closed := true } }

/-- `close`, and what `get` does with a connection that is no longer connected. -/
def close (client : DbusClient) : DbusClient :=
  match client.conn with
  | none => client
  | some index => { client.closeConn index with conn := none }

def isConnected (client : DbusClient) (index : Nat) : Bool :=
  client.conns[index]?.any BusConn.connected

def dial (client : DbusClient) : DbusClient :=
  { conns := client.conns ++ [{}], conn := some client.conns.length }

/-- `dialled` tells whether `ConnectSystemBus` succeeds if it is called. -/
def get (client : DbusClient) (dialled : Bool) : DbusClient × Option Nat :=
  match client.conn.filter client.isConnected with
  | some index => (client, some index)
  | none =>
      if dialled then (client.close.dial, some client.conns.length) else (client.close, none)

def lose (client : DbusClient) (index : Nat) : Option DbusClient :=
  if client.isConnected index then
    some { client with conns := client.conns.modify index fun conn =>
      { conn with connected := false } }
  else none

end DbusClient

inductive Progress where
  | arrived
  | elsewhere
  | getting
  | calling (conn : Nat)
  | replied (accepted : Bool)
  | answered (response : Response)

/-- The middleware, the mux and the checks of `handleTrigger`. -/
def handleRequest (config : ServerConfig) (parseHost : String → Option String) (request : Request) :
    Progress :=
  match if config.localOnly then localOnlyMiddleware request.remoteAddr else .next with
  | .error _ code => .answered ⟨code, none⟩
  | .next =>
      if setupRoutes request.method request.path ≠ .handleTrigger then .elsewhere
      else if !isOriginAllowed parseHost request config.allowedOrigins then
        .answered .forbiddenOrigin
      else if request.xEdgeHealth ≠ "1" then .answered .missingHeader
      else .getting

structure Click where
  request : Request
  progress : Progress := .arrived

structure Answer where
  click : Nat
  now : SteadyTime
  accepted : Bool

structure Network where
  daemon : System
  client : DbusClient
  clicks : List Click := []
  answers : List Answer := []

inductive NetworkAction where
  -- Any step of the daemon, also for another caller on the bus.
  | daemon (action : Action)
  | arrive (request : Request)
  | handle (click : Nat)
  | get (click : Nat) (dialled : Bool)
  -- The daemon runs the callback for the call of this request.
  | call (click : Nat) (now : SteadyTime)
  | reply (click : Nat)
  -- `call.Err`: nobody owns the name, a timeout, a lost connection.
  | fail (click : Nat) (error : String)
  -- Whoever owns the name replies with something else than a boolean.
  | foreignReply (click : Nat)
  | lose (conn : Nat)
  | shutdown

namespace Network

variable (config : Config) (loadPct : CpuLoad → Double) (server : ServerConfig)
  (parseHost : String → Option String)

def setProgress (network : Network) (index : Nat) (progress : Progress) : Network :=
  { network with clicks := network.clicks.modify index fun click => { click with progress } }

def progress (network : Network) (index : Nat) : Option Progress :=
  network.clicks[index]?.map Click.progress

def start (daemon : System) (dialled : Bool) : Network where
  daemon := daemon
  client := (DbusClient.get {} dialled).1

def step (network : Network) : NetworkAction → Option Network
  | .daemon action => do
      let daemon ← EdgeHealthd.step config loadPct network.daemon action
      some { network with daemon }
  | .arrive request => some { network with clicks := network.clicks ++ [{ request }] }
  | .handle index => do
      let click ← network.clicks[index]?
      match click.progress with
      | .arrived => some (network.setProgress index (handleRequest server parseHost click.request))
      | _ => none
  | .get index dialled =>
      match network.progress index with
      | some .getting =>
          let (client, conn) := network.client.get dialled
          some (({ network with client }).setProgress index (match conn with
            | some conn => .calling conn
            | none => .answered .busUnavailable))
      | _ => none
  | .call index now =>
      match network.progress index with
      | some (.calling _) => do
          let daemon ← EdgeHealthd.step config loadPct network.daemon (.bus (.triggerSnapshot now))
          let accepted := !triggerLimited config network.daemon now
          some (({ network with
            daemon, answers := network.answers ++ [Answer.mk index now accepted] }).setProgress index
              (.replied accepted))
      | _ => none
  | .reply index =>
      match network.progress index with
      | some (.replied accepted) =>
          some (network.setProgress index (.answered (.triggered accepted)))
      | _ => none
  | .fail index error =>
      match network.progress index with
      -- The reply may get lost after the daemon has acted.
      | some (.calling _) | some (.replied _) =>
          some (network.setProgress index (.answered (.badGateway error)))
      | _ => none
  | .foreignReply index =>
      match network.progress index with
      | some (.calling _) => some (network.setProgress index (.answered .unexpectedReply))
      | _ => none
  | .lose conn => (network.client.lose conn).map fun client => { network with client }
  | .shutdown => some { network with client := network.client.close }

end Network

end EdgeHealthd.TriggerApi
