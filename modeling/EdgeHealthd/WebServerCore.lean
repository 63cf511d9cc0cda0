import EdgeHealthd.Types
import EdgeHealthd.Library.Machine

/-!
The web server as it runs: the watcher and its loads (`watcher.go`), the hub and the
pumps (`websocket.go`), the handlers and the state cache (`handlers.go`, `server.go`),
interleaved one operation on shared data at a time. A load, a handler and a pump are
named by what they do next. Times are in nanoseconds.
-/

namespace EdgeHealthd.WebServer

/-- What one replacement of the state file put there; the number counts replacements. -/
structure FileVersion where
  number : Nat
  content : ByteString
  mtime : Int
  deriving DecidableEq

/-- What `StateCache` holds: the bytes of the version read, the time of the version
seen by `Stat`. -/
structure Cached where
  data : FileVersion
  mtime : Int
  deriving DecidableEq

inductive Load where
  | reading
  | statting (data : FileVersion)
  | storing (data : FileVersion) (mtime : Int)
  | broadcasting (data : FileVersion)
  | returned
  deriving DecidableEq

inductive Watcher where
  | starting
  | watching (timerArmed : Bool)
  -- In `pollLoop`, with the latest load it called.
  | polling (lastMtime : Int) (load : Nat)
  | returned
  deriving DecidableEq

/-- `WebSocketHub.Run`: at its select, in one of its two loops over the clients, or done. -/
inductive Hub where
  | selecting
  | delivering (message : FileVersion) (remaining : List Nat)
  | closing
  | returned
  deriving DecidableEq

/-- `handleWebSocket` once the connection is upgraded. -/
inductive Handler where
  | registering
  | startingPumps
  | gettingState
  | sending (data : FileVersion)
  | returned
  deriving DecidableEq

inductive ReadPump where
  | notStarted
  | reading
  | unregistering
  | returned
  deriving DecidableEq

inductive WritePump where
  | notStarted
  | running
  | returned
  deriving DecidableEq

/-- What happened to a send channel. A send after a close panics and queues nothing. -/
inductive ChannelEvent where
  | sent (data : FileVersion)
  | closed
  deriving DecidableEq

structure Client where
  handler : Handler := .registering
  readPump : ReadPump := .notStarted
  writePump : WritePump := .notStarted
  trace : List ChannelEvent := []
  -- How many messages the write pump has taken from the channel.
  received : Nat := 0

namespace Client

def closed (client : Client) : Bool := client.trace.contains .closed

def queued (client : Client) : List FileVersion :=
  (client.trace.takeWhile (· ≠ .closed)).filterMap fun
    | .sent data => some data
    | .closed => none

def full (client : Client) : Bool := client.received + 256 ≤ client.queued.length

def send (client : Client) (data : FileVersion) : Client :=
  { client with trace := client.trace ++ [.sent data] }

def close (client : Client) : Client := { client with trace := client.trace ++ [.closed] }

end Client

-- The zero `time.Time`, the first of January of year 1.
def zeroTime : Int := -62135596800000000000

structure Server where
  file : Option FileVersion := none
  replacements : Nat := 0
  -- File events of the directory that the watcher has not read.
  events : Nat := 0
  watcher : Watcher := .starting
  loads : List Load := [.reading]
  cache : Option Cached := none
  stored : List Cached := []
  broadcast : List FileVersion := []
  hub : Hub := .selecting
  -- The map of the hub; a client is named by its place in `clients`.
  registered : List Nat := []
  clients : List Client := []
  cancelled : Bool := false

inductive LoadStep where
  -- `ReadFile` or `Stat` returns an error.
  | fail
  | proceed
  deriving DecidableEq

inductive WatchStep where
  | start (added : Bool)
  | event
  | timer
  | tick
  | cancel
  deriving DecidableEq

inductive HubStep where
  | register (client : Nat)
  | unregister (client : Nat)
  | receive
  | deliver (client : Nat)
  | delivered
  | cancel
  | close (client : Nat)
  | done
  deriving DecidableEq

inductive ClientStep where
  | startPumps
  | getState
  | sendState
  | readError
  | takeMessage
  | writeError
  deriving DecidableEq

inductive Action where
  -- The daemon renames a new file into place.
  | replaceFile (content : ByteString) (mtime : Int)
  | removeFile
  | cancelContext
  | connect
  | watch (step : WatchStep)
  | load (index : Nat) (step : LoadStep)
  | hub (step : HubStep)
  | client (index : Nat) (step : ClientStep)
  deriving DecidableEq

namespace Server

def setLoad (server : Server) (index : Nat) (load : Load) : Server :=
  { server with loads := server.loads.set index load }

def setClient (server : Server) (index : Nat) (client : Client) : Server :=
  { server with clients := server.clients.set index client }

def setCache (server : Server) (data : FileVersion) (mtime : Int) : Server :=
  { server with cache := some ⟨data, mtime⟩, stored := server.stored ++ [⟨data, mtime⟩] }

def broadcastData (server : Server) (data : FileVersion) : Server :=
  if server.broadcast.length < 16 then { server with broadcast := server.broadcast ++ [data] }
  else server

def stepLoad (server : Server) (index : Nat) (step : LoadStep) : Option Server := do
  match ← server.loads[index]?, step with
  | .reading, .fail => some (server.setLoad index .returned)
  | .reading, .proceed => do
      let file ← server.file
      some (server.setLoad index (.statting file))
  | .statting _, .fail => some (server.setLoad index .returned)
  | .statting data, .proceed => do
      let file ← server.file
      some (server.setLoad index (.storing data file.mtime))
  | .storing data mtime, .proceed =>
      some ((server.setCache data mtime).setLoad index (.broadcasting data))
  | .broadcasting data, .proceed => some ((server.broadcastData data).setLoad index .returned)
  | .storing _ _, .fail | .broadcasting _, .fail | .returned, _ => none

def startLoad (server : Server) : Server := { server with loads := server.loads ++ [.reading] }

def loadReturned (server : Server) (index : Nat) : Bool :=
  server.loads[index]? == some .returned

def stepWatch (server : Server) : WatchStep → Option Server
  | .start added =>
      if server.watcher = .starting ∧ server.loadReturned 0 then
        some { server with watcher := if added then .watching false else .polling zeroTime 0 }
      else none
  | .event =>
      match server.watcher with
      | .watching _ =>
          if server.events = 0 then none
          else some { server with events := server.events - 1, watcher := .watching true }
      | .starting | .polling _ _ | .returned => none
  | .timer =>
      match server.watcher with
      | .watching true => some (startLoad { server with watcher := .watching false })
      | .watching false | .starting | .polling _ _ | .returned => none
  | .tick =>
      match server.watcher, server.file with
      | .polling lastMtime load, some file =>
          if server.loadReturned load && file.mtime > lastMtime then
            some (startLoad { server with watcher := .polling file.mtime server.loads.length })
          else none
      | _, _ => none
  | .cancel =>
      match server.watcher with
      | .watching _ => if server.cancelled then some { server with watcher := .returned } else none
      | .polling _ load =>
          if server.cancelled && server.loadReturned load then
            some { server with watcher := .returned }
          else none
      | .starting | .returned => none

def closeClient (server : Server) (index : Nat) (client : Client) : Server :=
  { server.setClient index client.close with
    registered := server.registered.filter (· ≠ index) }

def stepHub (server : Server) : HubStep → Option Server
  | .register index => do
      let client ← server.clients[index]?
      if server.hub = .selecting ∧ client.handler = .registering then
        some { server.setClient index { client with handler := .startingPumps } with
          registered := server.registered ++ [index] }
      else none
  | .unregister index => do
      let client ← server.clients[index]?
      if server.hub = .selecting ∧ client.readPump = .unregistering then
        let client := { client with readPump := .returned }
        if index ∈ server.registered then some (server.closeClient index client)
        else some (server.setClient index client)
      else none
  | .receive =>
      match server.hub, server.broadcast with
      | .selecting, message :: rest =>
          some { server with broadcast := rest, hub := .delivering message server.registered }
      | _, _ => none
  | .deliver index =>
      match server.hub with
      | .delivering message remaining => do
          let client ← server.clients[index]?
          if index ∈ remaining then
            let hub := .delivering message (remaining.filter (· ≠ index))
            if client.full then some { server.closeClient index client with hub }
            else some { server.setClient index (client.send message) with hub }
          else none
      | .selecting | .closing | .returned => none
  | .delivered =>
      match server.hub with
      | .delivering _ [] => some { server with hub := .selecting }
      | _ => none
  | .cancel =>
      if server.hub = .selecting ∧ server.cancelled then some { server with hub := .closing }
      else none
  | .close index => do
      let client ← server.clients[index]?
      if server.hub = .closing ∧ index ∈ server.registered then
        some (server.closeClient index client)
      else none
  | .done =>
      if server.hub = .closing ∧ server.registered = [] then some { server with hub := .returned }
      else none

def stepClient (server : Server) (index : Nat) (step : ClientStep) : Option Server := do
  let client ← server.clients[index]?
  match step with
  | .startPumps =>
      if client.handler = .startingPumps then
        some (server.setClient index
          { client with handler := .gettingState, writePump := .running, readPump := .reading })
      else none
  | .getState =>
      if client.handler = .gettingState then
        match server.cache with
        | some cached =>
            some (server.setClient index { client with handler := .sending cached.data })
        | none => some (server.setClient index { client with handler := .returned })
      else none
  | .sendState =>
      match client.handler with
      -- The send waits for room; on a closed channel it panics.
      | .sending data =>
          if client.full && !client.closed then none
          else some (server.setClient index { client.send data with handler := .returned })
      | _ => none
  | .readError =>
      if client.readPump = .reading then
        some (server.setClient index { client with readPump := .unregistering })
      else none
  | .takeMessage =>
      if client.writePump = .running then
        if client.received < client.queued.length then
          some (server.setClient index { client with received := client.received + 1 })
        else if client.closed then
          some (server.setClient index { client with writePump := .returned })
        else none
      else none
  | .writeError =>
      if client.writePump = .running then
        some (server.setClient index { client with writePump := .returned })
      else none

def step (server : Server) : Action → Option Server
  | .replaceFile content mtime =>
      some { server with
        file := some ⟨server.replacements + 1, content, mtime⟩
        replacements := server.replacements + 1
        events := match server.watcher with
          | .watching _ => server.events + 1
          | .starting | .polling _ _ | .returned => server.events }
  | .removeFile => some { server with file := none }
  | .cancelContext => some { server with cancelled := true }
  | .connect => some { server with clients := server.clients ++ [{}] }
  | .watch step => server.stepWatch step
  | .load index step => server.stepLoad index step
  | .hub step => server.stepHub step
  | .client index step => server.stepClient index step

end Server

-- The text of `http.TimeFormat` names a second of UTC.
structure HttpDate where
  seconds : Int
  deriving DecidableEq

def format (time : Int) : HttpDate := ⟨time / 1000000000⟩

/-- Only years of four digits are read back. -/
def parse (date : HttpDate) : Option Int :=
  if -62167219200 ≤ date.seconds ∧ date.seconds ≤ 253402300799 then
    some (date.seconds * 1000000000)
  else none

def truncate (time : Int) : Int := time / 1000000000 * 1000000000

inductive Response where
  | serviceUnavailable
  | notModified (lastModified : HttpDate)
  | ok (lastModified : HttpDate) (body : ByteString)
  deriving DecidableEq

-- A header that is not a date of the format is a date that does not parse.
def handleHealthAPI (cache : Option Cached) (ifModifiedSince : Option HttpDate) : Response :=
  match cache with
  | none => .serviceUnavailable
  | some cached =>
      match ifModifiedSince.bind parse with
      | some time =>
          if truncate cached.mtime = truncate time ∨ cached.mtime < time then
            .notModified (format cached.mtime)
          else .ok (format cached.mtime) cached.data.content
      | none => .ok (format cached.mtime) cached.data.content

end EdgeHealthd.WebServer
