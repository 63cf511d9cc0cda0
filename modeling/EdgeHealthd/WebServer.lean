import EdgeHealthd.WebServerCore
import EdgeHealthd.Library.Tables

/-!
What one step of the server can do, part by part: a load, the watcher, the hub and a
client. The invariants of the following modules are proved from these cases.
-/

namespace EdgeHealthd.WebServer

open Machine Table

section Steps

variable {server next : Server} {index : Nat}

inductive LoadAdvance (server : Server) (index : Nat) : LoadStep → Server → Prop
  | fail (load : Load) (found : server.loads[index]? = some load)
      (early : load = .reading ∨ ∃ data, load = .statting data) :
      LoadAdvance server index .fail (server.setLoad index .returned)
  | read (file : FileVersion) (found : server.loads[index]? = some .reading)
      (present : server.file = some file) :
      LoadAdvance server index .proceed (server.setLoad index (.statting file))
  | stat (data file : FileVersion) (found : server.loads[index]? = some (.statting data))
      (present : server.file = some file) :
      LoadAdvance server index .proceed (server.setLoad index (.storing data file.mtime))
  | store (data : FileVersion) (mtime : Int)
      (found : server.loads[index]? = some (.storing data mtime)) :
      LoadAdvance server index .proceed
        ((server.setCache data mtime).setLoad index (.broadcasting data))
  | broadcast (data : FileVersion) (found : server.loads[index]? = some (.broadcasting data)) :
      LoadAdvance server index .proceed ((server.broadcastData data).setLoad index .returned)

theorem stepLoad_advance {step : LoadStep} (taken : server.stepLoad index step = some next) :
    LoadAdvance server index step next := by
  obtain ⟨load, found, rest⟩ := Option.bind_eq_some_iff.mp taken
  cases load with
  | reading =>
      cases step with
      | fail =>
          obtain rfl := Option.some.inj rest
          exact .fail .reading found (Or.inl rfl)
      | proceed =>
          obtain ⟨file, present, done⟩ := Option.bind_eq_some_iff.mp rest
          obtain rfl := Option.some.inj done
          exact .read file found present
  | statting data =>
      cases step with
      | fail =>
          obtain rfl := Option.some.inj rest
          exact .fail (.statting data) found (Or.inr ⟨data, rfl⟩)
      | proceed =>
          obtain ⟨file, present, done⟩ := Option.bind_eq_some_iff.mp rest
          obtain rfl := Option.some.inj done
          exact .stat data file found present
  | storing data mtime =>
      cases step with
      | fail => cases rest
      | proceed =>
          obtain rfl := Option.some.inj rest
          exact .store data mtime found
  | broadcasting data =>
      cases step with
      | fail => cases rest
      | proceed =>
          obtain rfl := Option.some.inj rest
          exact .broadcast data found
  | returned => cases rest

theorem broadcastData_clients (data : FileVersion) :
    (server.broadcastData data).clients = server.clients := by
  rw [Server.broadcastData]
  split <;> rfl

theorem LoadAdvance.clients {step : LoadStep} (advance : LoadAdvance server index step next) :
    next.clients = server.clients := by
  cases advance with
  | fail | read | stat | store => rfl
  | broadcast data found => exact broadcastData_clients data

theorem stepWatch_cases {step : WatchStep} (taken : server.stepWatch step = some next) :
    ∃ events watcher, next = { server with events, watcher } ∨
      next = Server.startLoad { server with events, watcher } := by
  cases step with
  | start added =>
      rw [Server.stepWatch] at taken
      split at taken
      · exact ⟨_, _, Or.inl (Option.some.inj taken).symm⟩
      · cases taken
  | event =>
      simp only [Server.stepWatch] at taken
      split at taken
      · split at taken
        · cases taken
        · exact ⟨_, _, Or.inl (Option.some.inj taken).symm⟩
      all_goals cases taken
  | timer =>
      simp only [Server.stepWatch] at taken
      split at taken
      · exact ⟨_, _, Or.inr (Option.some.inj taken).symm⟩
      all_goals cases taken
  | tick =>
      simp only [Server.stepWatch] at taken
      split at taken
      · split at taken
        · exact ⟨_, _, Or.inr (Option.some.inj taken).symm⟩
        · cases taken
      · cases taken
  | cancel =>
      simp only [Server.stepWatch] at taken
      split at taken
      · split at taken
        · exact ⟨_, _, Or.inl (Option.some.inj taken).symm⟩
        · cases taken
      · split at taken
        · exact ⟨_, _, Or.inl (Option.some.inj taken).symm⟩
        · cases taken
      all_goals cases taken

inductive HubAdvance (server : Server) : HubStep → Server → Prop
  | register (index : Nat) (client : Client) (found : server.clients[index]? = some client)
      (selecting : server.hub = .selecting) (registering : client.handler = .registering) :
      HubAdvance server (.register index)
        { server.setClient index { client with handler := .startingPumps } with
          registered := server.registered ++ [index] }
  | unregister (index : Nat) (client : Client) (found : server.clients[index]? = some client)
      (selecting : server.hub = .selecting) (member : index ∈ server.registered) :
      HubAdvance server (.unregister index)
        (server.closeClient index { client with readPump := .returned })
  | forgotten (index : Nat) (client : Client) (found : server.clients[index]? = some client)
      (selecting : server.hub = .selecting) :
      HubAdvance server (.unregister index)
        (server.setClient index { client with readPump := .returned })
  | receive (message : FileVersion) (rest : List FileVersion) (selecting : server.hub = .selecting)
      (queue : server.broadcast = message :: rest) :
      HubAdvance server .receive
        { server with broadcast := rest, hub := .delivering message server.registered }
  | overflow (index : Nat) (client : Client) (message : FileVersion) (remaining : List Nat)
      (found : server.clients[index]? = some client)
      (delivering : server.hub = .delivering message remaining) (member : index ∈ remaining)
      (full : client.full = true) :
      HubAdvance server (.deliver index)
        { server.closeClient index client with
          hub := .delivering message (remaining.filter (· ≠ index)) }
  | deliver (index : Nat) (client : Client) (message : FileVersion) (remaining : List Nat)
      (found : server.clients[index]? = some client)
      (delivering : server.hub = .delivering message remaining) (member : index ∈ remaining) :
      HubAdvance server (.deliver index)
        { server.setClient index (client.send message) with
          hub := .delivering message (remaining.filter (· ≠ index)) }
  | delivered (message : FileVersion) (delivering : server.hub = .delivering message []) :
      HubAdvance server .delivered { server with hub := .selecting }
  | cancel (selecting : server.hub = .selecting) :
      HubAdvance server .cancel { server with hub := .closing }
  | close (index : Nat) (client : Client) (found : server.clients[index]? = some client)
      (closing : server.hub = .closing) (member : index ∈ server.registered) :
      HubAdvance server (.close index) (server.closeClient index client)
  | done (closing : server.hub = .closing) :
      HubAdvance server .done { server with hub := .returned }

theorem stepHub_advance {step : HubStep} (taken : server.stepHub step = some next) :
    HubAdvance server step next := by
  cases step with
  | register index =>
      obtain ⟨client, found, rest⟩ := Option.bind_eq_some_iff.mp taken
      split at rest
      · rename_i guards
        obtain rfl := Option.some.inj rest
        exact .register index client found guards.1 guards.2
      · cases rest
  | unregister index =>
      obtain ⟨client, found, rest⟩ := Option.bind_eq_some_iff.mp taken
      split at rest
      · rename_i guards
        dsimp only at rest
        split at rest
        · rename_i member
          obtain rfl := Option.some.inj rest
          exact .unregister index client found guards.1 member
        · obtain rfl := Option.some.inj rest
          exact .forgotten index client found guards.1
      · cases rest
  | receive =>
      simp only [Server.stepHub] at taken
      split at taken
      · rename_i message rest selecting queue
        obtain rfl := Option.some.inj taken
        exact .receive message rest selecting queue
      · cases taken
  | deliver index =>
      simp only [Server.stepHub] at taken
      split at taken
      · rename_i message remaining delivering
        obtain ⟨client, found, rest⟩ := Option.bind_eq_some_iff.mp taken
        split at rest
        · rename_i member
          split at rest
          · rename_i full
            obtain rfl := Option.some.inj rest
            exact .overflow index client message remaining found delivering member full
          · obtain rfl := Option.some.inj rest
            exact .deliver index client message remaining found delivering member
        · cases rest
      all_goals cases taken
  | delivered =>
      simp only [Server.stepHub] at taken
      split at taken
      · rename_i message delivering
        obtain rfl := Option.some.inj taken
        exact .delivered message delivering
      · cases taken
  | cancel =>
      simp only [Server.stepHub] at taken
      split at taken
      · rename_i guards
        obtain rfl := Option.some.inj taken
        exact .cancel guards.1
      · cases taken
  | close index =>
      obtain ⟨client, found, rest⟩ := Option.bind_eq_some_iff.mp taken
      split at rest
      · rename_i guards
        obtain rfl := Option.some.inj rest
        exact .close index client found guards.1 guards.2
      · cases rest
  | done =>
      simp only [Server.stepHub] at taken
      split at taken
      · rename_i guards
        obtain rfl := Option.some.inj taken
        exact .done guards.1
      · cases taken

inductive ClientAdvance (server : Server) (index : Nat) (client : Client) :
    ClientStep → Client → Prop
  | pump (step : ClientStep) (readPump : ReadPump) (writePump : WritePump) (received : Nat) :
      ClientAdvance server index client step { client with readPump, writePump, received }
  | startPumps (starting : client.handler = .startingPumps) :
      ClientAdvance server index client .startPumps
        { client with handler := .gettingState, writePump := .running, readPump := .reading }
  | getState (cached : Cached) (getting : client.handler = .gettingState)
      (held : server.cache = some cached) :
      ClientAdvance server index client .getState { client with handler := .sending cached.data }
  | noState (getting : client.handler = .gettingState) (empty : server.cache = none) :
      ClientAdvance server index client .getState { client with handler := .returned }
  | sendState (data : FileVersion) (sending : client.handler = .sending data) :
      ClientAdvance server index client .sendState { client.send data with handler := .returned }

theorem stepClient_advance {step : ClientStep} (taken : server.stepClient index step = some next) :
    ∃ client changed, server.clients[index]? = some client ∧
      ClientAdvance server index client step changed ∧ next = server.setClient index changed := by
  obtain ⟨client, found, rest⟩ := Option.bind_eq_some_iff.mp taken
  refine ⟨client, ?_⟩
  cases step with
  | startPumps =>
      dsimp only at rest
      split at rest
      · rename_i starting
        exact ⟨_, found, .startPumps starting, (Option.some.inj rest).symm⟩
      · cases rest
  | getState =>
      dsimp only at rest
      split at rest
      · rename_i getting
        split at rest
        · rename_i cached held
          exact ⟨_, found, .getState cached getting held, (Option.some.inj rest).symm⟩
        · rename_i empty
          exact ⟨_, found, .noState getting empty, (Option.some.inj rest).symm⟩
      · cases rest
  | sendState =>
      dsimp only at rest
      split at rest
      · rename_i data sending
        split at rest
        · cases rest
        · exact ⟨_, found, .sendState data sending, (Option.some.inj rest).symm⟩
      · cases rest
  | readError =>
      dsimp only at rest
      split at rest
      · exact ⟨_, found, .pump _ .unregistering client.writePump client.received,
          (Option.some.inj rest).symm⟩
      · cases rest
  | takeMessage =>
      dsimp only at rest
      split at rest
      · split at rest
        · exact ⟨_, found, .pump _ client.readPump client.writePump (client.received + 1),
            (Option.some.inj rest).symm⟩
        · split at rest
          · exact ⟨_, found, .pump _ client.readPump .returned client.received,
              (Option.some.inj rest).symm⟩
          · cases rest
      · cases rest
  | writeError =>
      dsimp only at rest
      split at rest
      · exact ⟨_, found, .pump _ client.readPump .returned client.received,
          (Option.some.inj rest).symm⟩
      · cases rest

end Steps

end EdgeHealthd.WebServer
