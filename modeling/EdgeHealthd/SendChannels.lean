import EdgeHealthd.WebServer

/-!
The send channels of the clients. The hub closes a channel once and only while it owns
it; a handler sends on a channel it has handed over, so a send can come too late. It
does not where the hub and the handler keep out of each other's way.
-/

namespace EdgeHealthd.WebServer

open Machine Table

def NoLateSend (trace : List ChannelEvent) : Prop :=
  trace.Pairwise fun earlier later => earlier = .closed → ∀ data, later ≠ .sent data

theorem closed_eq_false_iff (client : Client) :
    client.closed = false ↔ ChannelEvent.closed ∉ client.trace := by
  simp [Client.closed]

theorem NoLateSend.close {client : Client} (ordered : NoLateSend client.trace) :
    NoLateSend client.close.trace := by
  refine List.pairwise_append.mpr ⟨ordered, List.pairwise_singleton _ _, ?_⟩
  intro earlier _ later member _ data
  obtain rfl := List.mem_singleton.mp member
  exact ChannelEvent.noConfusion

theorem NoLateSend.send {client : Client} (ordered : NoLateSend client.trace)
    (unclosed : client.closed = false) (data : FileVersion) :
    NoLateSend (client.send data).trace := by
  refine List.pairwise_append.mpr ⟨ordered, List.pairwise_singleton _ _, ?_⟩
  rintro earlier member later _ rfl
  exact absurd member ((closed_eq_false_iff client).mp unclosed)

theorem count_closed_close {client : Client} (unclosed : client.closed = false) :
    client.close.trace.count .closed = 1 := by
  have none : client.trace.count .closed = 0 :=
    List.count_eq_zero.mpr ((closed_eq_false_iff client).mp unclosed)
  simp [Client.close, none]

theorem closed_send (client : Client) (data : FileVersion) :
    (client.send data).closed = client.closed := by
  simp [Client.closed, Client.send]

theorem count_closed_send (client : Client) (data : FileVersion) :
    (client.send data).trace.count .closed = client.trace.count .closed := by
  simp [Client.send]

/-- The channels in the map of the hub and those on their way there are open, and no
channel was closed twice. -/
structure Owned (server : Server) : Prop where
  registered : ∀ index ∈ server.registered, ∃ client, server.clients[index]? = some client ∧
    client.closed = false ∧ client.handler ≠ .registering
  remaining : ∀ message remaining, server.hub = .delivering message remaining →
    ∀ index ∈ remaining, index ∈ server.registered
  fresh : Everywhere (fun _ client => client.handler = .registering → client.closed = false)
    server.clients
  once : Everywhere (fun _ client => client.trace.count .closed ≤ 1) server.clients

section Owned

variable {server next : Server} {index : Nat} {client changed : Client}

theorem Owned.open_of_registered (owned : Owned server)
    (found : server.clients[index]? = some client) (member : index ∈ server.registered) :
    client.closed = false ∧ client.handler ≠ .registering := by
  obtain ⟨other, read, unclosed⟩ := owned.registered index member
  obtain rfl := Option.some.inj (read.symm.trans found)
  exact unclosed

theorem Owned.setClient (owned : Owned server) (found : server.clients[index]? = some client)
    (closed : changed.closed = client.closed)
    (count : changed.trace.count .closed = client.trace.count .closed)
    (handler : changed.handler = .registering → client.handler = .registering) :
    Owned (server.setClient index changed) where
  registered := by
    intro place member
    obtain ⟨other, read, unclosed, started⟩ := owned.registered place member
    by_cases same : place = index
    · subst same
      obtain rfl := Option.some.inj (read.symm.trans found)
      exact ⟨changed, set_read found, closed.trans unclosed, fun back => started (handler back)⟩
    · exact ⟨other, (set_read_of_ne same).trans read, unclosed, started⟩
  remaining := owned.remaining
  fresh := owned.fresh.set fun registering => by
    rw [closed]
    exact owned.fresh index client found (handler registering)
  once := owned.once.set (by rw [count]; exact owned.once index client found)

theorem Owned.closeClient (owned : Owned server) (found : server.clients[index]? = some client)
    (member : index ∈ server.registered) (readPump : ReadPump) (hub : Hub)
    (others : ∀ message remaining, hub = .delivering message remaining →
      ∀ place ∈ remaining, place ∈ server.registered ∧ place ≠ index) :
    Owned { server.closeClient index { client with readPump } with hub } := by
  obtain ⟨unclosed, started⟩ := owned.open_of_registered found member
  exact {
    registered := by
      intro place kept
      obtain ⟨before, distinct⟩ := List.mem_filter.mp kept
      have distinct : place ≠ index := by simpa using distinct
      obtain ⟨other, read, rest⟩ := owned.registered place before
      exact ⟨other, (set_read_of_ne distinct).trans read, rest⟩
    remaining := by
      intro message remaining delivering place waiting
      obtain ⟨before, distinct⟩ := others message remaining delivering place waiting
      exact List.mem_filter.mpr ⟨before, by simpa using distinct⟩
    fresh := owned.fresh.set fun registering => absurd registering started
    once := owned.once.set (Nat.le_of_eq (count_closed_close unclosed)) }

theorem Owned.loadStep (owned : Owned server) {step : LoadStep}
    (advance : LoadAdvance server index step next) : Owned next := by
  cases advance with
  | fail | read | stat | store => exact ⟨owned.registered, owned.remaining, owned.fresh, owned.once⟩
  | broadcast data found =>
      rw [Server.broadcastData]
      split
      · exact ⟨owned.registered, owned.remaining, owned.fresh, owned.once⟩
      · exact ⟨owned.registered, owned.remaining, owned.fresh, owned.once⟩

theorem Owned.hubStep (owned : Owned server) {step : HubStep} (advance : HubAdvance server step next) :
    Owned next := by
  have notDelivering : ∀ {hub : Hub} {message : FileVersion} {remaining : List Nat},
      hub = .selecting ∨ hub = .closing → hub = .delivering message remaining → False := by
    rintro hub message remaining (rfl | rfl) delivering <;> cases delivering
  cases advance with
  | register index client found selecting registering =>
      have unclosed := owned.fresh index client found registering
      exact {
        registered := by
          intro place member
          rcases List.mem_append.mp member with earlier | added
          · obtain ⟨other, read, rest⟩ := owned.registered place earlier
            by_cases same : place = index
            · subst same
              exact ⟨_, set_read found, unclosed, by simp⟩
            · exact ⟨other, (set_read_of_ne same).trans read, rest⟩
          · obtain rfl := List.mem_singleton.mp added
            exact ⟨_, set_read found, unclosed, by simp⟩
        remaining := fun message remaining delivering =>
          (notDelivering (Or.inl selecting) delivering).elim
        fresh := owned.fresh.set (by simp)
        once := owned.once.set (owned.once index client found) }
  | unregister index client found selecting member =>
      exact owned.closeClient found member .returned server.hub fun message remaining delivering =>
        (notDelivering (Or.inl selecting) delivering).elim
  | forgotten index client found selecting =>
      exact owned.setClient found rfl rfl id
  | receive message rest selecting queue =>
      refine ⟨owned.registered, ?_, owned.fresh, owned.once⟩
      intro other remaining delivering
      obtain ⟨rfl, rfl⟩ := Hub.delivering.inj delivering
      exact fun index member => member
  | overflow index client message remaining found delivering member full =>
      have inMap := owned.remaining message remaining delivering
      refine owned.closeClient found (inMap index member) client.readPump _ ?_
      intro other left same place waiting
      obtain ⟨rfl, rfl⟩ := Hub.delivering.inj same
      obtain ⟨before, distinct⟩ := List.mem_filter.mp waiting
      exact ⟨inMap place before, by simpa using distinct⟩
  | deliver index client message remaining found delivering member =>
      have sent := owned.setClient found (closed_send client message)
        (count_closed_send client message) id
      refine ⟨sent.registered, ?_, sent.fresh, sent.once⟩
      intro other left same place waiting
      obtain ⟨rfl, rfl⟩ := Hub.delivering.inj same
      exact owned.remaining message remaining delivering place (List.mem_filter.mp waiting).1
  | delivered message delivering =>
      exact ⟨owned.registered, nofun, owned.fresh, owned.once⟩
  | cancel selecting =>
      exact ⟨owned.registered, nofun, owned.fresh, owned.once⟩
  | close index client found closing member =>
      exact owned.closeClient found member client.readPump server.hub
        fun message remaining delivering => (notDelivering (Or.inr closing) delivering).elim
  | done closing =>
      exact ⟨owned.registered, nofun, owned.fresh, owned.once⟩

theorem Owned.clientStep (owned : Owned server) (found : server.clients[index]? = some client)
    {step : ClientStep} (advance : ClientAdvance server index client step changed) :
    Owned (server.setClient index changed) := by
  cases advance with
  | pump => exact owned.setClient found rfl rfl id
  | startPumps | getState | noState => exact owned.setClient found rfl rfl (by simp)
  | sendState data sending =>
      exact owned.setClient found (closed_send client data) (count_closed_send client data)
        (by simp)

theorem Owned.step (owned : Owned server) {action : Action}
    (taken : server.step action = some next) : Owned next := by
  cases action with
  | replaceFile | removeFile | cancelContext =>
      obtain rfl := Option.some.inj taken
      exact ⟨owned.registered, owned.remaining, owned.fresh, owned.once⟩
  | connect =>
      obtain rfl := Option.some.inj taken
      refine ⟨?_, owned.remaining, owned.fresh.snoc fun _ => rfl, owned.once.snoc (Nat.zero_le 1)⟩
      intro index member
      obtain ⟨client, read, rest⟩ := owned.registered index member
      refine ⟨client, ?_, rest⟩
      exact (List.getElem?_append_left (List.getElem?_eq_some_iff.mp read).1).trans read
  | watch step =>
      obtain ⟨events, watcher, rfl | rfl⟩ := stepWatch_cases taken
      · exact ⟨owned.registered, owned.remaining, owned.fresh, owned.once⟩
      · exact ⟨owned.registered, owned.remaining, owned.fresh, owned.once⟩
  | load index step => exact owned.loadStep (stepLoad_advance taken)
  | hub step => exact owned.hubStep (stepHub_advance taken)
  | client index step =>
      obtain ⟨client, changed, found, advance, rfl⟩ := stepClient_advance taken
      exact owned.clientStep found advance

theorem owned_start : Owned {} :=
  ⟨fun _ member => absurd member List.not_mem_nil, nofun,
    .nil, .nil⟩

end Owned

/-- No send came too late, and none is about to. -/
structure Timely (server : Server) : Prop where
  holding : Everywhere (fun _ client => (∃ data, client.handler = .sending data) →
    client.closed = false) server.clients
  ordered : Everywhere (fun _ client => NoLateSend client.trace) server.clients

def HandsFree (server : Server) (index : Nat) : Prop :=
  ∀ client, server.clients[index]? = some client → ∀ data, client.handler ≠ .sending data

/-- The hub closes a channel only while its handler has no snapshot in hand, and a handler
takes one only while its channel is open. -/
def KeepsApart (server : Server) : Action → Prop
  | .hub (.unregister index) => index ∈ server.registered → HandsFree server index
  | .hub (.deliver index) => (∃ client, server.clients[index]? = some client ∧
      client.full = true) → HandsFree server index
  | .hub (.close index) => HandsFree server index
  | .client index .getState => server.cache = none ∨
      ∃ client, server.clients[index]? = some client ∧ client.closed = false
  | _ => True

section Timely

variable {server next : Server} {index : Nat} {client changed : Client}

theorem Timely.setClient (timely : Timely server) (hold : (∃ data, changed.handler = .sending data) →
    changed.closed = false) (order : NoLateSend changed.trace) :
    Timely (server.setClient index changed) :=
  ⟨timely.holding.set hold, timely.ordered.set order⟩

theorem Timely.close (timely : Timely server) (found : server.clients[index]? = some client)
    (free : HandsFree server index) (readPump : ReadPump) (hub : Hub) (registered : List Nat) :
    Timely { server.setClient index (Client.close { client with readPump }) with
      hub, registered } where
  holding := timely.holding.set (by
    rintro ⟨data, sending⟩
    exact absurd sending (free client found data))
  ordered := timely.ordered.set (timely.ordered index client found).close

theorem Timely.hubStep (owned : Owned server) (timely : Timely server) {step : HubStep}
    (advance : HubAdvance server step next) (apart : KeepsApart server (.hub step)) :
    Timely next := by
  cases advance with
  | register index client found selecting registering =>
      exact ⟨timely.holding.set (by simp),
        timely.ordered.set (timely.ordered index client found)⟩
  | unregister index client found selecting member =>
      exact timely.close found (apart member) .returned server.hub _
  | forgotten index client found selecting =>
      exact timely.setClient (timely.holding index client found) (timely.ordered index client found)
  | overflow index client message remaining found delivering member full =>
      exact timely.close found (apart ⟨client, found, full⟩) client.readPump _ _
  | deliver index client message remaining found delivering member =>
      have inMap := owned.remaining message remaining delivering index member
      have unclosed := (owned.open_of_registered found inMap).1
      exact ⟨timely.holding.set fun _ => (closed_send client message).trans unclosed,
        timely.ordered.set ((timely.ordered index client found).send unclosed message)⟩
  | close index client found closing member =>
      exact timely.close found apart client.readPump server.hub _
  | receive | delivered | cancel | done => exact ⟨timely.holding, timely.ordered⟩

theorem Timely.clientStep (timely : Timely server) (found : server.clients[index]? = some client)
    {step : ClientStep} (advance : ClientAdvance server index client step changed)
    (apart : KeepsApart server (.client index step)) : Timely (server.setClient index changed) := by
  have ordered := timely.ordered index client found
  cases advance with
  | pump => exact timely.setClient (timely.holding index client found) ordered
  | startPumps | noState => exact timely.setClient (by simp) ordered
  | getState cached getting held =>
      refine timely.setClient (fun _ => ?_) ordered
      rcases apart with empty | ⟨other, read, unclosed⟩
      · rw [empty] at held
        cases held
      · obtain rfl := Option.some.inj (read.symm.trans found)
        exact unclosed
  | sendState data sending =>
      have unclosed := timely.holding index client found ⟨data, sending⟩
      exact timely.setClient (by simp) (ordered.send unclosed data)

theorem Timely.step (owned : Owned server) (timely : Timely server) {action : Action}
    (taken : server.step action = some next) (apart : KeepsApart server action) : Timely next := by
  cases action with
  | replaceFile | removeFile | cancelContext =>
      obtain rfl := Option.some.inj taken
      exact ⟨timely.holding, timely.ordered⟩
  | connect =>
      obtain rfl := Option.some.inj taken
      exact ⟨timely.holding.snoc (by simp), timely.ordered.snoc List.Pairwise.nil⟩
  | watch step =>
      obtain ⟨events, watcher, rfl | rfl⟩ := stepWatch_cases taken
      · exact ⟨timely.holding, timely.ordered⟩
      · exact ⟨timely.holding, timely.ordered⟩
  | load index step =>
      have same := (stepLoad_advance taken).clients
      exact ⟨same ▸ timely.holding, same ▸ timely.ordered⟩
  | hub step => exact timely.hubStep owned (stepHub_advance taken) apart
  | client index step =>
      obtain ⟨client, changed, found, advance, rfl⟩ := stepClient_advance taken
      exact timely.clientStep found advance apart

end Timely

/-- In every run each send channel is closed at most once; and where the hub and the
handlers keep apart at every step, nothing is sent on a channel after its close. -/
theorem send_channels_safe (actions : List Action) :
    Throughout Server.step {} (fun server =>
      ∀ client ∈ server.clients, client.trace.count .closed ≤ 1) actions ∧
    (EachStep Server.step {} KeepsApart actions →
      Throughout Server.step {} (fun server =>
        ∀ client ∈ server.clients, NoLateSend client.trace) actions) := by
  constructor
  · have always : Throughout Server.step {} Owned actions :=
      throughout_of_eachStep Owned owned_start
        (fun _ _ _ owned _ taken => owned.step taken) fun _ _ _ _ _ _ => trivial
    refine always.imp fun server owned client member => ?_
    obtain ⟨index, read⟩ := List.mem_iff_getElem?.mp member
    exact owned.once index client read
  · intro apart
    have always : Throughout Server.step {} (fun server => Owned server ∧ Timely server) actions :=
      throughout_of_eachStep (fun server => Owned server ∧ Timely server)
        ⟨owned_start, .nil, .nil⟩
        (fun _ _ _ safe allowed taken =>
          ⟨safe.1.step taken, safe.2.step safe.1 taken allowed⟩) apart
    refine always.imp fun server safe client member => ?_
    obtain ⟨index, read⟩ := List.mem_iff_getElem?.mp member
    exact safe.2.ordered index client read

def snapshotTaken : List Action :=
  [.replaceFile [123, 125] 0, .load 0 .proceed, .load 0 .proceed, .load 0 .proceed, .connect,
    .hub (.register 0), .client 0 .startPumps, .client 0 .getState]

def sendThenLeave : List Action :=
  snapshotTaken ++ [Action.client 0 .sendState, .client 0 .readError, .hub (.unregister 0)]

def leaveThenSend : List Action :=
  snapshotTaken ++ [Action.client 0 .readError, .hub (.unregister 0), .client 0 .sendState]

theorem sendThenLeave_safe :
    Throughout Server.step {} (fun server =>
      ∀ client ∈ server.clients, NoLateSend client.trace) sendThenLeave := by
  refine (send_channels_safe sendThenLeave).2 ?_
  refine .cons trivial rfl (.cons trivial rfl (.cons trivial rfl (.cons trivial rfl
    (.cons trivial rfl (.cons trivial rfl (.cons trivial rfl (.cons ?_ rfl (.cons trivial rfl
      (.cons trivial rfl (.cons ?_ rfl .nil))))))))))
  · exact Or.inr ⟨_, rfl, rfl⟩
  · intro _ client found data
    obtain rfl := Option.some.inj found
    exact Handler.noConfusion

/-- The read pump fails between the handler's two last statements: the hub closes the
channel that the handler then sends on. -/
theorem leaveThenSend_sends_late :
    ∃ server client, follow Server.step {} leaveThenSend = some server ∧
      client ∈ server.clients ∧ ¬NoLateSend client.trace := by
  refine ⟨_, _, rfl, List.mem_singleton_self _, ?_⟩
  intro ordered
  exact (List.pairwise_cons.mp ordered).1 _ (List.mem_singleton_self _) rfl _ rfl

end EdgeHealthd.WebServer
