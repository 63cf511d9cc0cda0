import EdgeHealthd.WebServer
import Mathlib.Data.List.TakeWhile

/-!
The order in which versions of the state file reach the cache and the clients. Loads may
overlap and a handler sends its snapshot past the hub, so a newer version can overtake an
older one that is still on its way; where none does, the order is kept.
-/

namespace EdgeHealthd.WebServer

open Machine Table

def Nondecreasing (versions : List FileVersion) : Prop :=
  versions.Pairwise fun first second => first.number ≤ second.number

theorem Nondecreasing.snoc {versions : List FileVersion} {last : FileVersion}
    (ordered : Nondecreasing versions) (newest : ∀ data ∈ versions, data.number ≤ last.number) :
    Nondecreasing (versions ++ [last]) := by
  refine List.pairwise_append.mpr ⟨ordered, List.pairwise_singleton _ _, ?_⟩
  intro data member other same
  obtain rfl := List.mem_singleton.mp same
  exact newest data member

def Load.toStore : Load → Option FileVersion
  | .statting data | .storing data _ => some data
  | .reading | .broadcasting _ | .returned => none

def Load.toBroadcast : Load → Option FileVersion
  | .statting data | .storing data _ | .broadcasting data => some data
  | .reading | .returned => none

def Hub.inHand : Hub → Option FileVersion
  | .delivering message _ => some message
  | .selecting | .closing | .returned => none

namespace Server

def version (server : Server) : Nat := (server.cache.map (·.data.number)).getD 0

/-- The messages that the hub has taken or will take, in that order. -/
def pipeline (server : Server) : List FileVersion :=
  server.hub.inHand.toList ++ server.broadcast

end Server

/-- The message may still be queued for the client by the hub. -/
def OnItsWay (server : Server) (index : Nat) (message : FileVersion) : Prop :=
  (∃ (place : Nat) (load : Load), server.loads[place]? = some load ∧ load.toBroadcast = some message) ∨
    message ∈ server.broadcast ∨
      ∃ remaining, server.hub = .delivering message remaining ∧ index ∈ remaining

/-- No version gets ahead of an older one: a load stores or broadcasts while no other load
has an older one still to store or broadcast, the hub queues a message while the client's
handler has no older snapshot in hand, and a handler queues its snapshot while nothing
older is on its way to the client. -/
def NoOvertaking (server : Server) : Action → Prop
  | .load index .proceed => ∀ load, server.loads[index]? = some load →
      ∀ place other, place ≠ index → server.loads[place]? = some other →
        (∀ data mtime, load = .storing data mtime →
          ∀ older, other.toStore = some older → data.number ≤ older.number) ∧
        (∀ data, load = .broadcasting data →
          ∀ older, other.toBroadcast = some older → data.number ≤ older.number)
  | .hub (.deliver index) => ∀ message remaining client data,
      server.hub = .delivering message remaining → server.clients[index]? = some client →
        client.handler = .sending data → message.number ≤ data.number
  | .client index .sendState => ∀ client data, server.clients[index]? = some client →
      client.handler = .sending data → client.closed = false →
        ∀ message, OnItsWay server index message → data.number ≤ message.number
  | _ => True

section Queued

variable (client : Client) (data : FileVersion)

theorem mem_closed_iff : client.closed = true ↔ ChannelEvent.closed ∈ client.trace := by
  simp [Client.closed]

theorem takeWhile_eq_self_iff_open :
    client.trace.takeWhile (· ≠ .closed) = client.trace ↔ client.closed = false := by
  rw [List.takeWhile_eq_self_iff, ← Bool.not_eq_true, mem_closed_iff]
  constructor
  · intro all member
    simpa using all _ member
  · intro never event member
    simp only [decide_eq_true_eq]
    rintro rfl
    exact never member

theorem queued_append (event : ChannelEvent) :
    Client.queued { client with trace := client.trace ++ [event] } =
      if client.closed then client.queued
      else client.queued ++ [event].filterMap fun
        | .sent data => some data
        | .closed => none := by
  have whole := takeWhile_eq_self_iff_open client
  simp only [Client.queued]
  rw [List.takeWhile_append]
  cases shut : client.closed with
  | true =>
      have shorter : ¬(client.trace.takeWhile (· ≠ .closed)).length = client.trace.length := by
        intro same
        have all := whole.mp ((List.takeWhile_prefix _).eq_of_length same)
        rw [shut] at all
        cases all
      rw [if_neg shorter]
      rfl
  | false =>
      rw [whole.mpr shut, if_pos rfl, List.filterMap_append]
      cases event <;> rfl

theorem queued_close : client.close.queued = client.queued := by
  rw [Client.close, queued_append]
  split <;> simp

theorem queued_send :
    (client.send data).queued =
      if client.closed then client.queued else client.queued ++ [data] :=
  queued_append client (.sent data)

end Queued

/-- The messages queued for a client are in order, and none is newer than what the cache
holds, what its handler has in hand or what is on its way. -/
structure ClientOrdered (server : Server) (index : Nat) (client : Client) : Prop where
  queued : Nondecreasing client.queued
  cached : ∀ data ∈ client.queued, data.number ≤ server.version
  sending : ∀ snapshot, client.handler = .sending snapshot →
    snapshot.number ≤ server.version ∧ ∀ data ∈ client.queued, data.number ≤ snapshot.number
  next : ∀ data ∈ client.queued, ∀ message, OnItsWay server index message →
    data.number ≤ message.number

structure Ordered (server : Server) : Prop where
  file : ∀ file, server.file = some file → file.number = server.replacements
  cached : server.version ≤ server.replacements
  stored : Nondecreasing (server.stored.map (·.data))
  held : ∀ earlier ∈ server.stored, earlier.data.number ≤ server.version
  storing : Everywhere (fun _ load => ∀ data, load.toStore = some data →
    server.version ≤ data.number ∧ data.number ≤ server.replacements) server.loads
  broadcasting : Everywhere (fun _ load => ∀ data, load = .broadcasting data →
    data.number ≤ server.version) server.loads
  ahead : Everywhere (fun _ load => ∀ data, load.toBroadcast = some data →
    ∀ message ∈ server.pipeline, message.number ≤ data.number) server.loads
  pipeline : Nondecreasing server.pipeline
  sent : ∀ message ∈ server.pipeline, message.number ≤ server.version
  clients : Everywhere (ClientOrdered server) server.clients

section Frame

variable {server next : Server} {index : Nat} {client changed : Client}

/-- A client that is not touched: the cache has not gone back, and what is newly on its
way is not older than what the cache held. -/
theorem ClientOrdered.frame (ordered : ClientOrdered server index client)
    (newer : server.version ≤ next.version)
    (way : ∀ message, OnItsWay next index message →
      OnItsWay server index message ∨ server.version ≤ message.number) :
    ClientOrdered next index client where
  queued := ordered.queued
  cached data member := (ordered.cached data member).trans newer
  sending snapshot sending := by
    obtain ⟨bound, older⟩ := ordered.sending snapshot sending
    exact ⟨bound.trans newer, older⟩
  next data member message coming := by
    rcases way message coming with before | fresh
    · exact ordered.next data member message before
    · exact (ordered.cached data member).trans fresh

theorem Ordered.setLoad (ordered : Ordered server) (load : Load)
    (fresh : ∀ data, load.toBroadcast = some data → load.toStore = some data ∧
      server.version ≤ data.number ∧ data.number ≤ server.replacements) :
    Ordered (server.setLoad index load) := by
  have broadcasts : ∀ data, load = .broadcasting data → False := by
    rintro data rfl
    cases (fresh data rfl).1
  have stores : ∀ data, load.toStore = some data → load.toBroadcast = some data := by
    cases load <;> simp [Load.toStore, Load.toBroadcast]
  exact { ordered with
    storing := ordered.storing.set fun data held => (fresh data (stores data held)).2
    broadcasting := ordered.broadcasting.set fun data same => (broadcasts data same).elim
    ahead := ordered.ahead.set fun data held message member =>
      (ordered.sent message member).trans (fresh data held).2.1
    clients := by
      refine ordered.clients.imp fun place client earlier => earlier.frame (le_refl _) ?_
      rintro message (⟨other, held, read, holds⟩ | rest)
      · rcases read_set read with ⟨_, rfl⟩ | ⟨_, before⟩
        · exact Or.inr (fresh message holds).2.1
        · exact Or.inl (Or.inl ⟨other, held, before, holds⟩)
      · exact Or.inl (Or.inr rest) }

theorem Ordered.setHub (ordered : Ordered server) {hub : Hub} {broadcast : List FileVersion}
    (kept : (hub.inHand.toList ++ broadcast).Sublist server.pipeline)
    (way : ∀ place message, OnItsWay { server with hub, broadcast } place message →
      OnItsWay server place message) :
    Ordered { server with hub, broadcast } where
  file := ordered.file
  cached := ordered.cached
  stored := ordered.stored
  held := ordered.held
  storing := ordered.storing
  broadcasting := ordered.broadcasting
  ahead place load read data holds message member :=
    ordered.ahead place load read data holds message (kept.subset member)
  pipeline := List.Pairwise.sublist kept ordered.pipeline
  sent message member := ordered.sent message (kept.subset member)
  clients := ordered.clients.imp fun place _ earlier =>
    earlier.frame (le_refl _) fun message coming => Or.inl (way place message coming)

theorem Ordered.setClient (ordered : Ordered server) {registered : List Nat}
    (client : ClientOrdered server index changed) :
    Ordered { server.setClient index changed with registered } where
  file := ordered.file
  cached := ordered.cached
  stored := ordered.stored
  held := ordered.held
  storing := ordered.storing
  broadcasting := ordered.broadcasting
  ahead := ordered.ahead
  pipeline := ordered.pipeline
  sent := ordered.sent
  clients := by
    have others : Everywhere (ClientOrdered { server.setClient index changed with registered })
        server.clients :=
      ordered.clients.imp fun _ _ earlier => earlier.frame (le_refl _) fun _ => Or.inl
    exact others.set (client.frame (le_refl _) fun _ => Or.inl)

end Frame

section Steps

variable {server next : Server} {index : Nat} {client changed : Client}

theorem Ordered.store (ordered : Ordered server) {data : FileVersion} {mtime : Int}
    (found : server.loads[index]? = some (.storing data mtime))
    (steady : NoOvertaking server (.load index .proceed)) :
    Ordered ((server.setCache data mtime).setLoad index (.broadcasting data)) := by
  obtain ⟨newer, bound⟩ := ordered.storing index _ found data rfl
  have others := steady _ found
  exact {
    file := ordered.file
    cached := bound
    stored := by
      have extended : Nondecreasing (server.stored.map (·.data) ++ [data]) := by
        refine ordered.stored.snoc ?_
        intro version member
        obtain ⟨earlier, before, rfl⟩ := List.mem_map.mp member
        exact (ordered.held earlier before).trans newer
      simpa [Server.setLoad, Server.setCache] using extended
    held := by
      intro earlier member
      rcases List.mem_append.mp member with before | added
      · exact (ordered.held earlier before).trans newer
      · obtain rfl := List.mem_singleton.mp added
        exact le_refl _
    storing := by
      intro place load read older holds
      rcases read_set read with ⟨_, rfl⟩ | ⟨distinct, before⟩
      · cases holds
      · exact ⟨(others place load distinct before).1 data mtime rfl older holds,
          (ordered.storing place load before older holds).2⟩
    broadcasting := by
      intro place load read version same
      rcases read_set read with ⟨_, rfl⟩ | ⟨_, before⟩
      · obtain rfl := Load.broadcasting.inj same
        exact le_refl _
      · exact (ordered.broadcasting place load before version same).trans newer
    ahead := ordered.ahead.set fun version holds message member => by
      obtain rfl := Option.some.inj holds
      exact ordered.ahead index _ found data rfl message member
    pipeline := ordered.pipeline
    sent := fun message member => (ordered.sent message member).trans newer
    clients := by
      refine ordered.clients.imp fun place client earlier => earlier.frame newer ?_
      rintro message (⟨other, held, read, holds⟩ | rest)
      · rcases read_set read with ⟨_, rfl⟩ | ⟨_, before⟩
        · obtain rfl := Option.some.inj holds
          exact Or.inr newer
        · exact Or.inl (Or.inl ⟨other, held, before, holds⟩)
      · exact Or.inl (Or.inr rest) }

theorem Ordered.broadcast (ordered : Ordered server) {data : FileVersion}
    (found : server.loads[index]? = some (.broadcasting data))
    (steady : NoOvertaking server (.load index .proceed)) :
    Ordered ((server.broadcastData data).setLoad index .returned) := by
  have quiet : Ordered (server.setLoad index .returned) := ordered.setLoad .returned nofun
  rw [Server.broadcastData]
  split
  · have others := steady _ found
    have longer : ∀ message, message ∈ server.hub.inHand.toList ++ (server.broadcast ++ [data]) ↔
        message ∈ server.pipeline ∨ message = data := by
      intro message
      rw [Server.pipeline, ← List.append_assoc, List.mem_append, List.mem_singleton]
    exact { quiet with
      ahead := by
        intro place load read version holds message member
        rcases read_set read with ⟨_, rfl⟩ | ⟨distinct, before⟩
        · cases holds
        · rcases (longer message).mp member with earlier | rfl
          · exact ordered.ahead place load before version holds message earlier
          · exact (others place load distinct before).2 message rfl version holds
      pipeline := by
        have extended := ordered.pipeline.snoc (ordered.ahead index _ found data rfl)
        rw [Server.pipeline, List.append_assoc] at extended
        exact extended
      sent := by
        intro message member
        rcases (longer message).mp member with earlier | rfl
        · exact ordered.sent message earlier
        · exact ordered.broadcasting index _ found message rfl
      clients := by
        refine ordered.clients.imp fun place client earlier => earlier.frame (le_refl _) ?_
        rintro message (⟨other, held, read, holds⟩ | queued | hand)
        · rcases read_set read with ⟨_, rfl⟩ | ⟨_, before⟩
          · cases holds
          · exact Or.inl (Or.inl ⟨other, held, before, holds⟩)
        · rcases List.mem_append.mp queued with before | added
          · exact Or.inl (Or.inr (Or.inl before))
          · obtain rfl := List.mem_singleton.mp added
            exact Or.inl (Or.inl ⟨index, _, found, rfl⟩)
        · exact Or.inl (Or.inr (Or.inr hand)) }
  · exact quiet

theorem Ordered.loadStep (ordered : Ordered server) {step : LoadStep}
    (advance : LoadAdvance server index step next)
    (steady : NoOvertaking server (.load index step)) : Ordered next := by
  cases advance with
  | fail load found early => exact ordered.setLoad .returned nofun
  | read file found present =>
      refine ordered.setLoad (.statting file) ?_
      intro data holds
      obtain rfl := Option.some.inj holds
      have newest := ordered.file file present
      exact ⟨rfl, newest ▸ ordered.cached, Nat.le_of_eq newest⟩
  | stat data file found present =>
      refine ordered.setLoad (.storing data file.mtime) ?_
      intro version holds
      obtain rfl := Option.some.inj holds
      exact ⟨rfl, ordered.storing index _ found data rfl⟩
  | store data mtime found => exact ordered.store found steady
  | broadcast data found => exact ordered.broadcast found steady

theorem ClientOrdered.same (ordered : ClientOrdered server index client)
    (queued : changed.queued = client.queued)
    (handler : ∀ snapshot, changed.handler = .sending snapshot →
      client.handler = .sending snapshot) : ClientOrdered server index changed where
  queued := queued ▸ ordered.queued
  cached := queued ▸ ordered.cached
  sending snapshot sending := queued ▸ ordered.sending snapshot (handler snapshot sending)
  next := queued ▸ ordered.next

theorem ClientOrdered.send (ordered : ClientOrdered server index client) {data : FileVersion}
    (cached : data.number ≤ server.version)
    (newest : ∀ earlier ∈ client.queued, earlier.number ≤ data.number)
    (sending : ∀ snapshot, client.handler = .sending snapshot → data.number ≤ snapshot.number)
    (next : client.closed = false →
      ∀ message, OnItsWay server index message → data.number ≤ message.number) :
    ClientOrdered server index (client.send data) := by
  cases shut : client.closed with
  | true =>
      have unchanged : (client.send data).queued = client.queued := by simp [queued_send, shut]
      exact ordered.same unchanged fun _ held => held
  | false =>
      have extended : (client.send data).queued = client.queued ++ [data] := by
        simp [queued_send, shut]
      have mem : ∀ {message}, message ∈ (client.send data).queued →
          message ∈ client.queued ∨ message = data := by
        intro message member
        rw [extended] at member
        simpa using member
      exact {
        queued := extended ▸ ordered.queued.snoc newest
        cached := by
          intro message member
          rcases mem member with before | rfl
          · exact ordered.cached message before
          · exact cached
        sending := by
          intro snapshot held
          obtain ⟨bound, older⟩ := ordered.sending snapshot held
          refine ⟨bound, fun message member => ?_⟩
          rcases mem member with before | rfl
          · exact older message before
          · exact sending snapshot held
        next := by
          intro message member later coming
          rcases mem member with before | rfl
          · exact ordered.next message before later coming
          · exact next shut later coming }

theorem Ordered.deliverTo (ordered : Ordered server) {message : FileVersion}
    {remaining : List Nat} (delivering : server.hub = .delivering message remaining) :
    Ordered { server with hub := .delivering message (remaining.filter (· ≠ index)) } := by
  refine ordered.setHub ?_ ?_
  · rw [Server.pipeline, delivering]
    exact List.Sublist.refl _
  · rintro place other (load | queued | ⟨left, same, waiting⟩)
    · exact Or.inl load
    · exact Or.inr (Or.inl queued)
    · obtain ⟨rfl, rfl⟩ := Hub.delivering.inj same
      exact Or.inr (Or.inr ⟨remaining, delivering, (List.mem_filter.mp waiting).1⟩)

theorem Ordered.deliver (ordered : Ordered server) {message : FileVersion} {remaining : List Nat}
    (found : server.clients[index]? = some client)
    (delivering : server.hub = .delivering message remaining) (member : index ∈ remaining)
    (steady : NoOvertaking server (.hub (.deliver index))) :
    Ordered { server.setClient index (client.send message) with
      hub := .delivering message (remaining.filter (· ≠ index)) } := by
  have inPipeline : message ∈ server.pipeline := by
    simp [Server.pipeline, delivering, Hub.inHand]
  have coming : OnItsWay server index message := Or.inr (Or.inr ⟨remaining, delivering, member⟩)
  have earlier := ordered.clients index client found
  have moved : Ordered { server with hub := .delivering message (remaining.filter (· ≠ index)) } :=
    ordered.deliverTo delivering
  refine moved.setClient (ClientOrdered.send (moved.clients index client found)
    (ordered.sent message inPipeline)
    (fun data queued => earlier.next data queued message coming)
    (fun snapshot => steady message remaining client snapshot delivering found) ?_)
  rintro _ other (⟨place, load, read, holds⟩ | queued | ⟨left, same, waiting⟩)
  · exact ordered.ahead place load read other holds message inPipeline
  · have sorted := ordered.pipeline
    rw [Server.pipeline, delivering] at sorted
    exact (List.pairwise_cons.mp sorted).1 other queued
  · obtain ⟨rfl, rfl⟩ := Hub.delivering.inj same
    exact absurd (List.mem_filter.mp waiting).2 (by simp)

theorem Ordered.hubStep (ordered : Ordered server) {step : HubStep}
    (advance : HubAdvance server step next) (steady : NoOvertaking server (.hub step)) :
    Ordered next := by
  cases advance with
  | register index client found selecting registering =>
      exact ordered.setClient ((ordered.clients index client found).same rfl nofun)
  | unregister index client found selecting member =>
      exact ordered.setClient ((ordered.clients index client found).same (queued_close _)
        fun _ held => held)
  | forgotten index client found selecting =>
      exact ordered.setClient ((ordered.clients index client found).same rfl fun _ held => held)
  | receive message rest selecting queue =>
      refine ordered.setHub ?_ ?_
      · rw [Server.pipeline, selecting, queue]
        exact List.Sublist.refl _
      · rintro place other (load | queued | ⟨left, taken, _⟩)
        · exact Or.inl load
        · exact Or.inr (Or.inl (queue ▸ List.mem_cons_of_mem _ queued))
        · obtain ⟨rfl, _⟩ := Hub.delivering.inj taken
          exact Or.inr (Or.inl (queue ▸ List.mem_cons_self))
  | overflow index client message remaining found delivering member full =>
      have moved : Ordered { server with
          hub := .delivering message (remaining.filter (· ≠ index)) } :=
        ordered.deliverTo delivering
      exact moved.setClient ((moved.clients index client found).same (queued_close client)
        fun _ held => held)
  | deliver index client message remaining found delivering member =>
      exact ordered.deliver found delivering member steady
  | close index client found closing member =>
      exact ordered.setClient ((ordered.clients index client found).same (queued_close client)
        fun _ held => held)
  | delivered | cancel | done =>
      refine ordered.setHub (List.sublist_append_right _ _) ?_
      rintro place other (load | queued | ⟨left, impossible, _⟩)
      · exact Or.inl load
      · exact Or.inr (Or.inl queued)
      · cases impossible

theorem Ordered.clientStep (ordered : Ordered server)
    (found : server.clients[index]? = some client) {step : ClientStep}
    (advance : ClientAdvance server index client step changed)
    (steady : NoOvertaking server (.client index step)) :
    Ordered (server.setClient index changed) := by
  have earlier := ordered.clients index client found
  cases advance with
  | pump => exact ordered.setClient (earlier.same rfl fun _ held => held)
  | startPumps | noState => exact ordered.setClient (earlier.same rfl nofun)
  | getState cached getting held =>
      have version : server.version = cached.data.number := by simp [Server.version, held]
      refine ordered.setClient ⟨earlier.queued, earlier.cached, ?_, earlier.next⟩
      intro snapshot sending
      obtain rfl := Handler.sending.inj sending
      exact ⟨Nat.le_of_eq version.symm, version ▸ earlier.cached⟩
  | sendState data sending =>
      obtain ⟨cached, newest⟩ := earlier.sending data sending
      have sent : ClientOrdered server index (client.send data) := by
        refine earlier.send cached newest ?_ fun unclosed =>
          steady client data found sending unclosed
        intro snapshot held
        obtain rfl := Handler.sending.inj (sending.symm.trans held)
        exact le_refl _
      exact ordered.setClient (sent.same rfl nofun)

theorem Ordered.outside (ordered : Ordered server) {file : Option FileVersion} {events : Nat}
    {watcher : Watcher} {cancelled : Bool}
    (kept : ∀ version, file = some version → server.file = some version) :
    Ordered { server with file, events, watcher, cancelled } :=
  { ordered with
    file := fun version present => ordered.file version (kept version present)
    clients := ordered.clients.imp fun _ _ earlier =>
      earlier.frame (le_refl _) fun _ => Or.inl }

theorem Ordered.startLoad (ordered : Ordered server) : Ordered server.startLoad :=
  { ordered with
    storing := ordered.storing.snoc nofun
    broadcasting := ordered.broadcasting.snoc nofun
    ahead := ordered.ahead.snoc nofun
    clients := by
      refine ordered.clients.imp fun _ _ earlier => earlier.frame (le_refl _) ?_
      rintro message (⟨place, load, read, holds⟩ | rest)
      · rcases read_snoc read with ⟨_, before⟩ | ⟨_, rfl⟩
        · exact Or.inl (Or.inl ⟨place, load, before, holds⟩)
        · cases holds
      · exact Or.inl (Or.inr rest) }

theorem Ordered.step (ordered : Ordered server) {action : Action}
    (taken : server.step action = some next) (steady : NoOvertaking server action) :
    Ordered next := by
  cases action with
  | replaceFile content mtime =>
      obtain rfl := Option.some.inj taken
      have grown := Nat.le_succ server.replacements
      exact { ordered with
        file := fun file same => by
          obtain rfl := Option.some.inj same
          rfl
        cached := ordered.cached.trans grown
        storing := ordered.storing.imp fun _ _ earlier data holds =>
          ⟨(earlier data holds).1, (earlier data holds).2.trans grown⟩
        clients := ordered.clients.imp fun _ _ earlier =>
          earlier.frame (le_refl _) fun _ => Or.inl }
  | removeFile =>
      obtain rfl := Option.some.inj taken
      exact ordered.outside nofun
  | cancelContext =>
      obtain rfl := Option.some.inj taken
      exact ordered.outside fun _ present => present
  | connect =>
      obtain rfl := Option.some.inj taken
      have others : Everywhere (ClientOrdered { server with clients := server.clients ++ [{}] })
          server.clients :=
        ordered.clients.imp fun _ _ earlier => earlier.frame (le_refl _) fun _ => Or.inl
      exact { ordered with clients := others.snoc ⟨List.Pairwise.nil, nofun, nofun, nofun⟩ }
  | watch step =>
      obtain ⟨events, watcher, rfl | rfl⟩ := stepWatch_cases taken
      · exact ordered.outside fun _ present => present
      · exact (ordered.outside fun _ present => present).startLoad
  | load index step => exact ordered.loadStep (stepLoad_advance taken) steady
  | hub step => exact ordered.hubStep (stepHub_advance taken) steady
  | client index step =>
      obtain ⟨client, changed, found, advance, rfl⟩ := stepClient_advance taken
      exact ordered.clientStep found advance steady

theorem ordered_start : Ordered {} where
  file := nofun
  cached := Nat.le_refl 0
  stored := List.Pairwise.nil
  held _ member := absurd member List.not_mem_nil
  storing := Everywhere.nil.snoc nofun
  broadcasting := Everywhere.nil.snoc nofun
  ahead := Everywhere.nil.snoc nofun
  pipeline := List.Pairwise.nil
  sent _ member := absurd member List.not_mem_nil
  clients := .nil

end Steps

/-- The versions the cache has held and those queued for each client only get newer. -/
def InOrder (server : Server) : Prop :=
  Nondecreasing (server.stored.map (·.data)) ∧
    ∀ client ∈ server.clients, Nondecreasing client.queued

theorem versions_in_order (actions : List Action)
    (steady : EachStep Server.step {} NoOvertaking actions) :
    Throughout Server.step {} InOrder actions := by
  have always : Throughout Server.step {} Ordered actions :=
    throughout_of_eachStep Ordered ordered_start
      (fun _ _ _ ordered allowed taken => ordered.step taken allowed) steady
  refine always.imp fun server ordered => ⟨ordered.stored, fun client member => ?_⟩
  obtain ⟨index, read⟩ := List.mem_iff_getElem?.mp member
  exact (ordered.clients index client read).queued

def wholeLoad (index : Nat) : List Action := List.replicate 4 (.load index .proceed)

def broadcastOne : List Action := [.hub .receive, .hub (.deliver 0), .hub .delivered]

def replaced (content : ByteString) : List Action :=
  [.replaceFile content 0, .watch .event, .watch .timer]

def clientWithSnapshot : List Action :=
  [Action.replaceFile [49] 0] ++ wholeLoad 0 ++
    [Action.watch (.start true), .hub .receive, .hub .delivered, .connect, .hub (.register 0),
      .client 0 .startPumps, .client 0 .getState]

theorem noOvertaking_of_alone {server : Server} {index : Nat}
    (alone : ∀ (place : Nat) (other : Load), place ≠ index →
      server.loads[place]? = some other → other = .returned) :
    NoOvertaking server (.load index .proceed) := by
  intro load _ place other distinct read
  obtain rfl := alone place other distinct read
  exact ⟨nofun, nofun⟩

set_option maxRecDepth 1024 in
theorem sent_first_in_order :
    Throughout Server.step {} InOrder
      (clientWithSnapshot ++ [Action.client 0 .sendState] ++ replaced [50] ++ wholeLoad 1 ++
        broadcastOne) := by
  refine versions_in_order _ ?_
  have only : ∀ {first : Load} (place : Nat) (other : Load), place ≠ 0 →
      [first][place]? = some other → other = .returned := by
    intro first place other distinct read
    obtain ⟨rest, rfl⟩ := Nat.exists_eq_succ_of_ne_zero distinct
    cases read
  have second : ∀ {last : Load} (place : Nat) (other : Load), place ≠ 1 →
      [.returned, last][place]? = some other → other = .returned := by
    intro last place other distinct read
    match place with
    | 0 => exact (Option.some.inj read).symm
    | 1 => exact absurd rfl distinct
    | rest + 2 => cases read
  refine .cons trivial rfl <| .cons (noOvertaking_of_alone only) rfl <|
    .cons (noOvertaking_of_alone only) rfl <| .cons (noOvertaking_of_alone only) rfl <|
    .cons (noOvertaking_of_alone only) rfl <| .cons trivial rfl <| .cons trivial rfl <|
    .cons trivial rfl <| .cons trivial rfl <| .cons trivial rfl <| .cons trivial rfl <|
    .cons trivial rfl <| .cons ?_ rfl <| .cons trivial rfl <| .cons trivial rfl <|
    .cons trivial rfl <| .cons (noOvertaking_of_alone second) rfl <|
    .cons (noOvertaking_of_alone second) rfl <| .cons (noOvertaking_of_alone second) rfl <|
    .cons (noOvertaking_of_alone second) rfl <| .cons trivial rfl <| .cons ?_ rfl <|
    .cons trivial rfl .nil
  · rintro client data _ _ _ message (⟨place, load, read, holds⟩ | queued | ⟨_, impossible, _⟩)
    · obtain rfl : load = .returned := by
        match place with
        | 0 => exact (Option.some.inj read).symm
        | rest + 1 => cases read
      cases holds
    · cases queued
    · cases impossible
  · intro message remaining client data _ found sending
    obtain rfl := Option.some.inj found
    cases sending

/-- Two overlapping loads store in the wrong order; and a handler queues the snapshot it
took before a newer version was broadcast to its client. -/
theorem overtaken_versions_out_of_order :
    (∃ server, follow Server.step {}
        ([Action.replaceFile [49] 0] ++ wholeLoad 0 ++ [Action.watch (.start true)] ++
          replaced [50] ++ [Action.load 1 .proceed] ++ replaced [51] ++ wholeLoad 2 ++
          [Action.load 1 .proceed, .load 1 .proceed]) =
        some server ∧ ¬Nondecreasing (server.stored.map (·.data))) ∧
    ∃ server client, follow Server.step {}
        (clientWithSnapshot ++ replaced [50] ++ wholeLoad 1 ++ broadcastOne ++
          [Action.client 0 .sendState]) =
        some server ∧ client ∈ server.clients ∧ ¬Nondecreasing client.queued := by
  refine ⟨⟨_, rfl, ?_⟩, _, _, rfl, List.mem_singleton_self _, ?_⟩
  · intro ordered
    have last := (List.pairwise_cons.mp (List.pairwise_cons.mp ordered).2).1 _
      (List.mem_singleton_self _)
    exact absurd last (by decide)
  · intro ordered
    exact absurd ((List.pairwise_cons.mp ordered).1 _ (List.mem_singleton_self _)) (by decide)

end EdgeHealthd.WebServer
