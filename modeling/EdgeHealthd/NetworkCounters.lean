import EdgeHealthd.NetworkCountersCore
import EdgeHealthd.Library.Machine

/-!
How old the counters of `collect_network` can be. The cache is filled once and
afterwards follows link messages only, and traffic sends none.
-/

namespace EdgeHealthd

open Attributes History Machine

theorem parseRtnlStats_reads {attr : Memory} {stats next : NetlinkInterfaceStats}
    (parsed : parseRtnlStats attr stats = some next) :
    next.name = (attrName attr).getD stats.name ∧
      next.counters = (attrCounters attr).getD stats.counters := by
  unfold parseRtnlStats at parsed
  obtain ⟨type, typed, parsed⟩ := Option.bind_eq_some_iff.mp parsed
  by_cases isStats : type = iflaStats64
  · rw [if_pos isStats] at parsed
    obtain ⟨length, sized, parsed⟩ := Option.bind_eq_some_iff.mp parsed
    have unnamed : attrName attr = none := by
      simp [attrName, typed, isStats, iflaStats64, iflaIfname]
    by_cases whole : length = sizeofLinkStats64
    · rw [if_pos whole] at parsed
      obtain ⟨bytes, taken, rfl⟩ := Option.map_eq_some_iff.mp parsed
      have counted : attrCounters attr =
          some (NetlinkInterfaceStats.withStats64 {} bytes).counters := by
        simp [attrCounters, typed, isStats, sized, whole, taken]
      rw [unnamed, counted]
      exact ⟨rfl, rfl⟩
    · rw [if_neg whole] at parsed
      obtain rfl := Option.some.inj parsed
      have uncounted : attrCounters attr = none := by simp [attrCounters, sized, whole]
      rw [unnamed, uncounted]
      exact ⟨rfl, rfl⟩
  · rw [if_neg isStats] at parsed
    have uncounted : attrCounters attr = none := by simp [attrCounters, typed, isStats]
    rw [uncounted]
    by_cases isName : type = iflaIfname
    · rw [if_pos isName] at parsed
      obtain ⟨name, found, rfl⟩ := Option.map_eq_some_iff.mp parsed
      have named : attrName attr = some name := by simp [attrName, typed, isName, found]
      rw [named]
      exact ⟨rfl, rfl⟩
    · rw [if_neg isName] at parsed
      have unnamed : attrName attr = none := by simp [attrName, typed, isName]
      rw [unnamed]
      have same : Yields (fun next : NetlinkInterfaceStats =>
          next.name = stats.name ∧ next.counters = stats.counters) (some next) := by
        rw [← parsed]
        refine Yields.ite (Yields.map fun _ => ⟨rfl, rfl⟩) ?_
        refine Yields.ite (Yields.map fun _ => ⟨rfl, rfl⟩) ?_
        refine Yields.ite (Yields.bind fun _ => ?_) ?_
        · exact Yields.ite (Yields.map fun _ => ⟨rfl, rfl⟩) (Yields.some ⟨rfl, rfl⟩)
        refine Yields.ite (Yields.map fun _ => ⟨rfl, rfl⟩) ?_
        refine Yields.ite (Yields.map fun _ => ⟨rfl, rfl⟩) ?_
        refine Yields.ite (Yields.map fun _ => ⟨rfl, rfl⟩) ?_
        exact Yields.ite (Yields.map fun _ => ⟨rfl, rfl⟩) (Yields.some ⟨rfl, rfl⟩)
      exact same next rfl

theorem attributes_fold_reads {attributes : List Memory} {stats final : NetlinkInterfaceStats}
    (folded : attributes.foldlM (fun stats attr => parseRtnlStats attr stats) stats =
      some final) :
    final.name = (latest attrName attributes).getD stats.name ∧
      final.counters = (latest attrCounters attributes).getD stats.counters := by
  induction attributes using List.reverseRecOn generalizing final with
  | nil =>
      obtain rfl := Option.some.inj folded
      exact ⟨rfl, rfl⟩
  | append_singleton past attr ih =>
      rw [List.foldlM_append] at folded
      obtain ⟨middle, earlier, last⟩ := Option.bind_eq_some_iff.mp folded
      obtain ⟨name, counters⟩ := ih earlier
      obtain ⟨lastName, lastCounters⟩ := parseRtnlStats_reads
        (by simpa using last : parseRtnlStats attr middle = some final)
      rw [lastName, lastCounters, name, counters, latest_snoc, latest_snoc]
      constructor
      · cases attrName attr <;> rfl
      · cases attrCounters attr <;> rfl

theorem KernelMessage.read_type (message : KernelMessage) (after : Memory) :
    Memory.read (message.bytes ++ after) 4 2 = message.bytes.read 4 2 := by
  obtain ⟨type, typed⟩ := Memory.read_isSome
    (Nat.le_trans (by decide) message.header : 4 + 2 ≤ message.bytes.length)
  rw [typed, Memory.read_append typed]

theorem KernelMessage.bytes_ne_nil (message : KernelMessage) : message.bytes ≠ [] := by
  intro empty
  have header := message.header
  simp [empty, nlmsgHdrlen] at header

def Delivery.EndsWalk (delivery : Delivery) : Prop :=
  AboutLink delivery.message.bytes →
    attrOk delivery.after (delivery.message.bytes.drop linkAttributes).length = some false

theorem Delivery.dataCb_eq {delivery : Delivery} (cache : NetlinkCache)
    (link : AboutLink delivery.message.bytes) (ends : delivery.EndsWalk) {index : Int}
    {row : KernelLink} (indexed : delivery.message.index = some index)
    (named : delivery.message.name = some row.name)
    (counted : delivery.message.counters = some row.counters) :
    ∃ stats, dataCb cache delivery.memory = some (cache.insert index stats) ∧
      stats.ifindex = index ∧ stats.name = row.name ∧ stats.counters = row.counters := by
  obtain ⟨moment, message, after⟩ := delivery
  have room := message.room link
  have wide : 28 ≤ message.bytes.length := Nat.le_trans (by decide) room
  obtain ⟨raw, first⟩ := Memory.read_isSome (by omega : 20 + 4 ≤ message.bytes.length)
  obtain ⟨flags, second⟩ := Memory.read_isSome (by omega : 24 + 4 ≤ message.bytes.length)
  obtain rfl : toInt32 raw = index := by simpa [KernelMessage.index, first] using indexed
  obtain ⟨entry, read, same⟩ : ∃ entry, linkEntry cache message.bytes = some entry ∧
      entry.ifindex = toInt32 raw := by
    simp [linkEntry, first, second]
  obtain ⟨stats, folded, walked⟩ := (message.tiled link).walk (ends link)
    (fun attr state readable =>
      Option.isSome_iff_exists.mp ((parseRtnlStats_isSome attr state).mpr readable))
    parseRtnlStats_extends (message.legible link) entry
  have kept : stats.ifindex = entry.ifindex := by
    refine walk_preserves (fun state : NetlinkInterfaceStats => state.ifindex = entry.ifindex)
      ?_ rfl walked
    intro attr state next held parsed
    exact (parseRtnlStats_ifindex attr state next parsed).trans held
  obtain ⟨name, counters⟩ := attributes_fold_reads folded
  have stated : latest attrName (attributesIn (message.bytes.drop linkAttributes)) =
      some row.name := named
  have reported : latest attrCounters (attributesIn (message.bytes.drop linkAttributes)) =
      some row.counters := counted
  refine ⟨stats, ?_, kept.trans same, ?_, ?_⟩
  · have size : ((message.bytes.length : Int) - linkAttributes) =
        (message.bytes.drop linkAttributes).length := by
      simp only [List.length_drop]
      omega
    simp only [Delivery.memory, dataCb, Memory.read_append message.length, Option.bind_some,
      linkEntry_extends cache message.bytes after entry read, size,
      List.drop_append_of_le_length room, walked, Option.map_some, same]
  · rw [name, stated]
    rfl
  · rw [counters, reported]
    rfl

theorem messagesFuel_deliveries (moment : Nat) (messages : List KernelMessage) (after : Memory)
    {fuel : Nat} (enough : (messages.flatMap (·.bytes)).length < fuel) :
    messagesFuel fuel (messages.flatMap (·.bytes) ++ after)
        (messages.flatMap (·.bytes)).length =
      (deliveries moment after messages).map Delivery.memory := by
  induction messages generalizing fuel with
  | nil =>
      obtain ⟨fuel, rfl⟩ := Nat.exists_eq_succ_of_ne_zero (by omega : fuel ≠ 0)
      simp [messagesFuel, deliveries, nlmsgHdrlen]
  | cons message rest ih =>
      obtain ⟨fuel, rfl⟩ := Nat.exists_eq_succ_of_ne_zero (by omega : fuel ≠ 0)
      have header : 16 ≤ message.bytes.length := message.header
      simp only [List.flatMap_cons, List.length_append] at enough ⊢
      have later := ih (by omega : _ < fuel)
      have whole : Memory.read (message.bytes ++ (rest.flatMap (·.bytes) ++ after)) 0 4 =
          some message.bytes.length := Memory.read_append message.length _
      have received : ¬(((message.bytes.length + (rest.flatMap (·.bytes)).length : Nat) : Int) <
          nlmsgHdrlen) := by
        unfold nlmsgHdrlen
        omega
      have fits : nlmsgHdrlen ≤ message.bytes.length ∧ (message.bytes.length : Int) ≤
          ((message.bytes.length + (rest.flatMap (·.bytes)).length : Nat) : Int) :=
        ⟨message.header, by omega⟩
      have left : ((message.bytes.length + (rest.flatMap (·.bytes)).length : Nat) : Int) -
          message.bytes.length = (rest.flatMap (·.bytes)).length := by
        omega
      simp only [messagesFuel, List.append_assoc, received, if_false, whole, fits, and_self,
        if_true, message.padded, List.drop_left, left, later, deliveries, List.map_cons]
      rfl

theorem Datagram.messagesIn_eq (datagram : Datagram) (buffer : Memory) :
    messagesIn (receive buffer datagram.bytes) datagram.bytes.length =
      (datagram.deliveries buffer).map Delivery.memory :=
  messagesFuel_deliveries datagram.moment datagram.messages _ (Nat.lt_succ_self _)

theorem Datagram.bytes_ne_nil (datagram : Datagram) : datagram.bytes ≠ [] := by
  intro empty
  have first := datagram.first.bytes_ne_nil
  simp [Datagram.bytes, Datagram.messages, first] at empty

theorem KernelMessage.endsDump_append (message : KernelMessage) (after : Memory) :
    endsDump (message.bytes ++ after) = endsDump message.bytes := by
  simp only [endsDump, message.read_type]

theorem any_endsDump_deliveries (moment : Nat) (after : Memory) (messages : List KernelMessage) :
    (deliveries moment after messages).any (fun delivery => endsDump delivery.memory) =
      messages.any fun message => endsDump message.bytes := by
  induction messages with
  | nil => rfl
  | cons message rest ih =>
      rw [deliveries, List.any_cons, List.any_cons, ih]
      congr 1
      exact message.endsDump_append _

theorem eventMessages_eq (buffer : Memory) (queue : List Datagram) :
    eventMessages buffer (queue.map Datagram.bytes) =
      (eventDeliveries buffer queue).map Delivery.memory := by
  induction queue generalizing buffer with
  | nil => rfl
  | cons datagram rest ih =>
      simp only [List.map_cons, eventMessages, datagram.bytes_ne_nil, if_false,
        datagram.messagesIn_eq, ih, eventDeliveries, List.map_append]

theorem responseMessages_eq (buffer : Memory) (queue : List Datagram) :
    responseMessages buffer (queue.map Datagram.bytes) =
      (responseDeliveries buffer queue).map Delivery.memory := by
  induction queue generalizing buffer with
  | nil => rfl
  | cons datagram rest ih =>
      have ended : ((datagram.deliveries buffer).map Delivery.memory).any endsDump =
          datagram.endsDump := by
        rw [List.any_map]
        exact any_endsDump_deliveries _ _ _
      simp only [List.map_cons, responseMessages, datagram.bytes_ne_nil, if_false,
        datagram.messagesIn_eq, ended, ih, responseDeliveries, List.map_append,
        List.takeWhile_map]
      congr 1
      split <;> rfl

theorem Delivery.aboutLink_memory (delivery : Delivery) :
    AboutLink delivery.memory ↔ AboutLink delivery.message.bytes := by
  simp only [AboutLink, Delivery.memory, delivery.message.read_type]

theorem dispatch_of_aboutLink {cache : NetlinkCache} {nlh : Memory} (link : AboutLink nlh) :
    dispatch cache nlh = dataCb cache nlh := by
  rcases link with typed | typed
  · simp [dispatch, typed]
  · simp [dispatch, typed]

theorem dispatch_of_not_aboutLink {cache updated : NetlinkCache} {nlh : Memory}
    (other : ¬AboutLink nlh) (done : dispatch cache nlh = some updated) :
    updated = cache ∨ ∃ index entry address, cache[index]? = some entry ∧
      updated = cache.insert index { entry with ipv4Addr := address } := by
  rcases dispatch_cases done with ⟨index, stats, _, _, about⟩ | ⟨_, unchanged⟩
  · have changed := (about index).mpr rfl
    have silent : linkChange index nlh = none := by
      simp only [AboutLink, not_or] at other
      simp [linkChange, other]
    rw [silent] at changed
    cases changed
  · exact unchanged

namespace NetworkSystem

def rowAt (system : NetworkSystem) (moment : Nat) (index : Int) : Option KernelLink :=
  (system.tableAt moment).bind fun links => links[index]?

def Backs (system : NetworkSystem) (moment : Nat) (index : Int) (stats : NetlinkInterfaceStats) :
    Prop :=
  stats.ifindex = index ∧ ∃ row, system.rowAt moment index = some row ∧
    stats.name = row.name ∧ stats.counters = row.counters

def Backed (system : NetworkSystem) (heard : Int → Nat) (cache : NetlinkCache) : Prop :=
  ∀ (index : Int) (stats : NetlinkInterfaceStats), cache[index]? = some stats →
    system.Backs (heard index) index stats

def Truthful (system : NetworkSystem) (moment : Nat) (message : KernelMessage) : Prop :=
  AboutLink message.bytes → ∃ links, system.tableAt moment = some links ∧ message.Describes links

section Deliver

variable {system : NetworkSystem} {heard : Int → Nat} {cache updated : NetlinkCache}

theorem Backed.insert {later : Int → Nat} {index : Int} {stats : NetlinkInterfaceStats}
    (backed : system.Backed heard cache) (backs : system.Backs (later index) index stats)
    (others : ∀ other, index ≠ other → later other = heard other) :
    system.Backed later (cache.insert index stats) := by
  intro other entry present
  rw [Std.TreeMap.getElem?_insert] at present
  split at present
  · rename_i equal
    obtain rfl : index = other := by simpa using equal
    exact Option.some.inj present ▸ backs
  · rename_i distinct
    rw [others other (by simpa using distinct)]
    exact backed other entry present

theorem Backed.dispatch {delivery : Delivery} (backed : system.Backed heard cache)
    (truthful : system.Truthful delivery.moment delivery.message) (ends : delivery.EndsWalk)
    (done : dispatch cache delivery.memory = some updated) :
    system.Backed (hear heard delivery) updated := by
  by_cases link : AboutLink delivery.message.bytes
  · obtain ⟨links, held, row, found, named, counted⟩ := truthful link
    obtain ⟨index, indexed, listed⟩ := Option.bind_eq_some_iff.mp found
    obtain ⟨stats, stored, same, name, counters⟩ :=
      delivery.dataCb_eq cache link ends indexed named counted
    rw [dispatch_of_aboutLink (delivery.aboutLink_memory.mpr link), stored] at done
    obtain rfl := Option.some.inj done
    refine backed.insert ⟨same, row, ?_, name, counters⟩ ?_
    · simp only [hear, link, indexed, and_self, if_true, rowAt, held, Option.bind_some]
      exact listed
    · intro other distinct
      simp [hear, indexed, distinct]
  · have unheard : hear heard delivery = heard := by
      funext index
      simp [hear, link]
    rw [unheard]
    rcases dispatch_of_not_aboutLink (fun about => link (delivery.aboutLink_memory.mp about))
      done with rfl | ⟨index, entry, address, found, rfl⟩
    · exact backed
    · exact backed.insert (backed index entry found) fun _ _ => rfl

theorem Backed.deliver {handled : List Delivery} (backed : system.Backed heard cache)
    (truthful : ∀ delivery ∈ handled, system.Truthful delivery.moment delivery.message)
    (ends : ∀ delivery ∈ handled, delivery.EndsWalk)
    (done : (handled.map Delivery.memory).foldlM EdgeHealthd.dispatch cache = some updated) :
    system.Backed (handled.foldl hear heard) updated := by
  induction handled generalizing heard cache with
  | nil =>
      obtain rfl := Option.some.inj done
      exact backed
  | cons delivery rest ih =>
      rw [List.map_cons, List.foldlM_cons] at done
      obtain ⟨next, first, later⟩ := Option.bind_eq_some_iff.mp done
      simp only [List.forall_mem_cons] at truthful ends
      exact ih (backed.dispatch truthful.1 ends.1 first) truthful.2 ends.2 later

end Deliver

end NetworkSystem

theorem mem_deliveries {moment : Nat} {after : Memory} {messages : List KernelMessage}
    {delivery : Delivery} (member : delivery ∈ deliveries moment after messages) :
    delivery.moment = moment ∧ delivery.message ∈ messages := by
  induction messages with
  | nil => simp [deliveries] at member
  | cons message rest ih =>
      rcases List.mem_cons.mp member with rfl | later
      · exact ⟨rfl, List.mem_cons_self⟩
      · obtain ⟨same, found⟩ := ih later
        exact ⟨same, List.mem_cons_of_mem _ found⟩

theorem mem_eventDeliveries {buffer : Memory} {queue : List Datagram} {delivery : Delivery}
    (member : delivery ∈ eventDeliveries buffer queue) :
    ∃ datagram ∈ queue, delivery.moment = datagram.moment ∧
      delivery.message ∈ datagram.messages := by
  induction queue generalizing buffer with
  | nil => simp [eventDeliveries] at member
  | cons datagram rest ih =>
      rcases List.mem_append.mp member with first | later
      · exact ⟨datagram, List.mem_cons_self, mem_deliveries first⟩
      · obtain ⟨other, found, facts⟩ := ih later
        exact ⟨other, List.mem_cons_of_mem _ found, facts⟩

theorem mem_responseDeliveries {buffer : Memory} {queue : List Datagram} {delivery : Delivery}
    (member : delivery ∈ responseDeliveries buffer queue) :
    ∃ datagram ∈ queue, delivery.moment = datagram.moment ∧
      delivery.message ∈ datagram.messages := by
  induction queue generalizing buffer with
  | nil => simp [responseDeliveries] at member
  | cons datagram rest ih =>
      rcases List.mem_append.mp member with first | later
      · exact ⟨datagram, List.mem_cons_self, mem_deliveries (List.takeWhile_subset _ first)⟩
      · split at later
        · cases later
        · obtain ⟨other, found, facts⟩ := ih later
          exact ⟨other, List.mem_cons_of_mem _ found, facts⟩

section Collect

variable {text : ByteString → String} {nlStats : List NetlinkInterfaceStats}
  {ethtool : String → Option EthtoolLink} {ifname : String} {nl : NetlinkInterfaceStats}

theorem nlMapFind_some (found : nlMapFind text nlStats ifname = some nl) :
    nl ∈ nlStats ∧ text nl.name = ifname := by
  rw [nlMapFind, List.findRev?_eq_find?_reverse] at found
  refine ⟨List.mem_reverse.mp (List.mem_of_find?_eq_some found), ?_⟩
  simpa using List.find?_some found

theorem nlMapFind_of_mem (cached : ifname ∈ nlStats.map (text ·.name)) :
    ∃ nl, nlMapFind text nlStats ifname = some nl := by
  obtain ⟨stats, member, named⟩ := List.mem_map.mp cached
  rw [nlMapFind, List.findRev?_eq_find?_reverse, ← Option.isSome_iff_exists, List.find?_isSome]
  exact ⟨stats, List.mem_reverse.mpr member, by simpa using named⟩

theorem collectInterface_ifname (ifname : String) :
    (collectInterface text ethtool nlStats ifname).ifname = ifname := by
  unfold collectInterface
  split
  · rfl
  · cases nlMapFind text nlStats ifname <;> cases ethtool ifname <;> rfl

theorem collectInterface_counters (safe : isSafeIfname ifname)
    (found : nlMapFind text nlStats ifname = some nl) :
    (collectInterface text ethtool nlStats ifname).counters = nl.counters := by
  simp only [collectInterface, safe, Bool.not_true, Bool.false_eq_true, if_false, found]
  cases ethtool ifname <;> rfl

theorem mem_getAllStats {cache : NetlinkCache} (member : nl ∈ getAllStats cache) :
    ∃ index : Int, cache[index]? = some nl := by
  obtain ⟨pair, listed, rfl⟩ := List.mem_map.mp member
  exact ⟨pair.1, Std.TreeMap.mem_toList_iff_getElem?_eq_some.mp listed⟩

end Collect

/-- Every interface that is in the cache is reported with the counters that the
kernel had under its name at some moment since the previous collection. -/
def NetworkCollection.Current (text : ByteString → String) (system : NetworkSystem)
    (collection : NetworkCollection) : Prop :=
  ∀ iface ∈ collection.report, iface.ifname ∈ collection.cached →
    ∃ moment index row, collection.previous ≤ moment ∧ moment ≤ collection.moment ∧
      system.rowAt moment index = some row ∧ text row.name = iface.ifname ∧
      row.counters = iface.counters

/-- The same over the finitely many rows and moments, so that it can be computed. -/
theorem NetworkCollection.current_iff {text : ByteString → String} {system : NetworkSystem}
    {collection : NetworkCollection} :
    collection.Current text system ↔
      ∀ iface ∈ collection.report, iface.ifname ∈ collection.cached →
        ∃ moment ∈ List.range (collection.moment + 1), collection.previous ≤ moment ∧
          ∃ links ∈ system.tableAt moment, ∃ entry ∈ links.toList,
            text entry.2.name = iface.ifname ∧ entry.2.counters = iface.counters := by
  refine forall₃_congr fun iface _ _ => ?_
  constructor
  · rintro ⟨moment, index, row, recent, past, found, facts⟩
    obtain ⟨links, held, present⟩ := Option.bind_eq_some_iff.mp found
    refine ⟨moment, List.mem_range.mpr (Nat.lt_succ_of_le past), recent, links, held,
      (index, row), ?_, facts⟩
    exact Std.TreeMap.mem_toList_iff_getElem?_eq_some.mpr present
  · rintro ⟨moment, past, recent, links, held, entry, listed, facts⟩
    refine ⟨moment, entry.1, entry.2, recent, Nat.le_of_lt_succ (List.mem_range.mp past), ?_,
      facts⟩
    rw [NetworkSystem.rowAt, show system.tableAt moment = some links from held]
    exact Std.TreeMap.mem_toList_iff_getElem?_eq_some.mp listed

instance (text : ByteString → String) (system : NetworkSystem) (collection : NetworkCollection) :
    Decidable (collection.Current text system) :=
  decidable_of_iff _ NetworkCollection.current_iff.symm

namespace NetworkSystem

def CountersCurrent (text : ByteString → String) (system : NetworkSystem) : Prop :=
  ∀ collection ∈ system.collections, collection.Current text system

instance (text : ByteString → String) (system : NetworkSystem) :
    Decidable (system.CountersCurrent text) :=
  inferInstanceAs (Decidable (∀ collection ∈ _, NetworkCollection.Current text system collection))

/-- A link message about the interface that was sent since the previous collection
has been handled, or its row had not changed between the handled one and then. -/
def UpToDate (system : NetworkSystem) (index : Int) : Prop :=
  system.previous ≤ system.heard index ∨
    system.rowAt system.previous index = system.rowAt (system.heard index) index

/-- No walk over attributes leaves its message, and a collection is made while
every listed interface of the cache has a safe name and is up to date. -/
def Refreshed (text : ByteString → String) (interfaces : List String) (bufSize : Nat)
    (system : NetworkSystem) : NetworkAction → Prop
  | .drainResponse => ∀ queue ∈ system.socket,
      ∀ delivery ∈ responseDeliveries (emptyBuffer bufSize) queue, delivery.EndsWalk
  | .drainEvents => ∀ queue ∈ system.socket,
      ∀ delivery ∈ eventDeliveries (emptyBuffer bufSize) queue, delivery.EndsWalk
  | .collect _ =>
      ∀ ifname ∈ ifaceList text interfaces (getAllStats system.cache),
        ∀ stats ∈ nlMapFind text (getAllStats system.cache) ifname,
          isSafeIfname ifname ∧ system.UpToDate stats.ifindex
  | _ => True

instance (delivery : Delivery) : Decidable delivery.EndsWalk :=
  inferInstanceAs (Decidable (_ → _))

instance (system : NetworkSystem) (index : Int) : Decidable (system.UpToDate index) :=
  inferInstanceAs (Decidable (_ ∨ _))

instance (text : ByteString → String) (interfaces : List String) (bufSize : Nat)
    (system : NetworkSystem) (action : NetworkAction) :
    Decidable (system.Refreshed text interfaces bufSize action) :=
  match action with
  | .drainResponse => inferInstanceAs (Decidable (∀ _ ∈ _, ∀ _ ∈ _, Delivery.EndsWalk _))
  | .drainEvents => inferInstanceAs (Decidable (∀ _ ∈ _, ∀ _ ∈ _, Delivery.EndsWalk _))
  | .collect _ => inferInstanceAs (Decidable (∀ _ ∈ _, ∀ _ ∈ _, _ ∧ _))
  | .traffic _ _ | .newlink _ _ _ | .dellink _ _ | .address _ | .dump _ _ | .bind =>
      inferInstanceAs (Decidable True)

structure Sound (text : ByteString → String) (system : NetworkSystem) : Prop where
  queued : ∀ queue, system.socket = some queue → ∀ datagram ∈ queue,
    ∀ message ∈ datagram.messages, system.Truthful datagram.moment message
  backed : system.Backed system.heard system.cache
  bounded : system.previous ≤ system.now
  current : system.CountersCurrent text

section Sound

variable {text : ByteString → String} {interfaces : List String} {bufSize : Nat}
  {system next : NetworkSystem}

theorem tableAt_advance {moment : Nat} {table links : LinkTable}
    (found : system.tableAt moment = some table) :
    (system.advance links).tableAt moment = some table := by
  unfold tableAt advance at *
  have bound := (List.getElem?_eq_some_iff.mp found).1
  rw [List.getElem?_append_left bound]
  exact found

theorem tableAt_now : system.tableAt system.now = some system.links := by
  simp [tableAt, now]

theorem rowAt_bound {moment : Nat} {index : Int} {row : KernelLink}
    (found : system.rowAt moment index = some row) : moment ≤ system.now := by
  obtain ⟨table, held, _⟩ := Option.bind_eq_some_iff.mp found
  have bound := (List.getElem?_eq_some_iff.mp held).1
  simp only [List.length_append, List.length_singleton] at bound
  unfold now
  omega

theorem rowAt_advance {moment : Nat} {index : Int} {row : KernelLink} {links : LinkTable}
    (found : system.rowAt moment index = some row) :
    (system.advance links).rowAt moment index = some row := by
  obtain ⟨table, held, present⟩ := Option.bind_eq_some_iff.mp found
  rw [rowAt, tableAt_advance held]
  exact present

theorem Sound.advance (sound : system.Sound text) (links : LinkTable) :
    (system.advance links).Sound text where
  queued := by
    intro queue bound datagram member message among link
    obtain ⟨table, held, describes⟩ := sound.queued queue bound datagram member message among link
    exact ⟨table, tableAt_advance held, describes⟩
  backed := by
    intro index stats present
    obtain ⟨same, row, found, facts⟩ := sound.backed index stats present
    exact ⟨same, row, rowAt_advance found, facts⟩
  bounded := by
    have before := sound.bounded
    have later : (system.advance links).now = system.now + 1 := by simp [now, NetworkSystem.advance]
    have unchanged : (system.advance links).previous = system.previous := rfl
    omega
  current := by
    intro collection member iface reported cached
    obtain ⟨moment, index, row, recent, past, found, facts⟩ :=
      sound.current collection member iface reported cached
    exact ⟨moment, index, row, recent, past, rowAt_advance found, facts⟩

theorem Sound.send (sound : system.Sound text) (first : KernelMessage)
    (rest : List KernelMessage)
    (truthful : ∀ message ∈ first :: rest, AboutLink message.bytes →
      message.Describes system.links) : (system.send first rest).Sound text where
  queued := by
    intro queue bound datagram member message among link
    obtain ⟨before, opened, rfl⟩ := Option.map_eq_some_iff.mp bound
    rcases List.mem_append.mp member with earlier | last
    · exact sound.queued before opened datagram earlier message among link
    · obtain rfl := List.mem_singleton.mp last
      exact ⟨system.links, tableAt_now, truthful message among link⟩
  backed := sound.backed
  bounded := sound.bounded
  current := sound.current

theorem Sound.notify (sound : system.Sound text) (message : KernelMessage)
    (truthful : AboutLink message.bytes → message.Describes system.links) :
    (system.send message []).Sound text := by
  refine sound.send message [] ?_
  intro other member link
  obtain rfl := List.mem_singleton.mp member
  exact truthful link

theorem Sound.drain (sound : system.Sound text) {queue left : List Datagram}
    {handled : List Delivery} {cache : NetlinkCache} (bound : system.socket = some queue)
    (kept : ∀ datagram ∈ left, datagram ∈ queue)
    (taken : ∀ delivery ∈ handled, ∃ datagram ∈ queue, delivery.moment = datagram.moment ∧
      delivery.message ∈ datagram.messages)
    (ends : ∀ delivery ∈ handled, delivery.EndsWalk)
    (done : (handled.map Delivery.memory).foldlM EdgeHealthd.dispatch system.cache =
      some cache) :
    Sound text { system with
      socket := some left, cache, heard := handled.foldl hear system.heard } where
  queued := by
    intro other same datagram member message among
    obtain rfl := Option.some.inj same
    exact sound.queued queue bound datagram (kept datagram member) message among
  backed := by
    have truthful : ∀ delivery ∈ handled, system.Truthful delivery.moment delivery.message := by
      intro delivery member
      obtain ⟨datagram, present, same, among⟩ := taken delivery member
      rw [same]
      exact sound.queued queue bound datagram present delivery.message among
    exact sound.backed.deliver truthful ends done
  bounded := sound.bounded
  current := sound.current

/-- The collection of a listed interface reports what the kernel had for it when it
was heard of, and that is recent enough where the interface is up to date. -/
theorem Sound.collected (sound : system.Sound text) {ethtool : String → Option EthtoolLink}
    (refreshed : system.Refreshed text interfaces bufSize (.collect ethtool)) :
    NetworkCollection.Current text system {
      previous := system.previous
      moment := system.now
      cached := (getAllStats system.cache).map (text ·.name)
      report := ResourcesProbe.collectNetwork text interfaces ethtool system.cache } := by
  intro iface reported cached
  obtain ⟨ifname, listed, rfl⟩ := List.mem_map.mp reported
  rw [collectInterface_ifname] at cached ⊢
  obtain ⟨stats, found⟩ := nlMapFind_of_mem cached
  obtain ⟨safe, upToDate⟩ := refreshed ifname listed stats found
  obtain ⟨member, named⟩ := nlMapFind_some found
  obtain ⟨index, present⟩ := mem_getAllStats member
  obtain ⟨rfl, row, held, name, counters⟩ := sound.backed index stats present
  have facts : text row.name = ifname ∧ row.counters =
      (collectInterface text ethtool (getAllStats system.cache) ifname).counters := by
    rw [collectInterface_counters safe found, ← name, ← counters]
    exact ⟨named, rfl⟩
  rcases upToDate with recent | unchanged
  · exact ⟨_, stats.ifindex, row, recent, rowAt_bound held, held, facts⟩
  · exact ⟨_, stats.ifindex, row, Nat.le_refl _, sound.bounded, unchanged.trans held, facts⟩

theorem Sound.collect (sound : system.Sound text) {ethtool : String → Option EthtoolLink}
    (refreshed : system.Refreshed text interfaces bufSize (.collect ethtool))
    (taken : system.step text interfaces bufSize (.collect ethtool) = some next) :
    next.Sound text := by
  obtain rfl := Option.some.inj taken
  refine ⟨sound.queued, sound.backed, ?_, ?_⟩
  · simp [previous, now]
  · intro collection member
    rcases List.mem_append.mp member with earlier | last
    · exact sound.current collection earlier
    · obtain rfl := List.mem_singleton.mp last
      exact sound.collected refreshed

theorem Sound.step (sound : system.Sound text) {action : NetworkAction}
    (refreshed : system.Refreshed text interfaces bufSize action)
    (taken : system.step text interfaces bufSize action = some next) : next.Sound text := by
  cases action with
  | traffic index counters =>
      obtain ⟨link, _, rfl⟩ := Option.map_eq_some_iff.mp taken
      exact sound.advance _
  | newlink index link message =>
      obtain ⟨⟨_, _, describes⟩, same⟩ := Option.ite_none_right_eq_some.mp taken
      obtain rfl := Option.some.inj same
      exact (sound.advance _).notify message fun _ => describes
  | dellink index message =>
      obtain ⟨⟨_, _, describes⟩, same⟩ := Option.ite_none_right_eq_some.mp taken
      obtain rfl := Option.some.inj same
      exact (sound.notify message fun _ => describes).advance _
  | address message =>
      obtain ⟨other, same⟩ := Option.ite_none_left_eq_some.mp taken
      obtain rfl := Option.some.inj same
      exact sound.notify message fun link => absurd link other
  | dump first rest =>
      obtain ⟨describes, same⟩ := Option.ite_none_right_eq_some.mp taken
      obtain rfl := Option.some.inj same
      exact sound.send first rest describes
  | bind =>
      obtain ⟨_, same⟩ := Option.ite_none_left_eq_some.mp taken
      obtain rfl := Option.some.inj same
      refine ⟨?_, sound.backed, sound.bounded, sound.current⟩
      intro queue bound datagram member
      obtain rfl := Option.some.inj bound
      cases member
  | drainResponse =>
      obtain ⟨queue, bound, done⟩ := Option.bind_eq_some_iff.mp taken
      obtain ⟨cache, run, rfl⟩ := Option.map_eq_some_iff.mp done
      rw [MonitorCall.run_eq, MonitorCall.messages, responseMessages_eq] at run
      refine sound.drain bound ?_ (fun _ => mem_responseDeliveries) (refreshed queue bound) run
      intro datagram member
      exact List.dropWhile_subset _ (List.mem_of_mem_drop member)
  | drainEvents =>
      obtain ⟨queue, bound, done⟩ := Option.bind_eq_some_iff.mp taken
      obtain ⟨cache, run, rfl⟩ := Option.map_eq_some_iff.mp done
      rw [MonitorCall.run_eq, MonitorCall.messages, eventMessages_eq] at run
      refine sound.drain bound ?_ (fun _ => mem_eventDeliveries) (refreshed queue bound) run
      intro datagram member
      cases member
  | collect ethtool => exact sound.collect refreshed taken

theorem sound_start (links : LinkTable) : Sound text { links } where
  queued := by
    intro queue bound
    cases bound
  backed := by
    intro index stats present
    simp at present
  bounded := Nat.le_refl _
  current := by
    intro collection member
    cases member

/-- Where every step of a run is a refreshed one, every collection of it reports
counters that are not older than the collection before it. -/
theorem collected_counters_current (text : ByteString → String) (interfaces : List String)
    (bufSize : Nat) (links : LinkTable) (actions : List NetworkAction)
    (refreshed : EachStep (step text interfaces bufSize) { links }
      (Refreshed text interfaces bufSize) actions) :
    Throughout (step text interfaces bufSize) { links } (CountersCurrent text) actions := by
  refine (throughout_of_eachStep (Sound text) (sound_start links) ?_ refreshed).imp
    fun _ sound => sound.current
  intro system action next sound permitted taken
  exact sound.step permitted taken

end Sound

end NetworkSystem

def eth0Bytes (rxBytes : UInt8) : Memory :=
  [248, 0, 0, 0, 16, 0, 0, 0, 0, 0, 0, 0, 0, 0, 0, 0,
    0, 0, 1, 0, 2, 0, 0, 0, 0x41, 0, 0, 0, 0, 0, 0, 0,
    9, 0, 3, 0, 101, 116, 104, 48, 0, 0, 0, 0, 204, 0, 23, 0] ++
    List.replicate 16 0 ++ [rxBytes] ++ List.replicate 183 0

theorem eth0Bytes_length (rxBytes : UInt8) : (eth0Bytes rxBytes).length = 248 := by
  simp only [eth0Bytes, List.length_append, List.length_replicate, List.length_cons,
    List.length_nil]

theorem eth0Bytes_tiled (rxBytes : UInt8) :
    Tiled ((eth0Bytes rxBytes).drop linkAttributes) := by
  have size : ((eth0Bytes rxBytes).drop linkAttributes).length = 216 := by
    simp [eth0Bytes_length, linkAttributes]
  refine .cons (rfl : _ = some 9) (by decide) (by rw [size]; decide) ?_
  refine .cons (rfl : _ = some 204) (by decide) (by rw [List.length_drop, size]; decide) ?_
  exact .nil

def eth0Message (rxBytes : UInt8)
    (parsed : (attributesIn ((eth0Bytes rxBytes).drop linkAttributes)).all fun attr =>
      (parseRtnlStats attr {}).isSome) : KernelMessage where
  bytes := eth0Bytes rxBytes
  header := by simp [eth0Bytes_length, nlmsgHdrlen]
  length := by rw [eth0Bytes_length]; rfl
  padded := by rw [eth0Bytes_length]; rfl
  room _ := by simp [eth0Bytes_length, linkAttributes]
  tiled _ := eth0Bytes_tiled rxBytes
  legible _ attr member :=
    (parseRtnlStats_isSome attr {}).mp (List.all_eq_true.mp parsed attr member)

def doneMessage : KernelMessage where
  bytes := [20, 0, 0, 0, 3, 0, 0, 0, 0, 0, 0, 0, 0, 0, 0, 0, 0, 0, 0, 0]
  header := by decide
  length := rfl
  padded := rfl
  room link := absurd link (by decide)
  tiled link := absurd link (by decide)
  legible link := absurd link (by decide)

def asciiText (bytes : ByteString) : String :=
  String.ofList (bytes.map fun byte => Char.ofNat byte.toNat)

def eth0 (rxBytes : UInt64) : KernelLink :=
  { name := [101, 116, 104, 48], counters := { rxBytes } }

def oneLink : NetworkSystem := { links := .insert ∅ 2 (eth0 5) }

def initialised : List NetworkAction :=
  [.bind, .dump (eth0Message 5 (by decide +kernel)) [], .dump doneMessage [], .drainResponse]

def announcedTraffic : List NetworkAction :=
  initialised ++ [NetworkAction.collect fun _ => none, .traffic 2 { rxBytes := 7 },
    .newlink 2 (eth0 7) (eth0Message 7 (by decide +kernel)), .drainEvents, .collect fun _ => none]

def silentTraffic : List NetworkAction :=
  initialised ++ [NetworkAction.traffic 2 { rxBytes := 7 }, .drainEvents,
    .collect fun _ => none, .drainEvents, .collect fun _ => none]

namespace NetworkSystem

def reportedBytes (system : NetworkSystem) : List (List (String × UInt64)) :=
  system.collections.map fun collection =>
    collection.report.map fun iface => (iface.ifname, iface.rxBytes)

theorem announced_traffic_current :
    Throughout (step asciiText [] 512) oneLink (CountersCurrent asciiText) announcedTraffic ∧
      (follow (step asciiText [] 512) oneLink announcedTraffic).map reportedBytes =
        some [[("eth0", 5)], [("eth0", 7)]] := by
  constructor
  · apply collected_counters_current
    apply eachStep_of_checkSteps
    decide +kernel
  · decide +kernel

/-- Both collections report what the dump said; the kernel had counted on before either. -/
theorem silent_traffic_stale :
    ¬Throughout (step asciiText [] 512) oneLink (CountersCurrent asciiText) silentTraffic := by
  have shape : (follow (step asciiText [] 512) oneLink silentTraffic).any
      (fun system => !decide (system.CountersCurrent asciiText)) := by
    decide +kernel
  intro always
  obtain ⟨system, reached, stale⟩ := (Option.any_eq_true _ _).mp shape
  have current := always silentTraffic [] system (by simp) reached
  simp [current] at stale

end NetworkSystem

end EdgeHealthd
