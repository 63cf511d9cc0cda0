import EdgeHealthd.NetlinkMonitor
import EdgeHealthd.Library.History

/-!
Which interfaces the netlink cache lists after any sequence of receive calls:
those that any link message was ever about. No message takes one away again.
-/

namespace EdgeHealthd

open Attributes History

inductive LinkChange
  | added
  | removed
  deriving DecidableEq

/-- What a message says about the presence of one interface. -/
def linkChange (index : Int) (nlh : Memory) : Option LinkChange :=
  if (nlh.read 20 4).map toInt32 = some index then
    if nlh.read 4 2 = some rtmNewlink then some .added
    else if nlh.read 4 2 = some rtmDellink then some .removed
    else none
  else none

def responseMessages : Memory → List Memory → List Memory
  | _, [] => []
  | buffer, datagram :: rest =>
      if datagram = [] then []
      else
        let messages := messagesIn (receive buffer datagram) datagram.length
        messages.takeWhile (fun nlh => !endsDump nlh) ++
          if messages.any endsDump then [] else responseMessages (receive buffer datagram) rest

def eventMessages : Memory → List Memory → List Memory
  | _, [] => []
  | buffer, datagram :: rest =>
      if datagram = [] then []
      else messagesIn (receive buffer datagram) datagram.length ++
        eventMessages (receive buffer datagram) rest

def MonitorCall.messages (bufSize : Nat) : MonitorCall → List Memory
  | .drainResponse datagrams => responseMessages (emptyBuffer bufSize) datagrams
  | .processIncoming datagram =>
      messagesIn (receive (emptyBuffer bufSize) datagram) datagram.length
  | .drainEvents datagrams => eventMessages (emptyBuffer bufSize) datagrams

theorem drainResponseLoop_eq (buffer : Memory) (cache : NetlinkCache) (datagrams : List Memory) :
    drainResponseLoop buffer cache datagrams =
      (responseMessages buffer datagrams).foldlM dispatch cache := by
  induction datagrams generalizing buffer cache with
  | nil => rfl
  | cons datagram rest ih =>
      unfold drainResponseLoop responseMessages
      by_cases nothing : datagram = []
      · simp [nothing]
      · simp only [nothing, if_false, List.foldlM_append, Option.bind_eq_bind]
        congr 1
        funext updated
        split
        · rfl
        · exact ih _ updated

theorem drainEventsLoop_eq (buffer : Memory) (cache : NetlinkCache) (datagrams : List Memory) :
    drainEventsLoop buffer cache datagrams =
      (eventMessages buffer datagrams).foldlM dispatch cache := by
  induction datagrams generalizing buffer cache with
  | nil => rfl
  | cons datagram rest ih =>
      unfold drainEventsLoop eventMessages
      by_cases nothing : datagram = []
      · simp [nothing]
      · simp only [nothing, if_false, List.foldlM_append, Option.bind_eq_bind]
        congr 1
        funext updated
        exact ih _ updated

theorem MonitorCall.run_eq (bufSize : Nat) (cache : NetlinkCache) (call : MonitorCall) :
    call.run bufSize cache = (call.messages bufSize).foldlM dispatch cache := by
  cases call with
  | drainResponse datagrams => exact drainResponseLoop_eq _ cache datagrams
  | processIncoming datagram => rfl
  | drainEvents datagrams => exact drainEventsLoop_eq _ cache datagrams

theorem runMonitor_eq (bufSize : Nat) (cache : NetlinkCache) (calls : List MonitorCall) :
    runMonitor bufSize cache calls =
      (calls.flatMap (MonitorCall.messages bufSize)).foldlM dispatch cache := by
  unfold runMonitor
  induction calls generalizing cache with
  | nil => rfl
  | cons call rest ih =>
      simp only [List.foldlM_cons, List.flatMap_cons, List.foldlM_append, MonitorCall.run_eq]
      congr 1
      funext updated
      exact ih updated

theorem parseRtnlStats_ifindex (attr : Memory) (stats : NetlinkInterfaceStats) :
    Yields (fun next => next.ifindex = stats.ifindex) (parseRtnlStats attr stats) := by
  have checked : ∀ {wanted : Nat} {update : List UInt8 → NetlinkInterfaceStats},
      (∀ bytes, (update bytes).ifindex = stats.ifindex) →
      Yields (fun next => next.ifindex = stats.ifindex)
        ((attrPayloadLen attr).bind fun length =>
          if length = wanted then (attr.slice 4 wanted).map update else some stats) :=
    fun same => Yields.bind fun _ => Yields.ite (Yields.map same) (Yields.some rfl)
  refine Yields.bind fun type => ?_
  refine Yields.ite (checked fun _ => rfl) ?_
  refine Yields.ite (Yields.map fun _ => rfl) ?_
  refine Yields.ite (Yields.map fun _ => rfl) (Yields.ite (Yields.map fun _ => rfl) ?_)
  refine Yields.ite (checked fun _ => rfl) ?_
  refine Yields.ite (Yields.map fun _ => rfl) (Yields.ite (Yields.map fun _ => rfl) ?_)
  exact Yields.ite (Yields.map fun _ => rfl) (Yields.ite (Yields.map fun _ => rfl) (Yields.some rfl))

theorem NetlinkInterfaceStats.withAddress_eq (stats : NetlinkInterfaceStats)
    (text : AddressText) :
    ∃ address, stats.withAddress text = { stats with ipv4Addr := address } := by
  unfold withAddress
  generalize (if text.localStr ≠ "" then text.localStr else text.addrStr) = chosen
  dsimp only
  split
  · exact ⟨some chosen, rfl⟩
  · exact ⟨stats.ipv4Addr, rfl⟩

theorem dataCb_cases {cache updated : NetlinkCache} {nlh : Memory}
    (done : dataCb cache nlh = some updated) :
    ∃ raw stats, nlh.read 20 4 = some raw ∧ stats.ifindex = toInt32 raw ∧
      updated = cache.insert (toInt32 raw) stats := by
  unfold dataCb at done
  obtain ⟨length, _, done⟩ := Option.bind_eq_some_iff.mp done
  obtain ⟨entry, header, done⟩ := Option.bind_eq_some_iff.mp done
  obtain ⟨stats, walked, rfl⟩ := Option.map_eq_some_iff.mp done
  obtain ⟨raw, present, header⟩ := Option.bind_eq_some_iff.mp header
  obtain ⟨flags, _, rfl⟩ := Option.map_eq_some_iff.mp header
  refine ⟨raw, stats, present, ?_, rfl⟩
  refine walk_preserves (fun stats : NetlinkInterfaceStats => stats.ifindex = toInt32 raw) ?_ rfl
    walked
  intro attr state next same parsed
  exact (parseRtnlStats_ifindex attr state next parsed).trans same

theorem addrDataCb_cases {cache updated : NetlinkCache} {nlh : Memory}
    (done : addrDataCb cache nlh = some updated) :
    updated = cache ∨ ∃ index entry address, cache[index]? = some entry ∧
      updated = cache.insert index { entry with ipv4Addr := address } := by
  unfold addrDataCb at done
  obtain ⟨family, _, done⟩ := Option.bind_eq_some_iff.mp done
  split at done
  · exact Or.inl (Option.some.inj done).symm
  · obtain ⟨raw, _, done⟩ := Option.bind_eq_some_iff.mp done
    cases found : cache[toInt32 raw]? with
    | none =>
        rw [found] at done
        exact Or.inl (Option.some.inj done).symm
    | some entry =>
        rw [found] at done
        obtain ⟨type, _, done⟩ := Option.bind_eq_some_iff.mp done
        split at done
        · exact Or.inr ⟨toInt32 raw, entry, none, found, (Option.some.inj done).symm⟩
        · obtain ⟨length, _, done⟩ := Option.bind_eq_some_iff.mp done
          obtain ⟨text, _, rfl⟩ := Option.map_eq_some_iff.mp done
          obtain ⟨address, same⟩ := entry.withAddress_eq text
          exact Or.inr ⟨toInt32 raw, entry, address, found, by rw [same]⟩

theorem dispatch_cases {cache updated : NetlinkCache} {nlh : Memory}
    (done : dispatch cache nlh = some updated) :
    (∃ index stats, stats.ifindex = index ∧ updated = cache.insert index stats ∧
      ∀ other, (linkChange other nlh).isSome ↔ other = index) ∨
    ((∀ index, linkChange index nlh = none) ∧
      (updated = cache ∨ ∃ index entry address, cache[index]? = some entry ∧
        updated = cache.insert index { entry with ipv4Addr := address })) := by
  unfold dispatch at done
  obtain ⟨type, typed, done⟩ := Option.bind_eq_some_iff.mp done
  by_cases link : type = rtmNewlink ∨ type = rtmDellink
  · rw [if_pos link] at done
    obtain ⟨raw, stats, present, same, rfl⟩ := dataCb_cases done
    refine Or.inl ⟨toInt32 raw, stats, same, rfl, fun other => ?_⟩
    simp only [linkChange, present, Option.map_some, Option.some.injEq, typed]
    by_cases chosen : toInt32 raw = other
    · subst chosen
      rcases link with rfl | rfl <;> simp [rtmNewlink, rtmDellink]
    · simp [chosen, Ne.symm chosen]
  · have silent : ∀ index, linkChange index nlh = none := by
      intro index
      simp only [not_or] at link
      simp [linkChange, typed, link]
    refine Or.inr ⟨silent, ?_⟩
    rw [if_neg link] at done
    split at done
    · exact addrDataCb_cases done
    · exact Or.inl (Option.some.inj done).symm

def Keyed (cache : NetlinkCache) : Prop :=
  ∀ (index : Int) (stats : NetlinkInterfaceStats), cache[index]? = some stats →
    stats.ifindex = index

/-- The cache is keyed by interface index and has an entry for exactly the
interfaces that some link message was about. -/
structure Tracks (messages : List Memory) (cache : NetlinkCache) : Prop where
  keyed : Keyed cache
  seen : ∀ index, index ∈ cache ↔ (latest (linkChange index) messages).isSome

theorem tracks_empty : Tracks [] ∅ := by
  constructor
  · intro index stats found
    simp at found
  · intro index
    simp [latest]

theorem keyed_insert {cache : NetlinkCache} {index : Int} {stats : NetlinkInterfaceStats}
    (keyed : Keyed cache) (same : stats.ifindex = index) : Keyed (cache.insert index stats) := by
  intro other entry found
  rw [Std.TreeMap.getElem?_insert] at found
  split at found
  · rename_i equal
    obtain rfl : index = other := by simpa using equal
    exact Option.some.inj found ▸ same
  · exact keyed other entry found

theorem Tracks.dispatch {messages : List Memory} {cache updated : NetlinkCache} {nlh : Memory}
    (tracks : Tracks messages cache) (done : dispatch cache nlh = some updated) :
    Tracks (messages ++ [nlh]) updated := by
  rcases dispatch_cases done with ⟨index, stats, same, rfl, about⟩ | ⟨silent, unchanged⟩
  · refine ⟨keyed_insert tracks.keyed same, fun other => ?_⟩
    rw [latest_snoc, Option.isSome_or, Bool.or_eq_true, about other, ← tracks.seen other,
      Std.TreeMap.mem_insert, Std.LawfulEqCmp.compare_eq_iff_eq, eq_comm]
  · have kept : ∀ index, latest (linkChange index) (messages ++ [nlh]) =
        latest (linkChange index) messages := by
      intro index
      simp [latest_snoc, silent index]
    rcases unchanged with rfl | ⟨index, entry, address, found, rfl⟩
    · refine ⟨tracks.keyed, fun index => ?_⟩
      rw [kept, tracks.seen]
    · refine ⟨keyed_insert tracks.keyed (tracks.keyed index entry found), fun other => ?_⟩
      rw [kept, ← tracks.seen, Std.TreeMap.mem_insert]
      constructor
      · rintro (equal | member)
        · obtain rfl : index = other := by simpa using equal
          exact Std.TreeMap.mem_iff_isSome_getElem?.mpr (by simp [found])
        · exact member
      · exact Or.inr

theorem tracks_of_fold {messages : List Memory} {cache : NetlinkCache}
    (run : messages.foldlM dispatch ∅ = some cache) : Tracks messages cache := by
  induction messages using List.reverseRecOn generalizing cache with
  | nil => exact Option.some.inj run ▸ tracks_empty
  | append_singleton past nlh ih =>
      rw [List.foldlM_append] at run
      obtain ⟨before, earlier, last⟩ := Option.bind_eq_some_iff.mp run
      exact (ih earlier).dispatch (by simpa using last)

def monitorMessages (bufSize : Nat) (calls : List MonitorCall) : List Memory :=
  calls.flatMap (MonitorCall.messages bufSize)

theorem runMonitor_tracks {bufSize : Nat} {calls : List MonitorCall} {cache : NetlinkCache}
    (run : runMonitor bufSize ∅ calls = some cache) :
    Tracks (monitorMessages bufSize calls) cache := by
  rw [runMonitor_eq] at run
  exact tracks_of_fold run

theorem Tracks.count_getAllStats {messages : List Memory} {cache : NetlinkCache}
    (tracks : Tracks messages cache) (index : Int) :
    (getAllStats cache).countP (fun stats => stats.ifindex == index) =
      if (latest (linkChange index) messages).isSome then 1 else 0 := by
  have keys : (getAllStats cache).map NetlinkInterfaceStats.ifindex = cache.keys := by
    rw [← Std.TreeMap.map_fst_toList_eq_keys, getAllStats, List.map_map]
    apply List.map_congr_left
    intro pair member
    exact tracks.keyed pair.1 pair.2 (Std.TreeMap.mem_toList_iff_getElem?_eq_some.mp member)
  have counted : (getAllStats cache).countP (fun stats => stats.ifindex == index) =
      cache.keys.count index := by
    rw [← keys, List.count, List.countP_map]
    rfl
  rw [counted, Std.TreeMap.nodup_keys.count]
  simp only [Std.TreeMap.mem_keys, tracks.seen]

/-- One entry for each interface whose latest link message announced it, and
none for one whose latest link message removed it. -/
def ListsPresentInterfaces (messages : List Memory) (listed : List NetlinkInterfaceStats) : Prop :=
  ∀ index, listed.countP (fun stats => stats.ifindex == index) =
    if latest (linkChange index) messages = some .added then 1 else 0

/-- After any run, the listing is right exactly when no interface has been
removed without being announced again. -/
theorem getAllStats_listsPresent_iff (bufSize : Nat) (calls : List MonitorCall)
    (cache : NetlinkCache) (run : runMonitor bufSize ∅ calls = some cache) :
    ListsPresentInterfaces (monitorMessages bufSize calls) (getAllStats cache) ↔
      ∀ index, latest (linkChange index) (monitorMessages bufSize calls) ≠ some .removed := by
  have tracks := runMonitor_tracks run
  unfold ListsPresentInterfaces
  simp only [tracks.count_getAllStats]
  refine forall_congr' fun index => ?_
  cases latest (linkChange index) (monitorMessages bufSize calls) with
  | none => simp
  | some change =>
      cases change with
      | added => simp
      | removed => simp

def removedLinkMessage : Memory :=
  [40, 0, 0, 0, 17, 0, 0, 0, 0, 0, 0, 0, 0, 0, 0, 0,
    0, 0, 1, 0, 2, 0, 0, 0, 0, 0, 0, 0, 0, 0, 0, 0,
    5, 0, 16, 0, 2, 0, 0, 0]

def replugged : List MonitorCall :=
  [.drainResponse [shortLinkMessage], .drainEvents [removedLinkMessage],
    .drainEvents [shortLinkMessage]]

theorem getAllStats_listsPresent_replugged :
    ∃ cache, runMonitor 4096 ∅ replugged = some cache ∧
      ListsPresentInterfaces (monitorMessages 4096 replugged) (getAllStats cache) := by
  have returned : (runMonitor 4096 ∅ replugged).isSome := by decide +kernel
  obtain ⟨cache, run⟩ := Option.isSome_iff_exists.mp returned
  refine ⟨cache, run, (getAllStats_listsPresent_iff _ _ cache run).mpr fun index removed => ?_⟩
  have about : ∀ nlh ∈ monitorMessages 4096 replugged,
      (nlh.read 20 4).map toInt32 = some 2 := by decide +kernel
  have announced : latest (linkChange 2) (monitorMessages 4096 replugged) = some .added := by
    decide +kernel
  obtain ⟨nlh, member, changed⟩ :=
    (latest_isSome_iff _ _).mp (Option.isSome_iff_exists.mpr ⟨_, removed⟩)
  have same : index = 2 := by
    rw [linkChange, about nlh member] at changed
    split at changed
    · exact (Option.some.inj ‹_›).symm
    · cases changed
  rw [same, announced] at removed
  cases removed

theorem removed_interface_stays_listed :
    ∃ cache, runMonitor 4096 ∅
        [.drainResponse [shortLinkMessage], .drainEvents [removedLinkMessage]] = some cache ∧
      ¬ListsPresentInterfaces (monitorMessages 4096
        [.drainResponse [shortLinkMessage], .drainEvents [removedLinkMessage]])
        (getAllStats cache) := by
  have listed : (runMonitor 4096 ∅
      [.drainResponse [shortLinkMessage], .drainEvents [removedLinkMessage]]).map
      (fun cache => (getAllStats cache).countP (fun stats => stats.ifindex == 2)) = some 1 := by
    decide +kernel
  have gone : latest (linkChange 2) (monitorMessages 4096
      [.drainResponse [shortLinkMessage], .drainEvents [removedLinkMessage]]) =
      some .removed := by
    decide +kernel
  obtain ⟨cache, run, counted⟩ := Option.map_eq_some_iff.mp listed
  refine ⟨cache, run, fun right => ?_⟩
  have expected := right 2
  rw [counted, gone] at expected
  simp at expected

end EdgeHealthd
