import EdgeHealthd.NetlinkMonitor
import EdgeHealthd.Library.Machine
import Mathlib.Data.Finset.Basic

/-!
The one address the cache keeps for an interface against the set of addresses that
the interface has. The set is recorded beside the cache, from the same messages.
-/

namespace EdgeHealthd

open Attributes Machine

/-- `IFA_LOCAL` before `IFA_ADDRESS`. -/
def AddressText.chosen (text : AddressText) : String :=
  if text.localStr ≠ "" then text.localStr else text.addrStr

theorem withAddress_ipv4Addr (stats : NetlinkInterfaceStats) {text : AddressText}
    (given : text.chosen ≠ "") : (stats.withAddress text).ipv4Addr = some text.chosen := by
  unfold NetlinkInterfaceStats.withAddress
  exact congrArg NetlinkInterfaceStats.ipv4Addr (if_pos given)

/-- The kernel tells two assignments of one address apart by the peer and the prefix length. -/
structure AssignedAddress where
  text : AddressText
  prefixLen : Nat
  deriving DecidableEq

/-- What the attributes inside a message say, without what follows it. -/
def ownText (message : Memory) : Option AddressText :=
  (attributesIn (message.drop addrAttributes)).foldlM
    (fun text attr => parseIfaAddress attr text) {}

/-- An IPv4 address message of one interface where it stands in the receive buffer.
Where it adds an address, what follows it must end the walk over its attributes: a
length that none of them can have, such as the zeroes of the buffer. -/
structure AddrMessage (ifindex : Int) where
  message : NetlinkMessage
  after : Memory
  text : AddressText
  family : message.bytes.read 16 1 = some afInet
  index : (message.bytes.read 20 4).map toInt32 = some ifindex
  kind : message.bytes.read 4 2 = some rtmNewaddr ∨ message.bytes.read 4 2 = some rtmDeladdr
  tiled : Tiled (message.bytes.drop addrAttributes)
  parsed : ownText message.bytes = some text
  given : text.chosen ≠ ""
  ends : message.bytes.read 4 2 = some rtmNewaddr →
    attrOk after (message.bytes.length - addrAttributes) = some false

namespace AddrMessage

variable {ifindex : Int} (received : AddrMessage ifindex)

def address : String := received.text.chosen

def assignment : AssignedAddress where
  text := received.text
  prefixLen := (received.message.bytes.read 17 1).getD 0

def deletes : Bool := received.message.bytes.read 4 2 == some rtmDeladdr

def nlh : Memory := received.message.bytes ++ received.after

theorem length_eq (room : addrAttributes ≤ received.message.bytes.length) :
    (received.message.bytes.length : Int) - addrAttributes =
      (received.message.bytes.drop addrAttributes).length := by
  rw [List.length_drop]
  omega

theorem header_le : addrAttributes ≤ received.message.bytes.length := by
  obtain ⟨raw, found, _⟩ := Option.map_eq_some_iff.mp received.index
  have bound := Memory.read_bound found
  unfold addrAttributes
  omega

theorem walk_eq (adds : received.message.bytes.read 4 2 = some rtmNewaddr) :
    walk parseIfaAddress (received.message.bytes.length - addrAttributes)
      (received.nlh.drop addrAttributes) {} = some received.text := by
  have room := received.header_le
  have ended := received.ends adds
  rw [received.length_eq room] at ended ⊢
  rw [nlh, List.drop_append_of_le_length room]
  obtain ⟨final, folded, walked⟩ := received.tiled.walk ended
    (fun attr state readable =>
      Option.isSome_iff_exists.mp ((parseIfaAddress_isSome attr state).mpr readable))
    parseIfaAddress_extends
    (by
      intro attr member
      obtain ⟨before, next, visited⟩ := foldlM_visits received.parsed attr member
      exact (parseIfaAddress_isSome attr before).mp (by simp [visited])) {}
  have same : some final = some received.text := folded.symm.trans received.parsed
  rw [walked, same]

theorem dispatch_eq {cache : NetlinkCache} {entry : NetlinkInterfaceStats}
    (cached : cache[ifindex]? = some entry) :
    dispatch cache received.nlh = some (cache.insert ifindex
      (if received.deletes then { entry with ipv4Addr := none }
      else entry.withAddress received.text)) := by
  obtain ⟨raw, found, rfl⟩ := Option.map_eq_some_iff.mp received.index
  have type : ∀ {value}, received.message.bytes.read 4 2 = some value →
      received.nlh.read 4 2 = some value := fun typed => Memory.read_append typed _
  have family : received.nlh.read 16 1 = some afInet := Memory.read_append received.family _
  have index : received.nlh.read 20 4 = some raw := Memory.read_append found _
  have length : received.nlh.read 0 4 = some received.message.bytes.length :=
    Memory.read_append received.message.length _
  rcases received.kind with adds | removes
  · have kept : received.deletes = false := by
      unfold deletes
      rw [adds]
      decide
    simp only [dispatch, type adds, Option.bind_some, addrDataCb, family, index, cached, length,
      received.walk_eq adds, kept, Option.map_some]
    rfl
  · have gone : received.deletes = true := by simp [deletes, removes]
    simp only [dispatch, type removes, Option.bind_some, addrDataCb, family, index, cached, gone,
      if_true]
    rfl

/-- A repeated announcement of an address changes nothing. -/
def assign (assigned : Finset AssignedAddress) : Finset AssignedAddress :=
  if received.deletes then assigned.erase received.assignment
  else insert received.assignment assigned

end AddrMessage

structure ShowsAssigned (assigned : Finset AssignedAddress) (shown : Option String) : Prop where
  empty : shown = none ↔ assigned = ∅
  member : ∀ address, shown = some address → ∃ other ∈ assigned, other.text.chosen = address

section Runs

variable {ifindex : Int}

/-- The cache, with the addresses that the interface has. -/
def addrStep (state : NetlinkCache × Finset AssignedAddress) (received : AddrMessage ifindex) :
    Option (NetlinkCache × Finset AssignedAddress) :=
  (dispatch state.1 received.nlh).map fun cache => (cache, received.assign state.2)

def AddressCurrent (ifindex : Int) (state : NetlinkCache × Finset AssignedAddress) : Prop :=
  ∃ entry, state.1[ifindex]? = some entry ∧ ShowsAssigned state.2 entry.ipv4Addr

/-- A deletion takes the only address. -/
def DeletesLast (state : NetlinkCache × Finset AssignedAddress) (received : AddrMessage ifindex) : Prop :=
  received.deletes = true → state.2 ⊆ {received.assignment}

instance (state : NetlinkCache × Finset AssignedAddress) (received : AddrMessage ifindex) :
    Decidable (DeletesLast state received) :=
  inferInstanceAs (Decidable (received.deletes = true → state.2 ⊆ {received.assignment}))

theorem addrStep_eq {state : NetlinkCache × Finset AssignedAddress} {entry : NetlinkInterfaceStats}
    (received : AddrMessage ifindex) (cached : state.1[ifindex]? = some entry) :
    ∃ cache updated, addrStep state received = some (cache, received.assign state.2) ∧
      cache[ifindex]? = some updated ∧
      updated.ipv4Addr = if received.deletes then none else some received.address := by
  let updated := if received.deletes then { entry with ipv4Addr := none }
    else entry.withAddress received.text
  refine ⟨state.1.insert ifindex updated, updated, ?_, Std.TreeMap.getElem?_insert_self, ?_⟩
  · rw [addrStep, received.dispatch_eq cached, Option.map_some]
  · dsimp only [updated]
    cases received.deletes with
    | true => rfl
    | false => exact withAddress_ipv4Addr entry received.given

theorem showsAssigned_assign_iff (assigned : Finset AssignedAddress)
    (received : AddrMessage ifindex) :
    ShowsAssigned (received.assign assigned)
        (if received.deletes then none else some received.address) ↔
      (received.deletes = true → assigned ⊆ {received.assignment}) := by
  unfold AddrMessage.assign
  cases received.deletes with
  | true =>
      simp only [if_true, forall_const, Finset.subset_singleton_iff, ← Finset.erase_eq_empty_iff]
      exact ⟨fun shows => shows.empty.mp rfl, fun none => ⟨by simp [none], by simp⟩⟩
  | false =>
      simp only [Bool.false_eq_true, if_false, false_implies, iff_true]
      refine ⟨by simp, ?_⟩
      intro address shown
      obtain rfl := Option.some.inj shown
      exact ⟨received.assignment, Finset.mem_insert_self _ _, rfl⟩

theorem addressCurrent_step_iff {state next : NetlinkCache × Finset AssignedAddress}
    {received : AddrMessage ifindex} (cached : ∃ entry, state.1[ifindex]? = some entry)
    (done : addrStep state received = some next) :
    AddressCurrent ifindex next ↔ DeletesLast state received := by
  obtain ⟨entry, found⟩ := cached
  obtain ⟨cache, updated, taken, kept, shown⟩ := addrStep_eq received found
  obtain rfl := Option.some.inj (taken.symm.trans done)
  unfold AddressCurrent DeletesLast
  rw [← showsAssigned_assign_iff, ← shown]
  constructor
  · rintro ⟨other, same, shows⟩
    obtain rfl := Option.some.inj (kept.symm.trans same)
    exact shows
  · intro shows
    exact ⟨updated, kept, shows⟩

theorem addrStep_keeps {state next : NetlinkCache × Finset AssignedAddress}
    {received : AddrMessage ifindex} (cached : ∃ entry, state.1[ifindex]? = some entry)
    (done : addrStep state received = some next) : ∃ entry, next.1[ifindex]? = some entry := by
  obtain ⟨entry, found⟩ := cached
  obtain ⟨cache, updated, taken, kept, _⟩ := addrStep_eq received found
  obtain rfl := Option.some.inj (taken.symm.trans done)
  exact ⟨updated, kept⟩

theorem follow_addrStep (messages : List (AddrMessage ifindex))
    {state : NetlinkCache × Finset AssignedAddress} (cached : ∃ entry, state.1[ifindex]? = some entry) :
    ∃ final, follow addrStep state messages = some final := by
  induction messages generalizing state with
  | nil => exact ⟨state, rfl⟩
  | cons received rest ih =>
      obtain ⟨entry, found⟩ := cached
      obtain ⟨cache, updated, taken, kept, _⟩ := addrStep_eq received found
      obtain ⟨final, later⟩ := @ih (cache, received.assign state.2) ⟨updated, kept⟩
      exact ⟨final, follow_cons_some.mpr ⟨_, taken, later⟩⟩

end Runs

/-- The cached address is one of the interface's, and absent only where it has none,
after every message exactly when no deletion leaves another address behind. -/
theorem ipv4_addr_current_iff {ifindex : Int} (cache : NetlinkCache)
    (assigned : Finset AssignedAddress)
    (current : AddressCurrent ifindex (cache, assigned)) (messages : List (AddrMessage ifindex)) :
    (∃ final, follow addrStep (cache, assigned) messages = some final) ∧
      (Throughout addrStep (cache, assigned) (AddressCurrent ifindex) messages ↔
        EachStep addrStep (cache, assigned) DeletesLast messages) := by
  obtain ⟨entry, cached, shows⟩ := current
  obtain ⟨final, run⟩ := follow_addrStep messages ⟨entry, cached⟩
  refine ⟨⟨final, run⟩, ?_⟩
  apply throughout_iff_eachStep (fun state => ∃ entry, state.1[ifindex]? = some entry)
  · exact ⟨entry, cached⟩
  · exact ⟨entry, cached, shows⟩
  · intro state received next kept done
    exact addrStep_keeps kept done
  · intro state received next kept _ done
    exact addressCurrent_step_iff kept done
  · exact run

def tenMessage (deletes : Bool) (host : Fin 2) : AddrMessage 2 where
  message := {
    bytes := [32, 0, 0, 0, if deletes then 21 else 20, 0, 0, 0, 0, 0, 0, 0, 0, 0, 0, 0,
      2, 24, 128, 0, 2, 0, 0, 0, 8, 0, 2, 0, 10, 0, 0, 1 + UInt8.ofNat host]
    header := by simp [nlmsgHdrlen]
    length := rfl }
  after := [0, 0, 0, 0]
  text := { localStr := if host = 0 then "10.0.0.1" else "10.0.0.2" }
  family := rfl
  index := rfl
  kind := by decide +revert
  tiled := @Tiled.cons _ 8 rfl (by decide) (Nat.le_refl 8) Tiled.nil
  parsed := by decide +revert
  given := by decide +revert
  ends := fun _ => rfl

def unaddressed : NetlinkCache := (∅ : NetlinkCache).insert 2 { ifindex := 2 }

theorem unaddressed_current : AddressCurrent 2 (unaddressed, ∅) :=
  ⟨{ ifindex := 2 }, Std.TreeMap.getElem?_insert_self, by simp, by simp⟩

theorem single_address_comes_and_goes :
    Throughout addrStep (unaddressed, ∅) (AddressCurrent 2)
      [tenMessage false 0, tenMessage true 0, tenMessage false 1] := by
  refine (ipv4_addr_current_iff unaddressed ∅ unaddressed_current _).2.mpr ?_
  apply eachStep_of_checkSteps
  decide +kernel

theorem second_address_forgotten :
    AddressCurrent 2 (unaddressed, ∅) ∧
      ¬Throughout addrStep (unaddressed, ∅) (AddressCurrent 2)
        [tenMessage false 0, tenMessage false 1, tenMessage true 0] := by
  refine ⟨unaddressed_current, fun always => ?_⟩
  have shape : (follow addrStep (unaddressed, ∅)
      [tenMessage false 0, tenMessage false 1, tenMessage true 0]).any
        (fun state => state.2 = {(tenMessage false 1).assignment} ∧
          state.1[(2 : Int)]?.map NetlinkInterfaceStats.ipv4Addr = some none) := by
    decide +kernel
  obtain ⟨state, reached, shown⟩ := (Option.any_eq_true _ _).mp shape
  obtain ⟨assigned, absent⟩ := of_decide_eq_true shown
  obtain ⟨entry, cached, shows⟩ := always _ [] state (by simp) reached
  rw [cached, Option.map_some, Option.some.injEq] at absent
  rw [assigned] at shows
  exact Finset.singleton_ne_empty _ (shows.empty.mp absent)

end EdgeHealthd
