import EdgeHealthd.NetlinkMonitorCore
import Mathlib.Tactic.SplitIfs

/-!
What the two netlink callbacks depend on. Both walk the attributes of a message
with the length of its whole payload as the bound of every single attribute, so
a walk that has consumed the message goes on into whatever follows it.
-/

namespace EdgeHealthd

open Attributes

def LinkValueReadable (attr : Memory) (type length : Nat) : Prop :=
  if type = iflaStats64 then
    length - 4 = sizeofLinkStats64 → 4 + sizeofLinkStats64 ≤ attr.length
  else if type = iflaIfname then 0 ∈ attr.drop 4
  else if type = iflaCarrier then 5 ≤ attr.length
  else if type = iflaMtu then 8 ≤ attr.length
  else if type = iflaAddress then length - 4 = 6 → 10 ≤ attr.length
  else if type = iflaOperstate then 5 ≤ attr.length
  else if type = iflaCarrierChanges then 8 ≤ attr.length
  else if type = iflaCarrierUpCount then 8 ≤ attr.length
  else if type = iflaCarrierDownCount then 8 ≤ attr.length
  else True

def AddrValueReadable (attr : Memory) (type length : Nat) : Prop :=
  type = ifaAddress ∨ type = ifaLocal → length - 4 = 4 → 8 ≤ attr.length

/-- An attribute whose header and value lie inside the memory. -/
def Readable (value : Memory → Nat → Nat → Prop) (attr : Memory) : Prop :=
  ∃ field length, attr.read 2 2 = some field ∧ attr.read 0 2 = some length ∧
    value attr (field % 0x4000) length

theorem readable_iff {value : Memory → Nat → Nat → Prop} {attr : Memory} {field length : Nat}
    (present : attr.read 2 2 = some field) (sized : attr.read 0 2 = some length) :
    Readable value attr ↔ value attr (field % 0x4000) length := by
  constructor
  · rintro ⟨otherField, otherLength, samePresent, sameSized, readable⟩
    obtain rfl := Option.some.inj (present.symm.trans samePresent)
    obtain rfl := Option.some.inj (sized.symm.trans sameSized)
    exact readable
  · intro readable
    exact ⟨field, length, present, sized, readable⟩

theorem isSome_ite_iff {α : Type*} {condition yes no : Prop} [Decidable condition]
    {first second : Option α} (chosen : first.isSome ↔ yes) (other : second.isSome ↔ no) :
    (if condition then first else second).isSome ↔ if condition then yes else no := by
  split
  · exact chosen
  · exact other

theorem isSome_ite_imp {α : Type*} {condition yes : Prop} [Decidable condition]
    {first : Option α} {kept : α} (chosen : first.isSome ↔ yes) :
    (if condition then first else some kept).isSome ↔ (condition → yes) := by
  split
  · rename_i holds
    rw [chosen]
    exact ⟨fun result _ => result, fun result => result holds⟩
  · rename_i fails
    exact ⟨fun _ holds => absurd holds fails, fun _ => rfl⟩

theorem isSome_map_read {α : Type*} {memory : Memory} {offset width : Nat} (some : 0 < width)
    (update : Nat → α) :
    ((memory.read offset width).map update).isSome ↔ offset + width ≤ memory.length := by
  rw [Option.isSome_map]
  exact Memory.read_isSome_iff some

theorem isSome_map_slice {α : Type*} {memory : Memory} {offset width : Nat} (some : 0 < width)
    (update : List UInt8 → α) :
    ((memory.slice offset width).map update).isSome ↔ offset + width ≤ memory.length := by
  rw [Option.isSome_map]
  exact Memory.slice_isSome_iff some

theorem parseRtnlStats_isSome (attr : Memory) (stats : NetlinkInterfaceStats) :
    (parseRtnlStats attr stats).isSome ↔ Readable LinkValueReadable attr := by
  cases present : attr.read 2 2 with
  | none => simp [parseRtnlStats, attrType, Readable, present]
  | some field =>
      have header := Memory.read_bound present
      obtain ⟨length, sized⟩ := Memory.read_isSome (by omega : 0 + 2 ≤ attr.length)
      have typed : attrType attr = some (field % 0x4000) := by simp [attrType, present]
      have payload : attrPayloadLen attr = some (length - 4) := by simp [attrPayloadLen, sized]
      rw [readable_iff present sized]
      unfold parseRtnlStats LinkValueReadable
      rw [typed, payload, Option.bind_some, Option.bind_some, Option.bind_some]
      refine isSome_ite_iff (isSome_ite_imp (isSome_map_slice (by decide) _)) ?_
      refine isSome_ite_iff ?_ ?_
      · rw [Option.isSome_map, Memory.cString_isSome_iff]
      refine isSome_ite_iff (isSome_map_read (by decide) _) ?_
      refine isSome_ite_iff (isSome_map_read (by decide) _) ?_
      refine isSome_ite_iff (isSome_ite_imp (isSome_map_slice (by decide) _)) ?_
      refine isSome_ite_iff (isSome_map_read (by decide) _) ?_
      refine isSome_ite_iff (isSome_map_read (by decide) _) ?_
      refine isSome_ite_iff (isSome_map_read (by decide) _) ?_
      exact isSome_ite_iff (isSome_map_read (by decide) _) (by simp)

theorem parseIfaAddress_isSome (attr : Memory) (text : AddressText) :
    (parseIfaAddress attr text).isSome ↔ Readable AddrValueReadable attr := by
  cases present : attr.read 2 2 with
  | none => simp [parseIfaAddress, attrType, Readable, present]
  | some field =>
      have header := Memory.read_bound present
      obtain ⟨length, sized⟩ := Memory.read_isSome (by omega : 0 + 2 ≤ attr.length)
      have typed : attrType attr = some (field % 0x4000) := by simp [attrType, present]
      have payload : attrPayloadLen attr = some (length - 4) := by simp [attrPayloadLen, sized]
      have value : ∀ (other : AddressText) (update : List UInt8 → AddressText),
          (if length - 4 ≠ 4 then some other else (attr.slice 4 4).map update).isSome ↔
            (length - 4 = 4 → 8 ≤ attr.length) := by
        intro other update
        by_cases whole : length - 4 = 4
        · rw [if_neg (fun differs => differs whole), Option.isSome_map,
            Memory.slice_isSome_iff (by decide)]
          simp [whole]
        · simp [whole]
      rw [readable_iff present sized]
      unfold parseIfaAddress AddrValueReadable
      rw [typed, payload, Option.bind_some, Option.bind_some]
      by_cases address : field % 0x4000 = ifaAddress
      · rw [if_pos address, value]
        simp [address]
      · rw [if_neg address]
        by_cases isLocal : field % 0x4000 = ifaLocal
        · rw [if_pos isLocal, value]
          simp [isLocal]
        · simp [address, isLocal]

theorem attrType_extends (attr after : Memory) :
    Extends (attrType attr) (attrType (attr ++ after)) :=
  Extends.map (Memory.extends_read _ _ _ _) _

theorem attrPayloadLen_extends (attr after : Memory) :
    Extends (attrPayloadLen attr) (attrPayloadLen (attr ++ after)) :=
  Extends.map (Memory.extends_read _ _ _ _) _

theorem parseRtnlStats_extends (attr : Memory) (stats : NetlinkInterfaceStats) (after : Memory) :
    Extends (parseRtnlStats attr stats) (parseRtnlStats (attr ++ after) stats) := by
  have number : ∀ width (update : Nat → NetlinkInterfaceStats),
      Extends ((attr.read 4 width).map update) ((Memory.read (attr ++ after) 4 width).map update) :=
    fun width update => Extends.map (Memory.extends_read _ _ _ _) update
  have checked : ∀ wanted (update : List UInt8 → NetlinkInterfaceStats),
      Extends ((attrPayloadLen attr).bind fun length =>
          if length = wanted then (attr.slice 4 wanted).map update else some stats)
        ((attrPayloadLen (attr ++ after)).bind fun length =>
          if length = wanted then (Memory.slice (attr ++ after) 4 wanted).map update
          else some stats) := by
    intro wanted update
    refine Extends.bind (attrPayloadLen_extends _ _) fun length => ?_
    exact Extends.ite (Extends.map (Memory.extends_slice _ _ _ _) _) (Extends.refl _)
  refine Extends.bind (attrType_extends _ _) fun type => ?_
  refine Extends.ite (checked _ _) ?_
  refine Extends.ite (Extends.map (Memory.extends_cString _ _ _) _) ?_
  refine Extends.ite (number _ _) (Extends.ite (number _ _) ?_)
  refine Extends.ite (checked _ _) ?_
  refine Extends.ite (number _ _) (Extends.ite (number _ _) ?_)
  exact Extends.ite (number _ _) (Extends.ite (number _ _) (Extends.refl _))

theorem parseIfaAddress_extends (attr : Memory) (text : AddressText) (after : Memory) :
    Extends (parseIfaAddress attr text) (parseIfaAddress (attr ++ after) text) := by
  have value : ∀ update : List UInt8 → AddressText,
      Extends ((attr.slice 4 4).map update) ((Memory.slice (attr ++ after) 4 4).map update) :=
    fun update => Extends.map (Memory.extends_slice _ _ _ _) update
  refine Extends.bind (attrType_extends _ _) fun type => ?_
  refine Extends.bind (attrPayloadLen_extends _ _) fun length => ?_
  refine Extends.ite (Extends.ite (Extends.refl _) (value _)) ?_
  exact Extends.ite (Extends.ite (Extends.refl _) (value _)) (Extends.refl _)

/-- A message as `mnl_nlmsg_ok` accepts it: its length field is its length. -/
structure NetlinkMessage where
  bytes : Memory
  header : nlmsgHdrlen ≤ bytes.length
  length : bytes.read 0 4 = some bytes.length

def linkUpdateInside (cache : NetlinkCache) (message : Memory) : Option NetlinkCache :=
  (linkEntry cache message).bind fun entry =>
    ((attributesIn (message.drop linkAttributes)).foldlM
      (fun stats attr => parseRtnlStats attr stats) entry).map
        fun stats => cache.insert entry.ifindex stats

def addrUpdateInside (cache : NetlinkCache) (message : Memory) : Option NetlinkCache :=
  (message.read 16 1).bind fun family =>
    if family ≠ afInet then some cache
    else (message.read 20 4).bind fun index =>
      match cache[toInt32 index]? with
      | none => some cache
      | some entry =>
          if message.read 4 2 = some rtmDeladdr then
            some (cache.insert (toInt32 index) { entry with ipv4Addr := none })
          else
            ((attributesIn (message.drop addrAttributes)).foldlM
              (fun text attr => parseIfaAddress attr text) {}).map
                fun text => cache.insert (toInt32 index) (entry.withAddress text)

/-- The callback makes of a message the update of the attributes inside it,
whatever bytes follow the message in the buffer. -/
def OwnBytesOnly (callback inside : NetlinkCache → Memory → Option NetlinkCache)
    (cache : NetlinkCache) (message : NetlinkMessage) : Prop :=
  ∃ updated, inside cache message.bytes = some updated ∧
    ∀ after, callback cache (message.bytes ++ after) = some updated

/-- The link header lies inside the message, and so does the length field at
which the walk over the attributes stops. -/
def LinkStaysInside (message : NetlinkMessage) : Prop :=
  28 ≤ message.bytes.length ∧
    StopsInside (Readable LinkValueReadable) (message.bytes.length - linkAttributes)
      (message.bytes.drop linkAttributes)

/-- The same for an address message, which is walked only where it is about a
cached interface and IPv4. -/
def AddrStaysInside (cache : NetlinkCache) (message : NetlinkMessage) : Prop :=
  ∃ family, message.bytes.read 16 1 = some family ∧
    (family = afInet → ∃ index, message.bytes.read 20 4 = some index ∧
      (cache[toInt32 index]?.isSome → message.bytes.read 4 2 ≠ some rtmDeladdr →
        StopsInside (Readable AddrValueReadable) (message.bytes.length - addrAttributes)
          (message.bytes.drop addrAttributes)))

theorem linkEntry_extends (cache : NetlinkCache) (message after : Memory) :
    Extends (linkEntry cache message) (linkEntry cache (message ++ after)) := by
  refine Extends.bind (Memory.extends_read _ _ _ _) fun index => ?_
  exact Extends.map (Memory.extends_read _ _ _ _) _

theorem dataCb_ownBytesOnly_iff (cache : NetlinkCache) (message : NetlinkMessage) :
    OwnBytesOnly dataCb linkUpdateInside cache message ↔ LinkStaysInside message := by
  constructor
  · rintro ⟨updated, _, depends⟩
    have alone := depends []
    rw [List.append_nil, dataCb, message.length, Option.bind_some] at alone
    obtain ⟨entry, read, walked⟩ := Option.bind_eq_some_iff.mp alone
    obtain ⟨index, _, rest⟩ := Option.bind_eq_some_iff.mp read
    obtain ⟨flags, present, _⟩ := Option.map_eq_some_iff.mp rest
    obtain ⟨stats, parsed, _⟩ := Option.map_eq_some_iff.mp walked
    constructor
    · have bound := Memory.read_bound present
      omega
    · refine stopsInside_of_walkFuel ?_ parsed
      intro attr state next visited
      exact (parseRtnlStats_isSome attr state).mp (by simp [visited])
  · rintro ⟨room, stops⟩
    obtain ⟨index, first⟩ := Memory.read_isSome (by omega : 20 + 4 ≤ message.bytes.length)
    obtain ⟨flags, second⟩ := Memory.read_isSome (by omega : 24 + 4 ≤ message.bytes.length)
    obtain ⟨entry, read⟩ : ∃ entry, linkEntry cache message.bytes = some entry := by
      simp [linkEntry, first, second]
    obtain ⟨stats, folded, walked⟩ := stops.walk
      (fun attr state readable =>
        Option.isSome_iff_exists.mp ((parseRtnlStats_isSome attr state).mpr readable))
      parseRtnlStats_extends entry
    refine ⟨cache.insert entry.ifindex stats, ?_, fun after => ?_⟩
    · simp only [linkUpdateInside, read, Option.bind_some, folded, Option.map_some]
    · simp only [dataCb, Memory.read_append message.length, Option.bind_some,
        linkEntry_extends cache message.bytes after entry read, walked after, Option.map_some]

theorem addrDataCb_ownBytesOnly_iff (cache : NetlinkCache) (message : NetlinkMessage) :
    OwnBytesOnly addrDataCb addrUpdateInside cache message ↔ AddrStaysInside cache message := by
  obtain ⟨type, typed⟩ := Memory.read_isSome
    (Nat.le_trans (by decide) message.header : 4 + 2 ≤ message.bytes.length)
  constructor
  · rintro ⟨updated, _, depends⟩
    have alone := depends []
    rw [List.append_nil, addrDataCb] at alone
    obtain ⟨family, first, alone⟩ := Option.bind_eq_some_iff.mp alone
    refine ⟨family, first, fun inet => ?_⟩
    rw [if_neg (fun differs => differs inet)] at alone
    obtain ⟨index, second, alone⟩ := Option.bind_eq_some_iff.mp alone
    refine ⟨index, second, fun cached added => ?_⟩
    obtain ⟨entry, found⟩ := Option.isSome_iff_exists.mp cached
    have kept : type ≠ rtmDeladdr := by
      rintro rfl
      exact added typed
    rw [found] at alone
    simp only [typed, Option.bind_some, kept, if_false, message.length] at alone
    obtain ⟨text, parsed, _⟩ := Option.map_eq_some_iff.mp alone
    refine stopsInside_of_walkFuel ?_ parsed
    intro attr state next visited
    exact (parseIfaAddress_isSome attr state).mp (by simp [visited])
  · rintro ⟨family, first, later⟩
    have always : ∀ after, Memory.read (message.bytes ++ after) 16 1 = some family :=
      fun after => Memory.read_append first after
    by_cases inet : family = afInet
    · obtain ⟨index, second, stays⟩ := later inet
      cases found : cache[toInt32 index]? with
      | none =>
          refine ⟨cache, ?_, fun after => ?_⟩
          · simp [addrUpdateInside, first, inet, second, found]
          · simp [addrDataCb, always after, inet, Memory.read_append second, found]
      | some entry =>
          by_cases removed : type = rtmDeladdr
          · refine ⟨cache.insert (toInt32 index) { entry with ipv4Addr := none }, ?_,
              fun after => ?_⟩
            · simp [addrUpdateInside, first, inet, second, found, typed, removed]
            · simp [addrDataCb, always after, inet, Memory.read_append second, found,
                Memory.read_append typed, removed]
          · have stops := stays (by simp [found]) (by simpa [typed] using removed)
            obtain ⟨text, folded, walked⟩ := stops.walk
              (fun attr state readable =>
                Option.isSome_iff_exists.mp ((parseIfaAddress_isSome attr state).mpr readable))
              parseIfaAddress_extends {}
            refine ⟨cache.insert (toInt32 index) (entry.withAddress text), ?_, fun after => ?_⟩
            · simp only [addrUpdateInside, first, Option.bind_some, inet, ne_eq, not_true,
                if_false, second, found, typed, Option.some.injEq, removed, folded,
                Option.map_some]
            · simp only [addrDataCb, always after, Option.bind_some, inet, ne_eq, not_true,
                if_false, Memory.read_append second, found, Memory.read_append typed, removed,
                Memory.read_append message.length, walked after, Option.map_some]
    · refine ⟨cache, ?_, fun after => ?_⟩
      · simp [addrUpdateInside, first, inet]
      · simp [addrDataCb, always after, inet]

/-- A callback handles a message from the message's own bytes exactly where a
length field inside the message stops its walk over the attributes. -/
theorem callbacks_ownBytesOnly_iff (cache : NetlinkCache) (message : NetlinkMessage) :
    (OwnBytesOnly dataCb linkUpdateInside cache message ↔ LinkStaysInside message) ∧
      (OwnBytesOnly addrDataCb addrUpdateInside cache message ↔
        AddrStaysInside cache message) :=
  ⟨dataCb_ownBytesOnly_iff cache message, addrDataCb_ownBytesOnly_iff cache message⟩

def longLinkMessage : Memory :=
  [48, 0, 0, 0, 16, 0, 0, 0, 0, 0, 0, 0, 0, 0, 0, 0,
    0, 0, 1, 0, 3, 0, 0, 0, 1, 0, 0, 0, 0, 0, 0, 0,
    5, 0, 16, 0, 6, 0, 0, 0, 8, 0, 4, 0, 40, 35, 0, 0]

def shortLinkMessage : Memory :=
  [40, 0, 0, 0, 16, 0, 0, 0, 0, 0, 0, 0, 0, 0, 0, 0,
    0, 0, 1, 0, 2, 0, 0, 0, 1, 0, 0, 0, 0, 0, 0, 0,
    5, 0, 16, 0, 6, 0, 0, 0]

def cachedMtus (cache : NetlinkCache) : List (Int × UInt32) :=
  (getAllStats cache).map fun stats => (stats.ifindex, stats.mtu)

theorem drainEvents_takes_stale_mtu :
    (linkUpdateInside ∅ shortLinkMessage).map cachedMtus = some [(2, 0)] ∧
      ((MonitorCall.drainEvents [shortLinkMessage]).run 4096 ∅).map cachedMtus = some [(2, 0)] ∧
      ((MonitorCall.drainEvents [longLinkMessage, shortLinkMessage]).run 4096 ∅).map cachedMtus =
        some [(2, 9000), (3, 9000)] := by
  decide +kernel

theorem not_linkStaysInside_of_tiled (message : NetlinkMessage)
    (tiled : Tiled (message.bytes.drop linkAttributes))
    (filled : linkAttributes + 4 ≤ message.bytes.length) : ¬LinkStaysInside message := by
  rintro ⟨_, stops⟩
  refine tiled.not_stopsInside ?_ ?_ stops
  · simp only [List.length_drop]
    omega
  · omega

end EdgeHealthd
