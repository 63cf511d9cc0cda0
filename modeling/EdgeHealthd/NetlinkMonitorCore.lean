import EdgeHealthd.Library.Attributes
import Mathlib.Data.List.Induction

/-!
Executable `NetlinkMonitor` of `src/netlink_monitor.cpp` on the bytes of its
receive buffer. A message is reached through a pointer, so a callback sees the
bytes from the message to the end of the buffer; it gives no result where it
reads past that end. Numbers are in the byte order of a little-endian machine.
-/

namespace EdgeHealthd

open Attributes

structure NetlinkInterfaceStats where
  name : List UInt8 := []
  ifindex : Int := -1
  rxBytes : UInt64 := 0
  txBytes : UInt64 := 0
  rxPackets : UInt64 := 0
  txPackets : UInt64 := 0
  rxErrors : UInt64 := 0
  txErrors : UInt64 := 0
  rxDropped : UInt64 := 0
  txDropped : UInt64 := 0
  linkUp : Bool := false
  running : Bool := false
  carrierUp : Bool := false
  mtu : UInt32 := 0
  mac : String := ""
  operstate : UInt8 := 0
  carrierChanges : UInt32 := 0
  carrierUpCount : UInt32 := 0
  carrierDownCount : UInt32 := 0
  ipv4Addr : Option String := none
  deriving DecidableEq

abbrev NetlinkCache := Std.TreeMap Int NetlinkInterfaceStats

def iflaAddress : Nat := 1
def iflaIfname : Nat := 3
def iflaMtu : Nat := 4
def iflaOperstate : Nat := 16
def iflaStats64 : Nat := 23
def iflaCarrier : Nat := 33
def iflaCarrierChanges : Nat := 35
def iflaCarrierUpCount : Nat := 47
def iflaCarrierDownCount : Nat := 48
def ifaAddress : Nat := 1
def ifaLocal : Nat := 2
def iffUp : Nat := 0x1
def iffRunning : Nat := 0x40
def afInet : Nat := 2
def nlmsgError : Nat := 2
def nlmsgDone : Nat := 3
def rtmNewlink : Nat := 16
def rtmDellink : Nat := 17
def rtmNewaddr : Nat := 20
def rtmDeladdr : Nat := 21

-- `sizeof(struct rtnl_link_stats64)`: twenty-five counters of eight bytes.
def sizeofLinkStats64 : Nat := 200

-- The header lengths: `nlmsghdr`, and `ifinfomsg` or `ifaddrmsg` behind it.
def nlmsgHdrlen : Nat := 16
def linkAttributes : Nat := 32
def addrAttributes : Nat := 24

def twoHexDigits (byte : UInt8) : String :=
  String.ofList ((Nat.toDigits 16 byte.toNat).leftpad 2 '0')

def formatMac (bytes : List UInt8) : String :=
  ":".intercalate (bytes.map twoHexDigits)

-- `inet_ntop` for `AF_INET`.
def formatAddr (bytes : List UInt8) : String :=
  ".".intercalate (bytes.map fun byte => toString byte.toNat)

-- `mnl_attr_get_type` masks the two flag bits.
def attrType (attr : Memory) : Option Nat := (attr.read 2 2).map (· % 0x4000)

def attrPayloadLen (attr : Memory) : Option Nat := (attr.read 0 2).map (· - 4)

def NetlinkInterfaceStats.withStats64 (stats : NetlinkInterfaceStats) (counters : List UInt8) :
    NetlinkInterfaceStats :=
  let counter := fun index => UInt64.ofNat (littleEndian ((counters.drop (8 * index)).take 8))
  { stats with
    rxPackets := counter 0, txPackets := counter 1
    rxBytes := counter 2, txBytes := counter 3
    rxErrors := counter 4, txErrors := counter 5
    rxDropped := counter 6, txDropped := counter 7 }

def parseRtnlStats (attr : Memory) (stats : NetlinkInterfaceStats) :
    Option NetlinkInterfaceStats :=
  (attrType attr).bind fun type =>
    if type = iflaStats64 then
      (attrPayloadLen attr).bind fun length =>
        if length = sizeofLinkStats64 then (attr.slice 4 sizeofLinkStats64).map stats.withStats64
        else some stats
    else if type = iflaIfname then
      (attr.cString 4).map fun name => { stats with name }
    else if type = iflaCarrier then
      (attr.read 4 1).map fun value => { stats with carrierUp := value != 0 }
    else if type = iflaMtu then
      (attr.read 4 4).map fun value => { stats with mtu := UInt32.ofNat value }
    else if type = iflaAddress then
      (attrPayloadLen attr).bind fun length =>
        if length = 6 then (attr.slice 4 6).map fun bytes => { stats with mac := formatMac bytes }
        else some stats
    else if type = iflaOperstate then
      (attr.read 4 1).map fun value => { stats with operstate := UInt8.ofNat value }
    else if type = iflaCarrierChanges then
      (attr.read 4 4).map fun value => { stats with carrierChanges := UInt32.ofNat value }
    else if type = iflaCarrierUpCount then
      (attr.read 4 4).map fun value => { stats with carrierUpCount := UInt32.ofNat value }
    else if type = iflaCarrierDownCount then
      (attr.read 4 4).map fun value => { stats with carrierDownCount := UInt32.ofNat value }
    else some stats

-- A C `int` in the bytes of a `uint32`.
def toInt32 (value : Nat) : Int := if value < 0x80000000 then value else value - 0x100000000

/-- `(*cache)[ifm->ifi_index]` with the fields of the message header set. -/
def linkEntry (cache : NetlinkCache) (nlh : Memory) : Option NetlinkInterfaceStats :=
  (nlh.read 20 4).bind fun index =>
    (nlh.read 24 4).map fun flags =>
      { cache[toInt32 index]?.getD {} with
        ifindex := toInt32 index
        linkUp := flags &&& iffUp != 0
        running := flags &&& iffRunning != 0 }

-- `payload_size` is computed once, from the length field of the message.
def dataCb (cache : NetlinkCache) (nlh : Memory) : Option NetlinkCache :=
  (nlh.read 0 4).bind fun length =>
    (linkEntry cache nlh).bind fun entry =>
      (walk parseRtnlStats (length - linkAttributes) (nlh.drop linkAttributes) entry).map
        fun stats => cache.insert entry.ifindex stats

structure AddressText where
  addrStr : String := ""
  localStr : String := ""
  deriving DecidableEq

def parseIfaAddress (attr : Memory) (text : AddressText) : Option AddressText :=
  (attrType attr).bind fun type =>
    (attrPayloadLen attr).bind fun length =>
      if type = ifaAddress then
        if length ≠ 4 then some { text with addrStr := "" }
        else (attr.slice 4 4).map fun bytes => { text with addrStr := formatAddr bytes }
      else if type = ifaLocal then
        if length ≠ 4 then some { text with localStr := "" }
        else (attr.slice 4 4).map fun bytes => { text with localStr := formatAddr bytes }
      else some text

def NetlinkInterfaceStats.withAddress (stats : NetlinkInterfaceStats) (text : AddressText) :
    NetlinkInterfaceStats :=
  let chosen := if text.localStr ≠ "" then text.localStr else text.addrStr
  if chosen ≠ "" then { stats with ipv4Addr := some chosen } else stats

def addrDataCb (cache : NetlinkCache) (nlh : Memory) : Option NetlinkCache :=
  (nlh.read 16 1).bind fun family =>
    if family ≠ afInet then some cache
    else (nlh.read 20 4).bind fun index =>
      match cache[toInt32 index]? with
      | none => some cache
      | some entry =>
          (nlh.read 4 2).bind fun type =>
            if type = rtmDeladdr then
              some (cache.insert (toInt32 index) { entry with ipv4Addr := none })
            else (nlh.read 0 4).bind fun length =>
              (walk parseIfaAddress (length - addrAttributes) (nlh.drop addrAttributes) {}).map
                fun text => cache.insert (toInt32 index) (entry.withAddress text)

def dispatch (cache : NetlinkCache) (nlh : Memory) : Option NetlinkCache :=
  (nlh.read 4 2).bind fun type =>
    if type = rtmNewlink ∨ type = rtmDellink then dataCb cache nlh
    else if type = rtmNewaddr ∨ type = rtmDeladdr then addrDataCb cache nlh
    else some cache

-- `mnl_nlmsg_ok` and `mnl_nlmsg_next`: each element is the memory from one header on.
def messagesFuel : Nat → Memory → Int → List Memory
  | 0, _, _ => []
  | fuel + 1, nlh, received =>
      if received < nlmsgHdrlen then []
      else match nlh.read 0 4 with
        | none => []
        | some length =>
            if nlmsgHdrlen ≤ length ∧ (length : Int) ≤ received then
              nlh :: messagesFuel fuel (nlh.drop (align4 length)) (received - align4 length)
            else []

def messagesIn (buffer : Memory) (received : Nat) : List Memory :=
  messagesFuel (received + 1) buffer received

/-- A receive overwrites the front of the buffer and leaves what was behind it. -/
def receive (buffer datagram : Memory) : Memory :=
  datagram ++ buffer.drop datagram.length

def endsDump (nlh : Memory) : Bool :=
  nlh.read 4 2 == some nlmsgDone || nlh.read 4 2 == some nlmsgError

-- An empty datagram stands for `poll` or `recvfrom` reporting nothing more.
def drainResponseLoop : Memory → NetlinkCache → List Memory → Option NetlinkCache
  | _, cache, [] => some cache
  | buffer, cache, datagram :: rest =>
      if datagram = [] then some cache
      else
        let messages := messagesIn (receive buffer datagram) datagram.length
        ((messages.takeWhile fun nlh => !endsDump nlh).foldlM dispatch cache).bind fun updated =>
          if messages.any endsDump then some updated
          else drainResponseLoop (receive buffer datagram) updated rest

def drainEventsLoop : Memory → NetlinkCache → List Memory → Option NetlinkCache
  | _, cache, [] => some cache
  | buffer, cache, datagram :: rest =>
      if datagram = [] then some cache
      else
        ((messagesIn (receive buffer datagram) datagram.length).foldlM dispatch cache).bind
          fun updated => drainEventsLoop (receive buffer datagram) updated rest

-- `std::vector<char> buf(buf_size)` is zeroed.
def emptyBuffer (bufSize : Nat) : Memory := List.replicate bufSize 0

inductive MonitorCall
  | drainResponse (datagrams : List Memory)
  | processIncoming (datagram : Memory)
  | drainEvents (datagrams : List Memory)

def MonitorCall.run (bufSize : Nat) (cache : NetlinkCache) : MonitorCall → Option NetlinkCache
  | .drainResponse datagrams => drainResponseLoop (emptyBuffer bufSize) cache datagrams
  | .processIncoming datagram =>
      (messagesIn (receive (emptyBuffer bufSize) datagram) datagram.length).foldlM dispatch cache
  | .drainEvents datagrams => drainEventsLoop (emptyBuffer bufSize) cache datagrams

def runMonitor (bufSize : Nat) (cache : NetlinkCache) (calls : List MonitorCall) :
    Option NetlinkCache :=
  calls.foldlM (MonitorCall.run bufSize) cache

def getAllStats (cache : NetlinkCache) : List NetlinkInterfaceStats :=
  cache.toList.map Prod.snd

end EdgeHealthd
