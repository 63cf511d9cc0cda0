import EdgeHealthd.EthtoolLinkCore
import EdgeHealthd.NetlinkCache

/-!
Executable `ResourcesProbe::collect_network` of `src/probes.cpp` on the netlink
cache, and the system around it: the kernel's link table, the messages it sends
to the monitor's socket, and the calls of `src/netlink_monitor.cpp` that read
them. Names of interfaces are bytes; `text` is the string that stands for them.
-/

namespace EdgeHealthd

open Attributes History

structure LinkCounters where
  rxBytes : UInt64 := 0
  txBytes : UInt64 := 0
  rxPackets : UInt64 := 0
  txPackets : UInt64 := 0
  rxErrors : UInt64 := 0
  txErrors : UInt64 := 0
  rxDropped : UInt64 := 0
  txDropped : UInt64 := 0
  deriving DecidableEq

def NetlinkInterfaceStats.counters (stats : NetlinkInterfaceStats) : LinkCounters where
  rxBytes := stats.rxBytes
  txBytes := stats.txBytes
  rxPackets := stats.rxPackets
  txPackets := stats.txPackets
  rxErrors := stats.rxErrors
  txErrors := stats.txErrors
  rxDropped := stats.rxDropped
  txDropped := stats.txDropped

def NetworkInterface.counters (iface : NetworkInterface) : LinkCounters where
  rxBytes := iface.rxBytes
  txBytes := iface.txBytes
  rxPackets := iface.rxPackets
  txPackets := iface.txPackets
  rxErrors := iface.rxErr
  txErrors := iface.txErr
  rxDropped := iface.rxDropped
  txDropped := iface.txDropped

def isSafeIfname (name : String) : Bool :=
  !name.isEmpty && name.toList.all fun ch =>
    ch.isAlphanum || ch == '.' || ch == '-' || ch == '_' || ch == '@' || ch == ':'

def operstateToString : UInt8 → String
  | 0 => "unknown"
  | 1 => "notpresent"
  | 2 => "down"
  | 3 => "lowerlayerdown"
  | 4 => "testing"
  | 5 => "dormant"
  | 6 => "up"
  | _ => "unknown"

section CollectNetwork

variable (text : ByteString → String) (interfaces : List String)

/-- `nl_map`: of two entries with one name the later one stays. -/
def nlMapFind (nlStats : List NetlinkInterfaceStats) (ifname : String) :
    Option NetlinkInterfaceStats :=
  nlStats.findRev? fun stats => text stats.name == ifname

def ifaceList (nlStats : List NetlinkInterfaceStats) : List String :=
  if interfaces.isEmpty then (nlStats.map (text ·.name)).filter (· != "lo") else interfaces

def NetworkInterface.withNetlink (iface : NetworkInterface) (nl : NetlinkInterfaceStats) :
    NetworkInterface :=
  { iface with
    link := if nl.running then .up else .down
    carrier := nl.carrierUp
    rxBytes := nl.rxBytes
    txBytes := nl.txBytes
    rxPackets := nl.rxPackets
    txPackets := nl.txPackets
    rxDropped := nl.rxDropped
    txDropped := nl.txDropped
    rxErr := nl.rxErrors
    txErr := nl.txErrors
    mtu := nl.mtu
    mac := nl.mac
    operstate := operstateToString nl.operstate
    carrierChanges := nl.carrierChanges
    carrierUpCount := nl.carrierUpCount
    carrierDownCount := nl.carrierDownCount
    ip := nl.ipv4Addr }

def NetworkInterface.withEthtool (iface : NetworkInterface) (settings : EthtoolLink) :
    NetworkInterface :=
  { iface with speedMbps := settings.speedMbps, duplex := settings.duplex }

/-- The loop body of `collect_network`; `ethtool` is the map that the query returned. -/
def collectInterface (ethtool : String → Option EthtoolLink)
    (nlStats : List NetlinkInterfaceStats) (ifname : String) : NetworkInterface :=
  let iface : NetworkInterface := { ifname, link := .unknown }
  if !isSafeIfname ifname then iface
  else
    let iface := match nlMapFind text nlStats ifname with
      | some nl => iface.withNetlink nl
      | none => iface
    match ethtool ifname with
    | some settings => iface.withEthtool settings
    | none => iface

def ResourcesProbe.collectNetwork (ethtool : String → Option EthtoolLink)
    (cache : NetlinkCache) : List NetworkInterface :=
  let nlStats := getAllStats cache
  (ifaceList text interfaces nlStats).map (collectInterface text ethtool nlStats)

end CollectNetwork

-- What the monitor tracks of a row; a change of the other attributes shows as a message.
structure KernelLink where
  name : ByteString
  counters : LinkCounters
  deriving DecidableEq

abbrev LinkTable := Std.TreeMap Int KernelLink

def AboutLink (bytes : Memory) : Prop :=
  bytes.read 4 2 = some rtmNewlink ∨ bytes.read 4 2 = some rtmDellink

instance (bytes : Memory) : Decidable (AboutLink bytes) :=
  inferInstanceAs (Decidable (_ ∨ _))

/-- A message as the kernel builds it: padded to four bytes, and a link message
filled with attributes whose values lie inside it. -/
structure KernelMessage extends NetlinkMessage where
  padded : align4 bytes.length = bytes.length
  room : AboutLink bytes → linkAttributes ≤ bytes.length
  tiled : AboutLink bytes → Tiled (bytes.drop linkAttributes)
  legible : AboutLink bytes → ∀ attr ∈ attributesIn (bytes.drop linkAttributes),
    Readable LinkValueReadable attr

def attrName (attr : Memory) : Option ByteString :=
  if attrType attr = some iflaIfname then attr.cString 4 else none

def attrCounters (attr : Memory) : Option LinkCounters :=
  if attrType attr = some iflaStats64 ∧ attrPayloadLen attr = some sizeofLinkStats64 then
    (attr.slice 4 sizeofLinkStats64).map fun bytes =>
      (NetlinkInterfaceStats.withStats64 {} bytes).counters
  else none

namespace KernelMessage

variable (message : KernelMessage)

def index : Option Int := (message.bytes.read 20 4).map toInt32

def attributes : List Memory := attributesIn (message.bytes.drop linkAttributes)

def name : Option ByteString := latest attrName message.attributes

def counters : Option LinkCounters := latest attrCounters message.attributes

def Describes (links : LinkTable) : Prop :=
  ∃ link, message.index.bind (fun index => links[index]?) = some link ∧
    message.name = some link.name ∧ message.counters = some link.counters

instance (links : LinkTable) : Decidable (message.Describes links) :=
  match found : message.index.bind (fun index => links[index]?) with
  | none => .isFalse (by simp [Describes, found])
  | some link =>
      decidable_of_iff (message.name = some link.name ∧ message.counters = some link.counters)
        (by simp [Describes, found])

end KernelMessage

/-- Messages that arrive with one receive; `moment` numbers the table that the
kernel built them from. -/
structure Datagram where
  moment : Nat
  first : KernelMessage
  rest : List KernelMessage := []

namespace Datagram

def messages (datagram : Datagram) : List KernelMessage := datagram.first :: datagram.rest

def bytes (datagram : Datagram) : Memory := datagram.messages.flatMap (·.bytes)

def endsDump (datagram : Datagram) : Bool :=
  datagram.messages.any fun message => EdgeHealthd.endsDump message.bytes

end Datagram

/-- A message that is handed to a callback, with what follows it in the buffer. -/
structure Delivery where
  moment : Nat
  message : KernelMessage
  after : Memory

def Delivery.memory (delivery : Delivery) : Memory := delivery.message.bytes ++ delivery.after

def deliveries (moment : Nat) (after : Memory) : List KernelMessage → List Delivery
  | [] => []
  | message :: rest =>
      { moment, message, after := rest.flatMap (·.bytes) ++ after } :: deliveries moment after rest

def Datagram.deliveries (datagram : Datagram) (buffer : Memory) : List Delivery :=
  EdgeHealthd.deliveries datagram.moment (buffer.drop datagram.bytes.length) datagram.messages

def responseDeliveries : Memory → List Datagram → List Delivery
  | _, [] => []
  | buffer, datagram :: rest =>
      ((datagram.deliveries buffer).takeWhile fun delivery => !endsDump delivery.memory) ++
        if datagram.endsDump then [] else responseDeliveries (receive buffer datagram.bytes) rest

def eventDeliveries : Memory → List Datagram → List Delivery
  | _, [] => []
  | buffer, datagram :: rest =>
      datagram.deliveries buffer ++ eventDeliveries (receive buffer datagram.bytes) rest

structure NetworkCollection where
  previous : Nat
  moment : Nat
  cached : List String
  report : List NetworkInterface

/-- `past` holds the tables before the present one. `socket` is the queue of the
monitor's socket, once it is bound. `heard` is the moment of the latest link
message about each interface that a callback has handled. -/
structure NetworkSystem where
  past : List LinkTable := []
  links : LinkTable := ∅
  socket : Option (List Datagram) := none
  cache : NetlinkCache := ∅
  heard : Int → Nat := fun _ => 0
  collections : List NetworkCollection := []

/-- Events of the kernel and calls of the daemon. `init` is `bind`, and then twice a
request that the kernel answers with `dump` and the daemon reads with `drainResponse`. -/
inductive NetworkAction
  | traffic (index : Int) (counters : LinkCounters)
  | newlink (index : Int) (link : KernelLink) (message : KernelMessage)
  | dellink (index : Int) (message : KernelMessage)
  | address (message : KernelMessage)
  | dump (first : KernelMessage) (rest : List KernelMessage)
  | bind
  | drainResponse
  | drainEvents
  | collect (ethtool : String → Option EthtoolLink)

namespace NetworkSystem

def now (system : NetworkSystem) : Nat := system.past.length

def tableAt (system : NetworkSystem) (moment : Nat) : Option LinkTable :=
  (system.past ++ [system.links])[moment]?

def previous (system : NetworkSystem) : Nat :=
  (system.collections.getLast?.map NetworkCollection.moment).getD 0

def advance (system : NetworkSystem) (links : LinkTable) : NetworkSystem :=
  { system with past := system.past ++ [system.links], links }

def send (system : NetworkSystem) (first : KernelMessage) (rest : List KernelMessage) :
    NetworkSystem :=
  { system with
    socket := system.socket.map fun queue => queue ++ [{ moment := system.now, first, rest }] }

def hear (heard : Int → Nat) (delivery : Delivery) : Int → Nat := fun index =>
  if AboutLink delivery.message.bytes ∧ delivery.message.index = some index then delivery.moment
  else heard index

section Step

variable (text : ByteString → String) (interfaces : List String) (bufSize : Nat)

def step (system : NetworkSystem) : NetworkAction → Option NetworkSystem
  | .traffic index counters =>
      system.links[index]?.map fun link =>
        system.advance (system.links.insert index { link with counters })
  | .newlink index link message =>
      let links := system.links.insert index link
      if message.bytes.read 4 2 = some rtmNewlink ∧ message.index = some index ∧
          message.Describes links then
        some ((system.advance links).send message [])
      else none
  | .dellink index message =>
      if message.bytes.read 4 2 = some rtmDellink ∧ message.index = some index ∧
          message.Describes system.links then
        some ((system.send message []).advance (system.links.erase index))
      else none
  | .address message =>
      if AboutLink message.bytes then none else some (system.send message [])
  | .dump first rest =>
      if ∀ message ∈ first :: rest, AboutLink message.bytes → message.Describes system.links then
        some (system.send first rest)
      else none
  | .bind => if system.socket.isSome then none else some { system with socket := some [] }
  | .drainResponse =>
      system.socket.bind fun queue =>
        ((MonitorCall.drainResponse (queue.map Datagram.bytes)).run bufSize system.cache).map
          fun cache => { system with
            socket := some ((queue.dropWhile fun datagram => !datagram.endsDump).drop 1)
            cache
            heard := (responseDeliveries (emptyBuffer bufSize) queue).foldl hear system.heard }
  | .drainEvents =>
      system.socket.bind fun queue =>
        ((MonitorCall.drainEvents (queue.map Datagram.bytes)).run bufSize system.cache).map
          fun cache => { system with
            socket := some []
            cache
            heard := (eventDeliveries (emptyBuffer bufSize) queue).foldl hear system.heard }
  | .collect ethtool =>
      some { system with
        collections := system.collections ++ [{
          previous := system.previous
          moment := system.now
          cached := (getAllStats system.cache).map (text ·.name)
          report := ResourcesProbe.collectNetwork text interfaces ethtool system.cache }] }

end Step

end NetworkSystem

end EdgeHealthd
