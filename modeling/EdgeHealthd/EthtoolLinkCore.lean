import EdgeHealthd.Types

/-!
Executable `EthtoolQuerier` of `src/ethtool_link.cpp`. What the kernel and libmnl
answer is the input of a query: each exchange is given by the outcome of its send and
of its receives, and may depend on the socket it is made on.
-/

namespace EdgeHealthd

inductive ReqStatus where
  | ok
  | msgError
  | socketError
  deriving DecidableEq

structure NlAttr where
  type : Nat
  -- The number in the payload, where `mnl_attr_validate` accepts its size.
  value : Option Nat

/-- One received buffer: the messages that `mnl_cb_run` hands to the callback, as the
attributes that `mnl_attr_parse` finds in each, and what it returns. -/
structure ReceivedReply where
  messages : List (List NlAttr)
  ret : Int

-- A receive that fails, one that gives nothing, or a reply and what follows it.
inductive Replies where
  | failed
  | closed
  | received (reply : ReceivedReply) (rest : Replies)

structure Exchange where
  sent : Bool
  replies : Replies

def mnlCbError : Int := -1
def mnlCbStop : Int := 0
def ctrlAttrFamilyId : Nat := 1
def ethtoolALinkmodesSpeed : Nat := 5
def ethtoolALinkmodesDuplex : Nat := 6
def speedUnknown : UInt32 := 0xFFFFFFFF
def duplexHalf : UInt8 := 0
def duplexFull : UInt8 := 1

structure EthtoolLink where
  speedMbps : Option UInt32 := none
  duplex : Option Duplex := none
  deriving DecidableEq

def familyIdAttrCb (family : UInt16) (attr : NlAttr) : UInt16 :=
  match attr.value with
  | some value => if attr.type == ctrlAttrFamilyId then UInt16.ofNat value else family
  | none => family

def familyMsgCb (family : UInt16) (message : List NlAttr) : UInt16 :=
  message.foldl familyIdAttrCb family

def linkmodesAttrCb (info : EthtoolLink) (attr : NlAttr) : EthtoolLink :=
  match attr.value with
  | none => info
  | some value =>
      if attr.type == ethtoolALinkmodesSpeed then
        let speed := UInt32.ofNat value
        if speed != 0 && speed != speedUnknown then { info with speedMbps := some speed } else info
      else if attr.type == ethtoolALinkmodesDuplex then
        if UInt8.ofNat value == duplexFull then { info with duplex := some .full }
        else if UInt8.ofNat value == duplexHalf then { info with duplex := some .half }
        else info
      else info

def linkmodesMsgCb (info : EthtoolLink) (message : List NlAttr) : EthtoolLink :=
  message.foldl linkmodesAttrCb info

section Request

variable {Data : Type} (cb : Data → List NlAttr → Data)

def receiveReplies : Replies → Data → ReqStatus × Data
  | .failed, data => (.socketError, data)
  | .closed, data => (.ok, data)
  | .received reply rest, data =>
      let data := reply.messages.foldl cb data
      if reply.ret ≤ mnlCbStop then
        (if reply.ret == mnlCbError then .msgError else .ok, data)
      else receiveReplies rest data

def runRequest (exchange : Exchange) (data : Data) : ReqStatus × Data :=
  if exchange.sent then receiveReplies cb exchange.replies data else (.socketError, data)

end Request

-- The status of the exchange is dropped.
def resolveFamily (exchange : Exchange) : UInt16 := (runRequest familyMsgCb exchange 0).2

def queryOne (exchange : Exchange) : ReqStatus × Option EthtoolLink :=
  match runRequest linkmodesMsgCb exchange {} with
  | (.ok, info) => (.ok, some info)
  | (status, _) => (status, none)

structure EthtoolQuerier where
  sock : Option Nat := none
  portid : UInt32 := 0
  family : UInt16 := 0
  deriving DecidableEq

structure SetupReplies where
  opened : Option Nat
  bound : Bool
  portid : UInt32
  resolve : Nat → Exchange

def EthtoolQuerier.reset (_ : EthtoolQuerier) : EthtoolQuerier := {}

def EthtoolQuerier.resolveOnce (querier : EthtoolQuerier) (sock : Nat) (replies : SetupReplies) :
    Bool × EthtoolQuerier :=
  if querier.family == 0 then
    let family := resolveFamily (replies.resolve sock)
    (family != 0, { querier with family })
  else (true, querier)

def EthtoolQuerier.ensureReady (querier : EthtoolQuerier) (replies : SetupReplies) :
    Bool × EthtoolQuerier :=
  match querier.sock with
  | some sock => querier.resolveOnce sock replies
  | none =>
      match replies.opened with
      | none => (false, querier)
      | some sock =>
          let opened := { querier with sock := some sock }
          if replies.bound then
            { opened with portid := replies.portid }.resolveOnce sock replies
          else (false, opened.reset)

/-- A request is an interface name with the answers it would get on each socket. -/
abbrev LinkRequest := String × (Nat → Exchange)

-- The map keeps the last entry for a name, which stands first in the list.
def EthtoolQuerier.queryLoop (querier : EthtoolQuerier) (sock : Nat) :
    List LinkRequest → List (String × EthtoolLink) → EthtoolQuerier × List (String × EthtoolLink)
  | [], out => (querier, out)
  | (ifname, exchange) :: rest, out =>
      match queryOne (exchange sock) with
      | (.socketError, _) => (querier.reset, out)
      | (_, some info) =>
          if info.speedMbps.isSome || info.duplex.isSome then
            queryLoop querier sock rest ((ifname, info) :: out)
          else queryLoop querier sock rest out
      | (_, none) => queryLoop querier sock rest out

-- `ensure_ready` never succeeds without a socket.
def EthtoolQuerier.serve (querier : EthtoolQuerier) (replies : SetupReplies)
    (requests : List LinkRequest) : EthtoolQuerier × List (String × EthtoolLink) :=
  match querier.ensureReady replies with
  | (false, unready) => (unready, [])
  | (true, ready) =>
      match ready.sock with
      | some sock => ready.queryLoop sock requests []
      | none => (ready, [])

def EthtoolQuerier.query (querier : EthtoolQuerier) (replies : SetupReplies)
    (requests : List LinkRequest) : EthtoolQuerier × List (String × EthtoolLink) :=
  if requests.isEmpty then (querier, []) else querier.serve replies requests

end EdgeHealthd
