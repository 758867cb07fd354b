import WikoPlatform.Lib.Runs
import WikoPlatform.Netutils.DhcpDecode
import WikoPlatform.Netutils.Packet

/-! `dhcp_init_ifc`: a discover, a request, and replies until a lease is configured, the server
refuses, or the last timeout passes. What the kernel answers is the input of a pass of the loop. -/

namespace WikoPlatform.Netutils

open Words

inductive ClientState where
  | selecting
  | requesting
  deriving DecidableEq

def timeoutInitial : Nat := 4000
def timeoutMax : Nat := 32000

def inaddrAny : UInt32 := 0
def inaddrBroadcast : UInt32 := 0xffffffff

inductive Errno where
  | eagain
  | eintr
  | enetdown
  | enxio
  | other
  deriving DecidableEq

inductive Event where
  | timeout
  | pollError (errno : Errno)
  | readError (errno : Errno)
  | packet (stale : Buf sizeofPacket) (datagram : Datagram)

/-- `received` is a reply that was decoded, with its length and the answer of `is_valid_reply`. -/
inductive Action where
  | openRawSocket (opened : Bool)
  | send (msg : DhcpMsg) (datagram : List UInt8)
  | poll (timeout : Nat)
  | received (reply : DhcpMsg) (r : Nat) (valid : Bool)
  | close
  | configure (info : DhcpInfo)
  deriving DecidableEq

/-- After `undefined`, a copy outside the reply, the program says nothing about what follows. -/
inductive Exit where
  | fatal
  | netDown
  | timedOut
  | offered
  | acked
  | denied
  | undefined
  deriving DecidableEq

/-- The local variables of `dhcp_init_ifc`. -/
structure Client where
  hwaddr : Buf 6
  state : ClientState
  timeout : Nat
  xid : UInt32
  discoverMsg : DhcpMsg
  requestMsg : DhcpMsg
  reply : DhcpMsg
  info : DhcpInfo

inductive Loop where
  | polling (c : Client)
  | returned (exit : Exit)

def sendMessage (msg : DhcpMsg) (size : Nat) : Action × DhcpMsg :=
  let msg := dumpDhcpMsg msg size
  (.send msg (sendPacket msg size inaddrAny inaddrBroadcast portBootpClient portBootpServer), msg)

namespace Client

def transmit (c : Client) : List Action × Loop :=
  match c.state with
  | .selecting =>
    let (msg, size) := initDhcpDiscoverMsg c.hwaddr c.xid
    let (action, msg) := sendMessage msg size
    ([action], .polling { c with discoverMsg := msg })
  | .requesting =>
    let (msg, size) := initDhcpRequestMsg c.hwaddr c.xid c.info.ipaddr c.info.serveraddr
    let (action, msg) := sendMessage msg size
    ([action], .polling { c with requestMsg := msg })

def backOff (c : Client) : Client := { c with timeout := c.timeout * 2 }

def onTimeout (c : Client) : List Action × Loop :=
  if timeoutMax ≤ c.timeout then
    -- This return leaves the socket open.
    if c.info.type = dhcpOffer.toUInt32 then ([.configure c.info], .returned .offered)
    else ([.close], .returned .timedOut)
  else c.backOff.transmit

def accept (c : Client) : Client :=
  { c with state := .requesting, timeout := timeoutInitial, xid := c.xid + 1 }

def onValidReply (c : Client) : List Action × Loop :=
  match c.state with
  | .selecting =>
    if c.info.type = dhcpOffer.toUInt32 then c.accept.transmit
    else ([], .polling c)
  | .requesting =>
    if c.info.type = dhcpAck.toUInt32 then ([.close, .configure c.info], .returned .acked)
    else if c.info.type = dhcpNak.toUInt32 then ([.close], .returned .denied)
    else ([], .polling c)

def awaiting (c : Client) : DhcpMsg :=
  match c.state with
  | .selecting => c.discoverMsg
  | .requesting => c.requestMsg

def learn (c : Client) (reply : DhcpMsg) (r : Nat) : Client :=
  { c with reply := reply, info := decodeDhcpMsg reply r }

/-- The lease is decoded before the reply is looked at. -/
def onReply (c : Client) (reply : DhcpMsg) (r : Nat) : List Action × Loop :=
  let reply := dumpDhcpMsg reply r
  let c := c.learn reply r
  if isValidReply c.awaiting reply r then
    let (actions, loop) := c.onValidReply
    (.received reply r true :: actions, loop)
  else ([.received reply r false], .polling c)

def pass (c : Client) : Event → List Action × Loop
  | .timeout => c.onTimeout
  | .pollError errno =>
    if errno = .eagain ∨ errno = .eintr then ([], .polling c) else ([], .returned .fatal)
  | .readError errno =>
    if errno = .enetdown ∨ errno = .enxio then ([], .returned .netDown) else ([], .polling c)
  | .packet stale datagram =>
    match receivePacket stale datagram with
    | .rejected => ([], .polling c)
    | .copied size dhcp =>
      match c.reply.memcpy dhcp size with
      | none => ([], .returned .undefined)
      | some reply => c.onReply reply size.toNat

def receivedReply (c : Client) : Event → Option (DhcpMsg × Nat)
  | .packet stale datagram =>
    match receivePacket stale datagram with
    | .rejected => none
    | .copied size dhcp =>
      (c.reply.memcpy dhcp size).map fun reply => (dumpDhcpMsg reply size.toNat, size.toNat)
  | _ => none

/-- What one pass of the loop can do. -/
inductive Passes (c : Client) : Event → List Action → Loop → Prop where
  | ignored {event} : Passes c event [] (.polling c)
  | failed {event exit} (h : exit = .fatal ∨ exit = .netDown ∨ exit = .undefined) :
      Passes c event [] (.returned exit)
  | timedOut (hmax : timeoutMax ≤ c.timeout) (htype : c.info.type ≠ dhcpOffer.toUInt32) :
      Passes c .timeout [.close] (.returned .timedOut)
  | offered (hmax : timeoutMax ≤ c.timeout) (htype : c.info.type = dhcpOffer.toUInt32) :
      Passes c .timeout [.configure c.info] (.returned .offered)
  | resent (hmax : c.timeout < timeoutMax) :
      Passes c .timeout c.backOff.transmit.1 c.backOff.transmit.2
  | invalid {event reply r} (hreceived : c.receivedReply event = some (reply, r))
      (hanswers : ¬Answers c.awaiting reply r) :
      Passes c event [.received reply r false] (.polling (c.learn reply r))
  | unused {event reply r} (hreceived : c.receivedReply event = some (reply, r))
      (hanswers : Answers c.awaiting reply r)
      (htype : c.state = .selecting → (decodeDhcpMsg reply r).type ≠ dhcpOffer.toUInt32) :
      Passes c event [.received reply r true] (.polling (c.learn reply r))
  | offer {event reply r} (hreceived : c.receivedReply event = some (reply, r))
      (hanswers : Answers c.awaiting reply r) (hstate : c.state = .selecting)
      (htype : (decodeDhcpMsg reply r).type = dhcpOffer.toUInt32) :
      Passes c event (.received reply r true :: (c.learn reply r).accept.transmit.1)
        (c.learn reply r).accept.transmit.2
  | acked {event reply r} (hreceived : c.receivedReply event = some (reply, r))
      (hanswers : Answers c.awaiting reply r) (hstate : c.state = .requesting)
      (htype : (decodeDhcpMsg reply r).type = dhcpAck.toUInt32) :
      Passes c event [.received reply r true, .close, .configure (decodeDhcpMsg reply r)]
        (.returned .acked)
  | denied {event reply r} (hreceived : c.receivedReply event = some (reply, r))
      (hanswers : Answers c.awaiting reply r) (hstate : c.state = .requesting)
      (htype : (decodeDhcpMsg reply r).type = dhcpNak.toUInt32) :
      Passes c event [.received reply r true, .close] (.returned .denied)

theorem onTimeout_passes (c : Client) : Passes c .timeout c.onTimeout.1 c.onTimeout.2 := by
  unfold onTimeout
  split_ifs with hmax htype
  · exact .offered hmax htype
  · exact .timedOut hmax htype
  · exact .resent (by omega)

theorem onReply_passes {c : Client} {event : Event} {copied : DhcpMsg} {r : Nat}
    (h : c.receivedReply event = some (dumpDhcpMsg copied r, r)) :
    Passes c event (c.onReply copied r).1 (c.onReply copied r).2 := by
  generalize hreply : dumpDhcpMsg copied r = reply at h
  have hawaiting : (c.learn reply r).awaiting = c.awaiting := rfl
  simp only [onReply, hreply, hawaiting]
  by_cases hvalid : isValidReply c.awaiting reply r = true
  · rw [if_pos hvalid]
    have hanswers := (isValidReply_iff _ _ _).mp hvalid
    unfold onValidReply
    cases hstate : c.state with
    | selecting =>
      rw [show (c.learn reply r).state = .selecting from hstate]
      simp only
      split_ifs with htype
      · exact .offer h hanswers hstate htype
      · exact .unused h hanswers fun _ => htype
    | requesting =>
      rw [show (c.learn reply r).state = .requesting from hstate]
      simp only
      split_ifs with hack hnak
      · exact .acked h hanswers hstate hack
      · exact .denied h hanswers hstate hnak
      · exact .unused h hanswers fun hselect => by rw [hstate] at hselect; cases hselect
  · rw [if_neg hvalid]
    exact .invalid h fun hanswers => hvalid ((isValidReply_iff _ _ _).mpr hanswers)

theorem pass_passes (c : Client) (event : Event) :
    Passes c event (c.pass event).1 (c.pass event).2 := by
  cases event with
  | timeout => exact c.onTimeout_passes
  | pollError errno =>
    simp only [pass]
    split_ifs
    · exact .ignored
    · exact .failed (.inl rfl)
  | readError errno =>
    simp only [pass]
    split_ifs
    · exact .failed (.inr (.inl rfl))
    · exact .ignored
  | packet stale datagram =>
    cases hreceive : receivePacket stale datagram with
    | rejected =>
      simp only [pass, hreceive]
      exact .ignored
    | copied size dhcp =>
      cases hcopy : c.reply.memcpy dhcp size with
      | none =>
        simp only [pass, hreceive, hcopy]
        exact .failed (.inr (.inr rfl))
      | some copied =>
        simp only [pass, hreceive, hcopy]
        exact onReply_passes (by simp only [receivedReply, hreceive, hcopy, Option.map_some])

end Client

def clientStep : Loop → Event → List Action × Loop
  | .polling c, event =>
    let (actions, loop) := c.pass event
    (.poll c.timeout :: actions, loop)
  | .returned exit, _ => ([], .returned exit)

/-- The clock, the interface, whether the socket opens, and what the local variables happen to hold.
-/
structure Setup where
  xid : UInt32
  hwaddr : Option (Buf 6)
  hasIfindex : Bool
  opened : Bool
  discoverMsg : DhcpMsg
  requestMsg : DhcpMsg
  reply : DhcpMsg
  info : DhcpInfo

def dhcpInitIfc (setup : Setup) : List Action × Loop :=
  match setup.hwaddr with
  | none => ([], .returned .fatal)
  | some hwaddr =>
    if setup.hasIfindex then
      let (actions, loop) := Client.transmit {
        hwaddr := hwaddr
        state := .selecting
        timeout := timeoutInitial
        xid := setup.xid
        discoverMsg := setup.discoverMsg
        requestMsg := setup.requestMsg
        reply := setup.reply
        info := { setup.info with type := 0 } }
      (.openRawSocket setup.opened :: actions, loop)
    else ([], .returned .fatal)

def clientRun (setup : Setup) (events : List Event) : List Action × Loop :=
  ((dhcpInitIfc setup).1 ++ (Runs.run clientStep (dhcpInitIfc setup).2 events).1,
    (Runs.run clientStep (dhcpInitIfc setup).2 events).2)

end WikoPlatform.Netutils
