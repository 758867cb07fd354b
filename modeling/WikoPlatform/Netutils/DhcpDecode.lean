import Mathlib.Data.Nat.Bitwise
import WikoPlatform.Netutils.DhcpMsg

/-! What `dhcpclient.c` reads out of a reply: the lease, the two strings that `dump_dhcp_msg` cleans
up, and the test that a reply answers a message. -/

namespace WikoPlatform.Netutils

open Words

def ntohl (x : UInt32) : UInt32 := get32 (le32 x).reverse 0

/-- The lease that a reply offers. -/
structure DhcpInfo where
  type : UInt32
  ipaddr : UInt32
  gateway : UInt32
  prefixLength : UInt32
  dns1 : UInt32
  dns2 : UInt32
  serveraddr : UInt32
  lease : UInt32
  deriving DecidableEq

def DhcpInfo.zero : DhcpInfo := ⟨0, 0, 0, 0, 0, 0, 0, 0⟩

theorem top_eq_zero_iff (m : UInt32) : m &&& 0x80000000 = 0 ↔ m.toNat < 2 ^ 31 := by
  rw [← UInt32.toNat_inj, UInt32.toNat_and, show (0x80000000 : UInt32).toNat = 2 ^ 31 from rfl,
    Nat.and_two_pow, Nat.testBit_eq_decide_div_mod_eq]
  have hlt := m.toNat_lt
  rcases (show m.toNat / 2 ^ 31 = 0 ∨ m.toNat / 2 ^ 31 = 1 by omega) with h | h <;> rw [h] <;>
    simp <;> omega

theorem shiftLeft_one_toNat {m : UInt32} (h : m &&& 0x80000000 ≠ 0) :
    (m <<< 1).toNat + 2 ^ 32 = 2 * m.toNat := by
  have hlt := m.toNat_lt
  rw [ne_eq, top_eq_zero_iff] at h
  rw [UInt32.toNat_shiftLeft, Nat.shiftLeft_eq]
  simp only [UInt32.reduceToNat, Nat.reduceMod]
  omega

theorem shiftLeft_lt_of_top {m : UInt32} (h : m &&& 0x80000000 ≠ 0) :
    (m <<< 1).toNat < m.toNat := by
  have hshift := shiftLeft_one_toNat h
  have hlt := m.toNat_lt
  omega

def prefixLengthLoop (m : UInt32) (prefixLength : Nat) : Nat :=
  if m &&& 0x80000000 ≠ 0 then prefixLengthLoop (m <<< 1) (prefixLength + 1) else prefixLength
termination_by m.toNat
decreasing_by exact shiftLeft_lt_of_top ‹_›

def ipv4NetmaskToPrefixLength (mask : UInt32) : Nat := prefixLengthLoop (ntohl mask) 0

def decodeOption (options : List UInt8) (opt : UInt8) (optlen x : Nat) (info : DhcpInfo) :
    DhcpInfo :=
  if opt = optSubnetMask then
    if 4 ≤ optlen then
      { info with prefixLength := UInt32.ofNat (ipv4NetmaskToPrefixLength (get32 options x)) }
    else info
  else if opt = optGateway then
    if 4 ≤ optlen then { info with gateway := get32 options x } else info
  else if opt = optDns then
    let info := if 4 ≤ optlen then { info with dns1 := get32 options x } else info
    if 8 ≤ optlen then { info with dns2 := get32 options (x + 4) } else info
  else if opt = optLeaseTime then
    if 4 ≤ optlen then { info with lease := ntohl (get32 options x) } else info
  else if opt = optServerId then
    if 4 ≤ optlen then { info with serveraddr := get32 options x } else info
  else if opt = optMessageType then { info with type := (options.getD x 0).toUInt32 }
  else info

def decodeOptions (options : List UInt8) (x len : Nat) (info : DhcpInfo) : DhcpInfo :=
  if len ≤ 2 then info
  else
    let opt := options.getD x 0
    if opt = optPad then decodeOptions options (x + 1) (len - 1) info
    else if opt = optEnd then info
    else
      let optlen := (options.getD (x + 1) 0).toNat
      if len - 2 < optlen then info
      else decodeOptions options (x + 2 + optlen) (len - 2 - optlen)
        (decodeOption options opt optlen (x + 2) info)
termination_by len

def decodeDhcpMsg (msg : DhcpMsg) (len : Nat) : DhcpInfo :=
  if len < dhcpMsgFixedSize + 4 then .zero
  else if msg.options.bytes.take 4 ≠ [optCookie1, optCookie2, optCookie3, optCookie4] then .zero
  else
    let info := decodeOptions msg.options.bytes 4 (len - (dhcpMsgFixedSize + 4)) .zero
    { info with ipaddr := msg.yiaddr }

/-- Bytes that are not printable become dots. -/
def dotUnprintable : List UInt8 → List UInt8
  | [] => []
  | x :: rest =>
    if x < 32 ∨ 127 < x then
      if x = 0 then x :: rest else 46 :: dotUnprintable rest
    else x :: dotUnprintable rest

@[simp] theorem dotUnprintable_length (s : List UInt8) : (dotUnprintable s).length = s.length := by
  induction s with
  | nil => rfl
  | cons x rest ih =>
    unfold dotUnprintable
    split_ifs
    · rfl
    · simp [ih]
    · simp [ih]

def dumpString {n : Nat} (s : Buf n) : Buf n where
  bytes := (dotUnprintable s.bytes).set (n - 1) 0
  size := by simp [s.size]

def dumpDhcpMsg (msg : DhcpMsg) (len : Nat) : DhcpMsg :=
  if len < dhcpMsgFixedSize then msg
  else { msg with sname := dumpString msg.sname, file := dumpString msg.file }

/-- `memcmp` compares `hlen` bytes, which may be up to 255. -/
def DhcpMsg.fromChaddr (m : DhcpMsg) : List UInt8 :=
  m.chaddr.bytes ++ (m.sname.bytes ++ (m.file.bytes ++ m.options.bytes))

def isValidReply (msg reply : DhcpMsg) (sz : Nat) : Bool :=
  if sz < dhcpMsgFixedSize then false
  else if reply.op ≠ opBootreply then false
  else if reply.xid ≠ msg.xid then false
  else if reply.htype ≠ msg.htype then false
  else if reply.hlen ≠ msg.hlen then false
  else if msg.fromChaddr.take msg.hlen.toNat ≠ reply.fromChaddr.take msg.hlen.toNat then false
  else true

/-- A boot reply of the fixed size at least, with the same transaction and the same `hlen` bytes
from the hardware address on. -/
structure Answers (msg reply : DhcpMsg) (sz : Nat) : Prop where
  size : dhcpMsgFixedSize ≤ sz
  op : reply.op = opBootreply
  xid : reply.xid = msg.xid
  htype : reply.htype = msg.htype
  hlen : reply.hlen = msg.hlen
  chaddr : reply.fromChaddr.take msg.hlen.toNat = msg.fromChaddr.take msg.hlen.toNat

theorem isValidReply_iff (msg reply : DhcpMsg) (sz : Nat) :
    isValidReply msg reply sz = true ↔ Answers msg reply sz := by
  unfold isValidReply
  split_ifs with hsize hop hxid htype hlen hchaddr
  · simpa using fun h : Answers msg reply sz => absurd h.size (by omega)
  · simpa using fun h : Answers msg reply sz => hop h.op
  · simpa using fun h : Answers msg reply sz => hxid h.xid
  · simpa using fun h : Answers msg reply sz => htype h.htype
  · simpa using fun h : Answers msg reply sz => hlen h.hlen
  · simpa using fun h : Answers msg reply sz => hchaddr h.chaddr.symm
  · simp only [true_iff]
    exact ⟨by omega, not_not.mp hop, not_not.mp hxid, not_not.mp htype, not_not.mp hlen,
      (not_not.mp hchaddr).symm⟩

end WikoPlatform.Netutils
