import WikoPlatform.Lib.Words

/-! The DHCP message of `libnetutils/dhcpmsg.h`, its layout in memory on a little-endian machine,
and the discover and request messages that `dhcpmsg.c` writes. -/

namespace WikoPlatform.Netutils

open Words

/-! The constants of `dhcpmsg.h`. -/

def portBootpServer : UInt32 := 67
def portBootpClient : UInt32 := 68

def opBootrequest : UInt8 := 1
def opBootreply : UInt8 := 2

def flagsBroadcast : UInt16 := 0x8000

def htypeEther : UInt8 := 1

def dhcpMsgFixedSize : Nat := 236

def sizeofDhcpMsg : Nat := 1260

def optCookie1 : UInt8 := 0x63
def optCookie2 : UInt8 := 0x82
def optCookie3 : UInt8 := 0x53
def optCookie4 : UInt8 := 0x63

def optPad : UInt8 := 0
def optSubnetMask : UInt8 := 1
def optGateway : UInt8 := 3
def optDns : UInt8 := 6
def optBroadcastAddr : UInt8 := 28
def optRequestedIp : UInt8 := 50
def optLeaseTime : UInt8 := 51
def optMessageType : UInt8 := 53
def optServerId : UInt8 := 54
def optParameterList : UInt8 := 55
def optEnd : UInt8 := 255

def dhcpDiscover : UInt8 := 1
def dhcpOffer : UInt8 := 2
def dhcpRequest : UInt8 := 3
def dhcpAck : UInt8 := 5
def dhcpNak : UInt8 := 6

/-- Integers are as the processor loads them: addresses and the transaction id are copied without
changing their byte order. -/
structure DhcpMsg where
  op : UInt8
  htype : UInt8
  hlen : UInt8
  hops : UInt8
  xid : UInt32
  secs : UInt16
  flags : UInt16
  ciaddr : UInt32
  yiaddr : UInt32
  siaddr : UInt32
  giaddr : UInt32
  chaddr : Buf 16
  sname : Buf 64
  file : Buf 128
  options : Buf 1024
  deriving DecidableEq

namespace DhcpMsg

def headBytes (m : DhcpMsg) : List UInt8 :=
  [m.op, m.htype, m.hlen, m.hops] ++ le32 m.xid ++ le16 m.secs ++ le16 m.flags ++ le32 m.ciaddr ++
    le32 m.yiaddr ++ le32 m.siaddr ++ le32 m.giaddr

/-- The message as it lies in memory. -/
def toBytes (m : DhcpMsg) : List UInt8 :=
  m.headBytes ++ (m.chaddr.bytes ++ (m.sname.bytes ++ (m.file.bytes ++ m.options.bytes)))

def ofBytes (bytes : List UInt8) : DhcpMsg where
  op := bytes.getD 0 0
  htype := bytes.getD 1 0
  hlen := bytes.getD 2 0
  hops := bytes.getD 3 0
  xid := get32 bytes 4
  secs := get16 bytes 8
  flags := get16 bytes 10
  ciaddr := get32 bytes 12
  yiaddr := get32 bytes 16
  siaddr := get32 bytes 20
  giaddr := get32 bytes 24
  chaddr := Buf.ofList 16 (bytes.drop 28)
  sname := Buf.ofList 64 (bytes.drop 44)
  file := Buf.ofList 128 (bytes.drop 108)
  options := Buf.ofList 1024 (bytes.drop 236)

def zero : DhcpMsg := ofBytes []

def overwrite (m : DhcpMsg) (src : List UInt8) (n : Nat) : DhcpMsg :=
  ofBytes (src.take n ++ m.toBytes.drop n)

def memcpy (m : DhcpMsg) (src : List UInt8) (size : Int) : Option DhcpMsg :=
  if 0 ≤ size ∧ size ≤ sizeofDhcpMsg then some (m.overwrite src size.toNat) else none

@[simp] theorem headBytes_length (m : DhcpMsg) : m.headBytes.length = 28 := rfl

@[simp] theorem toBytes_length (m : DhcpMsg) : m.toBytes.length = sizeofDhcpMsg := by
  simp [toBytes, m.chaddr.size, m.sname.size, m.file.size, m.options.size, sizeofDhcpMsg]

variable {m : DhcpMsg} {i : Nat} {bytes : List UInt8}

theorem headBytes_ofBytes (h : 28 ≤ bytes.length) : (ofBytes bytes).headBytes = bytes.take 28 := by
  rw [← map_getD_range bytes h]
  simp only [headBytes, ofBytes, byte_get32, byte_get16]
  rfl

theorem toBytes_ofBytes (h : bytes.length = sizeofDhcpMsg) : (ofBytes bytes).toBytes = bytes := by
  rw [sizeofDhcpMsg] at h
  rw [toBytes, headBytes_ofBytes (by omega)]
  simp only [ofBytes]
  rw [Buf.ofList_bytes (by simp [h]), Buf.ofList_bytes (by simp [h]),
    Buf.ofList_bytes (by simp [h]), Buf.ofList_bytes (by simp [h]),
    List.take_of_length_le (l := bytes.drop 236) (by simp [h]),
    show bytes.drop 236 = (bytes.drop 108).drop 128 by rw [List.drop_drop], List.take_append_drop,
    show bytes.drop 108 = (bytes.drop 44).drop 64 by rw [List.drop_drop], List.take_append_drop,
    show bytes.drop 44 = (bytes.drop 28).drop 16 by rw [List.drop_drop], List.take_append_drop,
    List.take_append_drop]

theorem overwrite_take {src : List UInt8} {n : Nat} (hn : n ≤ sizeofDhcpMsg)
    (hsrc : n ≤ src.length) : (m.overwrite src n).toBytes.take n = src.take n := by
  have hlen : (src.take n).length = n := by simp [hsrc]
  rw [overwrite, toBytes_ofBytes (by simp [hlen]; omega), List.take_left' hlen]

end DhcpMsg

def htons (x : UInt16) : UInt16 := UInt16.ofNat (x.toNat % 256 * 256 + x.toNat / 256)

def ntohs (x : UInt16) : UInt16 := htons x

/-- What both messages begin with. -/
def initDhcpMsg (type : UInt8) (hwaddr : Buf 6) (xid : UInt32) : DhcpMsg × List UInt8 :=
  ({ DhcpMsg.zero with
      op := opBootrequest
      htype := htypeEther
      hlen := 6
      hops := 0
      flags := htons flagsBroadcast
      xid := xid
      chaddr := Buf.ofList 16 hwaddr.bytes },
    [optCookie1, optCookie2, optCookie3, optCookie4, optMessageType, 1, type])

def withOptions (m : DhcpMsg) (options : List UInt8) : DhcpMsg × Nat :=
  ({ m with options := Buf.ofList 1024 options }, dhcpMsgFixedSize + options.length)

def parameterList : List UInt8 :=
  [optParameterList, 4, optSubnetMask, optGateway, optDns, optBroadcastAddr]

def initDhcpDiscoverMsg (hwaddr : Buf 6) (xid : UInt32) : DhcpMsg × Nat :=
  let (msg, x) := initDhcpMsg dhcpDiscover hwaddr xid
  withOptions msg (x ++ parameterList ++ [optEnd])

def initDhcpRequestMsg (hwaddr : Buf 6) (xid ipaddr serveraddr : UInt32) : DhcpMsg × Nat :=
  let (msg, x) := initDhcpMsg dhcpRequest hwaddr xid
  withOptions msg (x ++ parameterList ++ ([optRequestedIp, 4] ++ le32 ipaddr) ++
    ([optServerId, 4] ++ le32 serveraddr) ++ [optEnd])

end WikoPlatform.Netutils
