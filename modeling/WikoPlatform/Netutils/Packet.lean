import WikoPlatform.Netutils.Checksum
import WikoPlatform.Netutils.DhcpMsg

/-! UDP datagrams over IP as `libnetutils/packet.c` frames them. -/

namespace WikoPlatform.Netutils

open Words

def ipVersion : UInt8 := 4
def ipDefTtl : UInt8 := 64
def ipprotoUdp : UInt8 := 17

def sizeofIphdr : Nat := 20

def sizeofUdphdr : Nat := 8

def sizeofPacket : Nat := sizeofIphdr + sizeofUdphdr + sizeofDhcpMsg

/-- The IP header. -/
structure IpHdr where
  version : UInt8
  ihl : UInt8
  tos : UInt8
  totLen : UInt16
  id : UInt16
  fragOff : UInt16
  ttl : UInt8
  protocol : UInt8
  check : UInt16
  saddr : UInt32
  daddr : UInt32

/-- The UDP header. -/
structure UdpHdr where
  source : UInt16
  dest : UInt16
  len : UInt16
  check : UInt16

def IpHdr.toBytes (ip : IpHdr) : List UInt8 :=
  [UInt8.ofNat (ip.ihl.toNat % 16 + 16 * ip.version.toNat), ip.tos] ++ le16 ip.totLen ++
    le16 ip.id ++ le16 ip.fragOff ++ [ip.ttl, ip.protocol] ++ le16 ip.check ++ le32 ip.saddr ++
    le32 ip.daddr

def IpHdr.ofBytes (bytes : List UInt8) : IpHdr where
  version := UInt8.ofNat ((bytes.getD 0 0).toNat / 16)
  ihl := UInt8.ofNat ((bytes.getD 0 0).toNat % 16)
  tos := bytes.getD 1 0
  totLen := get16 bytes 2
  id := get16 bytes 4
  fragOff := get16 bytes 6
  ttl := bytes.getD 8 0
  protocol := bytes.getD 9 0
  check := get16 bytes 10
  saddr := get32 bytes 12
  daddr := get32 bytes 16

def IpHdr.zero : IpHdr := IpHdr.ofBytes []

def UdpHdr.toBytes (udp : UdpHdr) : List UInt8 :=
  le16 udp.source ++ le16 udp.dest ++ le16 udp.len ++ le16 udp.check

def UdpHdr.ofBytes (bytes : List UInt8) : UdpHdr where
  source := get16 bytes 0
  dest := get16 bytes 2
  len := get16 bytes 4
  check := get16 bytes 6

/-- The IP header, before its checksum. -/
def sendIpUnchecked (size : Nat) (saddr daddr : UInt32) : IpHdr where
  version := ipVersion
  ihl := UInt8.ofNat (sizeofIphdr / 4)
  tos := 0
  totLen := htons (UInt16.ofNat (sizeofIphdr + sizeofUdphdr + size))
  id := 0
  fragOff := 0
  ttl := ipDefTtl
  protocol := ipprotoUdp
  check := 0
  saddr := saddr
  daddr := daddr

def sendIp (size : Nat) (saddr daddr : UInt32) : IpHdr :=
  let ip := sendIpUnchecked size saddr daddr
  { ip with check := (finishSum (checksum ip.toBytes sizeofIphdr 0)).toUInt16 }

/-- The UDP header, before its checksum. -/
def sendUdpUnchecked (size : Nat) (sport dport : UInt32) : UdpHdr where
  source := htons sport.toUInt16
  dest := htons dport.toUInt16
  len := htons (UInt16.ofNat (sizeofUdphdr + size))
  check := 0

/-- The sum over the pseudo-header, the header and the data. -/
def udpSum (msg : DhcpMsg) (size : Nat) (saddr daddr : UInt32) (udp : UdpHdr) : UInt32 :=
  let udpsum := checksum (le32 saddr) 4 0
  let udpsum := checksum (le32 daddr) 4 udpsum
  let udpsum := checksum (le16 (htons (UInt16.ofNat ipprotoUdp.toNat))) 2 udpsum
  let udpsum := checksum (le16 udp.len) 2 udpsum
  let udpsum := checksum udp.toBytes sizeofUdphdr udpsum
  checksum msg.toBytes size udpsum

def sendUdp (msg : DhcpMsg) (size : Nat) (saddr daddr sport dport : UInt32) : UdpHdr :=
  let udp := sendUdpUnchecked size sport dport
  { udp with check := (finishSum (udpSum msg size saddr daddr udp)).toUInt16 }

/-- The bytes on the wire. -/
def sendPacket (msg : DhcpMsg) (size : Nat) (saddr daddr sport dport : UInt32) : List UInt8 :=
  (sendIp size saddr daddr).toBytes ++ ((sendUdp msg size saddr daddr sport dport).toBytes ++
    msg.toBytes.take size)

/-- What `read` gives of one packet. -/
structure Datagram where
  bytes : List UInt8
  fits : bytes.length ≤ sizeofPacket

/-- It returns -1 and leaves the message alone, or calls `memcpy(msg, &packet.dhcp, size)` and
returns `size`. -/
inductive Received where
  | rejected
  | copied (size : Int) (dhcp : List UInt8)
  deriving DecidableEq

/-- The datagram, with what was in `packet` behind it. -/
def packetBuffer (stale : Buf sizeofPacket) (datagram : Datagram) : List UInt8 :=
  datagram.bytes ++ stale.bytes.drop datagram.bytes.length

def isValid (nread : Nat) (ip : IpHdr) (udp : UdpHdr) : Bool :=
  if nread < sizeofIphdr + sizeofUdphdr then false
  else if ip.version ≠ ipVersion ∨ ip.ihl ≠ UInt8.ofNat (sizeofIphdr / 4) then false
  else if nread < (ntohs ip.totLen).toNat then false
  else if ip.protocol ≠ ipprotoUdp then false
  else if udp.dest ≠ htons portBootpClient.toUInt16 then false
  else true

/-- The IP header that stands in for the pseudo-header. -/
def pseudoHeader (ip : IpHdr) (udp : UdpHdr) : IpHdr :=
  { IpHdr.zero with
    saddr := ip.saddr, daddr := ip.daddr, protocol := ipprotoUdp, totLen := udp.len }

def expectedCheck (ip : IpHdr) (udp : UdpHdr) (dhcp : List UInt8) : UInt32 :=
  let packet := (pseudoHeader ip udp).toBytes ++ ({ udp with check := 0 }.toBytes ++ dhcp)
  let sum := finishSum (checksum packet (ntohs ip.totLen).toNat 0)
  if sum = 0 then finishSum sum else sum

def dhcpSize (udp : UdpHdr) : Int := (ntohs udp.len).toNat - sizeofUdphdr

section

variable (stale : Buf sizeofPacket) (datagram : Datagram)

def packetIp : IpHdr := IpHdr.ofBytes (packetBuffer stale datagram)

def packetUdp : UdpHdr := UdpHdr.ofBytes ((packetBuffer stale datagram).drop sizeofIphdr)

def packetDhcp : List UInt8 := (packetBuffer stale datagram).drop (sizeofIphdr + sizeofUdphdr)

/-- The checks come in the order of the source. -/
def receivePacket : Received :=
  let ip := packetIp stale datagram
  let udp := packetUdp stale datagram
  let dhcp := packetDhcp stale datagram
  if isValid datagram.bytes.length ip udp = false then .rejected
  else if finishSum (checksum (packetBuffer stale datagram) sizeofIphdr 0) ≠ 0 then .rejected
  else if udp.check.toUInt32 ≠ expectedCheck ip udp dhcp then .rejected
  else .copied (dhcpSize udp) dhcp

end

end WikoPlatform.Netutils
