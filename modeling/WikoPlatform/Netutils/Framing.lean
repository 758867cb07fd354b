import WikoPlatform.Netutils.Packet

/-! What `receive_packet` accepts, and exactly which datagrams of `send_packet` it takes back. -/

namespace WikoPlatform.Netutils

open Words

theorem htons_toNat (x : UInt16) : (htons x).toNat = x.toNat % 256 * 256 + x.toNat / 256 := by
  have := x.toNat_lt
  rw [htons, UInt16.toNat_ofNat']
  omega

theorem ntohs_htons (x : UInt16) : ntohs (htons x) = x := by
  have := x.toNat_lt
  apply UInt16.toNat_inj.mp
  rw [ntohs, htons_toNat, htons_toNat]
  omega

section Bounds

variable (stale : Buf sizeofPacket) (datagram : Datagram)

/-- The header is valid, and both checksums are right. -/
structure PassesChecks : Prop where
  header : isValid datagram.bytes.length (packetIp stale datagram) (packetUdp stale datagram) = true
  ipSum : finishSum (checksum (packetBuffer stale datagram) sizeofIphdr 0) = 0
  udpSum : (packetUdp stale datagram).check.toUInt32 =
    expectedCheck (packetIp stale datagram) (packetUdp stale datagram) (packetDhcp stale datagram)

theorem receivePacket_copied (h : PassesChecks stale datagram) : receivePacket stale datagram =
      .copied (dhcpSize (packetUdp stale datagram)) (packetDhcp stale datagram) := by
  unfold receivePacket
  rw [if_neg (by rw [h.header]; decide), if_neg (not_not.mpr h.ipSum),
    if_neg (not_not.mpr h.udpSum)]

theorem receivePacket_rejected (h : ¬PassesChecks stale datagram) :
    receivePacket stale datagram = .rejected := by
  unfold receivePacket
  simp only
  split_ifs with hheader hip hudp
  · rfl
  · rfl
  · rfl
  · exact absurd ⟨by simpa using hheader, not_not.mp hip, not_not.mp hudp⟩ h

/-- A size that reaches the copy is inside the message. -/
def ReceiveBounds : Prop :=
  ∀ size dhcp, receivePacket stale datagram = .copied size dhcp →
    0 ≤ size ∧ size ≤ sizeofDhcpMsg ∧
      size ≤ ((ntohs (packetIp stale datagram).totLen).toNat : Int) - 28 ∧
      size ≤ (datagram.bytes.length : Int) - 28

/-- The UDP length is inside the IP length. -/
def LengthsAgree : Prop :=
  sizeofUdphdr ≤ (ntohs (packetUdp stale datagram).len).toNat ∧
    (ntohs (packetUdp stale datagram).len).toNat ≤ sizeofUdphdr + sizeofDhcpMsg ∧
    sizeofIphdr + (ntohs (packetUdp stale datagram).len).toNat ≤
      (ntohs (packetIp stale datagram).totLen).toNat

theorem isValid_totLen {nread : Nat} {ip : IpHdr} {udp : UdpHdr} (h : isValid nread ip udp = true) :
    (ntohs ip.totLen).toNat ≤ nread := by
  unfold isValid at h
  by_contra hlt
  simp [show nread < (ntohs ip.totLen).toNat by omega] at h

theorem receiveBounds_iff : ReceiveBounds stale datagram ↔
    (PassesChecks stale datagram → LengthsAgree stale datagram) := by
  constructor
  · intro hbounds hchecks
    have h := hbounds _ _ (receivePacket_copied stale datagram hchecks)
    simp only [dhcpSize, sizeofUdphdr, sizeofDhcpMsg] at h
    simp only [LengthsAgree, sizeofUdphdr, sizeofDhcpMsg, sizeofIphdr]
    omega
  · intro hlengths size dhcp hcopied
    by_cases hchecks : PassesChecks stale datagram
    · have hread := isValid_totLen hchecks.header
      have h := hlengths hchecks
      rw [receivePacket_copied stale datagram hchecks] at hcopied
      injection hcopied with hsize
      simp only [LengthsAgree, sizeofUdphdr, sizeofDhcpMsg, sizeofIphdr] at h
      simp only [dhcpSize, sizeofUdphdr] at hsize
      simp only [sizeofDhcpMsg]
      omega
    · rw [receivePacket_rejected stale datagram hchecks] at hcopied
      cases hcopied

end Bounds

def longUdpDatagram : Datagram where
  bytes := [69, 0, 0, 28, 0, 0, 0, 0, 64, 17, 122, 210, 0, 0, 0, 0, 255, 255, 255, 255,
    0, 67, 0, 68, 7, 208, 239, 199]
  fits := by decide

theorem receiveBounds_longUdp : ¬ReceiveBounds (Buf.ofList sizeofPacket []) longUdpDatagram := by
  intro h
  have hcopied : ∃ dhcp, receivePacket (Buf.ofList sizeofPacket []) longUdpDatagram =
      .copied 1992 dhcp := ⟨List.replicate 1260 0, by decide +kernel⟩
  obtain ⟨dhcp, hcopied⟩ := hcopied
  have := (h _ _ hcopied).2.1
  revert this
  decide

@[simp] theorem IpHdr.toBytes_length (ip : IpHdr) : ip.toBytes.length = 20 := rfl

@[simp] theorem UdpHdr.toBytes_length (udp : UdpHdr) : udp.toBytes.length = 8 := rfl

variable {ip : IpHdr} {dhcp : List UInt8} {n : Nat}

theorem IpHdr.ofBytes_toBytes (rest : List UInt8) (hversion : ip.version.toNat < 16)
    (hihl : ip.ihl.toNat < 16) : IpHdr.ofBytes (ip.toBytes ++ rest) = ip := by
  have hfirst : ((ip.toBytes ++ rest).getD 0 0).toNat = ip.ihl.toNat + 16 * ip.version.toNat := by
    show (UInt8.ofNat (ip.ihl.toNat % 16 + 16 * ip.version.toNat)).toNat = _
    rw [UInt8.toNat_ofNat']
    omega
  have hv : UInt8.ofNat (((ip.toBytes ++ rest).getD 0 0).toNat / 16) = ip.version := by
    rw [← UInt8.toNat_inj, UInt8.toNat_ofNat']
    omega
  have hi : UInt8.ofNat (((ip.toBytes ++ rest).getD 0 0).toNat % 16) = ip.ihl := by
    rw [← UInt8.toNat_inj, UInt8.toNat_ofNat']
    omega
  rw [IpHdr.ofBytes, hv, hi, get16_of_bytes rfl rfl,
    get16_of_bytes rfl rfl, get16_of_bytes rfl rfl,
    get16_of_bytes rfl rfl, get32_of_bytes rfl rfl rfl rfl,
    get32_of_bytes rfl rfl rfl rfl]
  rfl

theorem UdpHdr.ofBytes_toBytes (udp : UdpHdr) (rest : List UInt8) :
    UdpHdr.ofBytes (udp.toBytes ++ rest) = udp := by
  rw [UdpHdr.ofBytes, get16_of_bytes rfl rfl,
    get16_of_bytes rfl rfl, get16_of_bytes rfl rfl,
    get16_of_bytes rfl rfl]

theorem word_bytes (x : UInt16) : word (byte x.toNat 0) (byte x.toNat 1) = x.toNat := by
  have := wordSum_le16 x
  simpa [le16, wordSum] using this

theorem IpHdr.wordSum_toBytes (ip : IpHdr) : wordSum ip.toBytes =
    word (UInt8.ofNat (ip.ihl.toNat % 16 + 16 * ip.version.toNat)) ip.tos + ip.totLen.toNat +
      ip.id.toNat + ip.fragOff.toNat + word ip.ttl ip.protocol + ip.check.toNat +
      wordSum (le32 ip.saddr) + wordSum (le32 ip.daddr) := by
  simp only [IpHdr.toBytes, le16, le32, List.cons_append, List.nil_append, wordSum, word_bytes]
  omega

theorem UdpHdr.wordSum_toBytes (udp : UdpHdr) : wordSum udp.toBytes =
    udp.source.toNat + udp.dest.toNat + udp.len.toNat + udp.check.toNat := by
  simp only [UdpHdr.toBytes, le16, List.cons_append, List.nil_append, wordSum, word_bytes]
  omega

def udpWordSum (msg : DhcpMsg) (size : Nat) (saddr daddr : UInt32) (udp : UdpHdr) : Nat :=
  wordSum (le32 saddr) + wordSum (le32 daddr) + 0x1100 + udp.len.toNat + wordSum udp.toBytes +
    wordSum (msg.toBytes.take size)

theorem udpSum_toNat (msg : DhcpMsg) {size : Nat} (hsize : size ≤ sizeofDhcpMsg)
    (saddr daddr : UInt32) (udp : UdpHdr) : (udpSum msg size saddr daddr udp).toNat =
      EndAround.fold 65536 (udpWordSum msg size saddr daddr udp) := by
  have h1 := checksum_start (le32 saddr) (show 4 < 2 ^ 17 by decide)
  have h2 := checksum_continue (le32 daddr) 4 h1 (by decide)
  have h3 := checksum_continue (le16 (htons (UInt16.ofNat ipprotoUdp.toNat))) 2 h2 (by decide)
  have h4 := checksum_continue (le16 udp.len) 2 h3 (by decide)
  have h5 := checksum_continue udp.toBytes sizeofUdphdr h4 (by decide)
  have h6 := checksum_continue msg.toBytes size h5
    (by simp only [sizeofDhcpMsg] at hsize; omega)
  rw [udpSum, h6, udpWordSum, List.take_of_length_le (by simp [le32]),
    List.take_of_length_le (by simp [le32]),
    List.take_of_length_le (l := le16 udp.len) (by simp [le16]),
    List.take_of_length_le (l := udp.toBytes) (by simp [sizeofUdphdr]), wordSum_le16]
  rw [show wordSum ((le16 (htons (UInt16.ofNat ipprotoUdp.toNat))).take 2) = 0x1100 by decide]

theorem pseudoHeader_wordSum (ip : IpHdr) (udp : UdpHdr) : wordSum (pseudoHeader ip udp).toBytes =
      wordSum (le32 ip.saddr) + wordSum (le32 ip.daddr) + 0x1100 + udp.len.toNat := by
  rw [IpHdr.wordSum_toBytes]
  simp only [pseudoHeader]
  rw [show word (UInt8.ofNat (IpHdr.zero.ihl.toNat % 16 + 16 * IpHdr.zero.version.toNat))
      IpHdr.zero.tos = 0 by decide, show IpHdr.zero.id.toNat = 0 by decide,
    show IpHdr.zero.fragOff.toNat = 0 by decide, show IpHdr.zero.check.toNat = 0 by decide,
    show word IpHdr.zero.ttl ipprotoUdp = 0x1100 by decide]
  omega

def udpWords (ip : IpHdr) (udp : UdpHdr) (data : List UInt8) : Nat :=
  wordSum (le32 ip.saddr) + wordSum (le32 ip.daddr) + 0x1100 + udp.len.toNat +
    wordSum udp.toBytes + wordSum data

theorem packet_wordSum (ip : IpHdr) (udp : UdpHdr) (h : n ≤ dhcp.length) :
    wordSum (((pseudoHeader ip udp).toBytes ++ ({ udp with check := 0 }.toBytes ++ dhcp)).take
      (28 + n)) = udpWords ip { udp with check := 0 } (dhcp.take n) := by
  have hlen : ((pseudoHeader ip udp).toBytes ++
      ({ udp with check := 0 }.toBytes ++ dhcp.take n)).length = 28 + n := by
    simp only [List.length_append, IpHdr.toBytes_length, UdpHdr.toBytes_length, List.length_take]
    omega
  rw [← List.take_append_drop n dhcp, ← List.append_assoc (UdpHdr.toBytes { udp with check := 0 }),
    ← List.append_assoc, List.take_left' hlen, wordSum_append _ (by simp),
    wordSum_append _ (by simp), pseudoHeader_wordSum, List.take_append_drop, ← Nat.add_assoc]
  rfl

theorem expectedCheck_toNat {udp : UdpHdr} (hlen : (ntohs ip.totLen).toNat = 28 + n)
    (h : n ≤ dhcp.length) :
    (expectedCheck ip udp dhcp).toNat =
      if EndAround.fold 65536 (udpWords ip { udp with check := 0 } (dhcp.take n)) = 65535 then 65535
      else 65535 - EndAround.fold 65536 (udpWords ip { udp with check := 0 } (dhcp.take n)) := by
  have hsum := checksum_start ((pseudoHeader ip udp).toBytes ++
    ({ udp with check := 0 }.toBytes ++ dhcp))
    (Nat.lt_trans (UInt16.toNat_lt (ntohs ip.totLen)) (by decide))
  rw [hlen, packet_wordSum ip udp h] at hsum
  have hlt := EndAround.fold_lt (b := 65536) (by decide)
    (udpWords ip { udp with check := 0 } (dhcp.take n))
  rw [expectedCheck, hlen]
  split_ifs with hzero hmax hmax
  · rw [hzero]; rfl
  · rw [finishSum_eq_zero (by rw [hsum]; exact hlt), hsum] at hzero
    exact absurd hzero hmax
  · rw [finishSum_eq_zero (by rw [hsum]; exact hlt), hsum] at hzero
    exact absurd hmax hzero
  · rw [finishSum_toNat (by rw [hsum]; exact hlt), hsum]

theorem sendIp_checksum (size : Nat) (saddr daddr : UInt32) (rest : List UInt8) :
    finishSum (checksum ((sendIp size saddr daddr).toBytes ++ rest) sizeofIphdr 0) = 0 := by
  -- The words of the header before its checksum is filled in.
  generalize hn : wordSum (sendIpUnchecked size saddr daddr).toBytes = n
  have hpos : n ≠ 0 := by
    rw [← hn, IpHdr.wordSum_toBytes]
    simp only [sendIpUnchecked]
    rw [show word ipDefTtl ipprotoUdp = 0x1140 by decide]
    omega
  have hcheck : (sendIp size saddr daddr).check.toNat = 65535 - EndAround.fold 65536 n := by
    have hsum := checksum_start (sendIpUnchecked size saddr daddr).toBytes
      (show sizeofIphdr < 2 ^ 17 by decide)
    rw [List.take_of_length_le (by simp [sizeofIphdr]), hn] at hsum
    simp only [sendIp]
    rw [finishSum_toUInt16 (by rw [hsum]; exact EndAround.fold_lt (by decide) _), hsum]
  have hwords : wordSum (sendIp size saddr daddr).toBytes =
      n + (65535 - EndAround.fold 65536 n) := by
    rw [IpHdr.wordSum_toBytes, hcheck, ← hn, IpHdr.wordSum_toBytes]
    simp only [sendIp, sendIpUnchecked]
    rw [show (0 : UInt16).toNat = 0 from rfl]
    omega
  have hsum := checksum_start ((sendIp size saddr daddr).toBytes ++ rest)
    (show sizeofIphdr < 2 ^ 17 by decide)
  rw [List.take_left' (by simp [sizeofIphdr]), hwords,
    EndAround.fold_add_complement (by decide) hpos] at hsum
  rw [finishSum_eq_zero (by rw [hsum]; decide), hsum]

section RoundTrip

variable (stale : Buf sizeofPacket) (msg : DhcpMsg) {size : Nat} (hsize : size ≤ sizeofDhcpMsg)
  (saddr daddr sport : UInt32)

def sentDatagram : Datagram where
  bytes := sendPacket msg size saddr daddr sport portBootpClient
  fits := by
    simp only [sendPacket, List.length_append, IpHdr.toBytes_length, UdpHdr.toBytes_length,
      List.length_take, DhcpMsg.toBytes_length, sizeofPacket, sizeofIphdr, sizeofUdphdr]
    omega

theorem sentDatagram_length :
    (sentDatagram msg hsize saddr daddr sport).bytes.length = 28 + size := by
  simp only [sentDatagram, sendPacket, List.length_append, IpHdr.toBytes_length,
    UdpHdr.toBytes_length, List.length_take, DhcpMsg.toBytes_length]
  omega

theorem packetBuffer_sent : ∃ tail, packetBuffer stale (sentDatagram msg hsize saddr daddr sport) =
      (sendIp size saddr daddr).toBytes ++
        ((sendUdp msg size saddr daddr sport portBootpClient).toBytes ++
          (msg.toBytes.take size ++ tail)) := by
  refine ⟨stale.bytes.drop (28 + size), ?_⟩
  rw [packetBuffer, sentDatagram_length]
  simp [sentDatagram, sendPacket]

section

variable {stale} {saddr daddr} {datagram : Datagram} {behind : List UInt8}
  (h : packetBuffer stale datagram = (sendIp size saddr daddr).toBytes ++ behind)
include h

theorem packetIp_of_buffer : packetIp stale datagram = sendIp size saddr daddr := by
  rw [packetIp, h]
  exact IpHdr.ofBytes_toBytes _ (by simp only [sendIp, sendIpUnchecked]; decide)
    (by simp only [sendIp, sendIpUnchecked]; decide)

theorem packetUdp_of_buffer : packetUdp stale datagram = UdpHdr.ofBytes behind := by
  rw [packetUdp, h, List.drop_left' (by simp [sizeofIphdr])]

theorem packetDhcp_of_buffer : packetDhcp stale datagram = behind.drop sizeofUdphdr := by
  rw [packetDhcp, h, ← List.drop_drop, List.drop_left' (by simp [sizeofIphdr])]

end

theorem packetIp_sent : packetIp stale (sentDatagram msg hsize saddr daddr sport) =
    sendIp size saddr daddr := by
  obtain ⟨tail, h⟩ := packetBuffer_sent stale msg hsize saddr daddr sport
  exact packetIp_of_buffer h

theorem packetUdp_sent : packetUdp stale (sentDatagram msg hsize saddr daddr sport) =
    sendUdp msg size saddr daddr sport portBootpClient := by
  obtain ⟨tail, h⟩ := packetBuffer_sent stale msg hsize saddr daddr sport
  rw [packetUdp_of_buffer h, UdpHdr.ofBytes_toBytes]

theorem packetDhcp_sent : ∃ tail, packetDhcp stale (sentDatagram msg hsize saddr daddr sport) =
    msg.toBytes.take size ++ tail := by
  obtain ⟨tail, h⟩ := packetBuffer_sent stale msg hsize saddr daddr sport
  refine ⟨tail, ?_⟩
  rw [packetDhcp_of_buffer h, List.drop_left' (by simp [sizeofUdphdr])]

include hsize in
theorem sendIp_totLen : (ntohs (sendIp size saddr daddr).totLen).toNat = 28 + size := by
  simp only [sendIp, sendIpUnchecked, ntohs_htons, sizeofIphdr, sizeofUdphdr]
  rw [UInt16.toNat_ofNat']
  simp only [sizeofDhcpMsg] at hsize
  omega

include hsize in
theorem sendUdp_len :
    (ntohs (sendUdp msg size saddr daddr sport portBootpClient).len).toNat = 8 + size := by
  simp only [sendUdp, sendUdpUnchecked, ntohs_htons, sizeofUdphdr]
  rw [UInt16.toNat_ofNat']
  simp only [sizeofDhcpMsg] at hsize
  omega

theorem isValid_sent : isValid (sentDatagram msg hsize saddr daddr sport).bytes.length
    (sendIp size saddr daddr) (sendUdp msg size saddr daddr sport portBootpClient) = true := by
  rw [isValid, sentDatagram_length, sendIp_totLen hsize, if_neg, if_neg (lt_irrefl _),
    if_neg, if_neg]
  · simp [sendUdp, sendUdpUnchecked]
  · simp [sendIp, sendIpUnchecked]
  · simp [sendIp, sendIpUnchecked]
  · simp [sizeofIphdr, sizeofUdphdr]

def sentWordSum (msg : DhcpMsg) (size : Nat) (saddr daddr sport : UInt32) : Nat :=
  udpWordSum msg size saddr daddr (sendUdpUnchecked size sport portBootpClient)

include hsize in
theorem sendUdp_check : (sendUdp msg size saddr daddr sport portBootpClient).check.toNat =
    65535 - EndAround.fold 65536 (sentWordSum msg size saddr daddr sport) := by
  have hsum := udpSum_toNat msg hsize saddr daddr
    (sendUdpUnchecked size sport portBootpClient)
  simp only [sendUdp]
  rw [finishSum_toUInt16 (by rw [hsum]; exact EndAround.fold_lt (by decide) _), hsum]
  rfl

include hsize in
theorem expectedCheck_sent (tail : List UInt8) : (expectedCheck (sendIp size saddr daddr)
      (sendUdp msg size saddr daddr sport portBootpClient) (msg.toBytes.take size ++ tail)).toNat =
    if EndAround.fold 65536 (sentWordSum msg size saddr daddr sport) = 65535 then 65535
    else 65535 - EndAround.fold 65536 (sentWordSum msg size saddr daddr sport) := by
  have hdata : (msg.toBytes.take size).length = size := by simp [hsize]
  have hsum : udpWords (sendIp size saddr daddr)
      { sendUdp msg size saddr daddr sport portBootpClient with check := 0 }
      ((msg.toBytes.take size ++ tail).take size) = sentWordSum msg size saddr daddr sport := by
    rw [List.take_left' hdata]
    rfl
  rw [expectedCheck_toNat (sendIp_totLen hsize saddr daddr) (by simp [hsize]), hsum]

theorem passesChecks_sent : PassesChecks stale (sentDatagram msg hsize saddr daddr sport) ↔
      sentWordSum msg size saddr daddr sport % 65535 ≠ 0 := by
  obtain ⟨tail, hdhcp⟩ := packetDhcp_sent stale msg hsize saddr daddr sport
  have hcheck := sendUdp_check msg hsize saddr daddr sport
  have hexpect := expectedCheck_sent msg hsize saddr daddr sport tail
  have hmax := EndAround.fold_eq_max (b := 65536) (n := sentWordSum msg size saddr daddr sport)
    (by decide)
  have hpos : sentWordSum msg size saddr daddr sport ≠ 0 := by
    rw [sentWordSum, udpWordSum]; omega
  constructor
  · intro h hzero
    have hsum := h.udpSum
    rw [packetIp_sent, packetUdp_sent, hdhcp, ← UInt32.toNat_inj, hexpect,
      UInt16.toNat_toUInt32, if_pos (hmax.mpr ⟨hpos, hzero⟩)] at hsum
    omega
  · intro hres
    refine ⟨?_, ?_, ?_⟩
    · rw [packetIp_sent, packetUdp_sent]
      exact isValid_sent msg hsize saddr daddr sport
    · obtain ⟨tail, hbuf⟩ := packetBuffer_sent stale msg hsize saddr daddr sport
      exact sendIp_checksum size saddr daddr _
    · rw [packetIp_sent, packetUdp_sent, hdhcp, ← UInt32.toNat_inj, hexpect,
        UInt16.toNat_toUInt32, hcheck, if_neg fun h => hres (hmax.mp h).2]

/-- `receive_packet` gives the bytes that were sent. -/
def TakenBack (old : DhcpMsg) : Prop :=
  ∃ dhcp, receivePacket stale (sentDatagram msg hsize saddr daddr sport) = .copied size dhcp ∧
    ∃ reply, old.memcpy dhcp size = some reply ∧ reply.toBytes.take size = msg.toBytes.take size

theorem takenBack_iff (old : DhcpMsg) : TakenBack stale msg hsize saddr daddr sport old ↔
    sentWordSum msg size saddr daddr sport % 65535 ≠ 0 := by
  rw [← passesChecks_sent stale msg hsize saddr daddr sport]
  constructor
  · rintro ⟨dhcp, hcopied, -⟩
    by_contra hchecks
    rw [receivePacket_rejected _ _ hchecks] at hcopied
    cases hcopied
  · intro hchecks
    obtain ⟨tail, hdhcp⟩ := packetDhcp_sent stale msg hsize saddr daddr sport
    have hlen : (msg.toBytes.take size).length = size := by simp [hsize]
    refine ⟨msg.toBytes.take size ++ tail, ?_,
      old.overwrite (msg.toBytes.take size ++ tail) size, ?_, ?_⟩
    · rw [receivePacket_copied _ _ hchecks, hdhcp, packetUdp_sent, dhcpSize, sendUdp_len msg hsize]
      simp [sizeofUdphdr]
    · rw [DhcpMsg.memcpy, if_pos (by omega), Int.toNat_natCast]
    · rw [DhcpMsg.overwrite_take hsize (by simp [hsize]), List.take_left' hlen]

end RoundTrip

def foldedReply : DhcpMsg :=
  { DhcpMsg.zero with op := opBootreply, htype := htypeEther, hlen := 6, xid := 18167 }

theorem takenBack_zero :
    TakenBack (Buf.ofList sizeofPacket []) DhcpMsg.zero (show 8 ≤ sizeofDhcpMsg by decide)
      0 0xffffffff 67 DhcpMsg.zero :=
  (takenBack_iff _ _ _ _ _ _ _).mpr (by decide +kernel)

theorem not_takenBack_foldedReply :
    ¬TakenBack (Buf.ofList sizeofPacket []) foldedReply (show 8 ≤ sizeofDhcpMsg by decide)
      0 0xffffffff 67 DhcpMsg.zero := by
  rintro ⟨dhcp, hcopied, -⟩
  have hreject : receivePacket (Buf.ofList sizeofPacket [])
      (sentDatagram foldedReply (show 8 ≤ sizeofDhcpMsg by decide) 0 0xffffffff 67) =
        .rejected := by
    decide +kernel
  rw [hreject] at hcopied
  cases hcopied

end WikoPlatform.Netutils
