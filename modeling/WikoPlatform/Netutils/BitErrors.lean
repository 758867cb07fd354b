import Mathlib.Data.List.GetD
import WikoPlatform.Netutils.Framing

/-! Single-bit errors on the way from `send_packet` to `receive_packet`. A flipped bit moves a sum
of words by a power of two that is no multiple of 65535. -/

namespace WikoPlatform.Netutils

open Words

/-- The bytes with one bit flipped. -/
def flipBit (bytes : List UInt8) (i k : Nat) : List UInt8 :=
  bytes.set i (bytes.getD i 0 ^^^ UInt8.ofNat (2 ^ k))

def Datagram.flip (datagram : Datagram) (i k : Nat) : Datagram where
  bytes := flipBit datagram.bytes i k
  fits := by
    rw [flipBit, List.length_set]
    exact datagram.fits

theorem xor_two_pow_apart :
    ∀ n < 256, ∀ k < 8, n ^^^ 2 ^ k = n + 2 ^ k ∨ n = (n ^^^ 2 ^ k) + 2 ^ k := by
  decide +kernel

variable {k i : Nat}

theorem flippedByte_apart (b : UInt8) (hk : k < 8) :
    Apart (2 ^ k) (b ^^^ UInt8.ofNat (2 ^ k)).toNat b.toNat := by
  have hpow : 2 ^ k < 256 := Nat.pow_lt_pow_right (by decide) hk
  rw [UInt8.toNat_xor, UInt8.toNat_ofNat', Nat.mod_eq_of_lt hpow]
  exact xor_two_pow_apart b.toNat b.toNat_lt k hk

theorem bit_mod_ne (hk : k < 8) (i : Nat) :
    2 ^ k * 256 ^ (i % 2) % 65535 ≠ 0 ∧ 2 * (2 ^ k * 256 ^ (i % 2)) % 65535 ≠ 0 := by
  have hi : i % 2 < 2 := Nat.mod_lt _ (by decide)
  generalize i % 2 = j at hi
  revert j k
  decide

theorem check_add_udpWords (ip : IpHdr) (udp : UdpHdr) (data : List UInt8) :
    udp.check.toNat + udpWords ip { udp with check := 0 } data = udpWords ip udp data := by
  rw [udpWords, udpWords, UdpHdr.wordSum_toBytes, UdpHdr.wordSum_toBytes]
  simp only [UInt16.toNat_zero]
  omega

theorem wordSum_mod_of_accepted {header rest : List UInt8} (hlen : header.length = sizeofIphdr)
    (h : finishSum (checksum (header ++ rest) sizeofIphdr 0) = 0) : wordSum header % 65535 = 0 := by
  have hsum := checksum_start (header ++ rest) (show sizeofIphdr < 2 ^ 17 by decide)
  rw [List.take_left' hlen] at hsum
  rw [finishSum_eq_zero (by rw [hsum]; exact EndAround.fold_lt (by decide) _), hsum] at h
  exact ((EndAround.fold_eq_max (by decide)).mp h).2

theorem udpWords_mod_of_accepted {ip : IpHdr} {udp : UdpHdr} {dhcp : List UInt8} {n : Nat}
    (hlen : (ntohs ip.totLen).toNat = 28 + n) (h : n ≤ dhcp.length)
    (hcheck : udp.check.toUInt32 = expectedCheck ip udp dhcp) :
    udpWords ip udp (dhcp.take n) % 65535 = 0 := by
  rw [← check_add_udpWords, ← UInt16.toNat_toUInt32, hcheck, expectedCheck_toNat hlen h]
  split_ifs with hmax
  · have := (EndAround.fold_eq_max (by decide)).mp hmax
    omega
  · exact EndAround.complement_add_mod (b := 65536) (by decide) _

section

variable (stale : Buf sizeofPacket) (msg : DhcpMsg) {size : Nat} (hsize : size ≤ sizeofDhcpMsg)
  (saddr daddr sport : UInt32)

include hsize in
theorem udpWords_sent_mod : udpWords (sendIp size saddr daddr)
    (sendUdp msg size saddr daddr sport portBootpClient) (msg.toBytes.take size) % 65535 = 0 := by
  rw [← check_add_udpWords, sendUdp_check msg hsize]
  exact EndAround.complement_add_mod (b := 65536) (by decide) _

end

theorem set_append_add (front rest : List UInt8) (i : Nat) (x : UInt8) :
    (front ++ rest).set (front.length + i) x = front ++ rest.set i x := by
  rw [List.set_append_right _ _ (Nat.le_add_right _ _), Nat.add_sub_cancel_left]

theorem packetBuffer_flip (stale : Buf sizeofPacket) {datagram : Datagram}
    (hi : i < datagram.bytes.length) (k : Nat) :
    packetBuffer stale (datagram.flip i k) = flipBit (packetBuffer stale datagram) i k := by
  unfold packetBuffer Datagram.flip flipBit
  rw [List.getD_append _ _ _ _ hi, List.length_set, List.set_append_left _ _ hi]

section

variable {rest tail : List UInt8} {j d : Nat} {x : UInt8}

theorem udpWords_header_apart (ip : IpHdr) (data : List UInt8) (hj : j < 8)
    (hlong : 8 ≤ rest.length) (h : Apart d x.toNat (rest.getD j 0).toNat) :
    Apart (d * 256 ^ (j % 2)) (udpWords ip (UdpHdr.ofBytes (rest.set j x)) data)
        (udpWords ip (UdpHdr.ofBytes rest) data) ∨
      Apart (2 * (d * 256 ^ (j % 2))) (udpWords ip (UdpHdr.ofBytes (rest.set j x)) data)
        (udpWords ip (UdpHdr.ofBytes rest) data) := by
  have hin : ∀ p, p % 2 = 0 → j / 2 = p / 2 →
      Apart (d * 256 ^ (j % 2)) (get16 (rest.set j x) p).toNat (get16 rest p).toNat := by
    intro p hp hjp
    rw [show j % 2 = j - p by omega]
    exact get16_set (by omega) h (by omega)
  have hout : ∀ p, p % 2 = 0 → j / 2 ≠ p / 2 → get16 (rest.set j x) p = get16 rest p :=
    fun p hp hjp => get16_set_of_ne x (by omega) (by omega)
  simp only [udpWords, UdpHdr.wordSum_toBytes, UdpHdr.ofBytes]
  -- which of the words the byte is in
  have hcase : j / 2 = 0 ∨ j / 2 = 1 ∨ j / 2 = 2 ∨ j / 2 = 3 := by omega
  unfold Apart at *
  rcases hcase with hsource | hdest | hlen | hcheck
  · have hoff := hin 0 rfl hsource
    rw [hout 2 rfl (by omega), hout 4 rfl (by omega), hout 6 rfl (by omega)]
    omega
  · have hoff := hin 2 rfl hdest
    rw [hout 0 rfl (by omega), hout 4 rfl (by omega), hout 6 rfl (by omega)]
    omega
  · have hoff := hin 4 rfl hlen
    rw [hout 0 rfl (by omega), hout 2 rfl (by omega), hout 6 rfl (by omega)]
    omega
  · have hoff := hin 6 rfl hcheck
    rw [hout 0 rfl (by omega), hout 2 rfl (by omega), hout 4 rfl (by omega)]
    omega

theorem udpWords_apart (ip : IpHdr) (udp : UdpHdr) {data : List UInt8} (hj : j < 8 + data.length)
    (h : Apart d x.toNat ((udp.toBytes ++ (data ++ tail)).getD j 0).toNat) {after : List UInt8}
    (hafter : after = (udp.toBytes ++ (data ++ tail)).set j x) :
    Apart (d * 256 ^ (j % 2)) (udpWords ip (UdpHdr.ofBytes after) ((after.drop 8).take data.length))
        (udpWords ip udp data) ∨ Apart (2 * (d * 256 ^ (j % 2)))
        (udpWords ip (UdpHdr.ofBytes after) ((after.drop 8).take data.length))
        (udpWords ip udp data) := by
  subst hafter
  by_cases hheader : j < 8
  · have hdhcp : (((udp.toBytes ++ (data ++ tail)).set j x).drop 8).take data.length = data := by
      rw [List.drop_set_of_lt hheader, List.drop_left' udp.toBytes_length, List.take_left]
    have hword := udpWords_header_apart ip data hheader (by simp) h
    rw [UdpHdr.ofBytes_toBytes] at hword
    rwa [hdhcp]
  · obtain ⟨m, rfl⟩ : ∃ m, j = udp.toBytes.length + m := ⟨j - 8, by simp; omega⟩
    have hm : m < data.length := by simpa using hj
    rw [getD_append_right, List.getD_append _ _ _ _ hm] at h
    rw [set_append_add, UdpHdr.ofBytes_toBytes, List.drop_left' udp.toBytes_length,
      List.set_append_left _ _ hm, List.take_left' (List.length_set ..)]
    have hsum := (wordSum_set hm h).add_left (wordSum (le32 ip.saddr) + wordSum (le32 ip.daddr) +
      0x1100 + udp.len.toNat + wordSum udp.toBytes)
    rw [show (udp.toBytes.length + m) % 2 = m % 2 by simp; omega]
    exact .inl hsum

end

section

variable (stale : Buf sizeofPacket) (msg : DhcpMsg) {size j : Nat} (hsize : size ≤ sizeofDhcpMsg)
  (saddr daddr sport : UInt32) {i k : Nat}

theorem flipped_header_rejected (hi : i < 20) (hk : k < 8) :
    ¬PassesChecks stale ((sentDatagram msg hsize saddr daddr sport).flip i k) := by
  intro hpasses
  obtain ⟨tail, hbuf⟩ := packetBuffer_sent stale msg hsize saddr daddr sport
  have hlength := sentDatagram_length msg hsize saddr daddr sport
  have hzero := hpasses.ipSum
  rw [packetBuffer_flip stale (by omega), hbuf, flipBit, List.getD_append _ _ _ _ hi,
    List.set_append_left _ _ hi] at hzero
  have hsent := wordSum_mod_of_accepted (by simp [sizeofIphdr])
    (sendIp_checksum size saddr daddr [])
  have hreceived := wordSum_mod_of_accepted (by simp [sizeofIphdr]) hzero
  have hapart := wordSum_set (show i < (sendIp size saddr daddr).toBytes.length by simpa using hi)
    (flippedByte_apart ((sendIp size saddr daddr).toBytes.getD i 0) hk)
  exact hapart.mod_ne (bit_mod_ne hk i).1 (hreceived.trans hsent.symm)

theorem packetBuffer_flip_behind {datagram : Datagram} {behind : List UInt8}
    (hbuf : packetBuffer stale datagram = (sendIp size saddr daddr).toBytes ++ behind)
    (hj : 20 + j < datagram.bytes.length) (k : Nat) :
    packetBuffer stale (datagram.flip (20 + j) k) =
      (sendIp size saddr daddr).toBytes ++ flipBit behind j k := by
  rw [packetBuffer_flip stale hj, hbuf, flipBit,
    show 20 + j = (sendIp size saddr daddr).toBytes.length + j by simp, getD_append_right,
    set_append_add]
  rfl

theorem flipped_udp_rejected (hj : j < 8 + size) (hk : k < 8) :
    ¬PassesChecks stale ((sentDatagram msg hsize saddr daddr sport).flip (20 + j) k) := by
  intro hpasses
  obtain ⟨tail, hbuf⟩ := packetBuffer_sent stale msg hsize saddr daddr sport
  have hlength := sentDatagram_length msg hsize saddr daddr sport
  have hdata : (msg.toBytes.take size).length = size := by simp [hsize]
  have hsent := udpWords_sent_mod msg hsize saddr daddr sport
  generalize sendUdp msg size saddr daddr sport portBootpClient = udp at hbuf hsent
  generalize msg.toBytes.take size = data at hbuf hdata hsent
  have hflip := packetBuffer_flip_behind stale saddr daddr hbuf
    (show 20 + j < (sentDatagram msg hsize saddr daddr sport).bytes.length by omega) k
  generalize hafter : flipBit (udp.toBytes ++ (data ++ tail)) j k = after at hflip
  have hcheck := hpasses.udpSum
  rw [packetIp_of_buffer hflip, packetUdp_of_buffer hflip, packetDhcp_of_buffer hflip]
    at hcheck
  have hlong : size ≤ (after.drop sizeofUdphdr).length := by
    rw [← hafter, flipBit, sizeofUdphdr]
    simp
    omega
  have hreceived := udpWords_mod_of_accepted (sendIp_totLen hsize saddr daddr) hlong hcheck
  have hapart := udpWords_apart (sendIp size saddr daddr) udp (by omega)
    (flippedByte_apart ((udp.toBytes ++ (data ++ tail)).getD j 0) hk) hafter.symm
  rw [hdata] at hapart
  rcases hapart with hapart | hapart
  · exact hapart.mod_ne (bit_mod_ne hk j).1 (hreceived.trans hsent.symm)
  · exact hapart.mod_ne (bit_mod_ne hk j).2 (hreceived.trans hsent.symm)

/-- A datagram with a flipped bit is rejected. -/
theorem flipped_rejected (hi : i < 28 + size) (hk : k < 8) :
    receivePacket stale ((sentDatagram msg hsize saddr daddr sport).flip i k) = .rejected := by
  apply receivePacket_rejected
  by_cases hheader : i < 20
  · exact flipped_header_rejected stale msg hsize saddr daddr sport hheader hk
  · obtain ⟨j, rfl⟩ : ∃ j, i = 20 + j := ⟨i - 20, by omega⟩
    exact flipped_udp_rejected stale msg hsize saddr daddr sport (by omega) hk

end

theorem flipped_length_rejected : 25 < 28 + 8 ∧ receivePacket (Buf.ofList sizeofPacket [])
      ((sentDatagram DhcpMsg.zero (show 8 ≤ sizeofDhcpMsg by decide) 0 0xffffffff 67).flip 25 0) =
        .rejected :=
  ⟨by decide, flipped_rejected _ _ _ _ _ _ (by decide) (by decide)⟩

end WikoPlatform.Netutils
