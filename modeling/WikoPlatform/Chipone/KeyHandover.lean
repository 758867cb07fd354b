import WikoPlatform.Chipone.TaProxy
import WikoPlatform.Lib.Words

/-! How the token key gets from the keymaster to the fingerprint application: in a shared buffer, at
an offset and with a length that nobody compares with the size of the buffer. -/

namespace WikoPlatform.Chipone

open Words Layout

def sharedBufferSize : Nat := 1024
def qseecomAlignSize : Nat := 64

/-- The request and the response are packed. -/
def kmGetAuthTokenReqSize : Nat := 8
def kmGetAuthTokenRspSize : Nat := 12

def commandLength : Nat := alignUp kmGetAuthTokenReqSize qseecomAlignSize

/-- The results of the two calls, the shared buffer with the response, what lies behind it, and
whether `malloc` has a block. -/
structure Keymaster where
  startApp : Int
  sendCmd : Int
  shared : Buf sharedBufferSize
  behind : Nat → UInt8
  available : Bool

namespace Keymaster

variable (km : Keymaster)

def status : UInt32 := get32 km.shared.bytes commandLength
def authTokenKeyOffset : UInt32 := get32 km.shared.bytes (commandLength + 4)
def authTokenKeyLen : UInt32 := get32 km.shared.bytes (commandLength + 8)

def byte (i : Nat) : UInt8 :=
  if i < sharedBufferSize then km.shared.bytes.getD i 0 else km.behind (i - sharedBufferSize)

def keyStart : Nat := commandLength + km.authTokenKeyOffset.toNat

end Keymaster

/-- An access to the shared buffer is an offset and a number of bytes. -/
structure KeyFetch where
  ret : Int
  key : List UInt8
  reads : List (Nat × Nat)

def fpQseeKmGetEncapsulatedKey (km : Keymaster) : KeyFetch :=
  if km.startApp ≠ 0 then ⟨km.startApp, [], []⟩
  else if km.sendCmd ≠ 0 then ⟨km.sendCmd, [], [(0, kmGetAuthTokenReqSize)]⟩
  else
    let reads := [(0, kmGetAuthTokenReqSize), (commandLength, kmGetAuthTokenRspSize)]
    if km.status ≠ 0 then ⟨-1, [], reads⟩
    else if km.available = false then ⟨-2, [], reads⟩
    else
      let len := km.authTokenKeyLen.toNat
      ⟨0, (List.range len).map fun i => km.byte (km.keyStart + i), reads ++ [(km.keyStart, len)]⟩

structure TokenKeyCmd where
  dataLen : Int32
  data : List UInt8
  deriving DecidableEq

structure KeyHandover where
  ret : Int
  reads : List (Nat × Nat)
  writes : List (Nat × Nat)
  sent : Option TokenKeyCmd

/-- The results of the encoder and of `sendCmd` are not returned. -/
def qseeSetAuthTokenKey (km : Keymaster) (p : CmdProcessor) (x : Exchange) : KeyHandover :=
  let fetch := fpQseeKmGetEncapsulatedKey km
  if fetch.ret ≠ 0 then ⟨-enoent, fetch.reads, [], none⟩
  else
    let keySize := Int32.ofNat fetch.key.length
    let c := p.constructSetAuthTokenKeyCmd x.available keySize
    let sent :=
      if c.ret = 0 ∧ x.session = true then some ⟨keySize, fetch.key.take injectDataLen⟩ else none
    ⟨0, fetch.reads, c.writes, sent⟩

/-- The response is a success whose key lies in the shared buffer and fits into the command. -/
structure Keymaster.Fits (km : Keymaster) : Prop where
  status : km.status = 0
  inside : km.keyStart + km.authTokenKeyLen.toNat ≤ sharedBufferSize
  room : km.authTokenKeyLen.toNat ≤ injectDataLen

def Keymaster.key (km : Keymaster) : List UInt8 :=
  (km.shared.bytes.drop km.keyStart).take km.authTokenKeyLen.toNat

/-- Every access is in bounds, and what is sent is the key. -/
structure KeyHandover.Safe (km : Keymaster) (h : KeyHandover) : Prop where
  reads : ∀ r ∈ h.reads, r.1 + r.2 ≤ sharedBufferSize
  writes : ∀ w ∈ h.writes, w.1 + w.2 ≤ offsetOf fpCmdInject 3 + injectDataLen
  sent : ∀ cmd ∈ h.sent,
    km.Fits ∧ cmd.dataLen.toInt = km.authTokenKeyLen.toNat ∧ cmd.data = km.key
  fails : ¬km.Fits → h.ret ≠ 0

/-- The handover ends before the key is copied. -/
def Keymaster.Refuses (km : Keymaster) : Prop :=
  km.startApp ≠ 0 ∨ km.sendCmd ≠ 0 ∨ km.status ≠ 0 ∨ km.available = false

variable {km : Keymaster} {p : CmdProcessor} {x : Exchange}

theorem fetch_of_refuses (h : km.Refuses) : (fpQseeKmGetEncapsulatedKey km).ret ≠ 0 ∧
      ∀ r ∈ (fpQseeKmGetEncapsulatedKey km).reads, r.1 + r.2 ≤ sharedBufferSize := by
  unfold fpQseeKmGetEncapsulatedKey
  split_ifs with hstart hsend hstatus havail
  · exact ⟨hstart, by simp⟩
  · exact ⟨hsend, List.forall_mem_singleton.mpr (by decide)⟩
  · exact ⟨by decide, by decide⟩
  · exact ⟨by decide, by decide⟩
  · rcases h with h | h | h | h
    · exact absurd h hstart
    · exact absurd h hsend
    · exact absurd h hstatus
    · exact absurd h havail

theorem fetch_of_not_refuses (h : ¬km.Refuses) : fpQseeKmGetEncapsulatedKey km =
      ⟨0, (List.range km.authTokenKeyLen.toNat).map fun i => km.byte (km.keyStart + i),
        [(0, kmGetAuthTokenReqSize), (commandLength, kmGetAuthTokenRspSize),
          (km.keyStart, km.authTokenKeyLen.toNat)]⟩ := by
  simp only [Keymaster.Refuses, not_or, not_not] at h
  obtain ⟨hstart, hsend, hstatus, havail⟩ := h
  simp [fpQseeKmGetEncapsulatedKey, hstart, hsend, hstatus, havail]

theorem Keymaster.Fits.key_read (h : km.Fits) :
    (List.range km.authTokenKeyLen.toNat).map (fun i => km.byte (km.keyStart + i)) = km.key := by
  have hinside := h.inside
  have hlength : km.authTokenKeyLen.toNat ≤ (km.shared.bytes.drop km.keyStart).length := by
    rw [List.length_drop, km.shared.size]
    omega
  rw [Keymaster.key, ← map_getD_range _ hlength]
  refine List.map_congr_left fun i hi => ?_
  have hlt := List.mem_range.mp hi
  rw [Keymaster.byte, if_pos (by omega), List.getD_eq_getElem?_getD, List.getD_eq_getElem?_getD,
    List.getElem?_drop]

theorem Keymaster.Fits.key_length (h : km.Fits) : km.key.length = km.authTokenKeyLen.toNat := by
  rw [← h.key_read, List.length_map, List.length_range]

theorem safe_of_refuses (h : km.Refuses) : (qseeSetAuthTokenKey km p x).Safe km := by
  obtain ⟨hret, hreads⟩ := fetch_of_refuses h
  rw [qseeSetAuthTokenKey, if_pos hret]
  exact ⟨hreads, by simp, by simp, fun _ => show -enoent ≠ 0 by decide⟩

theorem setAuthTokenKey_writes {keySize : Int32} (available : Bool) {n : Nat}
    (hsize : keySize.toInt = n) (hroom : n ≤ injectDataLen) :
    ∀ w ∈ (p.constructSetAuthTokenKeyCmd available keySize).writes,
      w.1 + w.2 ≤ offsetOf fpCmdInject 3 + injectDataLen := by
  simp only [CmdProcessor.constructSetAuthTokenKeyCmd, CmdProcessor.constructInjectCmd,
    CmdProcessor.construct]
  split
  · rw [List.forall_mem_append, List.forall_mem_singleton]
    refine ⟨by decide, Nat.add_le_add_left ?_ _⟩
    unfold sizeT
    omega
  · simp

theorem safe_of_fits (hrefuses : ¬km.Refuses) (h : km.Fits) :
    (qseeSetAuthTokenKey km p x).Safe km := by
  have hroom := h.room
  have hlen : (Int32.ofNat km.authTokenKeyLen.toNat).toInt = km.authTokenKeyLen.toNat := by
    apply Int32.toInt_ofNat_of_lt
    unfold injectDataLen at hroom
    omega
  have hinside := h.inside
  rw [qseeSetAuthTokenKey, fetch_of_not_refuses hrefuses, h.key_read, h.key_length,
    if_neg (by simp)]
  refine ⟨?_, setAuthTokenKey_writes x.available hlen hroom, ?_, fun hnot => absurd h hnot⟩
  · rw [List.forall_mem_cons, List.forall_mem_cons, List.forall_mem_singleton]
    exact ⟨by decide, by decide, hinside⟩
  · dsimp only
    split
    · rintro _ ⟨⟩
      refine ⟨h, hlen, List.take_of_length_le ?_⟩
      rwa [h.key_length]
    · simp

/-- Safe exactly for responses that fit or are refused. -/
theorem qseeSetAuthTokenKey_safe_iff (km : Keymaster) (p : CmdProcessor) (x : Exchange) :
    (qseeSetAuthTokenKey km p x).Safe km ↔ km.Refuses ∨ km.Fits := by
  by_cases hrefuses : km.Refuses
  · exact iff_of_true (safe_of_refuses hrefuses) (.inl hrefuses)
  · rw [or_iff_right hrefuses]
    refine ⟨fun hsafe => ?_, safe_of_fits hrefuses⟩
    by_contra hnot
    apply hsafe.fails hnot
    rw [qseeSetAuthTokenKey, fetch_of_not_refuses hrefuses]
    rfl

def overlongKeymaster : Keymaster where
  startApp := 0
  sendCmd := 0
  shared := .ofList _ (List.replicate commandLength 0 ++ le32 0 ++ le32 12 ++ le32 1000)
  behind := fun _ => 5
  available := true

theorem overlongKeymaster_not_safe :
    ¬(qseeSetAuthTokenKey overlongKeymaster (.new true) ⟨true, true, 0, 0, 0⟩).Safe
      overlongKeymaster := by
  intro h
  have hread := h.reads (76, 1000) (by decide +kernel)
  exact absurd hread (by decide)

end WikoPlatform.Chipone
