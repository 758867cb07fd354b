import Mathlib.Data.List.GetD
import WikoPlatform.Qsee.TrustedStorage

/-! `fp_wrap_crypto` and `fp_unwrap_crypto`. The wrapped bytes are unwrapped where they lie, by the
length that stands in them. -/

namespace WikoPlatform.Qsee

open Words

def fpGetWrappedSize (dataSize : UInt32) : UInt32 := UInt32.ofNat (ftsObjSize + dataSize.toNat)

section

variable (crypto : Crypto)

/-- The bytes in `enc_data` if it was filled. -/
def fpWrapCrypto (heap : Heap) (isNull : Bool) (data : List UInt8) (dataSize : UInt32) :
    Int × Option (List UInt8) :=
  if isNull then (-1, none)
  else if !heap.allocates (ftsObjSize + dataSize.toNat) then (-1, none)
  else
    match crypto.encrypt (data.take dataSize.toNat) ((List.range' 36 16).map heap.garbage) with
    | none => (-2, none)
    | some (cipher, iv) =>
      match crypto.integrityProtect (iv ++ cipher) with
      | none => (-3, none)
      | some hmac =>
        let obj := le32 dataSize ++ hmac ++ iv ++ cipher
        (0, some (obj.take (fpGetWrappedSize dataSize).toNat))

/-- Offset and number of bytes of each access from the start of `enc_data`; the bytes that the
integrity check has accepted; and the data that was handed out. -/
structure UnwrapOutcome where
  ret : Int
  accesses : List (Nat × Nat)
  accepted : Option (List UInt8)
  data : Option (List UInt8)

/-- `memory` starts with `enc_data`; `inPlace`: `*data` is null. -/
def fpUnwrapCrypto (memory : List UInt8) (isNull inPlace : Bool) (encDataSize : UInt32) :
    UnwrapOutcome :=
  if isNull then ⟨-1, [], none, none⟩
  else
    let dataLen := (get32 memory 0).toNat
    let ivData := slice memory 36 (dataLen + 16)
    if encDataSize.toNat < dataLen + ftsObjSize then ⟨-1, [(0, 4)], none, none⟩
    else
      let verifying := [(0, 4), (36, dataLen + 16), (4, 32)]
      if !crypto.integrityVerify ivData (slice memory 4 32) then ⟨-2, verifying, none, none⟩
      else
        let decrypting := verifying ++ [(52, dataLen), (36, 16)]
        match crypto.decrypt (slice memory 52 dataLen) (slice memory 36 16) with
        | none => ⟨-3, decrypting, some ivData, none⟩
        | some data =>
          let copying := if inPlace then [] else [(52, dataLen)]
          ⟨0, decrypting ++ copying ++ [(0, 4)], some ivData, some data⟩

end

section

variable {crypto : Crypto} {memory : List UInt8} {isNull inPlace : Bool} {encDataSize : UInt32}

theorem fpUnwrapCrypto_short (hnull : isNull = false)
    (hsize : encDataSize.toNat < (get32 memory 0).toNat + ftsObjSize) :
    fpUnwrapCrypto crypto memory isNull inPlace encDataSize = ⟨-1, [(0, 4)], none, none⟩ := by
  simp [fpUnwrapCrypto, hnull, hsize]

theorem fpUnwrapCrypto_object (hsize : ¬encDataSize.toNat < (get32 memory 0).toNat + ftsObjSize) :
    ∀ a ∈ (fpUnwrapCrypto crypto memory isNull inPlace encDataSize).accesses,
      a.1 + a.2 ≤ (get32 memory 0).toNat + ftsObjSize := by
  rw [ftsObjSize_eq] at hsize ⊢
  cases isNull with
  | true => simp [fpUnwrapCrypto]
  | false =>
    cases hverify : crypto.integrityVerify (slice memory 36 ((get32 memory 0).toNat + 16))
        (slice memory 4 32) with
    | false =>
      simp [fpUnwrapCrypto, hsize, hverify, ftsObjSize_eq]
      omega
    | true =>
      cases hdecrypt : crypto.decrypt (slice memory 52 (get32 memory 0).toNat)
          (slice memory 36 16) with
      | none =>
        simp [fpUnwrapCrypto, hsize, hverify, hdecrypt, ftsObjSize_eq]
        omega
      | some data =>
        cases inPlace <;> simp [fpUnwrapCrypto, hsize, hverify, hdecrypt, ftsObjSize_eq] <;> omega

theorem fpUnwrapCrypto_inside_iff :
    (∀ a ∈ (fpUnwrapCrypto crypto memory isNull inPlace encDataSize).accesses,
      a.1 + a.2 ≤ encDataSize.toNat) ↔ isNull = true ∨ 4 ≤ encDataSize.toNat := by
  cases isNull with
  | true => simp [fpUnwrapCrypto]
  | false =>
    by_cases hsize : encDataSize.toNat < (get32 memory 0).toNat + ftsObjSize
    · simp [fpUnwrapCrypto_short rfl hsize]
    · have hlarge : 4 ≤ encDataSize.toNat := by
        rw [ftsObjSize_eq] at hsize
        omega
      refine ⟨fun _ => .inr hlarge, fun _ a ha => ?_⟩
      have hobject := fpUnwrapCrypto_object hsize a ha
      omega

end

variable {front : List UInt8}

theorem slice_append (rest : List UInt8) {offset len : Nat} (h : offset + len ≤ front.length) :
    slice (front ++ rest) offset len = slice front offset len := by
  rw [slice, slice, List.drop_append_of_le_length (by omega), List.take_append_of_le_length]
  rw [List.length_drop]
  omega

theorem slice_add (bytes : List UInt8) (offset a b : Nat) :
    slice bytes offset (a + b) = slice bytes offset a ++ slice bytes (offset + a) b := by
  rw [slice, slice, slice, List.take_add, List.drop_drop]

theorem get32_append (rest : List UInt8) (h : 4 ≤ front.length) :
    get32 (front ++ rest) 0 = get32 front 0 := by
  have hbyte : ∀ i, i < 4 → (front ++ rest).getD i 0 = front.getD i 0 :=
    fun i hi => List.getD_append _ _ _ _ (by omega)
  simp only [get32, hbyte 0 (by omega), hbyte 1 (by omega), hbyte 2 (by omega),
    hbyte 3 (by omega)]

section

variable {crypto : Crypto} {encData : List UInt8} {isNull inPlace : Bool} {encDataSize : UInt32}

theorem fpUnwrapCrypto_append (beyond : List UInt8) (hsize : encDataSize.toNat = encData.length)
    (hlarge : 4 ≤ encData.length) :
    fpUnwrapCrypto crypto (encData ++ beyond) isNull inPlace encDataSize =
      fpUnwrapCrypto crypto encData isNull inPlace encDataSize := by
  unfold fpUnwrapCrypto
  rw [get32_append beyond hlarge]
  by_cases hshort : encDataSize.toNat < (get32 encData 0).toNat + ftsObjSize
  · simp only [if_pos hshort]
  · rw [ftsObjSize_eq] at hshort
    dsimp only
    rw [slice_append beyond (by omega), slice_append beyond (by omega),
      slice_append beyond (by omega), slice_append beyond (by omega)]

theorem fpUnwrapCrypto_ret_zero {memory : List UInt8}
    (h : (fpUnwrapCrypto crypto memory isNull inPlace encDataSize).ret = 0) :
    (get32 memory 0).toNat + ftsObjSize ≤ encDataSize.toNat ∧
    crypto.integrityVerify (slice memory 36 ((get32 memory 0).toNat + 16)) (slice memory 4 32) =
      true ∧ (fpUnwrapCrypto crypto memory isNull inPlace encDataSize).accepted =
      some (slice memory 36 ((get32 memory 0).toNat + 16)) := by
  cases isNull with
  | true => simp [fpUnwrapCrypto] at h
  | false =>
    by_cases hsize : encDataSize.toNat < (get32 memory 0).toNat + ftsObjSize
    · simp [fpUnwrapCrypto_short rfl hsize] at h
    · cases hverify : crypto.integrityVerify (slice memory 36 ((get32 memory 0).toNat + 16))
          (slice memory 4 32) with
      | false => simp [fpUnwrapCrypto, hsize, hverify] at h
      | true =>
        cases hdecrypt : crypto.decrypt (slice memory 52 (get32 memory 0).toNat)
            (slice memory 36 16) with
        | none => simp [fpUnwrapCrypto, hsize, hverify, hdecrypt] at h
        | some data =>
          exact ⟨by omega, rfl, by simp [fpUnwrapCrypto, hsize, hverify, hdecrypt]⟩

end

theorem fpGetWrappedSize_toNat (dataSize : UInt32) :
    (fpGetWrappedSize dataSize).toNat = (52 + dataSize.toNat) % 4294967296 := by
  rw [fpGetWrappedSize, UInt32.toNat_ofNat', ftsObjSize_eq]

section

variable {crypto : Crypto} {heap : Heap} {data enc : List UInt8} {dataSize : UInt32}

theorem fpWrapCrypto_sealed (hsize : dataSize.toNat = data.length)
    (h : fpWrapCrypto crypto heap false data dataSize = (0, some enc)) :
    ∃ obj : SealedObj crypto data, enc = obj.bytes.take (fpGetWrappedSize dataSize).toNat := by
  have htake : data.take dataSize.toNat = data := List.take_of_length_le (Nat.le_of_eq hsize.symm)
  have hseal : ∃ bytes, sealObj crypto heap data dataSize = some bytes ∧
      enc = bytes.take (fpGetWrappedSize dataSize).toNat := by
    unfold fpWrapCrypto at h
    rw [htake] at h
    cases halloc : heap.allocates (ftsObjSize + dataSize.toNat) with
    | false => simp [halloc] at h
    | true =>
      cases hencrypt : crypto.encrypt data ((List.range' 36 16).map heap.garbage) with
      | none => simp [halloc, hencrypt] at h
      | some next =>
        cases hprotect : crypto.integrityProtect (next.2 ++ next.1) with
        | none => simp [halloc, hencrypt, hprotect] at h
        | some hmac =>
          refine ⟨le32 dataSize ++ hmac ++ next.2 ++ next.1, ?_, ?_⟩
          · simp [sealObj, hencrypt, hprotect]
          · simpa [halloc, hencrypt, hprotect] using h.symm
  obtain ⟨bytes, hbytes, rfl⟩ := hseal
  obtain ⟨obj, rfl⟩ := sealObj_sealed hsize hbytes
  exact ⟨obj, rfl⟩

theorem fpUnwrapCrypto_wrap_iff (hsize : dataSize.toNat = data.length)
    (h : fpWrapCrypto crypto heap false data dataSize = (0, some enc)) (beyond : List UInt8)
    (inPlace : Bool) :
    ((fpUnwrapCrypto crypto (enc ++ beyond) false inPlace (fpGetWrappedSize dataSize)).ret = 0 ∧
      (fpUnwrapCrypto crypto (enc ++ beyond) false inPlace (fpGetWrappedSize dataSize)).data =
        some data) ↔ data.length + 52 < 4294967296 := by
  have hlt := dataSize.toNat_lt
  have hwrapped := fpGetWrappedSize_toNat dataSize
  obtain ⟨obj, rfl⟩ := fpWrapCrypto_sealed hsize h
  constructor
  · rintro ⟨hret, -⟩
    by_contra hlarge
    have hfits := (fpUnwrapCrypto_ret_zero hret).1
    rw [ftsObjSize_eq] at hfits
    omega
  · intro hlarge
    have hfits : (fpGetWrappedSize dataSize).toNat = data.length + ftsObjSize := by
      rw [ftsObjSize_eq]
      omega
    have hlen := obj.bytes_length
    have hall : obj.bytes.take (fpGetWrappedSize dataSize).toNat = obj.bytes :=
      List.take_of_length_le (by omega)
    rw [hall, fpUnwrapCrypto_append beyond (by omega) (by rw [hlen]; omega)]
    have hfits' : ¬(fpGetWrappedSize dataSize).toNat < data.length + ftsObjSize := by omega
    simp [fpUnwrapCrypto, obj.bytes_dataLen, obj.bytes_protected, obj.bytes_hmac,
      obj.bytes_cipher, obj.bytes_iv, obj.verified, obj.decrypts, hfits']

end

/-- Unwrapping stays inside of the bytes exactly if `sized` holds, returns 0 only for what the check
accepted, and gives back the data exactly if `roomy` holds. -/
structure UnwrapSound (crypto : Crypto) (sized : Bool → List UInt8 → Prop)
    (roomy : List UInt8 → Prop) : Prop where
  inside : ∀ encData beyond isNull inPlace encDataSize, encDataSize.toNat = encData.length →
    ((∀ a ∈ (fpUnwrapCrypto crypto (encData ++ beyond) isNull inPlace encDataSize).accesses,
      a.1 + a.2 ≤ encData.length) ↔ sized isNull encData)
  checked : ∀ encData beyond isNull inPlace encDataSize, encDataSize.toNat = encData.length →
    (fpUnwrapCrypto crypto (encData ++ beyond) isNull inPlace encDataSize).ret = 0 →
    let iv := slice encData 36 16
    let data := slice encData 52 (get32 encData 0).toNat
    (fpUnwrapCrypto crypto (encData ++ beyond) isNull inPlace encDataSize).accepted =
      some (iv ++ data) ∧
    crypto.integrityVerify (iv ++ data) (slice encData 4 32) = true ∧
    iv.length = 16 ∧ data.length = (get32 encData 0).toNat
  roundTrip : ∀ heap data dataSize enc, dataSize.toNat = data.length →
    fpWrapCrypto crypto heap false data dataSize = (0, some enc) → ∀ beyond inPlace,
    (((fpUnwrapCrypto crypto (enc ++ beyond) false inPlace (fpGetWrappedSize dataSize)).ret = 0 ∧
      (fpUnwrapCrypto crypto (enc ++ beyond) false inPlace (fpGetWrappedSize dataSize)).data =
        some data) ↔ roomy data)

/-- The bytes have to hold a length, and the size to fit. -/
theorem fpUnwrapCrypto_sound (crypto : Crypto) :
    UnwrapSound crypto (fun isNull encData => isNull = true ∨ 4 ≤ encData.length)
      (fun data => data.length + 52 < 4294967296) where
  inside encData beyond isNull inPlace encDataSize hsize := by
    rw [← hsize]
    exact fpUnwrapCrypto_inside_iff
  checked encData beyond isNull inPlace encDataSize hsize h := by
    have hlarge : 52 ≤ encData.length := by
      have hfits := (fpUnwrapCrypto_ret_zero h).1
      rw [ftsObjSize_eq] at hfits
      omega
    rw [fpUnwrapCrypto_append beyond hsize (by omega)] at h ⊢
    obtain ⟨hfits, hverified, haccept⟩ := fpUnwrapCrypto_ret_zero h
    rw [ftsObjSize_eq] at hfits
    have hsplit : slice encData 36 ((get32 encData 0).toNat + 16) =
        slice encData 36 16 ++ slice encData 52 (get32 encData 0).toNat := by
      rw [Nat.add_comm, slice_add]
    rw [hsplit] at hverified haccept
    refine ⟨haccept, hverified, ?_, ?_⟩
    all_goals
      simp only [slice, List.length_take, List.length_drop]
      omega
  roundTrip _ _ _ _ hsize h beyond inPlace := fpUnwrapCrypto_wrap_iff hsize h beyond inPlace

theorem fpUnwrapCrypto_not_sound :
    (fpUnwrapCrypto plainCrypto [1, 2, 3] false false 3).accesses = [(0, 4)] ∧
    ¬UnwrapSound plainCrypto (fun _ _ => True) (fun data => data.length + 52 < 4294967296) ∧
    ¬UnwrapSound plainCrypto (fun isNull encData => isNull = true ∨ 4 ≤ encData.length)
      (fun _ => True) := by
  refine ⟨by decide, fun h => ?_, fun h => ?_⟩
  · have hinside := (h.inside [1, 2, 3] [] false false 3 rfl).mpr trivial (0, 4) (by decide)
    exact absurd hinside (by decide)
  · obtain ⟨data, hlen⟩ : ∃ data : List UInt8, data.length = (4294967244 : UInt32).toNat :=
      ⟨List.replicate _ 0, List.length_replicate⟩
    obtain ⟨enc, hwrap⟩ :
        ∃ enc, fpWrapCrypto plainCrypto ⟨fun _ => true, fun _ => 0⟩ false data 4294967244 =
          (0, some enc) := ⟨_, rfl⟩
    have hroomy := (fpUnwrapCrypto_wrap_iff hlen.symm hwrap [] false).mp
      ((h.roundTrip _ data _ enc hlen.symm hwrap [] false).mpr trivial)
    have hsize : (4294967244 : UInt32).toNat = 4294967244 := by decide
    omega

end WikoPlatform.Qsee
