import WikoPlatform.Lib.EndAround
import WikoPlatform.Lib.Words

/-! The checksum of `libnetutils/packet.c`: the one's-complement sum of the 16-bit words of a
buffer, computed in a 32-bit accumulator and folded at the end. -/

namespace WikoPlatform.Netutils

open Words

/-- The first two loops, in a 32-bit accumulator that wraps. -/
def sumWords (sum : UInt32) : List UInt8 → UInt32
  | [] => sum
  | [last] => sum + UInt32.ofNat last.toNat
  | lo :: hi :: rest => sumWords (sum + UInt32.ofNat (word lo hi)) rest

theorem and_mask_toNat (sum : UInt32) : (sum &&& (0xffff : UInt32)).toNat = sum.toNat % 65536 := by
  exact Nat.and_two_pow_sub_one_eq_mod sum.toNat 16

theorem upper16_toNat (sum : UInt32) : (sum >>> (16 : UInt32)).toNat = sum.toNat / 65536 := by
  exact Nat.shiftRight_eq_div_pow sum.toNat 16

theorem upper16_eq_zero (sum : UInt32) : sum >>> (16 : UInt32) = 0 ↔ sum.toNat < 65536 := by
  rw [← UInt32.toNat_inj, upper16_toNat]
  simp

theorem foldStep_toNat (sum : UInt32) :
    ((sum &&& (0xffff : UInt32)) + (sum >>> (16 : UInt32))).toNat =
      sum.toNat % 65536 + sum.toNat / 65536 := by
  have hhigh : sum.toNat / 65536 < 65536 := by have := sum.toNat_lt; omega
  rw [UInt32.toNat_add, and_mask_toNat, upper16_toNat, Nat.mod_eq_of_lt (by omega)]

/-- The last loop. -/
def foldSum (sum : UInt32) : UInt32 :=
  if sum >>> (16 : UInt32) = 0 then sum
  else foldSum ((sum &&& (0xffff : UInt32)) + (sum >>> (16 : UInt32)))
termination_by sum.toNat
decreasing_by
  rw [foldStep_toNat]
  exact EndAround.carry_lt (by decide) (by rw [upper16_eq_zero] at *; omega)

def checksum (buffer : List UInt8) (count : Nat) (startsum : UInt32) : UInt32 :=
  foldSum (sumWords startsum (buffer.take count))

def finishSum (sum : UInt32) : UInt32 := ~~~sum &&& (0xffff : UInt32)

variable {sum startsum : UInt32} {count : Nat}

theorem sumWords_toNat {bytes : List UInt8} (h : sum.toNat + wordSum bytes < 2 ^ 32) :
    (sumWords sum bytes).toNat = sum.toNat + wordSum bytes := by
  induction sum, bytes using sumWords.induct with
  | case1 sum => simp [sumWords, wordSum]
  | case2 sum last =>
    simp only [wordSum] at h
    simp only [sumWords, wordSum, UInt32.toNat_add, UInt32.toNat_ofNat']
    omega
  | case3 sum lo hi rest ih =>
    simp only [wordSum] at h
    have hsum : (sum + UInt32.ofNat (word lo hi)).toNat = sum.toNat + word lo hi := by
      rw [UInt32.toNat_add, UInt32.toNat_ofNat']
      omega
    rw [sumWords, ih (by omega), wordSum]
    omega

theorem foldSum_toNat (sum : UInt32) : (foldSum sum).toNat = EndAround.fold 65536 sum.toNat := by
  induction sum using foldSum.induct with
  | case1 sum h =>
    rw [foldSum, if_pos h, EndAround.fold_of_lt ((upper16_eq_zero sum).mp h)]
  | case2 sum h ih =>
    have hle : 65536 ≤ sum.toNat := by rw [upper16_eq_zero] at h; omega
    rw [foldSum, if_neg h, ih, foldStep_toNat, EndAround.fold_of_le (by decide) hle]

theorem checksum_toNat {buffer : List UInt8}
    (h : startsum.toNat + wordSum (buffer.take count) < 2 ^ 32) :
    (checksum buffer count startsum).toNat =
      EndAround.fold 65536 (startsum.toNat + wordSum (buffer.take count)) := by
  rw [checksum, foldSum_toNat, sumWords_toNat h]

theorem finishSum_toNat (h : sum.toNat < 65536) : (finishSum sum).toNat = 65535 - sum.toNat := by
  rw [finishSum, and_mask_toNat, UInt32.toNat_not]
  simp only [UInt32.size]
  omega

theorem finishSum_toUInt16 (h : sum.toNat < 65536) :
    (finishSum sum).toUInt16.toNat = 65535 - sum.toNat := by
  rw [UInt32.toNat_toUInt16, finishSum_toNat h]
  omega

theorem finishSum_eq_zero (h : sum.toNat < 65536) : finishSum sum = 0 ↔ sum.toNat = 65535 := by
  rw [← UInt32.toNat_inj, finishSum_toNat h]
  simp
  omega

theorem checksum_continue (buffer : List UInt8) (count : Nat) {n : Nat}
    (hstart : startsum.toNat = EndAround.fold 65536 n) (hcount : count < 2 ^ 17) :
    (checksum buffer count startsum).toNat =
      EndAround.fold 65536 (n + wordSum (buffer.take count)) := by
  have hlt := EndAround.fold_lt (b := 65536) (by decide) n
  have hle := wordSum_le (buffer.take count)
  have hlen : (buffer.take count).length ≤ count := List.length_take_le _ _
  rw [checksum_toNat (by omega), hstart, EndAround.fold_fold_add (by decide)]

theorem checksum_start (buffer : List UInt8) (hcount : count < 2 ^ 17) :
    (checksum buffer count 0).toNat = EndAround.fold 65536 (wordSum (buffer.take count)) := by
  have h0 : (0 : UInt32).toNat = EndAround.fold 65536 0 := by
    rw [EndAround.fold_of_lt (by decide)]
    rfl
  rw [checksum_continue buffer count h0 hcount, Nat.zero_add]

def chained (startsum : UInt32) (pieces : List (List UInt8)) : UInt32 :=
  pieces.foldl (fun sum piece => checksum piece piece.length sum) startsum

theorem chained_toNat {pieces : List (List UInt8)} {n : Nat}
    (hstart : startsum.toNat = EndAround.fold 65536 n) (hsize : pieces.flatten.length < 2 ^ 17)
    (heven : ∀ piece ∈ pieces.dropLast, piece.length % 2 = 0) :
    (chained startsum pieces).toNat = EndAround.fold 65536 (n + wordSum pieces.flatten) := by
  induction pieces generalizing startsum n with
  | nil => exact hstart
  | cons piece rest ih =>
    rw [List.flatten_cons, List.length_append] at hsize
    have hfirst := checksum_continue piece piece.length hstart (by omega)
    rw [List.take_length] at hfirst
    cases rest with
    | nil => simpa [chained] using hfirst
    | cons next rest =>
      rw [List.dropLast_cons_cons, List.forall_mem_cons] at heven
      rw [List.flatten_cons, wordSum_append _ heven.1, ← Nat.add_assoc]
      exact ih hfirst (by omega) heven.2

/-- The sum of the words in one's complement, folded. -/
theorem checksum_onesComplement (buffer : List UInt8) (startsum : UInt32)
    (hsize : buffer.length < 2 ^ 17) (hstart : startsum.toNat ≤ 0xffff) :
    (∀ n, (sumWords startsum (buffer.take n)).toNat = startsum.toNat + wordSum (buffer.take n)) ∧
    (checksum buffer buffer.length startsum).toNat ≤ 0xffff ∧
    (checksum buffer buffer.length startsum).toNat ≡ startsum.toNat + wordSum buffer [MOD 0xffff] ∧
    (checksum buffer buffer.length startsum = 0 → startsum = 0 ∧ wordSum buffer = 0) ∧
    ∀ pieces : List (List UInt8), pieces.flatten = buffer →
      (∀ piece ∈ pieces.dropLast, piece.length % 2 = 0) →
      chained startsum pieces = checksum buffer buffer.length startsum := by
  have hfold : startsum.toNat = EndAround.fold 65536 startsum.toNat :=
    (EndAround.fold_of_lt (by omega)).symm
  have hsum := checksum_continue buffer buffer.length hfold hsize
  rw [List.take_length] at hsum
  refine ⟨fun n => sumWords_toNat ?_, ?_, ?_, fun hzero => ?_, fun pieces hpieces heven => ?_⟩
  · have hle := wordSum_le (buffer.take n)
    have hlen : (buffer.take n).length ≤ buffer.length := List.length_take_le' ..
    omega
  · exact Nat.le_of_lt_succ (hsum ▸ EndAround.fold_lt (by decide) _)
  · exact hsum ▸ EndAround.fold_modEq (by decide) _
  · rw [hzero] at hsum
    have htotal := (EndAround.fold_eq_zero (by decide)).mp hsum.symm
    exact ⟨UInt32.toNat_inj.mp (by simpa using (Nat.add_eq_zero_iff.mp htotal).1), by omega⟩
  · apply UInt32.toNat_inj.mp
    rw [chained_toNat hfold (hpieces ▸ hsize) heven, hpieces, hsum]

theorem checksum_onesComplement_carry :
    chained 0xffff [[1, 0], [2]] = checksum [1, 0, 2] 3 0xffff :=
  (checksum_onesComplement [1, 0, 2] 0xffff (by decide) (by decide)).2.2.2.2 [[1, 0], [2]] rfl
    (by decide)

end WikoPlatform.Netutils
