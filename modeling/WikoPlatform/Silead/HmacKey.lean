import WikoPlatform.Lib.TwoRuns
import WikoPlatform.Lib.Words

/-! The key with which the Silead trusted application signs. `slfp_setHmacKey` stores the length of
a key before it looks whether the key fits. -/

namespace WikoPlatform.Silead

open Runs Words

def qseeHmacKeyMaxLength : Nat := 32

/-- The key and its length. -/
structure HmacKey where
  hmackey : Buf qseeHmacKeyMaxLength
  hmackeylen : UInt32

/-- A key is the bytes behind its pointer and its length. -/
inductive TokenCall where
  | setHmacKey (key : Nat → UInt8) (keylen : UInt32)
  | computeSignature (msg : List UInt8)

inductive Signature where
  /-- `qsee_hmac` was called with the message, and read these bytes as the key. -/
  | hmac (msg key : List UInt8)
  | refused
  deriving DecidableEq

def firstBytes (key : Nat → UInt8) (n : Nat) : List UInt8 := (List.range n).map key

@[simp] theorem length_firstBytes (key : Nat → UInt8) (n : Nat) :
    (firstBytes key n).length = n := by
  simp [firstBytes]

namespace HmacKey

def start : HmacKey := ⟨⟨List.replicate qseeHmacKeyMaxLength 0, by simp⟩, 0⟩

def copy (s : HmacKey) (key : Nat → UInt8) (keylen : Nat) (h : keylen ≤ qseeHmacKeyMaxLength) :
    Buf qseeHmacKeyMaxLength :=
  ⟨firstBytes key keylen ++ s.hmackey.bytes.drop keylen, by
    rw [List.length_append, length_firstBytes, List.length_drop, s.hmackey.size]
    omega⟩

def setHmacKey (s : HmacKey) (key : Nat → UInt8) (keylen : UInt32) : HmacKey :=
  let s := { s with hmackeylen := keylen }
  if h : keylen.toNat ≤ qseeHmacKeyMaxLength then { s with hmackey := s.copy key keylen.toNat h }
  else s

def keyRead (behind : Nat → UInt8) (s : HmacKey) : List UInt8 :=
  firstBytes (fun i => if i < qseeHmacKeyMaxLength then s.hmackey.bytes.getD i 0
    else behind (i - qseeHmacKeyMaxLength)) s.hmackeylen.toNat

def computeSignature (behind : Nat → UInt8) (s : HmacKey) (msg : List UInt8) : Signature :=
  if 0 < s.hmackeylen then .hmac msg (s.keyRead behind) else .refused

def step (behind : Nat → UInt8) (s : HmacKey) : TokenCall → List Signature × HmacKey
  | .setHmacKey key keylen => ([], s.setHmacKey key keylen)
  | .computeSignature msg => ([s.computeSignature behind msg], s)

end HmacKey

/-- The last key that was accepted, unless it is empty. -/
def keyInForce (force : List UInt8) : TokenCall → List Signature × List UInt8
  | .setHmacKey key keylen =>
    ([], if keylen.toNat ≤ qseeHmacKeyMaxLength then firstBytes key keylen.toNat else force)
  | .computeSignature msg => ([if force = [] then .refused else .hmac msg force], force)

def Signature.Inside : Signature → Prop
  | .hmac _ key => key.length ≤ qseeHmacKeyMaxLength
  | .refused => True

/-- Every signature is made with the key in force, and no byte behind the buffer is read. -/
structure SignedInForce (behind : Nat → UInt8) (calls : List TokenCall) : Prop where
  signed : (run (HmacKey.step behind) .start calls).1 = (run keyInForce [] calls).1
  inside : ∀ o ∈ (run (HmacKey.step behind) .start calls).1, o.Inside

def HmacKey.Fits (s : HmacKey) : TokenCall → Prop
  | .setHmacKey _ _ => True
  | .computeSignature _ => s.hmackeylen.toNat ≤ qseeHmacKeyMaxLength

/-- The key in force fits into the buffer, and it is there unless a longer one was set since. -/
structure HmacKey.Holds (s : HmacKey) (force : List UInt8) : Prop where
  length : force.length ≤ qseeHmacKeyMaxLength
  bytes : s.hmackeylen.toNat ≤ qseeHmacKeyMaxLength →
    s.hmackey.bytes.take s.hmackeylen.toNat = force

variable {behind : Nat → UInt8} {s : HmacKey} {force : List UInt8}

theorem HmacKey.keyRead_of_fits (h : s.hmackeylen.toNat ≤ qseeHmacKeyMaxLength) :
    s.keyRead behind = s.hmackey.bytes.take s.hmackeylen.toNat := by
  have hsize := s.hmackey.size
  rw [← map_getD_range s.hmackey.bytes (by omega)]
  refine List.map_congr_left fun i hi => ?_
  have hlt := List.mem_range.mp hi
  exact if_pos (by omega)

theorem HmacKey.setHmacKey_holds (h : s.Holds force) (key : Nat → UInt8) (keylen : UInt32) :
    (s.setHmacKey key keylen).Holds (keyInForce force (.setHmacKey key keylen)).2 := by
  simp only [setHmacKey, keyInForce]
  split
  next hfits =>
    refine ⟨by simpa using hfits, fun _ => ?_⟩
    exact List.take_left' (length_firstBytes key _)
  next hlong => exact ⟨h.length, fun hfits => absurd hfits hlong⟩

theorem HmacKey.computeSignature_eq_iff (h : s.Holds force) (msg : List UInt8) :
    s.computeSignature behind msg = (if force = [] then .refused else .hmac msg force) ↔
      s.hmackeylen.toNat ≤ qseeHmacKeyMaxLength := by
  constructor
  · intro heq
    by_contra hlong
    have hpos : 0 < s.hmackeylen := by
      exact Nat.lt_of_le_of_lt (Nat.zero_le _) (Nat.lt_of_not_le hlong)
    rw [computeSignature, if_pos hpos] at heq
    split at heq
    · cases heq
    · have hkey : s.keyRead behind = force := (Signature.hmac.inj heq).2
      have hlength : (s.keyRead behind).length = s.hmackeylen.toNat := length_firstBytes _ _
      rw [hkey] at hlength
      exact hlong (hlength ▸ h.length)
  · intro hfits
    have hforce := h.bytes hfits
    have hsize := s.hmackey.size
    have hlength : force.length = s.hmackeylen.toNat := by
      rw [← hforce, List.length_take]
      omega
    have hpos : 0 < s.hmackeylen ↔ 0 < force.length := by
      rw [hlength]
      rfl
    rw [computeSignature, keyRead_of_fits hfits, hforce]
    by_cases hempty : force = []
    · rw [if_pos hempty, if_neg]
      rw [hpos, hempty]
      exact Nat.lt_irrefl 0
    · rw [if_neg hempty, if_pos]
      exact hpos.mpr (List.length_pos_of_ne_nil hempty)

theorem HmacKey.step_inside_iff (s : HmacKey) (call : TokenCall) :
    (∀ o ∈ (s.step behind call).1, o.Inside) ↔ s.Fits call := by
  cases call with
  | setHmacKey key keylen => simp [step, Fits]
  | computeSignature msg =>
    simp only [step, List.forall_mem_singleton, computeSignature, Fits]
    split
    · rw [Signature.Inside, keyRead, length_firstBytes]
    · next hzero =>
      exact iff_of_true trivial (Nat.le_trans (Nat.le_of_not_lt hzero) (Nat.zero_le _))

theorem signed_iff_meets (calls : List TokenCall) :
    (run (HmacKey.step behind) .start calls).1 = (run keyInForce [] calls).1 ↔
      Meets (HmacKey.step behind) HmacKey.Fits .start calls := by
  have hstart : HmacKey.start.Holds [] := ⟨by simp, fun _ => rfl⟩
  refine run_eq_iff_meets ?_ ?_ ?_ hstart calls
  · rintro s force (_ | _)
    · rfl
    · rfl
  · rintro s force (⟨key, keylen⟩ | msg) h
    · exact iff_of_true rfl trivial
    · simp only [HmacKey.step, keyInForce, List.cons.injEq, and_true]
      exact HmacKey.computeSignature_eq_iff h msg
  · rintro s force (⟨key, keylen⟩ | msg) h -
    · exact HmacKey.setHmacKey_holds h key keylen
    · exact h

/-- A key that was too long spoils what is signed after it. -/
theorem signedInForce_iff (behind : Nat → UInt8) (calls : List TokenCall) :
    SignedInForce behind calls ↔ Meets (HmacKey.step behind) HmacKey.Fits .start calls := by
  constructor
  · intro h
    exact (signed_iff_meets calls).mp h.signed
  · intro hmeets
    exact ⟨(signed_iff_meets calls).mpr hmeets,
      (forall_run_iff_meets HmacKey.step_inside_iff .start calls).mpr hmeets⟩

def overlongKey : List TokenCall :=
  [.setHmacKey (fun _ => 7) 1, .setHmacKey (fun _ => 9) 33, .computeSignature [1]]

theorem overlongKey_not_signedInForce : ¬SignedInForce (fun _ => 5) overlongKey := by
  intro h
  have hsign : (run (HmacKey.step fun _ => 5) .start overlongKey).1 =
      [.hmac [1] (7 :: List.replicate 31 0 ++ [5])] := by decide +kernel
  have hforce : (run keyInForce [] overlongKey).1 = [.hmac [1] [7]] := by decide +kernel
  have heq := h.signed
  exact absurd heq (by decide)

end WikoPlatform.Silead
