import Mathlib.Data.List.TakeWhile

/-! Strings that end with a zero byte, and arrays that are filled up with zeros. -/

namespace CString

/-- The bytes before the first zero. -/
def cString (bytes : List UInt8) : List UInt8 := bytes.takeWhile (· ≠ 0)

/-- A string in an array of `n` bytes, with zeros behind it. -/
def padded (n : Nat) (s : List UInt8) : List UInt8 := s ++ List.replicate (n - s.length) 0

variable {bytes s t : List UInt8} {n : Nat}

theorem zero_notMem_cString (bytes : List UInt8) : 0 ∉ cString bytes := by
  intro h
  simpa using List.mem_takeWhile_imp h

theorem length_cString_le (bytes : List UInt8) : (cString bytes).length ≤ bytes.length :=
  (List.takeWhile_prefix _).length_le

theorem cString_eq_self (h : 0 ∉ bytes) : cString bytes = bytes := by
  refine List.takeWhile_eq_self_iff.mpr fun b hb => ?_
  have : b ≠ 0 := fun hzero => h (hzero ▸ hb)
  simpa using this

theorem cString_append (h : 0 ∉ bytes) (rest : List UInt8) :
    cString (bytes ++ rest) = bytes ++ cString rest :=
  List.takeWhile_append_of_pos fun b hb => by
    have : b ≠ 0 := fun hzero => h (hzero ▸ hb)
    simpa using this

theorem cString_append_zero (bytes rest : List UInt8) :
    cString (bytes ++ 0 :: rest) = cString bytes := by
  induction bytes with
  | nil => rfl
  | cons b bytes ih =>
    by_cases hb : b = 0
    · simp [cString, hb]
    · simpa [cString, hb] using ih

theorem length_cString_lt_iff (hn : n ≤ bytes.length) :
    (cString bytes).length < n ↔ 0 ∈ bytes.take n := by
  induction bytes generalizing n with
  | nil => simp_all [cString]
  | cons b bytes ih =>
    cases n with
    | zero => simp
    | succ n =>
      have hrest := ih (Nat.le_of_succ_le_succ hn)
      by_cases hb : b = 0
      · simp [cString, hb]
      · have hcons : cString (b :: bytes) = b :: cString bytes := by simp [cString, hb]
        rw [hcons, List.length_cons, Nat.succ_lt_succ_iff, hrest, List.take_succ_cons,
          List.mem_cons, or_iff_right (Ne.symm hb)]

theorem cString_padded (hs : 0 ∉ s) : cString (padded n s) = s := by
  rw [padded]
  cases hfill : n - s.length with
  | zero =>
    rw [List.replicate_zero, List.append_nil]
    exact cString_eq_self hs
  | succ k =>
    rw [List.replicate_succ, cString_append_zero]
    exact cString_eq_self hs

theorem padded_inj (hs : 0 ∉ s) (ht : 0 ∉ t) : padded n s = padded n t ↔ s = t := by
  refine ⟨fun h => ?_, fun h => by rw [h]⟩
  rw [← cString_padded hs, h, cString_padded ht]

end CString
