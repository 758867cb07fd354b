import Mathlib.Data.Nat.ModEq
import Mathlib.Tactic.Ring

/-! Sums with an end-around carry: a sum that does not fit in one digit of base `b` is folded by
adding its carry back into its low digit, which keeps the sum modulo `b - 1`. -/

namespace EndAround

variable {b m n : Nat}

theorem carry_lt (hb : 2 ≤ b) (h : b ≤ n) : n % b + n / b < n := by
  have hmod := Nat.mod_add_div n b
  have hpos : 1 ≤ n / b := (Nat.one_le_div_iff (by omega)).mpr h
  have hmul : 2 * (n / b) ≤ b * (n / b) := Nat.mul_le_mul_right _ hb
  omega

/-- `n` with its carry added back until it is one digit. -/
def fold (b n : Nat) : Nat :=
  if 2 ≤ b ∧ b ≤ n then fold b (n % b + n / b) else n
termination_by n
decreasing_by exact carry_lt ‹2 ≤ b ∧ b ≤ n›.1 ‹2 ≤ b ∧ b ≤ n›.2

theorem fold_of_lt (h : n < b) : fold b n = n := by
  rw [fold]
  exact if_neg fun hb => by omega

section

variable (hb : 2 ≤ b)
include hb

theorem fold_of_le (h : b ≤ n) : fold b n = fold b (n % b + n / b) := by
  rw [fold, if_pos ⟨hb, h⟩]

/-- The induction that `fold` recurses by. -/
theorem carry_induction {P : Nat → Prop} (digit : ∀ n, n < b → P n)
    (carry : ∀ n, b ≤ n → P (n % b + n / b) → P n) (n : Nat) : P n := by
  induction n using Nat.strong_induction_on with
  | _ n ih =>
    by_cases h : n < b
    · exact digit n h
    · exact carry n (by omega) (ih _ (carry_lt hb (by omega)))

theorem fold_lt (n : Nat) : fold b n < b := by
  induction n using carry_induction hb with
  | digit n h => rw [fold_of_lt h]; exact h
  | carry n h ih => rw [fold_of_le hb h]; exact ih

theorem carry_modEq (n : Nat) : n % b + n / b ≡ n [MOD b - 1] := by
  have hone : 1 ≡ b [MOD b - 1] := (Nat.modEq_iff_dvd' (by omega)).mpr (dvd_refl _)
  calc n % b + n / b = n % b + 1 * (n / b) := by ring
    _ ≡ n % b + b * (n / b) [MOD b - 1] := (hone.mul_right _).add_left _
    _ = n := Nat.mod_add_div n b

theorem fold_modEq (n : Nat) : fold b n ≡ n [MOD b - 1] := by
  induction n using carry_induction hb with
  | digit n h => rw [fold_of_lt h]
  | carry n h ih => rw [fold_of_le hb h]; exact ih.trans (carry_modEq hb n)

theorem fold_eq_zero : fold b n = 0 ↔ n = 0 := by
  induction n using carry_induction hb with
  | digit n h => rw [fold_of_lt h]
  | carry n h ih =>
    have hpos : 1 ≤ n / b := (Nat.one_le_div_iff (by omega)).mpr h
    rw [fold_of_le hb h]
    omega

theorem fold_congr (h : m ≡ n [MOD b - 1]) (hz : m = 0 ↔ n = 0) : fold b m = fold b n := by
  have hres : fold b m % (b - 1) = fold b n % (b - 1) :=
    ((fold_modEq hb m).trans h).trans (fold_modEq hb n).symm
  have hm := fold_lt hb m
  have hn := fold_lt hb n
  have hzero : fold b m = 0 ↔ fold b n = 0 := by rw [fold_eq_zero hb, fold_eq_zero hb, hz]
  -- Two digits with one residue modulo `b - 1` are equal, or they are `0` and `b - 1`.
  rcases Nat.lt_or_ge (fold b m) (b - 1) with h1 | h1 <;>
    rcases Nat.lt_or_ge (fold b n) (b - 1) with h2 | h2
  · rwa [Nat.mod_eq_of_lt h1, Nat.mod_eq_of_lt h2] at hres
  · obtain h3 : fold b n = b - 1 := by omega
    rw [Nat.mod_eq_of_lt h1, h3, Nat.mod_self] at hres
    omega
  · obtain h3 : fold b m = b - 1 := by omega
    rw [Nat.mod_eq_of_lt h2, h3, Nat.mod_self] at hres
    omega
  · omega

theorem fold_fold_add (m n : Nat) : fold b (fold b m + n) = fold b (m + n) := by
  refine fold_congr hb ((fold_modEq hb m).add_right n) ?_
  have := fold_eq_zero (n := m) hb
  omega

theorem fold_eq_max : fold b n = b - 1 ↔ n ≠ 0 ∧ n % (b - 1) = 0 := by
  have hmod := fold_modEq hb n
  have hzero := fold_eq_zero (n := n) hb
  constructor
  · intro h
    refine ⟨by omega, ?_⟩
    rw [h, Nat.ModEq, Nat.mod_self] at hmod
    exact hmod.symm
  · rintro ⟨hne, hres⟩
    have hlt := fold_lt hb n
    rw [Nat.ModEq] at hmod
    by_contra hmax
    rw [Nat.mod_eq_of_lt (by omega)] at hmod
    omega

theorem complement_add_mod (n : Nat) : (b - 1 - fold b n + n) % (b - 1) = 0 := by
  have hlt := fold_lt hb n
  have hsum : b - 1 - fold b n + n ≡ b - 1 - fold b n + fold b n [MOD b - 1] :=
    (fold_modEq hb n).symm.add_left _
  rwa [Nat.sub_add_cancel (by omega), Nat.ModEq, Nat.mod_self] at hsum

theorem fold_add_complement (hn : n ≠ 0) : fold b (n + (b - 1 - fold b n)) = b - 1 := by
  have hlt := fold_lt hb n
  refine (fold_eq_max hb).mpr ⟨by omega, ?_⟩
  have hsum : n + (b - 1 - fold b n) ≡ fold b n + (b - 1 - fold b n) [MOD b - 1] :=
    (fold_modEq hb n).symm.add_right _
  rw [show fold b n + (b - 1 - fold b n) = b - 1 by omega, Nat.ModEq, Nat.mod_self] at hsum
  exact hsum

end

end EndAround
