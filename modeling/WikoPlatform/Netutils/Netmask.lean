import WikoPlatform.Netutils.Address

/-! The netmask as `dhcp_utils.c` reads it from a property. Its loop stops at a mask that has become
zero and refuses one with a gap; `ipv4NetmaskToPrefixLength` stops at the first clear bit. -/

namespace WikoPlatform.Netutils

open Words

/-- The loop of `fill_ip_info`; `none` where it returns -1. -/
def maskLoop (mask : UInt32) (p : Nat) : Option Nat :=
  if p < 32 then
    if mask = 0 then some p
    else if mask &&& 0x80000000 = 0 then none
    else maskLoop (mask <<< 1) (p + 1)
  else some p
termination_by 32 - p

theorem ntohl_involutive : Function.Involutive ntohl := by
  intro x
  rw [ntohl, ntohl, byte_get32]
  exact get32_of_bytes rfl rfl rfl rfl

theorem lt_of_dvd_toNat {m : UInt32} {p : Nat} (hlow : 2 ^ p ∣ m.toNat) (hne : m ≠ 0) : p < 32 := by
  have hpos : 0 < m.toNat := Nat.pos_of_ne_zero fun h => hne (UInt32.toNat_inj.mp h)
  have hle := Nat.le_of_dvd hpos hlow
  exact (Nat.pow_lt_pow_iff_right (by decide)).mp (Nat.lt_of_le_of_lt hle m.toNat_lt)

theorem maskLoop_eq {m : UInt32} {p : Nat} (hp : p ≤ 32) (hlow : 2 ^ p ∣ m.toNat) :
    p ≤ prefixLengthLoop m p ∧ prefixLengthLoop m p ≤ 32 ∧ maskLoop m p =
      if m.toNat + 2 ^ (32 + p - prefixLengthLoop m p) = 2 ^ 32 then some (prefixLengthLoop m p)
      else none := by
  induction m, p using prefixLengthLoop.induct with
  | case1 m p htop ih =>
    have hshift := shiftLeft_one_toNat htop
    have hne : m ≠ 0 := by rintro rfl; exact htop rfl
    have hround := lt_of_dvd_toNat hlow hne
    have hnext : 2 ^ (p + 1) ∣ (m <<< 1).toNat := by
      refine (Nat.dvd_add_iff_left (Nat.pow_dvd_pow 2 hround)).mpr ?_
      rw [hshift, Nat.pow_succ']
      exact Nat.mul_dvd_mul_left 2 hlow
    obtain ⟨hle, hend, hloop⟩ := ih hround hnext
    rw [prefixLengthLoop, if_pos htop, maskLoop, if_pos hround, if_neg hne, if_neg htop, hloop]
    refine ⟨by omega, hend, if_congr ?_ rfl rfl⟩
    rw [show 32 + (p + 1) - prefixLengthLoop (m <<< 1) (p + 1) =
      32 + p - prefixLengthLoop (m <<< 1) (p + 1) + 1 by omega, Nat.pow_succ]
    omega
  | case2 m p htop =>
    rw [prefixLengthLoop, if_neg htop, maskLoop, Nat.add_sub_cancel]
    refine ⟨Nat.le_refl p, hp, ?_⟩
    by_cases hzero : m = 0
    · simp [hzero]
    · have hne : m.toNat ≠ 0 := fun h => hzero (UInt32.toNat_inj.mp h)
      rw [if_pos (lt_of_dvd_toNat hlow hzero), if_neg hzero, if_pos (not_not.mp htop),
        if_neg (by omega)]

theorem netmask_toNat : ∀ p : Fin 33,
    (ntohl (prefixLengthToIpv4Netmask p.val)).toNat + 2 ^ (32 - p.val) = 2 ^ 32 := by
  decide

theorem netmasks_agree : (∀ mask, ((maskLoop (ntohl mask) 0).isSome ↔
      prefixLengthToIpv4Netmask (ipv4NetmaskToPrefixLength mask) = mask) ∧
      ∀ p, maskLoop (ntohl mask) 0 = some p → ipv4NetmaskToPrefixLength mask = p) ∧
    ∀ p : Fin 33, ipv4NetmaskToPrefixLength (prefixLengthToIpv4Netmask p.val) = p.val := by
  refine ⟨fun mask => ?_, by decide +kernel⟩
  obtain ⟨-, hle, hloop⟩ := maskLoop_eq (m := ntohl mask) (Nat.zero_le 32) (Nat.one_dvd _)
  have hmask := netmask_toNat ⟨_, Nat.lt_succ_of_le hle⟩
  rw [hloop, ← ntohl_involutive.injective.eq_iff, ← UInt32.toNat_inj]
  constructor
  · rw [Option.isSome_ite, ipv4NetmaskToPrefixLength]
    simp only [Nat.add_zero] at hmask ⊢
    omega
  · intro p hp
    exact Option.some.inj (Option.ite_none_right_eq_some.mp hp).2

end WikoPlatform.Netutils
