import Mathlib.Algebra.Group.Int.Defs
import Mathlib.Algebra.Group.Nat.Defs

/-! The error numbers, the limits and the conversions between machine integers that the components
share. -/

namespace WikoPlatform

def enoent : Int := 2
def eintr : Int := 4
def eio : Int := 5
def eagain : Int := 11
def enomem : Int := 12
def ebusy : Int := 16
def einval : Int := 22
def eafnosupport : Int := 97
def etimedout : Int := 110

def pathMax : Nat := 4096

/-- What a conversion to `int32_t` leaves of a number. -/
def int32 (n : Int) : Int := n.bmod (2 ^ 32)

/-- What a conversion to `uint32_t` leaves of a number. -/
def uint32 (n : Int) : Int := n % 2 ^ 32

theorem int32_of_mem {n : Int} (h : -2 ^ 31 ≤ n ∧ n < 2 ^ 31) : int32 n = n :=
  Int.bmod_eq_of_le (by omega) (by omega)

theorem int32_of_lt {n : Nat} (h : n < 2 ^ 31) : int32 n = n :=
  int32_of_mem (by omega)

theorem uint32_int32 {n : Nat} (h : n < 2 ^ 32) : uint32 (int32 n) = n := by
  have hmod : (n : Int).bmod (2 ^ 32) % (2 ^ 32 : Nat) = n % (2 ^ 32 : Nat) := Int.bmod_emod
  unfold uint32 int32
  omega

end WikoPlatform
