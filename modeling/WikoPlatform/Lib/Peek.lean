import Mathlib.Data.List.Basic

/-! Programs that look at a stretch of memory of which only a part is theirs. -/

namespace Peek

structure Memory where
  size : Nat
  byte : Nat → UInt8

namespace Memory

def slice (m : Memory) (offset len : Nat) : List UInt8 :=
  (List.range len).map fun i => m.byte (offset + i)

/-- The length of the string at `offset`, if a zero follows. -/
def stringLength (m : Memory) (offset : Nat) : Option Nat :=
  (List.range (m.size - offset)).find? fun i => m.byte (offset + i) == 0

def append (m n : Memory) : Memory :=
  ⟨m.size + n.size, fun i => if i < m.size then m.byte i else n.byte (i - m.size)⟩

/-- Both memories have the first `len` bytes, and share them. -/
structure Agree (len : Nat) (m n : Memory) : Prop where
  left : len ≤ m.size
  right : len ≤ n.size
  byte : ∀ i < len, m.byte i = n.byte i

variable {len offset count : Nat} {m n : Memory}

theorem Agree.symm (h : Agree len m n) : Agree len n m :=
  ⟨h.right, h.left, fun i hi => (h.byte i hi).symm⟩

theorem Agree.append (h : Agree len m n) (behind : Memory) : Agree len m (n.append behind) := by
  have hright := h.right
  refine ⟨h.left, Nat.le_add_right_of_le hright, fun i hi => ?_⟩
  rw [h.byte i hi]
  exact (if_pos (Nat.lt_of_lt_of_le hi hright)).symm

theorem Agree.slice_eq (h : Agree len m n) (hin : offset + count ≤ len) :
    m.slice offset count = n.slice offset count := by
  refine List.map_congr_left fun i hi => h.byte _ ?_
  have := List.mem_range.mp hi
  omega

theorem Agree.stringLength_eq (h : Agree len m n) (hm : m.stringLength offset = some count)
    (hin : offset + (count + 1) ≤ len) : n.stringLength offset = some count := by
  obtain ⟨hzero, -, hbefore⟩ := List.find?_range_eq_some.mp hm
  refine List.find?_range_eq_some.mpr ⟨?_, ?_, fun i hi => ?_⟩
  · rwa [← h.byte _ (by omega)]
  · have := h.right
    exact List.mem_range.mpr (by omega)
  · rw [← h.byte _ (by omega)]
    exact hbefore i hi

end Memory

/-- A program that reads at offsets. -/
inductive Prog (α : Type*) where
  | done (a : α)
  | read (offset len : Nat) (next : List UInt8 → Prog α)
  | readString (offset : Nat) (next : List UInt8 → Prog α)

namespace Prog

variable {α β : Type*}

/-- There is no value after a fault. -/
def exec (m : Memory) : Prog α → Option α × List (Nat × Nat)
  | .done a => (some a, [])
  | .read offset len next =>
    if offset + len ≤ m.size then
      let rest := (next (m.slice offset len)).exec m
      (rest.1, (offset, len) :: rest.2)
    else (none, [(offset, len)])
  | .readString offset next =>
    match m.stringLength offset with
    | some len =>
      let rest := (next (m.slice offset len)).exec m
      (rest.1, (offset, len + 1) :: rest.2)
    | none => (none, [(offset, m.size - offset + 1)])

def bind : Prog α → (α → Prog β) → Prog β
  | .done a, k => k a
  | .read offset len next, k => .read offset len fun bytes => (next bytes).bind k
  | .readString offset next, k => .readString offset fun bytes => (next bytes).bind k

instance : Monad Prog where
  pure := .done
  bind := .bind

variable {len : Nat} {m n : Memory}

/-- A program sees only the bytes it looks at. -/
theorem exec_congr (h : Memory.Agree len m n) (p : Prog α)
    (hin : ∀ a ∈ (p.exec m).2, a.1 + a.2 ≤ len) : p.exec m = p.exec n := by
  induction p with
  | done a => rfl
  | read offset count next ih =>
    simp only [exec] at hin ⊢
    split_ifs at hin with hm
    · obtain ⟨hfirst, hrest⟩ := List.forall_mem_cons.mp hin
      have hn : offset + count ≤ n.size := Nat.le_trans hfirst h.right
      rw [if_pos hm, if_pos hn, ← h.slice_eq hfirst, ih _ hrest]
    · have hfirst := hin _ (List.mem_singleton_self _)
      exact absurd (Nat.le_trans hfirst h.left) hm
  | readString offset next ih =>
    cases hm : m.stringLength offset with
    | some count =>
      simp only [exec, hm] at hin ⊢
      obtain ⟨hfirst, hrest⟩ := List.forall_mem_cons.mp hin
      have hslice : offset + count ≤ len := by simp only at hfirst; omega
      rw [h.stringLength_eq hm hfirst]
      simp only
      rw [← h.slice_eq hslice, ih _ hrest]
    | none =>
      -- the access goes one byte behind the end of `m`
      simp only [exec, hm] at hin
      have hfirst := hin _ (List.mem_singleton_self _)
      have := h.left
      simp only at hfirst
      omega

theorem exec_inside (p : Prog α) {a : α} (h : (p.exec m).1 = some a) :
    ∀ access ∈ (p.exec m).2, access.1 + access.2 ≤ m.size := by
  induction p with
  | done a => simp [exec]
  | read offset count next ih =>
    simp only [exec] at h ⊢
    split_ifs at h ⊢ with hm
    exact List.forall_mem_cons.mpr ⟨hm, ih _ h⟩
  | readString offset next ih =>
    cases hm : m.stringLength offset with
    | some count =>
      simp only [exec, hm] at h ⊢
      obtain ⟨-, hcount, -⟩ := List.find?_range_eq_some.mp hm
      have := List.mem_range.mp hcount
      exact List.forall_mem_cons.mpr ⟨by simp only; omega, ih _ h⟩
    | none => simp [exec, hm] at h

theorem exec_isSome (p : Prog α) (h : ∀ a ∈ (p.exec m).2, a.1 + a.2 ≤ m.size) :
    ∃ a, (p.exec m).1 = some a := by
  induction p with
  | done a => exact ⟨a, rfl⟩
  | read offset count next ih =>
    simp only [exec] at h ⊢
    split_ifs at h ⊢ with hm
    · exact ih _ (List.forall_mem_cons.mp h).2
    · exact absurd (h _ (List.mem_singleton_self _)) hm
  | readString offset next ih =>
    cases hm : m.stringLength offset with
    | some count =>
      simp only [exec, hm] at h ⊢
      exact ih _ (List.forall_mem_cons.mp h).2
    | none =>
      simp only [exec, hm] at h
      have hfirst := h _ (List.mem_singleton_self _)
      simp only at hfirst
      omega

end Prog

end Peek
