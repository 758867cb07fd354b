import WikoPlatform.Lib.Runs
import Mathlib.Data.List.ReduceOption
import Mathlib.Data.List.Perm.Basic

/-! The wake locks of the Silead driver for MTK: `fp_wake_lock_store` and `fp_wake_unlock_store`,
with a list of ten slots. A name is the string in the buffer. -/

namespace WikoPlatform.Kernel.WakeLocks

open Runs

/-- `names` and `locks` are the blocks of `kstrndup` and `kzalloc` that are not freed, and `sources`
the wakeup sources that are held; structure and source go by the name. -/
structure World where
  wakelockList : List (Option String)
  wakelocksLock : Bool
  names : List String
  locks : List String
  sources : List String

def start : World := ⟨List.replicate 10 none, false, [], [], []⟩

namespace World

/-- `none` for a call that waits for the mutex for ever. -/
def fpWakeLockStore (w : World) (name : String) (n : Nat) (dup alloc : Bool) :
    Option Int × World :=
  if dup = false then (some (-12), w)
  else
    let w := { w with names := name :: w.names }
    if w.wakelocksLock then (none, w)
    else if w.wakelockList.contains (some name) then (some n, w)
    else if alloc = false then (some (-12), { w with wakelocksLock := true })
    else
      let w := { w with locks := name :: w.locks, sources := name :: w.sources }
      if w.wakelockList.contains none then
        (some n, { w with wakelockList := w.wakelockList.replace none (some name) })
      else (some (-1), w)

def fpWakeUnlockStore (w : World) (name : String) (n : Nat) : Option Int × World :=
  if w.wakelocksLock then (none, w)
  else if w.wakelockList.contains (some name) then
    (some n, { w with
      wakelockList := w.wakelockList.replace (some name) none
      names := w.names.erase name
      locks := w.locks.erase name
      sources := w.sources.erase name })
  else (some (-1), w)

end World

inductive Event where
  | lock (name : String) (n : Nat) (dup alloc : Bool)
  | unlock (name : String) (n : Nat)

/-- The driver, and the names that were locked and are not unlocked. -/
structure Watched where
  world : World
  locked : List String

def Watched.step (x : Watched) : Event → List (Option Int) × Watched
  | .lock name n dup alloc =>
    let next := x.world.fpWakeLockStore name n dup alloc
    ([next.1], ⟨next.2, if next.1.any (0 ≤ ·) then x.locked.insert name else x.locked⟩)
  | .unlock name n =>
    let next := x.world.fpWakeUnlockStore name n
    ([next.1], ⟨next.2, x.locked.filter (· ≠ name)⟩)

/-- Held are the locked names, once, and they and the blocks are those of the list. -/
structure Tracked (x : Watched) : Prop where
  free : x.world.wakelocksLock = false
  once : x.world.sources.Nodup
  held : ∀ name, name ∈ x.world.sources ↔ name ∈ x.locked
  listed : x.world.sources.Perm x.world.wakelockList.reduceOption
  names : x.world.names.Perm x.world.wakelockList.reduceOption
  locks : x.world.locks.Perm x.world.wakelockList.reduceOption

/-- A lock with a copied name is new, and finds a slot and memory. -/
def Roomy (x : Watched) : Event → Prop
  | .lock name _ dup alloc => dup = true →
    some name ∉ x.world.wakelockList ∧ none ∈ x.world.wakelockList ∧ alloc = true
  | .unlock .. => True

theorem reduceOption_replace_none (name : String) {list : List (Option String)} (h : none ∈ list) :
    (list.replace none (some name)).reduceOption.Perm (name :: list.reduceOption) := by
  induction list with
  | nil => cases h
  | cons slot rest ih =>
    cases slot with
    | none => rfl
    | some other =>
      have hrest : none ∈ rest := by simpa using h
      exact ((ih hrest).cons other).trans (.swap name other _)

theorem reduceOption_replace_some (name : String) (list : List (Option String)) :
    (list.replace (some name) none).reduceOption = list.reduceOption.erase name := by
  induction list with
  | nil => rfl
  | cons slot rest ih =>
    cases slot with
    | none => exact ih
    | some other =>
      by_cases h : other = name
      · simp [h]
      · simp [List.replace_cons, beq_false_of_ne (Ne.symm h), h, ih]

theorem not_perm_cons {name : String} {l l' : List String} (h : l.Perm l') :
    ¬(name :: l).Perm l' := by
  intro h'
  have := (h'.trans h.symm).length_eq
  simp at this

section

variable {x : Watched} (h : Tracked x)
include h

theorem mem_list_iff (name : String) :
    some name ∈ x.world.wakelockList ↔ name ∈ x.world.sources := by
  rw [h.listed.mem_iff, List.reduceOption_mem_iff]

theorem lock_tracked_iff (name : String) (n : Nat) (dup alloc : Bool) :
    Tracked (x.step (.lock name n dup alloc)).2 ↔ Roomy x (.lock name n dup alloc) := by
  simp only [Watched.step, World.fpWakeLockStore, Roomy, h.free, List.contains_iff_mem,
    reduceCtorEq, if_false]
  cases dup with
  | false => simpa using h
  | true =>
    by_cases hname : some name ∈ x.world.wakelockList
    · refine iff_of_false (fun h' => ?_) fun hroomy => (hroomy rfl).1 hname
      simp only [hname, reduceCtorEq, if_true, if_false] at h'
      exact not_perm_cons h.names h'.names
    cases alloc with
    | false => exact iff_of_false (fun h' => by simpa [hname] using h'.free) (by simp)
    | true =>
      by_cases hnone : none ∈ x.world.wakelockList
      · refine iff_of_true ?_ (by simp [hname, hnone])
        simp only [hname, hnone, reduceCtorEq, if_true, if_false]
        have hperm := reduceOption_replace_none name hnone
        rw [mem_list_iff h] at hname
        exact ⟨rfl, List.nodup_cons.mpr ⟨hname, h.once⟩, by simp [h.held],
          (h.listed.cons _).trans hperm.symm, (h.names.cons _).trans hperm.symm,
          (h.locks.cons _).trans hperm.symm⟩
      · refine iff_of_false (fun h' => ?_) fun hroomy => hnone (hroomy rfl).2.1
        simp only [hname, hnone, reduceCtorEq, if_false] at h'
        exact not_perm_cons h.listed h'.listed

theorem unlock_tracked (name : String) (n : Nat) : Tracked (x.step (.unlock name n)).2 := by
  simp only [Watched.step, World.fpWakeUnlockStore, h.free, List.contains_iff_mem,
    Bool.false_eq_true, if_false]
  have hheld : ∀ other, other ∈ x.world.sources.erase name ↔
      other ∈ x.locked.filter (· ≠ name) := by
    intro other
    simp [h.once.mem_erase_iff, h.held, and_comm]
  by_cases hname : some name ∈ x.world.wakelockList
  · simp only [hname, if_true]
    have hperm := reduceOption_replace_some name x.world.wakelockList
    refine ⟨rfl, h.once.erase _, hheld, ?_, ?_, ?_⟩ <;> rw [hperm]
    exacts [h.listed.erase _, h.names.erase _, h.locks.erase _]
  · rw [mem_list_iff h] at hname
    simp only [mem_list_iff h, hname, if_false]
    rw [List.erase_of_not_mem hname] at hheld
    exact { h with held := hheld }

end

theorem tracked_step_iff (x : Watched) (e : Event) (h : Tracked x) :
    Tracked (x.step e).2 ↔ Roomy x e := by
  cases e with
  | lock name n dup alloc => exact lock_tracked_iff h name n dup alloc
  | unlock name n => exact iff_of_true (unlock_tracked h name n) trivial

theorem start_tracked : Tracked ⟨start, []⟩ :=
  ⟨rfl, List.nodup_nil, fun _ => .rfl, .refl _, .refl _, .refl _⟩

/-- Locks stay tracked exactly if there is room. -/
theorem wakeLocks_tracked_iff (events : List Event) :
    Meets Watched.step (fun x e => Tracked (x.step e).2) ⟨start, []⟩ events ↔
      Meets Watched.step Roomy ⟨start, []⟩ events :=
  meets_congr_of_inv tracked_step_iff (fun _ _ _ h => h) start_tracked events

def lockAll (names : List String) : List Event := names.map fun name => .lock name 1 true true

theorem wakeLocks_not_tracked :
    (run Watched.step ⟨start, []⟩ (lockAll ["a", "a"])).2.world.names = ["a", "a"] ∧
      (run Watched.step ⟨start, []⟩ (lockAll ["a", "a"])).2.world.sources = ["a"] ∧
      (run Watched.step ⟨start, []⟩
        (lockAll ["a", "b", "c", "d", "e", "f", "g", "h", "i", "j", "k"])).1.getLast? =
          some (some (-1)) ∧ "k" ∈ (run Watched.step ⟨start, []⟩
        (lockAll ["a", "b", "c", "d", "e", "f", "g", "h", "i", "j", "k"])).2.world.sources ∧
      (run Watched.step ⟨start, []⟩ [.lock "a" 1 true false]).2.world.wakelocksLock = true ∧
      ¬Meets Watched.step (fun x e => Tracked (x.step e).2) ⟨start, []⟩ (lockAll ["a", "a"]) := by
  refine ⟨by decide +kernel, by decide +kernel, by decide +kernel, by decide +kernel,
    by decide +kernel, fun h => ?_⟩
  have hlength := h.2.1.names.length_eq
  exact absurd hlength (by decide +kernel)

end WikoPlatform.Kernel.WakeLocks
