import Mathlib.Data.List.Basic

/-! Where the members of a C structure lie. -/

namespace Layout

/-- A member of a structure. -/
structure Member where
  size : Nat
  align : Nat
  align_pos : 0 < align

def bytes (n : Nat) : Member := ⟨n, 1, Nat.one_pos⟩
def word32 : Member := ⟨4, 4, by decide⟩
def word64 : Member := ⟨8, 8, by decide⟩

def alignUp (n align : Nat) : Nat := (n + (align - 1)) / align * align

theorem le_alignUp (n : Nat) {align : Nat} (h : 0 < align) : n ≤ alignUp n align := by
  unfold alignUp
  have hmod := Nat.mod_lt (n + (align - 1)) h
  have hsplit := Nat.div_add_mod' (n + (align - 1)) align
  omega

/-- Offset and size of each member, from `start` on. -/
def placesFrom : Nat → List Member → List (Nat × Nat)
  | _, [] => []
  | start, m :: rest =>
    (alignUp start m.align, m.size) :: placesFrom (alignUp start m.align + m.size) rest

def endFrom : Nat → List Member → Nat
  | start, [] => start
  | start, m :: rest => endFrom (alignUp start m.align + m.size) rest

def maxAlign (members : List Member) : Nat := (members.map Member.align).foldr max 1

def places (members : List Member) : List (Nat × Nat) := placesFrom 0 members

def structSize (members : List Member) : Nat := alignUp (endFrom 0 members) (maxAlign members)

/-- The size of the largest member, rounded up. -/
def unionSize (alternatives : List (List Member)) : Nat :=
  alignUp ((alternatives.map structSize).foldr max 0) ((alternatives.map maxAlign).foldr max 1)

theorem maxAlign_pos (members : List Member) : 0 < maxAlign members := by
  induction members with
  | nil => decide
  | cons m rest ih => exact Nat.lt_of_lt_of_le ih (Nat.le_max_right _ _)

theorem le_endFrom (start : Nat) (members : List Member) : start ≤ endFrom start members := by
  induction members generalizing start with
  | nil => exact Nat.le_refl _
  | cons m rest ih =>
    have hup := le_alignUp start m.align_pos
    have hrest := ih (alignUp start m.align + m.size)
    simp only [endFrom]
    omega

variable {members : List Member} {place : Nat × Nat}

theorem placesFrom_le_endFrom {start : Nat} (h : place ∈ placesFrom start members) :
    place.1 + place.2 ≤ endFrom start members := by
  induction members generalizing start with
  | nil => simp [placesFrom] at h
  | cons m rest ih =>
    simp only [placesFrom, List.mem_cons] at h
    rcases h with rfl | hrest
    · exact le_endFrom _ rest
    · exact ih hrest

theorem place_inside (h : place ∈ places members) : place.1 + place.2 ≤ structSize members :=
  Nat.le_trans (placesFrom_le_endFrom h) (le_alignUp _ (maxAlign_pos members))

end Layout
