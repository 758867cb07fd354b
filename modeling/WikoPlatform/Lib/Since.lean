import Mathlib.Data.List.Basic

/-! How many marked outputs a trace has since the last one that clears the count. -/

namespace Runs

variable {ο : Type*} (marks clears : ο → Bool)

def tick (n : Nat) (o : ο) : Nat := if clears o then 0 else if marks o then n + 1 else n

/-- The marked outputs since the last one that clears. -/
def since (trace : List ο) : Nat := trace.foldl (tick marks clears) 0

/-- Never more than `n` marked outputs since the last that clears. -/
def Bounded (n : Nat) (trace : List ο) : Prop :=
  ∀ before, before <+: trace → since marks clears before ≤ n

variable {marks clears} {n : Nat} {trace out : List ο}

theorem foldl_tick_le (m : Nat) (out : List ο) :
    out.foldl (tick marks clears) m ≤ m + out.countP marks := by
  induction out generalizing m with
  | nil => simp
  | cons o out ih =>
    have hrest := ih (tick marks clears m o)
    rw [List.foldl_cons, List.countP_cons]
    unfold tick at hrest ⊢
    split_ifs at hrest ⊢ <;> omega

theorem foldl_tick_of_uncleared (h : ∀ o ∈ out, clears o = false) (m : Nat) :
    out.foldl (tick marks clears) m = m + out.countP marks := by
  induction out generalizing m with
  | nil => simp
  | cons o out ih =>
    obtain ⟨ho, hout⟩ := List.forall_mem_cons.mp h
    rw [List.foldl_cons, ih hout, List.countP_cons, tick, if_neg (by simp [ho])]
    split_ifs <;> omega

theorem since_append_le (trace out : List ο) :
    since marks clears (trace ++ out) ≤ since marks clears trace + out.countP marks := by
  rw [since, List.foldl_append]
  exact foldl_tick_le _ out

theorem since_append_of_uncleared (h : ∀ o ∈ out, clears o = false) (trace : List ο) :
    since marks clears (trace ++ out) = since marks clears trace + out.countP marks := by
  rw [since, List.foldl_append]
  exact foldl_tick_of_uncleared h _

theorem since_snoc_clears {o : ο} (h : clears o = true) (trace : List ο) :
    since marks clears (trace ++ [o]) = 0 := by
  simp [since, tick, h]

namespace Bounded

theorem nil (n : Nat) : Bounded marks clears n ([] : List ο) := by
  intro before hbefore
  rw [List.prefix_nil.mp hbefore]
  exact Nat.zero_le n

theorem append (h : Bounded marks clears n trace)
    (hout : since marks clears trace + out.countP marks ≤ n) :
    Bounded marks clears n (trace ++ out) := by
  intro before hbefore
  rcases List.prefix_or_prefix_of_prefix hbefore (List.prefix_append trace out) with
    hin | ⟨more, rfl⟩
  · exact h before hin
  · have hmore : more.countP marks ≤ out.countP marks :=
      ((List.prefix_append_right_inj trace).mp hbefore).sublist.countP_le
    have hsince : since marks clears (trace ++ more) ≤ _ := since_append_le trace more
    omega

theorem append_unmarked (h : Bounded marks clears n trace) (hout : ∀ o ∈ out, marks o = false) :
    Bounded marks clears n (trace ++ out) := by
  refine h.append ?_
  rw [List.countP_eq_zero.mpr fun o ho => by simp [hout o ho]]
  exact h trace List.prefix_rfl

theorem countP_le {before stretch after : List ο}
    (h : Bounded marks clears n (before ++ stretch ++ after))
    (hstretch : ∀ o ∈ stretch, clears o = false) : stretch.countP marks ≤ n := by
  have hbound := h (before ++ stretch) (List.prefix_append _ _)
  rw [since_append_of_uncleared hstretch] at hbound
  omega

end Bounded

end Runs
