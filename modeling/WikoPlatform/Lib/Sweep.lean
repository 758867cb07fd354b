import Mathlib.Data.List.Basic

/-! Loops that count an index up through a list and remove items from it on the way. The item after
a removed one is passed over. -/

namespace Sweep

variable {α β : Type*} {x : α} {items : List α}

/-- The loop from index `i` on. -/
def walk (visit : β → α → β) (drop : α → Bool) (i : Nat) (acc : β) (items : List α) :
    β × List α :=
  if h : i < items.length then
    walk visit drop (i + 1) (visit acc items[i])
      (if drop items[i] then items.eraseIdx i else items)
  else (acc, items)
termination_by items.length - i
decreasing_by
  split
  · rw [List.length_eraseIdx]
    split <;> omega
  · omega

variable (drop : α → Bool)

def met : List α → List α
  | [] => []
  | [x] => [x]
  | x :: y :: rest => if drop x then x :: met rest else x :: met (y :: rest)

def left : List α → List α
  | [] => []
  | [x] => if drop x then [] else [x]
  | x :: y :: rest => if drop x then y :: left rest else x :: left (y :: rest)

variable {drop}

theorem walk_end (visit : β → α → β) (acc : β) (items : List α) :
    walk visit drop items.length acc items = (acc, items) := by
  rw [walk, dif_neg (Nat.lt_irrefl _)]

theorem walk_drop (visit : β → α → β) (acc : β) (done : List α) (rest : List α)
    (h : drop x = true) : walk visit drop done.length acc (done ++ x :: rest) =
      walk visit drop (done.length + 1) (visit acc x) (done ++ rest) := by
  rw [walk, dif_pos (by simp)]
  simp [h, List.eraseIdx_append_of_length_le]

theorem walk_keep (visit : β → α → β) (acc : β) (done : List α) (rest : List α)
    (h : drop x = false) : walk visit drop done.length acc (done ++ x :: rest) =
      walk visit drop (done.length + 1) (visit acc x) (done ++ x :: rest) := by
  rw [walk, dif_pos (by simp)]
  simp [h]

theorem walk_append (visit : β → α → β) (acc : β) (done rest : List α) :
    walk visit drop done.length acc (done ++ rest) =
      ((met drop rest).foldl visit acc, done ++ left drop rest) := by
  -- along the recursion of `met`; `done` grows by the item that stays at its index
  have hnext : ∀ (done : List α) (y : α), done.length + 1 = (done ++ [y]).length := by simp
  induction rest using met.induct drop generalizing acc done with
  | case1 => simpa [met, left] using walk_end visit acc done
  | case2 x =>
    cases h : drop x with
    | true =>
      rw [walk_drop visit acc done [] h, List.append_nil, walk, dif_neg (by omega)]
      simp [met, left, h]
    | false =>
      rw [walk_keep visit acc done [] h, hnext done x, walk_end]
      simp [met, left, h]
  | case3 x y rest h ih =>
    rw [walk_drop visit acc done _ h, hnext done y, List.append_cons done y rest, ih]
    simp [met, left, h]
  | case4 x y rest h ih =>
    have hkeep : drop x = false := by simpa using h
    rw [walk_keep visit acc done _ hkeep, hnext done x, List.append_cons done x (y :: rest), ih]
    simp [met, left, h]

theorem walk_eq (visit : β → α → β) (acc : β) (items : List α) :
    walk visit drop 0 acc items = ((met drop items).foldl visit acc, left drop items) :=
  walk_append visit acc [] items

theorem left_sublist (items : List α) : (left drop items).Sublist items := by
  induction items using left.induct drop with
  | case1 => exact .refl _
  | case2 x h | case3 x h => simp [left, h]
  | case4 x y rest h ih =>
    rw [left, if_pos h]
    exact (ih.cons_cons y).cons x
  | case5 x y rest h ih =>
    rw [left, if_neg h]
    exact ih.cons_cons x

theorem met_sublist (items : List α) : (met drop items).Sublist items := by
  induction items using met.induct drop with
  | case1 | case2 x => exact .refl _
  | case3 x y rest h ih =>
    rw [met, if_pos h]
    exact (ih.cons y).cons_cons x
  | case4 x y rest h ih =>
    rw [met, if_neg h]
    exact ih.cons_cons x

theorem met_eq_iff (items : List α) :
    met drop items = items ↔ ∀ x ∈ items.dropLast, drop x = false := by
  induction items using met.induct drop with
  | case1 | case2 x => simp [met]
  | case3 x y rest h ih =>
    have hshort : (met drop rest).length ≤ rest.length := (met_sublist rest).length_le
    refine iff_of_false (fun heq => ?_) fun hall => ?_
    · have hlength := congrArg List.length heq
      rw [met, if_pos h, List.length_cons, List.length_cons, List.length_cons] at hlength
      omega
    · have hkept := hall x (by simp [List.dropLast])
      rw [h] at hkept
      cases hkept
  | case4 x y rest h ih =>
    rw [met, if_neg h, List.cons_inj_right, ih, List.dropLast_cons_cons]
    simp [h]

theorem left_eq_filter (h : items.Pairwise fun x y => drop x = true → drop y = false) :
    left drop items = items.filter (!drop ·) := by
  induction items using left.induct drop with
  | case1 => rfl
  | case2 x hx | case3 x hx => simp [left, hx]
  | case4 x y rest hx ih =>
    obtain ⟨hlater, hrest⟩ := List.pairwise_cons.mp h
    have hy : drop y = false := hlater y List.mem_cons_self hx
    rw [left, ih (List.pairwise_cons.mp hrest).2]
    simp [hx, hy]
  | case5 x y rest hx ih =>
    rw [left, ih (List.pairwise_cons.mp h).2]
    simp [hx]

theorem pairwise_of_dropLast (h : ∀ x ∈ items.dropLast, drop x = false) :
    items.Pairwise fun x y => drop x = true → drop y = false := by
  induction items with
  | nil => exact .nil
  | cons x rest ih =>
    cases rest with
    | nil => exact List.pairwise_singleton _ x
    | cons y rest =>
      rw [List.dropLast_cons_cons, List.forall_mem_cons] at h
      refine .cons (fun _ _ hx => ?_) (ih h.2)
      rw [h.1] at hx
      cases hx

end Sweep
