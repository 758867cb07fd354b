import Mathlib.Data.List.Basic

/-! Fields that some inputs assign and the others leave alone. -/

namespace LastWrite

variable {σ ι τ υ : Type*}

/-- What the last assigning input assigned. -/
def last (assigns : ι → Option τ) (inputs : List ι) : Option τ :=
  (inputs.filterMap assigns).getLast?

variable {assigns : ι → Option τ}

theorem last_cons (i : ι) (inputs : List ι) :
    last assigns (i :: inputs) = (last assigns inputs).or (assigns i) := by
  unfold last
  cases h : assigns i with
  | none => rw [List.filterMap_cons_none h, Option.or_none]
  | some v => rw [List.filterMap_cons_some h, List.getLast?_cons, Option.or_some]

theorem last_snoc (inputs : List ι) (i : ι) :
    last assigns (inputs ++ [i]) = (assigns i).or (last assigns inputs) := by
  unfold last
  cases h : assigns i with
  | none | some v => simp [h]

theorem last_map (g : τ → υ) (inputs : List ι) :
    last (fun i => (assigns i).map g) inputs = (last assigns inputs).map g := by
  rw [last, last, ← List.map_filterMap, List.getLast?_map]

/-- A field holds what was assigned last. -/
theorem foldl_eq_last {field : σ → τ} {step : σ → ι → σ}
    (hstep : ∀ s i, field (step s i) = (assigns i).getD (field s)) (s : σ) (inputs : List ι) :
    field (inputs.foldl step s) = (last assigns inputs).getD (field s) := by
  induction inputs generalizing s with
  | nil => rfl
  | cons i inputs ih =>
    rw [List.foldl_cons, ih, hstep, last_cons]
    cases last assigns inputs with
    | none | some v => rfl

end LastWrite
