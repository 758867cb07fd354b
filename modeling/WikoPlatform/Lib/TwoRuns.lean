import WikoPlatform.Lib.Runs

/-! Two runs of one machine side by side, which share their inputs except for hidden ones, and the
unwinding rule; and the runs of a machine and of its specification over the same inputs. -/

namespace Runs

variable {σ ι ο : Type*}

inductive Move (ι : Type*) where
  | both (i : ι)
  | first (i : ι)
  | second (i : ι)

section

variable (step : σ → ι → List ο × σ)

/-- The outputs of the first run are on the left. -/
def pairStep (p : σ × σ) : Move ι → List (ο ⊕ ο) × (σ × σ)
  | .both i =>
    ((step p.1 i).1.map .inl ++ (step p.2 i).1.map .inr, ((step p.1 i).2, (step p.2 i).2))
  | .first i => ((step p.1 i).1.map .inl, ((step p.1 i).2, p.2))
  | .second i => ((step p.2 i).1.map .inr, (p.1, (step p.2 i).2))

/-- The runs differ only in hidden inputs that meet `ok`. -/
def Aligned (hidden : σ → ι → Bool) (ok : σ → ι → Prop) (p : σ × σ) : Move ι → Prop
  | .both i => hidden p.1 i = false ∧ hidden p.2 i = false
  | .first i => hidden p.1 i = true ∧ ok p.1 i
  | .second i => hidden p.2 i = true ∧ ok p.2 i

instance (hidden : σ → ι → Bool) (ok : σ → ι → Prop) [∀ s i, Decidable (ok s i)] (p : σ × σ) :
    (m : Move ι) → Decidable (Aligned hidden ok p m)
  | .both i => inferInstanceAs (Decidable (hidden p.1 i = false ∧ hidden p.2 i = false))
  | .first i => inferInstanceAs (Decidable (hidden p.1 i = true ∧ ok p.1 i))
  | .second i => inferInstanceAs (Decidable (hidden p.2 i = true ∧ ok p.2 i))

variable {step}

/-- An equivalence that shared inputs keep and hidden ones do not leave. -/
theorem unwinding {rel : σ → σ → Prop} {hidden : σ → ι → Bool} {ok : σ → ι → Prop}
    (hequiv : Equivalence rel)
    (hshare : ∀ s t i, rel s t → hidden s i = false → hidden t i = false →
      rel (step s i).2 (step t i).2)
    (hhidden : ∀ s i, hidden s i = true → ok s i → rel s (step s i).2)
    {p : σ × σ} {moves : List (Move ι)} (hrel : rel p.1 p.2)
    (hmeets : Meets (pairStep step) (Aligned hidden ok) p moves) :
    rel (run (pairStep step) p moves).2.1 (run (pairStep step) p moves).2.2 := by
  induction moves generalizing p with
  | nil => exact hrel
  | cons m moves ih =>
    obtain ⟨halign, hrest⟩ := hmeets
    refine ih ?_ hrest
    cases m with
    | both i => exact hshare p.1 p.2 i hrel halign.1 halign.2
    | first i => exact hequiv.trans (hequiv.symm (hhidden p.1 i halign.1 halign.2)) hrel
    | second i => exact hequiv.trans hrel (hhidden p.2 i halign.1 halign.2)

end

/-- Inputs that are answered as specified, and runs that are. -/
theorem run_eq_iff_meets {τ : Type*} {step : σ → ι → List ο × σ} {spec : τ → ι → List ο × τ}
    {ok : σ → ι → Prop} {rel : σ → τ → Prop}
    (hlength : ∀ s t i, (step s i).1.length = (spec t i).1.length)
    (hstep : ∀ s t i, rel s t → ((step s i).1 = (spec t i).1 ↔ ok s i))
    (hrel : ∀ s t i, rel s t → ok s i → rel (step s i).2 (spec t i).2) {s : σ} {t : τ}
    (hst : rel s t) (inputs : List ι) :
    (run step s inputs).1 = (run spec t inputs).1 ↔ Meets step ok s inputs := by
  induction inputs generalizing s t with
  | nil => simp [run, Meets]
  | cons i inputs ih =>
    rw [run, run, Meets, ← hstep s t i hst]
    constructor
    · intro h
      obtain ⟨hfirst, hrest⟩ := List.append_inj h (hlength s t i)
      exact ⟨hfirst, (ih (hrel s t i hst ((hstep s t i hst).mp hfirst))).mp hrest⟩
    · rintro ⟨hfirst, hrest⟩
      rw [hfirst, (ih (hrel s t i hst ((hstep s t i hst).mp hfirst))).mpr hrest]

end Runs
