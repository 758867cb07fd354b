import Mathlib.Data.List.Basic

/-! Runs of a machine that takes one input at a time and leaves a trace of outputs. -/

namespace Runs

variable {σ ι ο : Type*}

section

variable (step : σ → ι → List ο × σ) {inv : List ο → σ → Prop} {ok ok' : σ → ι → Prop}
  {trace : List ο} {s : σ} {inputs : List ι} {P : σ → Prop} {good : ο → Prop}

/-- The trace and the last state of a run. -/
def run : σ → List ι → List ο × σ
  | s, [] => ([], s)
  | s, i :: inputs => ((step s i).1 ++ (run (step s i).2 inputs).1, (run (step s i).2 inputs).2)

/-- Every step of the run meets `ok` in the state before it. -/
def Meets (ok : σ → ι → Prop) : σ → List ι → Prop
  | _, [] => True
  | s, i :: inputs => ok s i ∧ Meets ok (step s i).2 inputs

instance Meets.decidable (ok : σ → ι → Prop) [∀ s i, Decidable (ok s i)] :
    ∀ s inputs, Decidable (Meets step ok s inputs)
  | _, [] => .isTrue trivial
  | s, i :: inputs =>
    have := Meets.decidable ok (step s i).2 inputs
    inferInstanceAs (Decidable (ok s i ∧ Meets step ok (step s i).2 inputs))

/-- `inv` holds after a step, of its outputs and its state. -/
abbrev After (inv : List ο → σ → Prop) (trace : List ο) (r : List ο × σ) : Prop :=
  inv (trace ++ r.1) r.2

theorem After.nil (h : inv trace s) : After inv trace ([], s) := by
  rwa [After, List.append_nil]

variable {step}

/-- What every step that meets `ok` keeps holds after the run. -/
theorem run_invariant
    (hstep : ∀ trace s i, inv trace s → ok s i → inv (trace ++ (step s i).1) (step s i).2)
    (hinv : inv trace s) (hmeets : Meets step ok s inputs) :
    inv (trace ++ (run step s inputs).1) (run step s inputs).2 := by
  induction inputs generalizing trace s with
  | nil => simpa [run] using hinv
  | cons i inputs ih =>
    obtain ⟨hok, hrest⟩ := hmeets
    have h := ih (hstep trace s i hinv hok) hrest
    rwa [List.append_assoc] at h

theorem Meets.mono (himp : ∀ s i, ok s i → ok' s i) (h : Meets step ok s inputs) :
    Meets step ok' s inputs := by
  induction inputs generalizing s with
  | nil => trivial
  | cons i inputs ih => exact ⟨himp s i h.1, ih h.2⟩

theorem Meets.imp_of_inv {inv : σ → Prop} (himp : ∀ s i, inv s → ok s i → ok' s i)
    (hinv : ∀ s i, inv s → ok s i → inv (step s i).2) (hs : inv s) (h : Meets step ok s inputs) :
    Meets step ok' s inputs := by
  induction inputs generalizing s with
  | nil => trivial
  | cons i inputs ih => exact ⟨himp s i hs h.1, ih (hinv s i hs h.1) h.2⟩

theorem meets_congr_of_inv {inv : σ → Prop} (hiff : ∀ s i, inv s → (ok s i ↔ ok' s i))
    (hinv : ∀ s i, inv s → ok s i → inv (step s i).2) (hs : inv s) (inputs : List ι) :
    Meets step ok s inputs ↔ Meets step ok' s inputs :=
  ⟨fun h => h.imp_of_inv (fun s i hs => (hiff s i hs).mp) hinv hs,
    fun h => h.imp_of_inv (fun s i hs => (hiff s i hs).mpr)
      (fun s i hs hok => hinv s i hs ((hiff s i hs).mpr hok)) hs⟩

theorem Meets.take (h : Meets step ok s inputs) (n : Nat) : Meets step ok s (inputs.take n) := by
  induction inputs generalizing s n with
  | nil => simp [Meets]
  | cons i inputs ih =>
    cases n with
    | zero => trivial
    | succ n => exact ⟨h.1, ih h.2 n⟩

theorem meets_iff_forall : Meets step ok s inputs ↔
      ∀ before i after, inputs = before ++ i :: after → ok (run step s before).2 i := by
  induction inputs generalizing s with
  | nil => simp [Meets]
  | cons i inputs ih =>
    simp only [Meets, ih]
    constructor
    · rintro ⟨hfirst, hrest⟩ before j after heq
      cases before with
      | nil =>
        obtain ⟨rfl, -⟩ := List.cons.inj heq
        exact hfirst
      | cons k before =>
        obtain ⟨rfl, hinputs⟩ := List.cons.inj heq
        exact hrest before j after hinputs
    · intro h
      refine ⟨h [] i inputs rfl, fun before j after heq => h (i :: before) j after ?_⟩
      rw [heq]
      rfl

theorem meets_true (s : σ) (inputs : List ι) : Meets step (fun _ _ => True) s inputs := by
  induction inputs generalizing s with
  | nil => trivial
  | cons i inputs ih => exact ⟨trivial, ih _⟩

theorem run_invariant_all
    (hstep : ∀ trace s i, inv trace s → inv (trace ++ (step s i).1) (step s i).2)
    (hinv : inv trace s) : inv (trace ++ (run step s inputs).1) (run step s inputs).2 :=
  run_invariant (fun trace s i h _ => hstep trace s i h) hinv (meets_true s inputs)

theorem run_append (s : σ) (inputs rest : List ι) : run step s (inputs ++ rest) =
      ((run step s inputs).1 ++ (run step (run step s inputs).2 rest).1,
        (run step (run step s inputs).2 rest).2) := by
  induction inputs generalizing s with
  | nil => rfl
  | cons i inputs ih => simp [run, ih]

theorem run_invariant_state (hstep : ∀ s i, P s → P (step s i).2) (hs : P s) (inputs : List ι) :
    P (run step s inputs).2 := by
  induction inputs generalizing s with
  | nil => exact hs
  | cons i inputs ih => exact ih (hstep s i hs)

theorem run_invariant_meets (hstep : ∀ s i, P s → ok s i → P (step s i).2) (hs : P s)
    (hmeets : Meets step ok s inputs) : P (run step s inputs).2 := by
  induction inputs generalizing s with
  | nil => exact hs
  | cons i inputs ih => exact ih (hstep s i hs hmeets.1) hmeets.2

theorem run_descends {left : σ → Nat} (hstep : ∀ s i, left (step s i).2 ≤ left s - 1) (s : σ)
    (inputs : List ι) : left (run step s inputs).2 ≤ left s - inputs.length := by
  induction inputs generalizing s with
  | nil => exact Nat.le_refl _
  | cons i inputs ih =>
    have hfirst := hstep s i
    refine Nat.le_trans (ih (step s i).2) ?_
    rw [List.length_cons]
    omega

theorem forall_run_iff_meets_of_inv {inv : σ → Prop}
    (hstep : ∀ s i, inv s → ((∀ o ∈ (step s i).1, good o) ↔ ok s i))
    (hinv : ∀ s i, inv s → ok s i → inv (step s i).2) (hs : inv s) (inputs : List ι) :
    (∀ o ∈ (run step s inputs).1, good o) ↔ Meets step ok s inputs := by
  induction inputs generalizing s with
  | nil => simp [run, Meets]
  | cons i inputs ih =>
    rw [run, List.forall_mem_append, hstep s i hs]
    exact and_congr_right fun hok => ih (hinv s i hs hok)

theorem forall_run_iff_meets (hstep : ∀ s i, (∀ o ∈ (step s i).1, good o) ↔ ok s i) (s : σ)
    (inputs : List ι) : (∀ o ∈ (run step s inputs).1, good o) ↔ Meets step ok s inputs :=
  forall_run_iff_meets_of_inv (fun s i _ => hstep s i) (fun _ _ (_ : True) _ => trivial) trivial
    inputs

/-- What exactly the steps that meet `ok` keep, and none brings back. -/
theorem run_iff_and_meets {P : List ο → σ → Prop}
    (hstep : ∀ trace s i, inv trace s → inv (trace ++ (step s i).1) (step s i).2 ∧
      (P (trace ++ (step s i).1) (step s i).2 ↔ P trace s ∧ ok s i)) (inputs : List ι)
    (hinv : inv trace s) : P (trace ++ (run step s inputs).1) (run step s inputs).2 ↔
      P trace s ∧ Meets step ok s inputs := by
  induction inputs generalizing trace s with
  | nil => simp [run, Meets]
  | cons i inputs ih =>
    obtain ⟨hnext, hkeeps⟩ := hstep trace s i hinv
    rw [run, ← List.append_assoc, ih hnext, hkeeps, Meets, and_assoc]

theorem run_simulates {τ κ π : Type*} {below : τ → κ → List π × τ} {abs : σ → τ}
    (hstep : ∀ s i, ∃ moves, abs (step s i).2 = (run below (abs s) moves).2) (s : σ)
    (inputs : List ι) : ∃ moves, abs (run step s inputs).2 = (run below (abs s) moves).2 := by
  induction inputs generalizing s with
  | nil => exact ⟨[], rfl⟩
  | cons i inputs ih =>
    obtain ⟨first, hfirst⟩ := hstep s i
    obtain ⟨rest, hrest⟩ := ih (step s i).2
    refine ⟨first ++ rest, ?_⟩
    rw [run_append, ← hfirst]
    exact hrest

end

/-- Every output stands to the outputs before it as `just` says. -/
def Justified (just : List ο → ο → Prop) (trace : List ο) : Prop :=
  ∀ before o after, trace = before ++ o :: after → just before o

namespace Justified

variable {just : List ο → ο → Prop} {trace : List ο} {o : ο}

theorem nil : Justified just [] := by
  intro before o after h
  simp at h

theorem snoc (h : Justified just trace) (ho : just trace o) : Justified just (trace ++ [o]) := by
  intro before o' after heq
  rcases List.eq_nil_or_concat after with rfl | ⟨init, last, rfl⟩
  · obtain ⟨rfl, hlast⟩ := List.append_inj' heq rfl
    obtain rfl := List.singleton_inj.mp hlast
    exact ho
  · rw [List.concat_eq_append, ← List.cons_append, ← List.append_assoc] at heq
    obtain ⟨htrace, -⟩ := List.append_inj' heq rfl
    exact h before o' init htrace

theorem snoc_iff : Justified just (trace ++ [o]) ↔ Justified just trace ∧ just trace o := by
  constructor
  · intro h
    refine ⟨fun before o' after heq => ?_, h trace o [] rfl⟩
    exact h before o' (after ++ [o]) (by simp [heq])
  · rintro ⟨h, ho⟩
    exact h.snoc ho

theorem append (h : Justified just trace) {out : List ο}
    (hout : ∀ o ∈ out, ∀ before, just before o) : Justified just (trace ++ out) := by
  induction out generalizing trace with
  | nil => simpa using h
  | cons o out ih =>
    rw [List.append_cons]
    exact ih (h.snoc (hout o (by simp) trace)) fun o' ho' => hout o' (by simp [ho'])

theorem getD (h : Justified just trace) {i : Nat} (hi : i < trace.length) (default : ο) :
    just (trace.take i) (trace.getD i default) := by
  refine h _ _ (trace.drop (i + 1)) ?_
  rw [List.getD_eq_getElem?_getD, List.getElem?_eq_getElem hi, Option.getD_some,
    List.getElem_cons_drop, List.take_append_drop]

end Justified

end Runs
