import WikoPlatform.Lib.Runs

/-! The stretches of a trace between outputs that start a new one, and when a run keeps a property
of all of them. -/

namespace Runs

variable {σ ι ο : Type*}

section

variable (starts : ο → Bool)

/-- An output opens a stretch or goes to the newest one. -/
def extend (ts : List (List ο)) (o : ο) : List (List ο) :=
  if starts o then [] :: ts
  else
    match ts with
    | [] => []
    | t :: ts => (t ++ [o]) :: ts

/-- The stretches of a trace, the newest first. -/
def stretches (trace : List ο) : List (List ο) := trace.foldl (extend starts) []

variable {starts}

theorem stretches_append (a b : List ο) :
    stretches starts (a ++ b) = b.foldl (extend starts) (stretches starts a) :=
  List.foldl_append

theorem foldl_extend_inside {out : List ο} (h : ∀ o ∈ out, starts o = false) (t : List ο)
    (ts : List (List ο)) : out.foldl (extend starts) (t :: ts) = (t ++ out) :: ts := by
  induction out generalizing t with
  | nil => simp
  | cons o out ih =>
    obtain ⟨ho, hout⟩ := List.forall_mem_cons.mp h
    rw [List.foldl_cons, extend, if_neg (by simp [ho]), ih hout]
    simp

theorem forall_stretches_of_append {P : List ο → Prop} (hP : ∀ t o, P (t ++ [o]) → P t)
    {a b : List ο} (h : ∀ t ∈ stretches starts (a ++ b), P t) : ∀ t ∈ stretches starts a, P t := by
  rw [stretches_append] at h
  generalize stretches starts a = ts at h ⊢
  induction b generalizing ts with
  | nil => exact h
  | cons o b ih =>
    have hnext := ih (extend starts ts o) h
    unfold extend at hnext
    split_ifs at hnext
    · exact (List.forall_mem_cons.mp hnext).2
    · cases ts with
      | nil => exact List.forall_mem_nil _
      | cons t ts =>
        obtain ⟨hfirst, hrest⟩ := List.forall_mem_cons.mp hnext
        exact List.forall_mem_cons.mpr ⟨hP t o hfirst, hrest⟩

end

/-- A property that is lost for ever, step by step. -/
theorem run_iff_meets {step : σ → ι → List ο × σ} {P : List ο → Prop}
    {inv : List ο → σ → Prop} {ok : σ → ι → Prop} (hP : ∀ a b, P (a ++ b) → P a)
    (hstep : ∀ trace s i, inv trace s → P trace → (P (trace ++ (step s i).1) ↔ ok s i) ∧
        (ok s i → inv (trace ++ (step s i).1) (step s i).2))
    {trace : List ο} {s : σ} (inputs : List ι) (hinv : inv trace s) (htrace : P trace) :
    P (trace ++ (run step s inputs).1) ↔ Meets step ok s inputs := by
  induction inputs generalizing trace s with
  | nil => simpa [run, Meets] using htrace
  | cons i inputs ih =>
    obtain ⟨hkeeps, hnext⟩ := hstep trace s i hinv htrace
    rw [run, ← List.append_assoc]
    constructor
    · intro h
      have hfirst := hP _ _ h
      have hok := hkeeps.mp hfirst
      exact ⟨hok, (ih (hnext hok) hfirst).mp h⟩
    · rintro ⟨hok, hrest⟩
      exact (ih (hnext hok) (hkeeps.mpr hok)).mpr hrest

end Runs
