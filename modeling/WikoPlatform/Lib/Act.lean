import WikoPlatform.Lib.Runs

/-! Computations that read and write a state, leave a trace of outputs and may end in an exception
that nobody catches, with rules that cut such a computation into steps of a given relation. -/

namespace Runs

variable {σ ο α β : Type}

/-- What one computation leaves behind. There is no result after an uncaught exception. -/
structure Outcome (σ ο α : Type) where
  trace : List ο
  state : σ
  result : Option α

def Act (σ ο α : Type) : Type := σ → Outcome σ ο α

namespace Act

def get : Act σ ο σ := fun s => ⟨[], s, some s⟩

def modify (f : σ → σ) : Act σ ο Unit := fun s => ⟨[], f s, some ()⟩

def emit (o : ο) : Act σ ο Unit := fun s => ⟨[o], s, some ()⟩

def throw : Act σ ο α := fun s => ⟨[], s, none⟩

def silent (x : Act σ Empty α) : Act σ ο α := fun s => ⟨[], (x s).state, (x s).result⟩

instance : Monad (Act σ ο) where
  pure a := fun s => ⟨[], s, some a⟩
  bind x f := fun s =>
    match (x s).result with
    | none => ⟨(x s).trace, (x s).state, none⟩
    | some a =>
      ⟨(x s).trace ++ (f a (x s).state).trace, (f a (x s).state).state, (f a (x s).state).result⟩

@[simp] theorem pure_apply (a : α) (s : σ) : (pure a : Act σ ο α) s = ⟨[], s, some a⟩ := rfl

@[simp] theorem pure_bind_apply (a : α) (f : α → Act σ ο β) (s : σ) :
    ((pure a : Act σ ο α) >>= f) s = f a s := rfl

@[simp] theorem get_bind (f : σ → Act σ ο β) (s : σ) : (get >>= f) s = f s s := rfl

@[simp] theorem modify_bind (g : σ → σ) (f : Unit → Act σ ο β) (s : σ) :
    (modify g >>= f) s = f () (g s) := rfl

@[simp] theorem modify_apply (g : σ → σ) (s : σ) :
    (modify g : Act σ ο Unit) s = ⟨[], g s, some ()⟩ := rfl

@[simp] theorem emit_bind (o : ο) (f : Unit → Act σ ο β) (s : σ) :
    (emit o >>= f) s = ⟨o :: (f () s).trace, (f () s).state, (f () s).result⟩ := rfl

@[simp] theorem emit_apply (o : ο) (s : σ) : (emit o : Act σ ο Unit) s = ⟨[o], s, some ()⟩ := rfl

@[simp] theorem throw_apply (s : σ) : (throw : Act σ ο α) s = ⟨[], s, none⟩ := rfl

@[simp] theorem throw_bind (f : α → Act σ ο β) (s : σ) : (throw >>= f) s = ⟨[], s, none⟩ := rfl

variable {x : Act σ ο α} {f : α → Act σ ο β} {s s' : σ} {a : α} {out : List ο}

theorem bind_some (h : (x s).result = some a) :
    (x >>= f) s = ⟨(x s).trace ++ (f a (x s).state).trace, (f a (x s).state).state,
      (f a (x s).state).result⟩ := by
  change (match (x s).result with | none => _ | some a => _) = _
  rw [h]

theorem bind_none (h : (x s).result = none) : (x >>= f) s = ⟨(x s).trace, (x s).state, none⟩ := by
  change (match (x s).result with | none => _ | some a => _) = _
  rw [h]

theorem bind_of_eq (h : x s = ⟨out, s', some a⟩) :
    (x >>= f) s = ⟨out ++ (f a s').trace, (f a s').state, (f a s').result⟩ := by
  have hres : (x s).result = some a := by rw [h]
  rw [bind_some hres, h]

theorem bind_of_silent (h : x s = ⟨[], s', some a⟩) : (x >>= f) s = f a s' :=
  bind_of_eq h

theorem bind_eq {s'' : σ} {out' : List ο} {result : Option β} (hx : x s = ⟨out, s', some a⟩)
    (hf : f a s' = ⟨out', s'', result⟩) : (x >>= f) s = ⟨out ++ out', s'', result⟩ := by
  rw [bind_of_eq hx, hf]

theorem mem_trace_bind_left {o : ο} (h : o ∈ (x s).trace) : o ∈ ((x >>= f) s).trace := by
  cases hr : (x s).result with
  | none => rwa [bind_none hr]
  | some a =>
    rw [bind_some hr]
    exact List.mem_append_left _ h

end Act

inductive Steps (R : σ → List ο → σ → Prop) : σ → List ο → σ → Prop
  | refl (s : σ) : Steps R s [] s
  | head {s s₁ s₂ : σ} {out rest : List ο} :
      R s out s₁ → Steps R s₁ rest s₂ → Steps R s (out ++ rest) s₂

namespace Steps

variable {R : σ → List ο → σ → Prop} {s s₁ s₂ : σ} {out rest : List ο}

theorem single (h : R s out s₁) : Steps R s out s₁ := by
  simpa using head h (refl s₁)

theorem trans (h : Steps R s out s₁) (h' : Steps R s₁ rest s₂) : Steps R s (out ++ rest) s₂ := by
  induction h with
  | refl => exact h'
  | head hR _ ih =>
    rw [List.append_assoc]
    exact head hR (ih h')

theorem keeps {inv : List ο → σ → Prop}
    (hstep : ∀ trace s out s', inv trace s → R s out s' → inv (trace ++ out) s')
    (h : Steps R s out s₁) {trace : List ο} (hinv : inv trace s) : inv (trace ++ out) s₁ := by
  induction h generalizing trace with
  | refl => simpa using hinv
  | head hR _ ih =>
    rw [← List.append_assoc]
    exact ih (hstep _ _ _ _ hinv hR)

theorem keeps_state {P : σ → Prop} (hstep : ∀ s out s', P s → R s out s' → P s')
    (h : Steps R s out s₁) (hP : P s) : P s₁ := by
  induction h with
  | refl => exact hP
  | head hR _ ih => exact ih (hstep _ _ _ hP hR)

theorem forall_mem {P : ο → Prop} (hstep : ∀ s out s', R s out s' → ∀ o ∈ out, P o)
    (h : Steps R s out s₁) : ∀ o ∈ out, P o := by
  induction h with
  | refl => exact List.forall_mem_nil _
  | head hR _ ih => exact List.forall_mem_append.mpr ⟨hstep _ _ _ hR, ih⟩

end Steps

/-- From `P` it is steps of `R` in a row, and a result meets `Q`. -/
def Does (R : σ → List ο → σ → Prop) (P : σ → Prop) (x : Act σ ο α) (Q : α → σ → Prop) : Prop :=
  ∀ s, P s → Steps R s (x s).trace (x s).state ∧ ∀ a, (x s).result = some a → Q a (x s).state

namespace Does

variable {R : σ → List ο → σ → Prop} {P P' : σ → Prop} {Q Q' : α → σ → Prop} {S : β → σ → Prop}
  {x : Act σ ο α} {f : α → Act σ ο β}

theorem pure {a : α} (h : ∀ s, P s → Q a s) : Does R P (Pure.pure a) Q := by
  intro s hs
  refine ⟨.refl s, ?_⟩
  rintro _ ⟨⟩
  exact h s hs

theorem throw : Does R P (Act.throw : Act σ ο α) Q :=
  fun s _ => ⟨.refl s, by simp⟩

theorem bind (hx : Does R P x Q) (hf : ∀ a, Does R (Q a) (f a) S) : Does R P (x >>= f) S := by
  intro s hs
  obtain ⟨hsteps, hres⟩ := hx s hs
  cases hr : (x s).result with
  | none =>
    rw [Act.bind_none hr]
    exact ⟨hsteps, by simp⟩
  | some a =>
    rw [Act.bind_some hr]
    obtain ⟨hsteps', hres'⟩ := hf a (x s).state (hres a hr)
    exact ⟨hsteps.trans hsteps', hres'⟩

theorem get_bind {f : σ → Act σ ο β} (h : ∀ s, P s → Does R (· = s) (f s) S) :
    Does R P (Act.get >>= f) S :=
  fun s hs => h s hs s rfl

theorem pinned (h : ∀ s, P s → Does R (· = s) x Q) : Does R P x Q :=
  fun s hs => h s hs s rfl

theorem step (h : ∀ s, P s → R s (x s).trace (x s).state)
    (hQ : ∀ s, P s → ∀ a, (x s).result = some a → Q a (x s).state) : Does R P x Q :=
  fun s hs => ⟨.single (h s hs), hQ s hs⟩

theorem modify_emit_bind {I : σ → Prop} {g : σ → σ} {o : ο} {f : Unit → Act σ ο β}
    (h : ∀ s, P s → R s [o] (g s)) (hP : ∀ s, P s → I (g s)) (hf : Does R I (f ()) S) :
    Does R P (Act.modify g >>= fun _ => Act.emit o >>= f) S := by
  intro s hs
  obtain ⟨hsteps, hres⟩ := hf (g s) (hP s hs)
  have hall : Steps R s ([o] ++ (f () (g s)).trace) (f () (g s)).state := .head (h s hs) hsteps
  exact ⟨hall, hres⟩

theorem mono (h : Does R P x Q) (hP : ∀ s, P' s → P s) (hQ : ∀ a s, Q a s → Q' a s) :
    Does R P' x Q' :=
  fun s hs => ⟨(h s (hP s hs)).1, fun a ha => hQ _ _ ((h s (hP s hs)).2 a ha)⟩

theorem weaken (h : Does R P x Q) : Does R P x fun _ _ => True :=
  h.mono (fun _ hs => hs) fun _ _ _ => trivial

theorem done {a : α} : Does R P (Pure.pure a) fun _ _ => True := .pure fun _ _ => trivial

end Does

namespace Act

/-- It keeps an invariant of trace and state. -/
def Keeps (inv : List ο → σ → Prop) (x : Act σ ο α) : Prop :=
  ∀ trace s, inv trace s → inv (trace ++ (x s).trace) (x s).state

namespace Keeps

variable {inv : List ο → σ → Prop} {x y : Act σ ο α} {f : α → Act σ ο β}

theorem pure (a : α) : Keeps inv (Pure.pure a : Act σ ο α) :=
  fun _ _ h => by simpa using h

theorem throw : Keeps inv (Act.throw : Act σ ο α) :=
  fun _ _ h => by simpa using h

theorem emit {o : ο} (h : ∀ trace s, inv trace s → inv (trace ++ [o]) s) : Keeps inv (Act.emit o) :=
  h

theorem modify {g : σ → σ} (h : ∀ trace s, inv trace s → inv trace (g s)) :
    Keeps inv (Act.modify g) :=
  fun trace s hs => by simpa using h trace s hs

theorem get_bind {f : σ → Act σ ο β} (h : ∀ s, Keeps inv (f s)) : Keeps inv (Act.get >>= f) :=
  fun trace s hs => h s trace s hs

theorem bind (hx : Keeps inv x) (hf : ∀ a, Keeps inv (f a)) : Keeps inv (x >>= f) := by
  intro trace s hs
  cases hr : (x s).result with
  | none =>
    rw [bind_none hr]
    exact hx trace s hs
  | some a =>
    rw [bind_some hr, ← List.append_assoc]
    exact hf a _ _ (hx trace s hs)

theorem ite {p : Prop} [Decidable p] (hx : Keeps inv x) (hy : Keeps inv y) :
    Keeps inv (if p then x else y) := by
  split
  exacts [hx, hy]

end Keeps

/-- From `P` it ends in `Q`, or throws and leaves a state in `D`. -/
def Ends (P : σ → Prop) (x : Act σ ο α) (Q : α → σ → Prop) (D : σ → Prop) : Prop :=
  ∀ s, P s → (∀ a, (x s).result = some a → Q a (x s).state) ∧
    ((x s).result = none → D (x s).state)

namespace Ends

variable {P P' : σ → Prop} {Q Q' : α → σ → Prop} {S : β → σ → Prop} {D D' : σ → Prop}
  {x y : Act σ ο α} {f : α → Act σ ο β}

theorem pure {a : α} (h : ∀ s, P s → Q a s) : Ends P (Pure.pure a : Act σ ο α) Q D := by
  intro s hs
  refine ⟨?_, by simp⟩
  rintro _ ⟨⟩
  exact h s hs

theorem throw (h : ∀ s, P s → D s) : Ends P (Act.throw : Act σ ο α) Q D :=
  fun s hs => ⟨by simp, fun _ => h s hs⟩

theorem modify {g : σ → σ} {Q : Unit → σ → Prop} (h : ∀ s, P s → Q () (g s)) :
    Ends P (Act.modify g : Act σ ο Unit) Q D := by
  intro s hs
  refine ⟨?_, by simp⟩
  rintro ⟨⟩ -
  exact h s hs

theorem bind (hx : Ends P x Q D) (hf : ∀ a, Ends (Q a) (f a) S D) : Ends P (x >>= f) S D := by
  intro s hs
  obtain ⟨hres, hthrown⟩ := hx s hs
  cases hr : (x s).result with
  | none =>
    rw [bind_none hr]
    exact ⟨by simp, fun _ => hthrown hr⟩
  | some a =>
    rw [bind_some hr]
    exact hf a (x s).state (hres a hr)

theorem get_bind {f : σ → Act σ ο β} (h : ∀ s, P s → Ends (· = s) (f s) S D) :
    Ends P (Act.get >>= f) S D :=
  fun s hs => h s hs s rfl

theorem pinned (h : ∀ s, P s → Ends (· = s) x Q D) : Ends P x Q D :=
  fun s hs => h s hs s rfl

theorem ite {p : Prop} [Decidable p] (hx : p → Ends P x Q D) (hy : ¬p → Ends P y Q D) :
    Ends P (if p then x else y) Q D := by
  split
  · exact hx ‹_›
  · exact hy ‹_›

theorem mono (h : Ends P x Q D) (hP : ∀ s, P' s → P s) (hQ : ∀ a s, Q a s → Q' a s)
    (hD : ∀ s, D s → D' s) : Ends P' x Q' D' :=
  fun s hs => ⟨fun a ha => hQ _ _ ((h s (hP s hs)).1 a ha), fun hr => hD _ ((h s (hP s hs)).2 hr)⟩

end Ends

/-- Its outputs are all good exactly if `C`. -/
def Exact (good : ο → Prop) (s : σ) (x : Act σ ο α) (C : Prop) (Q : α → σ → Prop) : Prop :=
  ((∀ o ∈ (x s).trace, good o) ↔ C) ∧ (C → ∃ a, (x s).result = some a ∧ Q a (x s).state)

namespace Exact

variable {good : ο → Prop} {s : σ} {x : Act σ ο α} {f : α → Act σ ο β} {C C' : Prop}
  {Q : α → σ → Prop} {S : β → σ → Prop} {g : σ → σ}

theorem pure {a : α} (hC : C) (h : Q a s) : Exact good s (Pure.pure a : Act σ ο α) C Q :=
  ⟨by simp [hC], fun _ => ⟨a, rfl, h⟩⟩

theorem modify {Q : Unit → σ → Prop} (hC : C) (h : Q () (g s)) :
    Exact good s (Act.modify g : Act σ ο Unit) C Q :=
  ⟨by simp [hC], fun _ => ⟨(), rfl, h⟩⟩

theorem bind (hx : Exact good s x C Q) (hf : ∀ a s', C → Q a s' → Exact good s' (f a) C' S) :
    Exact good s (x >>= f) (C ∧ C') S := by
  obtain ⟨hiff, hends⟩ := hx
  by_cases hC : C
  · obtain ⟨a, hres, hQ⟩ := hends hC
    obtain ⟨hiff', hends'⟩ := hf a _ hC hQ
    rw [Exact, bind_some hres, List.forall_mem_append, hiff, hiff']
    exact ⟨Iff.rfl, fun h => hends' h.2⟩
  · refine ⟨iff_of_false (fun hall => hC (hiff.mp fun o ho => ?_)) fun h => hC h.1, ?_⟩
    · exact hall o (mem_trace_bind_left ho)
    · exact fun h => absurd h.1 hC

theorem bind_true (hx : Exact good s x True Q) (hf : ∀ a s', Q a s' → Exact good s' (f a) C S) :
    Exact good s (x >>= f) C S := by
  have h := hx.bind fun a s' _ hQ => hf a s' hQ
  rwa [true_and] at h

theorem get_bind {f : σ → Act σ ο β} (h : Exact good s (f s) C S) :
    Exact good s (Act.get >>= f) C S :=
  h

theorem modify_bind {f : Unit → Act σ ο β} (h : Exact good (g s) (f ()) C S) :
    Exact good s (Act.modify g >>= f) C S :=
  h

theorem congr (h : Exact good s x C Q) (hC : C ↔ C') : Exact good s x C' Q :=
  propext hC ▸ h

end Exact

/-- It ends in `Q` if its outputs are all fine, and in `B` if not. -/
def Splits (fine : ο → Prop) (s : σ) (x : Act σ ο α) (Q B : σ → Prop) : Prop :=
  (∃ a, (x s).result = some a) ∧
    ((∀ o ∈ (x s).trace, fine o) ∧ Q (x s).state ∨ (∃ o ∈ (x s).trace, ¬fine o) ∧ B (x s).state)

namespace Splits

variable {fine : ο → Prop} {s : σ} {x : Act σ ο α} {f : α → Act σ ο β} {Q B Q' B' : σ → Prop}
  {g : σ → σ} {o : ο}

theorem pure {a : α} (h : Q s) : Splits fine s (Pure.pure a : Act σ ο α) Q B :=
  ⟨⟨a, rfl⟩, .inl ⟨by simp, h⟩⟩

theorem modify (h : Q (g s)) : Splits fine s (Act.modify g : Act σ ο Unit) Q B :=
  ⟨⟨(), rfl⟩, .inl ⟨by simp, h⟩⟩

theorem get_bind {f : σ → Act σ ο β} (h : Splits fine s (f s) Q B) :
    Splits fine s (Act.get >>= f) Q B :=
  h

theorem modify_bind {f : Unit → Act σ ο β} (h : Splits fine (g s) (f ()) Q B) :
    Splits fine s (Act.modify g >>= f) Q B :=
  h

theorem emit_bind {f : Unit → Act σ ο β} (ho : fine o) (h : Splits fine s (f ()) Q B) :
    Splits fine s (Act.emit o >>= f) Q B := by
  refine ⟨h.1, ?_⟩
  rcases h.2 with ⟨hfine, hQ⟩ | ⟨⟨o', ho', hbad⟩, hB⟩
  · exact .inl ⟨List.forall_mem_cons.mpr ⟨ho, hfine⟩, hQ⟩
  · exact .inr ⟨⟨o', List.mem_cons_of_mem _ ho', hbad⟩, hB⟩

theorem emit_bind_bad {f : Unit → Act σ ο β} (ho : ¬fine o) (h : Splits fine s (f ()) B B) :
    Splits fine s (Act.emit o >>= f) Q B := by
  refine ⟨h.1, .inr ⟨⟨o, List.mem_cons_self, ho⟩, ?_⟩⟩
  rcases h.2 with ⟨-, hB⟩ | ⟨-, hB⟩
  · exact hB
  · exact hB

theorem bind (hx : Splits fine s x Q B) (hQ : ∀ a s', Q s' → Splits fine s' (f a) Q' B')
    (hB : ∀ a s', B s' → Splits fine s' (f a) B' B') : Splits fine s (x >>= f) Q' B' := by
  obtain ⟨⟨a, hres⟩, hx⟩ := hx
  rw [Splits, bind_some hres, List.forall_mem_append]
  rcases hx with ⟨hfine, hs⟩ | ⟨⟨o, ho, hbad⟩, hs⟩
  · obtain ⟨hends, hf⟩ := hQ a _ hs
    refine ⟨hends, ?_⟩
    rcases hf with ⟨hfine', hs'⟩ | ⟨⟨o, ho, hbad⟩, hs'⟩
    · exact .inl ⟨⟨hfine, hfine'⟩, hs'⟩
    · exact .inr ⟨⟨o, List.mem_append_right _ ho, hbad⟩, hs'⟩
  · obtain ⟨hends, hf⟩ := hB a _ hs
    refine ⟨hends, .inr ⟨⟨o, List.mem_append_left _ ho, hbad⟩, ?_⟩⟩
    rcases hf with ⟨-, hs'⟩ | ⟨-, hs'⟩
    · exact hs'
    · exact hs'

theorem ite {p : Prop} [Decidable p] {y : Act σ ο α} (hx : p → Splits fine s x Q B)
    (hy : ¬p → Splits fine s y Q B) : Splits fine s (if p then x else y) Q B := by
  split
  · exact hx ‹_›
  · exact hy ‹_›

end Splits

/-- From `s` the computation comes to `a` in `s'`, with good outputs of which `pick` picks out
`picked`. -/
structure Gives {π : Type} (good : ο → Prop) (pick : ο → Option π) (x : Act σ ο α) (s : σ)
    (picked : List π) (s' : σ) (a : α) : Prop where
  state : (x s).state = s'
  result : (x s).result = some a
  good : ∀ o ∈ (x s).trace, good o
  picked : (x s).trace.filterMap pick = picked

namespace Gives

variable {π : Type} {good : ο → Prop} {pick : ο → Option π} {x : Act σ ο α} {f : α → Act σ ο β}
  {s s' s'' : σ} {out out' : List π} {a : α} {b : β} {o : ο}

theorem pure (a : α) (s : σ) : Gives good pick (Pure.pure a : Act σ ο α) s [] s a :=
  ⟨rfl, rfl, by simp, rfl⟩

theorem modify (g : σ → σ) (s : σ) : Gives good pick (Act.modify g : Act σ ο Unit) s [] (g s) () :=
  ⟨rfl, rfl, by simp, rfl⟩

theorem bind (hx : Gives good pick x s out s' a) (hf : Gives good pick (f a) s' out' s'' b) :
    Gives good pick (x >>= f) s (out ++ out') s'' b := by
  obtain ⟨rfl, hres, hgood, rfl⟩ := hx
  obtain ⟨rfl, hres', hgood', rfl⟩ := hf
  have heq := bind_some (f := f) hres
  refine ⟨by rw [heq], by rw [heq, hres'], ?_, by rw [heq, List.filterMap_append]⟩
  rw [heq]
  exact List.forall_mem_append.mpr ⟨hgood, hgood'⟩

theorem seq (hx : Gives good pick x s [] s' a) (hf : Gives good pick (f a) s' out s'' b) :
    Gives good pick (x >>= f) s out s'' b :=
  hx.bind hf

theorem get_bind {f : σ → Act σ ο β} (h : Gives good pick (f s) s out s' b) :
    Gives good pick (Act.get >>= f) s out s' b :=
  ⟨h.state, h.result, h.good, h.picked⟩

theorem emit (ho : good o) (hpick : pick o = none) :
    Gives good pick (Act.emit o : Act σ ο Unit) s [] s () :=
  ⟨rfl, rfl, by simpa using ho, by simp [hpick]⟩

theorem emit_picked {p : π} (ho : good o) (hpick : pick o = some p) :
    Gives good pick (Act.emit o : Act σ ο Unit) s [p] s () :=
  ⟨rfl, rfl, by simpa using ho, by simp [hpick]⟩

theorem ite {p : Prop} [Decidable p] {y : Act σ ο α} {a' : α}
    (hx : p → Gives good pick x s out s' a) (hy : ¬p → Gives good pick y s out s' a') :
    Gives good pick (if p then x else y) s out s' (if p then a else a') := by
  split
  · exact hx ‹_›
  · exact hy ‹_›

theorem ite_picked {p : Prop} [Decidable p] {y : Act σ ο α} {a' : α}
    (hx : p → Gives good pick x s out s' a) (hy : ¬p → Gives good pick y s out' s' a') :
    Gives good pick (if p then x else y) s (if p then out else out') s' (if p then a else a') := by
  split
  · exact hx ‹_›
  · exact hy ‹_›

end Gives

end Act

end Runs
