import Mathlib.Data.List.Nodup

/-! A ledger of resources: what is held at each moment, and when every release is of something held
and nothing is left over. -/

namespace Ledger

variable {δ : Type*} [DecidableEq δ]

/-- A resource is obtained, or released by a name that may be no name at all; or a stage is over, at
which only `keep` may still be held. -/
inductive Event (δ : Type*) where
  | got (d : δ)
  | closed (d : Option δ)
  | over (keep : List δ)
  deriving DecidableEq

def book (held : List δ) : Event δ → List δ
  | .got d => d :: held
  | .closed (some d) => held.filter (· ≠ d)
  | .closed none | .over _ => held

def ledger (held : List δ) (events : List (Event δ)) : List δ := events.foldl book held

/-- Only what is held is released, and nothing is left at the end. -/
def Event.Sound (held : List δ) : Event δ → Prop
  | .got _ => True
  | .closed d => ∃ x ∈ held, d = some x
  | .over keep => ∀ d ∈ held, d ∈ keep

def Event.Fresh (held : List δ) : Event δ → Prop
  | .got d => d ∉ held
  | .closed _ | .over _ => True

instance (held : List δ) : (e : Event δ) → Decidable (e.Sound held)
  | .got _ => .isTrue trivial
  | .closed d => inferInstanceAs (Decidable (∃ x ∈ held, d = some x))
  | .over keep => inferInstanceAs (Decidable (∀ d ∈ held, d ∈ keep))

instance (held : List δ) : (e : Event δ) → Decidable (e.Fresh held)
  | .got d => inferInstanceAs (Decidable (d ∉ held))
  | .closed _ | .over _ => .isTrue trivial

/-- Every event meets `P` with what is held before it. -/
def Holds (P : List δ → Event δ → Prop) : List δ → List (Event δ) → Prop
  | _, [] => True
  | held, e :: events => P held e ∧ Holds P (book held e) events

instance Holds.decidable (P : List δ → Event δ → Prop) [∀ held e, Decidable (P held e)] :
    ∀ held events, Decidable (Holds P held events)
  | _, [] => .isTrue trivial
  | held, e :: events =>
    have := Holds.decidable P (book held e) events
    inferInstanceAs (Decidable (P held e ∧ Holds P (book held e) events))

variable {P : List δ → Event δ → Prop} {held ds : List δ} {d : δ} {events : List (Event δ)}

theorem holds_append (a b : List (Event δ)) :
    Holds P held (a ++ b) ↔ Holds P held a ∧ Holds P (ledger held a) b := by
  induction a generalizing held with
  | nil => simp [Holds, ledger]
  | cons e a ih => simp [Holds, ledger, ih, and_assoc]

theorem ledger_append (held : List δ) (a b : List (Event δ)) :
    ledger held (a ++ b) = ledger (ledger held a) b := List.foldl_append

def got (ds : List δ) : List (Event δ) := ds.map .got

def closed (ds : List δ) : List (Event δ) := ds.map fun d => .closed (some d)

theorem holds_sound_got (held ds : List δ) : Holds Event.Sound held (got ds) := by
  induction ds generalizing held with
  | nil => trivial
  | cons d ds ih => exact ⟨trivial, ih _⟩

theorem ledger_got (held ds : List δ) : ledger held (got ds) = ds.reverse ++ held := by
  induction ds generalizing held with
  | nil => rfl
  | cons d ds ih =>
    change ledger (d :: held) (got ds) = _
    simp [ih]

theorem holds_fresh_got : Holds Event.Fresh held (got ds) ↔ ds.Nodup ∧ ∀ d ∈ ds, d ∉ held := by
  induction ds generalizing held with
  | nil => simp [got, Holds]
  | cons d ds ih =>
    change (d ∉ held ∧ Holds Event.Fresh (d :: held) (got ds)) ↔ _
    rw [ih, List.nodup_cons, List.forall_mem_cons]
    constructor
    · rintro ⟨hd, hnodup, hds⟩
      refine ⟨⟨fun hmem => hds d hmem (by simp), hnodup⟩, hd, fun x hx => ?_⟩
      exact fun hheld => hds x hx (List.mem_cons_of_mem _ hheld)
    · rintro ⟨⟨hd, hnodup⟩, hheld, hds⟩
      refine ⟨hheld, hnodup, fun x hx => ?_⟩
      rw [List.mem_cons, not_or]
      exact ⟨fun heq => hd (heq ▸ hx), hds x hx⟩

theorem ledger_closed (held ds : List δ) : ledger held (closed ds) = held.filter (· ∉ ds) := by
  induction ds generalizing held with
  | nil => simp [closed, ledger]
  | cons d ds ih =>
    change ledger (held.filter (· ≠ d)) (closed ds) = _
    rw [ih, List.filter_filter]
    exact List.filter_congr fun x _ => by simp [Bool.and_comm]

theorem holds_sound_closed :
    Holds Event.Sound held (closed ds) ↔ ds.Nodup ∧ ∀ d ∈ ds, d ∈ held := by
  induction ds generalizing held with
  | nil => simp [closed, Holds]
  | cons d ds ih =>
    change ((∃ x ∈ held, some d = some x) ∧ Holds Event.Sound (held.filter (· ≠ d)) (closed ds)) ↔ _
    rw [ih, List.nodup_cons, List.forall_mem_cons]
    simp only [Option.some.injEq, exists_eq_right', List.mem_filter, decide_eq_true_eq]
    constructor
    · rintro ⟨hd, hnodup, hds⟩
      exact ⟨⟨fun hmem => (hds d hmem).2 rfl, hnodup⟩, hd, fun x hx => (hds x hx).1⟩
    · rintro ⟨⟨hd, hnodup⟩, hheld, hds⟩
      exact ⟨hheld, hnodup, fun x hx => ⟨hds x hx, fun heq => hd (heq ▸ hx)⟩⟩

theorem closed_settles (hnodup : ds.Nodup) (hnew : ∀ d ∈ ds, d ∉ held) :
    Holds Event.Sound (ds.reverse ++ held) (closed ds) ∧
      ledger (ds.reverse ++ held) (closed ds) = held := by
  rw [holds_sound_closed, ledger_closed, List.filter_append,
    List.filter_eq_nil_iff.mpr (by simp)]
  refine ⟨⟨hnodup, fun d hd => by simp [hd]⟩, ?_⟩
  exact List.filter_eq_self.mpr fun d hd => by simpa using fun hmem => hnew d hmem hd

theorem got_closed_settles (hfresh : Holds Event.Fresh held (got ds)) :
    Holds Event.Sound held (got ds ++ closed ds) ∧ ledger held (got ds ++ closed ds) = held := by
  obtain ⟨hnodup, hnew⟩ := holds_fresh_got.mp hfresh
  obtain ⟨hsound, hleft⟩ := closed_settles hnodup hnew
  rw [holds_append, ledger_append, ledger_got]
  exact ⟨⟨holds_sound_got _ _, hsound⟩, hleft⟩

theorem not_sound_of_none (h : Event.closed none ∈ events) : ¬Holds Event.Sound held events := by
  induction events generalizing held with
  | nil => cases h
  | cons e events ih =>
    rintro ⟨hsound, hrest⟩
    rcases List.mem_cons.mp h with rfl | hmem
    · obtain ⟨x, -, hx⟩ := hsound
      cases hx
    · exact ih hmem hrest

end Ledger
