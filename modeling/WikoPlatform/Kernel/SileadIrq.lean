import WikoPlatform.Lib.Act

/-! The interrupt of the Silead driver for MTK. Its handler disables the line and clears
`irq_enabled` and `irq_counter` without the lock of the ioctls, between any two of their statements.
-/

namespace WikoPlatform.Kernel.Slspi

open Runs
open Act (Splits)

/-- What the kernel knows of the line is whether it is held, and how often it is disabled. -/
structure Driver where
  chipPowerOff : Bool
  irqRequested : Bool
  irqEnabled : Bool
  irqCounter : Nat
  held : Bool
  depth : Nat
  deriving DecidableEq

def Driver.lineEnabled (s : Driver) : Bool := s.held && s.depth == 0

/-- Between `request_irq` and `disable_irq`, between `enable_irq` and `irq_enabled = 1`, between the
test of the disable path and its `disable_irq`, or elsewhere. -/
inductive Place where
  | requested
  | enabled
  | disabling
  | elsewhere
  deriving DecidableEq

/-- A run of the handler that has an effect; a call of `enable_irq`, with the line held or not. -/
inductive Deed where
  | handled (place : Place)
  | enableIrq (held : Bool)
  deriving DecidableEq

def Driver.handled (s : Driver) : Driver :=
  { s with depth := s.depth + 1, irqCounter := 0, irqEnabled := false }

def spidevIrqRouting (place : Place) : Act Driver Deed Unit := do
  let s ← Act.get
  if s.chipPowerOff then pure ()
  else do
    Act.emit (.handled place)
    Act.modify Driver.handled

def gap (place : Place) (irq : Bool) : Act Driver Deed Unit := do
  let s ← Act.get
  if irq && s.lineEnabled then spidevIrqRouting place else pure ()

/-- In which gaps there is an interrupt, and what `request_irq` answers. -/
structure Placement where
  request : Nat → Bool
  path : Nat → Bool
  err : Int

def sileadRequestIrq (p : Placement) : Act Driver Deed Int := do
  let s ← Act.get
  if s.irqRequested then pure 0
  else do
    gap .elsewhere (p.request 0)
    Act.modify fun s => { s with irqRequested := true }
    gap .elsewhere (p.request 1)
    Act.modify fun s => { s with irqEnabled := false }
    gap .elsewhere (p.request 2)
    Act.modify fun s => { s with irqCounter := 0 }
    gap .elsewhere (p.request 3)
    if p.err ≠ 0 then do
      Act.modify fun s => { s with irqRequested := false }
      pure (-1)
    else do
      -- `request_irq` leaves the line enabled.
      Act.modify fun s => { s with held := true, depth := 0 }
      gap .requested (p.request 4)
      -- `enable_irq_wake`
      gap .requested (p.request 5)
      Act.modify fun s => { s with depth := s.depth + 1 }
      pure 0

def enableLocked (p : Placement) : Act Driver Deed Unit := do
  let s ← Act.get
  if s.irqEnabled = false ∧ s.irqCounter = 0 then do
    gap .elsewhere (p.path 3)
    Act.modify fun s => { s with irqCounter := 1 }
    gap .elsewhere (p.path 4)
    let s ← Act.get
    Act.emit (.enableIrq s.held)
    Act.modify fun s => { s with depth := s.depth - 1 }
    gap .enabled (p.path 5)
    Act.modify fun s => { s with irqEnabled := true }
    -- The delay of `g_irq_svc_debounce`.
    gap .elsewhere (p.path 6)
  else pure ()

/-- The result of `silead_request_irq` is not looked at. -/
def sileadIrqEnable (p : Placement) : Act Driver Deed Unit := do
  gap .elsewhere (p.path 0)
  let s ← Act.get
  if s.irqRequested = false then do
    let _ ← sileadRequestIrq p
    locked
  else locked
where
  locked : Act Driver Deed Unit := do
    gap .elsewhere (p.path 1)
    -- `spin_lock_irqsave`
    gap .elsewhere (p.path 2)
    enableLocked p
    gap .elsewhere (p.path 7)

def disableLocked (p : Placement) : Act Driver Deed Unit := do
  let s ← Act.get
  if s.irqEnabled = true ∧ 0 < s.irqCounter then do
    gap .disabling (p.path 3)
    Act.modify fun s => { s with irqCounter := 0 }
    gap .disabling (p.path 4)
    Act.modify fun s => { s with depth := s.depth + 1 }
    gap .elsewhere (p.path 5)
    Act.modify fun s => { s with irqEnabled := false }
    gap .elsewhere (p.path 6)
  else pure ()

def sileadIrqDisable (p : Placement) : Act Driver Deed Unit := do
  gap .elsewhere (p.path 0)
  let s ← Act.get
  if s.irqRequested = false then pure ()
  else do
    gap .elsewhere (p.path 1)
    -- `spin_lock_irqsave`
    gap .elsewhere (p.path 2)
    disableLocked p
    gap .elsewhere (p.path 7)

inductive Cmd where
  | hwReset
  | hwShutdown
  | irqEnable (arg : Bool)
  | irqRequest
  | other

def spidevIoctl (cmd : Cmd) (p : Placement) : Act Driver Deed Unit :=
  match cmd with
  | .hwReset => Act.modify fun s => { s with chipPowerOff := false }
  | .hwShutdown => do
    Act.modify fun s => { s with chipPowerOff := true }
    sileadIrqEnable p
  | .irqEnable true => sileadIrqEnable p
  | .irqEnable false => sileadIrqDisable p
  | .irqRequest => do
    let _ ← sileadRequestIrq p
    pure ()
  | .other => pure ()

inductive Event where
  | ioctl (cmd : Cmd) (p : Placement)
  | irq

def Event.act : Event → Act Driver Deed Unit
  | .ioctl cmd p => spidevIoctl cmd p
  | .irq => gap .elsewhere true

inductive Output where
  | deed (d : Deed)
  -- No code of the driver runs.
  | idle (s : Driver)
  deriving DecidableEq

def step (s : Driver) (e : Event) : List Output × Driver :=
  ((e.act s).trace.map .deed ++ [.idle (e.act s).state], (e.act s).state)

def start : Driver := ⟨false, false, false, 0, false, 1⟩

def quiet : Placement := ⟨fun _ => false, fun _ => false, 0⟩

/-- `irq_enabled` is 1 exactly if the line is enabled and `irq_counter` is 1; and an undisturbed
enable leaves the line enabled. -/
structure Driver.Sound (s : Driver) : Prop where
  flags : s.irqEnabled = true ↔ s.lineEnabled = true ∧ s.irqCounter = 1
  reenables : (sileadIrqEnable quiet s).state.lineEnabled = true

def Output.Sound : Output → Prop
  | .deed _ => True
  | .idle s => s.Sound

/-- The handler runs in no bad gap, and only a held line is enabled. -/
def Deed.Placed : Deed → Prop
  | .handled place => place = .elsewhere
  | .enableIrq held => held = true

def Output.Placed : Output → Prop
  | .deed d => d.Placed
  | .idle _ => True

def unrequested (off : Bool) : Driver := ⟨off, false, false, 0, false, 1⟩
def disabled (off : Bool) : Driver := ⟨off, true, false, 0, true, 1⟩
def enabled (off : Bool) : Driver := ⟨off, true, true, 1, true, 0⟩

/-- The states between ioctls. -/
inductive Idle : Driver → Prop
  | unrequested (off : Bool) : Idle (unrequested off)
  | disabled (off : Bool) : Idle (disabled off)
  | enabled (off : Bool) : Idle (enabled off)

def twice (off : Bool) : Driver := ⟨off, true, false, 0, true, 2⟩

inductive Broken : Driver → Prop
  | twice (off : Bool) : Broken (twice off)
  | deaf (off : Bool) : Broken ⟨off, true, true, 0, true, 1⟩
  | late (off : Bool) : Broken ⟨off, true, true, 1, true, 1⟩
  | unheld (off : Bool) : Broken ⟨off, false, true, 1, false, 0⟩

variable {s : Driver} {α : Type} {place : Place} {irq : Bool} {Q B : Driver → Prop}
  {f : Unit → Act Driver Deed α}

theorem Idle.sound (h : Idle s) : s.Sound := by
  cases h with
  | unrequested off | disabled off | enabled off => cases off <;> exact ⟨by decide, by decide⟩

theorem Broken.not_sound (h : Broken s) : ¬s.Sound := by
  rintro ⟨hflags, hreenables⟩
  cases h with
  | twice off => cases off <;> exact absurd hreenables (by decide)
  | deaf off | late off | unheld off => cases off <;> exact absurd hflags (by decide)

theorem Broken.lineEnabled (h : Broken s) : s.lineEnabled = false := by
  cases h <;> rfl

theorem gap_splits (hQ : Q s) (hplace : place = .elsewhere → Q s.handled)
    (hbad : place ≠ .elsewhere → B s.handled) : Splits Deed.Placed s (gap place irq) Q B := by
  apply Splits.get_bind
  refine Splits.ite (fun _ => ?_) fun _ => Splits.pure hQ
  apply Splits.get_bind
  refine .ite (fun _ => .pure hQ) fun _ => ?_
  by_cases helse : place = .elsewhere
  · exact .emit_bind helse (.modify (hplace helse))
  · exact .emit_bind_bad helse (.modify (hbad helse))

theorem gap_still (h : s.lineEnabled = false) (hQ : Q s) :
    Splits Deed.Placed s (gap place irq) Q B := by
  apply Splits.get_bind
  rw [h, Bool.and_false]
  exact Splits.pure hQ

theorem gap_still_bind (h : s.lineEnabled = false) (hf : Splits Deed.Placed s (f ()) Q B) :
    Splits Deed.Placed s (gap place irq >>= f) Q B := by
  refine .bind (B := fun _ => False) (gap_still h rfl) ?_ ?_
  · rintro - _ rfl
    exact hf
  · exact fun _ _ hfalse => hfalse.elim

theorem gap_idle (h : Idle s) : Splits Deed.Placed s (gap .elsewhere irq) Idle B := by
  cases h with
  | unrequested off => exact gap_still rfl (.unrequested off)
  | disabled off => exact gap_still rfl (.disabled off)
  | enabled off => exact gap_splits (.enabled off) (fun _ => .disabled off) (absurd rfl)

theorem gap_idle_bind (h : Idle s) (hf : ∀ s', Idle s' → Splits Deed.Placed s' (f ()) Q B) :
    Splits Deed.Placed s (gap .elsewhere irq >>= f) Q B :=
  .bind (B := fun _ => False) (gap_idle h) (fun _ s' hs' => hf s' hs')
    fun _ _ hfalse => hfalse.elim

theorem gap_broken (h : Broken s) : Splits Deed.Placed s (gap place irq) Broken Broken :=
  gap_still h.lineEnabled h

theorem request_splits (h : Idle s) (p : Placement) :
    Splits Deed.Placed s (sileadRequestIrq p) Idle fun s' => ∃ off, s' = twice off := by
  apply Splits.get_bind
  cases h with
  | disabled off => exact Splits.pure (.disabled off)
  | enabled off => exact .pure (.enabled off)
  | unrequested off =>
    refine gap_still_bind rfl (.modify_bind ?_)
    refine gap_still_bind rfl (.modify_bind ?_)
    refine gap_still_bind rfl (.modify_bind ?_)
    refine gap_still_bind rfl (.ite (fun _ => ?_) fun _ => ?_)
    · exact Splits.modify_bind (Splits.pure (.unrequested off))
    · apply Splits.modify_bind
      refine Splits.bind
        (gap_splits rfl (by simp) fun _ => rfl) ?_ ?_
      · rintro - _ rfl
        refine .bind (gap_splits rfl (by simp) fun _ => rfl) ?_ ?_
        · rintro - _ rfl
          exact .modify_bind (.pure (.disabled off))
        · rintro - _ rfl
          exact .modify_bind (.pure ⟨off, rfl⟩)
      · rintro - _ rfl
        exact gap_still_bind rfl (.modify_bind (.pure ⟨off, rfl⟩))

theorem enableLocked_splits (h : Idle s) (p : Placement) :
    Splits Deed.Placed s (enableLocked p) Idle Broken := by
  apply Splits.get_bind
  cases h with
  | enabled off => exact Splits.pure (.enabled off)
  | unrequested off =>
    refine gap_still_bind rfl (.modify_bind ?_)
    refine gap_still_bind rfl (.get_bind ?_)
    refine .emit_bind_bad (by simp [Deed.Placed, unrequested]) (.modify_bind ?_)
    refine gap_still_bind rfl (.modify_bind ?_)
    exact gap_still rfl (.unheld off)
  | disabled off =>
    refine gap_still_bind rfl (.modify_bind ?_)
    refine gap_still_bind rfl (.get_bind ?_)
    refine .emit_bind rfl (.modify_bind ?_)
    refine .bind
      (gap_splits rfl (by simp) fun _ => rfl) ?_ ?_
    · rintro - _ rfl
      exact .modify_bind (gap_idle (.enabled off))
    · rintro - _ rfl
      exact .modify_bind (gap_broken (.deaf off))

theorem enableLocked_twice (off : Bool) (p : Placement) :
    Splits Deed.Placed (twice off) (enableLocked p) Broken Broken := by
  apply Splits.get_bind
  refine gap_still_bind rfl (Splits.modify_bind ?_)
  refine gap_still_bind rfl (.get_bind ?_)
  refine .emit_bind rfl (.modify_bind ?_)
  exact gap_still_bind rfl (.modify_bind (gap_broken (.late off)))

theorem locked_splits (h : Idle s) (p : Placement) :
    Splits Deed.Placed s (sileadIrqEnable.locked p) Idle Broken := by
  refine gap_idle_bind h fun s₁ h₁ => gap_idle_bind h₁ fun s₂ h₂ => ?_
  exact (enableLocked_splits h₂ p).bind (fun _ _ h₃ => gap_idle h₃) fun _ _ h₃ => gap_broken h₃

theorem locked_twice (off : Bool) (p : Placement) :
    Splits Deed.Placed (twice off) (sileadIrqEnable.locked p) Broken Broken := by
  refine gap_still_bind rfl (gap_still_bind rfl ?_)
  exact (enableLocked_twice off p).bind (fun _ _ h => gap_broken h) fun _ _ h => gap_broken h

theorem irqEnable_splits (h : Idle s) (p : Placement) :
    Splits Deed.Placed s (sileadIrqEnable p) Idle Broken := by
  refine gap_idle_bind h fun s' h' => .get_bind ?_
  refine .ite (fun _ => ?_) fun _ => locked_splits h' p
  refine (request_splits h' p).bind (fun _ _ h'' => locked_splits h'' p) ?_
  rintro - _ ⟨off, rfl⟩
  exact locked_twice off p

theorem disableLocked_splits (h : Idle s) (p : Placement) :
    Splits Deed.Placed s (disableLocked p) Idle Broken := by
  apply Splits.get_bind
  cases h with
  | unrequested off => exact Splits.pure (.unrequested off)
  | disabled off => exact .pure (.disabled off)
  | enabled off =>
    refine .bind
      (gap_splits rfl (by simp) fun _ => rfl) ?_ ?_
    · rintro - _ rfl
      apply Splits.modify_bind
      refine Splits.bind
        (gap_splits rfl (by simp) fun _ => rfl) ?_ ?_
      · rintro - _ rfl
        refine .modify_bind (gap_still_bind rfl (.modify_bind ?_))
        exact gap_idle (.disabled off)
      · rintro - _ rfl
        refine .modify_bind (gap_still_bind rfl (.modify_bind ?_))
        exact gap_broken (.twice off)
    · rintro - _ rfl
      refine .modify_bind (gap_still_bind rfl (.modify_bind ?_))
      refine gap_still_bind rfl (.modify_bind ?_)
      exact gap_broken (.twice off)

theorem irqDisable_splits (h : Idle s) (p : Placement) :
    Splits Deed.Placed s (sileadIrqDisable p) Idle Broken := by
  refine gap_idle_bind h fun s₁ h₁ => .get_bind ?_
  refine .ite (fun _ => .pure h₁) fun _ => ?_
  refine gap_idle_bind h₁ fun s₂ h₂ => gap_idle_bind h₂ fun s₃ h₃ => ?_
  exact (disableLocked_splits h₃ p).bind (fun _ _ h₄ => gap_idle h₄) fun _ _ h₄ => gap_broken h₄

theorem Idle.chipPowerOff (h : Idle s) (off : Bool) : Idle { s with chipPowerOff := off } := by
  cases h with
  | unrequested => exact .unrequested off
  | disabled => exact .disabled off
  | enabled => exact .enabled off

theorem act_splits (h : Idle s) (e : Event) : Splits Deed.Placed s e.act Idle Broken := by
  cases e with
  | irq => exact gap_idle h
  | ioctl cmd p =>
    cases cmd with
    | hwReset => exact .modify (h.chipPowerOff false)
    | hwShutdown => exact .modify_bind (irqEnable_splits (h.chipPowerOff true) p)
    | irqEnable arg =>
      cases arg with
      | true => exact irqEnable_splits h p
      | false => exact irqDisable_splits h p
    | irqRequest =>
      refine (request_splits h p).bind (fun _ _ h' => .pure h') ?_
      rintro - _ ⟨off, rfl⟩
      exact .pure (.twice off)
    | other => exact .pure h

theorem step_sound_iff (h : Idle s) (e : Event) :
    (∀ o ∈ (step s e).1, o.Sound) ↔ ∀ o ∈ (step s e).1, o.Placed := by
  have hsound : (∀ o ∈ (step s e).1, o.Sound) ↔ (e.act s).state.Sound := by
    simp [step, Output.Sound, or_imp, forall_and]
  have hplace : (∀ o ∈ (step s e).1, o.Placed) ↔ ∀ d ∈ (e.act s).trace, d.Placed := by
    simp [step, Output.Placed, or_imp, forall_and]
  rw [hsound, hplace]
  rcases (act_splits h e).2 with ⟨hfine, hidle⟩ | ⟨⟨d, hd, hbad⟩, hbroken⟩
  · exact iff_of_true hidle.sound hfine
  · exact iff_of_false hbroken.not_sound fun hall => hbad (hall d hd)

theorem step_idle (h : Idle s) {e : Event} (hplace : ∀ o ∈ (step s e).1, o.Placed) :
    Idle (step s e).2 := by
  rcases (act_splits h e).2 with ⟨-, hidle⟩ | ⟨⟨d, hd, hbad⟩, -⟩
  · exact hidle
  · exact absurd (hplace (.deed d) (List.mem_append_left _ (List.mem_map_of_mem hd))) hbad

theorem resting_sound_iff (events : List Event) :
    (∀ o ∈ (run step start events).1, o.Sound) ↔ ∀ o ∈ (run step start events).1, o.Placed := by
  have hstart : Idle start := .unrequested false
  rw [forall_run_iff_meets_of_inv (fun s e (h : Idle s) => step_sound_iff h e)
    (fun s _ (h : Idle s) hplace => step_idle h hplace) hstart events]
  exact (forall_run_iff_meets (fun _ _ => Iff.rfl) start events).symm

def during (gaps : List Nat) : Placement := ⟨fun _ => false, (· ∈ gaps), 0⟩

theorem resting_not_sound :
    (run step start [.ioctl (.irqEnable true) (during [5]), .ioctl (.irqEnable true) quiet,
        .ioctl (.irqEnable false) quiet, .ioctl (.irqEnable true) quiet]).2 =
      ⟨false, true, true, 0, true, 1⟩ ∧
    (run step start [.ioctl (.irqEnable true) quiet, .ioctl (.irqEnable false) (during [3]),
        .ioctl (.irqEnable true) quiet]).2 = ⟨false, true, true, 1, true, 1⟩ ∧
    (run step start [.ioctl .irqRequest ⟨fun _ => true, fun _ => false, 0⟩,
        .ioctl (.irqEnable true) quiet]).2 = ⟨false, true, true, 1, true, 1⟩ ∧
    (run step start [.ioctl (.irqEnable true) ⟨fun _ => false, fun _ => false, -16⟩]).2 =
      ⟨false, false, true, 1, false, 0⟩ ∧ ¬∀ events, ∀ o ∈ (run step start events).1, o.Sound := by
  refine ⟨by decide, by decide, by decide, by decide, ?_⟩
  intro h
  have hsound := h [.ioctl (.irqEnable true) (during [5])] (.idle ⟨false, true, true, 0, true, 1⟩)
    (by decide)
  exact Broken.not_sound (.deaf false) hsound

end WikoPlatform.Kernel.Slspi
