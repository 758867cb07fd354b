import WikoPlatform.Fingerprint.Effects

/-! The handlers that only tell a client something, count or store: the clients and the daemon stay
as they are. -/

namespace WikoPlatform.Fingerprint

open Runs Act

/-- The clients, the daemon and the group stay as they are. -/
structure Calm (s s' : Service) : Prop where
  currentClient : s'.currentClient = s.currentClient
  pendingClient : s'.pendingClient = s.pendingClient
  nextClient : s'.nextClient = s.nextClient
  daemon : s'.daemon = s.daemon
  currentUserId : s'.currentUserId = s.currentUserId

theorem Calm.refl (s : Service) : Calm s s := ⟨rfl, rfl, rfl, rfl, rfl⟩

theorem Calm.trans {s s₁ s₂ : Service} (h : Calm s s₁) (h' : Calm s₁ s₂) : Calm s s₂ where
  currentClient := h'.currentClient.trans h.currentClient
  pendingClient := h'.pendingClient.trans h.pendingClient
  nextClient := h'.nextClient.trans h.nextClient
  daemon := h'.daemon.trans h.daemon
  currentUserId := h'.currentUserId.trans h.currentUserId

def Output.isRecord : Output → Bool
  | .failedAttempt .. | .lockoutReset | .stored .. | .unstored .. | .counted .. => true
  | _ => false

def Output.isMild : Output → Bool
  | .callback .. => true
  | o => o.isRecord

/-- The handler is calm, and shows outputs in `P` only. -/
def Mild {α : Type} (P : Output → Bool) (handler : Handler α) : Prop :=
  ∀ s, Calm s (handler s).state ∧ ∀ o ∈ (handler s).trace, P o = true

namespace Mild

variable {α β : Type} {P Q : Output → Bool} {x : Handler α} {f : α → Handler β}

theorem pure (a : α) : Mild P (Pure.pure a : Handler α) := fun s => ⟨.refl s, by simp⟩

theorem throw : Mild P (Act.throw : Handler α) := fun s => ⟨.refl s, by simp⟩

theorem emit {o : Output} (h : P o = true) : Mild P (Act.emit o) :=
  fun s => ⟨.refl s, by simpa using h⟩

theorem modify {g : Service → Service} (h : ∀ s, Calm s (g s)) : Mild P (Act.modify g) :=
  fun s => ⟨h s, by simp⟩

theorem get_bind {f : Service → Handler β} (h : ∀ s, Mild P (f s)) : Mild P (Act.get >>= f) :=
  fun s => h s s

theorem bind (hx : Mild P x) (hf : ∀ a, Mild P (f a)) : Mild P (x >>= f) := by
  intro s
  cases hr : (x s).result with
  | none =>
    rw [bind_none hr]
    exact hx s
  | some a =>
    rw [bind_some hr]
    obtain ⟨hcalm, htrace⟩ := hf a (x s).state
    exact ⟨(hx s).1.trans hcalm, List.forall_mem_append.mpr ⟨(hx s).2, htrace⟩⟩

theorem ite {p : Prop} [Decidable p] {y : Handler α} (hx : Mild P x) (hy : Mild P y) :
    Mild P (if p then x else y) := by
  split
  exacts [hx, hy]

theorem mono (h : Mild P x) (hP : ∀ o, P o = true → Q o = true) : Mild Q x :=
  fun s => ⟨(h s).1, fun o ho => hP o ((h s).2 o ho)⟩

end Mild

theorem isMild_of_isRecord (o : Output) (h : o.isRecord = true) : o.isMild = true := by
  cases o <;> first | exact h | rfl

section

variable {w : World} {c : ClientMonitor} {origin : Option Nat} {fingerId groupId : Int}

theorem count_mild (counter : Counter) : Mild Output.isRecord (count counter) :=
  .get_bind fun s => by
    cases s.performanceStats with
    | none => exact .throw
    | some key => exact .emit rfl

theorem resetFailedAttempts_mild : Mild Output.isRecord resetFailedAttempts :=
  .bind (.modify fun _ => ⟨rfl, rfl, rfl, rfl, rfl⟩) fun _ => .emit rfl

theorem handleFailedAttempt_mild (origin : Option Nat) :
    Mild Output.isRecord (c.handleFailedAttempt origin) := by
  have hsched : ∀ s₁ : Service, Mild Output.isRecord
      (if s₁.inLockoutMode = true then
        (do modify fun s => { s with alarm := true }; pure true) else pure false : Handler Bool) :=
    fun s₁ => .ite (.bind (.modify fun _ => ⟨rfl, rfl, rfl, rfl, rfl⟩) fun _ => .pure _) (.pure _)
  refine .bind (.modify fun _ => ⟨rfl, rfl, rfl, rfl, rfl⟩) fun _ => .bind (.emit rfl) fun _ =>
    .get_bind fun s₁ => ?_
  by_cases hmax : s₁.failedAttempts = maxFailedAttempts
  · simp only [if_pos hmax]
    exact .bind (count_mild _) fun _ => hsched s₁
  · simp only [if_neg hmax]
    exact hsched s₁

theorem send_mild {callback : Callback} : Mild Output.isMild (c.send w callback origin) := by
  unfold ClientMonitor.send
  cases c.receiver with
  | none => exact .pure _
  | some receiver => exact .bind (.emit rfl) fun _ => .pure _

theorem send_eq (callback : Callback) (origin : Option Nat) (s : Service) :
    ∃ out heard, c.send w callback origin s = ⟨out, s, some heard⟩ ∧
      ∀ o ∈ out, ∃ receiver delivered,
        o = .callback c.id receiver c.halDeviceId callback delivered origin := by
  unfold ClientMonitor.send
  cases c.receiver with
  | none => exact ⟨[], false, rfl, List.forall_mem_nil _⟩
  | some receiver =>
    refine ⟨_, _, rfl, fun o ho => ?_⟩
    exact ⟨receiver, w.receives receiver callback, List.mem_singleton.mp ho⟩

theorem onAcquired_mild {acquiredInfo : Int} : Mild Output.isMild (c.onAcquired w acquiredInfo) :=
  .bind send_mild fun _ => .pure _

theorem onAuthenticated_mild :
    Mild Output.isMild (c.onAuthenticated w fingerId groupId origin) := by
  refine .ite ?_ ?_
  · exact .bind send_mild fun _ =>
      .bind (resetFailedAttempts_mild.mono isMild_of_isRecord) fun _ => .pure _
  · refine .bind send_mild fun heard => ?_
    refine .bind ((handleFailedAttempt_mild _).mono isMild_of_isRecord) fun locked => ?_
    have hend : Mild Output.isMild (do
        let _ ← c.send w (.onError errorLockout) origin
        pure (!heard || locked) : Handler Bool) :=
      .bind send_mild fun _ => .pure _
    exact .ite (.ite (.bind .throw fun _ => hend) hend) (.pure _)

theorem onEnrollResult_mild {remaining : Int} :
    Mild Output.isMild (c.onEnrollResult w fingerId groupId remaining origin) := by
  have hend : Mild Output.isMild (do
      let heard ← c.send w (.onEnrollResult fingerId groupId remaining) origin
      pure (!heard || remaining == 0) : Handler Bool) :=
    .bind send_mild fun _ => .pure _
  refine .ite (.ite ?_ hend) (.pure _)
  exact .bind (.modify fun _ => ⟨rfl, rfl, rfl, rfl, rfl⟩) fun _ => .bind (.emit rfl) fun _ => hend

theorem onRemoved_mild : Mild Output.isMild (c.onRemoved w fingerId) := by
  have hend : Mild Output.isMild (do
      let _ ← c.send w (.onRemoved fingerId c.groupId) none
      pure (fingerId == 0) : Handler Bool) :=
    .bind send_mild fun _ => .pure _
  exact .ite (.bind (.modify fun _ => ⟨rfl, rfl, rfl, rfl, rfl⟩) fun _ =>
    .bind (.emit rfl) fun _ => hend) hend

theorem onEnrollResult_last (hkind : c.kind.isEnroll = true) (fingerId groupId : Int)
    (origin : Option Nat) (s : Service) :
    ∃ out, c.onEnrollResult w fingerId groupId 0 origin s =
        ⟨.stored c.id c.targetUserId fingerId origin :: out,
          { s with fingerprints := s.fingerprints ++ [(c.targetUserId, fingerId)] }, some true⟩ ∧
      ∀ o ∈ out, ∃ receiver callback delivered,
        o = .callback c.id receiver c.halDeviceId callback delivered origin := by
  obtain ⟨out, heard, hsend, hout⟩ := send_eq
    (.onEnrollResult fingerId groupId 0) origin
    { s with fingerprints := s.fingerprints ++ [(c.targetUserId, fingerId)] }
  refine ⟨out, ?_, fun o ho => ?_⟩
  · simp only [ClientMonitor.onEnrollResult, hkind, if_true, modify_bind, emit_bind]
    rw [bind_of_eq hsend]
    simp
  · obtain ⟨receiver, delivered, heq⟩ := hout o ho
    exact ⟨receiver, _, delivered, heq⟩

theorem onRemoved_eq (fingerId : Int) (s : Service) :
    ∃ out, c.onRemoved w fingerId s = ⟨out, if fingerId ≠ 0 then
      { s with fingerprints := s.fingerprints.erase (c.targetUserId, fingerId) } else s,
      some (fingerId == 0)⟩ := by
  unfold ClientMonitor.onRemoved
  split
  · obtain ⟨out, heard, hsend, -⟩ := send_eq (c := c) (w := w) (.onRemoved fingerId c.groupId)
      none { s with fingerprints := s.fingerprints.erase (c.targetUserId, fingerId) }
    simp only [modify_bind, emit_bind, bind_of_eq hsend, pure_apply]
    exact ⟨_, rfl⟩
  · obtain ⟨out, heard, hsend, -⟩ := send_eq (c := c) (w := w) (.onRemoved fingerId c.groupId)
      none s
    simp only [bind_of_eq hsend, pure_apply]
    exact ⟨_, rfl⟩

end

end WikoPlatform.Fingerprint
