import WikoPlatform.Fingerprint.Turn

/-! The client that waits and the reset that will start it, which come and go together. -/

namespace WikoPlatform.Fingerprint

open Runs Act

/-- `mResetClientState` is delayed or posted. -/
def System.resetQueued (y : System) : Bool :=
  y.timer.isSome || y.queue.any (·.runnable.isResetClientState)

def System.resets (y : System) : Bool × Nat :=
  (y.timer.isSome, y.queue.countP (·.runnable.isResetClientState))

def obeyArming (resets : Bool × Nat) : Output → Bool × Nat
  | .armReset _ => (true, resets.2)
  | .disarmReset => (false, 0)
  | .post (.resetClientState _) => (resets.1, resets.2 + 1)
  | _ => resets

theorem obey_resets (unprivileged : Bool) (y : System) (o : Output) :
    (y.obey unprivileged o).resets = obeyArming y.resets o := by
  cases o with
  | post runnable =>
    cases runnable <;> simp [System.obey, System.resets, obeyArming, Runnable.isResetClientState]
  | armReset => rfl
  | disarmReset =>
    simp only [System.obey, System.resets, obeyArming, Option.isSome_none, Prod.mk.injEq, true_and]
    refine List.countP_eq_zero.mpr fun posted hpost => ?_
    simpa using (List.mem_filter.mp hpost).2
  | _ => rfl

theorem foldl_obey_resets (unprivileged : Bool) (out : List Output) (y : System) :
    (out.foldl (System.obey unprivileged) y).resets = (arms out).foldl obeyArming y.resets := by
  induction out generalizing y with
  | nil => rfl
  | cons o out ih =>
    rw [List.foldl_cons, ih, obey_resets]
    cases harm : o.isArming with
    | true => simp only [arms, List.filter_cons_of_pos harm, List.foldl_cons]
    | false =>
      rw [arms, arms, List.filter_cons_of_neg (by simp [harm])]
      have hsame : obeyArming y.resets o = y.resets := by
        cases o with
        | post runnable => cases runnable <;> first | rfl | cases harm
        | _ => first | rfl | cases harm
      rw [hsame]

theorem perform_resets (y : System) (unprivileged unowned : Bool) (handler : Handler Unit) :
    (y.perform unprivileged unowned handler).2.resets =
      (arms (handler y.service).trace).foldl obeyArming y.resets := by
  rw [System.perform, foldl_obey_resets]
  rfl

/-- A client that waits has one reset coming, and no other has any. -/
def OneReset (pending : Option ClientMonitor) (resets : Bool × Nat) : Prop :=
  if pending.isSome then resets = (true, 0) ∨ resets = (false, 1) else resets = (false, 0)

theorem OneReset.parked (c : ClientMonitor) (due : Bool × Nat) (client : Nat) :
    OneReset (some c) ([.disarmReset, .armReset client].foldl obeyArming due) :=
  .inl rfl

theorem OneReset.cleared (due : Bool × Nat) :
    OneReset none ([.disarmReset].foldl obeyArming due) := rfl

variable {y : System}

theorem OneReset.iff (h : OneReset y.service.pendingClient y.resets) :
    y.service.pendingClient.isSome = true ↔ y.resetQueued = true := by
  have hqueue : y.queue.any (·.runnable.isResetClientState) = true ↔ y.resets.2 ≠ 0 := by
    rw [List.any_eq_true, ← Nat.pos_iff_ne_zero, System.resets, List.countP_pos_iff]
  have htimer : y.timer.isSome = y.resets.1 := rfl
  rw [System.resetQueued, Bool.or_eq_true, hqueue, htimer]
  unfold OneReset at h
  split at h
  · next hpend => rcases h with h | h <;> simp [hpend, h]
  · next hpend => simp [hpend, h]

def ResetInvariant (y : System) : Prop :=
  y.crashed = false → OneReset y.service.pendingClient y.resets

section

variable {y : System} {w : World} {r : Runnable} {handler : Handler Unit} {unowned : Bool}

theorem Turn.oneReset {s : Service} {o : Outcome Service Output Unit} {due : Bool × Nat}
    (hturn : Turn w r s o) (hreturns : o.result.isSome = true) (hr : r.isResetClientState = false)
    (h : OneReset s.pendingClient due) :
    OneReset o.state.pendingClient ((arms o.trace).foldl obeyArming due) := by
  cases hturn with
  | keep _ hpend _ harms | drop c _ _ hpend _ harms | refuse _ hpend _ harms
  | begin c _ _ _ hpend _ harms =>
    rw [hpend, harms]; exact h
  | park c current _ _ _ hpend _ harms =>
    rw [hpend, harms]
    exact .parked c due current.id
  | resume told _ _ hpend _ harms =>
    rcases harms with harms | ⟨hreset, -⟩
    · rw [hpend hreturns, harms]
      exact .cleared due
    · rw [hr] at hreset
      cases hreset

theorem perform_resetInvariant {unprivileged : Bool} (h : OneReset y.service.pendingClient y.resets)
    (hr : r.isResetClientState = false) (hturn : Turn w r y.service (handler y.service)) :
    ResetInvariant (y.perform unprivileged unowned handler).2 := by
  intro hcrash
  rw [perform_crashed, Option.isNone_eq_false_iff] at hcrash
  rw [perform_service, perform_resets]
  exact hturn.oneReset hcrash hr h

theorem looper_resetInvariant {posted : Posted} {queue : List Posted}
    (h : OneReset y.service.pendingClient y.resets) (hqueue : y.queue = posted :: queue) :
    ResetInvariant ({ y with queue }.perform posted.unprivileged unowned
      (runRunnable w posted.runnable)).2 := by
  cases hreset : posted.runnable.isResetClientState with
  | false =>
    refine perform_resetInvariant ?_ hreset (runRunnable_turn _)
    have hresets : System.resets { y with queue } = y.resets := by
      rw [System.resets, System.resets, hqueue, List.countP_cons_of_neg (by simp [hreset])]
    exact hresets ▸ h
  | true =>
    have hresets : y.resets = (y.timer.isSome,
        queue.countP (·.runnable.isResetClientState) + 1) := by
      rw [System.resets, hqueue, List.countP_cons_of_pos (by exact hreset)]
    have hnone : System.resets { y with queue } = (false, 0) := by
      unfold OneReset at h
      rw [System.resets]
      split at h <;> simp_all
    intro hcrash
    rw [perform_crashed, Option.isNone_eq_false_iff] at hcrash
    rw [perform_service, perform_resets, hnone]
    cases hrun : posted.runnable with
    | resetClientState armedFor =>
      rw [hrun] at hcrash
      have hresumed := resetClientState_resumed (w := w) (s := y.service)
      have hpend : (runRunnable w (.resetClientState armedFor) y.service).state.pendingClient =
          none := hresumed.pendingClient hcrash
      have harms : arms (runRunnable w (.resetClientState armedFor) y.service).trace = [] :=
        hresumed.arms
      rw [hpend, harms]
      rfl
    | message | startEnrollment | cancelEnrollment | authenticate | cancelAuthentication
    | updateActiveGroup | remove | resetFailedAttempts | notifyFpService | handleAcq =>
      rw [hrun] at hreset
      cases hreset

end

theorem due_resetInvariant {client : Nat} (h : OneReset y.service.pendingClient y.resets)
    (htimer : y.timer = some client) : ResetInvariant
      { y with timer := none, queue := y.queue ++ [⟨.resetClientState client, false⟩] } := by
  have hresets : System.resets { y with
      timer := none, queue := y.queue ++ [⟨.resetClientState client, false⟩] } =
        (false, y.resets.2 + 1) := by
    simp [System.resets, Runnable.isResetClientState]
  have hdelayed : y.resets.1 = true := by rw [System.resets, htimer]; rfl
  intro _
  rw [hresets]
  unfold OneReset at h ⊢
  split at h
  · next hpend =>
    rcases h with h | h
    · simp [hpend, h]
    · simp [h] at hdelayed
  · simp [h] at hdelayed

theorem ResetInvariant.same {y' : System} (h : ResetInvariant y) (hsame : SameClients y y') :
    ResetInvariant y' := by
  intro hcrash
  have hresets : y'.resets = y.resets := by
    rw [System.resets, System.resets, hsame.timer, hsame.queue]
  rw [hsame.pendingClient, hresets]
  exact h (hsame.crashed ▸ hcrash)

theorem resetInvariant_step (y : System) (event : Event) (h : ResetInvariant y) :
    ResetInvariant (y.step event).2 := by
  cases hcrash : y.crashed with
  | true => simpa [System.step, hcrash] using h
  | false =>
    have hone := h hcrash
    have hreact := react_reaction y event
    simp only [System.step, hcrash, Bool.false_eq_true, if_false]
    generalize y.react event = next at hreact ⊢
    cases hreact with
    | idle hsame => exact h.same hsame
    | turn hsame hr _ _ hturn =>
      exact perform_resetInvariant (h.same hsame (hsame.crashed.trans hcrash)) hr hturn
    | looped hqueue => exact looper_resetInvariant hone hqueue
    | due htimer => exact due_resetInvariant hone htimer
    | died client =>
      intro _
      have hdied : OneReset (y.service.pendingClient.map (·.binderDied client)) y.resets := by
        unfold OneReset at hone ⊢
        rwa [Option.isSome_map]
      exact hdied

/-- A client waits if and only if `mResetClientState` is queued. -/
theorem serviceRun_pending_iff_resetQueued (daemon : Bool) (halDeviceId currentUserId : Int)
    (fingerprints : List (Int × Int)) (events : List Event) :
    let y := (run System.step (.start daemon halDeviceId currentUserId fingerprints) events).2
    y.crashed = false → (y.service.pendingClient.isSome = true ↔ y.resetQueued = true) := by
  intro y hcrash
  have hstart : ResetInvariant (.start daemon halDeviceId currentUserId fingerprints) :=
    fun _ => rfl
  have hend : ResetInvariant y := run_invariant_state resetInvariant_step hstart events
  exact (hend hcrash).iff

theorem serviceRun_pending_iff_resetQueued_waiting :
    let events := [authenticateEvent 1, .looper plainWorld, authenticateEvent 2, .looper plainWorld]
    let y := (run System.step (.start true 1 0 []) events).2
    y.crashed = false ∧ (y.service.pendingClient.isSome = true ↔ y.resetQueued = true) := by
  intro events y
  have hcrash : y.crashed = false := by decide +kernel
  exact ⟨hcrash, serviceRun_pending_iff_resetQueued true 1 0 [] events hcrash⟩

end WikoPlatform.Fingerprint
