import WikoPlatform.Fingerprint.LockoutAlarm
import WikoPlatform.Lib.Since

/-! How many fingers the service rejects before something resets its counter. A client is removed
with the mismatch that locks the sensor. -/

namespace WikoPlatform.Fingerprint

open Runs Act

def Output.rejects : Output → Bool
  | .failedAttempt _ _ => true
  | _ => false

def Output.resets : Output → Bool
  | .lockoutReset => true
  | _ => false

/-- Neither a reject nor a reset. -/
def Output.Plain (o : Output) : Prop := o.rejects = false ∧ o.resets = false

abbrev rejections (trace : List Output) : Nat := since Output.rejects Output.resets trace

abbrev RejectionsBounded (trace : List Output) : Prop :=
  Runs.Bounded Output.rejects Output.resets maxFailedAttempts trace

/-- The counter holds the rejects since the last reset. -/
structure Counts (trace : List Output) (s : Service) : Prop where
  bounded : RejectionsBounded trace
  counted : rejections trace = s.failedAttempts
  current : authenticating s.currentClient = true → s.failedAttempts < maxFailedAttempts
  pending : authenticating s.pendingClient = true → s.failedAttempts < maxFailedAttempts

section

variable {trace out : List Output} {s s' : Service} {r : Runnable} {c : ClientMonitor}
  {failedAttempts : Nat}

theorem Output.plain_of_isOwn {o : Output} (h : o.isOwn = true) : o.Plain := by
  cases o <;> first | exact ⟨rfl, rfl⟩ | cases h

theorem ErrorTrace.allPlain {error : Int} (h : ErrorTrace c error out) : ∀ o ∈ out, o.Plain :=
  h.forall fun _ _ _ => ⟨rfl, rfl⟩

theorem StartTrace.allPlain (h : StartTrace c failedAttempts out) : ∀ o ∈ out, o.Plain :=
  h.forall ⟨rfl, rfl⟩ (fun _ => Output.plain_of_isOwn) (fun _ => ⟨rfl, rfl⟩)
    fun _ _ _ => ⟨rfl, rfl⟩

theorem StopTrace.allPlain (h : StopTrace c failedAttempts out) : ∀ o ∈ out, o.Plain :=
  h.forall ⟨rfl, rfl⟩ (fun _ => Output.plain_of_isOwn) (fun _ _ _ => ⟨rfl, rfl⟩)
    fun _ _ _ => ⟨rfl, rfl⟩

theorem rejections_append_plain (hplain : ∀ o ∈ out, o.Plain) (trace : List Output) :
    rejections (trace ++ out) = rejections trace := by
  rw [rejections, since_append_of_uncleared fun o ho => (hplain o ho).2,
    List.countP_eq_zero.mpr fun o ho => by simp [(hplain o ho).1], Nat.add_zero]

theorem Counts.still (h : Counts trace s) (hplain : ∀ o ∈ out, o.Plain)
    (hfail : s'.failedAttempts = s.failedAttempts)
    (hcur : authenticating s'.currentClient = true → s.failedAttempts < maxFailedAttempts)
    (hpend : authenticating s'.pendingClient = true → s.failedAttempts < maxFailedAttempts) :
    Counts (trace ++ out) s' where
  bounded := h.bounded.append_unmarked fun o ho => (hplain o ho).1
  counted := by rw [rejections_append_plain hplain, h.counted, hfail]
  current := by rwa [hfail]
  pending := by rwa [hfail]

theorem Counts.reset (h : Counts trace s) :
    Counts (trace ++ [Output.lockoutReset]) { s with failedAttempts := 0, alarm := false } where
  bounded := h.bounded.append_unmarked (by simp [Output.rejects])
  counted := since_snoc_clears rfl trace
  current := fun _ => Nat.succ_pos 4
  pending := fun _ => Nat.succ_pos 4

theorem effect_counts (hr : r.fails = false) (h : Counts trace s) (he : Effect r s out s') :
    Counts (trace ++ out) s' := by
  cases he with
  | own hown =>
    refine h.still (fun o ho => Output.plain_of_isOwn (hown.trace o ho)) hown.state.failedAttempts
      ?_ ?_
    · rw [hown.state.currentClient]
      exact h.current
    · rw [hown.state.pendingClient]
      exact h.pending
  | stats | schedule => exact h.still (List.forall_mem_nil _) rfl h.current h.pending
  | drop => exact h.still (List.forall_mem_nil _) rfl (by rintro ⟨⟩) h.pending
  | counted | postReset | disarm | tell | store | unstore =>
    exact h.still (List.forall_mem_singleton.mpr ⟨rfl, rfl⟩) rfl h.current h.pending
  | reset => exact h.reset
  | refuse _ _ _ htold =>
    exact h.still (List.forall_mem_cons.mpr ⟨⟨rfl, rfl⟩, htold.allPlain⟩) rfl h.current h.pending
  | begin hmakes _ _ hstart htouch =>
    refine h.still (List.forall_mem_cons.mpr ⟨⟨rfl, rfl⟩, hstart.allPlain⟩) htouch.failedAttempts
      ?_ ?_
    · rw [htouch.currentClient]
      exact fun hkind => lt_of_not_inLockoutMode (hmakes.authentication hkind).2
    · rw [htouch.pendingClient]
      exact h.pending
  | park hmakes _ _ hstop htouch =>
    refine h.still (List.forall_mem_cons.mpr ⟨⟨rfl, rfl⟩, List.forall_mem_append.mpr
      ⟨hstop.allPlain, ?_⟩⟩) htouch.failedAttempts ?_ ?_
    · simp [Output.Plain, Output.rejects, Output.resets]
    · rw [htouch.currentClient]
      exact h.current
    · rw [htouch.pendingClient]
      exact fun hkind => lt_of_not_inLockoutMode (hmakes.authentication hkind).2
  | stop _ hstop htouch =>
    refine h.still hstop.allPlain htouch.failedAttempts ?_ ?_
    · rw [htouch.currentClient]
      exact h.current
    · rw [htouch.pendingClient]
      exact h.pending
  | resume _ _ hpend hstart htouch =>
    refine h.still hstart.allPlain htouch.failedAttempts ?_ ?_
    · rw [htouch.currentClient]
      exact fun hkind => h.pending (by rw [hpend]; exact hkind)
    · rw [htouch.pendingClient]
      rintro ⟨⟩
  | @crash _ c _ _ _ hpend hkind hstart htouch =>
    refine h.still hstart.allPlain htouch.failedAttempts ?_ ?_
    · rw [htouch.currentClient]
      intro hauth
      exact h.pending (by rw [hpend]; exact hauth)
    · rw [htouch.pendingClient]
      exact h.pending
  | fail hfails => rw [hr] at hfails; cases hfails

theorem change_counts (hr : r.fails = false) (h : Counts trace s) (hc : Change r s out s') :
    Counts (trace ++ out) s' := by
  cases hc with
  | effect he => exact effect_counts hr h he
  | post => exact h.still (List.forall_mem_singleton.mpr ⟨rfl, rfl⟩) rfl h.current h.pending
  | alarmFired => exact h.still (List.forall_mem_nil _) rfl h.current h.pending
  | died k =>
    refine h.still (List.forall_mem_nil _) rfl (fun hauth => h.current ?_)
      fun hauth => h.pending ?_
    · rw [← hauth]
      exact (authenticating_binderDied k s.currentClient).symm
    · rw [← hauth]
      exact (authenticating_binderDied k s.pendingClient).symm

end

theorem Mismatched.counted {s : Service} {o : Outcome Service Output Unit} (h : Mismatched s o) :
    (∀ out ∈ o.trace, out.resets = false) ∧ o.trace.countP Output.rejects = 1 := by
  obtain ⟨told, rest, client, origin, heq, hreports⟩ := h.trace
  have hplain : ∀ out ∈ told ++ rest, out.Plain := by
    intro out ho
    have hreport := hreports out ho
    cases out <;> first | exact ⟨rfl, rfl⟩ | cases hreport
  have hnone : (told ++ rest).countP Output.rejects = 0 :=
    List.countP_eq_zero.mpr fun out ho => by simp [(hplain out ho).1]
  rw [List.countP_append] at hnone
  rw [heq]
  refine ⟨fun out ho => ?_, ?_⟩
  · rcases List.mem_append.mp ho with ho | ho
    · exact (hplain out (List.mem_append_left rest ho)).2
    · rcases List.mem_cons.mp ho with rfl | ho
      · rfl
      · exact (hplain out (List.mem_append_right told ho)).2
  · rw [List.countP_append, List.countP_cons_of_pos rfl]
    omega

theorem mismatch_counts {w : World} {trace : List Output} {s : Service} (h : Counts trace s)
    (halone : authenticating s.currentClient = true →
      maxFailedAttempts ≤ s.failedAttempts + 1 → authenticating s.pendingClient = false)
    (groupId : Int) (origin : Option Nat) :
    let outcome := handleAuthenticated w 0 groupId origin s
    RejectionsBounded (trace ++ outcome.trace) ∧
      (outcome.result.isSome = true → Counts (trace ++ outcome.trace) outcome.state) := by
  intro outcome
  cases hauth : authenticating s.currentClient with
  | false =>
    have hidle : outcome = ⟨[], s, some ()⟩ := handleAuthenticated_idle hauth groupId origin
    rw [hidle, List.append_nil]
    exact ⟨h.bounded, fun _ => h⟩
  | true =>
    have hmismatch : Mismatched s outcome := handleAuthenticated_of_authenticating hauth _ _
    obtain ⟨hresets, hone⟩ := hmismatch.counted
    have hleft := h.current hauth
    have hcount : since Output.rejects Output.resets trace = s.failedAttempts := h.counted
    have hbound : RejectionsBounded (trace ++ outcome.trace) := by
      refine h.bounded.append ?_
      rw [hcount, hone]
      exact hleft
    refine ⟨hbound, fun hreturns => ⟨hbound, ?_, fun hstays => ?_, fun hwaits => ?_⟩⟩
    · rw [rejections, since_append_of_uncleared hresets, hone, hcount, hmismatch.failedAttempts]
    · cases hmode : outcome.state.inLockoutMode with
      | false => exact lt_of_not_inLockoutMode hmode
      | true =>
        rw [hmismatch.currentClient hreturns hmode] at hstays
        cases hstays
    · -- the one who waits did so before
      rw [hmismatch.pendingClient] at hwaits
      have hspare := mt (halone hauth) (by simp [hwaits])
      rw [hmismatch.failedAttempts]
      omega

structure RejectionInvariant (trace : List Output) (y : System) : Prop where
  bounded : RejectionsBounded trace
  counts : y.crashed = false → Counts trace y.service

theorem rejectionInvariant_start (daemon : Bool) (halDeviceId currentUserId : Int)
    (fingerprints : List (Int × Int)) :
    RejectionInvariant [] (.start daemon halDeviceId currentUserId fingerprints) :=
  ⟨.nil _, fun _ => ⟨.nil _, rfl, by rintro ⟨⟩, by rintro ⟨⟩⟩⟩

theorem rejectionInvariant_step (trace : List Output) (y : System) (event : Event)
    (h : RejectionInvariant trace y) (hok : LocksAlone y event) :
    RejectionInvariant (trace ++ (y.step event).1) (y.step event).2 := by
  cases hcrashed : y.crashed with
  | true => simpa [System.step, hcrashed] using h
  | false =>
    have hcounts := h.counts hcrashed
    cases hfails : (y.running event).fails with
    | false =>
      have hdrop : ∀ trace s client receiver unowned, Counts trace s →
          Counts (trace ++ [Output.dropped client receiver unowned]) s :=
        fun _ _ _ _ _ h =>
          h.still (List.forall_mem_singleton.mpr ⟨rfl, rfl⟩) rfl h.current h.pending
      have hend := step_keeps (fun _ _ _ _ => change_counts hfails) hdrop hcounts
      exact ⟨hend.bounded, fun _ => hend⟩
    | true =>
      obtain ⟨w, origin, groupId, unowned, hstep⟩ := step_of_fails hcrashed hfails
      obtain ⟨htrace, hservice, hcrash⟩ := hstep _ rfl
      obtain ⟨hbound, hreturns⟩ :=
        mismatch_counts hcounts (hok hfails) groupId (some origin)
      have hplain : ∀ o ∈ droppedClient y.service
          (handleAuthenticated w 0 groupId (some origin) y.service).state unowned, o.Plain :=
        forall_mem_droppedClient fun _ _ => ⟨rfl, rfl⟩
      rw [htrace, ← List.append_assoc]
      refine ⟨hbound.append_unmarked fun o ho => (hplain o ho).1, fun hrun => ?_⟩
      rw [hcrash, Option.isNone_eq_false_iff] at hrun
      have hend := hreturns hrun
      rw [hservice]
      exact hend.still hplain rfl hend.current hend.pending

def Event.isPermitted : Event → Bool
  | .permittedBroadcast => true
  | _ => false

theorem daemonDied_not_reset (w : World) (s : Service) :
    .lockoutReset ∉ (daemonDied w s).trace := by
  have hunavailable : ¬errorHwUnavailable = errorCanceled := by decide
  simp only [daemonDied, modify_bind, handleError, get_bind, if_neg hunavailable]
  cases s.currentClient with
  | none => exact List.not_mem_nil
  | some client =>
    simp only [bind_some (onError_trace w client errorHwUnavailable _).2.2]
    simpa [removeClient] using fun hreset =>
      (onError_trace w client errorHwUnavailable _).1.not_reset _ hreset rfl

theorem lockoutReset_not_mem_step {y : System} {event : Event}
    (hevent : ∀ w, event ≠ .looper w) (halarm : event ≠ .lockoutBroadcast)
    (hperm : event.isPermitted = false) : .lockoutReset ∉ (y.step event).1 := by
  unfold System.step
  split_ifs
  · exact List.not_mem_nil
  cases event with
  | binder w caller call =>
    rw [System.react, lockoutReset_mem_perform]
    rcases binderCall_shape w caller call y.service with ⟨runnable, -, heq⟩ | heq | heq
    · rw [heq]
      simp
    · rw [heq]
      intro hreset
      exact not_reset_of_isOwn
        ((getFingerprintDaemon_own w w.opening y.service).1.trace _ hreset) rfl
    · rw [heq]
      exact List.not_mem_nil
  | looper w => exact absurd rfl (hevent w)
  | lockoutBroadcast => exact absurd rfl halarm
  | permittedBroadcast => cases hperm
  | resetDue | alarmFires =>
    simp only [System.react]
    split <;> exact List.not_mem_nil
  | daemonDied w =>
    rw [System.react, lockoutReset_mem_perform]
    exact daemonDied_not_reset w y.service
  | clientDied client =>
    rw [System.react, lockoutReset_mem_perform]
    exact List.not_mem_nil
  | message | userSwitching | eventReport =>
    rw [System.react, lockoutReset_mem_perform]
    simp

/-- Five fingers at most are rejected between resets. -/
theorem serviceRun_rejections (daemon : Bool) (halDeviceId currentUserId : Int)
    (fingerprints : List (Int × Int)) (events : List Event)
    (h : Meets System.step LocksAlone (.start daemon halDeviceId currentUserId fingerprints)
      events) : RejectionsBounded
      (run System.step (.start daemon halDeviceId currentUserId fingerprints) events).1 := by
  have hstart := rejectionInvariant_start daemon halDeviceId currentUserId fingerprints
  exact (run_invariant rejectionInvariant_step hstart h).bounded

theorem serviceRun_rejections_lockedOut :
    Meets System.step LocksAlone (.start true 1 0 []) lockedOutEvents ∧
      RejectionsBounded (run System.step (.start true 1 0 []) lockedOutEvents).1 :=
  have h : Meets System.step LocksAlone (.start true 1 0 []) lockedOutEvents := by decide +kernel
  ⟨h, serviceRun_rejections true 1 0 [] lockedOutEvents h⟩

end WikoPlatform.Fingerprint
