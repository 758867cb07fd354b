import Mathlib.Data.List.Induction
import WikoPlatform.Fingerprint.Lockout

/-! Lockout and what ends it: the alarm, or its broadcast that is on the way. -/

namespace WikoPlatform.Fingerprint

open Runs Act

/-- The alarm fired, and nothing has reset the counter since. -/
def FiredSince (y : System) (events : List Event) : Prop :=
  ∃ before after, events = before ++ .alarmFires :: after ∧
    let y₁ := (run System.step y before).2
    y₁.crashed = false ∧ y₁.service.alarm = true ∧
      .lockoutReset ∉ (run System.step (y₁.step .alarmFires).2 after).1

variable {y : System} {fired : Prop}

theorem not_firedSince_nil : ¬ FiredSince y [] := by
  rintro ⟨before, after, heq, -⟩
  simp at heq

theorem firedSince_concat (y : System) (events : List Event) (event : Event) :
    FiredSince y (events ++ [event]) ↔
      let y₁ := (run System.step y events).2
      (event = .alarmFires ∧ y₁.crashed = false ∧ y₁.service.alarm = true) ∨
        FiredSince y events ∧ .lockoutReset ∉ (y₁.step event).1 := by
  have hlast : ∀ (y' : System) (after : List Event),
      (run System.step y' (after ++ [event])).1 =
        (run System.step y' after).1 ++ ((run System.step y' after).2.step event).1 := by
    intro y' after
    rw [run_append]
    exact congrArg _ (List.append_nil _)
  have hend : ∀ before after, events = before ++ .alarmFires :: after →
      (run System.step y events).2 = (run System.step
        (((run System.step y before).2).step .alarmFires).2 after).2 := by
    rintro before after rfl
    rw [run_append]
    rfl
  constructor
  · rintro ⟨before, after, heq, hcrash, halarm, hreset⟩
    rcases List.eq_nil_or_concat after with rfl | ⟨init, last, rfl⟩
    · obtain ⟨rfl, hevent⟩ := List.append_inj' heq rfl
      exact .inl ⟨List.singleton_inj.mp hevent, hcrash, halarm⟩
    · rw [List.concat_eq_append, ← List.cons_append, ← List.append_assoc] at heq
      obtain ⟨hevents, hevent⟩ := List.append_inj' heq rfl
      obtain rfl := List.singleton_inj.mp hevent
      rw [List.concat_eq_append, hlast, List.mem_append, not_or, ← hend before init hevents]
        at hreset
      exact .inr ⟨⟨before, init, hevents, hcrash, halarm, hreset.1⟩, hreset.2⟩
  · rintro (⟨rfl, hcrash, halarm⟩ | ⟨⟨before, after, rfl, hcrash, halarm, hreset⟩, hstep⟩)
    · exact ⟨events, [], rfl, hcrash, halarm, by simp [run]⟩
    · refine ⟨before, after ++ [event], by simp, hcrash, halarm, ?_⟩
      rw [hlast, List.mem_append, not_or]
      exact ⟨hreset, hend before after rfl ▸ hstep⟩

structure EndsItself (fired : Prop) (s : Service) : Prop where
  of_alarm : s.alarm = true → s.inLockoutMode = true
  of_fired : fired → s.inLockoutMode = true
  locked : s.inLockoutMode = true → s.alarm = true ∨ fired

def AlarmInvariant (fired : Prop) (y : System) : Prop :=
  y.crashed = false → EndsItself fired y.service ∧ (fired → 0 < y.broadcasts)

section

variable {fired : Prop} {trace out : List Output} {s s' : Service} {r : Runnable}
  {c : ClientMonitor} {failedAttempts : Nat}

theorem EndsItself.still (h : EndsItself (fired ∧ .lockoutReset ∉ trace) s)
    (hfail : s'.failedAttempts = s.failedAttempts) (halarm : s'.alarm = s.alarm)
    (hout : .lockoutReset ∉ out) : EndsItself (fired ∧ .lockoutReset ∉ trace ++ out) s' := by
  have hmode : s'.inLockoutMode = s.inLockoutMode := by
    rw [Service.inLockoutMode, Service.inLockoutMode, hfail]
  have hfired : (fired ∧ .lockoutReset ∉ trace ++ out) ↔ (fired ∧ .lockoutReset ∉ trace) := by
    rw [List.mem_append, not_or, and_iff_left hout]
  rw [hfired]
  exact ⟨by rw [halarm, hmode]; exact h.of_alarm, by rw [hmode]; exact h.of_fired,
    by rw [halarm, hmode]; exact h.locked⟩

theorem not_reset_of_isOwn {o : Output} (h : o.isOwn = true) : o ≠ .lockoutReset := by
  rintro rfl
  cases h

theorem ErrorTrace.not_reset {error : Int} (h : ErrorTrace c error out) :
    ∀ o ∈ out, o ≠ .lockoutReset :=
  h.forall fun _ _ _ => by simp

theorem StartTrace.not_reset (h : StartTrace c failedAttempts out) :
    .lockoutReset ∉ out := fun hreset =>
  h.forall (by simp) (fun _ => not_reset_of_isOwn) (fun _ => by simp)
    (fun _ _ _ => by simp) _ hreset rfl

theorem StopTrace.not_reset (h : StopTrace c failedAttempts out) :
    .lockoutReset ∉ out := fun hreset =>
  h.forall (by simp) (fun _ => not_reset_of_isOwn) (fun _ _ _ => by simp)
    (fun _ _ _ => by simp) _ hreset rfl

theorem effect_endsItself (hr : r.fails = false)
    (h : EndsItself (fired ∧ .lockoutReset ∉ trace) s) (he : Effect r s out s') :
    EndsItself (fired ∧ .lockoutReset ∉ trace ++ out) s' := by
  cases he with
  | own hown =>
    exact h.still hown.state.failedAttempts hown.state.alarm
      fun ho => not_reset_of_isOwn (hown.trace _ ho) rfl
  | stats | drop => exact h.still rfl rfl List.not_mem_nil
  | counted | postReset | disarm | tell | store | unstore => exact h.still rfl rfl (by simp)
  | reset => exact ⟨by simp, by simp, by simp [Service.inLockoutMode, maxFailedAttempts]⟩
  | refuse _ _ _ htold => exact h.still rfl rfl (by simpa using fun ho => htold.not_reset _ ho rfl)
  | begin _ _ _ hstart htouch =>
    exact h.still htouch.failedAttempts htouch.alarm (by simpa using hstart.not_reset)
  | park _ _ _ hstop htouch =>
    exact h.still htouch.failedAttempts htouch.alarm (by simpa using hstop.not_reset)
  | stop _ hstop htouch => exact h.still htouch.failedAttempts htouch.alarm hstop.not_reset
  | resume _ _ _ hstart htouch | crash _ _ _ _ hstart htouch =>
    exact h.still htouch.failedAttempts htouch.alarm hstart.not_reset
  | fail hfails => rw [hr] at hfails; cases hfails
  | schedule hlockout =>
    rw [List.append_nil]
    exact ⟨fun _ => hlockout, h.of_fired, fun _ => .inl rfl⟩

theorem effects_endsItself (hr : r.fails = false) (h : EndsItself fired s)
    (hsteps : Steps (Effect r) s out s') : EndsItself (fired ∧ .lockoutReset ∉ out) s' := by
  let inv (trace : List Output) (s : Service) : Prop :=
    EndsItself (fired ∧ .lockoutReset ∉ trace) s
  have hstart : inv [] s := by simpa [inv] using h
  have hkeeps : ∀ trace s out s', inv trace s → Effect r s out s' → inv (trace ++ out) s' :=
    fun _ _ _ _ => effect_endsItself hr
  exact hsteps.keeps hkeeps hstart

end

section

variable {fired : Prop} {s : Service} {o : Outcome Service Output Unit}

theorem Mismatched.not_reset (h : Mismatched s o) : .lockoutReset ∉ o.trace := by
  obtain ⟨told, rest, client, origin, heq, hreports⟩ := h.trace
  rw [heq]
  intro hmem
  have hreport := hreports .lockoutReset (by simpa using hmem)
  cases hreport

theorem Mismatched.endsItself (h : EndsItself fired s) (ho : Mismatched s o)
    (hreturns : o.result.isSome = true) : EndsItself fired o.state := by
  have halarm := ho.alarm hreturns
  have hgrows : s.inLockoutMode = true → o.state.inLockoutMode = true := by
    simp only [Service.inLockoutMode, decide_eq_true_eq, ho.failedAttempts]
    exact Nat.le_succ_of_le
  constructor
  · rw [halarm, Bool.or_eq_true]
    exact fun hset => hset.elim (fun hset => hgrows (h.of_alarm hset)) id
  · exact fun hfired => hgrows (h.of_fired hfired)
  · intro hlock
    rw [halarm, hlock, Bool.or_true]
    exact .inl rfl

end

section

variable {fired : Prop} {y : System} {handler : Handler Unit}

theorem lockoutReset_mem_perform (y : System) (unprivileged unowned : Bool)
    (handler : Handler Unit) : .lockoutReset ∈ (y.perform unprivileged unowned handler).1 ↔
      .lockoutReset ∈ (handler y.service).trace := by
  have hdrop : ∀ s', .lockoutReset ∉ droppedClient y.service s' unowned := fun s' ho =>
    forall_mem_droppedClient (P := (· ≠ .lockoutReset)) (fun _ _ => by simp) _ ho rfl
  rw [System.perform, List.mem_append, or_iff_left (hdrop _)]

theorem perform_alarmInvariant {unprivileged unowned : Bool}
    (hbroadcasts : fired → 0 < y.broadcasts) (h : (handler y.service).result.isSome = true →
      EndsItself (fired ∧ .lockoutReset ∉ (handler y.service).trace) (handler y.service).state) :
    AlarmInvariant (fired ∧ .lockoutReset ∉ (y.perform unprivileged unowned handler).1)
      (y.perform unprivileged unowned handler).2 := by
  intro hcrash
  rw [perform_crashed, Option.isNone_eq_false_iff] at hcrash
  rw [lockoutReset_mem_perform, perform_service]
  refine ⟨h hcrash, fun hfired => ?_⟩
  rw [System.perform, foldl_obey System.broadcasts fun _ o => by cases o <;> rfl]
  exact hbroadcasts hfired.1

theorem reset_alarmInvariant (y : System) :
    AlarmInvariant (fired ∧ .lockoutReset ∉ (y.perform false false resetFailedAttempts).1)
      (y.perform false false resetFailedAttempts).2 := by
  have hreset : .lockoutReset ∈ (y.perform false false resetFailedAttempts).1 := by
    rw [lockoutReset_mem_perform]
    exact List.mem_singleton_self _
  intro _
  rw [perform_service]
  refine ⟨⟨by rintro ⟨⟩, fun hfired => absurd hreset hfired.2, ?_⟩,
    fun hfired => absurd hreset hfired.2⟩
  simp [resetFailedAttempts, Service.inLockoutMode, maxFailedAttempts]

end

theorem runRunnable_endsItself {w : World} {s : Service} (r : Runnable) (h : EndsItself fired s)
    (hreturns : (runRunnable w r s).result.isSome = true) :
    EndsItself (fired ∧ .lockoutReset ∉ (runRunnable w r s).trace) (runRunnable w r s).state := by
  cases hfails : r.fails with
  | false => exact effects_endsItself hfails h (runRunnable_does w r s s rfl).1
  | true =>
    unfold Runnable.fails at hfails
    split at hfails
    · next origin fingerId groupId =>
      obtain rfl : fingerId = 0 := by simpa using hfails
      have hrun : runRunnable w (.message (.authenticated origin 0 groupId)) s =
          handleAuthenticated w 0 groupId (some origin) s := rfl
      rw [hrun] at hreturns ⊢
      cases hauth : authenticating s.currentClient with
      | false => simpa [handleAuthenticated_idle hauth] using h
      | true =>
        have hmismatch := handleAuthenticated_of_authenticating (w := w) hauth groupId (some origin)
        have hend := Mismatched.endsItself h hmismatch hreturns
        exact ⟨hend.of_alarm, fun hfired => hend.of_fired hfired.1, fun hlock =>
          (hend.locked hlock).imp_right fun hfired => ⟨hfired, hmismatch.not_reset⟩⟩
    · cases hfails

theorem alarmInvariant_step_of_ne {event : Event} (hevent : event ≠ .alarmFires)
    (h : AlarmInvariant fired y) :
    AlarmInvariant (fired ∧ .lockoutReset ∉ (y.step event).1) (y.step event).2 := by
  cases hcrash : y.crashed with
  | true =>
    simp only [System.step, hcrash, if_true]
    intro hrunning
    rw [hcrash] at hrunning
    cases hrunning
  | false =>
    obtain ⟨hends, hbroadcasts⟩ := h hcrash
    have hstart : EndsItself (fired ∧ Output.lockoutReset ∉ []) y.service := by simpa using hends
    have hidle : ∀ y' : System, y'.service = y.service → y'.broadcasts = y.broadcasts →
        AlarmInvariant (fired ∧ Output.lockoutReset ∉ []) y' := by
      intro y' hservice hsame _
      rw [hservice, hsame]
      exact ⟨hstart, fun hfired => hbroadcasts hfired.1⟩
    have hpost : ∀ runnable : Runnable,
        AlarmInvariant (fired ∧ .lockoutReset ∉ (y.perform false false (emit (.post runnable))).1)
          (y.perform false false (emit (.post runnable))).2 := fun runnable =>
      perform_alarmInvariant hbroadcasts fun _ => hstart.still rfl rfl (by simp)
    simp only [System.step, hcrash, Bool.false_eq_true, if_false]
    cases event with
    | binder w caller call =>
      refine perform_alarmInvariant hbroadcasts fun _ => ?_
      rcases binderCall_shape w caller call y.service with ⟨runnable, -, heq⟩ | heq | heq
      · rw [heq]
        exact hstart.still rfl rfl (by simp)
      · rw [heq]
        obtain ⟨⟨htouch, hown⟩, -⟩ := getFingerprintDaemon_own w w.opening y.service
        exact hstart.still htouch.failedAttempts htouch.alarm
          fun ho => not_reset_of_isOwn (hown _ ho) rfl
      · rw [heq]
        exact hstart
    | message message | userSwitching userId | eventReport acquiredInfo => exact hpost _
    | looper w =>
      cases hqueue : y.queue with
      | nil =>
        simp only [System.react, hqueue]
        exact hidle y rfl rfl
      | cons posted queue =>
        simp only [System.react, hqueue]
        exact perform_alarmInvariant hbroadcasts
          (runRunnable_endsItself posted.runnable hends)
    | resetDue =>
      simp only [System.react]
      split <;> exact hidle _ rfl rfl
    | alarmFires => exact absurd rfl hevent
    | lockoutBroadcast =>
      simp only [System.react]
      split
      · exact hidle y rfl rfl
      · next broadcasts _ => exact reset_alarmInvariant { y with broadcasts }
    | permittedBroadcast => exact reset_alarmInvariant y
    | daemonDied w =>
      exact perform_alarmInvariant hbroadcasts fun _ =>
        effects_endsItself rfl hends (daemonDied_does w y.service y.service rfl).1
    | clientDied client =>
      exact perform_alarmInvariant hbroadcasts fun _ => hstart.still rfl rfl List.not_mem_nil

theorem alarmInvariant_step_alarmFires (h : AlarmInvariant fired y) :
    AlarmInvariant ((y.crashed = false ∧ y.service.alarm = true) ∨
      fired ∧ .lockoutReset ∉ (y.step .alarmFires).1) (y.step .alarmFires).2 := by
  intro hrunning
  cases hcrash : y.crashed with
  | true => simp [System.step, hcrash] at hrunning
  | false =>
    obtain ⟨hends, hbroadcasts⟩ := h hcrash
    simp only [System.step, hcrash, Bool.false_eq_true, if_false, System.react]
    cases halarm : y.service.alarm with
    | true =>
      refine ⟨⟨by simp, fun _ => hends.of_alarm halarm, fun _ => .inr ?_⟩, fun _ => Nat.succ_pos _⟩
      exact .inl ⟨trivial, rfl⟩
    | false => simpa [halarm] using ⟨hends, hbroadcasts⟩

theorem run_alarmInvariant (daemon : Bool) (halDeviceId currentUserId : Int)
    (fingerprints : List (Int × Int)) (events : List Event) :
    let start := System.start daemon halDeviceId currentUserId fingerprints
    AlarmInvariant (FiredSince start events) (run System.step start events).2 := by
  intro start
  induction events using List.reverseRecOn with
  | nil =>
    refine fun _ => ⟨⟨by rintro ⟨⟩, fun hfired => absurd hfired not_firedSince_nil, ?_⟩,
      fun hfired => absurd hfired not_firedSince_nil⟩
    simp [run, start, System.start, Service.inLockoutMode, maxFailedAttempts]
  | append_singleton events event ih =>
    have hend : (run System.step start (events ++ [event])).2 =
        ((run System.step start events).2.step event).2 := by
      rw [run_append]
      rfl
    rw [hend]
    by_cases hevent : event = .alarmFires
    · subst hevent
      simp only [firedSince_concat, true_and]
      exact alarmInvariant_step_alarmFires ih
    · simp only [firedSince_concat, hevent, false_and, false_or]
      exact alarmInvariant_step_of_ne hevent ih

/-- Lockout ends by the alarm or its broadcast. -/
theorem serviceRun_lockedOut_iff_alarm (daemon : Bool) (halDeviceId currentUserId : Int)
    (fingerprints : List (Int × Int)) (events : List Event) :
    let start := System.start daemon halDeviceId currentUserId fingerprints
    let y := (run System.step start events).2
    y.crashed = false → (maxFailedAttempts ≤ y.service.failedAttempts ↔
      y.service.alarm = true ∨ FiredSince start events ∧ 0 < y.broadcasts) := by
  intro start y hcrash
  obtain ⟨hends, hbroadcasts⟩ := run_alarmInvariant daemon halDeviceId currentUserId fingerprints
    events hcrash
  have hmode : maxFailedAttempts ≤ y.service.failedAttempts ↔ y.service.inLockoutMode = true := by
    simp [Service.inLockoutMode]
  rw [hmode]
  constructor
  · exact fun hlock => (hends.locked hlock).imp_right fun hfired => ⟨hfired, hbroadcasts hfired⟩
  · rintro (halarm | ⟨hfired, -⟩)
    exacts [hends.of_alarm halarm, hends.of_fired hfired]

def alarmFiredEvents : List Event :=
  [authenticateEvent 1, .looper plainWorld] ++ mismatchEvents 5 ++ [.alarmFires]

theorem serviceRun_lockedOut_iff_alarm_fired :
    let y := (run System.step (.start true 1 0 []) alarmFiredEvents).2
    y.crashed = false ∧ y.service.failedAttempts = 5 ∧ y.service.alarm = false ∧
      (maxFailedAttempts ≤ y.service.failedAttempts ↔
        y.service.alarm = true ∨ FiredSince (.start true 1 0 []) alarmFiredEvents ∧
          0 < y.broadcasts) := by
  intro y
  have hcrash : y.crashed = false := by decide +kernel
  exact ⟨hcrash, by decide +kernel, by decide +kernel,
    serviceRun_lockedOut_iff_alarm true 1 0 [] alarmFiredEvents hcrash⟩

end WikoPlatform.Fingerprint
