import WikoPlatform.Lib.TwoRuns
import WikoPlatform.Fingerprint.Effects

/-! Who can reach the failed-attempt counter and the lockout alarm: two runs that differ in the
calls of callers without any fingerprint permission. -/

namespace WikoPlatform.Fingerprint

open Runs Act

def System.unprivileged (y : System) : Event → Bool
  | .binder _ caller _ => caller.isUnprivileged
  | .looper _ => y.queue.head?.any Posted.unprivileged
  | _ => false

/-- The call is rejected, or finds nothing to do. -/
def Harmless (w : World) (s : Service) : Runnable → Prop
  | .authenticate _ _ _ _ _ opPackageName uid pid =>
    (canUseFingerprint w opPackageName uid pid s).result = some false
  | .cancelAuthentication token opPackageName uid pid =>
    (canUseFingerprint w opPackageName uid pid s).result = some false ∨
      (canUseFingerprint w opPackageName uid pid s).result = some true ∧
        (s.daemon = true ∨
          s.currentClient.any (fun c => c.kind.isAuthentication && c.token == token) = false)
  | .notifyFpService msgId =>
    s.inLockoutMode = false ∨ msgId ≠ 1 ∧ (msgId ≠ 2 ∨ s.daemon = true)
  | _ => False

instance (w : World) (s : Service) (r : Runnable) : Decidable (Harmless w s r) := by
  unfold Harmless
  split <;> infer_instance

def System.harmless (y : System) : Event → Prop
  | .looper w => ∀ posted ∈ y.queue.head?, Harmless w y.service posted.runnable
  | _ => True

instance (y : System) (event : Event) : Decidable (y.harmless event) :=
  match event with
  | .looper _ => Option.decidableForallMem _
  | .binder .. | .message _ | .resetDue | .alarmFires | .lockoutBroadcast | .permittedBroadcast
  | .daemonDied _ | .clientDied _ | .userSwitching _ | .eventReport _ => .isTrue trivial

/-- The two systems differ only in what unprivileged calls have posted. -/
structure SamePrivileged (y z : System) : Prop where
  service : y.service = z.service
  queue : y.queue.filter (!·.unprivileged) = z.queue.filter (!·.unprivileged)
  timer : y.timer = z.timer
  broadcasts : y.broadcasts = z.broadcasts
  crashed : y.crashed = z.crashed

theorem samePrivileged_equivalence : Equivalence SamePrivileged where
  refl _ := ⟨rfl, rfl, rfl, rfl, rfl⟩
  symm h := ⟨h.1.symm, h.2.symm, h.3.symm, h.4.symm, h.5.symm⟩
  trans h h' := ⟨h.1.trans h'.1, h.2.trans h'.2, h.3.trans h'.3, h.4.trans h'.4, h.5.trans h'.5⟩

variable {y z : System} {out : List Output} {handler : Handler Unit} {s : Service} {w : World}
  {opPackageName : String} {uid pid : Nat}

theorem obey_samePrivileged (h : SamePrivileged y z) (o : Output) :
    SamePrivileged (y.obey false o) (z.obey false o) := by
  cases o with
  | post runnable =>
    refine ⟨h.service, ?_, h.timer, h.broadcasts, h.crashed⟩
    simp only [System.obey, List.filter_append, h.queue]
  | armReset client => exact ⟨h.service, h.queue, rfl, h.broadcasts, h.crashed⟩
  | disarmReset =>
    refine ⟨h.service, ?_, rfl, h.broadcasts, h.crashed⟩
    simp only [System.obey]
    rw [List.filter_comm, h.queue, List.filter_comm]
  | _ => exact h

theorem foldl_obey_samePrivileged (h : SamePrivileged y z) :
    SamePrivileged (out.foldl (System.obey false) y) (out.foldl (System.obey false) z) := by
  induction out generalizing y z with
  | nil => exact h
  | cons o out ih => exact ih (obey_samePrivileged h o)

theorem perform_samePrivileged (h : SamePrivileged y z) {unowned : Bool} :
    SamePrivileged (y.perform false unowned handler).2 (z.perform false unowned handler).2 := by
  simp only [System.perform, h.service]
  exact foldl_obey_samePrivileged ⟨rfl, h.queue, h.timer, h.broadcasts, rfl⟩

theorem head_samePrivileged (h : SamePrivileged y z)
    (hy : y.queue.head?.any Posted.unprivileged = false)
    (hz : z.queue.head?.any Posted.unprivileged = false) :
    y.queue = [] ∧ z.queue = [] ∨ ∃ posted queue queue', posted.unprivileged = false ∧
      y.queue = posted :: queue ∧ z.queue = posted :: queue' ∧
      queue.filter (!·.unprivileged) = queue'.filter (!·.unprivileged) := by
  have hqueue := h.queue
  cases hyq : y.queue with
  | nil =>
    cases hzq : z.queue with
    | nil => exact .inl ⟨rfl, rfl⟩
    | cons posted queue =>
      rw [hzq] at hz
      have hpost : posted.unprivileged = false := by simpa using hz
      simp [hyq, hzq, hpost] at hqueue
  | cons posted queue =>
    rw [hyq] at hy
    have hpost : posted.unprivileged = false := by simpa using hy
    cases hzq : z.queue with
    | nil => simp [hyq, hzq, hpost] at hqueue
    | cons posted' queue' =>
      rw [hzq] at hz
      have hpost' : posted'.unprivileged = false := by simpa using hz
      simp only [hyq, hzq, List.filter_cons, hpost, hpost', Bool.not_false, if_true,
        List.cons.injEq] at hqueue
      obtain ⟨rfl, hrest⟩ := hqueue
      exact .inr ⟨posted, queue, queue', hpost, rfl, rfl, hrest⟩

theorem step_samePrivileged (y z : System) (event : Event) (h : SamePrivileged y z)
    (hy : y.unprivileged event = false) (hz : z.unprivileged event = false) :
    SamePrivileged (y.step event).2 (z.step event).2 := by
  unfold System.step
  rw [← h.crashed]
  split
  · exact h
  cases event with
  | binder w caller call =>
    have hcaller : caller.isUnprivileged = false := hy
    simp only [System.react, hcaller]
    exact perform_samePrivileged h
  | looper w =>
    rcases head_samePrivileged h hy hz with
      ⟨hyq, hzq⟩ | ⟨posted, queue, queue', hpost, hyq, hzq, hrest⟩
    · simp only [System.react, hyq, hzq]
      exact h
    · simp only [System.react, hyq, hzq, hpost, h.service]
      have hpop : SamePrivileged { y with service := z.service, queue := queue }
          { z with queue := queue' } := ⟨rfl, hrest, h.timer, h.broadcasts, h.crashed⟩
      exact perform_samePrivileged hpop
  | resetDue =>
    simp only [System.react, ← h.timer]
    split
    · exact h
    · refine ⟨h.service, ?_, rfl, h.broadcasts, h.crashed⟩
      simp only [List.filter_append, h.queue]
  | alarmFires =>
    simp only [System.react, h.service]
    split
    · exact ⟨rfl, h.queue, h.timer, congrArg (· + 1) h.broadcasts, h.crashed⟩
    · exact h
  | lockoutBroadcast =>
    simp only [System.react, ← h.broadcasts]
    split
    · exact h
    · next broadcasts _ =>
      have hsent : SamePrivileged { y with broadcasts } { z with broadcasts } :=
        ⟨h.service, h.queue, h.timer, rfl, h.crashed⟩
      exact perform_samePrivileged hsent
  | message | permittedBroadcast | daemonDied | clientDied | userSwitching | eventReport =>
    exact perform_samePrivileged h

def Output.isCommand : Output → Bool
  | .post _ | .armReset _ | .disarmReset => true
  | _ => false

theorem foldl_obey_eq {unprivileged : Bool} (h : ∀ o ∈ out, o.isCommand = false) :
    out.foldl (System.obey unprivileged) y = y := by
  induction out with
  | nil => rfl
  | cons o out ih =>
    have hhead : y.obey unprivileged o = y := by
      have := h o (by simp)
      cases o <;> first | rfl | cases this
    rw [List.foldl_cons, hhead]
    exact ih fun o' ho' => h o' (by simp [ho'])

/-- The handler changes nothing and commands nothing. -/
structure Idle (handler : Handler Unit) (s : Service) : Prop where
  trace : ∀ o ∈ (handler s).trace, o.isCommand = false
  state : (handler s).state = s
  result : (handler s).result = some ()

theorem Idle.congr {handler' : Handler Unit} (heq : handler s = handler' s) (h : Idle handler' s) :
    Idle handler s :=
  ⟨heq ▸ h.trace, heq ▸ h.state, heq ▸ h.result⟩

theorem Idle.pure (s : Service) : Idle (Pure.pure ()) s := ⟨List.forall_mem_nil _, rfl, rfl⟩

theorem getFingerprintDaemon_connected (w : World) (opening : Opening) (h : s.daemon = true) :
    getFingerprintDaemon w opening s = ⟨[], s, some true⟩ := by
  simp only [getFingerprintDaemon, get_bind, h, if_true, pure_apply]

theorem stop_idle {c : ClientMonitor} (hkind : c.kind.isAuthentication = true)
    (hdaemon : s.daemon = true) : Idle (c.stop w true) s := by
  cases hc : c.kind with
  | authentication opId =>
    have heq : c.stop w true s =
        ⟨[.stopped c.id, .daemon (some c.id) .cancelAuthentication s.failedAttempts
          (w.answer .cancelAuthentication)], s, some ()⟩ := by
      simp only [ClientMonitor.stop, hc, emit_bind,
        bind_some (show (getFingerprintDaemon w w.reopening s).result = some true by
          rw [getFingerprintDaemon_connected w w.reopening hdaemon]),
        getFingerprintDaemon_connected w w.reopening hdaemon]
      rfl
    exact ⟨by simp [heq, Output.isCommand], by rw [heq], by rw [heq]⟩
  | enroll | removal => rw [hc] at hkind; cases hkind

theorem faceStop_connected (h : s.daemon = true) : faceStop w s =
      ⟨[.daemon none .cancelAuthentication s.failedAttempts (w.answer .cancelAuthentication)], s,
        some ()⟩ := by
  have hdaemon := getFingerprintDaemon_connected w w.opening h
  have hreach : (getFingerprintDaemon w w.opening s).result = some true := by rw [hdaemon]
  simp only [faceStop, bind_some hreach, hdaemon]
  rfl

theorem cancelAuthentication_idle {token : Option Nat}
    (hallowed : (canUseFingerprint w opPackageName uid pid s).result = some true)
    (hidle : s.daemon = true ∨
      s.currentClient.any (fun c => c.kind.isAuthentication && c.token == token) = false) :
    Idle (cancelAuthentication w token opPackageName uid pid) s := by
  refine .congr (canUseFingerprint_bind hallowed) ?_
  cases hcur : s.currentClient with
  | none =>
    refine .congr ?_ (.pure s)
    simp only [if_true, get_bind, hcur]
  | some c =>
    by_cases hstop : (c.kind.isAuthentication && c.token == token) = true
    · have hdaemon : s.daemon = true := by simpa [hcur, hstop] using hidle
      refine .congr ?_ (stop_idle (w := w) (Bool.and_eq_true_iff.mp hstop).1 hdaemon)
      simp only [if_true, get_bind, hcur, hstop]
    · refine .congr ?_ (.pure s)
      simp only [if_true, get_bind, hcur, hstop]
      rfl

theorem notifyFpService_idle {msgId : Int}
    (h : s.inLockoutMode = false ∨ msgId ≠ 1 ∧ (msgId ≠ 2 ∨ s.daemon = true)) :
    Idle (notifyFpService w msgId) s := by
  by_cases hlock : (msgId = 1 ∨ msgId = 2) ∧ s.inLockoutMode = true
  · obtain ⟨hmsg, hlocked⟩ := hlock
    obtain ⟨hshown, hdaemon⟩ : msgId ≠ 1 ∧ s.daemon = true := by
      rcases h with hunlock | ⟨h1, h2⟩
      · rw [hlocked] at hunlock
        cases hunlock
      · exact ⟨h1, h2.resolve_left (not_not.mpr (hmsg.resolve_left h1))⟩
    have hstop := faceStop_connected (w := w) hdaemon
    have hstopped : (faceStop w s).result = some () := by rw [hstop]
    have heq : notifyFpService w msgId s =
        ⟨[.daemon none .cancelAuthentication s.failedAttempts (w.answer .cancelAuthentication)],
          s, some ()⟩ := by
      rw [notifyFpService, get_bind, if_pos ⟨hmsg, hlocked⟩, bind_some hstopped, hstop,
        if_neg hshown]
      rfl
    exact ⟨by simp [heq, Output.isCommand], by rw [heq], by rw [heq]⟩
  · refine .congr ?_ (.pure s)
    simp only [notifyFpService, get_bind, hlock, if_false]

theorem harmless_idle {r : Runnable} (h : Harmless w s r) : Idle (runRunnable w r) s := by
  cases r with
  | authenticate => exact .congr (canUseFingerprint_bind h) (.pure s)
  | cancelAuthentication =>
    rcases h with hreject | ⟨hallowed, hidle⟩
    · exact .congr (canUseFingerprint_bind hreject) (.pure s)
    · exact cancelAuthentication_idle hallowed hidle
  | notifyFpService => exact notifyFpService_idle h
  | message | startEnrollment | cancelEnrollment | updateActiveGroup | remove
  | resetFailedAttempts | resetClientState | handleAcq => exact h.elim

theorem binderCall_unprivileged (w : World) {caller : Caller} (call : BinderCall) (s : Service)
    (h : caller.isUnprivileged = true) : binderCall w caller call s = ⟨[], s, some ()⟩ ∨
      ∃ runnable, binderCall w caller call s = ⟨[.post runnable], s, some ()⟩ := by
  simp only [Caller.isUnprivileged, Bool.and_eq_true, Bool.not_eq_true'] at h
  obtain ⟨⟨hmanage, -⟩, hreset⟩ := h
  cases call with
  | preEnroll | postEnroll | cancelEnrollment | setActiveUser | remove =>
    exact .inl (by simp only [binderCall, hmanage, Bool.false_eq_true, if_false, pure_apply])
  | enroll =>
    exact .inl (by simp only [binderCall, get_bind, hmanage, Bool.false_and, Bool.false_eq_true,
      if_false, pure_apply])
  | resetTimeout =>
    exact .inl (by simp only [binderCall, hreset, Bool.false_eq_true, if_false, pure_apply])
  | authenticate | cancelAuthentication | notifyFpService => exact .inr ⟨_, rfl⟩
  | other => exact .inl rfl

theorem unprivileged_samePrivileged (y : System) (event : Event)
    (hevent : y.unprivileged event = true) (hharmless : y.harmless event) :
    SamePrivileged y (y.step event).2 := by
  unfold System.step
  split
  · exact samePrivileged_equivalence.refl y
  next hcrash =>
  have hcrash : y.crashed = false := by simpa using hcrash
  cases event with
  | binder w caller call =>
    have hcaller : caller.isUnprivileged = true := hevent
    simp only [System.react, hcaller, System.perform]
    rcases binderCall_unprivileged w call y.service hcaller with heq | ⟨runnable, heq⟩
    · simp only [heq, List.foldl_nil, Option.isNone_some]
      exact ⟨rfl, rfl, rfl, rfl, hcrash⟩
    · simp only [heq, List.foldl_cons, List.foldl_nil, System.obey, Option.isNone_some]
      exact ⟨rfl, by simp, rfl, rfl, hcrash⟩
  | looper w =>
    cases hqueue : y.queue with
    | nil => rw [System.unprivileged, hqueue] at hevent; cases hevent
    | cons posted queue =>
      have hpost : posted.unprivileged = true := by
        simpa [System.unprivileged, hqueue] using hevent
      have hidle := harmless_idle (hharmless posted (by rw [hqueue]; rfl))
      simp only [System.react, hqueue, System.perform]
      rw [foldl_obey_eq hidle.trace, hidle.state, hidle.result]
      refine ⟨rfl, ?_, rfl, rfl, hcrash⟩
      rw [hqueue, List.filter_cons, hpost]
      rfl
  | message | resetDue | alarmFires | lockoutBroadcast | permittedBroadcast | daemonDied
  | clientDied | userSwitching | eventReport => cases hevent

/-- Unprivileged calls that come to nothing do not touch lockout. -/
theorem pairRun_lockout_eq (daemon : Bool) (halDeviceId currentUserId : Int)
    (fingerprints : List (Int × Int)) (moves : List (Move Event))
    (h : Meets (pairStep System.step) (Aligned System.unprivileged System.harmless)
      (.start daemon halDeviceId currentUserId fingerprints,
        .start daemon halDeviceId currentUserId fingerprints) moves) :
    let pair := (run (pairStep System.step)
      (.start daemon halDeviceId currentUserId fingerprints,
        .start daemon halDeviceId currentUserId fingerprints) moves).2
    pair.1.service.failedAttempts = pair.2.service.failedAttempts ∧
      pair.1.service.alarm = pair.2.service.alarm := by
  have hend := unwinding samePrivileged_equivalence step_samePrivileged unprivileged_samePrivileged
    (samePrivileged_equivalence.refl _) h
  exact ⟨congrArg Service.failedAttempts hend.service, congrArg Service.alarm hend.service⟩

def lockoutMoves : List (Move Event) :=
  [.both (authenticateEvent 1), .both (.looper plainWorld)] ++
    (List.replicate 5
      [.both (.message (.authenticated 0 0 0)), .both (.looper plainWorld)]).flatten

def strangerMoves : List (Move Event) :=
  [.first (.binder plainWorld stranger (.notifyFpService 1)), .first (.looper plainWorld),
    .second (.binder plainWorld stranger (.authenticate (some 7) 0 0 (some 7) "stranger")),
    .second (.looper { plainWorld with noteOp := fun _ _ => .ignored })] ++ lockoutMoves

theorem strangerMoves_lockout_eq :
    let start := System.start true 1 0 []
    let pair := (run (pairStep System.step) (start, start) strangerMoves).2
    Meets (pairStep System.step) (Aligned System.unprivileged System.harmless) (start, start)
        strangerMoves ∧
      pair.1.service.failedAttempts = pair.2.service.failedAttempts ∧
        pair.1.service.alarm = pair.2.service.alarm :=
  have h : Meets (pairStep System.step) (Aligned System.unprivileged System.harmless)
      (.start true 1 0 [], .start true 1 0 []) strangerMoves := by decide +kernel
  ⟨h, pairRun_lockout_eq true 1 0 [] strangerMoves h⟩

def keyguardMoves : List (Move Event) :=
  lockoutMoves ++ [.first (.binder plainWorld stranger (.notifyFpService 1)),
    .first (.looper plainWorld), .first (.looper plainWorld)]

theorem keyguardMoves_lockout_ne :
    let start := System.start true 1 0 []
    let pair := (run (pairStep System.step) (start, start) keyguardMoves).2
    Meets (pairStep System.step) (Aligned System.unprivileged fun _ _ => True) (start, start)
        keyguardMoves ∧
      pair.1.service.failedAttempts ≠ pair.2.service.failedAttempts ∧
        pair.1.service.alarm ≠ pair.2.service.alarm := by
  decide +kernel

end WikoPlatform.Fingerprint
