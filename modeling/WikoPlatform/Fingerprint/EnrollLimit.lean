import WikoPlatform.Fingerprint.Turn

/-! The limit on the stored fingers of a user. `enroll` tests it when the request is made, and
counts the fingers that are stored, and not those that are on their way. -/

namespace WikoPlatform.Fingerprint

open Runs Act

def Runnable.enrolls (userId : Int) : Runnable → Bool
  | .startEnrollment _ _ user _ _ _ => user == userId
  | _ => false

def ClientMonitor.enrolls (userId : Int) (c : ClientMonitor) : Bool :=
  c.kind.isEnroll && c.targetUserId == userId

def Output.enrolls (userId : Int) : Output → Bool
  | .post runnable => runnable.enrolls userId
  | _ => false

def Service.enrolling (s : Service) (userId : Int) : Nat :=
  (s.currentClient.any (·.enrolls userId)).toNat + (s.pendingClient.any (·.enrolls userId)).toNat

/-- The stored fingers of the user and the enrolments under way. -/
def Service.taken (s : Service) (userId : Int) : Nat :=
  (enrolledFingerprints s userId).length + s.enrolling userId

def System.inFlight (y : System) (userId : Int) : Nat :=
  y.queue.countP (·.runnable.enrolls userId) + y.service.enrolling userId

/-- A request finds a place beside those in flight. -/
def Spare (limit : Nat) (y : System) : Event → Prop
  | .binder w caller (.enroll token cryptoToken userId receiver opPackageName) =>
      w.maxTemplatesPerUser = limit ∧
      ((binderCall w caller (.enroll token cryptoToken userId receiver opPackageName)
          y.service).trace ≠ [] →
        (enrolledFingerprints y.service userId).length + y.inFlight userId < limit)
  | _ => True

instance (limit : Nat) (y : System) (event : Event) : Decidable (Spare limit y event) := by
  unfold Spare
  split <;> infer_instance

/-- No enrolment is posted, and the user has taken at most `n` places. -/
structure Within (userId : Int) (n : Nat) (trace : List Output) (s : Service) : Prop where
  posts : ∀ o ∈ trace, o.enrolls userId = false
  taken : s.taken userId ≤ n

section

variable {userId user : Int} {n : Nat} {out : List Output} {s s' : Service} {w : World}
  {c : ClientMonitor} {r : Runnable}

theorem Touched.taken (h : Touched s s') : s'.taken userId = s.taken userId := by
  rw [Service.taken, Service.taken, Service.enrolling, Service.enrolling, enrolledFingerprints,
    enrolledFingerprints, h.currentClient, h.pendingClient, h.fingerprints]

theorem taken_begun (hcur : s.currentClient = none) (c : ClientMonitor) (nextClient : Nat) :
    Service.taken { s with currentClient := some c, nextClient } userId =
      s.taken userId + (c.enrolls userId).toNat := by
  simp only [Service.taken, Service.enrolling, enrolledFingerprints, hcur, Option.any_some,
    Option.any_none, Bool.toNat_false]
  omega

theorem taken_parked (userId : Int) (s : Service) (c : ClientMonitor) (nextClient : Nat) :
    Service.taken { s with pendingClient := some c, nextClient } userId ≤
      s.taken userId + (c.enrolls userId).toNat := by
  simp only [Service.taken, Service.enrolling, enrolledFingerprints, Option.any_some]
  omega

theorem taken_dropped (s : Service) :
    Service.taken { s with currentClient := none } userId ≤ s.taken userId := by
  simp only [Service.taken, Service.enrolling, enrolledFingerprints, Option.any_none,
    Bool.toNat_false]
  omega

theorem enrolls_of_not_isEnroll (h : c.kind.isEnroll = false) : c.enrolls userId = false := by
  rw [ClientMonitor.enrolls, h, Bool.false_and]

theorem Effect.taken (h : Effect r s out s') (hr : r.isEnrollment = false)
    (hstores : r.stores = false) : s'.taken userId ≤ s.taken userId := by
  have hmade : ∀ {s : Service} {c : ClientMonitor}, r.Makes s c.kind →
      c.enrolls userId = false := by
    intro s c hmakes
    refine enrolls_of_not_isEnroll (Bool.eq_false_iff.mpr fun hkind => ?_)
    exact absurd (hr.symm.trans (hmakes.enroll hkind)) (by decide)
  cases h with
  | own h => exact Nat.le_of_eq h.state.taken
  | begin hmakes _ hcur _ htouch =>
    rw [htouch.taken, taken_begun hcur, hmade hmakes]
    exact Nat.le_refl _
  | @park _ c _ _ hmakes _ _ _ htouch =>
    have hpark := taken_parked userId s c (s.nextClient + 1)
    rw [hmade hmakes] at hpark
    exact htouch.taken ▸ hpark
  | stop _ _ htouch => exact Nat.le_of_eq htouch.taken
  | resume _ hcur hpend _ htouch =>
    rw [htouch.taken]
    simp [Service.taken, Service.enrolling, enrolledFingerprints, hcur, hpend]
  | @crash _ c _ _ hcur _ hkind _ htouch =>
    have hnone : c.enrolls userId = false := enrolls_of_not_isEnroll (by
      cases hkind' : c.kind <;> simp_all [ClientKind.isEnroll, ClientKind.isRemoval])
    rw [htouch.taken, taken_begun hcur, hnone]
    exact Nat.le_refl _
  | store _ hr => exact absurd (hstores.symm.trans hr) (by decide)
  | @unstore current fingerId =>
    have hsub : (s.fingerprints.erase (current.targetUserId, fingerId)).Sublist s.fingerprints :=
      List.erase_sublist
    have hlen := ((hsub.filter (·.1 = userId)).map Prod.snd).length_le
    exact Nat.add_le_add_right hlen _
  | drop => exact taken_dropped s
  | _ => exact Nat.le_refl _

theorem effects_posts (h : Steps (Effect r) s out s') : ∀ o ∈ out, o.enrolls userId = false := by
  refine h.forall_mem fun _ _ _ heffect => heffect.outputs (fun o ho => ?_) fun _ _ _ _ => rfl
  cases o with
  | post r => cases r <;> first | rfl | cases ho
  | _ => rfl

theorem effects_within (h : Steps (Effect r) s out s') (hr : r.isEnrollment = false)
    (hstores : r.stores = false) : Within userId (s.taken userId) out s' where
  posts := effects_posts h
  taken := h.keeps_state (P := fun s' => s'.taken userId ≤ s.taken userId)
    (fun _ _ _ hle heffect => Nat.le_trans (heffect.taken hr hstores) hle) (Nat.le_refl _)

theorem startClient_taken (userId : Int) (w : World) (initiatedByClient : Bool)
    (c : ClientMonitor) (s : Service) :
    (startClient w (some c) initiatedByClient s).state.taken userId ≤
      s.taken userId + (c.enrolls userId).toNat := by
  cases hcur : s.currentClient with
  | none =>
    rw [startClient_none hcur, (start_trace w c _).2.1.taken]
    exact Nat.le_of_eq (taken_begun hcur c s.nextClient)
  | some current =>
    rw [startClient_some hcur, ← (stop_trace w current initiatedByClient s).2.1.taken]
    exact taken_parked _ _ c _

theorem startEnrollment_taken {token receiver : Option Nat} {cryptoToken : Option (List UInt8)}
    {restricted : Bool} {opPackageName : String} (s : Service) :
    (startEnrollment w token cryptoToken user receiver restricted opPackageName s).state.taken
      userId ≤ s.taken userId + (user == userId).toNat := by
  cases cryptoToken with
  | none => exact Nat.le_add_right _ _
  | some cryptoToken =>
    have hres := (updateActiveGroup_readies (w := w) (s := s) user (some opPackageName)).2.2
    have htouch : Touched s _ :=
      (updateActiveGroup_does (r := .resetFailedAttempts) (w := w) user s rfl).2 () hres
    simp only [startEnrollment]
    rw [bind_some hres, ← htouch.taken]
    generalize (updateActiveGroup w user (some opPackageName) s).state = s₁
    cases token with
    | none => exact Nat.le_add_right _ _
    | some token =>
      obtain ⟨c, hc, heq⟩ := new_bind (.enroll cryptoToken) token receiver user user restricted
        opPackageName s₁
      have hstart := startClient_taken userId w true c { s₁ with nextClient := s₁.nextClient + 1 }
      rw [ClientMonitor.enrolls, hc.kind, hc.targetUserId] at hstart
      rw [heq _ _ rfl]
      exact hstart

theorem taken_stored (hcur : s.currentClient = some c) (hkind : c.kind.isEnroll = true)
    (fingerId : Int) :
    Service.taken { s with fingerprints := s.fingerprints ++ [(c.targetUserId, fingerId)]
                           currentClient := none } userId = s.taken userId := by
  by_cases huser : c.targetUserId = userId
  · simp [Service.taken, Service.enrolling, enrolledFingerprints, hcur, ClientMonitor.enrolls,
      hkind, huser]
    omega
  · simp [Service.taken, Service.enrolling, enrolledFingerprints, hcur, ClientMonitor.enrolls,
      hkind, huser]

theorem handleEnrollResult_taken (fingerId groupId : Int) (origin : Option Nat) (s : Service) :
    (handleEnrollResult w fingerId groupId 0 origin s).state.taken userId ≤ s.taken userId := by
  simp only [handleEnrollResult, get_bind]
  cases hcur : s.currentClient with
  | none => exact Nat.le_refl _
  | some client =>
    cases hkind : client.kind.isEnroll with
    | false =>
      simp only [ClientMonitor.onEnrollResult, hkind, Bool.false_eq_true, if_false,
        pure_bind_apply]
      split
      exacts [taken_dropped s, Nat.le_refl _]
    | true =>
      obtain ⟨out, hdone, -⟩ := onEnrollResult_last (w := w) hkind fingerId groupId origin s
      simp only [bind_of_eq hdone, if_true, removeClient, modify_apply]
      exact Nat.le_of_eq (taken_stored hcur hkind fingerId)

theorem runRunnable_within (userId : Int) (w : World) (r : Runnable) (s : Service) :
    Within userId (s.taken userId + (r.enrolls userId).toNat) (runRunnable w r s).trace
      (runRunnable w r s).state := by
  have hsteps := (runRunnable_does w r s s rfl).1
  cases hr : r.isEnrollment with
  | true =>
    refine ⟨effects_posts hsteps, ?_⟩
    cases r with
    | startEnrollment => exact startEnrollment_taken s
    | _ => cases hr
  | false =>
    have hnone : r.enrolls userId = false := by cases r <;> first | rfl | cases hr
    rw [hnone]
    cases hstores : r.stores with
    | false => exact effects_within hsteps hr hstores
    | true =>
      refine ⟨effects_posts hsteps, ?_⟩
      cases r with
      | message message =>
        cases message with
        | enrollResult origin fingerId groupId remaining =>
          obtain rfl : remaining = 0 := of_decide_eq_true hstores
          exact handleEnrollResult_taken fingerId groupId (some origin) s
        | _ => cases hstores
      | _ => cases hstores

theorem binderCall_within {call : BinderCall} (hcall : ∀ token cryptoToken user receiver name,
    call ≠ .enroll token cryptoToken user receiver name) (caller : Caller) (s : Service) :
    Within userId (s.taken userId) (binderCall w caller call s).trace
      (binderCall w caller call s).state := by
  have hpost : ∀ {b : Bool} {runnable : Runnable}, runnable.enrolls userId = false →
      let posting : Handler Unit := if b = true then emit (.post runnable) else pure ()
      Within userId (s.taken userId) (posting s).trace (posting s).state := by
    intro b runnable hrun
    cases b with
    | false => exact ⟨List.forall_mem_nil _, Nat.le_refl _⟩
    | true => exact ⟨List.forall_mem_singleton.mpr hrun, Nat.le_refl _⟩
  obtain ⟨hown, _, hreach⟩ := getFingerprintDaemon_own w w.opening s
  cases call with
  | enroll => exact absurd rfl (hcall _ _ _ _ _)
  | preEnroll | postEnroll =>
    simp only [binderCall]
    split
    · rw [bind_some hreach, pure_apply, List.append_nil]
      exact effects_within (r := .resetFailedAttempts) (.single (.own hown)) rfl rfl
    · exact ⟨List.forall_mem_nil _, Nat.le_refl _⟩
  | authenticate | cancelAuthentication | notifyFpService => exact hpost (b := true) rfl
  | other => exact ⟨List.forall_mem_nil _, Nat.le_refl _⟩
  | cancelEnrollment | setActiveUser | remove | resetTimeout => exact hpost rfl

end

def System.places (y : System) (userId : Int) : Nat :=
  y.service.taken userId + y.queue.countP (·.runnable.enrolls userId)

/-- No user has more places taken than the limit. -/
def Bounded (limit : Nat) (y : System) : Prop := ∀ userId, y.places userId ≤ limit

section

variable {userId : Int} {y : System} {handler : Handler Unit} {limit : Nat} {unprivileged : Bool}

theorem places_eq (y : System) (userId : Int) :
    y.places userId = (enrolledFingerprints y.service userId).length + y.inFlight userId := by
  rw [System.places, System.inFlight, Service.taken]
  omega

theorem foldl_obey_enrolls (unprivileged : Bool) (out : List Output) (y : System) :
    (out.foldl (System.obey unprivileged) y).queue.countP (·.runnable.enrolls userId) =
      y.queue.countP (·.runnable.enrolls userId) + out.countP (·.enrolls userId) := by
  induction out generalizing y with
  | nil => rfl
  | cons o out ih =>
    rw [List.foldl_cons, ih, List.countP_cons]
    cases o with
    | post runnable =>
      have henrolls : (Output.post runnable).enrolls userId = runnable.enrolls userId := rfl
      rw [henrolls, System.obey, List.countP_append, List.countP_singleton, Nat.add_assoc,
        Nat.add_comm (List.countP _ out)]
    | disarmReset =>
      -- the reset that leaves the queue is no enrolment
      have hreset : ∀ posted : Posted, (posted.runnable.enrolls userId &&
          !posted.runnable.isResetClientState) = posted.runnable.enrolls userId := by
        intro posted
        cases posted.runnable <;> simp [Runnable.enrolls, Runnable.isResetClientState]
      have hdisarm : (y.obey unprivileged .disarmReset).queue.countP
          (·.runnable.enrolls userId) = y.queue.countP (·.runnable.enrolls userId) := by
        simp only [System.obey, List.countP_filter, hreset]
      rw [hdisarm]
      rfl
    | _ => rfl

@[simp] theorem binderDied_enrolls (k : Nat) (c : ClientMonitor) :
    (c.binderDied k).enrolls userId = c.enrolls userId := by
  unfold ClientMonitor.binderDied
  split <;> rfl

theorem perform_places {n : Nat} (unprivileged unowned : Bool)
    (h : Within userId n (handler y.service).trace (handler y.service).state) :
    (y.perform unprivileged unowned handler).2.places userId ≤
      n + y.queue.countP (·.runnable.enrolls userId) := by
  have hposts : (handler y.service).trace.countP (·.enrolls userId) = 0 := by
    rw [List.countP_eq_zero]
    intro o ho
    simp [h.posts o ho]
  rw [System.places, perform_service, System.perform, foldl_obey_enrolls, hposts]
  exact Nat.add_le_add_right h.taken _

theorem perform_bounded {y' : System} {unowned : Bool} (hservice : y'.service = y.service)
    (hqueue : y'.queue = y.queue) (hwithin : ∀ userId, Within userId (y.service.taken userId)
      (handler y.service).trace (handler y.service).state)
    (h : Bounded limit y) : Bounded limit (y'.perform unprivileged unowned handler).2 := by
  intro userId
  have hplaces := perform_places (y := y') unprivileged unowned (hservice ▸ hwithin userId)
  rw [hqueue, hservice] at hplaces
  exact Nat.le_trans hplaces (h userId)

theorem enroll_bounded {w : World} {caller : Caller} {token : Option Nat}
    {cryptoToken : Option (List UInt8)} {user : Int} {receiver : Option Nat}
    {opPackageName : String} {unowned : Bool} (hspare : Spare limit y
      (.binder w caller (.enroll token cryptoToken user receiver opPackageName)))
    (h : Bounded limit y) : Bounded limit (y.perform unprivileged unowned
      (binderCall w caller (.enroll token cryptoToken user receiver opPackageName))).2 := by
  intro userId
  rw [System.places, System.perform, foldl_obey_enrolls]
  have hplaces := h userId
  obtain ⟨-, hspare⟩ := hspare
  simp only [binderCall, get_bind] at hspare ⊢
  split
  · next haccept =>
    have hroom := hspare (by rw [if_pos haccept]; simp)
    by_cases huser : user = userId
    · subst huser
      have hposted : [Output.post (.startEnrollment token cryptoToken user receiver
          (!caller.manage) opPackageName)].countP (·.enrolls user) = 1 := by
        simp [Output.enrolls, Runnable.enrolls]
      rw [← places_eq] at hroom
      rw [emit_apply, hposted]
      exact hroom
    · have hposted : [Output.post (.startEnrollment token cryptoToken user receiver
          (!caller.manage) opPackageName)].countP (·.enrolls userId) = 0 := by
        simp [Output.enrolls, Runnable.enrolls, huser]
      rw [emit_apply, hposted]
      exact hplaces
  · exact hplaces

theorem looper_bounded {posted : Posted} {queue : List Posted} (hqueue : y.queue = posted :: queue)
    (w : World) (h : Bounded limit y) :
    Bounded limit (System.perform { y with queue } posted.unprivileged
      (unowned y.service posted.runnable) (runRunnable w posted.runnable)).2 := by
  intro userId
  have hplaces := perform_places (y := { y with queue }) posted.unprivileged
    (unowned y.service posted.runnable) (runRunnable_within userId w posted.runnable y.service)
  have hbound := h userId
  rw [System.places, hqueue, List.countP_cons] at hbound
  refine Nat.le_trans hplaces (Nat.le_trans (Nat.le_of_eq ?_) hbound)
  cases posted.runnable.enrolls userId
  · rfl
  · exact Nat.add_right_comm _ 1 _

theorem step_bounded (y : System) (event : Event) (h : Bounded limit y)
    (hspare : Spare limit y event) : Bounded limit (y.step event).2 := by
  have hpost : ∀ runnable : Runnable, (∀ userId, runnable.enrolls userId = false) →
      Bounded limit (y.perform false false (emit (.post runnable))).2 :=
    fun runnable hrun => perform_bounded rfl rfl (fun userId =>
      ⟨List.forall_mem_singleton.mpr (hrun userId), Nat.le_refl _⟩) h
  have hreset : ∀ userId, Within userId (y.service.taken userId)
      (resetFailedAttempts y.service).trace (resetFailedAttempts y.service).state :=
    fun _ => ⟨List.forall_mem_singleton.mpr rfl, Nat.le_refl _⟩
  unfold System.step
  split
  · exact h
  cases event with
  | binder w caller call =>
    by_cases hcall : ∃ token cryptoToken user receiver name,
        call = .enroll token cryptoToken user receiver name
    · obtain ⟨token, cryptoToken, user, receiver, name, rfl⟩ := hcall
      exact enroll_bounded hspare h
    · simp only [not_exists] at hcall
      exact perform_bounded rfl rfl (fun _ => binderCall_within hcall caller _) h
  | message message | userSwitching userId | eventReport acquiredInfo => exact hpost _ fun _ => rfl
  | looper w =>
    simp only [System.react]
    cases hqueue : y.queue with
    | nil => exact h
    | cons posted queue => exact looper_bounded hqueue w h
  | resetDue =>
    simp only [System.react]
    split
    · exact h
    · intro userId
      simpa [System.places, Runnable.enrolls] using h userId
  | alarmFires =>
    simp only [System.react]
    split <;> exact h
  | lockoutBroadcast =>
    simp only [System.react]
    split
    · exact h
    · exact perform_bounded rfl rfl hreset h
  | permittedBroadcast => exact perform_bounded rfl rfl hreset h
  | daemonDied w =>
    exact perform_bounded rfl rfl
      (fun _ => effects_within (daemonDied_does w _ _ rfl).1 rfl rfl) h
  | clientDied client =>
    refine perform_bounded rfl rfl (fun userId => ⟨List.forall_mem_nil _, Nat.le_of_eq ?_⟩) h
    simp [Fingerprint.clientDied, Service.taken, Service.enrolling, enrolledFingerprints,
      Option.any_map]

end

/-- No user gets beyond the limit where places are spare. -/
theorem serviceRun_enrolled_le (limit : Nat) (daemon : Bool) (halDeviceId currentUserId : Int)
    (fingerprints : List (Int × Int)) (events : List Event)
    (hstart : ∀ userId, (enrolledFingerprints
      (System.start daemon halDeviceId currentUserId fingerprints).service userId).length ≤ limit)
    (hmeets : Meets System.step (Spare limit)
      (.start daemon halDeviceId currentUserId fingerprints) events) (userId : Int) :
    (enrolledFingerprints (run System.step
      (.start daemon halDeviceId currentUserId fingerprints) events).2.service userId).length ≤
        limit := by
  have hbounded : Bounded limit (.start daemon halDeviceId currentUserId fingerprints) :=
    fun userId => hstart userId
  have hplaces := run_invariant_meets step_bounded hbounded hmeets userId
  rw [places_eq] at hplaces
  omega

theorem enrolledFingerprints_length_le {s : Service} (userId : Int) :
    (enrolledFingerprints s userId).length ≤ s.fingerprints.length := by
  rw [enrolledFingerprints, List.length_map]
  exact List.length_filter_le _ _

def enrollEvent (app : Nat) : Event :=
  .binder plainWorld ⟨app, app, true, false, false⟩
    (.enroll (some app) (some []) 0 (some app) "com.android.settings")

def fifthFingerEvents : List Event :=
  [enrollEvent 1, .looper plainWorld, .message (.enrollResult 0 15 0 0), .looper plainWorld]

def fourFingers : List (Int × Int) := [(0, 11), (0, 12), (0, 13), (0, 14)]

theorem serviceRun_enrolled_le_fifthFinger :
    Meets System.step (Spare plainWorld.maxTemplatesPerUser) (.start true 1 0 fourFingers)
      fifthFingerEvents ∧ (enrolledFingerprints (run System.step (.start true 1 0 fourFingers)
      fifthFingerEvents).2.service 0).length ≤ 5 := by
  have hmeets : Meets System.step (Spare plainWorld.maxTemplatesPerUser)
      (.start true 1 0 fourFingers) fifthFingerEvents := by decide +kernel
  exact ⟨hmeets, serviceRun_enrolled_le 5 true 1 0 fourFingers fifthFingerEvents
    (fun userId => Nat.le_trans (enrolledFingerprints_length_le userId) (by decide)) hmeets 0⟩

def sixthFingerEvents : List Event :=
  [enrollEvent 1, .looper plainWorld, .message (.enrollResult 0 15 0 0), enrollEvent 2,
    .looper plainWorld, .looper plainWorld, .message (.enrollResult 1 16 0 0), .looper plainWorld]

theorem sixthFingerEvents_exceed_limit :
    (∀ userId, (enrolledFingerprints (System.start true 1 0 fourFingers).service userId).length ≤
      plainWorld.maxTemplatesPerUser) ∧
    enrolledFingerprints (run System.step (.start true 1 0 fourFingers)
      sixthFingerEvents).2.service 0 = [11, 12, 13, 14, 15, 16] ∧
    plainWorld.maxTemplatesPerUser = 5 := by
  refine ⟨fun userId => ?_, by decide +kernel, rfl⟩
  exact Nat.le_trans (enrolledFingerprints_length_le userId) (by decide)

end WikoPlatform.Fingerprint
