import WikoPlatform.Fingerprint.Effects

/-! Requests that are canceled before they start. `cancelAuthentication` and `cancelEnrollment` look
at the current client only. -/

namespace WikoPlatform.Fingerprint

open Runs Act

/-- The runnable cancels what the token asked for. -/
def Runnable.cancels (w : World) (s : Service) (token : Nat) : Runnable → Bool
  | .cancelAuthentication t opPackageName uid pid =>
    t == some token && (canUseFingerprint w opPackageName uid pid s).result == some true
  | .cancelEnrollment t => t == some token
  | _ => false

/-- The next runnable does. -/
def System.cancels (y : System) (token : Nat) : Event → Bool
  | .looper w => y.queue.head?.any (·.runnable.cancels w y.service token)
  | _ => false

/-- The daemon is called to work for client `k`. -/
def Output.operatesFor (client : Nat) : Output → Bool
  | .daemon (some k) call _ _ => k == client && call.isOperation
  | _ => false

/-- The pending client was not asked for with the token. -/
def NobodyWaits (token : Nat) (trace : List Output) (s : Service) : Prop :=
  ∀ c, s.pendingClient = some c →
    c.kind.isRemoval = true ∨ .created c.id (some token) ∉ trace

instance (token : Nat) (trace : List Output) (s : Service) :
    Decidable (NobodyWaits token trace s) :=
  match h : s.pendingClient with
  | none => .isTrue fun c hc => by simp [h] at hc
  | some c =>
    decidable_of_iff (c.kind.isRemoval = true ∨ .created c.id (some token) ∉ trace)
      ⟨fun hc c' hc' => Option.some.inj (h ▸ hc') ▸ hc, fun hall => hall c h⟩

/-- The client does not wait, and the daemon does not work for it. -/
structure PastStart (k : Nat) (trace : List Output) (s : Service) : Prop where
  exists_ : k < s.nextClient
  pending : ∀ c, s.pendingClient = some c → c.id = k → c.kind.isRemoval = true
  calls : ∀ o ∈ trace, o.operatesFor k = false

section

variable {k failedAttempts : Nat} {trace out : List Output} {s s' : Service} {r : Runnable}
  {o : Output} {c : ClientMonitor} {error : Int}

theorem operatesFor_of_isOwn (h : o.isOwn = true) : o.operatesFor k = false := by
  unfold Output.isOwn at h
  split at h
  exacts [rfl, rfl, rfl, by cases h]

theorem ErrorTrace.not_operates (h : ErrorTrace c error out) : ∀ o ∈ out, o.operatesFor k = false :=
  h.forall fun _ _ _ => rfl

theorem StopTrace.not_operates (h : StopTrace c failedAttempts out) :
    ∀ o ∈ out, o.operatesFor k = false :=
  h.forall rfl (fun _ => operatesFor_of_isOwn)
    (by rintro call answer (rfl | rfl) <;> simp [Output.operatesFor, DaemonCall.isOperation])
    fun _ _ _ => rfl

theorem StartTrace.not_operates (h : StartTrace c failedAttempts out)
    (hc : c.id = k → c.kind.isRemoval = true) : ∀ o ∈ out, o.operatesFor k = false := by
  have hcall : ∀ answer, (Output.daemon (some c.id) c.startDaemonCall failedAttempts
      answer).operatesFor k = false := by
    intro answer
    by_cases hid : c.id = k
    · have hremoval := hc hid
      unfold ClientMonitor.startDaemonCall
      cases hkind : c.kind with
      | removal => simp [Output.operatesFor, DaemonCall.isOperation]
      | authentication | enroll =>
        rw [hkind] at hremoval
        cases hremoval
    · simp [Output.operatesFor, hid]
  exact h.forall rfl (fun _ => operatesFor_of_isOwn) hcall fun _ _ _ => rfl

theorem PastStart.append (h : PastStart k trace s) (hnext : s.nextClient ≤ s'.nextClient)
    (hpend : ∀ c, s'.pendingClient = some c → c.id = k → c.kind.isRemoval = true)
    (hout : ∀ o ∈ out, o.operatesFor k = false) : PastStart k (trace ++ out) s' where
  exists_ := Nat.lt_of_lt_of_le h.exists_ hnext
  pending := hpend
  calls o ho := (List.mem_append.mp ho).elim (h.calls o) (hout o)

theorem PastStart.still (h : PastStart k trace s) (hnext : s'.nextClient = s.nextClient)
    (hpend : s'.pendingClient = s.pendingClient)
    (hout : ∀ o ∈ out, o.operatesFor k = false) : PastStart k (trace ++ out) s' :=
  h.append (Nat.le_of_eq hnext.symm) (by rw [hpend]; exact h.pending) hout

theorem effect_pastStart (h : PastStart k trace s) (he : Effect r s out s') :
    PastStart k (trace ++ out) s' := by
  have hnew : ∀ c : ClientMonitor, c.id = s.nextClient → c.id = k → c.kind.isRemoval = true :=
    fun c hid hk => absurd h.exists_ (by omega)
  cases he with
  | own hown =>
    exact h.still hown.state.nextClient hown.state.pendingClient
      fun o ho => operatesFor_of_isOwn (hown.trace o ho)
  | stats | schedule | drop => exact h.still rfl rfl (List.forall_mem_nil _)
  | counted | postReset | reset | disarm | tell | fail | store | unstore =>
    exact h.still rfl rfl (by simp [Output.operatesFor])
  | refuse _ _ _ htold =>
    exact h.append (Nat.le_succ _) h.pending (List.forall_mem_cons.mpr ⟨rfl, htold.not_operates⟩)
  | begin _ hid _ hstart htouch =>
    refine h.append ?_ ?_ (List.forall_mem_cons.mpr ⟨rfl, hstart.not_operates (hnew _ hid)⟩)
    · rw [htouch.nextClient]
      exact Nat.le_succ _
    · rw [htouch.pendingClient]
      exact h.pending
  | @park _ c _ _ _ hid _ hstop htouch =>
    refine h.append ?_ ?_ ?_
    · rw [htouch.nextClient]
      exact Nat.le_succ _
    · rw [htouch.pendingClient]
      rintro _ ⟨rfl⟩
      exact hnew c hid
    · simpa [Output.operatesFor, or_imp, forall_and] using hstop.not_operates
  | stop _ hstop htouch =>
    exact h.still htouch.nextClient htouch.pendingClient hstop.not_operates
  | resume _ _ hpend hstart htouch =>
    refine h.append (Nat.le_of_eq htouch.nextClient.symm) ?_
      (hstart.not_operates (h.pending _ hpend))
    simp [htouch.pendingClient]
  | crash _ _ hpend _ hstart htouch =>
    exact h.still htouch.nextClient htouch.pendingClient
      (hstart.not_operates (h.pending _ hpend))

theorem change_pastStart (h : PastStart k trace s) (hc : Change r s out s') :
    PastStart k (trace ++ out) s' := by
  cases hc with
  | effect he => exact effect_pastStart h he
  | post => exact h.still rfl rfl (by simp [Output.operatesFor])
  | alarmFired => exact h.still rfl rfl (List.forall_mem_nil _)
  | died client =>
    refine h.append (Nat.le_refl _) ?_ (List.forall_mem_nil _)
    intro c hc hid
    obtain ⟨c', hc', rfl⟩ := Option.map_eq_some_iff.mp hc
    rw [binderDied_kind]
    exact h.pending c' hc' ((binderDied_id client c').symm.trans hid)

/-- Every client that was created has a number below the next one. -/
def Numbered (trace : List Output) (s : Service) : Prop :=
  ∀ k token, .created k token ∈ trace → k < s.nextClient

/-- A client is created. -/
def Output.isCreated : Output → Bool
  | .created .. => true
  | _ => false

theorem isCreated_of_isOwn (h : o.isOwn = true) : o.isCreated = false := by
  unfold Output.isOwn at h
  split at h
  exacts [rfl, rfl, rfl, by cases h]

theorem ErrorTrace.not_created (h : ErrorTrace c error out) : ∀ o ∈ out, o.isCreated = false :=
  h.forall fun _ _ _ => rfl

theorem StartTrace.not_created (h : StartTrace c failedAttempts out) :
    ∀ o ∈ out, o.isCreated = false :=
  h.forall rfl (fun _ => isCreated_of_isOwn) (fun _ => rfl) fun _ _ _ => rfl

theorem StopTrace.not_created (h : StopTrace c failedAttempts out) :
    ∀ o ∈ out, o.isCreated = false :=
  h.forall rfl (fun _ => isCreated_of_isOwn) (fun _ _ _ => rfl) fun _ _ _ => rfl

theorem Numbered.still (h : Numbered trace s) (hnext : s'.nextClient = s.nextClient)
    (hout : ∀ o ∈ out, o.isCreated = false) : Numbered (trace ++ out) s' := by
  intro k token hmem
  rw [hnext]
  rcases List.mem_append.mp hmem with hmem | hmem
  · exact h k token hmem
  · cases hout _ hmem

theorem Numbered.create (h : Numbered trace s) {token : Option Nat} (hk : k = s.nextClient)
    (hnext : s'.nextClient = s.nextClient + 1) (hout : ∀ o ∈ out, o.isCreated = false) :
    Numbered (trace ++ Output.created k token :: out) s' := by
  intro k' token' hmem
  rw [hnext]
  rcases List.mem_append.mp hmem with hmem | hmem
  · exact Nat.lt_succ_of_lt (h k' token' hmem)
  · rcases List.mem_cons.mp hmem with hmem | hmem
    · obtain ⟨rfl, -⟩ := Output.created.inj hmem
      omega
    · cases hout _ hmem

theorem effect_numbered (h : Numbered trace s) (he : Effect r s out s') :
    Numbered (trace ++ out) s' := by
  cases he with
  | own hown =>
    exact h.still hown.state.nextClient fun o ho => isCreated_of_isOwn (hown.trace o ho)
  | stats | schedule | drop => exact h.still rfl (List.forall_mem_nil _)
  | counted | postReset | reset | disarm | tell | fail | store | unstore =>
    exact h.still rfl (by simp [Output.isCreated])
  | refuse _ hid _ htold => exact h.create hid rfl htold.not_created
  | begin _ hid _ hstart htouch => exact h.create hid htouch.nextClient hstart.not_created
  | park _ hid _ hstop htouch =>
    refine h.create hid htouch.nextClient ?_
    simpa [Output.isCreated, or_imp, forall_and] using hstop.not_created
  | stop _ hstop htouch => exact h.still htouch.nextClient hstop.not_created
  | resume _ _ _ hstart htouch | crash _ _ _ _ hstart htouch =>
    exact h.still htouch.nextClient hstart.not_created

theorem change_numbered (h : Numbered trace s) (hc : Change r s out s') :
    Numbered (trace ++ out) s' := by
  cases hc with
  | effect he => exact effect_numbered h he
  | post => exact h.still rfl (by simp [Output.isCreated])
  | alarmFired | died => exact h.still rfl (List.forall_mem_nil _)

end

theorem run_numbered (daemon : Bool) (halDeviceId currentUserId : Int)
    (fingerprints : List (Int × Int)) (events : List Event) :
    Numbered (run System.step (.start daemon halDeviceId currentUserId fingerprints) events).1
      (run System.step (.start daemon halDeviceId currentUserId fingerprints)
        events).2.service := by
  have hdrop : ∀ trace s client receiver unowned, Numbered trace s →
      Numbered (trace ++ [Output.dropped client receiver unowned]) s :=
    fun _ _ _ _ _ h => h.still rfl (by simp [Output.isCreated])
  have hstart : Numbered []
      (System.start daemon halDeviceId currentUserId fingerprints).service :=
    fun _ _ h => absurd h List.not_mem_nil
  exact run_keeps (fun _ _ _ _ _ => change_numbered) hdrop hstart events

theorem run_pastStart {k : Nat} {y : System} (h : PastStart k [] y.service)
    {events : List Event} : ∀ o ∈ (run System.step y events).1, o.operatesFor k = false := by
  have hdrop : ∀ trace s client receiver unowned, PastStart k trace s →
      PastStart k (trace ++ [Output.dropped client receiver unowned]) s :=
    fun _ _ _ _ _ h => h.still rfl rfl (by simp [Output.operatesFor])
  exact (run_keeps (fun _ _ _ _ _ => change_pastStart) hdrop h events).calls

theorem serviceRun_cancelHonoured (daemon : Bool) (halDeviceId currentUserId : Int)
    (fingerprints : List (Int × Int)) (before after : List Event) (cancel : Event) (token : Nat) :
    let start : System := .start daemon halDeviceId currentUserId fingerprints
    let reached := run System.step start before
    reached.2.cancels token cancel = true → NobodyWaits token reached.1 reached.2.service →
      ∀ k, .created k (some token) ∈ reached.1 →
        ∀ o ∈ (run System.step reached.2 (cancel :: after)).1, o.operatesFor k = false := by
  intro start reached _ hwaits k hcreate
  have hnumbered := run_numbered daemon halDeviceId currentUserId fingerprints before
  refine run_pastStart ⟨hnumbered k _ hcreate, fun c hc hid => ?_, List.forall_mem_nil _⟩
  rcases hwaits c hc with hremoval | hother
  · exact hremoval
  · rw [hid] at hother
    exact absurd hcreate hother

def cancelEvent (app : Nat) : Event :=
  .binder plainWorld ⟨app, app, false, true, false⟩ (.cancelAuthentication (some app) "app")

theorem serviceRun_cancelHonoured_current :
    let reached := run System.step (.start true 1 0 [])
      [authenticateEvent 1, .looper plainWorld, cancelEvent 1]
    (reached.2.cancels 1 (.looper plainWorld) = true ∧
        NobodyWaits 1 reached.1 reached.2.service ∧ .created 0 (some 1) ∈ reached.1) ∧
      ∀ o ∈ (run System.step reached.2
        [.looper plainWorld, .message (.error 5), .looper plainWorld]).1,
        o.operatesFor 0 = false := by
  intro reached
  have h : reached.2.cancels 1 (.looper plainWorld) = true ∧
      NobodyWaits 1 reached.1 reached.2.service ∧ .created 0 (some 1) ∈ reached.1 := by
    decide +kernel
  exact ⟨h, serviceRun_cancelHonoured true 1 0 []
    [authenticateEvent 1, .looper plainWorld, cancelEvent 1]
    [.message (.error 5), .looper plainWorld] (.looper plainWorld) 1 h.1 h.2.1 0 h.2.2⟩

def canceledPendingEvents : List Event :=
  [authenticateEvent 1, .looper plainWorld, authenticateEvent 2, .looper plainWorld, cancelEvent 2]

theorem canceledPendingEvents_started :
    let reached := run System.step (.start true 1 0 []) canceledPendingEvents
    reached.2.cancels 2 (.looper plainWorld) = true ∧ .created 1 (some 2) ∈ reached.1 ∧
      ∃ o ∈ (run System.step reached.2
        [.looper plainWorld, .message (.error 5), .looper plainWorld]).1,
        o.operatesFor 1 = true := by
  decide +kernel

end WikoPlatform.Fingerprint
