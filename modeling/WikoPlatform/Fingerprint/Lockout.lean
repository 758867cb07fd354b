import WikoPlatform.Fingerprint.Mild

/-! Authentication and lockout. A client that was accepted and had to wait is started without
another look at the counter. -/

namespace WikoPlatform.Fingerprint

open Runs Act

/-- `authenticate` is called with attempts left. -/
def UnlockedCall : Output → Prop
  | .daemon _ (.authenticate _ _) failedAttempts _ => failedAttempts < maxFailedAttempts
  | _ => True

instance (o : Output) : Decidable (UnlockedCall o) := by
  unfold UnlockedCall
  split <;> infer_instance

def authenticating (client : Option ClientMonitor) : Bool :=
  client.any (·.kind.isAuthentication)

/-- A mismatch does not lock while an authentication waits. -/
def LocksAlone (y : System) (event : Event) : Prop :=
  (y.running event).fails = true → authenticating y.service.currentClient = true →
    maxFailedAttempts ≤ y.service.failedAttempts + 1 →
      authenticating y.service.pendingClient = false

instance (y : System) (event : Event) : Decidable (LocksAlone y event) :=
  inferInstanceAs (Decidable (_ → _ → _ → _))

structure Unlocked (trace : List Output) (s : Service) : Prop where
  calls : ∀ o ∈ trace, UnlockedCall o
  pending : authenticating s.pendingClient = true → s.failedAttempts < maxFailedAttempts

section

variable {trace out : List Output} {s s' : Service} {r : Runnable} {c : ClientMonitor}
  {failedAttempts : Nat}

theorem UnlockedCall.of_isOwn {o : Output} (h : o.isOwn = true) : UnlockedCall o := by
  unfold Output.isOwn at h
  split at h
  exacts [trivial, trivial, trivial, by cases h]

theorem ErrorTrace.unlocked {error : Int} (h : ErrorTrace c error out) :
    ∀ o ∈ out, UnlockedCall o :=
  h.forall fun _ _ _ => trivial

theorem StopTrace.unlocked (h : StopTrace c failedAttempts out) : ∀ o ∈ out, UnlockedCall o :=
  h.forall trivial (fun _ => .of_isOwn) (by rintro call answer (rfl | rfl) <;> trivial)
    fun _ _ _ => trivial

theorem StartTrace.unlocked (hout : StartTrace c failedAttempts out)
    (h : c.kind.isAuthentication = true → failedAttempts < maxFailedAttempts) :
    ∀ o ∈ out, UnlockedCall o := by
  refine hout.forall trivial (fun _ => .of_isOwn) (fun answer => ?_) fun _ _ _ => trivial
  unfold ClientMonitor.startDaemonCall
  cases hkind : c.kind with
  | authentication opId => exact h (by rw [hkind]; rfl)
  | enroll | removal => trivial

theorem authenticating_binderDied (k : Nat) (client : Option ClientMonitor) :
    authenticating (client.map (·.binderDied k)) = authenticating client := by
  cases client with
  | none => rfl
  | some c => simp [authenticating]

theorem lt_of_not_inLockoutMode (h : s.inLockoutMode = false) :
    s.failedAttempts < maxFailedAttempts := by
  simpa [Service.inLockoutMode] using h

theorem Unlocked.append (h : Unlocked trace s) (hout : ∀ o ∈ out, UnlockedCall o)
    (hpend : authenticating s'.pendingClient = true → s'.failedAttempts < maxFailedAttempts) :
    Unlocked (trace ++ out) s' where
  calls o ho := (List.mem_append.mp ho).elim (h.calls o) (hout o)
  pending := hpend

theorem effect_unlocked (hr : r.fails = false) (h : Unlocked trace s) (he : Effect r s out s') :
    Unlocked (trace ++ out) s' := by
  cases he with
  | own hown =>
    refine h.append (fun o ho => .of_isOwn (hown.trace o ho)) ?_
    rw [hown.state.pendingClient, hown.state.failedAttempts]
    exact h.pending
  | stats | schedule | drop => exact h.append (List.forall_mem_nil _) h.pending
  | counted | postReset | disarm | store | unstore | tell =>
    exact h.append (by simp [UnlockedCall]) h.pending
  | reset => exact h.append (by simp [UnlockedCall]) fun _ => Nat.succ_pos 4
  | refuse _ _ _ htold =>
    exact h.append (List.forall_mem_cons.mpr ⟨trivial, htold.unlocked⟩) h.pending
  | begin hmakes _ _ hstart htouch =>
    refine h.append (List.forall_mem_cons.mpr ⟨trivial, hstart.unlocked ?_⟩) ?_
    · exact fun hkind => lt_of_not_inLockoutMode (hmakes.authentication hkind).2
    · rw [htouch.pendingClient, htouch.failedAttempts]
      exact h.pending
  | park hmakes _ hcur hstop htouch =>
    refine h.append ?_ ?_
    · simpa [UnlockedCall, or_imp, forall_and] using hstop.unlocked
    · rw [htouch.pendingClient, htouch.failedAttempts]
      exact fun hkind => lt_of_not_inLockoutMode (hmakes.authentication hkind).2
  | stop hcur hstop htouch =>
    refine h.append hstop.unlocked ?_
    rw [htouch.pendingClient, htouch.failedAttempts]
    exact h.pending
  | resume _ _ hpend hstart htouch =>
    refine h.append (hstart.unlocked fun hkind => h.pending ?_) ?_
    · rw [hpend]
      exact hkind
    · rw [htouch.pendingClient]
      rintro ⟨⟩
  | @crash _ c _ _ _ hpend hkind hstart htouch =>
    refine h.append (hstart.unlocked fun hauth => ?_) ?_
    · cases hc : c.kind <;> rw [hc] at hkind hauth <;>
        simp [ClientKind.isRemoval, ClientKind.isAuthentication] at hkind hauth
    · rw [htouch.pendingClient, htouch.failedAttempts]
      exact h.pending
  | fail hfails => rw [hr] at hfails; cases hfails

theorem change_unlocked (hr : r.fails = false) (h : Unlocked trace s) (hc : Change r s out s') :
    Unlocked (trace ++ out) s' := by
  cases hc with
  | effect he => exact effect_unlocked hr h he
  | post => exact h.append (by simp [UnlockedCall]) h.pending
  | alarmFired => exact h.append (List.forall_mem_nil _) h.pending
  | died k =>
    refine h.append (List.forall_mem_nil _) fun hpend => h.pending ?_
    rw [← hpend]
    exact (authenticating_binderDied k s.pendingClient).symm

end

def Output.isReport : Output → Bool
  | .callback .. | .counted .. => true
  | _ => false

/-- What a mismatch does to the service: it counts once, and a client that is locked out is given
up. -/
structure Mismatched (s : Service) (o : Outcome Service Output Unit) : Prop where
  trace : ∃ told rest client origin, o.trace = told ++ .failedAttempt client origin :: rest ∧
    ∀ out ∈ told ++ rest, out.isReport = true
  failedAttempts : o.state.failedAttempts = s.failedAttempts + 1
  pendingClient : o.state.pendingClient = s.pendingClient
  alarm : o.result.isSome = true → o.state.alarm = (s.alarm || o.state.inLockoutMode)
  currentClient : o.result.isSome = true → o.state.inLockoutMode = true →
    o.state.currentClient = none

section

variable {w : World} {s : Service} {c : ClientMonitor}

theorem count_reports (counter : Counter) (s : Service) :
    ∃ out result, count counter s = ⟨out, s, result⟩ ∧ ∀ o ∈ out, o.isReport = true := by
  cases h : s.performanceStats with
  | none => exact ⟨[], none, by simp [count, h], List.forall_mem_nil _⟩
  | some key =>
    exact ⟨[.counted key counter], some (), by simp [count, h], List.forall_mem_singleton.mpr rfl⟩

theorem send_reports (callback : Callback) (origin : Option Nat) (s : Service) :
    ∃ out heard, c.send w callback origin s = ⟨out, s, some heard⟩ ∧
      ∀ o ∈ out, o.isReport = true := by
  obtain ⟨out, heard, heq, hout⟩ := send_eq callback origin s
  refine ⟨out, heard, heq, fun o ho => ?_⟩
  obtain ⟨receiver, delivered, rfl⟩ := hout o ho
  rfl

theorem handleFailedAttempt_eq (origin : Option Nat) (s : Service) :
    ∃ counted alarm result, c.handleFailedAttempt origin s =
        ⟨.failedAttempt c.id origin :: counted,
          { s with failedAttempts := s.failedAttempts + 1, alarm }, result⟩ ∧
      (∀ o ∈ counted, o.isReport = true) ∧ ∀ locked, result = some locked →
        locked = decide (maxFailedAttempts ≤ s.failedAttempts + 1) ∧
          alarm = (s.alarm || locked) := by
  let s₁ : Service := { s with failedAttempts := s.failedAttempts + 1 }
  obtain ⟨counted, result, hcount, hcounted⟩ := count_reports .lockout s₁
  simp only [ClientMonitor.handleFailedAttempt, modify_bind, emit_bind, get_bind]
  by_cases hmax : s.failedAttempts + 1 = maxFailedAttempts
  · simp only [if_pos hmax]
    cases result with
    | none =>
      rw [bind_none (by rw [hcount]), hcount]
      exact ⟨counted, s.alarm, none, rfl, hcounted, by simp⟩
    | some _ =>
      rw [bind_of_eq hcount]
      refine ⟨counted, true, some true, ?_, hcounted, ?_⟩
      · simp [Service.inLockoutMode, hmax, s₁]
      · simp [hmax]
  · simp only [if_neg hmax]
    refine ⟨[], s.alarm || decide (maxFailedAttempts ≤ s.failedAttempts + 1),
      some (decide (maxFailedAttempts ≤ s.failedAttempts + 1)), ?_, List.forall_mem_nil _, by simp⟩
    by_cases hmode : maxFailedAttempts ≤ s.failedAttempts + 1 <;>
      simp [Service.inLockoutMode, hmode]

theorem onAuthenticated_mismatch (groupId : Int) (origin : Option Nat) (s : Service) :
    ∃ told rest alarm result, c.onAuthenticated w 0 groupId origin s =
        ⟨told ++ .failedAttempt c.id origin :: rest,
          { s with failedAttempts := s.failedAttempts + 1, alarm }, result⟩ ∧
      (∀ o ∈ told ++ rest, o.isReport = true) ∧ ∀ done, result = some done →
        alarm = (s.alarm || decide (maxFailedAttempts ≤ s.failedAttempts + 1)) ∧
          (maxFailedAttempts ≤ s.failedAttempts + 1 → done = true) := by
  obtain ⟨told, heard, hsend, htold⟩ :=
    send_reports (w := w) (c := c) .onAuthenticationFailed origin s
  obtain ⟨counted, alarm, result, hfail, hcounted, hlock⟩ :=
    handleFailedAttempt_eq origin s
  obtain ⟨error, _, herror, hreport⟩ := send_reports (w := w) (c := c) (.onError errorLockout)
    origin { s with failedAttempts := s.failedAttempts + 1, alarm }
  simp only [ClientMonitor.onAuthenticated, ne_eq, not_true_eq_false, if_false, bind_of_eq hsend]
  cases result with
  | none =>
    rw [bind_none (by rw [hfail]), hfail]
    exact ⟨told, counted, alarm, none, rfl, List.forall_mem_append.mpr ⟨htold, hcounted⟩, by simp⟩
  | some locked =>
    obtain ⟨hmode, halarm⟩ := hlock locked rfl
    rw [bind_of_eq hfail, ← hmode]
    have hreports := List.forall_mem_append.mpr ⟨htold, hcounted⟩
    cases locked with
    | false =>
      refine ⟨told, counted, alarm, some (!heard), by simp, hreports, ?_⟩
      rintro _ ⟨⟩
      exact ⟨halarm, fun hle => absurd hle (of_decide_eq_false hmode.symm)⟩
    | true =>
      by_cases hrecv : c.receiver = none
      · simp only [if_true, if_pos hrecv, throw_bind]
        exact ⟨told, counted, alarm, none, by simp, hreports, by simp⟩
      · simp only [if_true, if_neg hrecv, bind_of_eq herror]
        refine ⟨told, counted ++ error, alarm, some true, by simp, ?_, ?_⟩
        · rw [← List.append_assoc]
          exact List.forall_mem_append.mpr ⟨hreports, hreport⟩
        · rintro _ ⟨⟩
          exact ⟨halarm, fun _ => rfl⟩

theorem handleAuthenticated_mismatched (hcur : s.currentClient = some c)
    (hkind : c.kind.isAuthentication = true) (groupId : Int) (origin : Option Nat) :
    Mismatched s (handleAuthenticated w 0 groupId origin s) := by
  obtain ⟨told, rest, alarm, result, heq, hreports, hdone⟩ :=
    onAuthenticated_mismatch groupId origin s
  simp only [handleAuthenticated, get_bind, hcur, hkind, if_true]
  cases result with
  | none =>
    rw [bind_none (by rw [heq]), heq]
    exact ⟨⟨told, rest, _, _, rfl, hreports⟩, rfl, rfl, by simp, by simp⟩
  | some done =>
    obtain ⟨halarm, hleft⟩ := hdone done rfl
    have hend : ∀ s₁ : Service, s₁.failedAttempts = s.failedAttempts + 1 →
        s₁.pendingClient = s.pendingClient → s₁.alarm = alarm →
        (done = true → s₁.currentClient = none) → ∀ counter : Counter,
        Mismatched s ⟨told ++ .failedAttempt c.id origin :: rest ++ (count counter s₁).trace,
          (count counter s₁).state, (count counter s₁).result⟩ := by
      intro s₁ hfail hpend hsame hgone counter
      obtain ⟨counted, result, hcount, hcounted⟩ := count_reports counter s₁
      have hmode : s₁.inLockoutMode = decide (maxFailedAttempts ≤ s.failedAttempts + 1) := by
        rw [Service.inLockoutMode, hfail]
      rw [hcount]
      refine ⟨⟨told, rest ++ counted, c.id, origin, by simp, ?_⟩, hfail, hpend, ?_, ?_⟩
      · rw [← List.append_assoc]
        exact List.forall_mem_append.mpr ⟨hreports, hcounted⟩
      · exact fun _ => by rw [hmode, hsame, halarm]
      · intro _ hlock
        rw [hmode, decide_eq_true_eq] at hlock
        exact hgone (hleft hlock)
    let s₁ : Service := { s with failedAttempts := s.failedAttempts + 1, alarm }
    rw [bind_of_eq heq]
    cases done with
    | true => exact hend { s₁ with currentClient := none } rfl rfl rfl (fun _ => rfl) _
    | false => exact hend s₁ rfl rfl rfl (by simp) _

theorem handleAuthenticated_idle (h : authenticating s.currentClient = false) (groupId : Int)
    (origin : Option Nat) : handleAuthenticated w 0 groupId origin s = ⟨[], s, some ()⟩ := by
  unfold handleAuthenticated
  rw [get_bind]
  cases hcur : s.currentClient with
  | none => rfl
  | some client =>
    have hkind : client.kind.isAuthentication = false := by
      rw [hcur] at h
      exact h
    simp [hkind]

theorem handleAuthenticated_of_authenticating (h : authenticating s.currentClient = true)
    (groupId : Int) (origin : Option Nat) :
    Mismatched s (handleAuthenticated w 0 groupId origin s) := by
  cases hcur : s.currentClient with
  | none => rw [hcur] at h; cases h
  | some c =>
    rw [hcur] at h
    exact handleAuthenticated_mismatched hcur h groupId origin

theorem unlockedCall_of_isReport {o : Output} (h : o.isReport = true) : UnlockedCall o := by
  cases o <;> trivial

theorem mismatch_unlocked {trace : List Output} (h : Unlocked trace s)
    (halone : authenticating s.currentClient = true →
      maxFailedAttempts ≤ s.failedAttempts + 1 → authenticating s.pendingClient = false)
    (groupId : Int) (origin : Option Nat) :
    Unlocked (trace ++ (handleAuthenticated w 0 groupId origin s).trace)
      (handleAuthenticated w 0 groupId origin s).state := by
  cases hauth : authenticating s.currentClient with
  | false => simpa [handleAuthenticated_idle hauth] using h
  | true =>
    have hmismatch := handleAuthenticated_of_authenticating (w := w) hauth groupId origin
    obtain ⟨told, rest, client, _, heq, hreports⟩ := hmismatch.trace
    refine h.append (fun o ho => ?_) fun hwaits => ?_
    · rw [heq] at ho
      rcases List.mem_append.mp ho with ho | ho
      · exact unlockedCall_of_isReport (hreports o (List.mem_append_left rest ho))
      · rcases List.mem_cons.mp ho with rfl | ho
        · trivial
        · exact unlockedCall_of_isReport (hreports o (List.mem_append_right told ho))
    · -- nobody waits if that was the last attempt
      rw [hmismatch.pendingClient] at hwaits
      rw [hmismatch.failedAttempts]
      exact Nat.not_le.mp (mt (halone hauth) (by simp [hwaits]))

end

structure LockoutInvariant (trace : List Output) (y : System) : Prop where
  calls : ∀ o ∈ trace, UnlockedCall o
  pending : y.crashed = false → authenticating y.service.pendingClient = true →
    y.service.failedAttempts < maxFailedAttempts

theorem step_of_fails {y : System} {event : Event} (hcrash : y.crashed = false)
    (h : (y.running event).fails = true) :
    ∃ w origin groupId unowned, ∀ o, o = handleAuthenticated w 0 groupId (some origin) y.service →
      (y.step event).1 = o.trace ++ droppedClient y.service o.state unowned ∧
        (y.step event).2.service = o.state ∧ (y.step event).2.crashed = o.result.isNone := by
  unfold System.running at h
  split at h
  · next w =>
    cases hqueue : y.queue with
    | nil => rw [hqueue] at h; cases h
    | cons posted queue =>
      rw [hqueue] at h
      simp only [List.head?_cons, Option.map_some, Option.getD_some] at h
      unfold Runnable.fails at h
      split at h
      · next origin fingerId groupId hrun =>
        obtain rfl : fingerId = 0 := by simpa using h
        refine ⟨w, origin, groupId, unowned y.service posted.runnable, ?_⟩
        rintro _ rfl
        simp only [System.step, hcrash, Bool.false_eq_true, if_false, System.react, hqueue,
          perform_service, perform_crashed, hrun]
        exact ⟨rfl, rfl, rfl⟩
      · cases h
  · cases h
  · cases h

theorem lockoutInvariant_step (trace : List Output) (y : System) (event : Event)
    (h : LockoutInvariant trace y) (hok : LocksAlone y event) :
    LockoutInvariant (trace ++ (y.step event).1) (y.step event).2 := by
  cases hcrash : y.crashed with
  | true => simpa [System.step, hcrash] using h
  | false =>
    have hunlock : Unlocked trace y.service := ⟨h.calls, h.pending hcrash⟩
    cases hfails : (y.running event).fails with
    | false =>
      have hdrop : ∀ trace s client receiver unowned, Unlocked trace s →
          Unlocked (trace ++ [Output.dropped client receiver unowned]) s :=
        fun _ _ _ _ _ h => h.append (by simp [UnlockedCall]) h.pending
      have hend := step_keeps (fun _ _ _ _ => change_unlocked hfails) hdrop hunlock
      exact ⟨hend.calls, fun _ => hend.pending⟩
    | true =>
      obtain ⟨w, origin, groupId, unowned, hstep⟩ := step_of_fails hcrash hfails
      obtain ⟨htrace, hservice, -⟩ := hstep _ rfl
      have hend := mismatch_unlocked (w := w) hunlock (hok hfails) groupId (some origin)
      rw [htrace, ← List.append_assoc]
      refine ⟨List.forall_mem_append.mpr ⟨hend.calls,
        forall_mem_droppedClient fun _ _ => trivial⟩, fun _ => ?_⟩
      rw [hservice]
      exact hend.pending

/-- No authentication is asked for without attempts left. -/
theorem serviceRun_unlockedCall (daemon : Bool) (halDeviceId currentUserId : Int)
    (fingerprints : List (Int × Int)) (events : List Event)
    (h : Meets System.step LocksAlone (.start daemon halDeviceId currentUserId fingerprints)
      events) :
    ∀ o ∈ (run System.step (.start daemon halDeviceId currentUserId fingerprints) events).1,
      UnlockedCall o := by
  have hstart : LockoutInvariant [] (.start daemon halDeviceId currentUserId fingerprints) :=
    ⟨List.forall_mem_nil _, by rintro _ ⟨⟩⟩
  exact (run_invariant lockoutInvariant_step hstart h).calls

def mismatchEvents (n : Nat) : List Event :=
  (List.replicate n [.message (.authenticated 0 0 0), .looper plainWorld]).flatten

def lockedOutEvents : List Event :=
  [authenticateEvent 1, .looper plainWorld] ++ mismatchEvents 5 ++
    [authenticateEvent 2, .looper plainWorld]

theorem lockedOutEvents_unlockedCall :
    Meets System.step LocksAlone (.start true 1 0 []) lockedOutEvents ∧
      ∀ o ∈ (run System.step (.start true 1 0 []) lockedOutEvents).1, UnlockedCall o :=
  have h : Meets System.step LocksAlone (.start true 1 0 []) lockedOutEvents := by decide +kernel
  ⟨h, serviceRun_unlockedCall true 1 0 [] lockedOutEvents h⟩

def lockedStartEvents : List Event :=
  [authenticateEvent 1, .looper plainWorld] ++ mismatchEvents 4 ++
    [authenticateEvent 2, .looper plainWorld] ++ mismatchEvents 1 ++ [.resetDue, .looper plainWorld]

theorem lockedStartEvents_not_unlockedCall :
    ¬∀ o ∈ (run System.step (.start true 1 0 []) lockedStartEvents).1, UnlockedCall o := by
  decide +kernel

end WikoPlatform.Fingerprint
