import WikoPlatform.Fingerprint.Looper

/-! What the handlers of the fingerprint service can do, said once: every handler is a row of the
effects listed here, so what each effect keeps is kept by every run. -/

namespace WikoPlatform.Fingerprint

open Runs Act

/-- `s'` differs from `s` only in what the service knows of the daemon. -/
structure Touched (s s' : Service) : Prop where
  currentClient : s'.currentClient = s.currentClient
  pendingClient : s'.pendingClient = s.pendingClient
  failedAttempts : s'.failedAttempts = s.failedAttempts
  alarm : s'.alarm = s.alarm
  performanceStats : s'.performanceStats = s.performanceStats
  fingerprints : s'.fingerprints = s.fingerprints
  nextClient : s'.nextClient = s.nextClient

theorem Touched.refl (s : Service) : Touched s s := ⟨rfl, rfl, rfl, rfl, rfl, rfl, rfl⟩

variable {s s' : Service} {r : Runnable} {y : System}

theorem Touched.trans {s₁ s₂ : Service} (h : Touched s s₁) (h' : Touched s₁ s₂) : Touched s s₂ where
  currentClient := h'.currentClient.trans h.currentClient
  pendingClient := h'.pendingClient.trans h.pendingClient
  failedAttempts := h'.failedAttempts.trans h.failedAttempts
  alarm := h'.alarm.trans h.alarm
  performanceStats := h'.performanceStats.trans h.performanceStats
  fingerprints := h'.fingerprints.trans h.fingerprints
  nextClient := h'.nextClient.trans h.nextClient

/-- The service calls the daemon on its own account. -/
def Output.isOwn : Output → Bool
  | .daemon none .openHal _ _ | .daemon none (.setActiveGroup _) _ _ => true
  | .daemon none .cancelAuthentication _ _ => true
  | _ => false

/-- The service only talks to the daemon on its own account. -/
structure Own (s : Service) (out : List Output) (s' : Service) : Prop where
  state : Touched s s'
  trace : ∀ o ∈ out, o.isOwn

theorem Own.refl (s : Service) : Own s [] s := ⟨.refl s, List.forall_mem_nil _⟩

/-- `onError` tells the receiver, if there is one. -/
inductive ErrorTrace (c : ClientMonitor) (error : Int) : List Output → Prop
  | unheard : c.receiver = none → ErrorTrace c error []
  | told (receiver : Nat) (delivered : Bool) : c.receiver = some receiver →
      ErrorTrace c error [.callback c.id receiver c.halDeviceId (.onError error) delivered none]

/-- What `start` of a client shows. -/
inductive StartTrace (c : ClientMonitor) (failedAttempts : Nat) : List Output → Prop
  | unreached (own : List Output) :
    (∀ o ∈ own, o.isOwn) → StartTrace c failedAttempts (.started c.id :: own)
  | called (own : List Output) (answer : Option Int) : (∀ o ∈ own, o.isOwn) →
      StartTrace c failedAttempts (.started c.id ::
        (own ++ [.daemon (some c.id) c.startDaemonCall failedAttempts answer]))
  | refused (own : List Output) (answer : Option Int) {told : List Output} : (∀ o ∈ own, o.isOwn) →
      ErrorTrace c errorHwUnavailable told →
      StartTrace c failedAttempts (.started c.id ::
        (own ++ .daemon (some c.id) c.startDaemonCall failedAttempts answer :: told))

/-- What `stop` of a client shows. -/
inductive StopTrace (c : ClientMonitor) (failedAttempts : Nat) : List Output → Prop
  | unreached (own : List Output) :
    (∀ o ∈ own, o.isOwn) → StopTrace c failedAttempts (.stopped c.id :: own)
  | called (own : List Output) (call : DaemonCall) (answer : Option Int) :
      (∀ o ∈ own, o.isOwn) → call = .cancelAuthentication ∨ call = .cancelEnrollment →
      StopTrace c failedAttempts (.stopped c.id ::
        (own ++ [.daemon (some c.id) call failedAttempts answer]))
  | canceled (own : List Output) (answer : Option Int) {told : List Output} :
      (∀ o ∈ own, o.isOwn) → ErrorTrace c errorCanceled told →
      StopTrace c failedAttempts (.stopped c.id ::
        (own ++ .daemon (some c.id) .cancelEnrollment failedAttempts answer :: told))
  | removal {told : List Output} : ErrorTrace c errorCanceled told →
      StopTrace c failedAttempts (.stopped c.id :: told)

section

variable {P : Output → Prop} {c : ClientMonitor} {failedAttempts : Nat} {out : List Output}

theorem ErrorTrace.forall {error : Int} (h : ErrorTrace c error out)
    (herror : ∀ receiver error delivered,
      P (.callback c.id receiver c.halDeviceId (.onError error) delivered none)) :
    ∀ o ∈ out, P o := by
  cases h with
  | unheard => simp
  | told => simpa using herror _ _ _

theorem StartTrace.tail (h : StartTrace c failedAttempts out) (hown : ∀ o, o.isOwn = true → P o)
    (hcall : ∀ answer, P (.daemon (some c.id) c.startDaemonCall failedAttempts answer))
    (herror : ∀ receiver error delivered,
      P (.callback c.id receiver c.halDeviceId (.onError error) delivered none)) :
    ∃ rest, out = .started c.id :: rest ∧ ∀ o ∈ rest, P o := by
  cases h with
  | unreached own h => exact ⟨own, rfl, fun o ho => hown o (h o ho)⟩
  | called own answer h =>
    refine ⟨_, rfl, fun o ho => ?_⟩
    simp only [List.mem_append, List.mem_cons, List.not_mem_nil, or_false] at ho
    obtain ho | rfl := ho
    exacts [hown o (h o ho), hcall answer]
  | refused own answer h htold =>
    refine ⟨_, rfl, fun o ho => ?_⟩
    simp only [List.mem_append, List.mem_cons] at ho
    obtain ho | rfl | ho := ho
    exacts [hown o (h o ho), hcall answer, htold.forall herror o ho]

theorem StopTrace.tail (h : StopTrace c failedAttempts out) (hown : ∀ o, o.isOwn = true → P o)
    (hcancel : ∀ call answer, call = .cancelAuthentication ∨ call = .cancelEnrollment →
      P (.daemon (some c.id) call failedAttempts answer)) (herror : ∀ receiver error delivered,
      P (.callback c.id receiver c.halDeviceId (.onError error) delivered none)) :
    ∃ rest, out = .stopped c.id :: rest ∧ ∀ o ∈ rest, P o := by
  cases h with
  | unreached own h => exact ⟨own, rfl, fun o ho => hown o (h o ho)⟩
  | called own call answer h hcall =>
    refine ⟨_, rfl, fun o ho => ?_⟩
    simp only [List.mem_append, List.mem_cons, List.not_mem_nil, or_false] at ho
    obtain ho | rfl := ho
    exacts [hown o (h o ho), hcancel call answer hcall]
  | canceled own answer h htold =>
    refine ⟨_, rfl, fun o ho => ?_⟩
    simp only [List.mem_append, List.mem_cons] at ho
    obtain ho | rfl | ho := ho
    exacts [hown o (h o ho), hcancel _ answer (.inr rfl), htold.forall herror o ho]
  | removal htold => exact ⟨_, rfl, htold.forall herror⟩

theorem StartTrace.forall (h : StartTrace c failedAttempts out) (hstarted : P (.started c.id))
    (hown : ∀ o, o.isOwn = true → P o)
    (hcall : ∀ answer, P (.daemon (some c.id) c.startDaemonCall failedAttempts answer))
    (herror : ∀ receiver error delivered,
      P (.callback c.id receiver c.halDeviceId (.onError error) delivered none)) :
    ∀ o ∈ out, P o := by
  obtain ⟨rest, rfl, hrest⟩ := h.tail hown hcall herror
  exact List.forall_mem_cons.mpr ⟨hstarted, hrest⟩

theorem StopTrace.forall (h : StopTrace c failedAttempts out) (hstopped : P (.stopped c.id))
    (hown : ∀ o, o.isOwn = true → P o)
    (hcancel : ∀ call answer, call = .cancelAuthentication ∨ call = .cancelEnrollment →
      P (.daemon (some c.id) call failedAttempts answer)) (herror : ∀ receiver error delivered,
      P (.callback c.id receiver c.halDeviceId (.onError error) delivered none)) :
    ∀ o ∈ out, P o := by
  obtain ⟨rest, rfl, hrest⟩ := h.tail hown hcancel herror
  exact List.forall_mem_cons.mpr ⟨hstopped, hrest⟩

end

def Runnable.origin : Runnable → Option Nat
  | .message (.enrollResult origin ..) | .message (.authenticated origin ..) => some origin
  | _ => none

/-- The runnable can start a client. -/
def Runnable.starts : Runnable → Bool
  | .startEnrollment .. | .authenticate .. | .remove .. | .resetClientState _ => true
  | .message (.error _) => true
  | _ => false

def Runnable.fails : Runnable → Bool
  | .message (.authenticated _ fingerId _) => fingerId == 0
  | _ => false

/-- The runnable can give up the current client. -/
def Runnable.ends : Runnable → Bool
  | .message _ | .resetClientState _ => true
  | _ => false

def Runnable.isAuthenticate : Runnable → Bool
  | .authenticate .. => true
  | _ => false

def DaemonMessage.isCounted : DaemonMessage → Bool
  | .authenticated .. | .acquired _ => true
  | _ => false

def Runnable.isCounted : Runnable → Bool
  | .message m => m.isCounted
  | _ => false

/-- The runnable of a last result. -/
def Runnable.stores : Runnable → Bool
  | .message (.enrollResult _ _ _ remaining) => remaining == 0
  | _ => false

def Runnable.isEnrollment : Runnable → Bool
  | .startEnrollment .. => true
  | _ => false

/-- A client of the kind can be made by the runnable. -/
structure Runnable.Makes (r : Runnable) (s : Service) (kind : ClientKind) : Prop where
  starts : r.starts = true
  authentication : kind.isAuthentication = true →
    r.isAuthenticate = true ∧ s.inLockoutMode = false
  enroll : kind.isEnroll = true → r.isEnrollment = true

/-- One thing that a handler does. -/
inductive Effect (r : Runnable) : Service → List Output → Service → Prop
  | own {s s' : Service} {out : List Output} : Own s out s' → Effect r s out s'
  | stats (s : Service) (key : StatsKey) : r.isAuthenticate = true →
      Effect r s [] { s with performanceStats := some key }
  | counted {s : Service} {key : StatsKey} (counter : Counter) : r.isCounted = true →
      s.performanceStats = some key → Effect r s [.counted key counter] s
  | postReset (s : Service) : Effect r s [.post .resetFailedAttempts] s
  | reset (s : Service) :
      Effect r s [.lockoutReset] { s with failedAttempts := 0, alarm := false }
  | disarm (s : Service) : Effect r s [.disarmReset] s
  -- A new client is turned away in lockout.
  | refuse {s : Service} {c : ClientMonitor} {told : List Output} : r.starts = true →
      c.id = s.nextClient →
      s.inLockoutMode = true → ErrorTrace c errorLockout told →
      Effect r s (.created c.id c.token :: told) { s with nextClient := s.nextClient + 1 }
  | begin {s s' : Service} {c : ClientMonitor} {out : List Output} : r.Makes s c.kind →
      c.id = s.nextClient → s.currentClient = none → StartTrace c s.failedAttempts out →
      Touched { s with nextClient := s.nextClient + 1, currentClient := some c } s' →
      Effect r s (.created c.id c.token :: out) s'
  | park {s s' : Service} {c current : ClientMonitor} {out : List Output} : r.Makes s c.kind →
      c.id = s.nextClient → s.currentClient = some current →
      StopTrace current s.failedAttempts out →
      Touched { s with nextClient := s.nextClient + 1, pendingClient := some c } s' →
      Effect r s
        (.created c.id c.token :: (out ++ [.disarmReset, .armReset current.id])) s'
  | stop {s s' : Service} {current : ClientMonitor} {out : List Output} :
      s.currentClient = some current → StopTrace current s.failedAttempts out → Touched s s' →
      Effect r s out s'
  | resume {s s' : Service} {c : ClientMonitor} {out : List Output} : r.starts = true →
      s.currentClient = none → s.pendingClient = some c → StartTrace c s.failedAttempts out →
      Touched { s with currentClient := some c, pendingClient := none } s' →
      Effect r s out s'
  -- A removal that starts without a daemon ends the process in the middle.
  | crash {s s' : Service} {c : ClientMonitor} {out : List Output} : r.starts = true →
      s.currentClient = none → s.pendingClient = some c → c.kind.isRemoval = true →
      StartTrace c s.failedAttempts out → Touched { s with currentClient := some c } s' →
      Effect r s out s'
  | tell {s : Service} {current : ClientMonitor} {receiver : Nat} {o : Option Nat}
      (callback : Callback) (delivered : Bool) :
      s.currentClient = some current → current.receiver = some receiver → o = none ∨ o = r.origin →
      Effect r s
        [.callback current.id receiver current.halDeviceId callback delivered o] s
  | fail {s : Service} {current : ClientMonitor} : r.fails = true →
      s.currentClient = some current → current.kind.isAuthentication = true →
      Effect r s [.failedAttempt current.id r.origin]
        { s with failedAttempts := s.failedAttempts + 1 }
  | schedule {s : Service} : s.inLockoutMode = true → Effect r s [] { s with alarm := true }
  | store {s : Service} {current : ClientMonitor} (fingerId : Int) : r.stores = true →
      s.currentClient = some current → current.kind.isEnroll = true →
      Effect r s [.stored current.id current.targetUserId fingerId r.origin]
        { s with fingerprints := s.fingerprints ++ [(current.targetUserId, fingerId)] }
  | unstore {s : Service} {current : ClientMonitor} (fingerId : Int) :
      s.currentClient = some current → current.kind.isRemoval = true →
      Effect r s [.unstored current.id current.targetUserId fingerId]
        { s with fingerprints := s.fingerprints.erase (current.targetUserId, fingerId) }
  | drop (s : Service) : r.ends = true → Effect r s [] { s with currentClient := none }

/-- What an effect puts out, but for the counts of a message. -/
def Output.isRoutine : Output → Bool
  | .post .resetFailedAttempts => true
  | .post _ | .counted .. => false
  | _ => true

namespace Effect

variable {out : List Output}

theorem outputs {P : Output → Prop} (h : Effect r s out s')
    (hP : ∀ o : Output, o.isRoutine = true → P o)
    (hcounted : r.isCounted = true → ∀ key counter, s.performanceStats = some key →
      P (.counted key counter)) : ∀ o ∈ out, P o := by
  have hown : ∀ o : Output, o.isOwn = true → P o :=
    fun o ho => hP o (by cases o <;> first | rfl | cases ho)
  have hstart : ∀ {c failedAttempts out}, StartTrace c failedAttempts out → ∀ o ∈ out, P o :=
    fun h => h.forall (hP _ rfl) hown (fun _ => hP _ rfl) fun _ _ _ => hP _ rfl
  have hstop : ∀ {c failedAttempts out}, StopTrace c failedAttempts out → ∀ o ∈ out, P o :=
    fun h => h.forall (hP _ rfl) hown (fun _ _ _ => hP _ rfl) fun _ _ _ => hP _ rfl
  cases h with
  | own h => exact fun o ho => hown o (h.trace o ho)
  | stats | schedule | drop => exact List.forall_mem_nil _
  | counted counter hr hkey => exact List.forall_mem_singleton.mpr (hcounted hr _ _ hkey)
  | postReset | reset | disarm | tell | fail | store | unstore =>
    exact List.forall_mem_singleton.mpr (hP _ rfl)
  | refuse _ _ _ htold =>
    exact List.forall_mem_cons.mpr ⟨hP _ rfl, htold.forall fun _ _ _ => hP _ rfl⟩
  | begin _ _ _ h => exact List.forall_mem_cons.mpr ⟨hP _ rfl, hstart h⟩
  | park _ _ _ h =>
    refine List.forall_mem_cons.mpr ⟨hP _ rfl, List.forall_mem_append.mpr ⟨hstop h, ?_⟩⟩
    exact List.forall_mem_cons.mpr ⟨hP _ rfl, List.forall_mem_singleton.mpr (hP _ rfl)⟩
  | stop _ h => exact hstop h
  | resume _ _ _ h | crash _ _ _ _ h => exact hstart h

theorem performanceStats (h : Effect r s out s') (hr : r.isAuthenticate = false) :
    s'.performanceStats = s.performanceStats := by
  cases h with
  | own h => exact h.state.performanceStats
  | stats _ hauth => rw [hr] at hauth; cases hauth
  | begin _ _ _ _ h | park _ _ _ _ h | stop _ _ h | resume _ _ _ _ h | crash _ _ _ _ _ h =>
    exact h.performanceStats
  | counted | postReset | reset | disarm | refuse | tell | fail | schedule | store | unstore
  | drop => rfl

end Effect

/-! ### The daemon and the clients -/

@[simp] theorem callDaemon_bind {β : Type} (w : World) (client : Option Nat) (call : DaemonCall)
    (f : Option Int → Handler β) (s : Service) : (callDaemon w client call >>= f) s =
      ⟨.daemon client call s.failedAttempts (w.answer call) :: (f (w.answer call) s).trace,
        (f (w.answer call) s).state, (f (w.answer call) s).result⟩ := rfl

theorem setActiveGroup_own (w : World) (grouping : Grouping) (userId : Int)
    (clientPackage : Option String) (s : Service) :
    Own s (setActiveGroup w grouping userId clientPackage s).trace
        (setActiveGroup w grouping userId clientPackage s).state ∧
      (setActiveGroup w grouping userId clientPackage s).result = some () := by
  simp only [setActiveGroup, get_bind]
  split
  · rw [emit_bind]
    split
    · exact ⟨⟨⟨rfl, rfl, rfl, rfl, rfl, rfl, rfl⟩, by simp [Output.isOwn]⟩, rfl⟩
    · exact ⟨⟨.refl s, by simp [Output.isOwn]⟩, rfl⟩
  · exact ⟨.refl s, rfl⟩

theorem getFingerprintDaemon_own (w : World) (opening : Opening) (s : Service) :
    Own s (getFingerprintDaemon w opening s).trace (getFingerprintDaemon w opening s).state ∧
      ∃ reached, (getFingerprintDaemon w opening s).result = some reached := by
  simp only [getFingerprintDaemon, get_bind]
  split
  · exact ⟨.refl s, true, rfl⟩
  cases opening with
  | absent | failed => exact ⟨.refl s, false, rfl⟩
  | opened deviceId currentUser grouping =>
    simp only [emit_bind, modify_bind]
    split
    · -- the group of the current user is set as soon as the HAL is open
      rw [modify_bind]
      obtain ⟨⟨hstate, htrace⟩, hres⟩ := setActiveGroup_own w grouping currentUser none
        { s with halDeviceId := deviceId, daemon := true }
      rw [bind_some hres]
      refine ⟨⟨⟨hstate.1, hstate.2, hstate.3, hstate.4, hstate.5, hstate.6, hstate.7⟩, ?_⟩, true,
        rfl⟩
      simpa [Output.isOwn] using htrace
    · exact ⟨⟨⟨rfl, rfl, rfl, rfl, rfl, rfl, rfl⟩, by simp [Output.isOwn]⟩, false, rfl⟩

theorem onError_trace (w : World) (c : ClientMonitor) (error : Int) (s : Service) :
    ErrorTrace c error (c.onError w error s).trace ∧ (c.onError w error s).state = s ∧
      (c.onError w error s).result = some () := by
  cases h : c.receiver with
  | none =>
    have heq : c.onError w error s = ⟨[], s, some ()⟩ := by
      simp [ClientMonitor.onError, ClientMonitor.send, h, bind, pure]
    rw [heq]
    exact ⟨.unheard h, rfl, rfl⟩
  | some receiver =>
    have heq : c.onError w error s =
        ⟨[.callback c.id receiver c.halDeviceId (.onError error)
          (w.receives receiver (.onError error)) none], s, some ()⟩ := by
      simp [ClientMonitor.onError, ClientMonitor.send, h, bind, pure, emit]
    rw [heq]
    exact ⟨.told receiver _ h, rfl, rfl⟩

theorem start_trace (w : World) (c : ClientMonitor) (s : Service) :
    StartTrace c s.failedAttempts (c.start w s).trace ∧ Touched s (c.start w s).state ∧
      ((c.start w s).result = none → c.kind.isRemoval = true) := by
  obtain ⟨⟨htouch, hown⟩, reached, hreach⟩ := getFingerprintDaemon_own w w.reopening s
  simp only [ClientMonitor.start, emit_bind, bind_some hreach]
  cases reached with
  | true =>
    simp only [if_true, ClientMonitor.startCall, callDaemon_bind, htouch.failedAttempts]
    split
    · obtain ⟨htold, hstate, hres⟩ := onError_trace w c errorHwUnavailable
        (getFingerprintDaemon w w.reopening s).state
      rw [hstate, hres]
      exact ⟨.refused _ _ hown htold, htouch, by simp⟩
    · exact ⟨.called _ _ hown, htouch, by simp⟩
  | false =>
    split
    · next h => simp at h
    · split
      · next hremoval =>
        simp only [throw_apply, List.append_nil]
        exact ⟨.unreached _ hown, htouch, fun _ => hremoval⟩
      · simp only [pure_apply, List.append_nil]
        exact ⟨.unreached _ hown, htouch, by simp⟩

theorem stop_trace (w : World) (c : ClientMonitor) (initiatedByClient : Bool) (s : Service) :
    StopTrace c s.failedAttempts (c.stop w initiatedByClient s).trace ∧
      Touched s (c.stop w initiatedByClient s).state ∧
      (c.stop w initiatedByClient s).result = some () := by
  obtain ⟨⟨htouch, hown⟩, reached, hreach⟩ := getFingerprintDaemon_own w w.reopening s
  simp only [ClientMonitor.stop, emit_bind]
  cases hkind : c.kind with
  | authentication opId =>
    simp only [bind_some hreach]
    cases reached with
    | true =>
      simp only [if_true, callDaemon_bind, htouch.failedAttempts]
      exact ⟨.called _ _ _ hown (.inl rfl), htouch, rfl⟩
    | false =>
      simp only [Bool.false_eq_true, if_false, pure_apply, List.append_nil]
      exact ⟨.unreached _ hown, htouch, trivial⟩
  | enroll cryptoToken =>
    simp only [bind_some hreach]
    cases reached with
    | true =>
      simp only [if_true, callDaemon_bind, htouch.failedAttempts]
      split
      · obtain ⟨htold, hstate, hres⟩ := onError_trace w c errorCanceled
          (getFingerprintDaemon w w.reopening s).state
        rw [hstate, hres]
        exact ⟨.canceled _ _ hown htold, htouch, rfl⟩
      · exact ⟨.called _ _ _ hown (.inr rfl), htouch, rfl⟩
    | false =>
      simp only [Bool.false_eq_true, if_false, pure_apply, List.append_nil]
      exact ⟨.unreached _ hown, htouch, trivial⟩
  | removal fingerId =>
    split
    · obtain ⟨htold, hstate, hres⟩ := onError_trace w c errorCanceled s
      rw [hstate, hres]
      exact ⟨.removal htold, .refl s, rfl⟩
    · exact ⟨.unreached [] (List.forall_mem_nil _), .refl s, rfl⟩

/-! ### Requests -/

section

variable {r : Runnable} {w : World} {s : Service} {P : Service → Prop}
  {initiatedByClient restricted : Bool} {c : ClientMonitor} {kind : ClientKind}
  {token receiver : Option Nat} {targetUserId groupId fingerId userId opId acquiredInfo : Int}
  {owner opPackageName : String} {uid pid : Nat}

theorem does_own {α : Type} {x : Handler α} (h : ∀ s, Own s (x s).trace (x s).state) :
    Does (Effect r) P x (fun _ _ => True) :=
  .step (fun s _ => .own (h s)) (fun _ _ _ _ => trivial)

theorem getFingerprintDaemon_does (opening : Opening) :
    Does (Effect r) (· = s) (getFingerprintDaemon w opening) (fun _ s' => Touched s s') := by
  rintro s rfl
  have hown := (getFingerprintDaemon_own w opening s).1
  exact ⟨.single (.own hown), fun _ _ => hown.state⟩

theorem updateActiveGroup_does (userId : Int) {clientPackage : Option String} :
    Does (Effect r) (· = s) (updateActiveGroup w userId clientPackage)
      (fun _ s' => Touched s s') := by
  refine .bind (getFingerprintDaemon_does w.opening) fun reached => ?_
  split
  · intro s₁ htouch
    have hown := (setActiveGroup_own w w.grouping userId clientPackage s₁).1
    exact ⟨.single (.own hown), fun _ _ => htouch.trans hown.state⟩
  · exact .pure fun _ htouch => htouch

theorem startClient_some {current : ClientMonitor} {newClient : Option ClientMonitor}
    (h : s.currentClient = some current) :
    startClient w newClient initiatedByClient s =
      ⟨(current.stop w initiatedByClient s).trace ++ [Output.disarmReset, .armReset current.id],
        { (current.stop w initiatedByClient s).state with pendingClient := newClient },
        some ()⟩ := by
  simp only [startClient, get_bind, h, bind_some (stop_trace w current initiatedByClient s).2.2]
  rfl

theorem startClient_none (h : s.currentClient = none) : startClient w (some c) initiatedByClient s =
      c.start w { s with currentClient := some c } := by
  simp only [startClient, get_bind, h, modify_bind]

structure Created (kind : ClientKind) (receiver : Option Nat) (targetUserId groupId : Int)
    (s : Service) (c : ClientMonitor) : Prop where
  id : c.id = s.nextClient
  kind : c.kind = kind
  receiver : c.receiver = receiver
  targetUserId : c.targetUserId = targetUserId
  groupId : c.groupId = groupId

theorem new_bind (kind : ClientKind) (token : Nat) (receiver : Option Nat)
    (targetUserId groupId : Int) (restricted : Bool) (owner : String) (s : Service) :
    ∃ c, Created kind receiver targetUserId groupId s c ∧
      ∀ (f : ClientMonitor → Handler Unit) (s₁ : Service),
        s₁ = { s with nextClient := s.nextClient + 1 } →
        (ClientMonitor.new kind (some token) receiver targetUserId groupId restricted owner >>= f)
          s = ⟨.created c.id c.token :: (f c s₁).trace, (f c s₁).state, (f c s₁).result⟩ := by
  refine ⟨{ id := s.nextClient, kind, halDeviceId := s.halDeviceId, token := some token, receiver,
            targetUserId, groupId, isRestricted := restricted, owner },
    ⟨rfl, rfl, rfl, rfl, rfl⟩, ?_⟩
  rintro f _ rfl
  rfl

theorem newClient_does (hmakes : r.Makes s kind) : Does (Effect r) (· = s)
      (ClientMonitor.new kind token receiver targetUserId groupId restricted owner >>=
        fun c => startClient w (some c) true) (fun _ _ => True) := by
  rintro s rfl
  cases token with
  | none => exact ⟨.refl s, by simp⟩
  | some token =>
    obtain ⟨c, hc, heq⟩ := new_bind kind token receiver targetUserId groupId restricted owner s
    let s₁ : Service := { s with nextClient := s.nextClient + 1 }
    rw [← hc.kind] at hmakes
    refine ⟨.single ?_, fun _ _ => trivial⟩
    rw [heq _ s₁ rfl]
    cases hcur : s.currentClient with
    | none =>
      have hstart := start_trace w c { s₁ with currentClient := some c }
      rw [startClient_none (show s₁.currentClient = none from hcur)]
      exact .begin hmakes hc.id hcur hstart.1 hstart.2.1
    | some current =>
      obtain ⟨htrace, htouch, -⟩ := stop_trace w current true s₁
      rw [startClient_some (show s₁.currentClient = some current from hcur)]
      exact .park hmakes hc.id hcur htrace
        ⟨htouch.1, rfl, htouch.3, htouch.4, htouch.5, htouch.6, htouch.7⟩

theorem startRemove_does (hr : r.starts = true) : Does (Effect r) (· = s)
      (startRemove w token fingerId groupId userId receiver restricted) (fun _ _ => True) := by
  refine .bind (getFingerprintDaemon_does w.opening) fun reached => ?_
  split
  · exact .pinned fun _ _ => newClient_does ⟨hr, by rintro ⟨⟩, by rintro ⟨⟩⟩
  · exact .done

theorem startEnrollment_does (hr : r.starts = true) (henroll : r.isEnrollment = true)
    {cryptoToken : Option (List UInt8)} : Does (Effect r) (· = s)
      (startEnrollment w token cryptoToken userId receiver restricted opPackageName)
      (fun _ _ => True) := by
  cases cryptoToken with
  | none => exact .done
  | some cryptoToken =>
    refine .bind (updateActiveGroup_does userId) fun _ => ?_
    exact .pinned fun _ _ => newClient_does ⟨hr, by rintro ⟨⟩, fun _ => henroll⟩

theorem refuse_does (hr : r.starts = true) (hlock : s.inLockoutMode = true) :
    Does (Effect r) (· = s)
      (ClientMonitor.new kind token receiver targetUserId groupId restricted owner >>=
        fun c => c.onError w errorLockout) (fun _ _ => True) := by
  rintro s rfl
  cases token with
  | none => exact ⟨.refl s, by simp⟩
  | some token =>
    obtain ⟨c, hc, heq⟩ := new_bind kind token receiver targetUserId groupId restricted owner s
    obtain ⟨htold, hstate, -⟩ := onError_trace w c errorLockout
      { s with nextClient := s.nextClient + 1 }
    refine ⟨.single ?_, fun _ _ => trivial⟩
    rw [heq _ _ rfl, hstate]
    exact .refuse hr hc.id hlock htold

theorem startAuthentication_does (hr : r.starts = true) (hauth : r.isAuthenticate = true) :
    Does (Effect r) (· = s)
      (startAuthentication w token opId groupId receiver restricted opPackageName)
      (fun _ _ => True) := by
  refine .bind (updateActiveGroup_does groupId) fun _ => ?_
  refine .get_bind fun s₁ _ => ?_
  cases hlock : s₁.inLockoutMode with
  | true =>
    exact refuse_does hr hlock
  | false =>
    exact newClient_does ⟨hr, fun _ => ⟨hauth, hlock⟩, by rintro ⟨⟩⟩

theorem does_current {f : ClientMonitor → Handler Unit}
    (h : ∀ s client, s.currentClient = some client →
      Does (Effect r) (· = s) (f client) (fun _ _ => True)) :
    Does (Effect r) P (do
      match (← get).currentClient with
      | some client => f client
      | none => pure () : Handler Unit) (fun _ _ => True) := by
  refine .get_bind fun s _ => ?_
  cases hcur : s.currentClient with
  | none => exact .done
  | some client => exact h s client hcur

theorem canUseFingerprint_eq (opPackageName : String) (uid pid : Nat) :
    (canUseFingerprint w opPackageName uid pid s).trace = [] ∧
      (canUseFingerprint w opPackageName uid pid s).state = s := by
  simp only [canUseFingerprint, get_bind]
  split
  · exact ⟨rfl, rfl⟩
  split
  · exact ⟨rfl, rfl⟩
  cases w.noteOp uid opPackageName <;> exact ⟨rfl, rfl⟩

theorem canUseFingerprint_bind {β : Type} {allowed : Bool}
    (h : (canUseFingerprint w opPackageName uid pid s).result = some allowed)
    {f : Bool → Handler β} : (canUseFingerprint w opPackageName uid pid >>= f) s = f allowed s := by
  obtain ⟨htrace, hstate⟩ := canUseFingerprint_eq opPackageName uid pid
  rw [bind_some h, htrace, hstate]
  rfl

theorem canUseFingerprint_cases (request : Handler Unit) (s : Service) :
    let guarded : Handler Unit := do if ← canUseFingerprint w opPackageName uid pid then request
    ((canUseFingerprint w opPackageName uid pid s).result ≠ some true ∧
        ∃ result, guarded s = ⟨[], s, result⟩) ∨
      (canUseFingerprint w opPackageName uid pid s).result = some true ∧ guarded s = request s := by
  obtain ⟨htrace, hstate⟩ := canUseFingerprint_eq opPackageName uid pid
  cases hallowed : (canUseFingerprint w opPackageName uid pid s).result with
  | none => exact .inl ⟨by simp, none, by rw [bind_none hallowed, htrace, hstate]⟩
  | some allowed =>
    cases allowed with
    | false => exact .inl ⟨by simp, some (), canUseFingerprint_bind hallowed⟩
    | true => exact .inr ⟨rfl, canUseFingerprint_bind hallowed⟩

theorem canUseFingerprint_does (opPackageName : String) (uid pid : Nat) :
    Does (Effect r) (· = s) (canUseFingerprint w opPackageName uid pid) (fun _ s' => s' = s) := by
  rintro s rfl
  obtain ⟨htrace, hstate⟩ := canUseFingerprint_eq opPackageName uid pid
  rw [htrace, hstate]
  exact ⟨.refl s, fun _ _ => rfl⟩

theorem authenticate_does (hr : r.starts = true) (hauth : r.isAuthenticate = true) :
    Does (Effect r) (· = s)
      (authenticate w token opId groupId receiver restricted opPackageName uid pid)
      (fun _ _ => True) := by
  refine .bind (canUseFingerprint_does opPackageName uid pid) fun allowed => ?_
  split
  · refine .bind (Q := fun _ _ => True) (.step (fun s _ => .stats s _ hauth) fun _ _ _ _ => trivial)
      fun _ => ?_
    exact .pinned fun _ _ => startAuthentication_does hr hauth
  · exact .done

theorem stop_does (h : s.currentClient = some c) :
    Does (Effect r) (· = s) (c.stop w initiatedByClient) (fun _ _ => True) := by
  rintro s rfl
  obtain ⟨htrace, htouch, -⟩ := stop_trace w c initiatedByClient s
  exact ⟨.single (.stop h htrace htouch), fun _ _ => trivial⟩

theorem cancelAuthentication_does :
    Does (Effect r) (· = s) (cancelAuthentication w token opPackageName uid pid)
      (fun _ _ => True) := by
  refine .bind (canUseFingerprint_does opPackageName uid pid) fun allowed => ?_
  split
  · refine does_current fun s client hcur => ?_
    split
    · exact stop_does hcur
    · exact .done
  · exact .done

theorem cancelEnrollment_does :
    Does (Effect r) (· = s) (cancelEnrollment w token) (fun _ _ => True) := by
  refine does_current fun s client hcur => ?_
  split
  · exact stop_does hcur
  · exact .done

theorem notifyFpService_does {msgId : Int} :
    Does (Effect r) (· = s) (notifyFpService w msgId) (fun _ _ => True) := by
  refine .get_bind fun s₁ _ => ?_
  split
  · have hstop : Does (Effect r) (· = s₁) (faceStop w) (fun _ _ => True) := by
      refine .bind (getFingerprintDaemon_does w.opening) fun reached => ?_
      split
      · refine does_own fun s => ⟨.refl s, ?_⟩
        simp [callDaemon, bind, Act.get, emit, Output.isOwn, pure]
      · exact .done
    refine .bind hstop fun _ => ?_
    split
    · exact .step (fun s _ => .postReset s) (fun _ _ _ _ => trivial)
    · exact .done
  · exact .done

/-! ### Messages and timers -/

theorem count_does (hr : r.isCounted = true) {counter : Counter} :
    Does (Effect r) P (count counter) (fun _ s' => P s') := by
  refine .get_bind fun s hP => ?_
  cases hkey : s.performanceStats with
  | none => exact .throw
  | some key =>
    exact .step (fun s hs => .counted counter hr (hs ▸ hkey)) (fun _ hs _ _ => hs ▸ hP)

theorem isCounted_of_fails (hr : r.fails = true) : r.isCounted = true := by
  cases r with
  | message m => cases m <;> first | rfl | cases hr
  | _ => cases hr

theorem send_does {o : Option Nat} {callback : Callback} (h : s.currentClient = some c)
    (ho : o = none ∨ o = r.origin) :
    Does (Effect r) (· = s) (c.send w callback o) (fun _ s' => s' = s) := by
  unfold ClientMonitor.send
  cases hrecv : c.receiver with
  | none => exact .pure fun _ hs => hs
  | some receiver =>
    refine .step ?_ fun _ hs _ _ => hs
    rintro s rfl
    exact .tell callback _ h hrecv ho

theorem onError_does (error : Int) (h : s.currentClient = some c) :
    Does (Effect r) (· = s) (c.onError w error) (fun _ s' => s' = s) :=
  .bind (send_does h (.inl rfl)) fun _ => .pure fun _ hs => hs

theorem onAcquired_does (acquiredInfo : Int) (h : s.currentClient = some c) :
    Does (Effect r) (· = s) (c.onAcquired w acquiredInfo) (fun _ s' => s' = s) :=
  .bind (send_does h (.inl rfl)) fun _ => .pure fun _ hs => hs

theorem removeClient_does (hr : r.ends = true) :
    Does (Effect r) (· = s) removeClient (fun _ s' => s' = { s with currentClient := none }) :=
  .step (fun s _ => .drop s hr) (fun _ hs _ _ => by rw [hs]; rfl)

theorem resetFailedAttempts_does : Does (Effect r) P resetFailedAttempts (fun _ _ => True) :=
  .step (fun s _ => .reset s) (fun _ _ _ _ => trivial)

theorem handleFailedAttempt_does (hr : r.fails = true) (h : s.currentClient = some c)
    (hkind : c.kind.isAuthentication = true) :
    Does (Effect r) (· = s) (c.handleFailedAttempt r.origin)
      (fun _ s' => s'.currentClient = some c) := by
  have hsched : ∀ s₁ : Service, s₁.currentClient = some c → Does (Effect r) (· = s₁)
      (if s₁.inLockoutMode = true then
        (do modify fun s => { s with alarm := true }; pure true) else pure false : Handler Bool)
      (fun _ s' => s'.currentClient = some c) := by
    intro s₁ h₁
    split
    · next hlock =>
      refine .bind (.step ?_ ?_) fun _ =>
        .pure fun _ hs => hs
      · rintro s rfl
        exact .schedule hlock
      · rintro s rfl _ _
        exact h₁
    · exact .pure fun _ hs => hs ▸ h₁
  refine .modify_emit_bind (I := fun s => s.currentClient = some c) ?_ ?_ ?_
  · rintro s rfl
    exact .fail hr h hkind
  · rintro s rfl
    exact h
  refine .get_bind fun s₁ h₁ => ?_
  by_cases hmax : s₁.failedAttempts = maxFailedAttempts
  · simp only [if_pos hmax]
    exact .bind (count_does (isCounted_of_fails hr)) fun _ => hsched s₁ h₁
  · simp only [if_neg hmax]
    exact hsched s₁ h₁

theorem onAuthenticated_does (fingerId groupId : Int) (hr : fingerId = 0 → r.fails = true)
    (h : s.currentClient = some c) (hkind : c.kind.isAuthentication = true) :
    Does (Effect r) (· = s) (c.onAuthenticated w fingerId groupId r.origin) (fun _ _ => True) := by
  unfold ClientMonitor.onAuthenticated
  split
  · refine .bind (send_does h (.inr rfl)) fun _ => ?_
    exact .bind resetFailedAttempts_does fun _ => .done
  · next hfinger =>
    refine .bind (send_does h (.inr rfl)) fun heard => ?_
    refine .bind (handleFailedAttempt_does (hr (not_not.mp hfinger)) h hkind) fun locked => ?_
    split
    · split
      · exact .bind (Q := fun _ _ => False) .throw fun _ _ himpossible => himpossible.elim
      · exact .pinned fun s₁ h₁ => .bind (send_does h₁ (.inr rfl)) fun _ => .done
    · exact .done

theorem onEnrollResult_does (fingerId groupId : Int) {remaining : Int}
    (hr : remaining = 0 → r.stores = true)
    (h : s.currentClient = some c) :
    Does (Effect r) (· = s) (c.onEnrollResult w fingerId groupId remaining r.origin)
      (fun _ _ => True) := by
  have hsend : Does (Effect r) (fun s => s.currentClient = some c)
      (do
        let heard ← c.send w (.onEnrollResult fingerId groupId remaining) r.origin
        pure (!heard || remaining == 0)) (fun _ _ => True) :=
    .pinned fun _ h₁ => .bind (send_does h₁ (.inr rfl)) fun _ => .done
  unfold ClientMonitor.onEnrollResult
  split
  · next hkind =>
    split
    · next hlast =>
      refine .modify_emit_bind ?_ ?_ hsend
      · rintro s rfl
        exact .store fingerId (hr hlast) h hkind
      · rintro s rfl
        exact h
    · exact hsend.mono (fun _ hs => hs ▸ h) fun _ _ _ => trivial
  · exact .done

theorem onRemoved_does (fingerId : Int) (h : s.currentClient = some c)
    (hkind : c.kind.isRemoval = true) :
    Does (Effect r) (· = s) (c.onRemoved w fingerId) (fun _ _ => True) := by
  have hsend : Does (Effect r) (fun s => s.currentClient = some c)
      (do
        let _ ← c.send w (.onRemoved fingerId c.groupId) none
        pure (fingerId == 0)) (fun _ _ => True) :=
    .pinned fun _ h₁ => .bind (send_does h₁ (.inl rfl)) fun _ => .done
  unfold ClientMonitor.onRemoved
  split
  · refine .modify_emit_bind ?_ ?_ hsend
    · rintro s rfl
      exact .unstore fingerId h hkind
    · rintro s rfl
      exact h
  · exact hsend.mono (fun _ hs => hs ▸ h) fun _ _ _ => trivial

theorem startPendingClient_nobody (hpend : s.pendingClient = none) :
    startPendingClient w s = ⟨[], s, some ()⟩ := by
  simp only [startPendingClient, get_bind, hpend, pure_apply]

theorem resetClientState_eq :
    resetClientState w s = startPendingClient w { s with currentClient := none } := by
  simp only [resetClientState, startPendingClient, modify_bind, get_bind]
  cases s.pendingClient with
  | none | some c => rfl

theorem startPendingClient_some (hcur : s.currentClient = none)
    (hpend : s.pendingClient = some c) {o : Outcome Service Output Unit}
    (ho : o = c.start w { s with currentClient := some c }) :
    startPendingClient w s =
      ⟨o.trace, if o.result.isSome then { o.state with pendingClient := none } else o.state,
        o.result⟩ := by
  have hstart : startClient w (some c) false s = o := (startClient_none hcur).trans ho.symm
  simp only [startPendingClient, get_bind, hpend]
  cases hres : o.result with
  | none =>
    rw [bind_none (by rw [hstart, hres]), hstart]
    rfl
  | some _ =>
    rw [bind_some (by rw [hstart, hres]), hstart]
    simp only [modify_apply, List.append_nil]
    rfl

theorem startPendingClient_does (hr : r.starts = true) :
    Does (Effect r) (fun s => s.currentClient = none) (startPendingClient w) (fun _ _ => True) := by
  intro s hcur
  refine ⟨?_, fun _ _ => trivial⟩
  cases hpend : s.pendingClient with
  | none =>
    rw [startPendingClient_nobody hpend]
    exact .refl s
  | some c =>
    obtain ⟨htrace, htouch, hcrash⟩ := start_trace w c { s with currentClient := some c }
    rw [startPendingClient_some hcur hpend rfl]
    refine .single ?_
    cases hres : (c.start w { s with currentClient := some c }).result with
    | none => exact .crash hr hcur hpend (hcrash hres) htrace htouch
    | some _ =>
      exact .resume hr hcur hpend htrace
        ⟨htouch.1, rfl, htouch.3, htouch.4, htouch.5, htouch.6, htouch.7⟩

theorem handleError_does (hr : r.starts = true) (hends : r.ends = true) {error : Int} :
    Does (Effect r) (· = s) (handleError w error) (fun _ _ => True) := by
  have htail : Does (Effect r) (fun s => s.currentClient = none)
      (if error = errorCanceled then (do emit .disarmReset; startPendingClient w) else pure ())
      (fun _ _ => True) := by
    split
    · refine .bind ?_ fun _ => startPendingClient_does hr
      exact .step (fun s _ => .disarm s) (fun _ hs _ _ => hs)
    · exact .done
  refine .get_bind fun s₁ _ => ?_
  cases hcur : s₁.currentClient with
  | none => exact htail.mono (fun _ hs => hs ▸ hcur) fun _ _ _ => trivial
  | some client =>
    refine .bind (onError_does error hcur) fun _ => ?_
    exact .bind (removeClient_does hends) fun _ => htail.mono (fun _ hs => hs ▸ rfl) fun _ _ h => h

theorem handleRemoved_does (hends : r.ends = true) :
    Does (Effect r) (· = s) (handleRemoved w fingerId) (fun _ _ => True) := by
  refine does_current fun s client hcur => ?_
  split
  · next hkind =>
    refine .bind (onRemoved_does fingerId hcur hkind) fun done => ?_
    split
    · exact .pinned fun _ _ => (removeClient_does hends).weaken
    · exact .done
  · exact .done

theorem handleAuthenticated_does (fingerId groupId : Int) (hr : fingerId = 0 → r.fails = true)
    (hends : r.ends = true) (hcounted : r.isCounted = true) :
    Does (Effect r) (· = s) (handleAuthenticated w fingerId groupId r.origin)
      (fun _ _ => True) := by
  refine does_current fun s client hcur => ?_
  split
  · next hkind =>
    refine .bind (onAuthenticated_does fingerId groupId hr hcur hkind) fun done => ?_
    cases done with
    | true =>
      exact .pinned fun _ _ => .bind (removeClient_does hends) fun _ => (count_does hcounted).weaken
    | false => exact (count_does hcounted).weaken
  · exact .done

theorem handleAcquired_does (hends : r.ends = true) (hcounted : r.isCounted = true) :
    Does (Effect r) (· = s) (handleAcquired w acquiredInfo) (fun _ _ => True) := by
  refine does_current fun s client hcur => ?_
  have hcount : Does (Effect r) (fun _ => True)
      (do
        let s ← get
        if s.performanceStats.isSome && !s.inLockoutMode && client.kind.isAuthentication then
          count .acquire) (fun _ _ => True) := by
    refine .get_bind fun s₂ _ => ?_
    split
    · exact (count_does hcounted).weaken
    · exact .done
  refine .bind (onAcquired_does acquiredInfo hcur) fun done => ?_
  split
  · refine .pinned fun _ _ => ?_
    exact .bind (removeClient_does hends) fun _ => hcount.mono (fun _ _ => trivial) fun _ _ h => h
  · exact hcount.mono (fun _ _ => trivial) fun _ _ h => h

theorem handleEnrollResult_does (hends : r.ends = true) {remaining : Int}
    (hr : remaining = 0 → r.stores = true) :
    Does (Effect r) (· = s) (handleEnrollResult w fingerId groupId remaining r.origin)
      (fun _ _ => True) := by
  refine does_current fun s client hcur => ?_
  refine .bind (onEnrollResult_does fingerId groupId hr hcur) fun done => ?_
  split
  · exact .pinned fun _ _ => (removeClient_does hends).weaken
  · exact .done

theorem resetClientState_does (hr : r.starts = true) (hends : r.ends = true) :
    Does (Effect r) (· = s) (resetClientState w) (fun _ _ => True) := by
  intro s _
  rw [resetClientState_eq]
  exact ⟨.head (.drop s hends) (startPendingClient_does hr _ rfl).1, fun _ _ => trivial⟩

end

theorem handleMessage_does (w : World) (m : DaemonMessage) (s : Service) :
    Does (Effect (.message m)) (· = s) (handleMessage w m) (fun _ _ => True) := by
  cases m with
  | enrollResult origin fingerId groupId remaining =>
    exact handleEnrollResult_does rfl (by rintro rfl; rfl)
  | acquired acquiredInfo => exact handleAcquired_does rfl rfl
  | authenticated origin fingerId groupId =>
    refine handleAuthenticated_does _ _ ?_ rfl rfl
    rintro rfl
    rfl
  | error code => exact handleError_does rfl rfl
  | removed fingerId groupId => exact handleRemoved_does rfl

theorem runRunnable_does (w : World) (r : Runnable) (s : Service) :
    Does (Effect r) (· = s) (runRunnable w r) (fun _ _ => True) := by
  cases r with
  | message m => exact handleMessage_does w m s
  | startEnrollment => exact startEnrollment_does rfl rfl
  | cancelEnrollment => exact cancelEnrollment_does
  | authenticate => exact authenticate_does rfl rfl
  | cancelAuthentication => exact cancelAuthentication_does
  | updateActiveGroup => exact (updateActiveGroup_does _).weaken
  | remove => exact startRemove_does rfl
  | resetFailedAttempts => exact resetFailedAttempts_does
  | resetClientState => exact resetClientState_does rfl rfl
  | notifyFpService => exact notifyFpService_does
  | handleAcq =>
    exact does_current fun _ _ hcur => .bind (onAcquired_does _ hcur) fun _ => .done

theorem daemonDied_does (w : World) (s : Service) :
    Does (Effect (.message (.error errorHwUnavailable))) (· = s) (daemonDied w)
      (fun _ _ => True) := by
  refine .bind (does_own fun s => ?_) fun _ => .pinned fun _ _ => ?_
  · exact ⟨⟨rfl, rfl, rfl, rfl, rfl, rfl, rfl⟩, List.forall_mem_nil _⟩
  · exact handleError_does rfl rfl

/-! ### The system -/

@[simp] theorem binderDied_id (k : Nat) (c : ClientMonitor) : (c.binderDied k).id = c.id := by
  unfold ClientMonitor.binderDied
  split <;> rfl

@[simp] theorem binderDied_kind (k : Nat) (c : ClientMonitor) : (c.binderDied k).kind = c.kind := by
  unfold ClientMonitor.binderDied
  split <;> rfl

/-- An effect, or a command to the looper. -/
inductive Change (r : Runnable) : Service → List Output → Service → Prop
  | effect {s s' : Service} {out : List Output} : Effect r s out s' → Change r s out s'
  | post (s : Service) {runnable : Runnable} : runnable.isResetClientState = false →
      Change r s [.post runnable] s
  | alarmFired (s : Service) : Change r s [] { s with alarm := false }
  | died (s : Service) (client : Nat) : Change r s [] (clientDied client s).state

def System.unowned (y : System) : Event → Bool
  | .looper _ => y.queue.head?.any fun posted => Fingerprint.unowned y.service posted.runnable
  | _ => false

/-- The runnable of a step. -/
def System.running (y : System) : Event → Runnable
  | .looper _ => (y.queue.head?.map Posted.runnable).getD .resetFailedAttempts
  | .daemonDied _ => .message (.error errorHwUnavailable)
  | _ => .resetFailedAttempts

theorem effects_changes {out : List Output} (h : Steps (Effect r) s out s') :
    Steps (Change r) s out s' := by
  induction h with
  | refl s => exact .refl s
  | head hfirst _ ih => exact .head (.effect hfirst) ih

theorem foldl_obey {α : Type} (f : System → α) {unprivileged : Bool}
    (h : ∀ y o, f (System.obey unprivileged y o) = f y) (out : List Output) (y : System) :
    f (out.foldl (System.obey unprivileged) y) = f y := by
  induction out generalizing y with
  | nil => rfl
  | cons o out ih => rw [List.foldl_cons, ih, h]

theorem foldl_obey_service (unprivileged : Bool) (out : List Output) (y : System) :
    (out.foldl (System.obey unprivileged) y).service = y.service :=
  foldl_obey System.service (fun _ o => by cases o <;> rfl) out y

theorem perform_service (y : System) (unprivileged unowned : Bool) (handler : Handler Unit) :
    (y.perform unprivileged unowned handler).2.service = (handler y.service).state := by
  rw [System.perform, foldl_obey_service]

theorem perform_crashed (y : System) (unprivileged unowned : Bool) (handler : Handler Unit) :
    (y.perform unprivileged unowned handler).2.crashed = (handler y.service).result.isNone := by
  exact foldl_obey System.crashed (fun _ o => by cases o <;> rfl) _ _

def Shaped (r : Runnable) (y : System) (unowned : Bool) (next : List Output × System) : Prop :=
  ∃ out, next.1 = out ++ droppedClient y.service next.2.service unowned ∧
    Steps (Change r) y.service out next.2.service

theorem shaped_perform {handler : Handler Unit} (unprivileged unowned : Bool)
    (h : Steps (Change r) y.service (handler y.service).trace (handler y.service).state) :
    Shaped r y unowned (y.perform unprivileged unowned handler) := by
  refine ⟨(handler y.service).trace, ?_, ?_⟩
  · simp only [System.perform, foldl_obey_service]
  · simpa only [System.perform, foldl_obey_service] using h

theorem droppedClient_eq_nil (unowned : Bool) (h : s'.currentClient = s.currentClient) :
    droppedClient s s' unowned = [] := by
  unfold droppedClient
  split
  · next hcur => rw [h, hcur]; simp
  · rfl

theorem forall_mem_droppedClient {P : Output → Prop} {unowned : Bool}
    (h : ∀ client receiver, P (.dropped client receiver unowned)) :
    ∀ o ∈ droppedClient s s' unowned, P o := by
  unfold droppedClient
  split
  · split
    · exact List.forall_mem_nil _
    · exact List.forall_mem_singleton.mpr (h _ _)
  · exact List.forall_mem_nil _

theorem shaped_silent {y' : System} {unowned : Bool} (h : Steps (Change r) y.service [] y'.service)
    (hcur : y'.service.currentClient = y.service.currentClient) : Shaped r y unowned ([], y') :=
  ⟨[], by rw [droppedClient_eq_nil unowned hcur]; rfl, h⟩

/-- A call posts one runnable, or reaches for the daemon. -/
theorem binderCall_shape (w : World) (caller : Caller) (call : BinderCall) (s : Service) :
    (∃ runnable : Runnable, runnable.isResetClientState = false ∧
      binderCall w caller call s = ⟨[.post runnable], s, some ()⟩) ∨
    binderCall w caller call s = ⟨(getFingerprintDaemon w w.opening s).trace,
      (getFingerprintDaemon w w.opening s).state, some ()⟩ ∨
    binderCall w caller call s = ⟨[], s, some ()⟩ := by
  have hpost : ∀ (b : Bool) (runnable : Runnable), runnable.isResetClientState = false →
      let posting : Handler Unit := if b = true then emit (.post runnable) else pure ()
      (∃ runnable : Runnable, runnable.isResetClientState = false ∧
        posting s = ⟨[.post runnable], s, some ()⟩) ∨
      posting s = ⟨(getFingerprintDaemon w w.opening s).trace,
        (getFingerprintDaemon w w.opening s).state, some ()⟩ ∨
      posting s = ⟨[], s, some ()⟩ := by
    intro b runnable hrun
    cases b with
    | true => exact .inl ⟨runnable, hrun, rfl⟩
    | false => exact .inr (.inr rfl)
  have hdaemon :
      let opening : Handler Unit := do
        if caller.manage then let _ ← getFingerprintDaemon w w.opening
      opening s = ⟨(getFingerprintDaemon w w.opening s).trace,
        (getFingerprintDaemon w w.opening s).state, some ()⟩ ∨
      opening s = ⟨[], s, some ()⟩ := by
    cases caller.manage with
    | true =>
      obtain ⟨_, _, hreach⟩ := getFingerprintDaemon_own w w.opening s
      simp only [if_true, bind_some hreach, pure_apply, List.append_nil]
      exact .inl trivial
    | false => exact .inr rfl
  cases call with
  | preEnroll | postEnroll => exact .inr hdaemon
  | enroll | cancelEnrollment | setActiveUser | remove | resetTimeout => exact hpost _ _ rfl
  | authenticate | cancelAuthentication | notifyFpService => exact hpost true _ rfl
  | other => exact .inr (.inr rfl)

theorem binderCall_changes (w : World) (caller : Caller) (call : BinderCall) (s : Service) :
    Steps (Change r) s (binderCall w caller call s).trace (binderCall w caller call s).state := by
  rcases binderCall_shape w caller call s with ⟨runnable, hrun, heq⟩ | heq | heq
  · rw [heq]
    exact .single (.post s hrun)
  · rw [heq]
    exact .single (.effect (.own (getFingerprintDaemon_own w w.opening s).1))
  · rw [heq]
    exact .refl s

theorem step_shaped (y : System) (event : Event) :
    Shaped (y.running event) y (y.unowned event) (y.step event) := by
  unfold System.step
  split
  · exact shaped_silent (.refl _) rfl
  have hreset : ∀ y : System, Shaped .resetFailedAttempts y false
      (y.perform false false resetFailedAttempts) := fun y =>
    shaped_perform false false (.single (.effect (.reset y.service)))
  cases event with
  | binder w caller call => exact shaped_perform _ _ (binderCall_changes w caller call y.service)
  | message message | userSwitching userId | eventReport acquiredInfo =>
    exact shaped_perform _ _ (.single (.post _ rfl))
  | looper w =>
    cases hqueue : y.queue with
    | nil =>
      simp only [System.react, hqueue]
      exact shaped_silent (.refl _) rfl
    | cons posted queue =>
      simp only [System.react, System.running, System.unowned, hqueue]
      exact shaped_perform _ _
        (effects_changes (runRunnable_does w posted.runnable _ _ rfl).1)
  | resetDue =>
    simp only [System.react]
    cases y.timer with
    | none | some client => exact shaped_silent (.refl _) rfl
  | alarmFires =>
    simp only [System.react]
    split
    · exact shaped_silent (.single (.alarmFired _)) rfl
    · exact shaped_silent (.refl _) rfl
  | lockoutBroadcast =>
    simp only [System.react]
    cases y.broadcasts with
    | zero => exact shaped_silent (.refl _) rfl
    | succ broadcasts => exact hreset { y with broadcasts }
  | permittedBroadcast => exact hreset _
  | daemonDied w => exact shaped_perform _ _ (effects_changes (daemonDied_does w _ _ rfl).1)
  | clientDied client => exact shaped_perform _ _ (.single (.died _ client))

section

variable {inv : List Output → Service → Prop} {trace : List Output} {y : System}

theorem dropped_keeps (hdrop : ∀ trace s client receiver unowned, inv trace s →
      inv (trace ++ [Output.dropped client receiver unowned]) s) {s s₀ : Service} {unowned : Bool}
    (h : inv trace s) : inv (trace ++ droppedClient s₀ s unowned) s := by
  unfold droppedClient
  split
  · split
    · simpa using h
    · exact hdrop _ _ _ _ _ h
  · simpa using h

theorem step_keeps {event : Event}
    (hchange : ∀ trace s out s', inv trace s → Change (y.running event) s out s' →
      inv (trace ++ out) s') (hdrop : ∀ trace s client receiver unowned, inv trace s →
      inv (trace ++ [Output.dropped client receiver unowned]) s) (h : inv trace y.service) :
    inv (trace ++ (y.step event).1) (y.step event).2.service := by
  obtain ⟨out, hout, hsteps⟩ := step_shaped y event
  rw [hout, ← List.append_assoc]
  exact dropped_keeps hdrop (hsteps.keeps hchange h)

theorem run_keeps
    (hchange : ∀ r trace s out s', inv trace s → Change r s out s' → inv (trace ++ out) s')
    (hdrop : ∀ trace s client receiver unowned, inv trace s →
      inv (trace ++ [Output.dropped client receiver unowned]) s) (hinv : inv [] y.service)
    (events : List Event) :
    inv (run System.step y events).1 (run System.step y events).2.service := by
  have hstep : ∀ trace (y : System) event, inv trace y.service →
      inv (trace ++ (y.step event).1) (y.step event).2.service :=
    fun _ _ _ h => step_keeps (hchange _) hdrop h
  have hend : inv ([] ++ (run System.step y events).1) (run System.step y events).2.service :=
    run_invariant_all hstep hinv
  simpa using hend

end

end WikoPlatform.Fingerprint
