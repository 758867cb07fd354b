import WikoPlatform.Fingerprint.Lockout
import WikoPlatform.Fingerprint.Statistics

/-! To whom the results of the daemon go: every one to the client that is current when the handler
gets to it. -/

namespace WikoPlatform.Fingerprint

open Runs Act

/-- The client whose daemon call led to the output. -/
def Output.origin : Output → Option Nat
  | .callback _ _ _ _ _ origin | .failedAttempt _ origin | .stored _ _ _ origin => origin
  | _ => none

/-- The client that is told, counted against or stored for. -/
def Output.client : Output → Option Nat
  | .callback client .. | .failedAttempt client _ | .stored client .. => some client
  | _ => none

/-- The output is for the client whose call led to it. -/
def OwnResult (o : Output) : Prop := o.origin = none ∨ o.client = o.origin

instance : DecidablePred OwnResult := fun o =>
  inferInstanceAs (Decidable (o.origin = none ∨ o.client = o.origin))

/-- The client is told of the result, or counts or stores it. -/
def ClientMonitor.takes (c : ClientMonitor) : DaemonMessage → Bool
  | .authenticated _ fingerId _ => c.kind.isAuthentication && (fingerId == 0 || c.receiver.isSome)
  | .enrollResult _ _ _ remaining => c.kind.isEnroll && (remaining == 0 || c.receiver.isSome)
  | _ => false

/-- A result that the current client takes answers its own call. -/
def System.Earned (y : System) (event : Event) : Prop :=
  ∀ message c, y.delivers event = some message → y.service.currentClient = some c →
    c.takes message = true → (Runnable.message message).origin = some c.id

variable {out : List Output} {c : ClientMonitor} {r : Runnable} {trace : List Output}
  {s s' : Service}

theorem Output.origin_of_isOwn {o : Output} (h : o.isOwn = true) : o.origin = none := by
  unfold Output.isOwn at h
  split at h
  exacts [rfl, rfl, rfl, by cases h]

theorem ErrorTrace.untagged {error : Int} (h : ErrorTrace c error out) :
    ∀ o ∈ out, o.origin = none :=
  h.forall fun _ _ _ => rfl

theorem StopTrace.untagged {failedAttempts : Nat} (h : StopTrace c failedAttempts out) :
    ∀ o ∈ out, o.origin = none :=
  h.forall rfl (fun _ => Output.origin_of_isOwn) (fun _ _ _ => rfl) fun _ _ _ => rfl

theorem StartTrace.untagged {failedAttempts : Nat} (h : StartTrace c failedAttempts out) :
    ∀ o ∈ out, o.origin = none := by
  obtain ⟨rest, rfl, hrest⟩ :=
    h.tail (P := fun o : Output => o.origin = none) (fun _ => Output.origin_of_isOwn)
      (fun _ => rfl) fun _ _ _ => rfl
  exact List.forall_mem_cons.mpr ⟨rfl, hrest⟩

theorem Runnable.origin_of_starts (h : r.starts = true) : r.origin = none := by
  unfold Runnable.starts at h
  split at h
  all_goals first | rfl | cases h

/-- From `s₀` on, every result has gone to the client that was current then. -/
structure Attributed (s₀ : Service) (r : Runnable) (trace : List Output) (s : Service) : Prop where
  outputs : ∀ o ∈ trace, o.origin = none ∨
    ∃ c, s₀.currentClient = some c ∧ o.client = some c.id ∧ o.origin = r.origin
  current : r.origin ≠ none → ∀ c, s.currentClient = some c →
    ∃ c₀, s₀.currentClient = some c₀ ∧ c₀.id = c.id

section

variable {s₀ : Service} (h : Attributed s₀ r trace s)
include h

theorem Attributed.untagged (hout : ∀ o ∈ out, o.origin = none)
    (hcur : r.origin ≠ none → ∀ c, s'.currentClient = some c →
      ∃ c', s.currentClient = some c' ∧ c'.id = c.id) : Attributed s₀ r (trace ++ out) s' where
  outputs := List.forall_mem_append.mpr ⟨h.outputs, fun o ho => .inl (hout o ho)⟩
  current horigin c hc := by
    obtain ⟨c', hc', hid⟩ := hcur horigin c hc
    rw [← hid]
    exact h.current horigin c' hc'

theorem Attributed.still (hout : ∀ o ∈ out, o.origin = none)
    (hcur : s'.currentClient = s.currentClient) : Attributed s₀ r (trace ++ out) s' :=
  h.untagged hout fun _ c hc => ⟨c, hcur ▸ hc, rfl⟩

theorem Attributed.starts (hstarts : r.starts = true) (hout : ∀ o ∈ out, o.origin = none) :
    Attributed s₀ r (trace ++ out) s' :=
  h.untagged hout fun horigin => absurd (Runnable.origin_of_starts hstarts) horigin

theorem Attributed.result {o : Output} (hc : s.currentClient = some c)
    (hclient : o.client = some c.id) (horigin : o.origin = none ∨ o.origin = r.origin)
    (hcur : s'.currentClient = s.currentClient) : Attributed s₀ r (trace ++ [o]) s' where
  outputs := by
    refine List.forall_mem_append.mpr ⟨h.outputs, List.forall_mem_singleton.mpr ?_⟩
    cases ho : o.origin with
    | none => exact .inl rfl
    | some k =>
      have htag : o.origin = r.origin := horigin.resolve_left (by simp [ho])
      obtain ⟨c₀, hc₀, hid⟩ := h.current (by simp [← htag, ho]) c hc
      exact .inr ⟨c₀, hc₀, by rw [hclient, hid], ho ▸ htag⟩
  current horigin' c' hc' := h.current horigin' c' (hcur ▸ hc')

theorem effect_attributed (he : Effect r s out s') : Attributed s₀ r (trace ++ out) s' := by
  cases he with
  | own hown =>
    exact h.still (fun o ho => Output.origin_of_isOwn (hown.trace o ho)) hown.state.currentClient
  | stats | schedule => exact h.still (List.forall_mem_nil _) rfl
  | counted | postReset | reset | disarm | unstore =>
    exact h.still (List.forall_mem_singleton.mpr rfl) rfl
  | drop => exact h.untagged (List.forall_mem_nil _) (by simp)
  | refuse hstarts _ _ htold =>
    exact h.starts hstarts (List.forall_mem_cons.mpr ⟨rfl, htold.untagged⟩)
  | begin hmakes _ _ hstart =>
    exact h.starts hmakes.starts (List.forall_mem_cons.mpr ⟨rfl, hstart.untagged⟩)
  | park hmakes _ _ hstop =>
    refine h.starts hmakes.starts (List.forall_mem_cons.mpr ⟨rfl, ?_⟩)
    exact List.forall_mem_append.mpr ⟨hstop.untagged, by simp [Output.origin]⟩
  | stop hcur hstop htouch => exact h.still hstop.untagged htouch.currentClient
  | resume hstarts _ _ hstart | crash hstarts _ _ _ hstart =>
    exact h.starts hstarts hstart.untagged
  | tell _ _ hcur _ horigin => exact h.result hcur rfl horigin rfl
  | fail _ hcur | store _ _ hcur => exact h.result hcur rfl (.inr rfl) rfl

theorem change_attributed (hc : Change r s out s') : Attributed s₀ r (trace ++ out) s' := by
  cases hc with
  | effect he => exact effect_attributed h he
  | post => exact h.still (List.forall_mem_singleton.mpr rfl) rfl
  | alarmFired => exact h.still (List.forall_mem_nil _) rfl
  | died =>
    refine h.untagged (List.forall_mem_nil _) fun _ c hc => ?_
    obtain ⟨c', hc', rfl⟩ := Option.map_eq_some_iff.mp hc
    exact ⟨c', hc', (binderDied_id _ c').symm⟩

end

theorem step_attributed (y : System) (event : Event) :
    Attributed y.service (y.running event) (y.step event).1 (y.step event).2.service := by
  have hstart : Attributed y.service (y.running event) [] y.service :=
    ⟨List.forall_mem_nil _, fun _ c hc => ⟨c, hc, rfl⟩⟩
  have hend := step_keeps (fun _ _ _ _ h hc => change_attributed h hc)
    (fun _ _ _ _ _ h => h.still (List.forall_mem_singleton.mpr rfl) rfl) hstart
  rwa [List.nil_append] at hend

section

variable {w : World} {message : DaemonMessage}

theorem send_tagged (h : c.receiver.isSome = true) (callback : Callback) (origin : Nat)
    (s : Service) : ∃ o ∈ (c.send w callback (some origin) s).trace, o.origin ≠ none := by
  obtain ⟨receiver, hrecv⟩ := Option.isSome_iff_exists.mp h
  simp [ClientMonitor.send, hrecv, Output.origin]

theorem tagged_of_takes (hcur : s.currentClient = some c) (htakes : c.takes message = true) :
    ∃ o ∈ (handleMessage w message s).trace, o.origin ≠ none := by
  cases message with
  | authenticated origin fingerId groupId =>
    simp only [ClientMonitor.takes, Bool.and_eq_true, Bool.or_eq_true, beq_iff_eq] at htakes
    obtain ⟨hkind, htakes⟩ := htakes
    suffices ∃ o ∈ (c.onAuthenticated w fingerId groupId (some origin) s).trace, o.origin ≠ none by
      obtain ⟨o, ho, htag⟩ := this
      refine ⟨o, ?_, htag⟩
      simp only [handleMessage, handleAuthenticated, get_bind, hcur, hkind, if_true]
      exact mem_trace_bind_left ho
    by_cases hzero : fingerId = 0
    · subst hzero
      obtain ⟨told, rest, _, _, heq, _⟩ :=
        onAuthenticated_mismatch (w := w) (c := c) groupId (some origin) s
      exact ⟨.failedAttempt c.id (some origin), by simp [heq], by simp [Output.origin]⟩
    · obtain ⟨o, ho, htag⟩ := send_tagged (w := w) (htakes.resolve_left hzero)
        (.onAuthenticationSucceeded (c.authenticatedFp fingerId groupId) c.targetUserId) origin s
      refine ⟨o, ?_, htag⟩
      simp only [ClientMonitor.onAuthenticated, ne_eq, hzero, not_false_eq_true, if_true]
      exact mem_trace_bind_left ho
  | enrollResult origin fingerId groupId remaining =>
    simp only [ClientMonitor.takes, Bool.and_eq_true, Bool.or_eq_true, beq_iff_eq] at htakes
    obtain ⟨hkind, htakes⟩ := htakes
    suffices ∃ o ∈ (c.onEnrollResult w fingerId groupId remaining (some origin) s).trace,
        o.origin ≠ none by
      obtain ⟨o, ho, htag⟩ := this
      refine ⟨o, ?_, htag⟩
      simp only [handleMessage, handleEnrollResult, get_bind, hcur]
      exact mem_trace_bind_left ho
    by_cases hzero : remaining = 0
    · subst hzero
      obtain ⟨rest, heq, -⟩ := onEnrollResult_last (w := w) hkind fingerId groupId (some origin) s
      exact ⟨_, by rw [heq]; exact List.mem_cons_self, by simp [Output.origin]⟩
    · obtain ⟨o, ho, htag⟩ := send_tagged (w := w) (htakes.resolve_left hzero)
        (.onEnrollResult fingerId groupId remaining) origin s
      refine ⟨o, ?_, htag⟩
      simp only [ClientMonitor.onEnrollResult, hkind, if_true, if_neg hzero]
      exact mem_trace_bind_left ho
  | acquired | error | removed => cases htakes

theorem untagged_of_not_takes (hcur : s.currentClient = some c)
    (htakes : c.takes message = false) (horigin : (Runnable.message message).origin ≠ none) :
    ∀ o ∈ (handleMessage w message s).trace, o.origin = none := by
  cases message with
  | authenticated origin fingerId groupId =>
    simp only [handleMessage, handleAuthenticated, get_bind, hcur]
    cases hkind : c.kind.isAuthentication with
    | false => simp
    | true =>
      simp only [ClientMonitor.takes, hkind, Bool.true_and, Bool.or_eq_false_iff,
        beq_eq_false_iff_ne, Option.isSome_eq_false_iff, Option.isNone_iff_eq_none] at htakes
      have heq : c.onAuthenticated w fingerId groupId (some origin) s =
          ⟨[.lockoutReset], { s with failedAttempts := 0, alarm := false }, some true⟩ := by
        simp only [ClientMonitor.onAuthenticated, if_pos htakes.1, ClientMonitor.send, htakes.2]
        rfl
      rw [if_pos rfl, bind_of_eq heq]
      cases s.performanceStats <;> simp [removeClient, count, Output.origin]
  | enrollResult origin fingerId groupId remaining =>
    simp only [handleMessage, handleEnrollResult, get_bind, hcur]
    cases hkind : c.kind.isEnroll with
    | false => simp [ClientMonitor.onEnrollResult, hkind, removeClient]
    | true =>
      simp only [ClientMonitor.takes, hkind, Bool.true_and, Bool.or_eq_false_iff,
        beq_eq_false_iff_ne, Option.isSome_eq_false_iff, Option.isNone_iff_eq_none] at htakes
      have heq : c.onEnrollResult w fingerId groupId remaining (some origin) s =
          ⟨[], s, some true⟩ := by
        simp only [ClientMonitor.onEnrollResult, hkind, if_true, if_neg htakes.1,
          ClientMonitor.send, htakes.2]
        rfl
      rw [bind_of_eq heq]
      simp [removeClient]
  | acquired | error | removed => exact absurd rfl horigin

end

theorem delivers_of_origin {y : System} {event : Event} (hcrash : y.crashed = false)
    (h : (y.running event).origin ≠ none) :
    ∃ message, y.delivers event = some message ∧ y.running event = .message message := by
  cases event with
  | looper w =>
    simp only [System.running, System.delivers, hcrash] at h ⊢
    cases hqueue : y.queue with
    | nil => simp [hqueue, Runnable.origin] at h
    | cons posted queue =>
      obtain ⟨runnable, unprivileged⟩ := posted
      cases runnable with
      | message message => exact ⟨message, rfl, rfl⟩
      | _ => simp [hqueue, Runnable.origin] at h
  | _ => exact absurd rfl h

theorem step_ownResult_iff (y : System) (event : Event) :
    (∀ o ∈ (y.step event).1, OwnResult o) ↔ y.Earned event := by
  have houtputs := (step_attributed y event).outputs
  constructor
  · intro h message c hmsg hcur htakes
    obtain ⟨w, unprivileged, queue, rfl, hcrash, hqueue⟩ := delivers_iff.mp hmsg
    obtain ⟨o, ho, htag⟩ := tagged_of_takes (w := w) hcur htakes
    have hmem : o ∈ (y.step (.looper w)).1 := by
      rw [looper_step hcrash hqueue]
      exact List.mem_append_left _ ho
    obtain ⟨c', hc', hclient, horigin⟩ := (houtputs o hmem).resolve_left htag
    rw [hcur] at hc'
    cases hc'
    rw [← hclient, (h o hmem).resolve_left htag, horigin]
    simp [System.running, hqueue]
  · intro hearn o ho
    refine or_iff_not_imp_left.mpr fun htag => ?_
    obtain ⟨c, hcur, hclient, horigin⟩ := (houtputs o ho).resolve_left htag
    cases hcrash : y.crashed with
    | true => simp [System.step, hcrash] at ho
    | false =>
      obtain ⟨message, hmsg, hrun⟩ := delivers_of_origin hcrash (horigin ▸ htag)
      rw [horigin, hrun, hclient]
      refine (hearn message c hmsg hcur ?_).symm
      refine (Bool.eq_false_or_eq_true _).resolve_right fun htakes => htag ?_
      obtain ⟨w, unprivileged, queue, rfl, -, hqueue⟩ := delivers_iff.mp hmsg
      rw [looper_step hcrash hqueue] at ho
      rcases List.mem_append.mp ho with ho | ho
      · exact untagged_of_not_takes hcur htakes (hrun ▸ horigin ▸ htag) o ho
      · exact forall_mem_droppedClient (P := fun o => o.origin = none) (fun _ _ => rfl) o ho

/-- Own results only, exactly if they are earned. -/
theorem serviceRun_ownResult_iff (daemon : Bool) (halDeviceId currentUserId : Int)
    (fingerprints : List (Int × Int)) (events : List Event) :
    (∀ o ∈ (run System.step (.start daemon halDeviceId currentUserId fingerprints) events).1,
      OwnResult o) ↔
      Meets System.step System.Earned (.start daemon halDeviceId currentUserId fingerprints)
        events :=
  forall_run_iff_meets step_ownResult_iff _ events

def lateMatchEvents : List Event :=
  [authenticateEvent 1, .looper plainWorld, authenticateEvent 2, .looper plainWorld,
    .resetDue, .looper plainWorld, .message (.authenticated 0 7 0), .looper plainWorld]

theorem lateMatchEvents_not_ownResult :
    ¬∀ o ∈ (run System.step (.start true 1 0 []) lateMatchEvents).1, OwnResult o := by
  decide +kernel

end WikoPlatform.Fingerprint
