import WikoPlatform.Fingerprint.Mild

/-! How the current client of the fingerprint service is given up: it has been stopped, has heard
its last callback, or has nobody listening any more. -/

namespace WikoPlatform.Fingerprint

open Runs Act

/-- The client was stopped, or received its last callback. -/
def Output.releases (client : Nat) : Output → Bool
  | .stopped c => c == client
  | .callback c _ _ cb delivered _ => c == client && cb.isTerminal && delivered
  | _ => false

/-- A callback did not reach the client. -/
def Output.misses (client : Nat) : Output → Bool
  | .callback c _ _ _ delivered _ => c == client && !delivered
  | _ => false

def Output.ends (client : Nat) (o : Output) : Bool := o.releases client || o.misses client

/-- No client is given up unless it was released. -/
def ReleasedDrop (before : List Output) : Output → Prop
  | .dropped client _ _ => ∃ o ∈ before, o.releases client = true
  | _ => True

instance (before : List Output) (o : Output) : Decidable (ReleasedDrop before o) := by
  unfold ReleasedDrop
  split <;> infer_instance

/-- The same for a client that listens, in a step meant for it. -/
def HeardDrop (before : List Output) : Output → Prop
  | .dropped client receiver unowned =>
    unowned = false → receiver = none ∨ ∃ o ∈ before, o.ends client = true
  | _ => True

def KeepsCurrent {α : Type} (handler : Handler α) : Prop :=
  ∀ s, (handler s).state.currentClient = s.currentClient

theorem Mild.keepsCurrent {α : Type} {P : Output → Bool} {handler : Handler α}
    (h : Mild P handler) : KeepsCurrent handler := fun s => (h s).1.currentClient

section

variable {w : World} {c : ClientMonitor} {s : Service} {receiver : Nat} {origin : Option Nat}
  {fingerId groupId : Int} {r : Runnable}

theorem callback_ends {callback : Callback} {deviceId : Int} {delivered : Bool}
    (h : callback.isTerminal = true ∨ delivered = false) :
    (Output.callback c.id receiver deviceId callback delivered origin).ends c.id = true := by
  cases delivered <;> simp_all [Output.ends, Output.releases, Output.misses]

theorem send_bind {β : Type} (h : c.receiver = some receiver) (callback : Callback)
    (origin : Option Nat) (f : Bool → Handler β) : (c.send w callback origin >>= f) s =
      ⟨.callback c.id receiver c.halDeviceId callback (w.receives receiver callback) origin ::
          (f (w.receives receiver callback) s).trace, (f (w.receives receiver callback) s).state,
        (f (w.receives receiver callback) s).result⟩ := by
  simp only [ClientMonitor.send, h]
  rfl

def ShowsEnd (c : ClientMonitor) (handler : Handler Bool) (s : Service) : Prop :=
  (handler s).result = some true → ∃ o ∈ (handler s).trace, o.ends c.id = true

theorem onAcquired_showsEnd (h : c.receiver = some receiver) {acquiredInfo : Int} :
    ShowsEnd c (c.onAcquired w acquiredInfo) s := by
  unfold ShowsEnd ClientMonitor.onAcquired
  rw [send_bind h]
  intro hdone
  simp only [pure_apply, Option.some.injEq, Bool.not_eq_true'] at hdone
  exact ⟨_, List.mem_cons_self, callback_ends (.inr hdone)⟩

theorem onRemoved_showsEnd (h : c.receiver = some receiver) :
    ShowsEnd c (c.onRemoved w fingerId) s := by
  unfold ShowsEnd ClientMonitor.onRemoved
  by_cases hfinger : fingerId = 0
  · simp only [if_neg (not_not.mpr hfinger), send_bind h]
    intro _
    refine ⟨_, List.mem_cons_self, callback_ends (.inl ?_)⟩
    simp [Callback.isTerminal, hfinger]
  · simp only [if_pos hfinger, modify_bind, emit_bind, send_bind h]
    intro hdone
    simp [hfinger] at hdone

theorem onEnrollResult_showsEnd (h : c.receiver = some receiver) (hkind : c.kind.isEnroll = true)
    {remaining : Int} : ShowsEnd c (c.onEnrollResult w fingerId groupId remaining origin) s := by
  unfold ShowsEnd ClientMonitor.onEnrollResult
  rw [if_pos hkind]
  by_cases hlast : remaining = 0
  · simp only [if_pos hlast, modify_bind, emit_bind, send_bind h]
    intro _
    exact ⟨_, List.mem_cons_of_mem _ List.mem_cons_self,
      callback_ends (.inl (by simp [Callback.isTerminal, hlast]))⟩
  · simp only [if_neg hlast, send_bind h]
    intro hdone
    simp only [pure_apply, Option.some.injEq, Bool.or_eq_true, Bool.not_eq_true', beq_iff_eq, hlast,
      or_false] at hdone
    exact ⟨_, List.mem_cons_self, callback_ends (.inr hdone)⟩

theorem onAuthenticated_showsEnd (h : c.receiver = some receiver) :
    ShowsEnd c (c.onAuthenticated w fingerId groupId origin) s := by
  unfold ShowsEnd ClientMonitor.onAuthenticated
  by_cases hfinger : fingerId = 0
  · rw [if_neg (not_not.mpr hfinger), send_bind h]
    intro hdone
    cases hheard : w.receives receiver .onAuthenticationFailed with
    | false => exact ⟨_, List.mem_cons_self, callback_ends (.inr rfl)⟩
    | true =>
      -- the mismatch was heard, so the client is done only in lockout, and hears of that too
      rw [hheard] at hdone
      cases hfail : (c.handleFailedAttempt origin s).result with
      | none =>
        rw [bind_none hfail] at hdone
        cases hdone
      | some locked =>
        rw [bind_some hfail] at hdone ⊢
        cases locked with
        | false => cases hdone
        | true =>
          simp only [if_true, h, reduceCtorEq, if_false, send_bind h]
          refine ⟨_, List.mem_cons_of_mem _ (List.mem_append_right _ List.mem_cons_self), ?_⟩
          exact callback_ends (.inl rfl)
  · rw [if_pos hfinger, send_bind h]
    intro _
    exact ⟨_, List.mem_cons_self, callback_ends (.inl rfl)⟩

def KeepsOrShows (c : ClientMonitor) (handler : Handler Unit) (s : Service) : Prop :=
  (handler s).state.currentClient = some c ∨ ∃ o ∈ (handler s).trace, o.ends c.id = true

theorem bind_keepsOrShows {x : Handler Bool} {f : Bool → Handler Unit}
    (hcur : s.currentClient = some c) (hx : KeepsCurrent x) (hshows : ShowsEnd c x s)
    (hf : KeepsCurrent (f false)) : KeepsOrShows c (x >>= f) s := by
  cases hr : (x s).result with
  | none =>
    left
    rw [bind_none hr]
    exact (hx s).trans hcur
  | some done =>
    cases done with
    | false =>
      left
      rw [bind_some hr]
      exact ((hf _).trans (hx s)).trans hcur
    | true =>
      obtain ⟨o, ho, hend⟩ := hshows hr
      exact .inr ⟨o, mem_trace_bind_left ho, hend⟩

theorem handleError_keepsOrShows (hcur : s.currentClient = some c)
    (h : c.receiver = some receiver) (error : Int) : KeepsOrShows c (handleError w error) s := by
  right
  have hmem : Output.callback c.id receiver c.halDeviceId (.onError error)
      (w.receives receiver (.onError error)) none ∈ (c.onError w error s).trace := by
    simp only [ClientMonitor.onError, send_bind h, List.mem_cons, true_or]
  have hall : Output.callback c.id receiver c.halDeviceId (.onError error)
      (w.receives receiver (.onError error)) none ∈ (handleError w error s).trace := by
    simp only [handleError, get_bind, hcur]
    exact mem_trace_bind_left hmem
  exact ⟨_, hall, callback_ends (.inl rfl)⟩

theorem handleMessage_keepsOrShows {m : DaemonMessage} (hcur : s.currentClient = some c)
    (h : c.receiver = some receiver) (hunown : unowned s (.message m) = false) :
    KeepsOrShows c (handleMessage w m) s := by
  unfold KeepsOrShows
  cases m with
  | enrollResult origin fingerId groupId remaining =>
    have hkind : c.kind.isEnroll = true := by simpa [unowned, hcur] using hunown
    simp only [handleMessage, handleEnrollResult, get_bind, hcur]
    exact bind_keepsOrShows hcur (onEnrollResult_mild).keepsCurrent
      (onEnrollResult_showsEnd h hkind) fun _ => rfl
  | acquired acquiredInfo =>
    simp only [handleMessage, handleAcquired, get_bind, hcur]
    refine bind_keepsOrShows hcur (onAcquired_mild).keepsCurrent (onAcquired_showsEnd h)
      (Mild.keepsCurrent (P := Output.isRecord) ?_)
    exact .get_bind fun _ => .ite (count_mild _) (.pure ())
  | authenticated origin fingerId groupId =>
    simp only [handleMessage, handleAuthenticated, get_bind, hcur]
    split
    · change KeepsOrShows c _ s
      exact bind_keepsOrShows hcur (onAuthenticated_mild).keepsCurrent
        (onAuthenticated_showsEnd h) (count_mild _).keepsCurrent
    · exact .inl hcur
  | error code => exact handleError_keepsOrShows hcur h code
  | removed fingerId groupId =>
    simp only [handleMessage, handleRemoved, get_bind, hcur]
    split
    · change KeepsOrShows c _ s
      exact bind_keepsOrShows hcur (onRemoved_mild).keepsCurrent (onRemoved_showsEnd h)
        fun _ => rfl
    · exact .inl hcur

theorem effect_current {s' : Service} {out : List Output} (hr : r.ends = false)
    (hcur : s.currentClient = some c) (he : Effect r s out s') : s'.currentClient = some c := by
  cases he with
  | own hown => rw [hown.state.currentClient, hcur]
  | park _ _ _ _ htouch | stop _ _ htouch => rw [htouch.currentClient, hcur]
  | begin _ _ hnone | resume _ hnone | crash _ hnone => rw [hnone] at hcur; cases hcur
  | drop hends => rw [hr] at hends; cases hends
  | stats | counted | postReset | reset | disarm | refuse | tell | fail | schedule | store
  | unstore => exact hcur

theorem runRunnable_keepsOrShows (hcur : s.currentClient = some c)
    (h : c.receiver = some receiver) (hunown : unowned s r = false) :
    KeepsOrShows c (runRunnable w r) s ∨ r = .resetClientState c.id := by
  cases hr : r.ends with
  | false =>
    have hsteps := (runRunnable_does w r s s rfl).1
    have hkept : (runRunnable w r s).state.currentClient = some c :=
      hsteps.keeps_state (P := fun s => s.currentClient = some c)
        (fun _ _ _ => effect_current hr) hcur
    exact .inl (.inl hkept)
  | true =>
    cases r with
    | message m => exact .inl (handleMessage_keepsOrShows hcur h hunown)
    | resetClientState armedFor =>
      have hid : c.id = armedFor := by simpa [unowned, hcur] using hunown
      exact .inr (by rw [hid])
    | startEnrollment | cancelEnrollment | authenticate | cancelAuthentication | updateActiveGroup
    | remove | resetFailedAttempts | notifyFpService | handleAcq => cases hr

end

def Output.isPlain : Output → Bool
  | .armReset _ | .post (.resetClientState _) | .dropped .. => false
  | _ => true

structure Armed (trace : List Output) : Prop where
  heard : Justified HeardDrop trace
  stops : ∀ client, .armReset client ∈ trace → .stopped client ∈ trace
  posts : ∀ client, .post (.resetClientState client) ∉ trace

section

variable {trace out : List Output} {s s' : Service} {r : Runnable} {c : ClientMonitor}
  {failedAttempts : Nat}

theorem Armed.plain (h : Armed trace) (hout : ∀ o ∈ out, o.isPlain = true) :
    Armed (trace ++ out) where
  heard := h.heard.append fun o ho before => by
    have hplain := hout o ho
    cases o <;> trivial
  stops client hmem := by
    rcases List.mem_append.mp hmem with hmem | hmem
    · exact List.mem_append_left _ (h.stops client hmem)
    · cases hout _ hmem
  posts client hmem := by
    rcases List.mem_append.mp hmem with hmem | hmem
    · exact h.posts client hmem
    · cases hout _ hmem

theorem Armed.arm (h : Armed trace) {client : Nat} (hstopped : .stopped client ∈ trace) :
    Armed (trace ++ [Output.armReset client]) where
  heard := h.heard.snoc trivial
  stops k hmem := by
    refine List.mem_append_left _ ?_
    rcases List.mem_append.mp hmem with hmem | hmem
    · exact h.stops k hmem
    · obtain rfl : k = client := by simpa using hmem
      exact hstopped
  posts k hmem := h.posts k (by simpa using hmem)

theorem isPlain_of_isOwn {o : Output} (h : o.isOwn = true) : o.isPlain = true := by
  unfold Output.isOwn at h
  split at h
  exacts [rfl, rfl, rfl, by cases h]

theorem ErrorTrace.plain {error : Int} (h : ErrorTrace c error out) : ∀ o ∈ out, o.isPlain = true :=
  h.forall fun _ _ _ => rfl

theorem StartTrace.plain (h : StartTrace c failedAttempts out) : ∀ o ∈ out, o.isPlain = true :=
  h.forall rfl (fun _ => isPlain_of_isOwn) (fun _ => rfl) fun _ _ _ => rfl

theorem StopTrace.plain (h : StopTrace c failedAttempts out) :
    .stopped c.id ∈ out ∧ ∀ o ∈ out, o.isPlain = true := by
  obtain ⟨rest, rfl, hrest⟩ := h.tail (fun _ => isPlain_of_isOwn)
    (fun _ _ _ => rfl) fun _ _ _ => rfl
  exact ⟨List.mem_cons_self, List.forall_mem_cons.mpr ⟨rfl, hrest⟩⟩

theorem effect_armed (h : Armed trace) (he : Effect r s out s') : Armed (trace ++ out) := by
  cases he with
  | own hown => exact h.plain fun o ho => isPlain_of_isOwn (hown.trace o ho)
  | stats | schedule | drop => exact h.plain (List.forall_mem_nil _)
  | counted | postReset | reset | disarm | tell | fail | store | unstore =>
    exact h.plain (by simp [Output.isPlain])
  | refuse _ _ _ htold => exact h.plain (List.forall_mem_cons.mpr ⟨rfl, htold.plain⟩)
  | begin _ _ _ hstart => exact h.plain (List.forall_mem_cons.mpr ⟨rfl, hstart.plain⟩)
  | resume _ _ _ hstart | crash _ _ _ _ hstart => exact h.plain hstart.plain
  | stop _ hstop => exact h.plain hstop.plain.2
  | @park _ c current stopOut _ _ _ hstop =>
    have hplain : ∀ o ∈ Output.created c.id c.token :: (stopOut ++ [Output.disarmReset]),
        o.isPlain = true := by
      simpa [Output.isPlain, or_imp, forall_and] using hstop.plain.2
    have hstopped : .stopped current.id ∈
        trace ++ Output.created c.id c.token :: (stopOut ++ [Output.disarmReset]) := by
      simp [hstop.plain.1]
    simpa using (h.plain hplain).arm hstopped

theorem change_armed (h : Armed trace) (hc : Change r s out s') : Armed (trace ++ out) := by
  cases hc with
  | effect he => exact effect_armed h he
  | @post runnable hrun =>
    refine h.plain ?_
    cases runnable <;> first | simp [Output.isPlain]; done | cases hrun
  | alarmFired | died => exact h.plain (List.forall_mem_nil _)

end

variable {trace out : List Output} {s s' : Service} {r : Runnable} {y : System} {k : Nat}
  {c : ClientMonitor} {unowned : Bool}

theorem steps_armed (h : Armed trace) (hsteps : Steps (Change r) s out s') :
    Armed (trace ++ out) := by
  induction hsteps generalizing trace with
  | refl => simpa using h
  | head hc _ ih =>
    rw [← List.append_assoc]
    exact ih (change_armed h hc)

structure Looped (y : System) (out : List Output) (y' : System) : Prop where
  timer : ∀ client, y'.timer = some client → y.timer = some client ∨ .armReset client ∈ out
  queue : ∀ posted ∈ y'.queue, ∀ client, posted.runnable = .resetClientState client →
    posted ∈ y.queue ∨ y.timer = some client ∨ .armReset client ∈ out ∨
      .post (.resetClientState client) ∈ out

theorem Looped.of_eq {y' : System} (htimer : y'.timer = y.timer)
    (hqueue : ∀ posted ∈ y'.queue, posted ∈ y.queue) : Looped y out y' :=
  ⟨fun _ h => .inl (htimer ▸ h), fun posted h _ _ => .inl (hqueue posted h)⟩

theorem Looped.trans {y₁ y₂ : System} {rest : List Output} (h : Looped y out y₁)
    (h' : Looped y₁ rest y₂) : Looped y (out ++ rest) y₂ where
  timer client ht := by
    rcases h'.timer client ht with ht | harm
    · exact (h.timer client ht).imp id (List.mem_append_left _)
    · exact .inr (List.mem_append_right _ harm)
  queue posted hp client hr := by
    rcases h'.queue posted hp client hr with hp | ht | harm | hpost
    · rcases h.queue posted hp client hr with hp | ht | harm | hpost
      · exact .inl hp
      · exact .inr (.inl ht)
      · exact .inr (.inr (.inl (List.mem_append_left _ harm)))
      · exact .inr (.inr (.inr (List.mem_append_left _ hpost)))
    · rcases h.timer client ht with ht | harm
      · exact .inr (.inl ht)
      · exact .inr (.inr (.inl (List.mem_append_left _ harm)))
    · exact .inr (.inr (.inl (List.mem_append_right _ harm)))
    · exact .inr (.inr (.inr (List.mem_append_right _ hpost)))

theorem obey_looped (unprivileged : Bool) (y : System) (o : Output) :
    Looped y [o] (y.obey unprivileged o) := by
  cases o with
  | post runnable =>
    refine ⟨fun _ h => .inl h, fun posted hp client hr => ?_⟩
    rcases List.mem_append.mp hp with hp | hp
    · exact .inl hp
    · obtain rfl := List.mem_singleton.mp hp
      obtain rfl : runnable = .resetClientState client := hr
      exact .inr (.inr (.inr List.mem_cons_self))
  | armReset k =>
    refine ⟨fun client h => .inr ?_, fun _ hp _ _ => .inl hp⟩
    obtain rfl : k = client := Option.some.inj h
    exact List.mem_cons_self
  | disarmReset => exact ⟨by rintro _ ⟨⟩, fun _ hp _ _ => .inl (List.mem_filter.mp hp).1⟩
  | _ => exact .of_eq rfl fun _ h => h

theorem foldl_obey_looped (unprivileged : Bool) (out : List Output) (y : System) :
    Looped y out (out.foldl (System.obey unprivileged) y) := by
  induction out generalizing y with
  | nil => exact .of_eq rfl fun _ h => h
  | cons o out ih => exact (obey_looped unprivileged y o).trans (ih _)

theorem perform_looped (y : System) (unprivileged unowned : Bool) (handler : Handler Unit) :
    Looped y (y.perform unprivileged unowned handler).1
      (y.perform unprivileged unowned handler).2 := by
  have hfold := foldl_obey_looped unprivileged (handler y.service).trace
    { y with service := (handler y.service).state, crashed := (handler y.service).result.isNone }
  have hend : ∀ y' : System,
      Looped y' (droppedClient y.service (handler y.service).state unowned) y' :=
    fun _ => .of_eq rfl fun _ h => h
  exact (show Looped y _ _ from ⟨hfold.timer, hfold.queue⟩).trans (hend _)

theorem step_looped (y : System) (event : Event) : Looped y (y.step event).1 (y.step event).2 := by
  unfold System.step
  split
  · exact .of_eq rfl fun _ h => h
  cases event with
  | looper w =>
    cases hqueue : y.queue with
    | nil =>
      simp only [System.react, hqueue]
      exact .of_eq rfl fun _ h => h
    | cons posted queue =>
      simp only [System.react, hqueue]
      have hpop : Looped y [] { y with queue := queue } :=
        .of_eq rfl fun _ h => by rw [hqueue]; exact List.mem_cons_of_mem _ h
      simpa using hpop.trans (perform_looped { y with queue } posted.unprivileged
        (unowned y.service posted.runnable) (runRunnable w posted.runnable))
  | resetDue =>
    simp only [System.react]
    cases htimer : y.timer with
    | none => exact .of_eq rfl fun _ h => h
    | some client =>
      refine ⟨by simp, fun posted hp k hr => ?_⟩
      rcases List.mem_append.mp hp with hp | hp
      · exact .inl hp
      · obtain rfl := List.mem_singleton.mp hp
        obtain rfl : client = k := by simpa using hr
        exact .inr (.inl htimer)
  | alarmFires =>
    simp only [System.react]
    split <;> exact .of_eq rfl fun _ h => h
  | lockoutBroadcast =>
    simp only [System.react]
    cases y.broadcasts with
    | zero => exact .of_eq rfl fun _ h => h
    | succ broadcasts =>
      have hperform := perform_looped { y with broadcasts } false false resetFailedAttempts
      exact ⟨hperform.timer, hperform.queue⟩
  | binder | message | permittedBroadcast | daemonDied | clientDied | userSwitching | eventReport =>
    exact perform_looped _ _ _ _

theorem change_current (hr : r.ends = false) (h : s.currentClient.map ClientMonitor.id = some k)
    (hc : Change r s out s') : s'.currentClient.map ClientMonitor.id = some k := by
  obtain ⟨c, hcur, hid⟩ := Option.map_eq_some_iff.mp h
  cases hc with
  | effect he => rw [effect_current hr hcur he, Option.map_some, hid]
  | post | alarmFired => exact h
  | died client =>
    simp only [clientDied, modify_apply, hcur, Option.map_some, binderDied_id, hid]

theorem perform_keepsOrShows {handler : Handler Unit} {unprivileged : Bool}
    (h : KeepsOrShows c handler y.service) :
    (y.perform unprivileged unowned handler).2.service.currentClient.map ClientMonitor.id =
        some c.id ∨ ∃ o ∈ (y.perform unprivileged unowned handler).1, o.ends c.id = true := by
  rcases h with hcur | ⟨o, ho, hend⟩
  · left
    simp only [System.perform, foldl_obey_service, hcur, Option.map_some]
  · exact .inr ⟨o, List.mem_append_left _ ho, hend⟩

theorem step_keepsOrShows {event : Event} {receiver : Nat}
    (hcur : y.service.currentClient = some c) (h : c.receiver = some receiver)
    (hunown : y.unowned event = false) :
    ((y.step event).2.service.currentClient.map ClientMonitor.id = some c.id ∨
        ∃ o ∈ (y.step event).1, o.ends c.id = true) ∨
      ∃ posted ∈ y.queue, posted.runnable = .resetClientState c.id := by
  cases hends : (y.running event).ends with
  | false =>
    obtain ⟨out, -, hsteps⟩ := step_shaped y event
    have hstart : y.service.currentClient.map ClientMonitor.id = some c.id := by
      rw [hcur, Option.map_some]
    exact .inl (.inl (hsteps.keeps_state
      (P := fun s => s.currentClient.map ClientMonitor.id = some c.id)
      (fun _ _ _ => change_current hends) hstart))
  | true =>
    unfold System.step
    split
    · exact .inl (.inl (by rw [hcur, Option.map_some]))
    cases event with
    | looper w =>
      cases hqueue : y.queue with
      | nil => rw [System.running, hqueue] at hends; cases hends
      | cons posted queue =>
        have howned : unowned y.service posted.runnable = false := by
          simpa [System.unowned, hqueue] using hunown
        simp only [System.react, hqueue]
        rcases runRunnable_keepsOrShows hcur h howned with hkeeps | hreset
        · exact .inl (perform_keepsOrShows hkeeps)
        · exact .inr ⟨posted, List.mem_cons_self, hreset⟩
    | daemonDied w =>
      have hdied := handleError_keepsOrShows (w := w)
        (s := { y.service with daemon := false, currentUserId := userCurrent })
        hcur h errorHwUnavailable
      exact .inl (perform_keepsOrShows hdied)
    | binder | message | resetDue | alarmFires | lockoutBroadcast | permittedBroadcast | clientDied
    | userSwitching | eventReport => cases hends

structure ReleaseInvariant (trace : List Output) (y : System) : Prop where
  armed : Armed trace
  timer : ∀ client, y.timer = some client → .armReset client ∈ trace
  queue : ∀ posted ∈ y.queue, ∀ client, posted.runnable = .resetClientState client →
    .armReset client ∈ trace

theorem Armed.dropped (h : Armed trace) {client : Nat} {receiver : Option Nat}
    (hheard : HeardDrop trace (.dropped client receiver unowned)) :
    Armed (trace ++ [Output.dropped client receiver unowned]) where
  heard := h.heard.snoc hheard
  stops k hmem := List.mem_append_left _ (h.stops k (by simpa using hmem))
  posts k hmem := h.posts k (by simpa using hmem)

theorem step_armed (h : ReleaseInvariant trace y) (event : Event) :
    Armed (trace ++ (y.step event).1) := by
  obtain ⟨out, hout, hsteps⟩ := step_shaped y event
  have hbefore : Armed (trace ++ out) := steps_armed h.armed hsteps
  rw [hout, ← List.append_assoc]
  cases hcur : y.service.currentClient with
  | none => simpa [droppedClient, hcur] using hbefore
  | some c =>
    by_cases hsame : (y.step event).2.service.currentClient.map ClientMonitor.id = some c.id
    · simpa [droppedClient, hcur, hsame] using hbefore
    · simp only [droppedClient, hcur, if_neg hsame]
      refine hbefore.dropped fun hunown => ?_
      cases hrecv : c.receiver with
      | none => exact .inl rfl
      | some receiver =>
        right
        rcases step_keepsOrShows hcur hrecv hunown with
          (hkept | ⟨o, ho, hend⟩) | ⟨posted, hposted, hreset⟩
        · exact absurd hkept hsame
        · rw [hout] at ho
          rcases List.mem_append.mp ho with ho | ho
          · exact ⟨o, List.mem_append_right _ ho, hend⟩
          · rw [forall_mem_droppedClient (P := (·.ends _ = false)) (fun _ _ => rfl) o ho] at hend
            cases hend
        · have hstopped := h.armed.stops c.id (h.queue posted hposted c.id hreset)
          exact ⟨_, List.mem_append_left _ hstopped, by simp [Output.ends, Output.releases]⟩

theorem releaseInvariant_step (trace : List Output) (y : System) (event : Event)
    (h : ReleaseInvariant trace y) :
    ReleaseInvariant (trace ++ (y.step event).1) (y.step event).2 := by
  have hloop := step_looped y event
  have harmed := step_armed h event
  refine ⟨harmed, fun client ht => ?_, fun posted hp client hr => ?_⟩
  · rcases hloop.timer client ht with ht | harm
    · exact List.mem_append_left _ (h.timer client ht)
    · exact List.mem_append_right _ harm
  · rcases hloop.queue posted hp client hr with hp | ht | harm | hpost
    · exact List.mem_append_left _ (h.queue posted hp client hr)
    · exact List.mem_append_left _ (h.timer client ht)
    · exact List.mem_append_right _ harm
    · exact (harmed.posts client (List.mem_append_right _ hpost)).elim

/-- A dropped client was stopped or told, or has no receiver. -/
theorem serviceRun_heardDrop (daemon : Bool) (halDeviceId currentUserId : Int)
    (fingerprints : List (Int × Int)) (events : List Event) : Justified HeardDrop
      (run System.step (.start daemon halDeviceId currentUserId fingerprints) events).1 := by
  have hstart : ReleaseInvariant [] (.start daemon halDeviceId currentUserId fingerprints) :=
    ⟨⟨.nil, by simp, by simp⟩, by rintro _ ⟨⟩, by simp [System.start]⟩
  exact (run_invariant_all releaseInvariant_step hstart).armed.heard

def deafEvents : List Event :=
  [authenticateEvent 1, .looper plainWorld, .message (.acquired 0),
    .looper { plainWorld with receives := fun _ _ => false }]

theorem deafEvents_not_releasedDrop :
    ¬Justified ReleasedDrop (run System.step (.start true 1 0 []) deafEvents).1 := by
  have hdrop : ¬ReleasedDrop ((run System.step (.start true 1 0 []) deafEvents).1.take 7)
      ((run System.step (.start true 1 0 []) deafEvents).1.getD 7 .lockoutReset) := by
    decide +kernel
  exact fun h => hdrop (h.getD (by decide +kernel) _)

end WikoPlatform.Fingerprint
