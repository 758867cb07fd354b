import WikoPlatform.Fingerprint.Mild

/-! How clients take turns. One runnable moves the current and the pending client and the reset
timer in one of a few ways, and tells at most the client it gives up that its operation is over. -/

namespace WikoPlatform.Fingerprint

open Runs Act

def Output.terminalClient : Output → Option Nat
  | .callback client _ _ cb _ _ => if cb.isTerminal then some client else none
  | _ => none

/-- The clients that were told that their operation is over. -/
def terminals (trace : List Output) : List Nat := trace.filterMap Output.terminalClient

def Output.isArming : Output → Bool
  | .armReset _ | .disarmReset | .post (.resetClientState _) => true
  | _ => false

def arms (trace : List Output) : List Output := trace.filter Output.isArming

@[simp] theorem terminals_nil : terminals [] = [] := rfl

@[simp] theorem terminals_append (out rest : List Output) :
    terminals (out ++ rest) = terminals out ++ terminals rest :=
  List.filterMap_append

@[simp] theorem arms_nil : arms [] = [] := rfl

@[simp] theorem arms_append (out rest : List Output) : arms (out ++ rest) = arms out ++ arms rest :=
  List.filter_append ..

/-- Nobody is told an end, and the timer is left alone. -/
structure Silent (out : List Output) : Prop where
  terminals : terminals out = []
  arms : arms out = []

theorem Silent.nil : Silent [] := ⟨rfl, rfl⟩

variable {out : List Output} {w : World} {s : Service} {r : Runnable}

theorem Silent.cons {o : Output} (hterm : o.terminalClient = none)
    (harm : o.isArming = false) (h : Silent out) : Silent (o :: out) where
  terminals := by rw [Fingerprint.terminals, List.filterMap_cons_none hterm]; exact h.terminals
  arms := by rw [Fingerprint.arms, List.filter_cons_of_neg (by simp [harm])]; exact h.arms

theorem Silent.append {rest : List Output} (h : Silent out) (h' : Silent rest) :
    Silent (out ++ rest) :=
  ⟨by rw [terminals_append, h.terminals, h'.terminals, List.append_nil],
    by rw [arms_append, h.arms, h'.arms, List.append_nil]⟩

theorem Silent.of_isOwn (h : ∀ o ∈ out, o.isOwn = true) : Silent out := by
  induction out with
  | nil => exact .nil
  | cons o out ih =>
    have ho := h o List.mem_cons_self
    have hout := ih fun o' ho' => h o' (List.mem_cons_of_mem _ ho')
    unfold Output.isOwn at ho
    split at ho
    exacts [hout.cons rfl rfl, hout.cons rfl rfl, hout.cons rfl rfl, by cases ho]

/-! ### Who is reached, and who answers -/

def Opening.reaches : Opening → Bool
  | .opened deviceId _ _ => deviceId != 0
  | _ => false

def World.refuses (w : World) (call : DaemonCall) : Bool :=
  w.answer call != some 0 && w.answer call != none

def ClientMonitor.tellsStop (w : World) (reached : Bool) (c : ClientMonitor) : Bool :=
  match c.kind with
  | .authentication _ => false
  | .enroll _ => reached && !w.refuses .cancelEnrollment
  | .removal _ => true

section

variable {w : World} {s : Service} {c : ClientMonitor}

theorem setActiveGroup_daemon (grouping : Grouping) (userId : Int) (clientPackage : Option String) :
    (setActiveGroup w grouping userId clientPackage s).state.daemon = s.daemon := by
  simp only [setActiveGroup, get_bind]
  split
  · rw [emit_bind]
    split <;> rfl
  · rfl

theorem getFingerprintDaemon_reaches (opening : Opening) :
    (getFingerprintDaemon w opening s).result = some (s.daemon || opening.reaches) ∧
      (getFingerprintDaemon w opening s).state.daemon = (s.daemon || opening.reaches) := by
  simp only [getFingerprintDaemon, get_bind]
  cases hdaemon : s.daemon with
  | true => exact ⟨rfl, hdaemon⟩
  | false =>
    simp only [Bool.false_eq_true, if_false, Bool.false_or]
    cases opening with
    | absent | failed => exact ⟨rfl, hdaemon⟩
    | opened deviceId currentUser grouping =>
      simp only [emit_bind, modify_bind]
      by_cases hdev : deviceId = 0
      · simp [hdev, Opening.reaches, hdaemon]
      · simp only [ne_eq, hdev, not_false_eq_true, if_true, modify_bind]
        rw [bind_some (setActiveGroup_own w grouping currentUser none _).2]
        simp only [pure_apply, setActiveGroup_daemon, Opening.reaches]
        simp [hdev]

theorem ErrorTrace.terminals {error : Int} {out : List Output} (h : ErrorTrace c error out) :
    terminals out = (if c.receiver.isSome then [c.id] else []) ∧ arms out = [] := by
  cases h with
  | unheard hrecv => simp [hrecv]
  | told receiver delivered hrecv =>
    rw [hrecv]
    exact ⟨rfl, rfl⟩

theorem refuses_iff {call : DaemonCall} :
    w.refuses call = true ↔ w.answer call ≠ some 0 ∧ w.answer call ≠ none := by
  simp [World.refuses]

theorem start_terminals :
    terminals (c.start w s).trace =
        (if c.receiver.isSome && (s.daemon || w.reopening.reaches) && w.refuses c.startDaemonCall
          then [c.id] else []) ∧
      arms (c.start w s).trace = [] := by
  have hown := Silent.of_isOwn (getFingerprintDaemon_own w w.reopening s).1.trace
  simp only [ClientMonitor.start, emit_bind, bind_some (getFingerprintDaemon_reaches _).1]
  cases hreach : s.daemon || w.reopening.reaches with
  | false =>
    have hrest : ∀ b : Bool, Silent ((if b = true then throw else pure () : Handler Unit)
        (getFingerprintDaemon w w.reopening s).state).trace := by
      rintro (_ | _) <;> exact .nil
    have hall := Silent.cons (o := .started c.id) rfl rfl (hown.append (hrest c.kind.isRemoval))
    simpa using ⟨hall.terminals, hall.arms⟩
  | true =>
    have hcalled := Silent.cons (o := .started c.id) rfl rfl (hown.append
      (.cons (o := .daemon (some c.id) c.startDaemonCall
        (getFingerprintDaemon w w.reopening s).state.failedAttempts
        (w.answer c.startDaemonCall)) rfl rfl .nil))
    simp only [if_true, ClientMonitor.startCall, callDaemon_bind, ← refuses_iff, Bool.and_true]
    rw [List.append_cons, ← List.cons_append]
    simp only [terminals_append, arms_append]
    rw [hcalled.terminals, hcalled.arms]
    cases w.refuses c.startDaemonCall with
    | false => simp
    | true =>
      obtain ⟨hterms, harms⟩ := (onError_trace w c errorHwUnavailable
        (getFingerprintDaemon w w.reopening s).state).1.terminals
      simpa using ⟨hterms, harms⟩

theorem stop_terminals (initiatedByClient : Bool) :
    terminals (c.stop w initiatedByClient s).trace =
        (if initiatedByClient && c.receiver.isSome &&
            c.tellsStop w (s.daemon || w.reopening.reaches) then [c.id] else []) ∧
      arms (c.stop w initiatedByClient s).trace = [] := by
  have hown := Silent.of_isOwn (getFingerprintDaemon_own w w.reopening s).1.trace
  have hstopped : Silent [.stopped c.id] := .cons rfl rfl .nil
  have hcalled : ∀ call failedAttempts answer, Silent (.stopped c.id ::
      ((getFingerprintDaemon w w.reopening s).trace ++
        [Output.daemon (some c.id) call failedAttempts answer])) :=
    fun _ _ _ => .cons rfl rfl (hown.append (.cons rfl rfl .nil))
  have herror : ∀ s₁, terminals (c.onError w errorCanceled s₁).trace =
      (if c.receiver.isSome then [c.id] else []) ∧ arms (c.onError w errorCanceled s₁).trace = [] :=
    fun s₁ => (onError_trace w c errorCanceled s₁).1.terminals
  cases hkind : c.kind with
  | authentication opId =>
    simp only [ClientMonitor.stop, ClientMonitor.tellsStop, hkind, emit_bind,
      bind_some (getFingerprintDaemon_reaches _).1]
    cases s.daemon || w.reopening.reaches with
    | false =>
      have h := hstopped.append hown
      simpa using ⟨h.terminals, h.arms⟩
    | true =>
      have h := hcalled .cancelAuthentication
        (getFingerprintDaemon w w.reopening s).state.failedAttempts
        (w.answer .cancelAuthentication)
      simpa using ⟨h.terminals, h.arms⟩
  | enroll cryptoToken =>
    simp only [ClientMonitor.stop, ClientMonitor.tellsStop, hkind, emit_bind,
      bind_some (getFingerprintDaemon_reaches _).1]
    cases s.daemon || w.reopening.reaches with
    | false =>
      have h := hstopped.append hown
      simpa using ⟨h.terminals, h.arms⟩
    | true =>
      have h := hcalled .cancelEnrollment
        (getFingerprintDaemon w w.reopening s).state.failedAttempts (w.answer .cancelEnrollment)
      have hanswer : (w.answer .cancelEnrollment = some 0 ∨ w.answer .cancelEnrollment = none) ↔
          w.refuses .cancelEnrollment = false := by
        rw [← Bool.not_eq_true, refuses_iff]
        tauto
      simp only [if_true, callDaemon_bind, hanswer, Bool.true_and]
      rw [List.append_cons, ← List.cons_append]
      simp only [terminals_append, arms_append]
      rw [h.terminals, h.arms]
      cases w.refuses .cancelEnrollment <;> cases initiatedByClient <;> simp [herror]
  | removal fingerId =>
    simp only [ClientMonitor.stop, ClientMonitor.tellsStop, hkind, emit_bind]
    rw [← List.singleton_append]
    simp only [terminals_append, arms_append]
    rw [hstopped.terminals, hstopped.arms]
    cases initiatedByClient <;> simp [herror]

end

/-! ### Turns -/

/-- The first daemon call of an accepted request. -/
def Runnable.accepted (w : World) (s : Service) : Runnable → Option (DaemonCall × Option Nat)
  | .startEnrollment (some _) (some cryptoToken) userId receiver _ _ =>
    some (.enroll cryptoToken userId ClientMonitor.enrollmentTimeout, receiver)
  | .authenticate (some _) opId groupId receiver _ opPackageName uid pid =>
    if (canUseFingerprint w opPackageName uid pid s).result = some true ∧ s.inLockoutMode = false
      then some (.authenticate opId groupId, receiver) else none
  | .remove (some _) fingerId groupId _ receiver _ =>
    if s.daemon || w.opening.reaches then some (.remove fingerId groupId, receiver) else none
  | _ => none

/-- The pending client is started. -/
def Runnable.resumes : Runnable → Bool
  | .message (.error code) => code == errorCanceled
  | .resetClientState _ => true
  | _ => false

/-- The daemon refuses a start, and the receiver is told. -/
def Runnable.refused (w : World) (s : Service) (r : Runnable) : Bool :=
  if r.resumes then
    s.pendingClient.any fun c =>
      c.receiver.isSome && (s.daemon || w.reopening.reaches) && w.refuses c.startDaemonCall
  else
    s.currentClient.isNone && (r.accepted w s).any fun request =>
      request.2.isSome && (s.daemon || w.opening.reaches || w.reopening.reaches) &&
        w.refuses request.1

def Runnable.interrupts (w : World) (s : Service) (r : Runnable) : Bool :=
  s.currentClient.any fun c => c.receiver.isSome && match r with
    | .cancelEnrollment token =>
      c.kind.isEnroll && c.token == token && c.tellsStop w (s.daemon || w.reopening.reaches)
    | _ =>
      (r.accepted w s).isSome &&
        c.tellsStop w (s.daemon || w.opening.reaches || w.reopening.reaches)

/-- How one runnable moves the clients and the timer. -/
inductive Turn (w : World) (r : Runnable) (s : Service) (o : Outcome Service Output Unit) : Prop
  | keep : o.state.currentClient = s.currentClient → o.state.pendingClient = s.pendingClient →
      o.state.nextClient = s.nextClient → arms o.trace = [] →
      terminals o.trace = [] ∨ r.interrupts w s = true → Turn w r s o
  | drop (c : ClientMonitor) : s.currentClient = some c → o.state.currentClient = none →
      o.state.pendingClient = s.pendingClient → o.state.nextClient = s.nextClient →
      arms o.trace = [] → terminals o.trace = [] ∨ terminals o.trace = [c.id] → Turn w r s o
  | refuse : o.state.currentClient = s.currentClient → o.state.pendingClient = s.pendingClient →
      o.state.nextClient = s.nextClient + 1 → arms o.trace = [] →
      terminals o.trace = [] ∨ terminals o.trace = [s.nextClient] → Turn w r s o
  | begin (c : ClientMonitor) : s.currentClient = none → c.id = s.nextClient →
      o.state.currentClient = some c → o.state.pendingClient = s.pendingClient →
      o.state.nextClient = s.nextClient + 1 → arms o.trace = [] →
      terminals o.trace = [] ∨ r.refused w s = true → Turn w r s o
  | park (c current : ClientMonitor) : s.currentClient = some current → c.id = s.nextClient →
      o.state.currentClient = some current → o.state.pendingClient = some c →
      o.state.nextClient = s.nextClient + 1 →
      arms o.trace = [.disarmReset, .armReset current.id] →
      terminals o.trace = [] ∨ r.interrupts w s = true → Turn w r s o
  -- The current client, if there still is one, is told by the error that ends it.
  | resume (told : List Nat) : r.resumes = true → o.state.currentClient = s.pendingClient →
      (o.result.isSome = true → o.state.pendingClient = none) →
      o.state.nextClient = s.nextClient →
      arms o.trace = [.disarmReset] ∨ r.isResetClientState = true ∧ arms o.trace = [] →
      (∀ k ∈ told, s.currentClient.map ClientMonitor.id = some k) → told.Nodup →
      terminals o.trace = told ∨ r.refused w s = true → Turn w r s o

structure Readied (w : World) (s s₁ : Service) : Prop where
  currentClient : s₁.currentClient = s.currentClient
  pendingClient : s₁.pendingClient = s.pendingClient
  nextClient : s₁.nextClient = s.nextClient
  failedAttempts : s₁.failedAttempts = s.failedAttempts
  daemon : s₁.daemon = (s.daemon || w.opening.reaches)

section

variable {w : World} {r : Runnable} {s s₁ : Service} {kind : ClientKind} {token : Nat}
  {receiver : Option Nat} {targetUserId groupId : Int} {restricted : Bool} {owner : String}
  {pre : List Output} {out : Outcome Service Output Unit}

theorem getFingerprintDaemon_readies : Readied w s (getFingerprintDaemon w w.opening s).state ∧
      Silent (getFingerprintDaemon w w.opening s).trace := by
  obtain ⟨⟨htouch, hown⟩, -⟩ := getFingerprintDaemon_own w w.opening s
  exact ⟨⟨htouch.currentClient, htouch.pendingClient, htouch.nextClient,
    htouch.failedAttempts, (getFingerprintDaemon_reaches _).2⟩, .of_isOwn hown⟩

theorem updateActiveGroup_readies (userId : Int) (clientPackage : Option String) :
    Readied w s (updateActiveGroup w userId clientPackage s).state ∧
      Silent (updateActiveGroup w userId clientPackage s).trace ∧
      (updateActiveGroup w userId clientPackage s).result = some () := by
  obtain ⟨hready, hsilent⟩ := getFingerprintDaemon_readies
  simp only [updateActiveGroup, bind_some (getFingerprintDaemon_reaches _).1]
  cases s.daemon || w.opening.reaches with
  | false => simpa using ⟨hready, hsilent⟩
  | true =>
    obtain ⟨⟨htouch', hown'⟩, hres'⟩ := setActiveGroup_own w w.grouping userId clientPackage
      (getFingerprintDaemon w w.opening s).state
    simp only [if_true, hres']
    refine ⟨⟨?_, ?_, ?_, ?_, ?_⟩, hsilent.append (.of_isOwn hown'), trivial⟩
    · rw [htouch'.currentClient, hready.currentClient]
    · rw [htouch'.pendingClient, hready.pendingClient]
    · rw [htouch'.nextClient, hready.nextClient]
    · rw [htouch'.failedAttempts, hready.failedAttempts]
    · rw [setActiveGroup_daemon, hready.daemon]

theorem newClient_turn {call : DaemonCall} (hready : Readied w s s₁) (hpre : Silent pre)
    (hresume : r.resumes = false) (haccept : r.accepted w s = some (call, receiver))
    (hcall : ∀ c : ClientMonitor, c.kind = kind → c.groupId = groupId → c.startDaemonCall = call)
    (hout : out = (ClientMonitor.new kind (some token) receiver targetUserId groupId restricted
      owner >>= fun c => startClient w (some c) true) s₁) :
    Turn w r s ⟨pre ++ out.trace, out.state, out.result⟩ := by
  obtain ⟨c, hc, heq⟩ := new_bind kind token receiver targetUserId groupId restricted owner s₁
  let s₂ : Service := { s₁ with nextClient := s₁.nextClient + 1 }
  have hcreate : Silent (pre ++ [Output.created c.id c.token]) := hpre.append (.cons rfl rfl .nil)
  have hdaemon : s₂.daemon = (s.daemon || w.opening.reaches) := hready.daemon
  have hid : c.id = s.nextClient := hc.id.trans hready.nextClient
  rw [hout, heq _ s₂ rfl]
  rw [List.append_cons]
  cases hcur : s.currentClient with
  | none =>
    obtain ⟨hterms, harms⟩ := start_terminals
    have htouch := (start_trace w c { s₂ with currentClient := some c }).2.1
    rw [startClient_none (show s₂.currentClient = none from hready.currentClient.trans hcur)]
    refine .begin c hcur hid htouch.currentClient
      (htouch.pendingClient.trans hready.pendingClient) ?_ ?_ ?_
    · rw [htouch.nextClient, ← hready.nextClient]
    · rw [arms_append, hcreate.arms, harms, List.append_nil]
    · rw [terminals_append, hcreate.terminals, hterms, hcall c hc.kind hc.groupId, hc.receiver]
      simp only [hdaemon]
      unfold Runnable.refused
      rw [hresume, hcur, haccept]
      split
      · next htold => exact .inr htold
      · exact .inl rfl
  | some current =>
    obtain ⟨hterms, harms⟩ := stop_terminals (w := w) (c := current) (s := s₂) true
    have htouch := (stop_trace w current true s₂).2.1
    rw [startClient_some
      (show s₂.currentClient = some current from hready.currentClient.trans hcur)]
    refine .park c current hcur hid
      (htouch.currentClient.trans (hready.currentClient.trans hcur)) rfl ?_ ?_ ?_
    · rw [← hready.nextClient]
      exact htouch.nextClient
    · rw [arms_append, hcreate.arms]
      simp only [arms_append, harms]
      rfl
    · rw [terminals_append, hcreate.terminals]
      simp only [terminals_append, hterms, hdaemon]
      split
      · next htold =>
        simp only [Bool.true_and, Bool.and_eq_true] at htold
        right
        unfold Runnable.interrupts
        rw [hcur, Option.any_some, htold.1]
        split
        · cases haccept
        · rw [haccept, htold.2]
          rfl
      · exact .inl rfl

theorem refusedClient_turn (hready : Readied w s s₁) (hpre : Silent pre)
    (hout : out = (ClientMonitor.new kind (some token) receiver targetUserId groupId restricted
      owner >>= fun c => c.onError w errorLockout) s₁) :
    Turn w r s ⟨pre ++ out.trace, out.state, out.result⟩ := by
  obtain ⟨c, hc, heq⟩ := new_bind kind token receiver targetUserId groupId restricted owner s₁
  let s₂ : Service := { s₁ with nextClient := s₁.nextClient + 1 }
  have hcreate : Silent (pre ++ [Output.created c.id c.token]) := hpre.append (.cons rfl rfl .nil)
  obtain ⟨htold, hstate, -⟩ := onError_trace w c errorLockout s₂
  rw [hout, heq _ s₂ rfl]
  rw [List.append_cons, hstate]
  refine .refuse hready.currentClient hready.pendingClient ?_ ?_ ?_
  · simp only [s₂, hready.nextClient]
  · rw [arms_append, hcreate.arms, htold.terminals.2, List.append_nil]
  · rw [terminals_append, hcreate.terminals, htold.terminals.1, List.nil_append]
    split
    · exact .inr (by rw [hc.id, hready.nextClient])
    · exact .inl rfl

end

/-! ### Messages to the current client -/

section

variable {w : World} {c : ClientMonitor} {α : Type} {origin : Option Nat} {fingerId groupId : Int}

theorem Mild.arms {x : Handler α} (h : Mild Output.isMild x) (s : Service) :
    arms (x s).trace = [] := by
  refine List.filter_eq_nil_iff.mpr fun o ho => ?_
  have hmild := (h s).2 o ho
  cases o <;> first | simp [Output.isArming]; done | cases hmild

theorem Mild.silent {x : Handler α} (h : Mild Output.isRecord x) (s : Service) :
    Silent (x s).trace where
  arms := (h.mono isMild_of_isRecord).arms s
  terminals := by
    refine List.filterMap_eq_nil_iff.mpr fun o ho => ?_
    have hrecord := (h s).2 o ho
    cases o <;> first | rfl | cases hrecord

theorem send_terminals (callback : Callback) (origin : Option Nat) (s : Service) :
    (c.send w callback origin s).result.isSome = true ∧ (c.send w callback origin s).state = s ∧
      terminals (c.send w callback origin s).trace =
        if c.receiver.isSome && callback.isTerminal then [c.id] else [] := by
  unfold ClientMonitor.send
  cases c.receiver with
  | none => exact ⟨rfl, rfl, rfl⟩
  | some receiver =>
    refine ⟨rfl, rfl, ?_⟩
    cases h : callback.isTerminal <;> simp [terminals, Output.terminalClient, h, emit_bind]

def EndsDone (c : ClientMonitor) (handler : Handler Bool) : Prop :=
  ∀ s, terminals (handler s).trace = [] ∨
    terminals (handler s).trace = [c.id] ∧ (handler s).result = some true

theorem send_endsDone {callback : Callback} {f : Bool → Bool}
    (h : callback.isTerminal = true → ∀ heard, f heard = true) :
    EndsDone c (do let heard ← c.send w callback origin; pure (f heard)) := by
  intro s
  obtain ⟨hres, -, hterms⟩ := send_terminals callback origin s
  obtain ⟨heard, hheard⟩ := Option.isSome_iff_exists.mp hres
  rw [bind_some hheard]
  simp only [pure_apply, List.append_nil, hterms]
  split
  · next htold =>
    simp only [Bool.and_eq_true] at htold
    exact .inr ⟨rfl, by rw [h htold.2 heard]⟩
  · exact .inl rfl

theorem EndsDone.bind {x : Handler α} {f : α → Handler Bool} (hx : ∀ s, terminals (x s).trace = [])
    (hf : ∀ a, EndsDone c (f a)) : EndsDone c (x >>= f) := by
  intro s
  cases hr : (x s).result with
  | none =>
    rw [bind_none hr]
    exact .inl (hx s)
  | some a =>
    rw [bind_some hr]
    simpa [hx s] using hf a (x s).state

theorem EndsDone.pure (done : Bool) : EndsDone c (Pure.pure done) := fun _ => .inl rfl

theorem onRemoved_endsDone : EndsDone c (c.onRemoved w fingerId) := by
  have hend : EndsDone c (do
      let _ ← c.send w (.onRemoved fingerId c.groupId) none
      Pure.pure (fingerId == 0)) :=
    send_endsDone fun hterm _ => hterm
  unfold ClientMonitor.onRemoved
  split
  · exact .bind (fun _ => rfl) fun _ => .bind (fun _ => rfl) fun _ => hend
  · exact hend

theorem onEnrollResult_endsDone {remaining : Int} :
    EndsDone c (c.onEnrollResult w fingerId groupId remaining origin) := by
  have hend : EndsDone c (do
      let heard ← c.send w (.onEnrollResult fingerId groupId remaining) origin
      Pure.pure (!heard || remaining == 0)) :=
    send_endsDone fun hterm heard => by
      have hlast : (remaining == 0) = true := hterm
      rw [hlast, Bool.or_true]
  unfold ClientMonitor.onEnrollResult
  split
  · split
    · exact .bind (fun _ => rfl) fun _ => .bind (fun _ => rfl) fun _ => hend
    · exact hend
  · exact .pure true

theorem onAuthenticated_endsDone : EndsDone c (c.onAuthenticated w fingerId groupId origin) := by
  unfold ClientMonitor.onAuthenticated
  split
  · intro s
    obtain ⟨hres, -, hterms⟩ := send_terminals
      (.onAuthenticationSucceeded (c.authenticatedFp fingerId groupId) c.targetUserId) origin s
    obtain ⟨heard, hheard⟩ := Option.isSome_iff_exists.mp hres
    have hreset : ∀ s₁, terminals ((do resetFailedAttempts; Pure.pure true :
        Handler Bool) s₁).trace = [] := fun s₁ =>
      ((resetFailedAttempts_mild.bind fun _ => .pure true).silent s₁).terminals
    rw [bind_some hheard, terminals_append, hterms, hreset]
    split
    · exact .inr ⟨rfl, rfl⟩
    · exact .inl rfl
  · have hfail : ∀ s, terminals (c.send w .onAuthenticationFailed origin s).trace = [] := by
      intro s
      simpa [Callback.isTerminal] using
        (send_terminals .onAuthenticationFailed origin s).2.2
    refine .bind hfail fun heard => ?_
    refine .bind (fun s => ((handleFailedAttempt_mild origin).silent s).terminals) fun locked => ?_
    cases locked with
    | false => exact .pure _
    | true =>
      have hend : EndsDone c (do
          let _ ← c.send w (.onError errorLockout) origin
          Pure.pure (!heard || true)) :=
        send_endsDone fun _ _ => by rw [Bool.or_true]
      simp only [if_true]
      split
      · exact .bind (fun _ => rfl) fun _ => hend
      · exact hend

theorem bind_turn {r : Runnable} {s : Service} {x : Handler Bool} {f : Bool → Handler Unit}
    {rest : Handler Unit} (hcur : s.currentClient = some c)
    (hx : Mild Output.isMild x) (hends : EndsDone c x) (hrest : Mild Output.isRecord rest)
    (hfalse : f false = rest) (htrue : f true = removeClient >>= fun _ => rest) :
    Turn w r s ((x >>= f) s) := by
  obtain ⟨hcalm, -⟩ := hx s
  have harms := hx.arms s
  have hterms := hends s
  cases hr : (x s).result with
  | none =>
    rw [bind_none hr]
    rw [hr] at hterms
    exact .keep hcalm.currentClient hcalm.pendingClient hcalm.nextClient harms
      (.inl (by simpa using hterms))
  | some done =>
    rw [hr] at hterms
    rw [bind_some hr]
    cases done with
    | false =>
      rw [hfalse]
      obtain ⟨hcalm', -⟩ := hrest (x s).state
      have hsilent := hrest.silent (x s).state
      have hall := hcalm.trans hcalm'
      refine .keep hall.currentClient hall.pendingClient hall.nextClient ?_ (.inl ?_)
      · rw [arms_append, harms, hsilent.arms, List.append_nil]
      · rw [terminals_append, hsilent.terminals]
        simpa using hterms
    | true =>
      rw [htrue]
      obtain ⟨hcalm', -⟩ := hrest { (x s).state with currentClient := none }
      have hsilent := hrest.silent { (x s).state with currentClient := none }
      have heq : (removeClient >>= fun _ => rest) (x s).state =
        rest { (x s).state with currentClient := none } := rfl
      rw [heq]
      refine .drop c hcur hcalm'.currentClient
        (hcalm'.pendingClient.trans hcalm.pendingClient)
        (hcalm'.nextClient.trans hcalm.nextClient) ?_ ?_
      · rw [arms_append, harms, hsilent.arms, List.append_nil]
      · rw [terminals_append, hsilent.terminals]
        simpa using hterms

end

/-! ### Every runnable takes a turn -/

section

variable {w : World} {r : Runnable} {s : Service} {o : Outcome Service Output Unit}
  {fingerId groupId acquiredInfo error userId : Int} {origin token receiver : Option Nat}
  {told : List Output} {restricted : Bool} {opPackageName : String} {uid pid : Nat}

theorem Turn.of_silent (hout : Silent o.trace) (hcur : o.state.currentClient = s.currentClient)
    (hpend : o.state.pendingClient = s.pendingClient)
    (hnext : o.state.nextClient = s.nextClient) : Turn w r s o :=
  .keep hcur hpend hnext hout.arms (.inl hout.terminals)

theorem Turn.of_readied (hout : Silent o.trace) (h : Readied w s o.state) : Turn w r s o :=
  .of_silent hout h.currentClient h.pendingClient h.nextClient

theorem Turn.of_touched (hout : Silent o.trace) (h : Touched s o.state) : Turn w r s o :=
  .of_silent hout h.currentClient h.pendingClient h.nextClient

theorem Turn.refl {result : Option Unit} : Turn w r s ⟨[], s, result⟩ :=
  .of_touched .nil (.refl s)

theorem turn_current {f : ClientMonitor → Handler Unit}
    (h : ∀ client, s.currentClient = some client → Turn w r s (f client s)) :
    Turn w r s ((do
      match (← get).currentClient with
      | some client => f client
      | none => pure () : Handler Unit) s) := by
  simp only [get_bind]
  cases hcur : s.currentClient with
  | none => exact .refl
  | some client => exact h client hcur

theorem handleAcquired_turn : Turn w r s (handleAcquired w acquiredInfo s) :=
  turn_current fun _ hcur => bind_turn hcur onAcquired_mild (send_endsDone (by rintro ⟨⟩))
    (.get_bind fun _ => .ite (count_mild _) (.pure ())) rfl rfl

theorem handleAuthenticated_turn :
    Turn w r s (handleAuthenticated w fingerId groupId origin s) := by
  refine turn_current fun client hcur => ?_
  split
  · exact bind_turn hcur onAuthenticated_mild onAuthenticated_endsDone (count_mild _) rfl rfl
  · exact .refl

theorem handleRemoved_turn : Turn w r s (handleRemoved w fingerId s) := by
  refine turn_current fun client hcur => ?_
  split
  · exact bind_turn hcur onRemoved_mild onRemoved_endsDone (.pure ()) rfl rfl
  · exact .refl

theorem handleAcq_turn : Turn w r s (handleAcq w acquiredInfo s) := by
  refine turn_current fun client _ => ?_
  obtain ⟨hres, hstate, hterms⟩ := send_terminals
    (.onAcquired acquiredInfo) none s
  obtain ⟨heard, hheard⟩ := Option.isSome_iff_exists.mp hres
  have hacquire : client.onAcquired w acquiredInfo s =
      ⟨(client.send w (.onAcquired acquiredInfo) none s).trace, s, some !heard⟩ := by
    rw [ClientMonitor.onAcquired, bind_some hheard]
    simp [hstate]
  rw [bind_some (by rw [hacquire]), hacquire]
  simp only [pure_apply, List.append_nil]
  exact .of_silent ⟨by simpa [Callback.isTerminal] using hterms, (send_mild).arms s⟩
    rfl rfl rfl

structure Resumed (w : World) (s : Service) (o : Outcome Service Output Unit) : Prop where
  currentClient : o.state.currentClient = s.pendingClient
  pendingClient : o.result.isSome = true → o.state.pendingClient = none
  nextClient : o.state.nextClient = s.nextClient
  arms : arms o.trace = []
  terminals : terminals o.trace = [] ∨ (s.pendingClient.any fun c => c.receiver.isSome &&
    (s.daemon || w.reopening.reaches) && w.refuses c.startDaemonCall) = true

theorem startPendingClient_resumed (hcur : s.currentClient = none) :
    Resumed w s (startPendingClient w s) := by
  cases hpend : s.pendingClient with
  | none =>
    rw [startPendingClient_nobody hpend]
    exact ⟨hcur.trans hpend.symm, fun _ => hpend, rfl, rfl, .inl rfl⟩
  | some c =>
    obtain ⟨hterms, harms⟩ := start_terminals
    have htouch := (start_trace w c { s with currentClient := some c }).2.1
    have htold : terminals (c.start w { s with currentClient := some c }).trace = [] ∨
        (s.pendingClient.any fun c => c.receiver.isSome &&
          (s.daemon || w.reopening.reaches) && w.refuses c.startDaemonCall) = true := by
      rw [hterms, hpend]
      split
      · next htold => exact .inr htold
      · exact .inl rfl
    have hstart := htouch.currentClient.trans hpend.symm
    rw [startPendingClient_some hcur hpend rfl]
    cases hres : (c.start w { s with currentClient := some c }).result with
    | none => exact ⟨hstart, by simp, htouch.nextClient, harms, htold⟩
    | some _ => exact ⟨hstart, fun _ => rfl, htouch.nextClient, harms, htold⟩

theorem resetClientState_resumed :
    Resumed w { s with currentClient := none } (resetClientState w s) := by
  rw [resetClientState_eq]
  exact startPendingClient_resumed rfl

theorem resetClientState_turn {armedFor : Nat} :
    Turn w (.resetClientState armedFor) s (resetClientState w s) := by
  have h := resetClientState_resumed (w := w) (s := s)
  exact .resume [] rfl h.currentClient h.pendingClient h.nextClient (.inr ⟨rfl, h.arms⟩)
    (by simp) List.nodup_nil h.terminals

def ToldError (s : Service) (error : Int) (told : List Output) : Prop :=
  match s.currentClient with
  | none => told = []
  | some c => ErrorTrace c error told

theorem ToldError.arms (h : ToldError s error told) : arms told = [] := by
  unfold ToldError at h
  split at h
  · rw [h]
    rfl
  · exact h.terminals.2

theorem ToldError.terminals (h : ToldError s error told) :
    (∀ k ∈ terminals told, s.currentClient.map ClientMonitor.id = some k) ∧
      (terminals told).Nodup := by
  unfold ToldError at h
  split at h
  · rw [h]
    exact ⟨by simp, List.nodup_nil⟩
  · next c hcur =>
    rw [h.terminals.1, hcur]
    split <;> simp

theorem handleError_eq (w : World) (error : Int) (s : Service) :
    ∃ told, ToldError s error told ∧
      ∀ tail : Outcome Service Output Unit,
        tail = (if error = errorCanceled then (do emit .disarmReset; startPendingClient w)
          else pure () : Handler Unit) { s with currentClient := none } →
        handleError w error s = ⟨told ++ tail.trace, tail.state, tail.result⟩ := by
  unfold ToldError
  cases hcur : s.currentClient with
  | none =>
    have hsame : { s with currentClient := none } = s := by rw [← hcur]
    refine ⟨[], rfl, ?_⟩
    rintro tail rfl
    rw [hsame]
    simp only [handleError, get_bind, hcur]
    rfl
  | some c =>
    obtain ⟨htold, hstate, hres⟩ := onError_trace w c error s
    refine ⟨(c.onError w error s).trace, htold, ?_⟩
    rintro tail rfl
    simp only [handleError, get_bind, hcur, bind_some hres, hstate]
    rfl

theorem handleError_turn_of_ne {s₀ : Service} (herror : error ≠ errorCanceled)
    (hcur : s₀.currentClient = s.currentClient) (hpend : s₀.pendingClient = s.pendingClient)
    (hnext : s₀.nextClient = s.nextClient) : Turn w r s (handleError w error s₀) := by
  obtain ⟨told, htold, heq⟩ := handleError_eq w error s₀
  rw [heq ⟨[], { s₀ with currentClient := none }, some ()⟩ (by rw [if_neg herror]; rfl)]
  simp only [List.append_nil]
  unfold ToldError at htold
  split at htold
  · next hnone =>
    rw [htold]
    exact .of_silent .nil (hnone.symm.trans hcur) hpend hnext
  · next c hsome =>
    refine .drop c (hcur.symm.trans hsome) rfl hpend hnext htold.terminals.2 ?_
    rw [htold.terminals.1]
    split
    exacts [.inr rfl, .inl rfl]

theorem handleError_turn (error : Int) (hr : r.resumes = (error == errorCanceled)) :
    Turn w r s (handleError w error s) := by
  by_cases hcanceled : error = errorCanceled
  · obtain ⟨told, htold, heq⟩ := handleError_eq w error s
    let s₁ : Service := { s with currentClient := none }
    have hresume : r.resumes = true := by rw [hr, hcanceled]; rfl
    have htail := heq ⟨.disarmReset :: (startPendingClient w s₁).trace,
      (startPendingClient w s₁).state, (startPendingClient w s₁).result⟩
      (by rw [if_pos hcanceled]; rfl)
    rw [htail]
    have h : Resumed w s₁ (startPendingClient w s₁) := startPendingClient_resumed rfl
    refine .resume (terminals told) hresume h.currentClient h.pendingClient h.nextClient
      (.inl ?_) htold.terminals.1 htold.terminals.2 ?_
    · rw [arms_append, htold.arms, ← List.singleton_append, arms_append, h.arms]
      rfl
    · rcases h.terminals with hnil | hrefuse
      · left
        rw [terminals_append, ← List.singleton_append, terminals_append, hnil]
        exact List.append_nil _
      · right
        rw [Runnable.refused, if_pos hresume]
        exact hrefuse
  · exact handleError_turn_of_ne hcanceled rfl rfl rfl

theorem startRemove_turn : Turn w (.remove token fingerId groupId userId receiver restricted) s
      (startRemove w token fingerId groupId userId receiver restricted s) := by
  obtain ⟨hready, hsilent⟩ := getFingerprintDaemon_readies
  unfold startRemove
  rw [bind_some (getFingerprintDaemon_reaches _).1]
  cases hreach : s.daemon || w.opening.reaches with
  | false => exact .of_readied (hsilent.append .nil) hready
  | true =>
    cases token with
    | none => exact .of_readied (hsilent.append .nil) hready
    | some token =>
      have haccept : Runnable.accepted w s (.remove (some token) fingerId groupId userId receiver
          restricted) = some (.remove fingerId groupId, receiver) := by
        simp only [Runnable.accepted, hreach, if_true]
      refine newClient_turn hready hsilent rfl haccept ?_ rfl
      rintro c hkind hgroup
      rw [ClientMonitor.startDaemonCall, hkind, hgroup]

theorem startEnrollment_turn {cryptoToken : Option (List UInt8)} :
    Turn w (.startEnrollment token cryptoToken userId receiver restricted opPackageName) s
      (startEnrollment w token cryptoToken userId receiver restricted opPackageName s) := by
  cases cryptoToken with
  | none => exact .refl
  | some cryptoToken =>
    obtain ⟨hready, hsilent, hres⟩ :=
      updateActiveGroup_readies userId (some opPackageName)
    simp only [startEnrollment]
    rw [bind_some hres]
    cases token with
    | none => exact .of_readied (hsilent.append .nil) hready
    | some token =>
      refine newClient_turn hready hsilent rfl rfl ?_ rfl
      rintro c hkind hgroup
      rw [ClientMonitor.startDaemonCall, hkind, hgroup]

theorem startAuthentication_turn (s₀ : Service) (token : Option Nat) (opId groupId : Int)
    (receiver : Option Nat) (restricted : Bool) (opPackageName : String)
    (hs : s₀ = { s with performanceStats := s₀.performanceStats }) (hresume : r.resumes = false)
    (haccept : ∀ t, token = some t → s.inLockoutMode = false →
      r.accepted w s = some (.authenticate opId groupId, receiver)) :
    Turn w r s (startAuthentication w token opId groupId receiver restricted opPackageName s₀) := by
  obtain ⟨hready₀, hsilent, hres⟩ :=
    updateActiveGroup_readies (s := s₀) groupId (some opPackageName)
  have hready : Readied w s (updateActiveGroup w groupId (some opPackageName) s₀).state := by
    rw [hs] at hready₀ ⊢
    exact ⟨hready₀.currentClient, hready₀.pendingClient, hready₀.nextClient,
      hready₀.failedAttempts, hready₀.daemon⟩
  have hlock : (updateActiveGroup w groupId (some opPackageName) s₀).state.inLockoutMode =
      s.inLockoutMode := by
    rw [Service.inLockoutMode, Service.inLockoutMode, hready.failedAttempts]
  unfold startAuthentication
  rw [bind_some hres]
  simp only [get_bind, hlock]
  cases token with
  | none =>
    cases s.inLockoutMode <;> exact .of_readied (hsilent.append .nil) hready
  | some token =>
    cases hmode : s.inLockoutMode with
    | true => exact refusedClient_turn hready hsilent rfl
    | false =>
      refine newClient_turn hready hsilent hresume (haccept token rfl hmode) ?_ rfl
      rintro c hkind hgroup
      rw [ClientMonitor.startDaemonCall, hkind, hgroup]

theorem authenticate_turn {opId : Int} :
    Turn w (.authenticate token opId groupId receiver restricted opPackageName uid pid) s
      (authenticate w token opId groupId receiver restricted opPackageName uid pid s) := by
  unfold authenticate
  rcases canUseFingerprint_cases _ s with ⟨-, result, heq⟩ | ⟨hallowed, heq⟩
  · rw [heq]
    exact .refl
  · rw [heq]
    refine startAuthentication_turn
      { s with performanceStats := some ⟨opId != 0, s.currentUserId⟩ } token opId groupId
      receiver restricted opPackageName rfl rfl ?_
    rintro t rfl hmode
    simp only [Runnable.accepted, hallowed, hmode, and_self, if_true]

theorem stop_turn {c : ClientMonitor}
    (htells : c.receiver.isSome = true →
      c.tellsStop w (s.daemon || w.reopening.reaches) = true → r.interrupts w s = true) :
    Turn w r s (c.stop w true s) := by
  obtain ⟨hterms, harms⟩ := stop_terminals true
  have htouch := (stop_trace w c true s).2.1
  refine .keep htouch.currentClient htouch.pendingClient htouch.nextClient harms ?_
  rw [hterms]
  split
  · next htold =>
    simp only [Bool.true_and, Bool.and_eq_true] at htold
    exact .inr (htells htold.1 htold.2)
  · exact .inl rfl

theorem cancelAuthentication_turn :
    Turn w r s (cancelAuthentication w token opPackageName uid pid s) := by
  unfold cancelAuthentication
  rcases canUseFingerprint_cases _ s with ⟨-, result, heq⟩ | ⟨-, heq⟩
  · rw [heq]
    exact .refl
  · rw [heq]
    refine turn_current fun client _ => ?_
    split
    · next hclient =>
      -- the stop of an authentication tells nobody
      refine stop_turn fun _ htells => ?_
      cases hkind : client.kind with
      | authentication => simp [ClientMonitor.tellsStop, hkind] at htells
      | enroll | removal => simp [hkind, ClientKind.isAuthentication] at hclient
    · exact .refl

theorem cancelEnrollment_turn :
    Turn w (.cancelEnrollment token) s (cancelEnrollment w token s) := by
  refine turn_current fun client hcur => ?_
  split
  · next hclient =>
    refine stop_turn fun hrecv htells => ?_
    simp only [Runnable.interrupts, hcur, Option.any_some, hrecv, hclient, htells,
      Bool.and_self]
  · exact .refl

theorem notifyFpService_turn {msgId : Int} : Turn w r s (notifyFpService w msgId s) := by
  obtain ⟨⟨htouch, hown⟩, -⟩ := getFingerprintDaemon_own w w.opening s
  have hreaches := (getFingerprintDaemon_reaches (w := w) (s := s) w.opening).1
  have hstop : Silent (faceStop w s).trace ∧ Touched s (faceStop w s).state ∧
      (faceStop w s).result = some () := by
    unfold faceStop
    rw [bind_some hreaches]
    cases s.daemon || w.opening.reaches with
    | false => simpa using ⟨Silent.of_isOwn hown, htouch⟩
    | true =>
      exact ⟨(Silent.of_isOwn hown).append (.cons rfl rfl .nil), htouch, rfl⟩
  simp only [notifyFpService, get_bind]
  split
  · rw [bind_some hstop.2.2]
    split
    · exact .of_touched (hstop.1.append (.cons rfl rfl .nil)) hstop.2.1
    · exact .of_touched (hstop.1.append .nil) hstop.2.1
  · exact .refl

end

theorem handleMessage_turn (m : DaemonMessage) : Turn w (.message m) s (handleMessage w m s) := by
  cases m with
  | enrollResult =>
    exact turn_current fun _ hcur =>
      bind_turn hcur onEnrollResult_mild onEnrollResult_endsDone (.pure ()) rfl rfl
  | acquired => exact handleAcquired_turn
  | authenticated => exact handleAuthenticated_turn
  | error code => exact handleError_turn code rfl
  | removed => exact handleRemoved_turn

theorem runRunnable_turn (r : Runnable) : Turn w r s (runRunnable w r s) := by
  cases r with
  | message m => exact handleMessage_turn m
  | startEnrollment => exact startEnrollment_turn
  | cancelEnrollment => exact cancelEnrollment_turn
  | authenticate => exact authenticate_turn
  | cancelAuthentication => exact cancelAuthentication_turn
  | updateActiveGroup userId =>
    obtain ⟨hready, hsilent, -⟩ := updateActiveGroup_readies userId none
    exact .of_readied hsilent hready
  | remove => exact startRemove_turn
  | resetFailedAttempts =>
    obtain ⟨hcalm, -⟩ := resetFailedAttempts_mild s
    exact .of_silent (resetFailedAttempts_mild.silent s) hcalm.currentClient hcalm.pendingClient
      hcalm.nextClient
  | resetClientState => exact resetClientState_turn
  | notifyFpService => exact notifyFpService_turn
  | handleAcq => exact handleAcq_turn

theorem Turn.post {runnable : Runnable} (hrun : runnable.isResetClientState = false) :
    Turn w r s ⟨[.post runnable], s, some ()⟩ := by
  refine .of_silent (.cons rfl ?_ .nil) rfl rfl rfl
  cases runnable <;> first | rfl | cases hrun

theorem binderCall_turn (caller : Caller) (call : BinderCall) :
    Turn w r s (binderCall w caller call s) := by
  rcases binderCall_shape w caller call s with ⟨runnable, hrun, heq⟩ | heq | heq
  · rw [heq]
    exact .post hrun
  · rw [heq]
    obtain ⟨⟨htouch, hown⟩, -⟩ := getFingerprintDaemon_own w w.opening s
    exact .of_touched (.of_isOwn hown) htouch
  · rw [heq]
    exact .refl

theorem accepted_none_calm (hresume : r.resumes = false) (haccept : r.accepted w s = none)
    (hcancel : ∀ token, r ≠ .cancelEnrollment token) :
    r.refused w s = false ∧ r.interrupts w s = false := by
  constructor
  · simp [Runnable.refused, hresume, haccept]
  · unfold Runnable.interrupts
    split
    · exact absurd rfl (hcancel _)
    · simp [haccept]

/-! ### What the service does next -/

structure SameClients (y y' : System) : Prop where
  crashed : y'.crashed = y.crashed
  currentClient : y'.service.currentClient = y.service.currentClient
  pendingClient : y'.service.pendingClient = y.service.pendingClient
  nextClient : y'.service.nextClient = y.service.nextClient
  timer : y'.timer = y.timer
  queue : y'.queue = y.queue

theorem SameClients.refl (y : System) : SameClients y y := ⟨rfl, rfl, rfl, rfl, rfl, rfl⟩

/-- How one event does. -/
inductive Reaction (y : System) : Event → List Output × System → Prop
  | idle {event : Event} {y' : System} : SameClients y y' → Reaction y event ([], y')
  | turn {event : Event} {y' : System} {w : World} {r : Runnable} {handler : Handler Unit}
      {unprivileged : Bool} : SameClients y y' → r.isResetClientState = false →
      r.refused w y'.service = false → r.interrupts w y'.service = false →
      Turn w r y'.service (handler y'.service) →
      Reaction y event (y'.perform unprivileged false handler)
  | looped {w : World} {posted : Posted} {queue : List Posted} : y.queue = posted :: queue →
      Reaction y (.looper w) ({ y with queue }.perform posted.unprivileged
        (unowned y.service posted.runnable) (runRunnable w posted.runnable))
  | due {client : Nat} : y.timer = some client →
      Reaction y .resetDue
        ([], { y with timer := none, queue := y.queue ++ [⟨.resetClientState client, false⟩] })
  | died (client : Nat) :
      Reaction y (.clientDied client) (y.perform false false (clientDied client))

theorem Reaction.calm {y y' : System} {event : Event} {handler : Handler Unit} {unprivileged : Bool}
    (hsame : SameClients y y')
    (hturn : Turn w .resetFailedAttempts y'.service (handler y'.service)) :
    Reaction y event (y'.perform unprivileged false handler) := by
  obtain ⟨hrefuse, hinterrupts⟩ := accepted_none_calm
    (r := .resetFailedAttempts) rfl rfl (by simp)
  exact .turn hsame rfl hrefuse hinterrupts hturn

theorem react_reaction (y : System) (event : Event) : Reaction y event (y.react event) := by
  cases event with
  | binder w caller call => exact .calm (.refl y) (binderCall_turn caller call)
  | message message | userSwitching userId | eventReport acquiredInfo =>
    exact .calm (w := plainWorld) (.refl y) (.post rfl)
  | looper w =>
    cases hqueue : y.queue with
    | nil =>
      simp only [System.react, hqueue]
      exact .idle (.refl y)
    | cons posted queue =>
      simp only [System.react, hqueue]
      exact .looped hqueue
  | resetDue =>
    cases htimer : y.timer with
    | none =>
      simp only [System.react, htimer]
      exact .idle (.refl y)
    | some client =>
      simp only [System.react, htimer]
      exact .due htimer
  | alarmFires =>
    simp only [System.react]
    split
    · exact .idle ⟨rfl, rfl, rfl, rfl, rfl, rfl⟩
    · exact .idle (.refl y)
  | lockoutBroadcast =>
    simp only [System.react]
    cases y.broadcasts with
    | zero => exact .idle (.refl y)
    | succ broadcasts =>
      have hsame : SameClients y { y with broadcasts } := ⟨rfl, rfl, rfl, rfl, rfl, rfl⟩
      exact .calm (w := plainWorld) hsame (runRunnable_turn .resetFailedAttempts)
  | permittedBroadcast =>
    exact .calm (w := plainWorld) (.refl y) (runRunnable_turn .resetFailedAttempts)
  | daemonDied w =>
    obtain ⟨hrefuse, hinterrupts⟩ := accepted_none_calm
      (r := .message (.error errorHwUnavailable)) rfl rfl (by simp)
    exact .turn (.refl y) rfl hrefuse hinterrupts
      (handleError_turn_of_ne (by decide) rfl rfl rfl)
  | clientDied client => exact .died client

end WikoPlatform.Fingerprint
