import Mathlib.Data.List.Induction
import Mathlib.Logic.Function.Basic
import WikoPlatform.Fingerprint.Turn

/-! The active group of the HAL and the group that a request asks for. A client that waits starts
under whatever group is active by then, and a switch that the HAL refuses is remembered like one
that it accepts. -/

namespace WikoPlatform.Fingerprint

open Runs Act

/-- The group that the HAL accepted last, none after it is opened. -/
def accept (accepted : Option Int) : Output → Option Int
  | .daemon none (.setActiveGroup group) _ answer =>
    if answer = some 0 then some group else accepted
  | .daemon none .openHal _ _ => none
  | _ => accepted

def acceptedGroup (trace : List Output) : Option Int := trace.foldl accept none

/-- The group that the request asks for. -/
def Runnable.group (w : World) : Runnable → Option Int
  | .startEnrollment _ _ userId _ _ opPackageName =>
    some (w.getUserOrWorkProfileId (some opPackageName) userId)
  | .authenticate _ _ groupId _ _ opPackageName _ _ =>
    some (w.getUserOrWorkProfileId (some opPackageName) groupId)
  | _ => none

def System.group (y : System) : Event → Option Int
  | .looper w => y.queue.head?.bind (·.runnable.group w)
  | _ => none

structure Grouped where
  system : System
  requested : Nat → Option Int

def Grouped.requests (x : Grouped) (event : Event) : Nat → Option Int :=
  match x.system.group event with
  | some group => Function.update x.requested x.system.service.nextClient (some group)
  | none => x.requested

def Output.caller : Output → Option Nat
  | .daemon client _ _ _ => client
  | _ => none

/-- Every daemon call comes with the group of its request. -/
def Grouped.step (x : Grouped) (event : Event) : List (Output × Option Int) × Grouped :=
  ((x.system.step event).1.map fun o => (o, o.caller.bind (x.requests event)),
    ⟨(x.system.step event).2, x.requests event⟩)

/-- A daemon call is made in the group of its request. -/
def MatchedStart (before : List (Output × Option Int)) : Output × Option Int → Prop
  | (.daemon (some _) call _ _, requested) =>
    call.isOperation = true → acceptedGroup (before.map Prod.fst) = requested
  | _ => True

/-! ### When the groups match -/

def Grouping.honest (grouping : Grouping) : Prop :=
  grouping.setActiveGroup = some 0 ∨ grouping.setActiveGroup = none

def Opening.honest : Opening → Prop
  | .opened _ _ grouping => grouping.honest
  | .absent | .failed => True

/-- No switch of the group is refused. -/
def World.honest (w : World) : Prop :=
  w.grouping.honest ∧ w.opening.honest ∧ w.reopening.honest

def FindsGroup (w : World) (s : Service) (requested : Nat → Option Int) (c : ClientMonitor) :
    Prop :=
  c.kind.isRemoval = false →
    (s.daemon || w.reopening.reaches) = false ∨
      s.daemon = true ∧ s.currentUserId ≠ userCurrent ∧ requested c.id = some s.currentUserId

/-- A client that is started finds its group, or gets it. -/
def Runnable.keepsGroup (w : World) (s : Service) (requested : Nat → Option Int) (r : Runnable) :
    Prop :=
  if r.resumes then
    ∀ c ∈ s.pendingClient, FindsGroup w s requested c
  else
    s.currentClient = none → ∀ group ∈ r.group w,
      (s.daemon || w.opening.reaches || w.reopening.reaches) = false ∨
        (s.daemon || w.opening.reaches) = true ∧ group ≠ userCurrent ∧
          (s.daemon = true ∧ group = s.currentUserId ∨
            w.grouping.directory = true ∧ w.grouping.setActiveGroup = some 0)

def KeepsGroup (x : Grouped) : Event → Prop
  | .looper w => w.honest ∧ ∀ posted ∈ x.system.queue.head?,
      posted.runnable.keepsGroup w x.system.service x.requested
  | .binder w _ _ | .daemonDied w => w.honest
  | _ => True

instance (grouping : Grouping) : Decidable grouping.honest :=
  inferInstanceAs (Decidable (_ ∨ _))

instance : (opening : Opening) → Decidable opening.honest
  | .opened _ _ grouping => inferInstanceAs (Decidable grouping.honest)
  | .absent | .failed => .isTrue trivial

instance (w : World) : Decidable w.honest := inferInstanceAs (Decidable (_ ∧ _ ∧ _))

instance (w : World) (s : Service) (requested : Nat → Option Int) (c : ClientMonitor) :
    Decidable (FindsGroup w s requested c) :=
  inferInstanceAs (Decidable (_ → _))

instance (w : World) (s : Service) (requested : Nat → Option Int) (r : Runnable) :
    Decidable (r.keepsGroup w s requested) := by
  unfold Runnable.keepsGroup
  infer_instance

instance (x : Grouped) (event : Event) : Decidable (KeepsGroup x event) := by
  unfold KeepsGroup
  split <;> infer_instance

instance (before : List (Output × Option Int)) (o : Output × Option Int) :
    Decidable (MatchedStart before o) := by
  unfold MatchedStart
  split <;> infer_instance

/-! ### What the service knows of the group -/

/-- The service forgets the user with the daemon, and otherwise knows the accepted group. -/
structure Known (accepted : Option Int) (s : Service) : Prop where
  disconnected : s.daemon = false → s.currentUserId = userCurrent
  connected : s.daemon = true → s.currentUserId ≠ userCurrent → accepted = some s.currentUserId

def Matches (requested : Nat → Option Int) (accepted : Option Int) : Output → Prop
  | .daemon (some client) call _ _ => call.isOperation = true → accepted = requested client
  | _ => True

/-- The invariant of a step that began when the HAL had accepted `accepted`. -/
structure Tracks (requested : Nat → Option Int) (accepted : Option Int) (trace : List Output)
    (s : Service) : Prop where
  known : Known (trace.foldl accept accepted) s
  matched : Justified (fun before => Matches requested (before.foldl accept accepted)) trace

def Output.isGroupCall : Output → Bool
  | .daemon _ (.setActiveGroup _) _ _ | .daemon _ .openHal _ _ => true
  | .daemon _ call _ _ => call.isOperation
  | _ => false

section

variable {requested : Nat → Option Int} {accepted : Option Int} {trace out : List Output}
  {s s' : Service} {w : World} {c : ClientMonitor} {α : Type} {o : Output}
  {userId groupId opId : Int} {r : Runnable} {opPackageName : String} {token receiver : Option Nat}
  {restricted : Bool} {uid pid : Nat}

theorem accept_of_not_isGroupCall (h : o.isGroupCall = false) : accept accepted o = accepted := by
  cases o with
  | daemon client call =>
    cases client <;> cases call <;> first | rfl | cases h
  | _ => rfl

theorem matches_of_not_isGroupCall (h : o.isGroupCall = false) : Matches requested accepted o := by
  cases o with
  | daemon client call =>
    cases client with
    | none => trivial
    | some client => cases call <;> simp_all [Output.isGroupCall, Matches, DaemonCall.isOperation]
  | _ => trivial

theorem foldl_accept_of_not_isGroupCall (h : ∀ o ∈ out, o.isGroupCall = false) :
    out.foldl accept accepted = accepted := by
  induction out generalizing accepted with
  | nil => rfl
  | cons o out ih =>
    rw [List.forall_mem_cons] at h
    rw [List.foldl_cons, accept_of_not_isGroupCall h.1, ih h.2]

theorem Known.congr (h : Known accepted s) (hdaemon : s'.daemon = s.daemon)
    (huser : s'.currentUserId = s.currentUserId) : Known accepted s' :=
  ⟨by rw [hdaemon, huser]; exact h.disconnected, by rw [hdaemon, huser]; exact h.connected⟩

theorem Tracks.append (h : Tracks requested accepted trace s)
    (hout : ∀ o ∈ out, o.isGroupCall = false) (hdaemon : s'.daemon = s.daemon)
    (huser : s'.currentUserId = s.currentUserId) : Tracks requested accepted (trace ++ out) s' where
  known := by
    rw [List.foldl_append, foldl_accept_of_not_isGroupCall hout]
    exact h.known.congr hdaemon huser
  matched := h.matched.append fun o ho _ => matches_of_not_isGroupCall (hout o ho)

theorem Tracks.congr (h : Tracks requested accepted trace s) (hdaemon : s'.daemon = s.daemon)
    (huser : s'.currentUserId = s.currentUserId) : Tracks requested accepted trace s' :=
  ⟨h.known.congr hdaemon huser, h.matched⟩

theorem keeps_emit (h : o.isGroupCall = false) : Keeps (Tracks requested accepted) (emit o) :=
  .emit fun _ _ hs => hs.append (by simpa using h) rfl rfl

theorem keeps_of_mild {x : Handler α} (h : Mild Output.isMild x) :
    Keeps (Tracks requested accepted) x := by
  intro trace s hs
  obtain ⟨hcalm, hout⟩ := h s
  refine hs.append (fun o ho => ?_) hcalm.daemon hcalm.currentUserId
  have hmild := hout o ho
  cases o <;> first | rfl | cases hmild

theorem removeClient_keeps : Keeps (Tracks requested accepted) removeClient :=
  .modify fun _ _ hs => hs.congr rfl rfl

theorem onError_keeps {error : Int} : Keeps (Tracks requested accepted) (c.onError w error) :=
  keeps_of_mild (.bind send_mild fun _ => .pure _)

theorem setActiveGroup_tracks {grouping : Grouping} (hhonest : grouping.honest)
    {clientPackage : Option String} (h : Tracks requested accepted trace s)
    (hdaemon : s.daemon = true) : Tracks requested accepted
      (trace ++ (setActiveGroup w grouping userId clientPackage s).trace)
      (setActiveGroup w grouping userId clientPackage s).state := by
  simp only [setActiveGroup, get_bind]
  split
  · have hmatch : ∀ o : Output, o.caller = none → Matches requested
        (trace.foldl accept accepted) o := by
      intro o ho
      cases o <;> first | trivial | skip
      cases ho
      trivial
    simp only [emit_bind]
    rcases hhonest with hanswer | hanswer
    · simp only [hanswer, Option.isSome_some, if_true, modify_apply]
      refine ⟨⟨fun hnone => ?_, fun _ _ => ?_⟩, h.matched.snoc (hmatch _ rfl)⟩
      · rw [hdaemon] at hnone
        cases hnone
      · simp [accept]
    · simp only [hanswer, Option.isSome_none, Bool.false_eq_true, if_false, pure_apply]
      refine ⟨⟨fun hnone => ?_, fun _ huser => ?_⟩, h.matched.snoc (hmatch _ rfl)⟩
      · rw [hdaemon] at hnone
        cases hnone
      · simpa [accept] using h.known.connected hdaemon huser
  · simpa using h

theorem getFingerprintDaemon_keeps {opening : Opening} (hhonest : opening.honest) :
    Keeps (Tracks requested accepted) (getFingerprintDaemon w opening) := by
  intro trace s h
  simp only [getFingerprintDaemon, get_bind]
  cases hdaemon : s.daemon with
  | true => simpa using h
  | false =>
    simp only [Bool.false_eq_true, if_false]
    cases opening with
    | absent | failed => simpa using h
    | opened deviceId currentUser grouping =>
      have huser := h.known.disconnected hdaemon
      -- the new daemon has no group yet, and the service knows no user
      have hopen : ∀ s₁ : Service, s₁.currentUserId = s.currentUserId →
          Tracks requested accepted
            (trace ++ [Output.daemon none .openHal s.failedAttempts (some deviceId)]) s₁ :=
        fun s₁ hs₁ => ⟨⟨fun _ => hs₁.trans huser, fun _ hne => absurd (hs₁.trans huser) hne⟩,
          h.matched.snoc trivial⟩
      simp only [emit_bind, modify_bind]
      rw [List.append_cons]
      by_cases hdev : deviceId = 0
      · simp only [ne_eq, hdev, not_true_eq_false, if_false, pure_apply, List.append_nil]
        exact hdev ▸ hopen _ rfl
      · simp only [ne_eq, hdev, not_false_eq_true, if_true, modify_bind]
        rw [bind_some (setActiveGroup_own w grouping currentUser none _).2]
        simp only [pure_apply, List.append_nil]
        exact setActiveGroup_tracks hhonest (hopen _ rfl) rfl

theorem updateActiveGroup_keeps (hhonest : w.honest) (userId : Int)
    (clientPackage : Option String) :
    Keeps (Tracks requested accepted) (updateActiveGroup w userId clientPackage) := by
  intro trace s h
  obtain ⟨hres, hdaemon⟩ := getFingerprintDaemon_reaches w.opening
  have hreach : Tracks requested accepted (trace ++ (getFingerprintDaemon w w.opening s).trace)
      (getFingerprintDaemon w w.opening s).state := getFingerprintDaemon_keeps hhonest.2.1 trace s h
  unfold updateActiveGroup
  rw [bind_some hres]
  cases hreaches : s.daemon || w.opening.reaches with
  | false => simpa using hreach
  | true =>
    rw [← List.append_assoc]
    exact setActiveGroup_tracks hhonest.1 hreach (hdaemon.trans hreaches)

theorem callDaemon_keeps {client : Option Nat} {call : DaemonCall} (h : ∀ failedAttempts answer,
      (Output.daemon client call failedAttempts answer).isGroupCall = false) :
    Keeps (Tracks requested accepted) (callDaemon w client call) :=
  .get_bind fun _ => .bind (keeps_emit (h _ _)) fun _ => .pure _

theorem stop_keeps (hhonest : w.honest) (initiatedByClient : Bool) :
    Keeps (Tracks requested accepted) (c.stop w initiatedByClient) := by
  have hdaemon : Keeps (Tracks requested accepted) (getFingerprintDaemon w w.reopening) :=
    getFingerprintDaemon_keeps hhonest.2.2
  refine .bind (keeps_emit rfl) fun _ => ?_
  cases c.kind with
  | authentication =>
    exact .bind hdaemon fun _ => .ite
      (.bind (callDaemon_keeps fun _ _ => rfl) fun _ => .pure _) (.pure _)
  | enroll =>
    exact .bind hdaemon fun _ => .ite
      (.bind (callDaemon_keeps fun _ _ => rfl) fun _ => .ite onError_keeps (.pure _))
      (.pure _)
  | removal => exact .ite onError_keeps (.pure _)

theorem start_tracks (hhonest : w.honest) (h : Tracks requested accepted trace s)
    (hgroup : FindsGroup w s requested c) :
    Tracks requested accepted (trace ++ (c.start w s).trace) (c.start w s).state := by
  have hreach : Keeps (Tracks requested accepted) (getFingerprintDaemon w w.reopening) :=
    getFingerprintDaemon_keeps hhonest.2.2
  have hstarted : Tracks requested accepted (trace ++ [Output.started c.id]) s :=
    h.append (by simp [Output.isGroupCall]) rfl rfl
  have herror : ∀ answer : Option Int, Keeps (Tracks requested accepted)
      (if answer ≠ some 0 ∧ answer ≠ none then c.onError w errorHwUnavailable else pure ()) :=
    fun answer => .ite onError_keeps (.pure _)
  simp only [ClientMonitor.start, emit_bind]
  rw [List.append_cons]
  cases hkind : c.kind.isRemoval with
  | true =>
    have hcall : ∀ failedAttempts answer,
        (Output.daemon (some c.id) c.startDaemonCall failedAttempts answer).isGroupCall =
          false := by
      intro failedAttempts answer
      unfold ClientMonitor.startDaemonCall
      cases hc : c.kind with
      | removal => rfl
      | authentication | enroll =>
        rw [hc] at hkind
        cases hkind
    have hstart : Keeps (Tracks requested accepted) (do
        if ← getFingerprintDaemon w w.reopening then c.startCall w c.startDaemonCall
        else if true = true then throw : Handler Unit) :=
      .bind hreach fun _ => .ite
        (.bind (callDaemon_keeps hcall) herror) (.ite .throw (.pure _))
    exact hstart _ _ hstarted
  | false =>
    rw [bind_some (getFingerprintDaemon_reaches _).1]
    rcases hgroup hkind with hunreach | ⟨hdaemon, huser, hreq⟩
    · rw [hunreach]
      simpa using hreach _ _ hstarted
    · -- the daemon is there, so that nothing is reopened
      have hthere : getFingerprintDaemon w w.reopening s = ⟨[], s, some true⟩ := by
        simp only [getFingerprintDaemon, get_bind, hdaemon, if_true, pure_apply]
      simp only [hthere, hdaemon, Bool.true_or, if_true, List.nil_append,
        ClientMonitor.startCall, callDaemon_bind]
      rw [List.append_cons]
      refine herror _ _ _ ⟨?_, hstarted.matched.snoc fun _ => ?_⟩
      · rw [List.foldl_append]
        exact hstarted.known
      · rw [hreq]
        exact hstarted.known.connected hdaemon huser

theorem startClient_tracks (hhonest : w.honest) (initiatedByClient : Bool)
    (h : Tracks requested accepted trace s)
    (hgroup : s.currentClient = none → FindsGroup w s requested c) :
    Tracks requested accepted (trace ++ (startClient w (some c) initiatedByClient s).trace)
      (startClient w (some c) initiatedByClient s).state := by
  cases hcur : s.currentClient with
  | none =>
    rw [startClient_none hcur]
    exact start_tracks hhonest (h.congr rfl rfl) (hgroup hcur)
  | some current =>
    rw [startClient_some hcur, ← List.append_assoc]
    have hstop := stop_keeps (c := current) hhonest initiatedByClient trace s h
    exact hstop.append (by simp [Output.isGroupCall]) rfl rfl

/-! ### Every runnable keeps track of the group -/

theorem startPendingClient_tracks (hhonest : w.honest) (h : Tracks requested accepted trace s)
    (hcur : s.currentClient = none) (hgroup : ∀ c ∈ s.pendingClient, FindsGroup w s requested c) :
    Tracks requested accepted (trace ++ (startPendingClient w s).trace)
      (startPendingClient w s).state := by
  cases hpend : s.pendingClient with
  | none => simpa [startPendingClient_nobody hpend] using h
  | some c =>
    have hstart := start_tracks (s := { s with currentClient := some c }) hhonest (h.congr rfl rfl)
      (hgroup c hpend)
    rw [startPendingClient_some hcur hpend rfl]
    refine hstart.congr ?_ ?_ <;> split <;> rfl

theorem handleError_tracks (hhonest : w.honest) (error : Int)
    (h : Tracks requested accepted trace s)
    (hgroup : error = errorCanceled → ∀ c ∈ s.pendingClient, FindsGroup w s requested c) :
    Tracks requested accepted (trace ++ (handleError w error s).trace)
      (handleError w error s).state := by
  obtain ⟨told, htold, heq⟩ := handleError_eq w error s
  have hquiet : ∀ o ∈ told, o.isGroupCall = false := by
    unfold ToldError at htold
    split at htold
    · rw [htold]
      exact List.forall_mem_nil _
    · exact htold.forall fun _ _ _ => rfl
  have hgone : Tracks requested accepted (trace ++ told) { s with currentClient := none } :=
    h.append hquiet rfl rfl
  rw [heq _ rfl, ← List.append_assoc]
  by_cases hcancel : error = errorCanceled
  · simp only [if_pos hcancel, emit_bind]
    rw [List.append_cons]
    have hdisarm : Tracks requested accepted (trace ++ told ++ [Output.disarmReset])
        { s with currentClient := none } := hgone.append (by simp [Output.isGroupCall]) rfl rfl
    exact startPendingClient_tracks hhonest hdisarm rfl (hgroup hcancel)
  · simpa [if_neg hcancel] using hgone

theorem updateActiveGroup_user (userId : Int) (clientPackage : Option String)
    (hreach : (s.daemon || w.opening.reaches) = true)
    (hswitch : s.daemon = true ∧ w.getUserOrWorkProfileId clientPackage userId = s.currentUserId ∨
      w.grouping.directory = true ∧ w.grouping.setActiveGroup = some 0) :
    (updateActiveGroup w userId clientPackage s).state.currentUserId =
      w.getUserOrWorkProfileId clientPackage userId := by
  unfold updateActiveGroup
  rw [bind_some (getFingerprintDaemon_reaches _).1, hreach]
  simp only [if_true, setActiveGroup, get_bind]
  rcases hswitch with ⟨hdaemon, hsame⟩ | ⟨hdirectory, hanswer⟩
  · have hthere : getFingerprintDaemon w w.opening s = ⟨[], s, some true⟩ := by
      simp only [getFingerprintDaemon, get_bind, hdaemon, if_true, pure_apply]
    simp [hthere, hsame]
  · split
    · simp [hanswer]
    · next hno => simpa [hdirectory, eq_comm] using hno

theorem updateActiveGroup_findsGroup (hresume : r.resumes = false)
    (hr : r.group w = some (w.getUserOrWorkProfileId (some opPackageName) userId))
    (hreq : requested s.nextClient = r.group w) (hkept : r.keepsGroup w s requested)
    (hcur : s.currentClient = none) (hid : c.id = s.nextClient) :
    FindsGroup w (updateActiveGroup w userId (some opPackageName) s).state requested c := by
  intro _
  have hdaemon := (updateActiveGroup_readies (w := w) (s := s) userId (some opPackageName)).1.daemon
  rw [Runnable.keepsGroup, if_neg (by simp [hresume])] at hkept
  rcases hkept hcur _ hr with hunreach | ⟨hreach, huser, hswitch⟩
  · left
    rw [hdaemon]
    exact hunreach
  · right
    rw [updateActiveGroup_user userId (some opPackageName) hreach hswitch, hid, hreq, hr]
    exact ⟨hdaemon.trans hreach, huser, rfl⟩

theorem newClient_tracks (hhonest : w.honest) {kind : ClientKind} {targetUserId : Int}
    {owner : String} (h : Tracks requested accepted trace s)
    (hgroup : s.currentClient = none → ∀ c : ClientMonitor, c.kind = kind → c.id = s.nextClient →
      FindsGroup w s requested c) :
    let creation : Handler Unit := ClientMonitor.new kind token receiver targetUserId groupId
      restricted owner >>= fun c => startClient w (some c) true
    Tracks requested accepted (trace ++ (creation s).trace) (creation s).state := by
  cases token with
  | none => exact h.append (List.forall_mem_nil _) rfl rfl
  | some token =>
    obtain ⟨c, hc, heq⟩ := new_bind kind token receiver targetUserId groupId restricted owner s
    have hcreate : Tracks requested accepted (trace ++ [Output.created c.id c.token])
        { s with nextClient := s.nextClient + 1 } := h.append (by simp [Output.isGroupCall]) rfl rfl
    have hstart := startClient_tracks hhonest true hcreate fun hcur =>
      hgroup hcur c hc.kind hc.id
    dsimp only
    rwa [heq _ _ rfl, List.append_cons]

theorem startEnrollment_tracks (hhonest : w.honest) {cryptoToken : Option (List UInt8)}
    (hr : r = .startEnrollment token cryptoToken userId receiver restricted opPackageName)
    (hreq : requested s.nextClient = r.group w) (hkept : r.keepsGroup w s requested)
    (h : Tracks requested accepted trace s) : Tracks requested accepted (trace ++
        (startEnrollment w token cryptoToken userId receiver restricted opPackageName s).trace)
      (startEnrollment w token cryptoToken userId receiver restricted opPackageName s).state := by
  subst hr
  cases cryptoToken with
  | none => simpa [startEnrollment] using h
  | some cryptoToken =>
    obtain ⟨hready, -, hres⟩ :=
      updateActiveGroup_readies userId (some opPackageName)
    have hswitched := updateActiveGroup_keeps hhonest userId (some opPackageName) trace s h
    simp only [startEnrollment]
    rw [bind_some hres, ← List.append_assoc]
    refine newClient_tracks hhonest hswitched fun hcur c _ hid => ?_
    exact updateActiveGroup_findsGroup rfl rfl hreq hkept
      (hready.currentClient.symm.trans hcur) (hid.trans hready.nextClient)

theorem authenticate_tracks (hhonest : w.honest)
    (hr : r = .authenticate token opId groupId receiver restricted opPackageName uid pid)
    (hreq : requested s.nextClient = r.group w) (hkept : r.keepsGroup w s requested)
    (h : Tracks requested accepted trace s) : Tracks requested accepted (trace ++
        (authenticate w token opId groupId receiver restricted opPackageName uid pid s).trace)
      (authenticate w token opId groupId receiver restricted opPackageName uid pid s).state := by
  subst hr
  unfold authenticate
  rcases canUseFingerprint_cases _ s with ⟨-, result, heq⟩ | ⟨-, heq⟩
  · rw [heq]
    exact h.append (List.forall_mem_nil _) rfl rfl
  · let s₁ : Service := { s with performanceStats := some ⟨opId != 0, s.currentUserId⟩ }
    obtain ⟨hready, -, hres⟩ :=
      updateActiveGroup_readies groupId (some opPackageName)
    have hswitched := updateActiveGroup_keeps hhonest groupId (some opPackageName) trace s₁
      (h.congr rfl rfl)
    rw [heq, modify_bind, startAuthentication, bind_some hres, ← List.append_assoc]
    simp only [get_bind]
    split
    · have hrefuse : Keeps (Tracks requested accepted) (do
          let client ← ClientMonitor.new (.authentication opId) token receiver
            (updateActiveGroup w groupId (some opPackageName) s₁).state.currentUserId groupId
            restricted opPackageName
          client.onError w errorLockout : Handler Unit) := by
        refine .bind (.get_bind fun _ => ?_) fun _ => onError_keeps
        cases token with
        | none => exact .throw
        | some token =>
          exact .bind (.modify fun _ _ hs => hs.congr rfl rfl) fun _ =>
            .bind (keeps_emit rfl) fun _ => .pure _
      exact hrefuse _ _ hswitched
    · refine newClient_tracks hhonest hswitched fun hcur c _ hid => ?_
      exact updateActiveGroup_findsGroup rfl rfl hreq hkept
        (hready.currentClient.symm.trans hcur) (hid.trans hready.nextClient)

theorem startRemove_keeps (hhonest : w.honest) {fingerId : Int} : Keeps (Tracks requested accepted)
      (startRemove w token fingerId groupId userId receiver restricted) := by
  refine .bind (getFingerprintDaemon_keeps hhonest.2.1) fun _ => .ite ?_ (.pure _)
  intro trace s h
  refine newClient_tracks hhonest h fun _ c hkind _ => ?_
  simp [FindsGroup, hkind, ClientKind.isRemoval]

theorem keeps_current {f : ClientMonitor → Handler Unit}
    (h : ∀ client, Keeps (Tracks requested accepted) (f client)) :
    Keeps (Tracks requested accepted) (do
      match (← get).currentClient with
      | some client => f client
      | none => pure () : Handler Unit) := by
  refine .get_bind fun s => ?_
  cases s.currentClient with
  | none => exact .pure _
  | some client => exact h client

theorem handleMessage_keeps (message : DaemonMessage) (h : ∀ code, message ≠ .error code) :
    Keeps (Tracks requested accepted) (handleMessage w message) := by
  have hrecord : ∀ {x : Handler Unit}, Mild Output.isRecord x →
      Keeps (Tracks requested accepted) x :=
    fun hx => keeps_of_mild (hx.mono isMild_of_isRecord)
  have hcount : ∀ counter, Keeps (Tracks requested accepted) (count counter) :=
    fun counter => hrecord (count_mild counter)
  cases message with
  | error code => exact absurd rfl (h code)
  | enrollResult =>
    exact keeps_current fun _ => .bind (keeps_of_mild onEnrollResult_mild) fun _ =>
      .ite removeClient_keeps (.pure _)
  | acquired =>
    refine keeps_current fun c => ?_
    have hend : Keeps (Tracks requested accepted) (do
        let s ← get
        if s.performanceStats.isSome && !s.inLockoutMode && c.kind.isAuthentication then
          count .acquire : Handler Unit) :=
      .get_bind fun _ => .ite (hcount _) (.pure _)
    exact .bind (keeps_of_mild onAcquired_mild) fun _ =>
      .ite (.bind removeClient_keeps fun _ => hend) hend
  | authenticated =>
    exact keeps_current fun _ => .ite (.bind (keeps_of_mild onAuthenticated_mild) fun _ =>
      .ite (.bind removeClient_keeps fun _ => hcount _) (hcount _)) (.pure _)
  | removed =>
    exact keeps_current fun _ => .ite (.bind (keeps_of_mild onRemoved_mild) fun _ =>
      .ite removeClient_keeps (.pure _)) (.pure _)

theorem cancelAuthentication_keeps (hhonest : w.honest) :
    Keeps (Tracks requested accepted) (cancelAuthentication w token opPackageName uid pid) := by
  refine .bind (fun trace s h => ?_) fun _ =>
    .ite (keeps_current fun _ => .ite (stop_keeps hhonest true) (.pure _)) (.pure _)
  obtain ⟨htrace, hstate⟩ := canUseFingerprint_eq opPackageName uid pid
  rwa [htrace, hstate, List.append_nil]

theorem notifyFpService_keeps (hhonest : w.honest) {msgId : Int} :
    Keeps (Tracks requested accepted) (notifyFpService w msgId) := by
  have hstop : Keeps (Tracks requested accepted) (faceStop w) :=
    .bind (getFingerprintDaemon_keeps hhonest.2.1) fun _ =>
      .ite (.bind (callDaemon_keeps fun _ _ => rfl) fun _ => .pure _) (.pure _)
  exact .get_bind fun _ => .ite (.bind hstop fun _ => .ite (keeps_emit rfl) (.pure _)) (.pure _)

theorem group_of_resumes (h : r.resumes = true) : r.group w = none := by
  cases r <;> first | rfl | cases h

theorem Runnable.keepsGroup.congr {requested' : Nat → Option Int} (h : r.keepsGroup w s requested)
    (heq : r.resumes = true → requested' = requested) : r.keepsGroup w s requested' := by
  unfold Runnable.keepsGroup at h ⊢
  split
  · next hresume =>
    rw [if_pos hresume] at h
    rwa [heq hresume]
  · next hresume => rwa [if_neg hresume] at h

theorem runRunnable_tracks (hhonest : w.honest) (r : Runnable)
    (hreq : ∀ group, r.group w = some group → requested s.nextClient = some group)
    (hkept : r.keepsGroup w s requested) (h : Tracks requested accepted trace s) :
    Tracks requested accepted (trace ++ (runRunnable w r s).trace) (runRunnable w r s).state := by
  cases r with
  | message message =>
    by_cases herror : ∃ code, message = .error code
    · obtain ⟨code, rfl⟩ := herror
      refine handleError_tracks hhonest code h fun hcancel => ?_
      rwa [Runnable.keepsGroup, if_pos (by simp [Runnable.resumes, hcancel])] at hkept
    · exact handleMessage_keeps message (fun code heq => herror ⟨code, heq⟩) trace s h
  | startEnrollment => exact startEnrollment_tracks hhonest rfl (hreq _ rfl) hkept h
  | cancelEnrollment =>
    exact keeps_current (fun _ => .ite (stop_keeps hhonest true) (.pure _)) trace s h
  | authenticate => exact authenticate_tracks hhonest rfl (hreq _ rfl) hkept h
  | cancelAuthentication => exact cancelAuthentication_keeps hhonest trace s h
  | updateActiveGroup => exact updateActiveGroup_keeps hhonest _ _ trace s h
  | remove => exact startRemove_keeps hhonest trace s h
  | resetFailedAttempts =>
    exact keeps_of_mild (resetFailedAttempts_mild.mono isMild_of_isRecord) trace s h
  | resetClientState =>
    simp only [runRunnable, resetClientState_eq]
    exact startPendingClient_tracks hhonest (h.congr rfl rfl) rfl hkept
  | notifyFpService => exact notifyFpService_keeps hhonest trace s h
  | handleAcq =>
    exact keeps_current (fun _ => .bind (keeps_of_mild onAcquired_mild) fun _ => .pure _) trace s h

end

def GroupInvariant (trace : List (Output × Option Int)) (x : Grouped) : Prop :=
  Known (acceptedGroup (trace.map Prod.fst)) x.system.service ∧ Justified MatchedStart trace

section

variable {requested : Nat → Option Int} {y : System} {handler : Handler Unit}

theorem perform_tracks {accepted : Option Int} {unprivileged unowned : Bool}
    (h : Tracks requested accepted (handler y.service).trace (handler y.service).state) :
    Tracks requested accepted (y.perform unprivileged unowned handler).1
      (y.perform unprivileged unowned handler).2.service := by
  rw [perform_service]
  exact h.append (forall_mem_droppedClient fun _ _ => rfl) rfl rfl

theorem Tracks.marked {trace : List (Output × Option Int)} {out : List Output} {s : Service}
    (h : Tracks requested (acceptedGroup (trace.map Prod.fst)) out s)
    (hmatch : Justified MatchedStart trace) :
    Justified MatchedStart (trace ++ out.map fun o => (o, o.caller.bind requested)) := by
  obtain ⟨-, hjust⟩ := h
  induction out using List.reverseRecOn with
  | nil => simpa using hmatch
  | append_singleton out o ih =>
    rw [List.map_append, ← List.append_assoc]
    refine (ih fun before o' after heq => ?_).snoc ?_
    · exact hjust before o' (after ++ [o]) (by rw [heq]; simp)
    · have hlast := hjust out o [] rfl
      have haccept : acceptedGroup ((trace ++ out.map fun o => (o, o.caller.bind requested)).map
          Prod.fst) = out.foldl accept (acceptedGroup (trace.map Prod.fst)) := by
        simp [acceptedGroup, Function.comp_def]
      cases o with
      | daemon client call =>
        cases client with
        | none => trivial
        | some client =>
          intro hoperation
          rw [haccept]
          exact hlast hoperation
      | _ => trivial

end

theorem system_step_tracks {accepted : Option Int} (x : Grouped) (event : Event)
    (h : Known accepted x.system.service) (hok : KeepsGroup x event) :
    Tracks (x.requests event) accepted (x.system.step event).1 (x.system.step event).2.service := by
  have hstart : Tracks (x.requests event) accepted [] x.system.service := ⟨h, .nil⟩
  have hkeeps : ∀ (y : System) (unprivileged : Bool) {handler : Handler Unit},
      y.service = x.system.service → Keeps (Tracks (x.requests event) accepted) handler →
      Tracks (x.requests event) accepted (y.perform unprivileged false handler).1
        (y.perform unprivileged false handler).2.service := by
    intro y unprivileged handler hservice hhandler
    refine perform_tracks ?_
    rw [hservice]
    exact hhandler [] x.system.service hstart
  have hreset : Keeps (Tracks (x.requests event) accepted) resetFailedAttempts :=
    keeps_of_mild (resetFailedAttempts_mild.mono isMild_of_isRecord)
  unfold System.step
  split
  · exact hstart
  cases event with
  | binder w caller call =>
    refine perform_tracks ?_
    rcases binderCall_shape w caller call x.system.service with ⟨runnable, -, heq⟩ | heq | heq
    · rw [heq]
      exact keeps_emit rfl [] _ hstart
    · rw [heq]
      exact getFingerprintDaemon_keeps hok.2.1 [] _ hstart
    · rw [heq]
      exact hstart
  | message message | userSwitching userId | eventReport acquiredInfo =>
    exact hkeeps _ _ rfl (keeps_emit rfl)
  | looper w =>
    simp only [System.react]
    cases hqueue : x.system.queue with
    | nil => exact hstart
    | cons posted queue =>
      have hgroup : x.system.group (.looper w) = posted.runnable.group w := by
        simp [System.group, hqueue]
      obtain ⟨hhonest, hkept⟩ := hok
      refine perform_tracks
        (runRunnable_tracks hhonest posted.runnable (fun group hr => ?_) ?_ hstart)
      · simp [Grouped.requests, hgroup, hr]
      · refine (hkept posted (by rw [hqueue]; rfl)).congr fun hresume => ?_
        simp [Grouped.requests, hgroup, group_of_resumes hresume]
  | resetDue =>
    simp only [System.react]
    split <;> exact hstart
  | alarmFires =>
    simp only [System.react]
    split
    · exact hstart.congr rfl rfl
    · exact hstart
  | lockoutBroadcast =>
    simp only [System.react]
    split
    · exact hstart
    · exact hkeeps _ _ rfl hreset
  | permittedBroadcast => exact hkeeps _ _ rfl hreset
  | daemonDied w =>
    have hgone : Tracks (x.requests (.daemonDied w)) accepted []
        { x.system.service with daemon := false, currentUserId := userCurrent } :=
      ⟨⟨fun _ => rfl, by simp⟩, .nil⟩
    exact perform_tracks (handleError_tracks hok errorHwUnavailable hgone (by rintro ⟨⟩))
  | clientDied client =>
    exact hkeeps _ _ rfl (.modify fun _ _ hs => hs.congr rfl rfl)

theorem groupInvariant_step (trace : List (Output × Option Int)) (x : Grouped) (event : Event)
    (h : GroupInvariant trace x) (hok : KeepsGroup x event) :
    GroupInvariant (trace ++ (x.step event).1) (x.step event).2 := by
  obtain ⟨hknown, hmatch⟩ := h
  have htracks := system_step_tracks x event hknown hok
  refine ⟨?_, htracks.marked hmatch⟩
  have haccept : acceptedGroup ((trace ++ (x.step event).1).map Prod.fst) =
      (x.system.step event).1.foldl accept (acceptedGroup (trace.map Prod.fst)) := by
    simp [acceptedGroup, Grouped.step, Function.comp_def]
  rw [haccept]
  exact htracks.known

def Grouped.start (fingerprints : List (Int × Int)) : Grouped :=
  ⟨.start false 0 userCurrent fingerprints, fun _ => none⟩

/-- The daemon works for the group of the request. -/
theorem serviceRun_matchedStart (fingerprints : List (Int × Int)) (events : List Event)
    (h : Meets Grouped.step KeepsGroup (.start fingerprints) events) :
    Justified MatchedStart (run Grouped.step (.start fingerprints) events).1 := by
  have hstart : GroupInvariant [] (.start fingerprints) := ⟨⟨fun _ => rfl, by rintro ⟨⟩⟩, .nil⟩
  have hend := run_invariant groupInvariant_step hstart h
  exact hend.2

def openingWorld : World := { plainWorld with opening := .opened 1 0 ⟨true, some 0⟩ }

def authenticateGroupEvent (app : Nat) (group : Int) : Event :=
  .binder plainWorld ⟨app, app, false, true, false⟩
    (.authenticate (some app) 0 group (some app) "app")

def sameGroupEvents : List Event :=
  [authenticateGroupEvent 1 10, .looper openingWorld, authenticateGroupEvent 2 10,
    .looper plainWorld, .message (.error errorCanceled), .looper plainWorld]

theorem serviceRun_matchedStart_sameGroup :
    Meets Grouped.step KeepsGroup (.start []) sameGroupEvents ∧
      Justified MatchedStart (run Grouped.step (.start []) sameGroupEvents).1 := by
  have h : Meets Grouped.step KeepsGroup (.start []) sameGroupEvents := by decide +kernel
  exact ⟨h, serviceRun_matchedStart [] sameGroupEvents h⟩

def refusedSwitchEvents : List Event :=
  [authenticateGroupEvent 1 10, .looper { openingWorld with grouping := ⟨true, some 1⟩ }]

def switchedBackEvents : List Event :=
  [authenticateGroupEvent 1 0, .looper openingWorld, authenticateGroupEvent 2 10,
    .looper plainWorld, .userSwitching 0, .looper plainWorld, .message (.error errorCanceled),
    .looper plainWorld]

theorem refusedSwitchEvents_not_matchedStart :
    ¬Justified MatchedStart (run Grouped.step (.start []) refusedSwitchEvents).1 ∧
      ¬Justified MatchedStart (run Grouped.step (.start []) switchedBackEvents).1 := by
  have hrefuse : ¬MatchedStart ((run Grouped.step (.start []) refusedSwitchEvents).1.take 6)
      ((run Grouped.step (.start []) refusedSwitchEvents).1.getD 6 (.lockoutReset, none)) := by
    decide +kernel
  have hback : ¬MatchedStart ((run Grouped.step (.start []) switchedBackEvents).1.take 19)
      ((run Grouped.step (.start []) switchedBackEvents).1.getD 19 (.lockoutReset, none)) := by
    decide +kernel
  exact ⟨fun h => hrefuse (h.getD (by decide +kernel) _),
    fun h => hback (h.getD (by decide +kernel) _)⟩

end WikoPlatform.Fingerprint
