import WikoPlatform.Fingerprint.Stranded

/-! The callbacks that end an operation. A message of the daemon that ends an operation also gives
up its client; `start` and `stop` tell the receiver an error and leave its client in place. -/

namespace WikoPlatform.Fingerprint

open Runs Act

/-- No start is refused, and no client is told that it is stopped. -/
def TellsOnce (y : System) : Event → Prop
  | .looper w => ∀ posted ∈ y.queue.head?, posted.runnable.refused w y.service = false ∧
      posted.runnable.interrupts w y.service = false
  | _ => True

instance (y : System) (event : Event) : Decidable (TellsOnce y event) :=
  match event with
  | .looper _ => Option.decidableForallMem _
  | .binder .. | .message _ | .resetDue | .alarmFires | .lockoutBroadcast | .permittedBroadcast
  | .daemonDied _ | .clientDied _ | .userSwitching _ | .eventReport _ => .isTrue trivial

/-- The clients in `told` have heard of their end, once, and the service is done with them. -/
structure Told (told : List Nat) (s : Service) : Prop where
  nodup : told.Nodup
  gone : ∀ k ∈ told, k < s.nextClient ∧ s.currentClient.map ClientMonitor.id ≠ some k ∧
    s.pendingClient.map ClientMonitor.id ≠ some k
  current : ∀ k, s.currentClient.map ClientMonitor.id = some k →
    k < s.nextClient ∧ s.pendingClient.map ClientMonitor.id ≠ some k
  pending : ∀ k, s.pendingClient.map ClientMonitor.id = some k → k < s.nextClient

def TerminalInvariant (trace : List Output) (y : System) : Prop :=
  (terminals trace).Nodup ∧ (y.crashed = false → Told (terminals trace) y.service)

section

variable {told : List Nat} {s s' : Service} {w : World} {r : Runnable}
  {o : Outcome Service Output Unit} {k : Nat} {c : ClientMonitor}

theorem Told.congr (h : Told told s)
    (hcur : s'.currentClient.map ClientMonitor.id = s.currentClient.map ClientMonitor.id)
    (hpend : s'.pendingClient.map ClientMonitor.id = s.pendingClient.map ClientMonitor.id)
    (hnext : s'.nextClient = s.nextClient) : Told told s' := by
  refine ⟨h.nodup, ?_, ?_, ?_⟩
  · rw [hcur, hpend, hnext]
    exact h.gone
  · rw [hcur, hpend, hnext]
    exact h.current
  · rw [hpend, hnext]
    exact h.pending

theorem Told.nodup_concat (h : Told told s)
    (hk : s.currentClient.map ClientMonitor.id = some k ∨ k = s.nextClient) :
    (told ++ [k]).Nodup := by
  have hmem : k ∉ told := by
    intro hmem
    obtain ⟨hlt, hne, -⟩ := h.gone k hmem
    rcases hk with hk | rfl
    exacts [hne hk, Nat.lt_irrefl _ hlt]
  exact List.nodup_append.mpr ⟨h.nodup, by simp, by rintro j hj _ hk' rfl; simp_all⟩

theorem Told.drop (h : Told told s) (hcur : s.currentClient.map ClientMonitor.id = some k)
    (hnone : s'.currentClient = none) (hpend : s'.pendingClient = s.pendingClient)
    (hnext : s'.nextClient = s.nextClient) : Told (told ++ [k]) s' := by
  obtain ⟨hlt, hne⟩ := h.current k hcur
  refine ⟨h.nodup_concat (.inl hcur), ?_, by simp [hnone], ?_⟩
  · intro j hj
    rw [hnone, hpend, hnext]
    rcases List.mem_append.mp hj with hj | hj
    · exact ⟨(h.gone j hj).1, by simp, (h.gone j hj).2.2⟩
    · obtain rfl := List.mem_singleton.mp hj
      exact ⟨hlt, by simp, hne⟩
  · rw [hpend, hnext]
    exact h.pending

theorem Told.forget (h : Told told s) (hnone : s'.currentClient = none)
    (hpend : s'.pendingClient = s.pendingClient) (hnext : s'.nextClient = s.nextClient) :
    Told told s' := by
  refine ⟨h.nodup, ?_, by simp [hnone], ?_⟩
  · intro j hj
    rw [hnone, hpend, hnext]
    exact ⟨(h.gone j hj).1, by simp, (h.gone j hj).2.2⟩
  · rw [hpend, hnext]
    exact h.pending

theorem Told.skip (h : Told told s) (hcur : s'.currentClient = s.currentClient)
    (hpend : s'.pendingClient = s.pendingClient) (hnext : s'.nextClient = s.nextClient + 1) :
    Told told s' := by
  refine ⟨h.nodup, ?_, ?_, ?_⟩
  · rw [hcur, hpend, hnext]
    exact fun k hk => ⟨Nat.lt_succ_of_lt (h.gone k hk).1, (h.gone k hk).2⟩
  · rw [hcur, hpend, hnext]
    exact fun k hk => ⟨Nat.lt_succ_of_lt (h.current k hk).1, (h.current k hk).2⟩
  · rw [hpend, hnext]
    exact fun k hk => Nat.lt_succ_of_lt (h.pending k hk)

theorem Told.refuse (h : Told told s) (hcur : s'.currentClient = s.currentClient)
    (hpend : s'.pendingClient = s.pendingClient) (hnext : s'.nextClient = s.nextClient + 1) :
    Told (told ++ [s.nextClient]) s' := by
  have hskip := h.skip hcur hpend hnext
  refine ⟨h.nodup_concat (.inr rfl), ?_, hskip.current, hskip.pending⟩
  intro j hj
  rcases List.mem_append.mp hj with hj | hj
  · exact hskip.gone j hj
  · obtain rfl := List.mem_singleton.mp hj
    rw [hcur, hpend, hnext]
    refine ⟨Nat.lt_succ_self _, fun hk => ?_, fun hk => ?_⟩
    · exact Nat.lt_irrefl _ (h.current _ hk).1
    · exact Nat.lt_irrefl _ (h.pending _ hk)

theorem Told.begin (h : Told told s) (hid : c.id = s.nextClient)
    (hcur : s'.currentClient = some c) (hpend : s'.pendingClient = s.pendingClient)
    (hnext : s'.nextClient = s.nextClient + 1) : Told told s' := by
  refine ⟨h.nodup, ?_, ?_, ?_⟩
  · intro k hk
    obtain ⟨hlt, -, hne⟩ := h.gone k hk
    rw [hcur, hpend, hnext, Option.map_some, hid]
    exact ⟨Nat.lt_succ_of_lt hlt, by simpa using (Nat.ne_of_lt hlt).symm, hne⟩
  · rw [hcur, hpend, hnext, Option.map_some, hid]
    rintro _ ⟨rfl⟩
    exact ⟨Nat.lt_succ_self _, fun hk => Nat.lt_irrefl _ (h.pending _ hk)⟩
  · rw [hpend, hnext]
    exact fun k hk => Nat.lt_succ_of_lt (h.pending k hk)

theorem Told.park (h : Told told s) (hid : c.id = s.nextClient)
    (hcur : s'.currentClient = s.currentClient) (hpend : s'.pendingClient = some c)
    (hnext : s'.nextClient = s.nextClient + 1) : Told told s' := by
  refine ⟨h.nodup, ?_, ?_, ?_⟩
  · intro k hk
    obtain ⟨hlt, hne, -⟩ := h.gone k hk
    rw [hcur, hpend, hnext, Option.map_some, hid]
    exact ⟨Nat.lt_succ_of_lt hlt, hne, by simpa using (Nat.ne_of_lt hlt).symm⟩
  · intro k hk
    rw [hcur] at hk
    obtain ⟨hlt, -⟩ := h.current k hk
    rw [hpend, hnext, Option.map_some, hid]
    exact ⟨Nat.lt_succ_of_lt hlt, by simpa using (Nat.ne_of_lt hlt).symm⟩
  · rw [hpend, hnext, Option.map_some, hid]
    rintro _ ⟨rfl⟩
    exact Nat.lt_succ_self _

theorem Told.resume (h : Told told s) (hcur : s'.currentClient = s.pendingClient)
    (hpend : s'.pendingClient = none) (hnext : s'.nextClient = s.nextClient) : Told told s' := by
  refine ⟨h.nodup, ?_, ?_, by simp [hpend]⟩
  · rw [hcur, hpend, hnext]
    exact fun k hk => ⟨(h.gone k hk).1, (h.gone k hk).2.2, by simp⟩
  · rw [hcur, hpend, hnext]
    exact fun k hk => ⟨h.pending k hk, by simp⟩

theorem Turn.tells (hturn : Turn w r s o) (hrefuse : r.refused w s = false)
    (hinterrupts : r.interrupts w s = false) (h : Told told s) : (told ++ terminals o.trace).Nodup ∧
      (o.result.isSome = true → Told (told ++ terminals o.trace) o.state) := by
  suffices hall : (told ++ terminals o.trace).Nodup ∧
      (o.result.isSome = true → Told (told ++ terminals o.trace) o.state) ∨
      Told (told ++ terminals o.trace) o.state by
    exact hall.elim id fun hall => ⟨hall.nodup, fun _ => hall⟩
  cases hturn with
  | keep hcur hpend hnext _ hterms =>
    rw [hinterrupts] at hterms
    rw [hterms.resolve_right (by simp), List.append_nil]
    exact .inr (h.congr (by rw [hcur]) (by rw [hpend]) hnext)
  | drop c hc hcur hpend hnext _ hterms =>
    have hid : s.currentClient.map ClientMonitor.id = some c.id := by rw [hc]; rfl
    rcases hterms with hterms | hterms
    · rw [hterms, List.append_nil]
      exact .inr (h.forget hcur hpend hnext)
    · rw [hterms]
      exact .inr (h.drop hid hcur hpend hnext)
  | refuse hcur hpend hnext _ hterms =>
    rcases hterms with hterms | hterms
    · rw [hterms, List.append_nil]
      exact .inr (h.skip hcur hpend hnext)
    · rw [hterms]
      exact .inr (h.refuse hcur hpend hnext)
  | begin c _ hid hcur hpend hnext _ hterms =>
    rw [hrefuse] at hterms
    rw [hterms.resolve_right (by simp), List.append_nil]
    exact .inr (h.begin hid hcur hpend hnext)
  | park c current hc hid hcur hpend hnext _ hterms =>
    rw [hinterrupts] at hterms
    rw [hterms.resolve_right (by simp), List.append_nil]
    exact .inr (h.park hid (hcur.trans hc.symm) hpend hnext)
  | resume heard _ hcur hpend hnext _ hheard hnodup hterms =>
    rw [hrefuse] at hterms
    rw [hterms.resolve_right (by simp)]
    -- the current client is given up first, whether it was told or not
    have hgone : Told (told ++ heard) { s with currentClient := none } := by
      match heard with
      | [] =>
        rw [List.append_nil]
        exact h.forget rfl rfl rfl
      | [k] => exact h.drop (hheard k (by simp)) rfl rfl rfl
      | j :: k :: _ =>
        have hj := hheard j (by simp)
        rw [hheard k (by simp)] at hj
        simp [Option.some.inj hj] at hnodup
    exact .inl ⟨hgone.nodup, fun hreturns => hgone.resume hcur (hpend hreturns) hnext⟩

end

section

variable {y y' : System} {w : World} {r : Runnable} {handler : Handler Unit} {trace : List Output}

theorem perform_terminals (y : System) (unprivileged unowned : Bool) (handler : Handler Unit) :
    terminals (y.perform unprivileged unowned handler).1 = terminals (handler y.service).trace := by
  have hdrop : ∀ s', terminals (droppedClient y.service s' unowned) = [] := by
    intro s'
    unfold droppedClient
    split
    · split <;> rfl
    · rfl
  rw [System.perform, terminals_append, hdrop, List.append_nil]

theorem perform_terminalInvariant {unprivileged unowned : Bool}
    (hturn : Turn w r y.service (handler y.service)) (hrefuse : r.refused w y.service = false)
    (hinterrupts : r.interrupts w y.service = false) (h : Told (terminals trace) y.service) :
    TerminalInvariant (trace ++ (y.perform unprivileged unowned handler).1)
      (y.perform unprivileged unowned handler).2 := by
  obtain ⟨hnodup, htold⟩ := hturn.tells hrefuse hinterrupts h
  refine ⟨?_, fun hcrash => ?_⟩
  · rw [terminals_append, perform_terminals]
    exact hnodup
  · rw [perform_crashed, Option.isNone_eq_false_iff] at hcrash
    rw [terminals_append, perform_terminals, perform_service]
    exact htold hcrash

theorem Told.same {told : List Nat} (h : Told told y.service) (hsame : SameClients y y') :
    Told told y'.service :=
  h.congr (by rw [hsame.currentClient]) (by rw [hsame.pendingClient]) hsame.nextClient

theorem TerminalInvariant.idle (h : TerminalInvariant trace y) (hsame : SameClients y y') :
    TerminalInvariant (trace ++ []) y' := by
  rw [List.append_nil]
  exact ⟨h.1, fun hrun => (h.2 (hsame.crashed ▸ hrun)).same hsame⟩

end

theorem terminalInvariant_step (trace : List Output) (y : System) (event : Event)
    (h : TerminalInvariant trace y) (hok : TellsOnce y event) :
    TerminalInvariant (trace ++ (y.step event).1) (y.step event).2 := by
  cases hcrash : y.crashed with
  | true =>
    simp only [System.step, hcrash, if_true]
    exact h.idle (.refl y)
  | false =>
    have htold := h.2 hcrash
    have hreact := react_reaction y event
    simp only [System.step, hcrash, Bool.false_eq_true, if_false]
    generalize y.react event = next at hreact ⊢
    cases hreact with
    | idle hsame => exact h.idle hsame
    | turn hsame _ hrefuse hinterrupts hturn =>
      exact perform_terminalInvariant hturn hrefuse hinterrupts (htold.same hsame)
    | @looped w posted queue hqueue =>
      obtain ⟨hrefuse, hinterrupts⟩ := hok posted (by rw [hqueue]; rfl)
      exact perform_terminalInvariant (runRunnable_turn _) hrefuse
        hinterrupts htold
    | due =>
      rw [List.append_nil]
      exact ⟨h.1, fun _ => htold⟩
    | died client =>
      have hid : ClientMonitor.id ∘ (·.binderDied client) = ClientMonitor.id := by
        funext c
        exact binderDied_id client c
      have hdied : Told (terminals trace) (clientDied client y.service).state := by
        refine htold.congr ?_ ?_ rfl
        all_goals exact (Option.map_map ..).trans (by rw [hid])
      have hterms : terminals (trace ++ (y.perform false false (clientDied client)).1) =
          terminals trace := by
        rw [terminals_append, perform_terminals]
        exact List.append_nil _
      refine ⟨hterms ▸ h.1, fun _ => ?_⟩
      rw [hterms]
      exact hdied

/-- No client is told its end twice. -/
theorem serviceRun_terminals_nodup (daemon : Bool) (halDeviceId currentUserId : Int)
    (fingerprints : List (Int × Int)) (events : List Event)
    (h : Meets System.step TellsOnce (.start daemon halDeviceId currentUserId fingerprints)
      events) : (terminals (run System.step (.start daemon halDeviceId currentUserId fingerprints)
      events).1).Nodup := by
  have hstart : TerminalInvariant [] (.start daemon halDeviceId currentUserId fingerprints) :=
    ⟨List.nodup_nil, fun _ => ⟨List.nodup_nil, by simp, by simp [System.start],
      by simp [System.start]⟩⟩
  have hend := run_invariant terminalInvariant_step hstart h
  exact hend.1

theorem serviceRun_terminals_nodup_successes :
    let events := [authenticateEvent 1, .looper plainWorld, .message (.authenticated 0 3 0),
      .looper plainWorld, authenticateEvent 2, .looper plainWorld,
      .message (.authenticated 1 3 0), .looper plainWorld]
    let trace := (run System.step (.start true 1 0 []) events).1
    Meets System.step TellsOnce (.start true 1 0 []) events ∧ terminals trace = [0, 1] ∧
      (terminals trace).Nodup := by
  intro events trace
  have h : Meets System.step TellsOnce (.start true 1 0 []) events := by decide +kernel
  exact ⟨h, by decide +kernel, serviceRun_terminals_nodup true 1 0 [] events h⟩

def refusingWorld : World := { plainWorld with answer := fun _ => some 1 }

def refusedStartEvents : List Event :=
  [authenticateEvent 1, .looper refusingWorld, .daemonDied plainWorld]

def canceledEnrollmentEvents : List Event :=
  [.binder plainWorld ⟨1, 1, true, false, false⟩ (.enroll (some 1) (some []) 0 (some 1) "app"),
    .looper plainWorld,
    .binder plainWorld ⟨1, 1, true, false, false⟩ (.cancelEnrollment (some 1)),
    .looper plainWorld, .message (.error errorCanceled), .looper plainWorld]

def interruptedRemovalEvents : List Event :=
  [.binder plainWorld ⟨1, 1, true, false, false⟩ (.remove (some 1) 3 0 0 (some 1)),
    .looper plainWorld, authenticateEvent 2, .looper plainWorld, .message (.removed 0 0),
    .looper plainWorld]

theorem refusedStartEvents_told_twice :
    terminals (run System.step (.start true 1 0 []) refusedStartEvents).1 = [0, 0] ∧
      terminals (run System.step (.start true 1 0 []) canceledEnrollmentEvents).1 = [0, 0] ∧
      terminals (run System.step (.start true 1 0 []) interruptedRemovalEvents).1 = [0, 0] := by
  decide +kernel

section

variable (w : World) (s : Service) (c : ClientMonitor) (initiatedByClient : Bool)

def StartFails : Prop :=
  s.currentClient = none ∧
    ((s.daemon || w.reopening.reaches) = false ∨ w.answer c.startDaemonCall ≠ some 0)

def Output.tellsError (client : Nat) : Output → Bool
  | .callback k _ _ (.onError _) _ _ => k == client
  | _ => false

def FreesFailedStart : Prop :=
  StartFails w s c → (startClient w (some c) initiatedByClient s).result = some () →
    (startClient w (some c) initiatedByClient s).state.currentClient ≠ some c ∧
      (startClient w (some c) initiatedByClient s).trace.countP (Output.tellsError c.id) = 1

end

section

variable {w : World} {s : Service} {c : ClientMonitor}

theorem start_result : (c.start w s).result =
    if (s.daemon || w.reopening.reaches) = false ∧ c.kind.isRemoval = true then none
      else some () := by
  simp only [ClientMonitor.start, emit_bind, bind_some (getFingerprintDaemon_reaches _).1]
  cases hreach : s.daemon || w.reopening.reaches with
  | false => cases c.kind.isRemoval <;> rfl
  | true =>
    simp only [if_true, ClientMonitor.startCall, callDaemon_bind, ← refuses_iff]
    cases w.refuses c.startDaemonCall with
    | false => simp
    | true => simp [(onError_trace w c errorHwUnavailable _).2.2]

end

/-- It holds only where no start fails, or `start` throws. -/
theorem freesFailedStart_iff (w : World) (s : Service) (c : ClientMonitor)
    (initiatedByClient : Bool) :
    FreesFailedStart w s c initiatedByClient ↔
      s.currentClient.isSome = true ∨
      (s.daemon || w.reopening.reaches) = true ∧ w.answer c.startDaemonCall = some 0 ∨
      (s.daemon || w.reopening.reaches) = false ∧ c.kind.isRemoval = true := by
  cases hcur : s.currentClient with
  | some current => simp [FreesFailedStart, StartFails, hcur]
  | none =>
    have hstays : (c.start w { s with currentClient := some c }).state.currentClient = some c :=
      (start_trace w c { s with currentClient := some c }).2.1.currentClient
    unfold FreesFailedStart StartFails
    rw [startClient_none hcur, start_result]
    simp only [hcur, hstays]
    cases s.daemon || w.reopening.reaches <;> cases c.kind.isRemoval <;> simp

theorem freesFailedStart_refused :
    ¬ FreesFailedStart refusingWorld (System.start true 1 0 []).service
        { id := 0, kind := .authentication 0, halDeviceId := 1, token := some 1,
          receiver := some 1, targetUserId := 0, groupId := 0, isRestricted := true,
          owner := "app" } true ∧
      let y := (run System.step (.start true 1 0 [])
        [authenticateEvent 1, .looper refusingWorld, authenticateEvent 2, .looper plainWorld]).2
      y.service.currentClient.map ClientMonitor.id = some 0 ∧
        y.service.pendingClient.map ClientMonitor.id = some 1 := by
  refine ⟨fun h => ?_, by decide +kernel⟩
  exact absurd rfl (h ⟨rfl, .inr (by decide)⟩ rfl).1

end WikoPlatform.Fingerprint
