import WikoPlatform.Fingerprint.Turn

/-! Where the results of an authentication are counted: at the counters of the last authentication
that was let in, whichever client a result is for. -/

namespace WikoPlatform.Fingerprint

open Runs Act

def ClientMonitor.statsKey (c : ClientMonitor) : StatsKey where
  crypto := match c.kind with
    | .authentication opId => opId != 0
    | _ => false
  userId := c.targetUserId

def Output.count : Output → Option (StatsKey × Counter)
  | .counted key counter => some (key, counter)
  | _ => none

def counts (trace : List Output) : List (StatsKey × Counter) := trace.filterMap Output.count

def System.delivers (y : System) : Event → Option DaemonMessage
  | .looper _ =>
    if y.crashed then none
    else match y.queue with
      | ⟨.message message, _⟩ :: _ => some message
      | _ => none
  | _ => none

/-- A mismatch that finds the sensor locked, or locks it. -/
def DaemonMessage.locks (s : Service) : DaemonMessage → Bool
  | .authenticated _ fingerId _ =>
    fingerId == 0 && decide (maxFailedAttempts ≤ s.failedAttempts + 1)
  | _ => false

/-- What is to be counted for an authentication. -/
def DaemonMessage.due (s : Service) (message : DaemonMessage) : List Counter :=
  match message with
  | .authenticated _ fingerId _ =>
    if fingerId ≠ 0 then [.accept]
    else (if message.locks s && !s.inLockoutMode then [.lockout] else []) ++ [.reject]
  | .acquired _ => if s.inLockoutMode then [] else [.acquire]
  | _ => []

def System.due (y : System) (event : Event) : List (StatsKey × Counter) :=
  match y.delivers event, y.service.currentClient with
  | some message, some c =>
    if c.kind.isAuthentication then (message.due y.service).map (c.statsKey, ·) else []
  | _, _ => []

/-- Every step counts what is due, and nothing else. -/
def Accounted (y : System) (events : List Event) : Prop :=
  Meets System.step (fun y event => counts (y.step event).1 = y.due event) y events

/-- The pointer is at the client's counters. -/
def System.Attributed (y : System) (event : Event) : Prop :=
  match y.delivers event, y.service.currentClient with
  | some message, some c =>
    c.kind.isAuthentication = true → message.due y.service ≠ [] →
      y.service.performanceStats = some c.statsKey ∧
        (message.locks y.service = true → c.receiver ≠ none)
  | _, _ => True

@[simp] theorem counts_nil : counts [] = [] := rfl

@[simp] theorem counts_append (out rest : List Output) :
    counts (out ++ rest) = counts out ++ counts rest :=
  List.filterMap_append

theorem counts_eq_nil {out : List Output} (h : ∀ o ∈ out, o.count = none) : counts out = [] :=
  List.filterMap_eq_nil_iff.mpr h

theorem count_of_isRoutine (o : Output) (h : o.isRoutine = true) : o.count = none := by
  cases o <;> first | rfl | cases h

theorem counts_of_effects {r : Runnable} {s s' : Service} {out : List Output}
    (h : Steps (Effect r) s out s') (hr : r.isCounted = false) : counts out = [] := by
  refine counts_eq_nil (h.forall_mem fun _ _ _ heffect =>
    heffect.outputs count_of_isRoutine fun hcounted => ?_)
  rw [hr] at hcounted
  cases hcounted

/-! ### Messages that are counted -/

/-- The handler counts `out`, and comes to `a` in `s'`. -/
abbrev Counted {α : Type} (x : Handler α) (s : Service) (out : List (StatsKey × Counter))
    (s' : Service) (a : α) : Prop :=
  Gives (fun _ => True) Output.count x s out s' a

section

variable {key : StatsKey} {s : Service} {w : World} {c : ClientMonitor}
  {fingerId groupId : Int} {origin : Nat} {message : DaemonMessage}

theorem send_counted (callback : Callback) (origin : Option Nat) (s : Service) :
    ∃ heard, Counted (c.send w callback origin) s [] s heard := by
  unfold ClientMonitor.send
  cases c.receiver with
  | none => exact ⟨false, .pure _ _⟩
  | some receiver => exact ⟨_, .seq (.emit trivial rfl) (.pure _ _)⟩

theorem count_counted (h : s.performanceStats = some key) (counter : Counter) :
    Counted (count counter) s [(key, counter)] s () := by
  refine .get_bind ?_
  rw [h]
  exact .emit_picked trivial rfl

theorem handleFailedAttempt_open (h : s.failedAttempts + 1 < maxFailedAttempts)
    (origin : Option Nat) : Counted (c.handleFailedAttempt origin) s []
      { s with failedAttempts := s.failedAttempts + 1 } false := by
  refine .seq (.modify _ _) (.seq (.emit trivial rfl) (.get_bind ?_))
  have hentry : s.failedAttempts + 1 ≠ maxFailedAttempts := by omega
  have hopen : Service.inLockoutMode { s with failedAttempts := s.failedAttempts + 1 } = false := by
    simpa [Service.inLockoutMode] using h
  simp only [if_neg hentry, hopen]
  exact .pure _ _

theorem handleFailedAttempt_lockout (h : maxFailedAttempts ≤ s.failedAttempts + 1)
    (hstats : s.performanceStats = some key) (origin : Option Nat) :
    Counted (c.handleFailedAttempt origin) s (if s.inLockoutMode then [] else [(key, .lockout)])
      { s with failedAttempts := s.failedAttempts + 1, alarm := true } true := by
  refine .seq (.modify _ _) (.seq (.emit trivial rfl) (.get_bind ?_))
  have hlock :
      Service.inLockoutMode { s with failedAttempts := s.failedAttempts + 1 } = true := by
    simpa [Service.inLockoutMode] using h
  by_cases hentry : s.failedAttempts + 1 = maxFailedAttempts
  · have hbefore : s.inLockoutMode = false := by
      simp only [Service.inLockoutMode, decide_eq_false_iff_not]
      omega
    simp only [if_pos hentry, hlock, hbefore]
    have hcount := count_counted (s := { s with failedAttempts := s.failedAttempts + 1 }) hstats
      .lockout
    exact hcount.bind (.seq (.modify _ _) (.pure _ _))
  · have hbefore : s.inLockoutMode = true := by
      simp only [Service.inLockoutMode, decide_eq_true_eq]
      omega
    simp only [if_neg hentry, hlock, hbefore]
    exact .seq (.modify _ _) (.pure _ _)

theorem onAuthenticated_match (h : fingerId ≠ 0) (groupId : Int) (origin : Option Nat) :
    Counted (c.onAuthenticated w fingerId groupId origin) s []
      { s with failedAttempts := 0, alarm := false } true := by
  unfold ClientMonitor.onAuthenticated
  rw [if_pos h]
  obtain ⟨heard, hsend⟩ := send_counted
    (.onAuthenticationSucceeded (c.authenticatedFp fingerId groupId) c.targetUserId) origin s
  exact hsend.seq (.seq (.seq (.modify _ _) (.emit trivial rfl)) (.pure _ _))

theorem onAuthenticated_open (h : s.failedAttempts + 1 < maxFailedAttempts) (groupId : Int)
    (origin : Option Nat) : ∃ done, Counted (c.onAuthenticated w 0 groupId origin) s []
      { s with failedAttempts := s.failedAttempts + 1 } done := by
  obtain ⟨heard, hsend⟩ := send_counted .onAuthenticationFailed origin s
  exact ⟨_, hsend.seq (.seq (handleFailedAttempt_open h origin) (.pure _ _))⟩

theorem onAuthenticated_locked (h : maxFailedAttempts ≤ s.failedAttempts + 1)
    (hstats : s.performanceStats = some key) (hrecv : c.receiver ≠ none) (groupId : Int)
    (origin : Option Nat) : Counted (c.onAuthenticated w 0 groupId origin) s
      (if s.inLockoutMode then [] else [(key, .lockout)])
      { s with failedAttempts := s.failedAttempts + 1, alarm := true } true := by
  obtain ⟨heard, hsend⟩ := send_counted .onAuthenticationFailed origin s
  obtain ⟨_, htell⟩ := send_counted (.onError errorLockout) origin
    { s with failedAttempts := s.failedAttempts + 1, alarm := true }
  unfold ClientMonitor.onAuthenticated
  rw [← List.append_nil (if s.inLockoutMode then [] else _)]
  refine hsend.seq ((handleFailedAttempt_lockout h hstats origin).bind ?_)
  simp only [if_true, if_neg hrecv, Bool.or_true]
  exact htell.seq (.pure _ _)

theorem onAuthenticated_deaf (h : maxFailedAttempts ≤ s.failedAttempts + 1)
    (hstats : s.performanceStats = some key) (hrecv : c.receiver = none) (groupId : Int)
    (origin : Option Nat) : counts (c.onAuthenticated w 0 groupId origin s).trace =
        (if s.inLockoutMode then [] else [(key, .lockout)]) ∧
      (c.onAuthenticated w 0 groupId origin s).result = none := by
  obtain ⟨heard, hsend⟩ := send_counted .onAuthenticationFailed origin s
  have hfail := handleFailedAttempt_lockout (c := c) h hstats origin
  unfold ClientMonitor.onAuthenticated
  rw [if_neg (by simp), bind_some hsend.result, hsend.state, bind_some hfail.result]
  simp only [if_true, if_pos hrecv]
  refine ⟨?_, rfl⟩
  have hthrown : ∀ (f : Unit → Handler Bool) (s : Service),
      ((Act.throw >>= f : Handler Bool) s).trace = [] := fun _ _ => rfl
  rw [hthrown, List.append_nil, counts_append]
  exact (congrArg₂ (· ++ ·) hsend.picked hfail.picked).trans (List.nil_append _)

theorem handleAuthenticated_counted (hcur : s.currentClient = some c)
    (hkind : c.kind.isAuthentication = true) (hstats : s.performanceStats = some key)
    {out : List (StatsKey × Counter)} {s₁ : Service} {done : Bool} (groupId : Int)
    (origin : Option Nat) (h : Counted (c.onAuthenticated w fingerId groupId origin) s out s₁ done)
    (hkept : s₁.performanceStats = s.performanceStats) :
    ∃ s₂, Counted (handleAuthenticated w fingerId groupId origin) s
      (out ++ [(key, if fingerId ≠ 0 then .accept else .reject)]) s₂ () := by
  have hcount : ∀ s₂ : Service, s₂.performanceStats = s₁.performanceStats →
      Counted (count (if fingerId ≠ 0 then .accept else .reject)) s₂
        [(key, if fingerId ≠ 0 then .accept else .reject)] s₂ () :=
    fun s₂ hs₂ => count_counted (hs₂.trans (hkept.trans hstats)) _
  cases done with
  | false =>
    refine ⟨s₁, .get_bind ?_⟩
    rw [hcur]
    simp only [hkind, if_true]
    exact h.bind (hcount s₁ rfl)
  | true =>
    refine ⟨{ s₁ with currentClient := none }, .get_bind ?_⟩
    rw [hcur]
    simp only [hkind, if_true]
    exact h.bind (.seq (.modify _ _) (hcount { s₁ with currentClient := none } rfl))

theorem locks_iff : (DaemonMessage.authenticated origin fingerId groupId).locks s = true ↔
      fingerId = 0 ∧ maxFailedAttempts ≤ s.failedAttempts + 1 := by
  simp [DaemonMessage.locks]

theorem authenticated_counted (hcur : s.currentClient = some c)
    (hkind : c.kind.isAuthentication = true) (hstats : s.performanceStats = some key)
    (hheard : (DaemonMessage.authenticated origin fingerId groupId).locks s = true →
      c.receiver ≠ none) :
    ∃ s₂, Counted (handleMessage w (.authenticated origin fingerId groupId)) s
      (((DaemonMessage.authenticated origin fingerId groupId).due s).map (key, ·)) s₂ () := by
  change ∃ s₂, Counted (handleAuthenticated w fingerId groupId (some origin)) s _ s₂ ()
  by_cases hfinger : fingerId = 0
  · subst hfinger
    by_cases hlock : maxFailedAttempts ≤ s.failedAttempts + 1
    · have hlocks : (DaemonMessage.authenticated origin 0 groupId).locks s = true :=
        locks_iff.mpr ⟨rfl, hlock⟩
      have h := handleAuthenticated_counted hcur hkind hstats groupId (some origin)
        (onAuthenticated_locked (w := w) hlock hstats (hheard hlocks) groupId (some origin)) rfl
      cases hmode : s.inLockoutMode <;> simpa [DaemonMessage.due, hlocks, hmode] using h
    · have hlocks : (DaemonMessage.authenticated origin 0 groupId).locks s = false := by
        simp [DaemonMessage.locks, hlock]
      obtain ⟨done, hopen⟩ := onAuthenticated_open (Nat.lt_of_not_le hlock)
        groupId (some origin)
      have h := handleAuthenticated_counted hcur hkind hstats groupId (some origin) hopen rfl
      simpa [DaemonMessage.due, hlocks] using h
  · have h := handleAuthenticated_counted hcur hkind hstats groupId (some origin)
      (onAuthenticated_match (w := w) hfinger groupId (some origin)) rfl
    simpa [DaemonMessage.due, hfinger] using h

theorem authenticated_deaf (hcur : s.currentClient = some c)
    (hkind : c.kind.isAuthentication = true) (hstats : s.performanceStats = some key)
    (hlock : maxFailedAttempts ≤ s.failedAttempts + 1) (hrecv : c.receiver = none)
    (origin : Nat) (groupId : Int) :
    counts (handleMessage w (.authenticated origin 0 groupId) s).trace =
        (if s.inLockoutMode then [] else [(key, .lockout)]) ∧
      (handleMessage w (.authenticated origin 0 groupId) s).result = none := by
  obtain ⟨hcounts, hres⟩ :=
    onAuthenticated_deaf hlock hstats hrecv groupId (some origin)
  simp only [handleMessage, handleAuthenticated, get_bind, hcur, hkind, if_true]
  rw [bind_none hres]
  exact ⟨hcounts, rfl⟩

theorem acquired_counted (hcur : s.currentClient = some c) (acquiredInfo : Int) :
    ∃ s₂, Counted (handleMessage w (.acquired acquiredInfo)) s
      (if !s.inLockoutMode && c.kind.isAuthentication then
        s.performanceStats.toList.map (·, .acquire) else []) s₂ () := by
  obtain ⟨heard, hsend⟩ := send_counted (.onAcquired acquiredInfo) none s
  have hend : ∀ s₁ : Service, s₁.performanceStats = s.performanceStats →
      s₁.inLockoutMode = s.inLockoutMode →
      Counted (do
        let s ← get
        if s.performanceStats.isSome && !s.inLockoutMode && c.kind.isAuthentication then
          count .acquire : Handler Unit) s₁
        (if !s.inLockoutMode && c.kind.isAuthentication then
          s.performanceStats.toList.map (·, .acquire) else []) s₁ () := by
    intro s₁ hstats hmode
    refine .get_bind ?_
    rw [hmode, hstats, Bool.and_assoc]
    cases !s.inLockoutMode && c.kind.isAuthentication with
    | false => simpa using Gives.pure () s₁
    | true =>
      cases hkey : s.performanceStats with
      | none => simpa using Gives.pure () s₁
      | some key => simpa using count_counted (hstats.trans hkey) .acquire
  cases heard with
  | false =>
    refine ⟨{ s with currentClient := none }, .get_bind ?_⟩
    rw [hcur]
    exact .seq (.seq hsend (.pure _ _)) (.seq (.modify _ _) (hend _ rfl rfl))
  | true =>
    refine ⟨s, .get_bind ?_⟩
    rw [hcur]
    exact .seq (.seq hsend (.pure _ _)) (hend s rfl rfl)

theorem message_counts_nil
    (h : ∀ c, s.currentClient = some c → c.kind.isAuthentication = true → message.due s = []) :
    counts (handleMessage w message s).trace = [] := by
  cases message with
  | authenticated origin fingerId groupId =>
    simp only [handleMessage, handleAuthenticated, get_bind]
    cases hcur : s.currentClient with
    | none => rfl
    | some c =>
      by_cases hkind : c.kind.isAuthentication = true
      · have hnil := h c hcur hkind
        by_cases hfinger : fingerId = 0 <;> simp [DaemonMessage.due, hfinger] at hnil
      · simp only [if_neg hkind]
        rfl
  | acquired acquiredInfo =>
    cases hcur : s.currentClient with
    | none =>
      simp only [handleMessage, handleAcquired, get_bind, hcur]
      rfl
    | some c =>
      obtain ⟨s₂, hcounted⟩ := acquired_counted hcur acquiredInfo
      refine hcounted.picked.trans (if_neg ?_)
      simp only [Bool.and_eq_true, Bool.not_eq_true', not_and]
      intro hmode hkind
      simpa [DaemonMessage.due, hmode] using h c hcur hkind
  | enrollResult | error | removed =>
    exact counts_of_effects (handleMessage_does w _ s s rfl).1 rfl

/-! ### The pointer -/

theorem handleMessage_pointed (message : DaemonMessage) (s : Service) :
    ∀ counted ∈ counts (handleMessage w message s).trace, s.performanceStats = some counted.1 := by
  let inv (trace : List Output) (s₁ : Service) : Prop :=
    s₁.performanceStats = s.performanceStats ∧
      ∀ counted ∈ counts trace, s.performanceStats = some counted.1
  have hstep : ∀ trace s₁ out s₂, inv trace s₁ → Effect (.message message) s₁ out s₂ →
      inv (trace ++ out) s₂ := by
    rintro trace s₁ out s₂ ⟨hstats, hcounts⟩ heffect
    refine ⟨(heffect.performanceStats rfl).trans hstats, ?_⟩
    rw [counts_append, List.forall_mem_append]
    refine ⟨hcounts, fun counted hmem => ?_⟩
    obtain ⟨o, ho, hcount⟩ := List.mem_filterMap.mp hmem
    refine heffect.outputs (P := fun o => o.count = some counted →
      s.performanceStats = some counted.1) ?_ ?_ o ho hcount
    · intro o hroutine hsome
      rw [count_of_isRoutine o hroutine] at hsome
      cases hsome
    · rintro - key counter hkey ⟨⟩
      exact hstats.symm.trans hkey
  have hstart : inv [] s := ⟨rfl, List.forall_mem_nil _⟩
  exact ((handleMessage_does w message s s rfl).1.keeps hstep hstart).2

theorem message_counts_iff (hcur : s.currentClient = some c)
    (hkind : c.kind.isAuthentication = true) (hdue : message.due s ≠ []) :
    counts (handleMessage w message s).trace = (message.due s).map (c.statsKey, ·) ↔
      s.performanceStats = some c.statsKey ∧ (message.locks s = true → c.receiver ≠ none) := by
  constructor
  · intro heq
    obtain ⟨counter, hcounter⟩ := List.exists_mem_of_ne_nil _ hdue
    have hpointer : s.performanceStats = some c.statsKey := by
      refine handleMessage_pointed (w := w) message s (c.statsKey, counter) ?_
      rw [heq]
      exact List.mem_map_of_mem hcounter
    refine ⟨hpointer, fun hlocks hrecv => ?_⟩
    cases message with
    | authenticated origin fingerId groupId =>
      obtain ⟨rfl, hlock⟩ := locks_iff.mp hlocks
      have hdeaf := (authenticated_deaf (w := w) hcur hkind hpointer hlock hrecv origin
        groupId).1
      have hreject : (c.statsKey, Counter.reject) ∈
          counts (handleMessage w (.authenticated origin 0 groupId) s).trace := by
        rw [heq]
        simp [DaemonMessage.due]
      rw [hdeaf] at hreject
      split at hreject
      · cases hreject
      · cases List.mem_singleton.mp hreject
    | acquired | enrollResult | error | removed => cases hlocks
  · rintro ⟨hpointer, hheard⟩
    cases message with
    | authenticated origin fingerId groupId =>
      obtain ⟨s₂, h⟩ := authenticated_counted hcur hkind hpointer hheard
      exact h.picked
    | acquired acquiredInfo =>
      obtain ⟨s₂, h⟩ := acquired_counted hcur acquiredInfo
      refine h.picked.trans ?_
      rw [hpointer, hkind]
      cases hmode : s.inLockoutMode <;> simp [DaemonMessage.due, hmode]
    | enrollResult | error | removed => exact absurd rfl hdue

end

section

variable {y : System} {event : Event} {handler : Handler Unit} {message : DaemonMessage}

theorem delivers_iff : y.delivers event = some message ↔
      ∃ w unprivileged queue, event = .looper w ∧ y.crashed = false ∧
        y.queue = ⟨.message message, unprivileged⟩ :: queue := by
  constructor
  · intro h
    cases event with
    | looper w =>
      simp only [System.delivers] at h
      split at h
      · cases h
      next hcrash =>
      split at h
      next hqueue =>
        cases h
        exact ⟨w, _, _, rfl, by simpa using hcrash, hqueue⟩
      · cases h
    | _ => cases h
  · rintro ⟨w, unprivileged, queue, rfl, hcrash, hqueue⟩
    simp [System.delivers, hcrash, hqueue]

theorem looper_step {posted : Posted} {queue : List Posted} (hcrash : y.crashed = false)
    (hqueue : y.queue = posted :: queue) (w : World) :
    y.step (.looper w) = { y with queue }.perform posted.unprivileged
      (unowned y.service posted.runnable) (runRunnable w posted.runnable) := by
  rw [System.step, if_neg (by simp [hcrash])]
  simp only [System.react, hqueue]

theorem step_of_delivers (h : y.delivers event = some message) :
    ∃ w, counts (y.step event).1 = counts (handleMessage w message y.service).trace ∧
      (y.step event).2.service = (handleMessage w message y.service).state ∧
      (y.step event).2.crashed = (handleMessage w message y.service).result.isNone := by
  obtain ⟨w, unprivileged, queue, rfl, hcrash, hqueue⟩ := delivers_iff.mp h
  rw [looper_step hcrash hqueue, perform_service, perform_crashed, System.perform, counts_append,
    counts_eq_nil (forall_mem_droppedClient fun _ _ => rfl), List.append_nil]
  exact ⟨w, rfl, rfl, rfl⟩

theorem running_looper {kind : Runnable → Bool} (hreset : kind .resetFailedAttempts = false)
    (herror : kind (.message (.error errorHwUnavailable)) = false)
    (h : kind (y.running event) = true) :
    ∃ w posted queue, event = .looper w ∧ y.queue = posted :: queue ∧
      kind posted.runnable = true := by
  cases event with
  | looper w =>
    cases hqueue : y.queue with
    | nil => simp [System.running, hqueue, hreset] at h
    | cons posted queue =>
      simp only [System.running, hqueue, List.head?_cons, Option.map_some, Option.getD_some] at h
      exact ⟨w, posted, queue, rfl, rfl, h⟩
  | daemonDied => simp [System.running, herror] at h
  | _ => simp [System.running, hreset] at h

theorem step_counts_nil (h : ∀ message, y.delivers event = some message →
    message.isCounted = false) : counts (y.step event).1 = [] := by
  cases hcrash : y.crashed with
  | true =>
    rw [System.step, if_pos hcrash]
    rfl
  | false =>
    have hr : (y.running event).isCounted = false := by
      by_contra hcounted
      obtain ⟨w, ⟨runnable, unprivileged⟩, queue, rfl, hqueue, hrun⟩ :=
        running_looper rfl rfl (eq_true_of_ne_false hcounted)
      cases runnable with
      | message message =>
        have hquiet := h message (delivers_iff.mpr ⟨w, _, _, rfl, hcrash, hqueue⟩)
        exact absurd (hquiet.symm.trans hrun) (by decide)
      | _ => cases hrun
    obtain ⟨out, hout, hsteps⟩ := step_shaped y event
    rw [hout, counts_append, counts_eq_nil (forall_mem_droppedClient fun _ _ => rfl),
      List.append_nil]
    refine counts_eq_nil (hsteps.forall_mem fun s out s' hchange => ?_)
    cases hchange with
    | effect heffect =>
      exact List.filterMap_eq_nil_iff.mp (counts_of_effects (.single heffect) hr)
    | post => exact List.forall_mem_singleton.mpr rfl
    | alarmFired | died => exact List.forall_mem_nil _

theorem step_counts_iff (y : System) (event : Event) :
    counts (y.step event).1 = y.due event ↔ y.Attributed event := by
  unfold System.due System.Attributed
  cases hmsg : y.delivers event with
  | none => exact iff_of_true (step_counts_nil (by simp [hmsg])) trivial
  | some message =>
    obtain ⟨w, hcounts, -, -⟩ := step_of_delivers hmsg
    cases hcur : y.service.currentClient with
    | none =>
      refine iff_of_true (hcounts.trans (message_counts_nil ?_)) trivial
      simp [hcur]
    | some c =>
      have hquiet : (c.kind.isAuthentication = true → message.due y.service = []) →
          counts (y.step event).1 = [] := by
        intro hnone
        refine hcounts.trans (message_counts_nil ?_)
        rintro _ hc hkind
        obtain rfl : c = _ := Option.some.inj (hcur.symm.trans hc)
        exact hnone hkind
      simp only
      by_cases hkind : c.kind.isAuthentication = true
      · by_cases hdue : message.due y.service = []
        · rw [if_pos hkind, hdue]
          exact iff_of_true (hquiet fun _ => hdue) fun _ hne => absurd rfl hne
        · rw [if_pos hkind, hcounts, message_counts_iff hcur hkind hdue]
          simp [hkind, hdue]
      · rw [if_neg hkind]
        exact iff_of_true (hquiet fun h => absurd h hkind) fun h => absurd h hkind

end

/-- The statistics are right exactly if they are attributed. -/
theorem accounted_iff (y : System) (events : List Event) :
    Accounted y events ↔ Meets System.step System.Attributed y events :=
  meets_congr_of_inv (fun y event (_ : True) => step_counts_iff y event) (fun _ _ _ _ => trivial)
    trivial events

def otherUserEvents : List Event :=
  [.binder plainWorld ⟨1, 1, false, true, false⟩ (.authenticate (some 1) 0 10 (some 1) "app"),
   .looper plainWorld, .message (.authenticated 0 3 10), .looper plainWorld]

theorem not_accounted_otherUser : ¬Accounted (.start true 1 0 []) otherUserEvents := by
  unfold Accounted
  decide +kernel

/-! ### Runs that keep the pointer right -/

def Service.Has (s : Service) (c : ClientMonitor) : Prop :=
  s.currentClient = some c ∨ s.pendingClient = some c

def Fits (K : ClientMonitor → Option StatsKey → Prop) (s : Service) : Prop :=
  ∀ c, s.Has c → c.kind.isAuthentication = true → K c s.performanceStats

section

variable {K : ClientMonitor → Option StatsKey → Prop} {r : Runnable} {c : ClientMonitor}
  {s s' : Service} {out : List Output} {y : System} {event : Event} {w : World}

theorem Touched.has (h : Touched s s') (hc : s'.Has c) : s.Has c := by
  rwa [Service.Has, h.currentClient, h.pendingClient] at hc

theorem Fits.moved (hs : Fits K s) (hstats : s'.performanceStats = s.performanceStats)
    (hclients : ∀ c, s'.Has c → c.kind.isAuthentication = true →
      s.Has c ∨ K c s.performanceStats) : Fits K s' := by
  intro c hc hkind
  rw [hstats]
  exact (hclients c hc hkind).elim (fun hold => hs c hold hkind) id

theorem Fits.touched (hs : Fits K s) (h : Touched s s') : Fits K s' :=
  hs.moved h.performanceStats fun _ hc _ => .inl (h.has hc)

theorem Fits.effect (hs : Fits K s) (h : Effect r s out s') (hr : r.isAuthenticate = false) :
    Fits K s' := by
  have hnew : ∀ {P : Prop}, r.isAuthenticate = true ∧ P → ∀ Q : Prop, Q := by
    rintro P ⟨hauth, -⟩
    rw [hr] at hauth
    cases hauth
  refine hs.moved (h.performanceStats hr) fun c hc hkind => .inl ?_
  cases h with
  | own h => exact h.state.has hc
  | stop _ _ htouch => exact htouch.has hc
  | begin hmakes _ _ _ htouch =>
    rcases htouch.has hc with hcur | hpend
    · obtain rfl := Option.some.inj hcur
      exact hnew (hmakes.authentication hkind) _
    · exact .inr hpend
  | park hmakes _ _ _ htouch =>
    rcases htouch.has hc with hcur | hpend
    · exact .inl hcur
    · obtain rfl := Option.some.inj hpend
      exact hnew (hmakes.authentication hkind) _
  | resume _ _ hpend _ htouch =>
    rcases htouch.has hc with hcur | hnone
    · exact .inr (hpend.trans hcur)
    · cases hnone
  | crash _ _ hpend _ _ htouch =>
    rcases htouch.has hc with hcur | hwaits
    exacts [.inr (hpend.trans hcur), .inr hwaits]
  | drop =>
    rcases hc with hnone | hpend
    · cases hnone
    · exact .inr hpend
  | stats | counted | postReset | reset | disarm | refuse | tell | fail | schedule | store
  | unstore => exact hc

theorem Fits.change (hdied : ∀ k c stats, K c stats → K (c.binderDied k) stats) (hs : Fits K s)
    (h : Change r s out s') (hr : r.isAuthenticate = false) : Fits K s' := by
  cases h with
  | effect h => exact hs.effect h hr
  | post | alarmFired => exact hs
  | died client =>
    rintro c (hc | hc) hkind
    all_goals
      obtain ⟨c₀, hc₀, rfl⟩ := Option.map_eq_some_iff.mp hc
      rw [binderDied_kind] at hkind
    · exact hdied client c₀ _ (hs c₀ (.inl hc₀) hkind)
    · exact hdied client c₀ _ (hs c₀ (.inr hc₀) hkind)

def Admitted (w : World) (opId groupId : Int) (opPackageName : String) (s : Service)
    (c : ClientMonitor) : Prop :=
  c.kind = .authentication opId ∧
    c.targetUserId = (updateActiveGroup w groupId (some opPackageName) s).state.currentUserId

theorem newClient_fits {kind : ClientKind} {token receiver : Option Nat}
    {targetUserId groupId : Int} {restricted : Bool} {owner : String} (hs : Fits K s)
    (hnew : ∀ c : ClientMonitor, c.kind = kind → c.targetUserId = targetUserId →
      K c s.performanceStats) :
    Fits K ((ClientMonitor.new kind token receiver targetUserId groupId restricted owner >>=
      fun c => startClient w (some c) true) s).state := by
  cases token with
  | none => exact hs
  | some token =>
    obtain ⟨c, hc, heq⟩ := new_bind kind token receiver targetUserId groupId restricted owner s
    have hK : K c s.performanceStats := hnew c hc.kind hc.targetUserId
    let s₁ : Service := { s with nextClient := s.nextClient + 1 }
    rw [heq _ s₁ rfl]
    cases hcur : s₁.currentClient with
    | none =>
      rw [startClient_none hcur]
      refine Fits.touched ?_ (start_trace w c { s₁ with currentClient := some c }).2.1
      refine hs.moved rfl ?_
      rintro _ (hc | hpend) -
      exacts [.inr (Option.some.inj hc ▸ hK), .inl (.inr hpend)]
    | some current =>
      obtain ⟨-, htouch, -⟩ := stop_trace w current true s₁
      rw [startClient_some hcur]
      refine hs.moved htouch.performanceStats ?_
      rintro _ (hc | hpend) -
      exacts [.inl (.inl (htouch.currentClient.symm.trans hc)), .inr (Option.some.inj hpend ▸ hK)]

theorem startAuthentication_fits {token receiver : Option Nat} {opId groupId : Int}
    {restricted : Bool} {opPackageName : String} (hs : Fits K s)
    (hnew : ∀ c, Admitted w opId groupId opPackageName s c → K c s.performanceStats) :
    Fits K
      (startAuthentication w token opId groupId receiver restricted opPackageName s).state := by
  obtain ⟨-, hdoes⟩ := updateActiveGroup_does (r := .resetFailedAttempts) (w := w) groupId s rfl
  obtain ⟨-, -, hres⟩ := updateActiveGroup_readies groupId (some opPackageName)
  have htouch := hdoes () hres
  have hready := hs.touched htouch
  unfold startAuthentication
  rw [bind_some hres]
  simp only [get_bind]
  split
  · cases token with
    | none => exact hready
    | some token =>
      obtain ⟨c, -, heq⟩ := new_bind (.authentication opId) token receiver
        (updateActiveGroup w groupId (some opPackageName) s).state.currentUserId groupId restricted
        opPackageName (updateActiveGroup w groupId (some opPackageName) s).state
      rw [heq _ _ rfl, (onError_trace w c errorLockout _).2.1]
      exact hready
  · refine newClient_fits hready fun c hkind huser => ?_
    rw [htouch.performanceStats]
    exact hnew c ⟨hkind, huser⟩

theorem step_fits (hdied : ∀ k c stats, K c stats → K (c.binderDied k) stats)
    (hallow : ∀ w token opId groupId receiver restricted opPackageName uid pid unprivileged queue,
      event = .looper w → y.queue = ⟨.authenticate token opId groupId receiver restricted
        opPackageName uid pid, unprivileged⟩ :: queue →
      (canUseFingerprint w opPackageName uid pid y.service).result = some true →
      let key : StatsKey := ⟨opId != 0, y.service.currentUserId⟩
      Fits K { y.service with performanceStats := some key } ∧
        ∀ c, Admitted w opId groupId opPackageName
          { y.service with performanceStats := some key } c → K c (some key))
    (h : Fits K y.service) : Fits K (y.step event).2.service := by
  cases hauth : (y.running event).isAuthenticate with
  | false =>
    obtain ⟨out, -, hsteps⟩ := step_shaped y event
    exact hsteps.keeps_state (fun s out s' hs hchange => hs.change hdied hchange hauth) h
  | true =>
    obtain ⟨w, ⟨runnable, unprivileged⟩, queue, rfl, hqueue, hrun⟩ := running_looper rfl rfl hauth
    cases hcrash : y.crashed with
    | true =>
      rw [System.step, if_pos hcrash]
      exact h
    | false =>
      rw [looper_step hcrash hqueue, perform_service]
      cases runnable with
      | authenticate token opId groupId receiver restricted opPackageName uid pid =>
        rw [runRunnable, authenticate]
        rcases canUseFingerprint_cases _ y.service with ⟨-, result, heq⟩ | ⟨hallowed, heq⟩
        · rw [heq]
          exact h
        · obtain ⟨hfits, hnew⟩ := hallow w token opId groupId receiver restricted opPackageName uid
            pid unprivileged queue rfl hqueue hallowed
          rw [heq]
          exact startAuthentication_fits hfits hnew
      | _ => cases hrun

end

/-- A request let in is for the active user, one at a time. -/
def System.Steady (y : System) (event : Event) : Prop :=
  match event, y.queue with
  | .looper w, ⟨.authenticate _ opId groupId _ _ opPackageName uid pid, _⟩ :: _ =>
    let key : StatsKey := ⟨opId != 0, y.service.currentUserId⟩
    (canUseFingerprint w opPackageName uid pid y.service).result = some true →
      (updateActiveGroup w groupId (some opPackageName)
          { y.service with performanceStats := some key }).state.currentUserId = key.userId ∧
        ∀ c, y.service.Has c → c.kind.isAuthentication = true → c.statsKey = key
  | _, _ => True

def System.Heard (y : System) (event : Event) : Prop :=
  ∀ message c, y.delivers event = some message → y.service.currentClient = some c →
    c.kind.isAuthentication = true → message.locks y.service = true → c.receiver ≠ none

def OwnCounters (c : ClientMonitor) (stats : Option StatsKey) : Prop := stats = some c.statsKey

theorem statsKey_binderDied (k : Nat) (c : ClientMonitor) :
    (c.binderDied k).statsKey = c.statsKey := by
  unfold ClientMonitor.binderDied
  split <;> rfl

/-- Steady requests are counted right. -/
theorem accounted_of_steady (daemon : Bool) (halDeviceId currentUserId : Int)
    (fingerprints : List (Int × Int)) (events : List Event)
    (h : Meets System.step (fun y event => y.Steady event ∧ y.Heard event)
      (.start daemon halDeviceId currentUserId fingerprints) events) :
    Accounted (.start daemon halDeviceId currentUserId fingerprints) events := by
  have hstart : Fits OwnCounters
      (System.start daemon halDeviceId currentUserId fingerprints).service := by
    rintro c (hc | hc) <;> cases hc
  have hcounts : ∀ (y : System) event, Fits OwnCounters y.service →
      y.Steady event ∧ y.Heard event → counts (y.step event).1 = y.due event := by
    rintro y event hfits ⟨-, hheard⟩
    rw [step_counts_iff, System.Attributed]
    split
    · next message c hmsg hcur =>
      intro hkind hdue
      exact ⟨hfits c (.inl hcur) hkind, hheard message c hmsg hcur hkind⟩
    · trivial
  have hkeeps : ∀ (y : System) event, Fits OwnCounters y.service →
      y.Steady event ∧ y.Heard event → Fits OwnCounters (y.step event).2.service := by
    rintro y event hfits ⟨hsteady, -⟩
    refine step_fits ?_ ?_ hfits
    · intro k c stats hstats
      rw [OwnCounters, statsKey_binderDied]
      exact hstats
    · rintro w token opId groupId receiver restricted opPackageName uid pid unprivileged queue rfl
        hqueue hallowed
      simp only [System.Steady, hqueue] at hsteady
      obtain ⟨huser, hothers⟩ := hsteady hallowed
      refine ⟨fun c hc hkind => congrArg some (hothers c hc hkind).symm, ?_⟩
      rintro c ⟨hkind, htarget⟩
      rw [OwnCounters, ClientMonitor.statsKey, hkind, htarget, huser]
  exact h.imp_of_inv hcounts hkeeps hstart

def ownUserEvents : List Event :=
  [.binder plainWorld ⟨1, 1, false, true, false⟩ (.authenticate (some 1) 0 0 (some 1) "app"),
   .looper plainWorld, .message (.authenticated 0 3 0), .looper plainWorld]

theorem accounted_of_steady_ownUser :
    counts (run System.step (.start true 1 0 []) ownUserEvents).1 ≠ [] ∧
      Accounted (.start true 1 0 []) ownUserEvents := by
  refine ⟨by decide +kernel, accounted_of_steady true 1 0 [] ownUserEvents ?_⟩
  refine ⟨⟨trivial, by rintro _ _ _ ⟨⟩⟩, ⟨fun _ => ⟨by decide, ?_⟩, by rintro _ _ _ ⟨⟩⟩,
    ⟨trivial, by rintro _ _ ⟨⟩⟩, ⟨trivial, ?_⟩, trivial⟩
  · rintro c (hc | hc) <;> cases hc
  · rintro message c - hc - -
    cases hc
    simp

end WikoPlatform.Fingerprint
