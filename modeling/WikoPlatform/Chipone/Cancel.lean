import WikoPlatform.Chipone.Handoff

/-! What follows `FINGERPRINT_ERROR_CANCELED`, which `fpDameonImpl::cancel` notifies before it sets
the stop flag and waits for the worker. -/

namespace WikoPlatform.Chipone

open Runs

namespace Task

/-- The task will notify a message about the finger. -/
def committed (cfg : FpConfig) : Task → Bool
  | .authenticate t => t.committed cfg
  | .enroll t => t.committed cfg
  | _ => false

def capturing : Task → Bool
  | .authenticate t => t.point = .captureImg
  | .enroll t => t.point = .captureImg
  | _ => false

def looks (cfg : FpConfig) : Task → Bool
  | .authenticate t => t.looks cfg
  | .enroll t => t.point = .stored
  | _ => false

/-- A capture that ends is cancelled, and the flag is set when it is read. -/
def Heeds (cfg : FpConfig) (stop : Bool) (answer : Answer) (task : Task) : Prop :=
  (task.capturing = true → answer.ret = -fpErrorUserCancel) ∧
    (stop = false → task.looks cfg = false)

instance (cfg : FpConfig) (stop : Bool) (answer : Answer) (task : Task) :
    Decidable (task.Heeds cfg stop answer) :=
  inferInstanceAs (Decidable (_ ∧ _))

theorem step_uncommitted {cfg : FpConfig} {stop : Bool} {answer : Answer} {task : Task}
    (h : task.committed cfg = false) (hheeds : task.Heeds cfg stop answer) :
    (∀ msg, (task.step cfg stop answer).1 = some msg → msg.isResult = false) ∧
      (task.step cfg stop answer).2.committed cfg = false := by
  obtain ⟨hcapture, hlooks⟩ := hheeds
  cases task with
  | authenticate t =>
    exact AuthTask.step_uncommitted h (fun hpoint => hcapture (decide_eq_true hpoint)) hlooks
  | enroll t =>
    exact EnrollTask.step_uncommitted h (fun hpoint => hcapture (decide_eq_true hpoint))
      fun hstop => of_decide_eq_false (hlooks hstop)
  | remove t => exact ⟨fun msg hmsg => t.step_not_result answer hmsg, rfl⟩
  | enumerate activeGid point =>
    refine ⟨fun msg hmsg => ?_, rfl⟩
    simp only [Task.step] at hmsg
    unfold stepEnumerate at hmsg
    split at hmsg
    case h_4 =>
      obtain rfl := Option.some.inj hmsg
      rfl
    all_goals cases hmsg
  | fingerDetect returned => exact ⟨by rintro _ ⟨⟩, rfl⟩

end Task

def WorkerPoint.committed (cfg : FpConfig) : WorkerPoint → Bool
  | .running _ task => task.committed cfg
  | _ => false

def WorkerPoint.Heeds (cfg : FpConfig) (stop : Bool) (answer : Answer) : WorkerPoint → Prop
  | .running _ task => task.Heeds cfg stop answer
  | _ => True

/-- `cancel` has notified, and the worker may not have paused yet. -/
def Hal.cancels (s : Hal) : Bool :=
  match s.call with
  | some (.cancel, .setStop) | some (.cancel, .pause) | some (.cancel, .pausing) => true
  | _ => false

/-- No message about the finger follows the cancel of its task. -/
def FinalCancel (before : List Output) : Output → Prop
  | .notify op msg => msg.isResult = true → .canceled (some op) ∉ before
  | .canceled _ => True

/-- No message is on its way at the cancel, and from then on the task heeds it. -/
def CancelsInTime (cfg : FpConfig) (s : Hal) : HalEvent → Prop
  | .enter _ => True
  | .client => s.point = some .canceling → s.worker.committed cfg = false
  | .worker answer => s.cancels = true → s.worker.Heeds cfg s.stop answer

instance (cfg : FpConfig) (stop : Bool) (answer : Answer) (worker : WorkerPoint) :
    Decidable (worker.Heeds cfg stop answer) :=
  match worker with
  | .running _ task => inferInstanceAs (Decidable (task.Heeds cfg stop answer))
  | .top | .waiting | .taken _ | .finishing | .navigating => .isTrue trivial

instance (cfg : FpConfig) (s : Hal) (event : HalEvent) :
    Decidable (CancelsInTime cfg s event) :=
  match event with
  | .enter _ => .isTrue trivial
  | .client => inferInstanceAs (Decidable (_ → _))
  | .worker answer => inferInstanceAs (Decidable (_ → s.worker.Heeds cfg s.stop answer))

/-- Between the notification and the pause nothing is on its way. -/
structure CancelInvariant (cfg : FpConfig) (trace : List Output) (s : Hal) : Prop where
  pausing : Pausing s
  order : Justified FinalCancel trace
  cancel : s.point = some .canceling → s.call = some (.cancel, .canceling)
  quiet : ∀ op, .canceled (some op) ∈ trace → s.running = some op →
    s.cancels = true ∧ s.worker.committed cfg = false
  submitted : ∀ op function, s.threadWork = some (op, function) →
    op < s.nextOp ∧ .canceled (some op) ∉ trace ∧ s.running ≠ some op
  canceledOp : ∀ op, .canceled (some op) ∈ trace → op < s.nextOp
  runningOp : ∀ op, s.running = some op → op < s.nextOp

section

variable {cfg : FpConfig} {trace : List Output} {s s' : Hal} {op : Nat}

theorem Hal.running_eq_none (h : s.worker.isParked = true) : s.running = none := by
  rw [Hal.running]
  cases hworker : s.worker with
  | top | waiting => rfl
  | taken | running | finishing | navigating => simp [hworker, WorkerPoint.isParked] at h

section

variable (h : CancelInvariant cfg trace s)
include h

theorem CancelInvariant.client (hpause : Pausing s') (hworker : s'.worker = s.worker)
    (hwork : s'.threadWork = s.threadWork) (hnext : s'.nextOp = s.nextOp)
    (hcancel : s'.point = some .canceling → s'.call = some (.cancel, .canceling))
    (hcancels : s.cancels = true → s'.cancels = true ∨ s.running = none) :
    CancelInvariant cfg trace s' := by
  have hrun : s'.running = s.running := by rw [Hal.running, Hal.running, hworker]
  refine ⟨hpause, h.order, hcancel, fun op hcanceled hop => ?_, ?_, ?_, ?_⟩
  · rw [hrun] at hop
    obtain ⟨hopen, hquiet⟩ := h.quiet op hcanceled hop
    rcases hcancels hopen with hstill | hnone
    · exact ⟨hstill, hworker ▸ hquiet⟩
    · rw [hnone] at hop
      cases hop
  · rw [hrun, hwork, hnext]
    exact h.submitted
  · rw [hnext]
    exact h.canceledOp
  · rw [hrun, hnext]
    exact h.runningOp

theorem CancelInvariant.free (hpause : Pausing s') (hrun : s'.running = none)
    (hcall : s'.call = s.call) (hwork : s'.threadWork = s.threadWork)
    (hnext : s'.nextOp = s.nextOp) : CancelInvariant cfg trace s' := by
  refine ⟨hpause, h.order, ?_, ?_, ?_, ?_, ?_⟩
  · rw [Hal.point, hcall]
    exact h.cancel
  · rw [hrun]
    simp
  · rw [hwork, hnext, hrun]
    intro op function hsome
    obtain ⟨hlt, hnot, -⟩ := h.submitted op function hsome
    exact ⟨hlt, hnot, by simp⟩
  · rw [hnext]
    exact h.canceledOp
  · rw [hrun]
    simp

theorem CancelInvariant.awake (hpause : Pausing s.awake) : CancelInvariant cfg trace s.awake := by
  cases hreq : s.requested with
  | pause =>
    rw [Hal.awake_of_pause hreq] at hpause ⊢
    exact h.free hpause rfl rfl rfl rfl
  | resume =>
    rw [Hal.awake_of_resume hreq] at hpause ⊢
    cases hwork : s.threadWork with
    | none =>
      rw [hwork] at hpause
      exact ⟨hpause, h.order, h.cancel, by rintro _ _ ⟨⟩, by simp, h.canceledOp,
        by rintro _ ⟨⟩⟩
    | some work =>
      rw [hwork] at hpause
      obtain ⟨op, function⟩ := work
      obtain ⟨hlt, hnot, -⟩ := h.submitted op function hwork
      refine ⟨hpause, h.order, h.cancel, ?_, by simp, h.canceledOp, ?_⟩
      · rintro op' hcanceled ⟨rfl⟩
        exact absurd hcanceled hnot
      · rintro op' ⟨rfl⟩
        exact hlt

theorem CancelInvariant.begin {function : TaskFunction}
    (hworker : s.worker = .taken (some (op, function))) :
    CancelInvariant cfg trace { s with worker := .running op (.start cfg s function) } := by
  have hrun : s.running = some op := by rw [Hal.running, hworker]
  refine ⟨h.pausing.work (by rw [hworker]; rfl) _, h.order, h.cancel, ?_, ?_, h.canceledOp, ?_⟩
  · rintro op' hcanceled ⟨rfl⟩
    exact ⟨(h.quiet op hcanceled hrun).1, by cases function <;> rfl⟩
  · intro op' function' hwork
    have hsubmit := h.submitted op' function' hwork
    rwa [hrun] at hsubmit
  · rintro op' ⟨rfl⟩
    exact h.runningOp op hrun

theorem CancelInvariant.perform {task : Task} (hworker : s.worker = .running op task)
    (answer : Answer) (hheeds : s.cancels = true → task.Heeds cfg s.stop answer) :
    CancelInvariant cfg (trace ++ ((task.step cfg s.stop answer).1.map (Output.notify op)).toList)
      { s with worker := .running op (task.step cfg s.stop answer).2 } := by
  have hrun : s.running = some op := by rw [Hal.running, hworker]
  have hquiet : .canceled (some op) ∈ trace → s.cancels = true ∧
      (∀ msg, (task.step cfg s.stop answer).1 = some msg → msg.isResult = false) ∧
        (task.step cfg s.stop answer).2.committed cfg = false := by
    intro hcanceled
    obtain ⟨hopen, hcommit⟩ := h.quiet op hcanceled hrun
    rw [hworker] at hcommit
    exact ⟨hopen, Task.step_uncommitted hcommit (hheeds hopen)⟩
  have hmem : ∀ op', .canceled (some op') ∈
      trace ++ ((task.step cfg s.stop answer).1.map (Output.notify op)).toList →
        .canceled (some op') ∈ trace := by
    intro op' hcanceled
    rcases List.mem_append.mp hcanceled with hold | hnew
    · exact hold
    · cases hmsg : (task.step cfg s.stop answer).1 with
      | none | some msg => simp [hmsg] at hnew
  refine ⟨h.pausing.work (by rw [hworker]; rfl) _, ?_, h.cancel, ?_, ?_, ?_, ?_⟩
  · cases hmsg : (task.step cfg s.stop answer).1 with
    | none => simpa using h.order
    | some msg =>
      refine h.order.snoc fun hres hcanceled => ?_
      rw [(hquiet hcanceled).2.1 msg hmsg] at hres
      cases hres
  · rintro op' hcanceled ⟨rfl⟩
    obtain ⟨hopen, -, hcommit⟩ := hquiet (hmem op hcanceled)
    exact ⟨hopen, hcommit⟩
  · intro op' function hwork
    obtain ⟨hlt, hnot, hne⟩ := h.submitted op' function hwork
    rw [hrun] at hne
    exact ⟨hlt, fun hcanceled => hnot (hmem op' hcanceled), hne⟩
  · exact fun op' hcanceled => h.canceledOp op' (hmem op' hcanceled)
  · rintro op' ⟨rfl⟩
    exact h.runningOp op hrun

theorem CancelInvariant.workerStep (answer : Answer)
    (hheeds : s.cancels = true → s.worker.Heeds cfg s.stop answer) :
    CancelInvariant cfg (trace ++ (s.workerStep cfg answer).1) (s.workerStep cfg answer).2 := by
  have hpause : Pausing (s.workerStep cfg answer).2 := h.pausing.workerStep answer
  cases hworker : s.worker with
  | top =>
    simp only [Hal.workerStep, hworker, List.append_nil] at hpause ⊢
    have hidle : Pausing { s with isIdle := true } :=
      ⟨fun _ => by rw [hworker]; rfl, h.pausing.pausing, h.pausing.paused⟩
    exact (h.client hidle rfl rfl rfl h.cancel Or.inl).awake hpause
  | waiting =>
    simp only [Hal.workerStep, hworker, List.append_nil] at hpause ⊢
    exact h.awake hpause
  | taken work =>
    cases work with
    | none =>
      simp only [Hal.workerStep, hworker, List.append_nil] at hpause ⊢
      exact h.free hpause rfl rfl rfl rfl
    | some work =>
      simp only [Hal.workerStep, hworker, List.append_nil]
      exact h.begin hworker
  | running op task =>
    simp only [Hal.workerStep, hworker] at hpause ⊢
    rw [hworker] at hheeds
    split_ifs with hret
    · rw [if_pos hret] at hpause
      rw [List.append_nil]
      exact h.free hpause rfl rfl rfl rfl
    · exact h.perform hworker answer hheeds
  | finishing | navigating =>
    simp only [Hal.workerStep, hworker, List.append_nil] at hpause ⊢
    refine h.free hpause ?_ rfl rfl rfl
    rw [Hal.running]
    dsimp only
    split_ifs <;> rfl

theorem CancelInvariant.submit {function : TaskFunction} (hpause : Pausing s')
    (hworker : s'.worker = s.worker) (hwork : s'.threadWork = some (s.nextOp, function))
    (hnext : s'.nextOp = s.nextOp + 1) (hcancel : s'.point ≠ some .canceling)
    (hcancels : s.cancels = false) : CancelInvariant cfg trace s' := by
  have hrun : s'.running = s.running := by rw [Hal.running, Hal.running, hworker]
  refine ⟨hpause, h.order, fun hpoint => absurd hpoint hcancel, ?_, ?_, ?_, ?_⟩
  · intro op hcanceled hop
    rw [hrun] at hop
    rw [(h.quiet op hcanceled hop).1] at hcancels
    cases hcancels
  · rw [hwork, hrun, hnext]
    rintro op function' ⟨rfl, rfl⟩
    refine ⟨Nat.lt_succ_self _, fun hcanceled => ?_, fun hop => ?_⟩
    · exact Nat.lt_irrefl _ (h.canceledOp _ hcanceled)
    · exact Nat.lt_irrefl _ (h.runningOp _ hop)
  · rw [hnext]
    exact fun op hcanceled => Nat.lt_succ_of_lt (h.canceledOp op hcanceled)
  · rw [hrun, hnext]
    exact fun op hop => Nat.lt_succ_of_lt (h.runningOp op hop)

theorem CancelInvariant.notifyCanceled
    (hpause : Pausing { s with call := some (.cancel, .setStop) })
    (hquiet : s.worker.committed cfg = false) :
    CancelInvariant cfg (trace ++ [Output.canceled s.running])
      { s with call := some (.cancel, .setStop) } := by
  have hmem : ∀ op, .canceled (some op) ∈ trace ++ [Output.canceled s.running] →
      .canceled (some op) ∈ trace ∨ s.running = some op := by
    intro op hcanceled
    rcases List.mem_append.mp hcanceled with hold | hnew
    · exact .inl hold
    · rw [List.mem_singleton] at hnew
      exact .inr (Output.canceled.inj hnew).symm
  refine ⟨hpause, h.order.snoc trivial, by rintro ⟨⟩, fun op _ _ => ⟨rfl, hquiet⟩, ?_, ?_,
    h.runningOp⟩
  · intro op function hwork
    obtain ⟨hlt, hnot, hne⟩ := h.submitted op function hwork
    exact ⟨hlt, fun hcanceled => (hmem op hcanceled).elim hnot hne, hne⟩
  · intro op hcanceled
    exact (hmem op hcanceled).elim (h.canceledOp op) (h.runningOp op)

theorem CancelInvariant.clientStep
    (hquiet : s.point = some .canceling → s.worker.committed cfg = false) :
    CancelInvariant cfg (trace ++ s.clientStep.1) s.clientStep.2 := by
  have hpause : Pausing s.clientStep.2 := h.pausing.clientStep
  have hworker := clientStep_worker s
  cases hcall : s.call with
  | none =>
    simp only [Hal.clientStep, hcall, List.append_nil]
    exact h
  | some current =>
    obtain ⟨call, point⟩ := current
    have hpoint : s.point = some point := by rw [Hal.point, hcall]; rfl
    cases point with
    | canceling =>
      have hcancel := h.cancel hpoint
      simp only [Hal.clientStep, hcancel] at hpause ⊢
      exact h.notifyCanceled hpause (hquiet hpoint)
    | setStop =>
      simp only [Hal.clientStep, hcall, List.append_nil] at hpause ⊢
      refine h.client hpause rfl rfl rfl (by rintro ⟨⟩) fun hopen => .inl ?_
      cases call with
      | cancel => rfl
      | _ => simp [Hal.cancels, hcall] at hopen
    | pause | pausing =>
      simp only [Hal.clientStep, hcall, Hal.awaitIdle, List.append_nil] at hpause ⊢
      cases hidle : s.isIdle with
      | true =>
        rw [hidle] at hpause
        have hpark := Hal.running_eq_none (h.pausing.idle hidle)
        exact h.client hpause rfl rfl rfl (by rintro ⟨⟩) fun _ => .inr hpark
      | false =>
        rw [hidle] at hpause
        refine h.client hpause rfl rfl rfl (by rintro ⟨⟩) fun hopen => .inl ?_
        cases call with
        | cancel => rfl
        | _ => simp [Hal.cancels, hcall] at hopen
    | clearStop =>
      simp only [Hal.clientStep, hcall, List.append_nil] at hpause ⊢
      refine h.client hpause rfl rfl rfl (by rintro ⟨⟩) fun hopen => ?_
      simp [Hal.cancels, hcall] at hopen
    | body =>
      have hclose : s.cancels = false := by simp [Hal.cancels, hcall]
      simp only [Hal.clientStep, hcall, List.append_nil] at hpause hworker ⊢
      rcases callBody_work s call with ⟨hwork, hnext⟩ | ⟨function, hwork, hnext⟩
      · refine h.client hpause hworker hwork hnext (by rintro ⟨⟩) fun hopen => ?_
        rw [hclose] at hopen
        cases hopen
      · exact h.submit hpause hworker hwork hnext (by rintro ⟨⟩) hclose
    | resume | resuming =>
      simp only [Hal.clientStep, hcall, Hal.awaitResumed, List.append_nil] at hpause ⊢
      split_ifs at hpause ⊢
      all_goals
        refine h.client hpause rfl rfl rfl (by rintro ⟨⟩) fun hopen => ?_
        simp [Hal.cancels, hcall] at hopen

end

end

theorem cancelInvariant_step (cfg : FpConfig) (trace : List Output) (s : Hal) (event : HalEvent)
    (h : CancelInvariant cfg trace s) (hintime : CancelsInTime cfg s event) :
    CancelInvariant cfg (trace ++ (s.step cfg event).1) (s.step cfg event).2 := by
  have hpause : Pausing (s.step cfg event).2 := pausing_step cfg s event h.pausing
  cases event with
  | enter call =>
    cases hcall : s.call with
    | none =>
      simp only [Hal.step, hcall, List.append_nil] at hpause ⊢
      refine h.client hpause rfl rfl rfl (fun hpoint => ?_) fun hopen => ?_
      · cases call with
        | cancel => rfl
        | _ => cases hpoint
      · simp [Hal.cancels, hcall] at hopen
    | some _ =>
      simp only [Hal.step, hcall, List.append_nil]
      exact h
  | client => exact h.clientStep hintime
  | worker answer => exact h.workerStep answer hintime

/-- Cancels in time are final. -/
theorem halRun_finalCancel (cfg : FpConfig) (resumed stop : Bool) (msessionId : Nat)
    (mgid mfid mtimeout : Int) (events : List HalEvent)
    (h : Meets (Hal.step cfg) (CancelsInTime cfg)
      (Hal.start resumed stop msessionId mgid mfid mtimeout) events) : Justified FinalCancel
      (run (Hal.step cfg) (Hal.start resumed stop msessionId mgid mfid mtimeout) events).1 := by
  have hstart : CancelInvariant cfg [] (Hal.start resumed stop msessionId mgid mfid mtimeout) :=
    ⟨pausing_start, Justified.nil, by rintro ⟨⟩, by simp, by rintro _ _ ⟨⟩, by rintro _ ⟨⟩,
      by rintro _ ⟨⟩⟩
  have hend := run_invariant (cancelInvariant_step cfg) hstart h
  exact hend.order

def authenticateEvents : List HalEvent :=
  [returns 0, .enter (.authenticate 1 0), .client, .client, .client, .client, .client,
    returns 0, .client, returns 0, returns 0]

def waitingCancelEvents : List HalEvent :=
  authenticateEvents ++ [.enter .cancel, .client, .client, .client, returns (-fpErrorUserCancel),
    returns 0, returns 0, returns 0, returns 0, .client, .client]

theorem waitingCancelEvents_finalCancel :
    (run (Hal.step plainConfig) (Hal.start false false 0 0 0 0) waitingCancelEvents).1 =
        [.canceled (some 0)] ∧
      (run (Hal.step plainConfig) (Hal.start false false 0 0 0 0) waitingCancelEvents).2.worker =
        .waiting ∧ Justified FinalCancel
        (run (Hal.step plainConfig) (Hal.start false false 0 0 0 0) waitingCancelEvents).1 :=
  ⟨by decide, by decide,
    halRun_finalCancel plainConfig false false 0 0 0 0 waitingCancelEvents (by decide)⟩

def matchedEvents : List HalEvent :=
  authenticateEvents ++
    [returns 0, returns 0, .worker { ret := 0, matchResult := 1, matchFinger := 5 }]

theorem not_finalCancel {trace : List Output} (before : List Output) (op : Nat)
    (msg : FingerprintMsg) (after : List Output)
    (htrace : trace = before ++ .notify op msg :: after) (hres : msg.isResult = true)
    (hcanceled : .canceled (some op) ∈ before) : ¬Justified FinalCancel trace :=
  fun h => h before _ after htrace hres hcanceled

theorem lateMessages_not_finalCancel :
    ¬Justified FinalCancel (run (Hal.step plainConfig) (Hal.start false false 0 0 0 0)
      (authenticateEvents ++ [.enter .cancel, .client, returns 0, returns 0])).1 ∧
    ¬Justified FinalCancel (run (Hal.step plainConfig) (Hal.start false false 0 0 0 0)
      (matchedEvents ++ [.enter .cancel, .client, returns 0, returns 0])).1 ∧
    ¬Justified FinalCancel (run (Hal.step plainConfig) (Hal.start false false 0 0 0 0)
      (matchedEvents ++ [returns 0, .enter .cancel, .client, .client, returns 0])).1 := by
  refine ⟨?_, ?_, ?_⟩
  · exact not_finalCancel [.canceled (some 0)] 0 (.acquired acquiredGood) [] (by decide) rfl
      (by decide)
  all_goals
    exact not_finalCancel [.notify 0 (.acquired acquiredGood), .canceled (some 0)] 0
      (.authenticated 0 5) [] (by decide) rfl (by decide)

end WikoPlatform.Chipone
