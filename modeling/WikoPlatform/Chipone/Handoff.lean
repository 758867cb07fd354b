import WikoPlatform.Chipone.Worker

/-! The handoff of a task to the worker. `resume_thread` waits for `resumed`, which the worker sets
when it takes the task, and which the constructor of `thread_task` leaves unset. -/

namespace WikoPlatform.Chipone

open Runs

/-- What an observer of the two threads notes. -/
inductive Mark where
  | submitted (op : Nat)
  | begun (op : Nat)
  | ended (op : Nat)
  | navigating
  | navigated
  deriving DecidableEq

def Call.submits : Call → Bool
  | .authenticate .. | .enroll .. | .deleteFid .. | .enumerate | .fingerDetect => true
  | .cancel | .setActiveGroup _ | .navigatorEnable _ | .tac => false

namespace Hal

/-- What is noted of a step. -/
def marks (s : Hal) : HalEvent → List Mark
  | .enter _ => []
  | .client =>
    match s.call with
    | some (call, .body) => if call.submits then [.submitted s.nextOp] else []
    | _ => []
  | .worker answer =>
    match s.worker with
    | .taken (some (op, _)) => [.begun op]
    | .running op task => if task.isReturned then [.ended op] else []
    | .finishing => if s.requested = .resume ∧ s.hasDefaultWork then [.navigating] else []
    | .navigating => if answer.ret = 0 then [] else [.navigated]
    | _ => []

def watch (cfg : FpConfig) (s : Hal) (event : HalEvent) : List Mark × Hal :=
  (s.marks event, (s.step cfg event).2)

def point (s : Hal) : Option CallPoint := s.call.map Prod.snd

/-- Submitted and not begun. -/
def inFlight (s : Hal) : List Nat :=
  (match s.worker with
    | .taken (some (op, _)) => [op]
    | _ => []) ++ (s.threadWork.map Prod.fst).toList

end Hal

def submittedOps (trace : List Mark) : List Nat :=
  trace.filterMap fun
    | .submitted op => some op
    | _ => none

def begunOps (trace : List Mark) : List Nat :=
  trace.filterMap fun
    | .begun op => some op
    | _ => none

inductive Activity where
  | idle
  | task (op : Nat)
  | default
  | clash
  deriving DecidableEq

/-- What goes on after a mark; `clash` if two things would. -/
def Activity.next : Activity → Mark → Activity
  | activity, .submitted _ => activity
  | .idle, .begun op => .task op
  | .idle, .navigating => .default
  | .task op, .ended op' => if op = op' then .idle else .clash
  | .default, .navigated => .idle
  | _, _ => .clash

def activity (trace : List Mark) : Activity := trace.foldl Activity.next .idle

def WorkerPoint.activity : WorkerPoint → Activity
  | .running op _ => .task op
  | .navigating => .default
  | _ => .idle

def WorkerPoint.isParked : WorkerPoint → Bool
  | .top | .waiting => true
  | _ => false

def CallPoint.isPaused : CallPoint → Bool
  | .clearStop | .body | .resume => true
  | _ => false

/-- The submitted tasks begin once and in order, before their call returns but for one in hand; none
overlap, and none goes on in a paused HAL. -/
structure ExactlyOnce (trace : List Mark) (s : Hal) : Prop where
  order : submittedOps trace = begunOps trace ++ s.inFlight
  handed : s.call = none → s.threadWork = none
  alone : activity trace ≠ .clash
  paused : s.point.any CallPoint.isPaused = true → s.worker.isParked = true

/-- A call that has paused the worker finds it parked. -/
structure Pausing (s : Hal) : Prop where
  idle : s.isIdle = true → s.worker.isParked = true
  pausing : s.point = some .pausing → s.requested = .pause
  paused : s.point.any CallPoint.isPaused = true →
    s.worker.isParked = true ∧ s.requested = .pause

section

variable {cfg : FpConfig} {s s' : Hal}

theorem Pausing.awake (h : Pausing s) : Pausing s.awake := by
  cases hreq : s.requested with
  | pause =>
    rw [Hal.awake_of_pause hreq]
    exact ⟨fun _ => rfl, h.pausing, fun hpaused => ⟨rfl, (h.paused hpaused).2⟩⟩
  | resume =>
    rw [Hal.awake_of_resume hreq]
    refine ⟨by simp, h.pausing, fun hpaused => ?_⟩
    have hpause := (h.paused hpaused).2
    rw [hreq] at hpause
    cases hpause

theorem Pausing.busy (h : Pausing s) (hbusy : s.worker.isParked = false) :
    s.isIdle = false ∧ s.point.any CallPoint.isPaused = false := by
  constructor
  · refine Bool.eq_false_iff.mpr fun hidle => ?_
    rw [h.idle hidle] at hbusy
    cases hbusy
  · refine Bool.eq_false_iff.mpr fun hpaused => ?_
    rw [(h.paused hpaused).1] at hbusy
    cases hbusy

theorem Pausing.work (h : Pausing s) (hbusy : s.worker.isParked = false) (worker : WorkerPoint) :
    Pausing { s with worker } := by
  obtain ⟨hidle, hpaused⟩ := h.busy hbusy
  refine ⟨fun hidle' => ?_, h.pausing, fun hpause' => ?_⟩
  · rw [show s.isIdle = true from hidle'] at hidle
    cases hidle
  · rw [show s.point.any CallPoint.isPaused = true from hpause'] at hpaused
    cases hpaused

theorem Pausing.workerStep (h : Pausing s) (answer : Answer) :
    Pausing (s.workerStep cfg answer).2 := by
  cases hworker : s.worker with
  | top =>
    have hidle : Pausing { s with isIdle := true } :=
      ⟨fun _ => by rw [hworker]; rfl, h.pausing, h.paused⟩
    simp only [Hal.workerStep, hworker]
    exact hidle.awake
  | waiting =>
    simp only [Hal.workerStep, hworker]
    exact h.awake
  | taken work =>
    cases work with
    | none | some work =>
      simp only [Hal.workerStep, hworker]
      exact h.work (by rw [hworker]; rfl) _
  | running op task =>
    simp only [Hal.workerStep, hworker]
    split
    all_goals exact h.work (by rw [hworker]; rfl) _
  | finishing =>
    simp only [Hal.workerStep, hworker]
    have hwork : Pausing { s with worker :=
        if s.requested = .resume ∧ s.hasDefaultWork then .navigating else .top } :=
      h.work (by rw [hworker]; rfl) _
    exact ⟨hwork.idle, fun _ => rfl, fun hpaused => ⟨(hwork.paused hpaused).1, rfl⟩⟩
  | navigating =>
    simp only [Hal.workerStep, hworker]
    exact h.work (by rw [hworker]; rfl) _

theorem awake_fields (s : Hal) :
    s.awake.stop = s.stop ∧ s.awake.call = s.call ∧ s.awake.nextOp = s.nextOp := by
  unfold Hal.awake
  split <;> exact ⟨rfl, rfl, rfl⟩

theorem workerStep_fields (cfg : FpConfig) (s : Hal) (answer : Answer) :
    (s.workerStep cfg answer).2.stop = s.stop ∧ (s.workerStep cfg answer).2.call = s.call ∧
      (s.workerStep cfg answer).2.nextOp = s.nextOp := by
  unfold Hal.workerStep
  split
  · exact awake_fields { s with isIdle := true }
  · exact awake_fields s
  · exact ⟨rfl, rfl, rfl⟩
  · exact ⟨rfl, rfl, rfl⟩
  · split <;> exact ⟨rfl, rfl, rfl⟩
  · exact ⟨rfl, rfl, rfl⟩
  · exact ⟨rfl, rfl, rfl⟩

theorem workerStep_parked (cfg : FpConfig) (hpark : s.worker.isParked = true)
    (hpause : s.requested = .pause) (answer : Answer) :
    (s.workerStep cfg answer).2.worker.isParked = true ∧
      (s.workerStep cfg answer).2.requested = .pause := by
  cases hworker : s.worker with
  | top | waiting => simp [Hal.workerStep, hworker, Hal.awake, hpause, WorkerPoint.isParked]
  | taken | running | finishing | navigating =>
    rw [hworker] at hpark
    cases hpark

theorem callBody_fields (s : Hal) (call : Call) :
    (s.callBody call).worker = s.worker ∧ (s.callBody call).isIdle = s.isIdle ∧
      (s.callBody call).requested = s.requested ∧ (s.callBody call).resumed = s.resumed ∧
      (s.callBody call).stop = s.stop := by
  cases call <;> exact ⟨rfl, rfl, rfl, rfl, rfl⟩

theorem callBody_work (s : Hal) (call : Call) :
    (s.callBody call).threadWork = s.threadWork ∧ (s.callBody call).nextOp = s.nextOp ∨
      ∃ function, (s.callBody call).threadWork = some (s.nextOp, function) ∧
        (s.callBody call).nextOp = s.nextOp + 1 := by
  cases call with
  | cancel | setActiveGroup | navigatorEnable | tac => exact .inl ⟨rfl, rfl⟩
  | authenticate | enroll | deleteFid | enumerate | fingerDetect => exact .inr ⟨_, rfl, rfl⟩

theorem clientStep_worker (s : Hal) : s.clientStep.2.worker = s.worker := by
  unfold Hal.clientStep
  split
  case h_7 call _ => exact (callBody_fields s call).1
  case h_8 => unfold Hal.awaitResumed; split <;> rfl
  case h_9 => unfold Hal.awaitResumed; split <;> rfl
  all_goals rfl

theorem step_enter (cfg : FpConfig) (s : Hal) (call : Call) :
    (s.step cfg (.enter call)).2.stop = s.stop ∧ (s.step cfg (.enter call)).2.worker = s.worker ∧
      (s.step cfg (.enter call)).2.requested = s.requested ∧
      ((s.step cfg (.enter call)).2.point = s.point ∨ s.point = none ∧
        ((s.step cfg (.enter call)).2.point = some .canceling ∨
          (s.step cfg (.enter call)).2.point = some .setStop)) := by
  cases hcall : s.call with
  | none =>
    have hpoint : s.point = none := by rw [Hal.point, hcall]; rfl
    simp only [Hal.step, hcall]
    refine ⟨trivial, trivial, trivial, .inr ⟨hpoint, ?_⟩⟩
    cases call with
    | cancel => exact .inl rfl
    | authenticate | enroll | deleteFid | enumerate | fingerDetect | setActiveGroup
    | navigatorEnable | tac => exact .inr rfl
  | some _ =>
    simp only [Hal.step, hcall]
    exact ⟨trivial, trivial, trivial, .inl trivial⟩

theorem Pausing.awaitIdle (hidle : s.isIdle = true → s.worker.isParked = true)
    (hpause : s.requested = .pause) (call : Call) : Pausing (s.awaitIdle call) := by
  unfold Hal.awaitIdle
  refine ⟨hidle, fun _ => hpause, fun hpaused => ⟨?_, hpause⟩⟩
  cases hisIdle : s.isIdle with
  | true => exact hidle hisIdle
  | false => simp [hisIdle, Hal.point, CallPoint.isPaused] at hpaused

theorem Pausing.clientStep (h : Pausing s) : Pausing s.clientStep.2 := by
  cases hcall : s.call with
  | none =>
    simp only [Hal.clientStep, hcall]
    exact h
  | some current =>
    obtain ⟨call, point⟩ := current
    have hpoint : s.point = some point := by rw [Hal.point, hcall]; rfl
    cases point with
    | canceling | setStop =>
      simp only [Hal.clientStep, hcall]
      exact ⟨h.idle, by rintro ⟨⟩, by rintro ⟨⟩⟩
    | pause =>
      simp only [Hal.clientStep, hcall]
      exact .awaitIdle (s := { s with requested := .pause }) h.idle rfl call
    | pausing =>
      simp only [Hal.clientStep, hcall]
      exact .awaitIdle h.idle (h.pausing hpoint) call
    | clearStop =>
      simp only [Hal.clientStep, hcall]
      exact ⟨h.idle, by rintro ⟨⟩, fun _ => h.paused (by rw [hpoint]; rfl)⟩
    | body =>
      simp only [Hal.clientStep, hcall]
      obtain ⟨hworker, hisIdle, hreq, -, -⟩ := callBody_fields s call
      refine ⟨?_, by rintro ⟨⟩, fun _ => ?_⟩
      · rw [hworker, hisIdle]
        exact h.idle
      · rw [hworker, hreq]
        exact h.paused (by rw [hpoint]; rfl)
    | resume | resuming =>
      simp only [Hal.clientStep, hcall, Hal.awaitResumed]
      split <;> exact ⟨h.idle, by rintro ⟨⟩, by rintro ⟨⟩⟩

theorem pausing_step (cfg : FpConfig) (s : Hal) (event : HalEvent) (h : Pausing s) :
    Pausing (s.step cfg event).2 := by
  cases event with
  | enter call =>
    cases hcall : s.call with
    | none =>
      simp only [Hal.step, hcall]
      cases call <;> exact ⟨h.idle, by rintro ⟨⟩, by rintro ⟨⟩⟩
    | some _ =>
      simp only [Hal.step, hcall]
      exact h
  | client => exact h.clientStep
  | worker answer => exact h.workerStep answer

theorem pausing_start {resumed stop : Bool} {msessionId : Nat} {mgid mfid mtimeout : Int} :
    Pausing (.start resumed stop msessionId mgid mfid mtimeout) :=
  ⟨fun _ => rfl, by rintro ⟨⟩, by rintro ⟨⟩⟩

/-- `resumed` is true only between the worker's take and the caller's look at it. -/
structure Handing (s : Hal) : Prop where
  resumed : s.resumed = true → s.point = some .resuming
  asked : s.worker.isParked = true → s.requested = .resume →
    s.point = some .resuming ∧ s.resumed = false
  waiting : s.point = some .resuming → s.resumed = false →
    s.worker.isParked = true ∧ s.requested = .resume
  navigating : s.worker = .navigating → s.requested = .pause
  work : s.threadWork.isSome = true →
    s.point = some .resume ∨ s.point = some .resuming ∧ s.resumed = false

theorem Handing.still (h : Handing s) (hpoint : s.point ≠ some .resuming)
    (hpoint' : s'.point ≠ some .resuming) (hresumed : s'.resumed = s.resumed)
    (hworker : s'.worker = s.worker) (hreq : s'.requested = s.requested ∨
      s'.requested = .pause) (hwork : s'.threadWork.isSome = true → s'.point = some .resume) :
    Handing s' where
  resumed hset := absurd (h.resumed (hresumed ▸ hset)) hpoint
  asked hpark hresume := by
    rcases hreq with hsame | hpause
    · rw [hworker] at hpark
      rw [hsame] at hresume
      exact absurd (h.asked hpark hresume).1 hpoint
    · rw [hpause] at hresume
      cases hresume
  waiting hresuming := absurd hresuming hpoint'
  navigating hnav := by
    rcases hreq with hsame | hpause
    · rw [hsame]
      exact h.navigating (hworker ▸ hnav)
    · exact hpause
  work hsome := .inl (hwork hsome)

theorem Handing.awake (h : Handing s) (hpark : s.worker.isParked = true) : Handing s.awake := by
  cases hreq : s.requested with
  | pause =>
    rw [Hal.awake_of_pause hreq]
    refine ⟨h.resumed, fun _ hresume => ?_, fun hresuming hunset => ?_, by simp, h.work⟩
    · rw [show s.requested = .resume from hresume] at hreq
      cases hreq
    · rw [(h.waiting hresuming hunset).2] at hreq
      cases hreq
  | resume =>
    rw [Hal.awake_of_resume hreq]
    exact ⟨fun _ => (h.asked hpark hreq).1, by rintro ⟨⟩, by simp, by simp, by simp⟩

theorem Handing.work_step (h : Handing s) (hbusy : s.worker.isParked = false)
    (hcall : s'.call = s.call) (hresumed : s'.resumed = s.resumed)
    (hwork : s'.threadWork = s.threadWork)
    (hpark : s'.worker.isParked = true → s'.requested = .pause)
    (hnav : s'.worker = .navigating → s'.requested = .pause) : Handing s' := by
  have hpoint : s'.point = s.point := by rw [Hal.point, Hal.point, hcall]
  refine ⟨?_, fun hp hresume => ?_, fun hresuming hunset => ?_, hnav, ?_⟩
  · rw [hresumed, hpoint]
    exact h.resumed
  · rw [hpark hp] at hresume
    cases hresume
  · rw [hpoint] at hresuming
    rw [hresumed] at hunset
    rw [(h.waiting hresuming hunset).1] at hbusy
    cases hbusy
  · rw [hwork, hpoint, hresumed]
    exact h.work

theorem Handing.workerStep (h : Handing s) (answer : Answer) :
    Handing (s.workerStep cfg answer).2 := by
  cases hworker : s.worker with
  | top =>
    have hidle : Handing { s with isIdle := true } :=
      ⟨h.resumed, h.asked, h.waiting, h.navigating, h.work⟩
    simp only [Hal.workerStep, hworker]
    exact hidle.awake (by rw [hworker]; rfl)
  | waiting =>
    simp only [Hal.workerStep, hworker]
    exact h.awake (by rw [hworker]; rfl)
  | taken work =>
    cases work with
    | none | some work =>
      simp only [Hal.workerStep, hworker]
      exact h.work_step (by rw [hworker]; rfl) rfl rfl rfl (by rintro ⟨⟩) (by rintro ⟨⟩)
  | running op task =>
    simp only [Hal.workerStep, hworker]
    split
    all_goals exact h.work_step (by rw [hworker]; rfl) rfl rfl rfl (by rintro ⟨⟩) (by rintro ⟨⟩)
  | finishing =>
    simp only [Hal.workerStep, hworker]
    exact h.work_step (by rw [hworker]; rfl) rfl rfl rfl (fun _ => rfl) fun _ => rfl
  | navigating =>
    simp only [Hal.workerStep, hworker]
    have hpause := h.navigating hworker
    exact h.work_step (by rw [hworker]; rfl) rfl rfl rfl (fun _ => hpause) fun _ => hpause

theorem Handing.clientStep (h : Handing s) (hpausing : Pausing s) : Handing s.clientStep.2 := by
  cases hcall : s.call with
  | none =>
    simp only [Hal.clientStep, hcall]
    exact h
  | some current =>
    obtain ⟨call, point⟩ := current
    have hpoint : s.point = some point := by rw [Hal.point, hcall]; rfl
    -- nothing is submitted outside the call's body and `resume_thread`
    have hnone : point ≠ .resume → point ≠ .resuming → s.threadWork = none := by
      intro hresume hresuming
      by_contra hwork
      rcases h.work (Option.isSome_iff_ne_none.mpr hwork) with hp | ⟨hp, -⟩
      · exact hresume (Option.some.inj (hpoint.symm.trans hp))
      · exact hresuming (Option.some.inj (hpoint.symm.trans hp))
    cases point with
    | canceling | setStop | clearStop =>
      simp only [Hal.clientStep, hcall]
      exact h.still (by simp [hpoint]) (by simp [Hal.point]) rfl rfl (.inl rfl)
        (by simp [hnone (by simp) (by simp)])
    | pause =>
      simp only [Hal.clientStep, hcall, Hal.awaitIdle]
      refine h.still (by simp [hpoint]) ?_ rfl rfl (.inr rfl) (by simp [hnone (by simp) (by simp)])
      simp only [Hal.point, Option.map_some]
      split <;> simp
    | pausing =>
      simp only [Hal.clientStep, hcall, Hal.awaitIdle]
      refine h.still (by simp [hpoint]) ?_ rfl rfl (.inl rfl) (by simp [hnone (by simp) (by simp)])
      simp only [Hal.point, Option.map_some]
      split <;> simp
    | body =>
      simp only [Hal.clientStep, hcall]
      obtain ⟨hworker, -, hreq, hresumed, -⟩ := callBody_fields s call
      exact h.still (by simp [hpoint]) (by simp [Hal.point]) hresumed hworker (.inl hreq)
        fun _ => rfl
    | resume =>
      have hunset : s.resumed = false := by
        refine Bool.eq_false_iff.mpr fun hset => ?_
        rw [h.resumed hset] at hpoint
        cases hpoint
      have hpark := (hpausing.paused (by rw [hpoint]; rfl)).1
      have hnav : s.worker ≠ .navigating := by
        intro hworker
        rw [hworker] at hpark
        cases hpark
      simp only [Hal.clientStep, hcall, Hal.awaitResumed, hunset, Bool.false_eq_true, if_false]
      exact ⟨by simp, fun _ _ => ⟨rfl, rfl⟩, fun _ _ => ⟨hpark, rfl⟩,
        fun hworker => absurd hworker hnav, fun _ => .inr ⟨rfl, rfl⟩⟩
    | resuming =>
      simp only [Hal.clientStep, hcall, Hal.awaitResumed]
      cases hresumed : s.resumed with
      | false =>
        simp only [Bool.false_eq_true, if_false]
        rw [← hcall, ← hresumed]
        exact h
      | true =>
        refine ⟨by rintro ⟨⟩, fun hpark hresume => ?_, by rintro ⟨⟩, h.navigating,
          fun hwork => ?_⟩
        · rw [(h.asked hpark hresume).2] at hresumed
          cases hresumed
        · rcases h.work hwork with hp | ⟨-, hunset⟩
          · rw [hpoint] at hp
            cases hp
          · rw [hunset] at hresumed
            cases hresumed

theorem Handing.enter (h : Handing s) {call : Call} (hcall : s.call = none) :
    Handing { s with call := some (call, Hal.firstPoint call) } := by
  have hpoint : s.point = none := by rw [Hal.point, hcall]; rfl
  have hfirst : Hal.firstPoint call ≠ .resuming := by cases call <;> rintro ⟨⟩
  refine h.still (by simp [hpoint]) (by simpa [Hal.point] using hfirst) rfl rfl (.inl rfl) ?_
  intro hwork
  rcases h.work hwork with hp | ⟨hp, -⟩ <;> simp [hpoint] at hp

end

structure HandoffInvariant (trace : List Mark) (s : Hal) : Prop where
  pausing : Pausing s
  handing : Handing s
  order : submittedOps trace = begunOps trace ++ s.inFlight
  activity : activity trace = s.worker.activity

section

variable {cfg : FpConfig} {s s' : Hal} {trace marks : List Mark}

@[simp] theorem submittedOps_append (trace marks : List Mark) :
    submittedOps (trace ++ marks) = submittedOps trace ++ submittedOps marks :=
  List.filterMap_append

@[simp] theorem begunOps_append (trace marks : List Mark) :
    begunOps (trace ++ marks) = begunOps trace ++ begunOps marks :=
  List.filterMap_append

theorem activity_append (trace marks : List Mark) :
    activity (trace ++ marks) = marks.foldl Activity.next (activity trace) :=
  List.foldl_append

theorem HandoffInvariant.exactlyOnce (h : HandoffInvariant trace s) : ExactlyOnce trace s where
  order := h.order
  handed hcall := by
    have hpoint : s.point = none := by rw [Hal.point, hcall]; rfl
    by_contra hwork
    rcases h.handing.work (Option.isSome_iff_ne_none.mpr hwork) with hp | ⟨hp, -⟩ <;>
      simp [hpoint] at hp
  alone := by
    rw [h.activity]
    cases s.worker <;> rintro ⟨⟩
  paused hpaused := (h.pausing.paused hpaused).1

theorem HandoffInvariant.append (h : HandoffInvariant trace s) (hpausing : Pausing s')
    (hhanding : Handing s') (hsubmit : submittedOps marks = []) (hbegun : begunOps marks = [])
    (hflight : s'.inFlight = s.inFlight)
    (hactivity : marks.foldl Activity.next s.worker.activity = s'.worker.activity) :
    HandoffInvariant (trace ++ marks) s' where
  pausing := hpausing
  handing := hhanding
  order := by
    rw [submittedOps_append, begunOps_append, hsubmit, hbegun, hflight, List.append_nil,
      List.append_nil]
    exact h.order
  activity := by rw [activity_append, h.activity, hactivity]

theorem awake_inFlight (hpark : s.worker.isParked = true) : s.awake.inFlight = s.inFlight := by
  have hnone : s.inFlight = (s.threadWork.map Prod.fst).toList := by
    unfold Hal.inFlight
    cases hworker : s.worker <;> simp_all [WorkerPoint.isParked]
  rw [hnone]
  unfold Hal.awake
  cases s.requested with
  | pause => rfl
  | resume => cases hwork : s.threadWork <;> simp [Hal.inFlight]

theorem awake_activity : s.awake.worker.activity = .idle := by
  unfold Hal.awake
  cases s.requested <;> rfl

theorem HandoffInvariant.workerStep (h : HandoffInvariant trace s) (answer : Answer) :
    HandoffInvariant (trace ++ s.marks (.worker answer)) (s.workerStep cfg answer).2 := by
  have hpausing : Pausing (s.workerStep cfg answer).2 := h.pausing.workerStep answer
  have hhanding : Handing (s.workerStep cfg answer).2 := h.handing.workerStep answer
  cases hworker : s.worker with
  | top =>
    refine h.append hpausing hhanding ?_ ?_ ?_ ?_
    · simp [Hal.marks, hworker, submittedOps]
    · simp [Hal.marks, hworker, begunOps]
    · simp only [Hal.workerStep, hworker]
      exact (awake_inFlight (s := { s with isIdle := true }) (by rw [hworker]; rfl)).trans rfl
    · simp only [Hal.workerStep, Hal.marks, hworker, awake_activity]
      rfl
  | waiting =>
    refine h.append hpausing hhanding ?_ ?_ ?_ ?_
    · simp [Hal.marks, hworker, submittedOps]
    · simp [Hal.marks, hworker, begunOps]
    · simp only [Hal.workerStep, hworker]
      exact awake_inFlight (by rw [hworker]; rfl)
    · simp only [Hal.workerStep, Hal.marks, hworker, awake_activity]
      rfl
  | taken work =>
    cases work with
    | none =>
      refine h.append hpausing hhanding ?_ ?_ ?_ ?_ <;>
        simp [Hal.workerStep, Hal.marks, hworker, submittedOps, begunOps, Hal.inFlight,
          WorkerPoint.activity]
    | some work =>
      obtain ⟨op, function⟩ := work
      refine ⟨hpausing, hhanding, ?_, ?_⟩
      · have horder := h.order
        simp [Hal.workerStep, Hal.marks, hworker, submittedOps, begunOps, Hal.inFlight] at horder ⊢
        exact horder
      · rw [activity_append, h.activity]
        simp [Hal.workerStep, Hal.marks, hworker, WorkerPoint.activity, Activity.next]
  | running op task =>
    refine h.append hpausing hhanding ?_ ?_ ?_ ?_ <;>
      cases hreturned : task.isReturned <;>
      simp [Hal.workerStep, Hal.marks, hworker, hreturned, submittedOps, begunOps, Hal.inFlight,
        WorkerPoint.activity, Activity.next]
  | finishing =>
    refine h.append hpausing hhanding ?_ ?_ ?_ ?_ <;>
      by_cases hdefault : s.requested = .resume ∧ s.hasDefaultWork = true <;>
      simp [Hal.workerStep, Hal.marks, hworker, hdefault, submittedOps, begunOps, Hal.inFlight,
        WorkerPoint.activity, Activity.next]
  | navigating =>
    refine h.append hpausing hhanding ?_ ?_ ?_ ?_ <;>
      by_cases hret : answer.ret = 0 <;>
      simp [Hal.workerStep, Hal.marks, hworker, hret, submittedOps, begunOps, Hal.inFlight,
        WorkerPoint.activity, Activity.next]

theorem HandoffInvariant.client (h : HandoffInvariant trace s) (hpausing : Pausing s')
    (hhanding : Handing s') (hworker : s'.worker = s.worker)
    (hwork : s'.threadWork = s.threadWork) : HandoffInvariant (trace ++ []) s' := by
  refine h.append hpausing hhanding rfl rfl ?_ ?_
  · rw [Hal.inFlight, Hal.inFlight, hworker, hwork]
  · rw [hworker]
    rfl

theorem callBody_threadWork (s : Hal) (call : Call) : (s.callBody call).threadWork.map Prod.fst =
      if call.submits then some s.nextOp else s.threadWork.map Prod.fst := by
  cases call <;> rfl

theorem HandoffInvariant.clientStep (h : HandoffInvariant trace s) :
    HandoffInvariant (trace ++ s.marks .client) s.clientStep.2 := by
  have hpausing := h.pausing.clientStep
  have hhanding := h.handing.clientStep h.pausing
  cases hcall : s.call with
  | none =>
    simp only [Hal.marks, Hal.clientStep, hcall, List.append_nil]
    exact h
  | some current =>
    obtain ⟨call, point⟩ := current
    have hpoint : s.point = some point := by rw [Hal.point, hcall]; rfl
    cases point with
    | body =>
      -- the worker is parked and has left nothing behind, so the new task is the only one
      have hpark := (h.pausing.paused (by rw [hpoint]; rfl)).1
      have hnone : s.threadWork = none := by
        by_contra hwork
        rcases h.handing.work (Option.isSome_iff_ne_none.mpr hwork) with hp | ⟨hp, -⟩ <;>
          simp [hpoint] at hp
      have hworker := (callBody_fields s call).1
      have hempty : ∀ s' : Hal, s'.worker = s.worker →
          s'.inFlight = (s'.threadWork.map Prod.fst).toList := by
        intro s' hs'
        unfold Hal.inFlight
        cases hw : s.worker <;> simp_all [WorkerPoint.isParked]
      have hbefore : submittedOps trace = begunOps trace := by
        simpa [hempty s rfl, hnone] using h.order
      refine ⟨hpausing, hhanding, ?_, ?_⟩
      · simp only [Hal.marks, Hal.clientStep, hcall]
        rw [hempty { s.callBody call with call := some (call, .resume) } hworker,
          callBody_threadWork, hnone, submittedOps_append, hbefore]
        cases call.submits <;> simp [submittedOps, begunOps]
      · rw [activity_append, h.activity]
        simp only [Hal.marks, Hal.clientStep, hcall, hworker]
        cases call.submits <;> rfl
    | canceling | setStop | pause | pausing | clearStop =>
      have hmarks : s.marks .client = [] := by simp only [Hal.marks, hcall]
      rw [hmarks]
      refine h.client hpausing hhanding ?_ ?_ <;> simp only [Hal.clientStep, hcall, Hal.awaitIdle]
    | resume | resuming =>
      have hmarks : s.marks .client = [] := by simp only [Hal.marks, hcall]
      rw [hmarks]
      refine h.client hpausing hhanding ?_ ?_ <;>
        simp only [Hal.clientStep, hcall, Hal.awaitResumed] <;> split <;> rfl

end

theorem handoffInvariant_step (cfg : FpConfig) (trace : List Mark) (s : Hal) (event : HalEvent)
    (h : HandoffInvariant trace s) :
    HandoffInvariant (trace ++ (s.watch cfg event).1) (s.watch cfg event).2 := by
  cases event with
  | enter call =>
    have hpausing := pausing_step cfg s (.enter call) h.pausing
    cases hcall : s.call with
    | none =>
      simp only [Hal.watch, Hal.marks, Hal.step, hcall] at hpausing ⊢
      exact h.client hpausing (h.handing.enter hcall) rfl rfl
    | some _ =>
      simp only [Hal.watch, Hal.marks, Hal.step, hcall, List.append_nil]
      exact h
  | client => exact h.clientStep
  | worker answer => exact h.workerStep answer

/-- The TA returns `ret` to the worker. -/
def returns (ret : Int) : HalEvent := .worker { ret := ret }

def lostTaskEvents : List HalEvent :=
  [.enter (.authenticate 1 0), .client, .client, .client, .client, .client,
    .enter (.authenticate 2 0), .client, .client, .client, .client, .client,
    returns 0, returns 0]

theorem lostTaskEvents_trace (stop : Bool) (msessionId : Nat) (mgid mfid mtimeout : Int) :
    (run (Hal.watch plainConfig) (.start true stop msessionId mgid mfid mtimeout)
      lostTaskEvents).1 = [.submitted 0, .submitted 1, .begun 1] := by
  simp [lostTaskEvents, run, Hal.start, Hal.watch, Hal.marks, Hal.step, Hal.firstPoint,
    Hal.clientStep, Hal.awaitIdle, Hal.callBody, Hal.setThreadTask, Hal.awaitResumed, returns,
    Hal.workerStep, Hal.awake, Call.submits]

/-- Tasks begin exactly once, if and only if `resumed` is false at first. -/
theorem halRun_exactlyOnce_iff (resumed stop : Bool) (msessionId : Nat)
    (mgid mfid mtimeout : Int) :
    (∀ (cfg : FpConfig) (events : List HalEvent),
      let next := run (Hal.watch cfg) (.start resumed stop msessionId mgid mfid mtimeout) events
      ExactlyOnce next.1 next.2) ↔ resumed = false := by
  constructor
  · intro h
    cases resumed with
    | false => rfl
    | true =>
      have horder := (h plainConfig lostTaskEvents).order
      rw [lostTaskEvents_trace] at horder
      simp [submittedOps, begunOps] at horder
  · rintro rfl cfg events
    have hstart : HandoffInvariant [] (.start false stop msessionId mgid mfid mtimeout) :=
      ⟨pausing_start,
        ⟨by rintro ⟨⟩, by rintro _ ⟨⟩, by rintro ⟨⟩, by rintro ⟨⟩, by rintro ⟨⟩⟩, rfl, rfl⟩
    exact HandoffInvariant.exactlyOnce (run_invariant_all (handoffInvariant_step cfg) hstart)

theorem lostTaskEvents_not_exactlyOnce : ¬ExactlyOnce
      (run (Hal.watch plainConfig) (.start true false 0 0 0 0) lostTaskEvents).1
      (run (Hal.watch plainConfig) (.start true false 0 0 0 0) lostTaskEvents).2 := by
  intro h
  have horder := h.order
  rw [lostTaskEvents_trace] at horder
  simp [submittedOps, begunOps] at horder

end WikoPlatform.Chipone
