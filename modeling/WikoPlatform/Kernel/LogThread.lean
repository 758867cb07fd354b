import WikoPlatform.Lib.Runs

/-! The thread of `fp_drv.c` that puts out the log of the trusted zone. The worker ends by itself
when it finds a flag unset, and the starter sets the flag only after it has woken the worker up. -/

namespace WikoPlatform.Kernel.LogThread

open Runs

/-- `err` is an `ERR_PTR`. -/
inductive TaskPtr where
  | null | err | task
  deriving DecidableEq

/-- The worker has been created, is before `kthread_should_stop`, before the test of the flags, or
has returned. -/
inductive WorkerPoint where
  | absent | created | testing | looking | exited
  deriving DecidableEq

/-- The caller is in no ioctl, behind `wake_up_process`, before `kthread_stop`, or waits in it. -/
inductive CallerPoint where
  | idle | woken | stopping | joining
  deriving DecidableEq

/-- `due` is only known to the specification: an enable ioctl has woken the worker up, and no
disable has come since. -/
structure World where
  fpTlogOutputTask : TaskPtr
  isTzLogEnable : Bool
  dispQseeLogStats : Bool
  worker : WorkerPoint
  shouldStop : Bool
  caller : CallerPoint
  due : Bool

def start (dispQseeLogStats : Bool) : World :=
  ⟨.null, false, dispQseeLogStats, .absent, false, .idle, false⟩

inductive Event where
  -- the ioctls, with what `kthread_create` and `sched_setscheduler` give
  | enable (created : Bool) (sched : Int)
  | disable
  | caller
  | worker
  -- `fp_disp_qsee_log_stats` is set by another driver
  | register (dispQseeLogStats : Bool)

/-- A call of `kthread_stop`, and whether its task was created and has not exited. -/
structure KthreadStop where
  live : Bool
  deriving DecidableEq

namespace World

def startFpTzLogOutputTask (w : World) (created : Bool) (sched : Int) : World :=
  if w.fpTlogOutputTask ≠ .null then w
  else if created = false then { w with fpTlogOutputTask := .err }
  else if sched = -1 then
    { w with fpTlogOutputTask := .task, worker := .created, shouldStop := false }
  else
    { w with
      fpTlogOutputTask := .task, worker := .testing, shouldStop := false, caller := .woken }

def stopFpTzLogOutputTask (w : World) : World :=
  if w.fpTlogOutputTask = .null then w
  else { w with isTzLogEnable := false, caller := .stopping, due := false }

/-- A task not woken up exits without running its function. -/
def kthreadStop (w : World) : List KthreadStop × World :=
  if w.fpTlogOutputTask = .task ∧ w.worker ≠ .exited then
    ([⟨true⟩], { w with
      shouldStop := true, caller := .joining
      worker := if w.worker = .created then .exited else w.worker })
  else ([⟨false⟩], { w with fpTlogOutputTask := .null, caller := .idle })

def callerStep (w : World) : List KthreadStop × World :=
  match w.caller with
  | .idle => ([], w)
  | .woken => ([], { w with isTzLogEnable := true, caller := .idle, due := true })
  | .stopping => w.kthreadStop
  | .joining =>
    if w.worker = .exited then ([], { w with fpTlogOutputTask := .null, caller := .idle })
    else ([], w)

def fpTlogWorker (w : World) : World :=
  match w.worker with
  | .testing => { w with worker := if w.shouldStop then .exited else .looking }
  | .looking =>
    { w with worker := if w.dispQseeLogStats && w.isTzLogEnable then .testing else .exited }
  | _ => w

def step (w : World) : Event → List KthreadStop × World
  | .enable created sched =>
    ([], if w.caller = .idle then w.startFpTzLogOutputTask created sched else w)
  | .disable => ([], if w.caller = .idle then w.stopFpTzLogOutputTask else w)
  | .caller => w.callerStep
  | .worker => ([], w.fpTlogWorker)
  | .register dispQseeLogStats => ([], { w with dispQseeLogStats })

def Runs (w : World) : Prop := w.worker = .testing ∨ w.worker = .looking

/-- No disable meets an `ERR_PTR`, and the worker finds the flags settled. -/
def Timely (w : World) : Event → Prop
  | .disable => w.caller = .idle → w.fpTlogOutputTask ≠ .err
  | .worker => w.worker = .looking →
    w.caller ≠ .woken ∧ w.caller ≠ .stopping ∧ (w.caller = .idle → w.dispQseeLogStats = true)
  | _ => True

/-- What holds in every order of the steps. -/
structure Wf (w : World) : Prop where
  stopping : w.caller = .stopping → w.fpTlogOutputTask ≠ .null
  busy : w.caller ≠ .idle → w.caller ≠ .stopping → w.fpTlogOutputTask = .task
  task : w.fpTlogOutputTask = .task → w.worker ≠ .absent
  alive : w.worker = .created ∨ w.Runs → w.fpTlogOutputTask = .task
  woken : w.caller = .woken → w.worker ≠ .created
  stop : w.Runs → (w.shouldStop = true ↔ w.caller = .joining)
  flag : w.isTzLogEnable = w.due
  due : w.due = true ↔ w.fpTlogOutputTask = .task ∧ w.caller = .idle ∧ w.worker ≠ .created

/-- The next `kthread_stop` meets an `ERR_PTR`, or no worker. -/
def Doomed (w : World) : Prop :=
  w.fpTlogOutputTask = .err ∧ w.caller = .stopping ∨
    w.fpTlogOutputTask = .task ∧ w.worker = .exited ∧ w.caller ≠ .joining

variable {w : World}

theorem start_wf (dispQseeLogStats : Bool) : (start dispQseeLogStats).Wf := by
  constructor <;> simp [start, Runs]

theorem start_spec (h : w.Wf) (hidle : w.caller = .idle) (created : Bool) (sched : Int) :
    (w.startFpTzLogOutputTask created sched).Wf ∧
      ((w.startFpTzLogOutputTask created sched).Doomed ↔ w.Doomed) := by
  unfold startFpTzLogOutputTask
  split_ifs with htask
  · exact ⟨h, .rfl⟩
  all_goals
    refine ⟨?_, ?_⟩
    · constructor <;> grind [Runs, Wf]
    · grind [Doomed]

theorem stop_spec (h : w.Wf) (hidle : w.caller = .idle) : w.stopFpTzLogOutputTask.Wf ∧
      (w.stopFpTzLogOutputTask.Doomed ↔ w.Doomed ∨ w.fpTlogOutputTask = .err) := by
  unfold stopFpTzLogOutputTask
  split_ifs with htask
  · exact ⟨h, by grind [Doomed]⟩
  · refine ⟨?_, ?_⟩
    · constructor <;> grind [Runs, Wf]
    · grind [Doomed]

theorem kthreadStop_spec (h : w.Wf) (hstop : w.caller = .stopping) :
    w.kthreadStop.2.Wf ∧ w.kthreadStop.2.caller ≠ .woken ∧ w.kthreadStop.2.caller ≠ .stopping ∧
      ((∀ o ∈ w.kthreadStop.1, o.live = true) ∧ ¬w.kthreadStop.2.Doomed ↔ ¬w.Doomed) := by
  unfold kthreadStop
  by_cases hlive : w.fpTlogOutputTask = .task ∧ w.worker ≠ .exited
  · rw [if_pos hlive]
    refine ⟨?_, by simp, by simp, by simp [Doomed, hlive]⟩
    constructor <;> grind [Runs, Wf]
  · rw [if_neg hlive]
    refine ⟨?_, by simp, by simp, ?_⟩
    · constructor <;> grind [Runs, Wf]
    · have htask := h.stopping hstop
      cases hptr : w.fpTlogOutputTask <;> simp_all [Doomed]

theorem callerStep_spec (h : w.Wf) :
    w.callerStep.2.Wf ∧ w.callerStep.2.caller ≠ .woken ∧ w.callerStep.2.caller ≠ .stopping ∧
      ((∀ o ∈ w.callerStep.1, o.live = true) ∧ ¬w.callerStep.2.Doomed ↔ ¬w.Doomed) := by
  unfold callerStep
  split
  next hidle => simp [h, hidle]
  next hwoken =>
    refine ⟨?_, by simp, by simp, by simp [Doomed, hwoken]⟩
    constructor <;> grind [Runs, Wf]
  next hstop => exact kthreadStop_spec h hstop
  next hjoin =>
    split_ifs with hexit
    · refine ⟨?_, by simp, by simp, by simp [Doomed, hjoin]⟩
      constructor <;> grind [Runs, Wf]
    · simp [h, hjoin]

theorem not_doomed_iff (h : w.Wf) (hwoken : w.caller ≠ .woken) (hstop : w.caller ≠ .stopping) :
    ¬w.Doomed ↔ (w.due = true → w.Runs) := by
  have habsent := h.task
  rw [h.due]
  cases hworker : w.worker <;> cases hcaller : w.caller <;> simp_all [Doomed, Runs]

theorem worker_spec (h : w.Wf) :
    w.fpTlogWorker.Wf ∧ (w.fpTlogWorker.Doomed ↔ w.Doomed ∨ ¬w.Timely .worker) := by
  unfold fpTlogWorker
  split
  next htest =>
    refine ⟨?_, ?_⟩
    · constructor <;> grind [Runs, Wf]
    · grind [Runs, Wf, Doomed, Timely]
  next hlooking =>
    refine ⟨?_, ?_⟩
    · constructor <;> grind [Runs, Wf]
    -- the flag is set exactly between the ioctls
    · have htask := h.alive (.inr (.inr hlooking))
      have hflag := h.flag
      have hdue := h.due
      cases hcaller : w.caller <;> cases hstats : w.dispQseeLogStats <;>
        simp_all [Doomed, Timely]
  next => exact ⟨h, by grind [Timely]⟩

theorem step_spec (h : w.Wf) (e : Event) : (w.step e).2.Wf ∧
      (((∀ o ∈ (w.step e).1, o.live = true) ∧ ¬(w.step e).2.Doomed) ↔ ¬w.Doomed ∧ w.Timely e) := by
  cases e with
  | enable created sched =>
    by_cases hidle : w.caller = .idle
    · obtain ⟨hwf, hdoom⟩ := start_spec h hidle created sched
      simp [step, hidle, hwf, hdoom, Timely]
    · simp [step, hidle, h, Timely]
  | disable =>
    by_cases hidle : w.caller = .idle
    · obtain ⟨hwf, hdoom⟩ := stop_spec h hidle
      simp [step, hidle, hwf, hdoom, Timely]
    · simp [step, hidle, h, Timely]
  | caller =>
    obtain ⟨hwf, -, -, hdoom⟩ := callerStep_spec h
    exact ⟨hwf, hdoom.trans (by simp [Timely])⟩
  | worker =>
    obtain ⟨hwf, hdoom⟩ := worker_spec h
    simp [step, hwf, hdoom]
  | register => exact ⟨{ h with }, by simp [step, Doomed, Timely]⟩

end World

/-- `kthread_stop` meets live tasks only, and an enabled worker runs. -/
def Sound (dispQseeLogStats : Bool) (events : List Event) : Prop :=
  let (stops, w) := run World.step (start dispQseeLogStats) (events ++ [.caller])
  (∀ stop ∈ stops, stop.live = true) ∧ (w.due = true → w.Runs)

/-- Sound exactly in a timely run. -/
theorem logThread_sound_iff (dispQseeLogStats : Bool) (events : List Event) :
    Sound dispQseeLogStats events ↔
      Meets World.step World.Timely (start dispQseeLogStats) events := by
  let P (trace : List KthreadStop) (w : World) : Prop := (∀ o ∈ trace, o.live = true) ∧ ¬w.Doomed
  have hstep : ∀ trace w e, w.Wf → (w.step e).2.Wf ∧
      (P (trace ++ (w.step e).1) (w.step e).2 ↔ P trace w ∧ w.Timely e) := by
    intro trace w e h
    obtain ⟨hwf, hdoom⟩ := World.step_spec h e
    refine ⟨hwf, ?_⟩
    simp only [P, List.forall_mem_append, and_assoc, hdoom]
  have hrun : P ([] ++ (run World.step (start dispQseeLogStats) events).1)
      (run World.step (start dispQseeLogStats) events).2 ↔ P [] (start dispQseeLogStats) ∧
        Meets World.step World.Timely (start dispQseeLogStats) events :=
    run_iff_and_meets hstep events (World.start_wf dispQseeLogStats)
  have hstart : P [] (start dispQseeLogStats) := ⟨by simp, by simp [World.Doomed, start]⟩
  rw [List.nil_append, and_iff_right hstart] at hrun
  have hwf : (run World.step (start dispQseeLogStats) events).2.Wf :=
    run_invariant_state (P := World.Wf) (fun _ e h => (World.step_spec h e).1)
      (World.start_wf _) events
  rw [← hrun, Sound, run_append]
  generalize run World.step (start dispQseeLogStats) events = result at hwf ⊢
  obtain ⟨stops, w⟩ := result
  obtain ⟨hwf', hwoken, hstop, hdoom⟩ := World.callerStep_spec hwf
  simp only [run, World.step, List.append_nil, List.forall_mem_append, P, and_assoc,
    ← World.not_doomed_iff hwf' hwoken hstop, hdoom]

def earlyLook : List Event := [.enable true 0, .worker, .worker, .caller]

theorem logThread_not_sound : (run World.step (start true) earlyLook).2.due = true ∧
      (run World.step (start true) earlyLook).2.worker = .exited ∧
      (run World.step (start true) (earlyLook ++ [.disable, .caller])).1 = [⟨false⟩] ∧
      (run World.step (start true) [.enable true 0, .caller, .worker, .disable, .worker,
        .caller]).1 = [⟨false⟩] ∧
      (run World.step (start false) [.enable true 0, .caller, .worker, .worker, .disable,
        .caller]).1 = [⟨false⟩] ∧
      (run World.step (start true) [.enable false 0, .disable, .caller]).1 = [⟨false⟩] := by
  decide

end WikoPlatform.Kernel.LogThread
