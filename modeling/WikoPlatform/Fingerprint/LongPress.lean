import Mathlib.Logic.Function.Basic
import WikoPlatform.Lib.Runs

/-! Long presses in `FingerprintEventReport.parseKeyEvents`. A finger that goes up cancels the timer
that `mTimer` then points to. The threads of the timers and the thread of the events go on one
access of `mTimer` at a time. -/

namespace WikoPlatform.Fingerprint.LongPress

open Runs

inductive TimerPoint where
  | absent
  | fresh
  | waiting
  /-- `if (mTimer != null)`. -/
  | test
  /-- `mTimer.cancel()`. -/
  | cancel
  /-- `mTimer = null`. -/
  | clear
  /-- `go_go_go(SW_EVT_LONG_PRESS)`. -/
  | send
  | ended
  deriving DecidableEq

inductive EventPoint where
  | idle
  /-- `mTimer.schedule`. -/
  | schedule
  /-- `mTimer.cancel()`. -/
  | cancel (quick : Bool)
  /-- `mTimer = null`. -/
  | clear (quick : Bool)
  /-- An exception has ended it. -/
  | dead
  deriving DecidableEq

structure Report where
  mTimer : Option Nat
  created : Nat
  timers : Nat → TimerPoint
  point : EventPoint

def start : Report := ⟨none, 0, fun _ => .absent, .idle⟩

/-- `quick` says that the finger was down for less than `FINGER_CLICK_TIME`. -/
inductive KeyInput where
  | down
  | up (quick : Bool)
  | goOn
  | timer (t : Nat)

inductive KeyOutput where
  /-- The event has started this timer. -/
  | down (t : Nat)
  /-- The event has been processed, with `SW_EVT_GO_BACK` if it was quick. -/
  | up (quick : Bool)
  | longPress (t : Nat)
  deriving DecidableEq

namespace Report

def moveTimer (s : Report) (t : Nat) (point : TimerPoint) : Report :=
  { s with timers := Function.update s.timers t point }

/-- `Timer.cancel` discards a task that waits. -/
def cancelTimer (s : Report) (t : Nat) : Report :=
  match s.timers t with
  | .fresh | .waiting => s.moveTimer t .ended
  | _ => s

def timerStep (s : Report) (t : Nat) : List KeyOutput × Report :=
  match s.timers t with
  | .waiting => ([], s.moveTimer t .test)
  | .test => ([], s.moveTimer t (if s.mTimer = none then .send else .cancel))
  | .cancel =>
    match s.mTimer with
    | none => ([], s.moveTimer t .ended)
    | some u => ([], (s.cancelTimer u).moveTimer t .clear)
  | .clear => ([], { s.moveTimer t .send with mTimer := none })
  | .send => ([.longPress t], s.moveTimer t .ended)
  | .absent | .fresh | .ended => ([], s)

/-- A timer that has been cancelled takes no task. -/
def scheduleStep (s : Report) : List KeyOutput × Report :=
  match s.mTimer with
  | none => ([], { s with point := .dead })
  | some t =>
    if s.timers t = .fresh then ([], { s.moveTimer t .waiting with point := .idle })
    else ([], { s with point := .dead })

def goOn (s : Report) : List KeyOutput × Report :=
  match s.point with
  | .schedule => s.scheduleStep
  | .cancel quick =>
    match s.mTimer with
    | none => ([], { s with point := .dead })
    | some t => ([], { s.cancelTimer t with point := .clear quick })
  | .clear quick => ([.up quick], { s with mTimer := none, point := .idle })
  | .idle | .dead => ([], s)

def step (s : Report) : KeyInput → List KeyOutput × Report
  | .down =>
    if s.point = .idle then
      ([.down s.created],
        { s.moveTimer s.created .fresh with
          mTimer := some s.created, created := s.created + 1, point := .schedule })
    else ([], s)
  | .up quick =>
    if s.point = .idle then
      if s.mTimer = none then ([.up quick], s)
      else ([], { s with point := .cancel quick })
    else ([], s)
  | .goOn => s.goOn
  | .timer t => s.timerStep t

end Report

def released (trace : List KeyOutput) : Bool :=
  trace.foldl (fun before o => match o with
    | .down _ => false
    | .up _ => true
    | .longPress _ => before) false

/-- No long press comes after an up and before the next down. -/
def NoneLate (trace : List KeyOutput) : Prop :=
  Justified (fun before o => ∀ t, o = .longPress t → released before = false) trace

/-- So it is however the timers go on. -/
def Quiet (inputs : List KeyInput) : Prop :=
  ∀ n (more : List Nat),
    NoneLate (run Report.step start (inputs.take n ++ more.map KeyInput.timer)).1

def OncePerDown (inputs : List KeyInput) : Prop :=
  ∀ t, (run Report.step start inputs).1.count (.longPress t) ≤ 1

def TimerPoint.live : TimerPoint → Bool
  | .waiting | .test | .clear | .send => true
  | _ => false

/-- The timer waits, but `mTimer` holds another or null. -/
def Report.Dropped (s : Report) (t : Nat) : Prop := s.timers t = .waiting ∧ s.mTimer ≠ some t

/-- The task has begun, which `Timer.cancel` does not stop. -/
def Report.Begun (s : Report) (t : Nat) : Prop :=
  s.timers t = .test ∨ s.timers t = .clear ∨ s.timers t = .send

/-- An up ends with no timer dropped and none begun. -/
def UpStops (s : Report) : KeyInput → Prop
  | .up _ => s.point = .idle → s.mTimer = none → ∀ t, ¬s.Dropped t ∧ ¬s.Begun t
  | .goOn => ∀ quick, s.point = .clear quick → ∀ t, ¬s.Dropped t ∧ ¬s.Begun t
  | _ => True

/-- A processed up leaves no timer that could still send. -/
def UpSilences (s : Report) (i : KeyInput) : Prop :=
  ∀ quick, .up quick ∈ (s.step i).1 → ∀ t, ((s.step i).2.timers t).live = false

theorem released_snoc (trace : List KeyOutput) (o : KeyOutput) :
    released (trace ++ [o]) = match o with
      | .down _ => false
      | .up _ => true
      | .longPress _ => released trace := by
  simp only [released, List.foldl_append, List.foldl_cons, List.foldl_nil]

theorem moveTimer_self (s : Report) (t : Nat) (point : TimerPoint) :
    (s.moveTimer t point).timers t = point :=
  Function.update_self ..

variable {t : Nat} {s : Report} {inputs : List KeyInput}

theorem moveTimer_of_ne {u : Nat} (h : u ≠ t) (s : Report) (point : TimerPoint) :
    (s.moveTimer t point).timers u = s.timers u :=
  Function.update_of_ne h ..

structure Stopped (s : Report) : Prop where
  point : s.point = .idle
  mTimer : s.mTimer = none
  live : ∀ t, (s.timers t).live = false

structure Kept (trace : List KeyOutput) (s : Report) : Prop where
  noneLate : NoneLate trace
  stopped : released trace = true → Stopped s

section

variable {trace : List KeyOutput} {s s' : Report}

theorem Kept.silent (h : Kept trace s) (hstop : Stopped s → Stopped s') :
    Kept (trace ++ []) s' := by
  rw [List.append_nil]
  exact ⟨h.noneLate, fun hrelease => hstop (h.stopped hrelease)⟩

theorem Kept.down (h : Kept trace s) (t : Nat) : Kept (trace ++ [.down t]) s' := by
  refine ⟨h.noneLate.snoc (by simp), ?_⟩
  rw [released_snoc]
  simp

theorem Kept.up (h : Kept trace s) (quick : Bool) (hstop : Stopped s') :
    Kept (trace ++ [.up quick]) s' :=
  ⟨h.noneLate.snoc (by simp), fun _ => hstop⟩

theorem Kept.longPress (h : Kept trace s) (hlive : ¬Stopped s) (t : Nat) :
    Kept (trace ++ [.longPress t]) s' := by
  have hheld : released trace = false := by
    rw [Bool.eq_false_iff]
    exact fun hrelease => hlive (h.stopped hrelease)
  refine ⟨h.noneLate.snoc fun _ _ => hheld, ?_⟩
  rw [released_snoc, hheld]
  simp

theorem Stopped.moveTimer (h : Stopped s) (t : Nat) {point : TimerPoint}
    (hpoint : point.live = false) : Stopped (s.moveTimer t point) := by
  refine ⟨h.point, h.mTimer, fun u => ?_⟩
  by_cases hu : u = t
  · rw [hu, moveTimer_self]
    exact hpoint
  · rw [moveTimer_of_ne hu]
    exact h.live u

theorem not_stopped_of_live {t : Nat} (h : (s.timers t).live = true) : ¬Stopped s := by
  intro hstop
  simp [hstop.live t] at h

theorem kept_timerStep (h : Kept trace s) (t : Nat) :
    Kept (trace ++ (s.timerStep t).1) (s.timerStep t).2 := by
  unfold Report.timerStep
  cases hpoint : s.timers t with
  | waiting | test | clear =>
    exact h.silent fun hstop => absurd hstop (not_stopped_of_live (by rw [hpoint]; rfl))
  | send => exact h.longPress (not_stopped_of_live (by rw [hpoint]; rfl)) t
  | cancel =>
    cases hmTimer : s.mTimer with
    | none => exact h.silent fun hstop => hstop.moveTimer t rfl
    | some u => exact h.silent fun hstop => by simp [hstop.mTimer] at hmTimer
  | absent | fresh | ended => exact h.silent id

theorem kept_goOn (h : Kept trace s) (hstops : UpSilences s .goOn) :
    Kept (trace ++ s.goOn.1) s.goOn.2 := by
  by_cases hidle : s.point = .idle
  · unfold Report.goOn
    rw [hidle]
    exact h.silent id
  have hbusy : ∀ {s'}, Stopped s → Stopped s' :=
    fun hstop => absurd hstop.point hidle
  unfold UpSilences Report.step at hstops
  unfold Report.goOn at hstops ⊢
  cases hpoint : s.point with
  | idle => exact absurd hpoint hidle
  | dead => exact h.silent id
  | schedule =>
    unfold Report.scheduleStep
    cases s.mTimer with
    | none => exact h.silent hbusy
    | some t =>
      dsimp only
      by_cases hfresh : s.timers t = .fresh
      · rw [if_pos hfresh]
        exact h.silent hbusy
      · rw [if_neg hfresh]
        exact h.silent hbusy
  | cancel quick => cases s.mTimer <;> exact h.silent hbusy
  | clear quick =>
    rw [hpoint] at hstops
    exact h.up quick ⟨rfl, rfl, hstops quick (List.mem_singleton_self _)⟩

theorem kept_step (trace : List KeyOutput) (s : Report) (i : KeyInput) (h : Kept trace s)
    (hstops : UpSilences s i) : Kept (trace ++ (s.step i).1) (s.step i).2 := by
  cases i with
  | down =>
    by_cases hidle : s.point = .idle
    · rw [Report.step, if_pos hidle]
      exact h.down _
    · rw [Report.step, if_neg hidle]
      exact h.silent id
  | up quick =>
    unfold UpSilences at hstops
    by_cases hidle : s.point = .idle
    · by_cases hnull : s.mTimer = none
      · rw [Report.step, if_pos hidle, if_pos hnull] at hstops ⊢
        exact h.up quick ⟨hidle, hnull, hstops quick (List.mem_singleton_self _)⟩
      · rw [Report.step, if_pos hidle, if_neg hnull]
        exact h.silent fun hstop => absurd hstop.mTimer hnull
    · rw [Report.step, if_neg hidle]
      exact h.silent id
  | goOn => exact kept_goOn h hstops
  | timer t => exact kept_timerStep h t

end

/-- A timer that has sent is at its end, and timers still to come have not begun. -/
structure Counted (trace : List KeyOutput) (s : Report) : Prop where
  sent : ∀ t, trace.count (.longPress t) ≤ if s.timers t = .ended then 1 else 0
  absent : ∀ t, s.created ≤ t → s.timers t = .absent

section

variable {trace out : List KeyOutput} {s s' : Report} {t : Nat}

theorem Counted.silent (h : Counted trace s) (hout : ∀ t, .longPress t ∉ out)
    (hended : ∀ t, s.timers t = .ended → s'.timers t = .ended)
    (habsent : ∀ t, s'.created ≤ t → s'.timers t = .absent) : Counted (trace ++ out) s' := by
  refine ⟨fun t => ?_, habsent⟩
  rw [List.count_append, List.count_eq_zero.mpr (hout t)]
  refine Nat.le_trans (h.sent t) ?_
  by_cases hpoint : s.timers t = .ended
  · exact Nat.le_of_eq (by rw [if_pos hpoint, if_pos (hended t hpoint)])
  · rw [if_neg hpoint]
    exact Nat.zero_le _

theorem Counted.unmoved (h : Counted trace s) (htimers : s'.timers = s.timers)
    (hcreate : s'.created = s.created) (hout : ∀ t, .longPress t ∉ out) :
    Counted (trace ++ out) s' :=
  h.silent hout (fun t ht => by rw [htimers, ht]) fun t ht => by
    rw [htimers]
    exact h.absent t (hcreate ▸ ht)

theorem Counted.same (h : Counted trace s) (htimers : s'.timers = s.timers)
    (hcreate : s'.created = s.created) : Counted (trace ++ []) s' :=
  h.unmoved htimers hcreate (by simp)

theorem Counted.up (h : Counted trace s) (htimers : s'.timers = s.timers)
    (hcreate : s'.created = s.created) (quick : Bool) : Counted (trace ++ [.up quick]) s' :=
  h.unmoved htimers hcreate (by simp)

theorem Counted.moveTimer (h : Counted trace s) {old : TimerPoint} (hold : s.timers t = old)
    (hended : old ≠ .ended) (hbegun : old ≠ .absent) (point : TimerPoint) :
    Counted trace (s.moveTimer t point) := by
  rw [← List.append_nil trace]
  refine h.silent (by simp) (fun u hu => ?_) fun u hu => ?_
  · have hne : u ≠ t := by
      rintro rfl
      exact hended (hold.symm.trans hu)
    rw [moveTimer_of_ne hne]
    exact hu
  · have habsent := h.absent u hu
    have hne : u ≠ t := by
      rintro rfl
      exact hbegun (hold.symm.trans habsent)
    rw [moveTimer_of_ne hne]
    exact habsent

theorem Counted.cancelTimer (h : Counted trace s) (t : Nat) : Counted trace (s.cancelTimer t) := by
  unfold Report.cancelTimer
  cases hpoint : s.timers t with
  | fresh | waiting => exact h.moveTimer hpoint (by decide) (by decide) .ended
  | _ => exact h

theorem cancelTimer_of_begun (h : s.timers t = .cancel) (u : Nat) :
    (s.cancelTimer u).timers t = .cancel := by
  unfold Report.cancelTimer
  cases hpoint : s.timers u with
  | fresh | waiting =>
    have hne : t ≠ u := fun htu => by simp [htu, hpoint] at h
    rw [moveTimer_of_ne hne, h]
  | _ => exact h

section

variable (h : Counted trace s)
include h

theorem Counted.longPress (hsend : s.timers t = .send) :
    Counted (trace ++ [.longPress t]) (s.moveTimer t .ended) := by
  have hmoved := h.moveTimer hsend (by decide) (by decide) .ended
  refine ⟨fun u => ?_, hmoved.absent⟩
  by_cases hu : u = t
  · have hnone := h.sent t
    rw [hsend] at hnone
    rw [hu, moveTimer_self]
    simpa using hnone
  · have hold := hmoved.sent u
    have hne : KeyOutput.longPress t ≠ .longPress u :=
      fun heq => hu (KeyOutput.longPress.inj heq).symm
    simpa [hne] using hold

theorem counted_timerStep (t : Nat) : Counted (trace ++ (s.timerStep t).1) (s.timerStep t).2 := by
  unfold Report.timerStep
  cases hpoint : s.timers t with
  | absent | fresh | ended => simpa using h
  | waiting | test =>
    simpa using h.moveTimer hpoint (by decide) (by decide) _
  | clear =>
    exact (h.moveTimer hpoint (by decide) (by decide) .send).same rfl rfl
  | send => exact h.longPress hpoint
  | cancel =>
    cases s.mTimer with
    | none => simpa using h.moveTimer hpoint (by decide) (by decide) .ended
    | some u =>
      have hbegun := cancelTimer_of_begun hpoint u
      simpa using (h.cancelTimer u).moveTimer hbegun (by decide) (by decide) .clear

theorem counted_goOn : Counted (trace ++ s.goOn.1) s.goOn.2 := by
  unfold Report.goOn
  cases s.point with
  | idle | dead => simpa using h
  | clear quick =>
    refine h.up ?_ ?_ quick <;> rfl
  | cancel quick =>
    cases s.mTimer with
    | none => exact h.same rfl rfl
    | some t => exact (h.cancelTimer t).same rfl rfl
  | schedule =>
    unfold Report.scheduleStep
    cases s.mTimer with
    | none => exact h.same rfl rfl
    | some t =>
      dsimp only
      by_cases hfresh : s.timers t = .fresh
      · rw [if_pos hfresh]
        exact (h.moveTimer hfresh (by decide) (by decide) .waiting).same rfl rfl
      · rw [if_neg hfresh]
        exact h.same rfl rfl

end

theorem counted_step (trace : List KeyOutput) (s : Report) (i : KeyInput) (h : Counted trace s) :
    Counted (trace ++ (s.step i).1) (s.step i).2 := by
  cases i with
  | down =>
    by_cases hidle : s.point = .idle
    · rw [Report.step, if_pos hidle]
      have habsent := h.absent s.created (Nat.le_refl _)
      refine h.silent (by simp) (fun t ht => ?_) fun t ht => ?_
      · have hne : t ≠ s.created := fun heq => by simp [heq, habsent] at ht
        exact (moveTimer_of_ne hne s .fresh).trans ht
      · have hne : t ≠ s.created := Nat.ne_of_gt ht
        exact (moveTimer_of_ne hne s .fresh).trans (h.absent t (Nat.le_of_lt ht))
    · rw [Report.step, if_neg hidle]
      simpa using h
  | up quick =>
    by_cases hidle : s.point = .idle
    · by_cases hnull : s.mTimer = none
      · rw [Report.step, if_pos hidle, if_pos hnull]
        exact h.up rfl rfl quick
      · rw [Report.step, if_pos hidle, if_neg hnull]
        exact h.same rfl rfl
    · rw [Report.step, if_neg hidle]
      exact h.same rfl rfl
  | goOn => exact counted_goOn h
  | timer t => exact counted_timerStep h t

end

theorem oncePerDown (inputs : List KeyInput) : OncePerDown inputs := by
  intro t
  have hstart : Counted [] start := ⟨fun _ => by simp, fun _ _ => rfl⟩
  have hend : Counted ([] ++ (run Report.step start inputs).1) (run Report.step start inputs).2 :=
    run_invariant_all counted_step hstart
  refine Nat.le_trans (hend.sent t) ?_
  split
  · exact Nat.le_refl 1
  · exact Nat.zero_le 1

theorem timer_sends (hnull : s.mTimer = none) (hlive : (s.timers t).live = true) :
    (run Report.step s ([t, t, t].map KeyInput.timer)).1 = [.longPress t] := by
  cases hpoint : s.timers t with
  | absent | fresh | cancel | ended => simp [hpoint, TimerPoint.live] at hlive
  | waiting | test | clear | send =>
    simp [run, Report.step, Report.timerStep, Report.moveTimer, hpoint, hnull]

theorem timerStep_no_up (s : Report) (t : Nat) (quick : Bool) : .up quick ∉ (s.timerStep t).1 := by
  unfold Report.timerStep
  cases s.timers t with
  | cancel => cases s.mTimer <;> exact List.not_mem_nil
  | send => simp
  | _ => exact List.not_mem_nil

theorem meets_timers (more : List Nat) :
    Meets Report.step UpSilences s (more.map KeyInput.timer) := by
  induction more generalizing s with
  | nil => trivial
  | cons t more ih =>
    refine ⟨fun quick hup => absurd hup (timerStep_no_up s t quick), ih⟩

theorem scheduleStep_silent (s : Report) : s.scheduleStep.1 = [] := by
  unfold Report.scheduleStep
  cases s.mTimer with
  | none => rfl
  | some t => by_cases hfresh : s.timers t = .fresh <;> simp [hfresh]

theorem up_mTimer {i : KeyInput} {quick : Bool} (h : .up quick ∈ (s.step i).1) :
    (s.step i).1 = [.up quick] ∧ (s.step i).2.mTimer = none := by
  cases i with
  | down => by_cases hidle : s.point = .idle <;> simp [Report.step, hidle] at h
  | up late =>
    by_cases hidle : s.point = .idle
    · by_cases hnull : s.mTimer = none
      · rw [Report.step, if_pos hidle, if_pos hnull, List.mem_singleton] at h
        rw [Report.step, if_pos hidle, if_pos hnull, h]
        exact ⟨rfl, hnull⟩
      · simp [Report.step, hidle, hnull] at h
    · simp [Report.step, hidle] at h
  | goOn =>
    unfold Report.step Report.goOn at h ⊢
    cases hpoint : s.point with
    | clear late =>
      rw [hpoint] at h
      rw [List.mem_singleton.mp h]
      exact ⟨rfl, rfl⟩
    | cancel late =>
      rw [hpoint] at h
      cases hnull : s.mTimer <;> rw [hnull] at h <;> exact absurd h List.not_mem_nil
    | schedule => simp [hpoint, scheduleStep_silent] at h
    | idle | dead => simp [hpoint] at h
  | timer t => exact absurd h (timerStep_no_up s t quick)

theorem quiet_of_meets (h : Meets Report.step UpSilences start inputs) : Quiet inputs := by
  intro n more
  have hstart : Kept [] start := ⟨.nil, by simp [released]⟩
  have hkept : Kept ([] ++ (run Report.step start (inputs.take n)).1)
      (run Report.step start (inputs.take n)).2 := run_invariant kept_step hstart (h.take n)
  have hmore := run_invariant kept_step hkept (meets_timers more)
  rw [run_append]
  exact hmore.noneLate

theorem meets_of_quiet (h : Quiet inputs) : Meets Report.step UpSilences start inputs := by
  rw [meets_iff_forall]
  rintro before i after rfl quick hup t
  by_contra hlive
  rw [Bool.not_eq_false] at hlive
  obtain ⟨hout, hnull⟩ := up_mTimer hup
  have hlate := h (before.length + 1) [t, t, t]
  have htake : (before ++ i :: after).take (before.length + 1) = before ++ [i] := by
    simp [List.take_append, List.take_of_length_le]
  rw [htake, run_append, run_append] at hlate
  simp only [run] at hlate
  rw [timer_sends hnull hlive, hout, NoneLate, Justified.snoc_iff] at hlate
  have hheld := hlate.2 t rfl
  simp [released_snoc] at hheld

/-- Behind the cancel, the timer of `mTimer` does not wait. -/
def Cancelled (s : Report) : Prop :=
  ∀ quick t, s.point = .clear quick → s.mTimer = some t → s.timers t ≠ .waiting

theorem timers_live_iff (s : Report) (t : Nat) (h : s.mTimer = some t → s.timers t ≠ .waiting) :
    (s.timers t).live = false ↔ ¬s.Dropped t ∧ ¬s.Begun t := by
  unfold Report.Dropped Report.Begun
  cases hpoint : s.timers t <;> simp_all [TimerPoint.live]

theorem upSilences_iff (h : Cancelled s) (i : KeyInput) : UpSilences s i ↔ UpStops s i := by
  unfold UpSilences
  cases i with
  | down =>
    refine iff_of_true (fun quick hup => ?_) trivial
    by_cases hidle : s.point = .idle <;> simp [Report.step, hidle] at hup
  | up late =>
    by_cases hidle : s.point = .idle
    · by_cases hnull : s.mTimer = none
      · have hlive := fun t => timers_live_iff s t (by simp [hnull])
        simp [Report.step, UpStops, hidle, hnull, hlive]
      · simp [Report.step, UpStops, hidle, hnull]
    · simp [Report.step, UpStops, hidle]
  | goOn =>
    unfold Report.step Report.goOn UpStops
    cases hpoint : s.point with
    | clear late =>
      have hlive := fun t => timers_live_iff s t (h late t hpoint)
      simp [hlive]
    | cancel late => cases s.mTimer <;> simp
    | schedule => simp [scheduleStep_silent]
    | idle | dead => simp
  | timer t => exact iff_of_true (fun quick hup => absurd hup (timerStep_no_up s t quick)) trivial

theorem cancelTimer_keeps (s : Report) (t : Nat) :
    (s.cancelTimer t).mTimer = s.mTimer ∧ (s.cancelTimer t).point = s.point := by
  unfold Report.cancelTimer
  split <;> exact ⟨rfl, rfl⟩

theorem cancelTimer_waiting {u : Nat} (h : (s.cancelTimer t).timers u = .waiting) :
    s.timers u = .waiting ∧ u ≠ t := by
  unfold Report.cancelTimer at h
  by_cases hu : u = t
  · subst hu
    cases hpoint : s.timers u <;> simp [hpoint, moveTimer_self] at h
  · refine ⟨?_, hu⟩
    cases hpoint : s.timers t <;> simpa [hpoint, moveTimer_of_ne hu] using h

theorem moveTimer_waiting {u : Nat} {point : TimerPoint} (hpoint : point ≠ .waiting)
    (h : (s.moveTimer t point).timers u = .waiting) : s.timers u = .waiting := by
  by_cases hu : u = t
  · rw [hu, moveTimer_self] at h
    exact absurd h hpoint
  · rwa [moveTimer_of_ne hu] at h

theorem timerStep_keeps (s : Report) (t : Nat) : (s.timerStep t).2.point = s.point ∧
      ∀ u, (s.timerStep t).2.mTimer = some u → (s.timerStep t).2.timers u = .waiting →
        s.mTimer = some u ∧ s.timers u = .waiting := by
  have hmove : ∀ {point u}, point ≠ .waiting → (s.moveTimer t point).mTimer = some u →
      (s.moveTimer t point).timers u = .waiting → s.mTimer = some u ∧ s.timers u = .waiting :=
    fun hpoint hheld hwait => ⟨hheld, moveTimer_waiting hpoint hwait⟩
  unfold Report.timerStep
  cases s.timers t with
  | absent | fresh | ended => exact ⟨rfl, fun u hheld hwait => ⟨hheld, hwait⟩⟩
  | waiting | send => exact ⟨rfl, fun u => hmove (by decide)⟩
  | test => exact ⟨rfl, fun u => hmove (by split <;> decide)⟩
  | clear => exact ⟨rfl, by simp⟩
  | cancel =>
    cases hnull : s.mTimer with
    | none => exact ⟨rfl, fun u hheld => by simp [Report.moveTimer, hnull] at hheld⟩
    | some v =>
      have hkept := cancelTimer_keeps s v
      refine ⟨hkept.2, fun u hheld hwait => ?_⟩
      obtain ⟨hwaited, -⟩ := cancelTimer_waiting (moveTimer_waiting (by decide) hwait)
      exact ⟨hnull ▸ hkept.1 ▸ hheld, hwaited⟩

theorem cancelled_of_point (h : ∀ quick, s.point ≠ .clear quick) : Cancelled s :=
  fun quick _ hpoint => absurd hpoint (h quick)

theorem cancelled_goOn (s : Report) : Cancelled s.goOn.2 := by
  unfold Report.goOn
  cases hpoint : s.point with
  | idle | dead => exact cancelled_of_point (by simp [hpoint])
  | clear quick => exact cancelled_of_point (by simp)
  | schedule =>
    unfold Report.scheduleStep
    refine cancelled_of_point fun quick => ?_
    cases s.mTimer with
    | none => simp
    | some t => by_cases hfresh : s.timers t = .fresh <;> simp [hfresh]
  | cancel late =>
    cases hmTimer : s.mTimer with
    | none => exact cancelled_of_point (by simp)
    | some t =>
      intro quick u _ hheld hwait
      have hother := (cancelTimer_waiting hwait).2
      have hsame := (cancelTimer_keeps s t).1.trans hmTimer
      exact hother (Option.some_inj.mp (hheld.symm.trans hsame))

theorem cancelled_step (s : Report) (i : KeyInput) (h : Cancelled s) : Cancelled (s.step i).2 := by
  cases i with
  | down =>
    by_cases hidle : s.point = .idle
    · rw [Report.step, if_pos hidle]
      exact cancelled_of_point (by simp)
    · rwa [Report.step, if_neg hidle]
  | up late =>
    by_cases hidle : s.point = .idle
    · rw [Report.step, if_pos hidle]
      split
      · exact h
      · exact cancelled_of_point (by simp)
    · rwa [Report.step, if_neg hidle]
  | goOn => exact cancelled_goOn s
  | timer t =>
    obtain ⟨hpoint, hkeeps⟩ := timerStep_keeps s t
    intro quick u hclear hmTimer hwait
    obtain ⟨hheld, hwaited⟩ := hkeeps u hmTimer hwait
    exact h quick u (hpoint.symm.trans hclear) hheld hwaited

/-- Presses are in time and once a down, exactly if ups stop the timers. -/
theorem longPress_iff (inputs : List KeyInput) :
    Quiet inputs ∧ OncePerDown inputs ↔ Meets Report.step UpStops start inputs := by
  have hstart : Cancelled start := by rintro quick t ⟨⟩
  have hcauses := meets_congr_of_inv (fun s i hs => upSilences_iff hs i)
    (fun s i hs _ => cancelled_step s i hs) hstart inputs
  rw [← hcauses]
  exact ⟨fun h => meets_of_quiet h.1, fun h => ⟨quiet_of_meets h, oncePerDown inputs⟩⟩

theorem not_longPress_twice : ¬(Quiet [.down, .goOn, .down, .goOn, .up false, .goOn, .goOn] ∧
      OncePerDown [.down, .goOn, .down, .goOn, .up false, .goOn, .goOn]) := by
  rintro ⟨hquiet, -⟩
  have hlate : NoneLate (run Report.step start
      ([.down, .goOn, .down, .goOn, .up false, .goOn, .goOn] ++
        [.timer 0, .timer 0, .timer 0])).1 := hquiet 7 [0, 0, 0]
  have htrace : (run Report.step start ([.down, .goOn, .down, .goOn, .up false, .goOn, .goOn] ++
      [.timer 0, .timer 0, .timer 0])).1 = [.down 0, .down 1, .up false] ++ [.longPress 0] := by
    decide +kernel
  rw [htrace, NoneLate, Justified.snoc_iff] at hlate
  have hheld := hlate.2 0 rfl
  simp [released] at hheld

end WikoPlatform.Fingerprint.LongPress
