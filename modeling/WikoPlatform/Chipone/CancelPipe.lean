import WikoPlatform.Chipone.Handoff

/-! The stop flag, the cancel pipe and the interrupt poll. `WaitForGpioIrq` reads the flag under
`poll_mutex` and then polls without it; the pipe holds a byte as long as the flag is set. -/

namespace WikoPlatform.Chipone

open Runs

/-- Where `set_stop_status` stands. -/
inductive StopPoint where
  | outside
  | locked
  -- The flag is written.
  | flagged
  -- `FPSENSOR_IOC_CANCEL_POLL` is done, before the byte is written.
  | woken
  | latched
  deriving DecidableEq

/-- Where `WaitForGpioIrq` stands. -/
inductive WaitPoint where
  | outside
  | locked
  | checked
  | enabled
  | measured
  | disabled
  -- Out of the mutex, in `poll` or about to enter it.
  | polling
  | polled
  deriving DecidableEq

def WaitPoint.isLocked : WaitPoint → Bool
  | .locked | .checked | .enabled | .measured | .disabled => true
  | .outside | .polling | .polled => false

inductive WaitResult where
  | stopped
  | irq
  | canceled
  deriving DecidableEq

/-- The HAL with the pipe and the `cancel` flag of the driver, which every `ioctl` clears. -/
structure PolledHal where
  hal : Hal
  stopping : StopPoint
  wait : WaitPoint
  bytes : Nat
  cancel : Bool

/-- `irq` says that the interrupt line is high, and `ioctl` is any other call of the driver. -/
inductive PollEvent where
  | enter (call : Call)
  | client
  | worker (answer : Answer)
  | wait (irq : Bool)
  | ioctl

namespace PolledHal

/-- The flag is written, and the pipe is still to follow. -/
def isBetween (x : PolledHal) : Bool := x.stopping = .flagged ∨ x.stopping = .woken

def clientStep (x : PolledHal) : PolledHal :=
  match x.stopping with
  | .outside =>
    if x.hal.point = some .setStop ∨ x.hal.point = some .clearStop then
      if x.wait.isLocked then x else { x with stopping := .locked }
    else { x with hal := x.hal.clientStep.2 }
  | .locked => { x with hal := x.hal.clientStep.2, stopping := .flagged }
  | .flagged =>
    if x.hal.stop then { x with cancel := true, stopping := .woken }
    -- `CancelClear` blocks on an empty pipe
    else if x.bytes = 0 then x
    else { x with bytes := x.bytes - 1, stopping := .latched }
  | .woken => { x with bytes := x.bytes + 1, stopping := .latched }
  | .latched => { x with stopping := .outside }

/-- `WaitForGpioIrq`. -/
def waitStep (x : PolledHal) (irq : Bool) : List WaitResult × PolledHal :=
  match x.wait with
  | .outside =>
    if x.hal.worker.activity ≠ .idle ∧ x.stopping = .outside then ([], { x with wait := .locked })
    else ([], x)
  | .locked =>
    if x.hal.stop then ([.stopped], { x with wait := .outside })
    else ([], { x with wait := .checked })
  | .checked => ([], { x with cancel := false, wait := .enabled })
  | .enabled =>
    if irq then ([.irq], { x with cancel := false, wait := .outside })
    else ([], { x with cancel := false, wait := .measured })
  | .measured => ([], { x with cancel := false, wait := .disabled })
  | .disabled => ([], { x with wait := .polling })
  | .polling =>
    if x.cancel ∨ 0 < x.bytes then ([.canceled], { x with cancel := false, wait := .polled })
    else if irq then ([.irq], { x with wait := .polled })
    else ([], x)
  | .polled => ([], { x with cancel := false, wait := .outside })

def step (cfg : FpConfig) (x : PolledHal) : PollEvent → List WaitResult × PolledHal
  | .enter call => ([], { x with hal := (x.hal.step cfg (.enter call)).2 })
  | .client => ([], x.clientStep)
  | .worker answer =>
    match x.wait with
    | .outside => ([], { x with hal := (x.hal.step cfg (.worker answer)).2 })
    | _ => ([], x)
  | .wait irq => x.waitStep irq
  | .ioctl => ([], { x with cancel := false })

def start (resumed stop : Bool) (msessionId : Nat) (mgid mfid mtimeout : Int) : PolledHal where
  hal := .start resumed stop msessionId mgid mfid mtimeout
  stopping := .outside
  wait := .outside
  bytes := 0
  cancel := false

end PolledHal

theorem polledHal_step_hal (cfg : FpConfig) (x : PolledHal) (event : PollEvent) :
    ∃ moves, (x.step cfg event).2.hal = (run (Hal.step cfg) x.hal moves).2 := by
  cases event with
  | enter call => exact ⟨[.enter call], rfl⟩
  | client =>
    simp only [PolledHal.step, PolledHal.clientStep]
    split
    · split
      · split <;> exact ⟨[], rfl⟩
      · exact ⟨[.client], rfl⟩
    · exact ⟨[.client], rfl⟩
    · split
      · exact ⟨[], rfl⟩
      · split <;> exact ⟨[], rfl⟩
    · exact ⟨[], rfl⟩
    · exact ⟨[], rfl⟩
  | worker answer =>
    simp only [PolledHal.step]
    split
    · exact ⟨[.worker answer], rfl⟩
    · exact ⟨[], rfl⟩
  | wait irq =>
    refine ⟨[], ?_⟩
    simp only [PolledHal.step, PolledHal.waitStep]
    split <;> (try split) <;> (try split) <;> rfl
  | ioctl => exact ⟨[], rfl⟩

/-- A poll in force of a stop is ready, the read of `CancelClear` does not block, and a cancel that
is reported is in force. -/
structure PollSound (x : PolledHal) : Prop where
  ready : x.wait = .polling → x.hal.stop = true → x.isBetween = false → 0 < x.bytes
  clears : x.stopping = .flagged → x.hal.stop = false → 0 < x.bytes
  honest : x.wait = .polling → x.cancel = true ∨ 0 < x.bytes → x.hal.stop = true

/-- Besides, the pipe holds one byte while the flag is set and none while it is not. -/
structure NoLostCancel (x : PolledHal) : Prop where
  latch : x.isBetween = false → x.bytes = x.hal.stop.toNat
  sound : PollSound x

def CallPoint.isStopped : CallPoint → Bool
  | .pause | .pausing | .clearStop => true
  | _ => false

/-- The pipe holds a byte exactly while the flag is set. -/
structure Latch (x : PolledHal) : Prop where
  force : x.hal.stop = x.hal.point.any CallPoint.isStopped
  bytes : x.bytes = if x.isBetween then (!x.hal.stop).toNat else x.hal.stop.toNat

/-- Nothing has been stopped yet. -/
structure Fresh (x : PolledHal) : Prop where
  bytes : x.bytes = 0
  stopping : x.stopping = .outside ∨ x.stopping = .locked
  parked : x.hal.worker.isParked = true
  requested : x.hal.requested = .pause
  point : x.hal.point = none ∨ x.hal.point = some .canceling ∨ x.hal.point = some .setStop

structure PollInvariant (x : PolledHal) : Prop where
  pausing : Pausing x.hal
  exclusive : x.stopping = .outside ∨ x.wait.isLocked = false
  waits : x.wait ≠ .outside → x.hal.worker.isParked = false
  calling : x.stopping ≠ .outside → x.hal.point ≠ none
  locked : x.stopping = .locked → x.hal.point = some .setStop ∨ x.hal.point = some .clearStop
  between : x.isBetween = true → x.hal.stop = false → x.hal.point = some .body
  woken : x.stopping = .woken → x.hal.stop = true
  unset : x.wait.isLocked = true → x.wait ≠ .locked → x.hal.stop = false
  clean : x.wait = .enabled ∨ x.wait = .measured ∨ x.wait = .disabled → x.cancel = false
  cancel : x.wait = .polling → x.cancel = true → x.hal.stop = true

section

variable {cfg : FpConfig} {x : PolledHal}

theorem PollInvariant.outside_of_parked (h : PollInvariant x)
    (hpark : x.hal.worker.isParked = true) : x.wait = .outside := by
  by_contra hwait
  rw [h.waits hwait] at hpark
  cases hpark

theorem PollInvariant.sound (h : PollInvariant x) (hlatch : Latch x ∨ Fresh x) : PollSound x where
  ready hpolling hstop hbetween := by
    rcases hlatch with hlatch | hfresh
    · rw [hlatch.bytes, hbetween, hstop]
      decide
    · rw [h.outside_of_parked hfresh.parked] at hpolling
      cases hpolling
  clears hflag hstop := by
    rcases hlatch with hlatch | hfresh
    · have hbetween : x.isBetween = true := by simp [PolledHal.isBetween, hflag]
      rw [hlatch.bytes, hbetween, hstop]
      decide
    · rcases hfresh.stopping with hout | hlock
      · rw [hflag] at hout
        cases hout
      · rw [hflag] at hlock
        cases hlock
  honest hpolling hready := by
    rcases hready with hcancel | hbytes
    · exact h.cancel hpolling hcancel
    · by_contra hstop
      rw [Bool.not_eq_true] at hstop
      rcases hlatch with hlatch | hfresh
      · cases hbetween : x.isBetween with
        | false => simp [hlatch.bytes, hbetween, hstop] at hbytes
        | true =>
          -- the caller clears the flag only when the worker is parked
          have hpark := (h.pausing.paused (by rw [h.between hbetween hstop]; rfl)).1
          rw [h.outside_of_parked hpark] at hpolling
          cases hpolling
      · rw [hfresh.bytes] at hbytes
        exact Nat.lt_irrefl 0 hbytes

end

section

variable {cfg : FpConfig} {s : Hal}

theorem step_worker (cfg : FpConfig) (s : Hal) (answer : Answer) :
    (s.step cfg (.worker answer)).2.stop = s.stop ∧
      (s.step cfg (.worker answer)).2.point = s.point := by
  obtain ⟨hstop, hcall, -⟩ := workerStep_fields cfg s answer
  exact ⟨hstop, congrArg (Option.map Prod.snd) hcall⟩

theorem clientStep_stop (hset : s.point ≠ some .setStop) (hclear : s.point ≠ some .clearStop) :
    s.clientStep.2.stop = s.stop ∧
      s.clientStep.2.point.any CallPoint.isStopped = s.point.any CallPoint.isStopped := by
  cases hcall : s.call with
  | none =>
    simp only [Hal.clientStep, hcall]
    exact ⟨trivial, trivial⟩
  | some current =>
    obtain ⟨call, point⟩ := current
    have hpoint : s.point = some point := by rw [Hal.point, hcall]; rfl
    rw [hpoint] at hset hclear ⊢
    cases point with
    | setStop => exact absurd rfl hset
    | clearStop => exact absurd rfl hclear
    | canceling =>
      simp only [Hal.clientStep, hcall]
      exact ⟨trivial, rfl⟩
    | pause | pausing =>
      simp only [Hal.clientStep, hcall, Hal.awaitIdle]
      cases s.isIdle <;> exact ⟨trivial, rfl⟩
    | body =>
      simp only [Hal.clientStep, hcall]
      exact ⟨(callBody_fields s call).2.2.2.2, rfl⟩
    | resume | resuming =>
      simp only [Hal.clientStep, hcall, Hal.awaitResumed]
      cases s.resumed <;> exact ⟨rfl, rfl⟩

theorem clientStep_setStop (h : s.point = some .setStop) :
    s.clientStep.2.stop = true ∧ s.clientStep.2.point = some .pause := by
  rw [Hal.point, Option.map_eq_some_iff] at h
  obtain ⟨⟨call, _⟩, hcall, rfl⟩ := h
  simp only [Hal.clientStep, hcall]
  exact ⟨trivial, rfl⟩

theorem clientStep_clearStop (h : s.point = some .clearStop) :
    s.clientStep.2.stop = false ∧ s.clientStep.2.point = some .body := by
  rw [Hal.point, Option.map_eq_some_iff] at h
  obtain ⟨⟨call, _⟩, hcall, rfl⟩ := h
  simp only [Hal.clientStep, hcall]
  exact ⟨trivial, rfl⟩

end

section

variable {cfg : FpConfig} {x : PolledHal} {s : Hal}

theorem PollInvariant.hal (h : PollInvariant x) (hpausing : Pausing s) (hstop : s.stop = x.hal.stop)
    (hworker : x.wait ≠ .outside → s.worker.isParked = false)
    (hpoint : x.stopping = .outside ∨ s.point = x.hal.point) :
    PollInvariant { x with hal := s } where
  pausing := hpausing
  exclusive := h.exclusive
  waits := hworker
  calling hstopping := by
    rw [hpoint.resolve_left hstopping]
    exact h.calling hstopping
  locked hlock := by
    rcases hpoint with hout | hsame
    · rw [show x.stopping = .locked from hlock] at hout
      cases hout
    · rw [hsame]
      exact h.locked hlock
  between hbetween hunset := by
    rcases hpoint with hout | hsame
    · simp [PolledHal.isBetween, hout] at hbetween
    · rw [hsame]
      exact h.between hbetween (hstop ▸ hunset)
  woken hwoken := by
    rw [hstop]
    exact h.woken hwoken
  unset hlock hne := by
    rw [hstop]
    exact h.unset hlock hne
  clean := h.clean
  cancel hpolling hcancel := by
    rw [hstop]
    exact h.cancel hpolling hcancel

theorem PollInvariant.clientStep (h : PollInvariant x) : PollInvariant x.clientStep := by
  cases hstopping : x.stopping with
  | outside =>
    by_cases hpoint : x.hal.point = some .setStop ∨ x.hal.point = some .clearStop
    · cases hlock : x.wait.isLocked with
      | true =>
        simp only [PolledHal.clientStep, hstopping, if_pos hpoint, hlock, if_true]
        exact h
      | false =>
        simp only [PolledHal.clientStep, hstopping, if_pos hpoint, hlock, Bool.false_eq_true,
          if_false]
        refine ⟨h.pausing, .inr hlock, h.waits, fun _ => ?_, fun _ => hpoint, by rintro ⟨⟩,
          by simp, h.unset, h.clean, h.cancel⟩
        rcases hpoint with hpoint | hpoint <;> simp [hpoint]
    · simp only [PolledHal.clientStep, hstopping, if_neg hpoint]
      rw [not_or] at hpoint
      have hhal := h.hal h.pausing.clientStep (clientStep_stop hpoint.1 hpoint.2).1
        (fun hwait => by rw [clientStep_worker]; exact h.waits hwait) (.inl hstopping)
      rw [hstopping] at hhal
      exact hhal
  | locked =>
    have hunlock := h.exclusive.resolve_left (by rw [hstopping]; simp)
    have hunset : ∀ s : Hal, x.wait.isLocked = true → x.wait ≠ .locked → s.stop = false := by
      intro s hlock
      rw [hunlock] at hlock
      cases hlock
    simp only [PolledHal.clientStep, hstopping]
    rcases h.locked hstopping with hpoint | hpoint
    · obtain ⟨hstop, hpoint'⟩ := clientStep_setStop hpoint
      refine ⟨h.pausing.clientStep, .inr hunlock, fun hwait => ?_, by simp [hpoint'], by simp,
        fun _ hunset => ?_, by simp, hunset _, h.clean, fun _ _ => hstop⟩
      · rw [clientStep_worker]
        exact h.waits hwait
      · rw [hstop] at hunset
        cases hunset
    · obtain ⟨hstop, hpoint'⟩ := clientStep_clearStop hpoint
      have hout := h.outside_of_parked (h.pausing.paused (by rw [hpoint]; rfl)).1
      refine ⟨h.pausing.clientStep, .inr hunlock, fun hwait => absurd hout hwait,
        by simp [hpoint'], by simp, fun _ _ => hpoint', by simp, hunset _, h.clean,
        fun hpolling => ?_⟩
      rw [hout] at hpolling
      cases hpolling
  | flagged =>
    have hunlock := h.exclusive.resolve_left (by rw [hstopping]; simp)
    have hcalling := h.calling (by rw [hstopping]; simp)
    cases hstop : x.hal.stop with
    | true =>
      simp only [PolledHal.clientStep, hstopping, hstop, if_true]
      refine ⟨h.pausing, .inr hunlock, h.waits, fun _ => hcalling, by simp, fun _ => ?_,
        fun _ => hstop, h.unset, fun hwait => ?_, fun _ _ => hstop⟩
      · rw [hstop]
        simp
      · rcases hwait with hwait | hwait | hwait <;>
          (rw [show x.wait = _ from hwait] at hunlock; cases hunlock)
    | false =>
      by_cases hbytes : x.bytes = 0
      · simp only [PolledHal.clientStep, hstopping, hstop, hbytes, Bool.false_eq_true, if_false,
          if_true]
        exact h
      · simp only [PolledHal.clientStep, hstopping, hstop, hbytes, Bool.false_eq_true, if_false]
        exact ⟨h.pausing, .inr hunlock, h.waits, fun _ => hcalling, by simp, by rintro ⟨⟩,
          by simp, h.unset, h.clean, h.cancel⟩
  | woken =>
    have hunlock := h.exclusive.resolve_left (by rw [hstopping]; simp)
    have hcalling := h.calling (by rw [hstopping]; simp)
    simp only [PolledHal.clientStep, hstopping]
    exact ⟨h.pausing, .inr hunlock, h.waits, fun _ => hcalling, by simp, by rintro ⟨⟩,
      by simp, h.unset, h.clean, h.cancel⟩
  | latched =>
    simp only [PolledHal.clientStep, hstopping]
    exact ⟨h.pausing, .inl rfl, h.waits, fun hne => absurd rfl hne, by simp, by rintro ⟨⟩,
      by simp, h.unset, h.clean, h.cancel⟩

theorem PollInvariant.wait (h : PollInvariant x) {wait : WaitPoint} {cancel : Bool}
    (hexclusive : x.stopping = .outside ∨ wait.isLocked = false)
    (hwaits : wait ≠ .outside → x.hal.worker.isParked = false)
    (hunset : wait.isLocked = true → wait ≠ .locked → x.hal.stop = false)
    (hclean : wait = .enabled ∨ wait = .measured ∨ wait = .disabled → cancel = false)
    (hcancel : wait = .polling → cancel = true → x.hal.stop = true) :
    PollInvariant { x with wait, cancel } :=
  ⟨h.pausing, hexclusive, hwaits, h.calling, h.locked, h.between, h.woken, hunset, hclean, hcancel⟩

theorem PollInvariant.ioctl (h : PollInvariant x) (hlock : x.wait.isLocked = true)
    (hcheck : x.wait ≠ .locked) {wait : WaitPoint} (hpolling : wait ≠ .polling) :
    PollInvariant { x with wait, cancel := false } := by
  have hwait : x.wait ≠ .outside := by
    rintro hwait
    rw [hwait] at hlock
    cases hlock
  refine h.wait (.inl (h.exclusive.resolve_right ?_)) (fun _ => h.waits hwait)
    (fun _ _ => h.unset hlock hcheck) (fun _ => rfl) (fun heq => absurd heq hpolling)
  rw [hlock]
  simp

theorem PollInvariant.waitStep (h : PollInvariant x) (irq : Bool) :
    PollInvariant (x.waitStep irq).2 := by
  have houtside : ∀ cancel, PollInvariant { x with wait := .outside, cancel } := fun _ =>
    h.wait (.inr rfl) (by simp) (by rintro ⟨⟩) (by simp) (by rintro ⟨⟩)
  have hpolled : ∀ cancel, x.wait ≠ .outside → PollInvariant { x with wait := .polled, cancel } :=
    fun _ hwait => h.wait (.inr rfl) (fun _ => h.waits hwait) (by rintro ⟨⟩) (by simp)
      (by rintro ⟨⟩)
  cases hwait : x.wait with
  | outside =>
    by_cases henter : x.hal.worker.activity ≠ .idle ∧ x.stopping = .outside
    · simp only [PolledHal.waitStep, hwait, if_pos henter]
      refine h.wait (.inl henter.2) (fun _ => ?_) (fun _ hne => absurd rfl hne) (by simp) (by simp)
      cases hworker : x.hal.worker with
      | running | navigating => rfl
      | top | waiting | taken | finishing => exact absurd (by rw [hworker]; rfl) henter.1
    · simp only [PolledHal.waitStep, hwait, if_neg henter]
      exact h
  | locked =>
    cases hstop : x.hal.stop with
    | true =>
      simp only [PolledHal.waitStep, hwait, hstop, if_true]
      exact houtside _
    | false =>
      simp only [PolledHal.waitStep, hwait, hstop, Bool.false_eq_true, if_false]
      have hlock := h.exclusive.resolve_right (by rw [hwait]; rintro ⟨⟩)
      exact h.wait (.inl hlock) (fun _ => h.waits (by rw [hwait]; simp)) (fun _ _ => hstop)
        (by simp) (by simp)
  | checked | measured =>
    simp only [PolledHal.waitStep, hwait]
    exact h.ioctl (by rw [hwait]; rfl) (by rw [hwait]; simp) (by simp)
  | enabled =>
    simp only [PolledHal.waitStep, hwait]
    split
    · exact houtside _
    · exact h.ioctl (by rw [hwait]; rfl) (by rw [hwait]; simp) (by simp)
  | disabled =>
    -- the last `ioctl` under the mutex has cleared an old cancel
    have hclean := h.clean (by simp [hwait])
    simp only [PolledHal.waitStep, hwait]
    refine h.wait (.inr rfl) (fun _ => h.waits (by simp [hwait])) (by rintro ⟨⟩) (by simp) ?_
    intro _ hcancel
    rw [hclean] at hcancel
    cases hcancel
  | polling =>
    have hne : x.wait ≠ .outside := by rw [hwait]; simp
    simp only [PolledHal.waitStep, hwait]
    split
    · exact hpolled _ hne
    · split
      · exact hpolled _ hne
      · exact h
  | polled =>
    simp only [PolledHal.waitStep, hwait]
    exact houtside _

theorem pollInvariant_step (cfg : FpConfig) (x : PolledHal) (event : PollEvent)
    (h : PollInvariant x) : PollInvariant (x.step cfg event).2 := by
  cases event with
  | enter call =>
    obtain ⟨hstop, hworker, -, hpoint⟩ := step_enter cfg x.hal call
    refine h.hal (pausing_step cfg _ _ h.pausing) hstop (fun hwait => ?_) ?_
    · rw [hworker]
      exact h.waits hwait
    · rcases hpoint with hsame | ⟨hnone, -⟩
      · exact .inr hsame
      · exact .inl (by_contra fun hstopping => h.calling hstopping hnone)
  | client => exact h.clientStep
  | worker answer =>
    cases hwait : x.wait with
    | outside =>
      simp only [PolledHal.step, hwait]
      obtain ⟨hstop, hpoint⟩ := step_worker cfg x.hal answer
      have hhal := h.hal (pausing_step cfg x.hal (.worker answer) h.pausing) hstop
        (fun hne => absurd hwait hne) (.inr hpoint)
      rw [hwait] at hhal
      exact hhal
    | locked | checked | enabled | measured | disabled | polling | polled =>
      simp only [PolledHal.step, hwait]
      exact h
  | wait irq => exact h.waitStep irq
  | ioctl =>
    exact h.wait h.exclusive h.waits h.unset (fun _ => rfl) (by simp)

theorem Latch.hal (h : Latch x) (hstop : s.stop = x.hal.stop)
    (hpoint : s.point.any CallPoint.isStopped = x.hal.point.any CallPoint.isStopped) :
    Latch { x with hal := s } where
  force := by rw [hstop, hpoint, h.force]
  bytes := by rw [hstop]; exact h.bytes

theorem Latch.clientStep (h : Latch x) (hpoll : PollInvariant x) : Latch x.clientStep := by
  cases hstopping : x.stopping with
  | outside =>
    by_cases hpoint : x.hal.point = some .setStop ∨ x.hal.point = some .clearStop
    · simp only [PolledHal.clientStep, hstopping, if_pos hpoint]
      split
      · exact h
      · refine ⟨h.force, ?_⟩
        have hbytes := h.bytes
        simpa [PolledHal.isBetween, hstopping] using hbytes
    · simp only [PolledHal.clientStep, hstopping, if_neg hpoint]
      rw [not_or] at hpoint
      obtain ⟨hstop, hany⟩ := clientStep_stop hpoint.1 hpoint.2
      have hhal := h.hal hstop hany
      rw [hstopping] at hhal
      exact hhal
  | locked =>
    have hforce := h.force
    have hbytes := h.bytes
    rcases hpoll.locked hstopping with hpoint | hpoint
    · obtain ⟨hstop, hpoint'⟩ := clientStep_setStop hpoint
      simp only [PolledHal.clientStep, hstopping]
      rw [hpoint] at hforce
      constructor
      · simp only [hstop, hpoint']
        rfl
      · simpa [PolledHal.isBetween, hstop, hstopping, hforce, CallPoint.isStopped] using hbytes
    · obtain ⟨hstop, hpoint'⟩ := clientStep_clearStop hpoint
      simp only [PolledHal.clientStep, hstopping]
      rw [hpoint] at hforce
      constructor
      · simp only [hstop, hpoint']
        rfl
      · simpa [PolledHal.isBetween, hstop, hstopping, hforce, CallPoint.isStopped] using hbytes
  | flagged =>
    have hbytes := h.bytes
    cases hstop : x.hal.stop with
    | true =>
      simp only [PolledHal.clientStep, hstopping, hstop, if_true]
      exact ⟨h.force, by simpa [PolledHal.isBetween, hstopping] using hbytes⟩
    | false =>
      have hone : x.bytes = 1 := by simpa [PolledHal.isBetween, hstopping, hstop] using hbytes
      simp only [PolledHal.clientStep, hstopping, hstop, hone, Bool.false_eq_true, if_false,
        Nat.one_ne_zero]
      exact ⟨h.force, by simp [PolledHal.isBetween, hstop]⟩
  | woken =>
    have hstop := hpoll.woken hstopping
    have hbytes := h.bytes
    have hzero : x.bytes = 0 := by simpa [PolledHal.isBetween, hstopping, hstop] using hbytes
    simp only [PolledHal.clientStep, hstopping, hzero]
    exact ⟨h.force, by simp [PolledHal.isBetween, hstop]⟩
  | latched =>
    have hbytes := h.bytes
    simp only [PolledHal.clientStep, hstopping]
    exact ⟨h.force, by simpa [PolledHal.isBetween, hstopping] using hbytes⟩

theorem Latch.wait (h : Latch x) (wait : WaitPoint) (cancel : Bool) :
    Latch { x with wait, cancel } :=
  ⟨h.force, h.bytes⟩

theorem Latch.waitStep (h : Latch x) (irq : Bool) : Latch (x.waitStep irq).2 := by
  unfold PolledHal.waitStep
  split <;> (try split) <;> (try split) <;> exact h.wait _ _

theorem latch_step (cfg : FpConfig) (x : PolledHal) (event : PollEvent)
    (h : Latch x) (hpoll : PollInvariant x) : Latch (x.step cfg event).2 := by
  cases event with
  | enter call =>
    obtain ⟨hstop, -, -, hpoint⟩ := step_enter cfg x.hal call
    refine h.hal hstop ?_
    rcases hpoint with hsame | ⟨hnone, hcanceling | hset⟩
    · rw [hsame]
    · rw [hnone, hcanceling]
      rfl
    · rw [hnone, hset]
      rfl
  | client => exact h.clientStep hpoll
  | worker answer =>
    simp only [PolledHal.step]
    split
    · obtain ⟨hstop, hpoint⟩ := step_worker cfg x.hal answer
      exact h.hal hstop (by rw [hpoint])
    · exact h
  | wait irq => exact h.waitStep irq
  | ioctl => exact h.wait _ _

theorem Fresh.clientStep (h : Fresh x) (hpoll : PollInvariant x) :
    Latch x.clientStep ∨ Fresh x.clientStep := by
  have hout := hpoll.outside_of_parked h.parked
  rcases h.stopping with hstopping | hstopping
  · right
    rcases h.point with hpoint | hpoint | hpoint
    · have hcall : x.hal.call = none := by simpa [Hal.point] using hpoint
      simp only [PolledHal.clientStep, hstopping, hpoint, Hal.clientStep, hcall]
      exact ⟨h.bytes, .inl rfl, h.parked, h.requested, .inl hpoint⟩
    · have hpoint' := hpoint
      rw [Hal.point, Option.map_eq_some_iff] at hpoint'
      obtain ⟨⟨call, _⟩, hcall, rfl⟩ := hpoint'
      simp only [PolledHal.clientStep, hstopping, hpoint, Hal.clientStep, hcall]
      exact ⟨h.bytes, .inl rfl, h.parked, h.requested, .inr (.inr rfl)⟩
    · simp only [PolledHal.clientStep, hstopping, hpoint, hout, WaitPoint.isLocked]
      exact ⟨h.bytes, .inr rfl, h.parked, h.requested, .inr (.inr hpoint)⟩
  · left
    have hset : x.hal.point = some .setStop := by
      rcases hpoll.locked hstopping with hset | hclear
      · exact hset
      · rcases h.point with hpoint | hpoint | hpoint <;> simp [hclear] at hpoint
    obtain ⟨hstop, hpoint'⟩ := clientStep_setStop hset
    simp only [PolledHal.clientStep, hstopping]
    constructor
    · simp only [hstop, hpoint']
      rfl
    · simp [PolledHal.isBetween, hstop, h.bytes]

theorem fresh_step (cfg : FpConfig) (x : PolledHal) (event : PollEvent)
    (h : Fresh x) (hpoll : PollInvariant x) :
    Latch (x.step cfg event).2 ∨ Fresh (x.step cfg event).2 := by
  have hout := hpoll.outside_of_parked h.parked
  cases event with
  | enter call =>
    obtain ⟨-, hworker, hreq, hpoint⟩ := step_enter cfg x.hal call
    refine .inr ⟨h.bytes, h.stopping, ?_, hreq.trans h.requested, ?_⟩
    · rw [show (x.step cfg (.enter call)).2.hal.worker = _ from hworker]
      exact h.parked
    · rcases hpoint with hsame | ⟨-, hnew⟩
      · rw [show (x.step cfg (.enter call)).2.hal.point = _ from hsame]
        exact h.point
      · exact .inr hnew
  | client => exact h.clientStep hpoll
  | worker answer =>
    obtain ⟨-, hpoint⟩ := step_worker cfg x.hal answer
    obtain ⟨hpark, hpause⟩ := workerStep_parked cfg h.parked h.requested answer
    simp only [PolledHal.step, hout]
    refine .inr ⟨h.bytes, h.stopping, hpark, hpause, ?_⟩
    rw [hpoint]
    exact h.point
  | wait irq =>
    have hidle : x.hal.worker.activity = .idle := by
      have hpark := h.parked
      cases hworker : x.hal.worker <;> simp_all [WorkerPoint.isParked, WorkerPoint.activity]
    simp only [PolledHal.step, PolledHal.waitStep, hout, hidle]
    exact .inr h
  | ioctl => exact .inr ⟨h.bytes, h.stopping, h.parked, h.requested, h.point⟩

theorem pollInvariant_start {resumed stop : Bool} {msessionId : Nat} {mgid mfid mtimeout : Int} :
    PollInvariant (.start resumed stop msessionId mgid mfid mtimeout) :=
  ⟨pausing_start, .inl rfl, fun hwait => absurd rfl hwait,
    fun hstopping => absurd rfl hstopping, by rintro ⟨⟩, by rintro ⟨⟩, by rintro ⟨⟩,
    by rintro ⟨⟩, by simp [PolledHal.start], by rintro ⟨⟩⟩

theorem latched_step (cfg : FpConfig) (x : PolledHal) (event : PollEvent)
    (h : PollInvariant x ∧ Latch x) :
    PollInvariant (x.step cfg event).2 ∧ Latch (x.step cfg event).2 :=
  ⟨pollInvariant_step cfg x event h.1, latch_step cfg x event h.2 h.1⟩

theorem polled_step (cfg : FpConfig) (x : PolledHal) (event : PollEvent)
    (h : PollInvariant x ∧ (Latch x ∨ Fresh x)) : PollInvariant (x.step cfg event).2 ∧
      (Latch (x.step cfg event).2 ∨ Fresh (x.step cfg event).2) := by
  refine ⟨pollInvariant_step cfg x event h.1, ?_⟩
  rcases h.2 with hlatch | hfresh
  · exact .inl (latch_step cfg x event hlatch h.1)
  · exact fresh_step cfg x event hfresh h.1

theorem polledRun_sound (cfg : FpConfig) (resumed stop : Bool) (msessionId : Nat)
    (mgid mfid mtimeout : Int) {events : List PollEvent} : PollSound
      (run (PolledHal.step cfg) (.start resumed stop msessionId mgid mfid mtimeout) events).2 := by
  have hfresh : Fresh (.start resumed stop msessionId mgid mfid mtimeout) :=
    ⟨rfl, .inl rfl, rfl, rfl, .inl rfl⟩
  obtain ⟨hpoll, hlatch⟩ := run_invariant_state (polled_step cfg)
    ⟨pollInvariant_start, .inr hfresh⟩ events
  exact hpoll.sound hlatch

/-- No cancel is lost just when the flag starts unset. -/
theorem polledRun_noLostCancel_iff (resumed stop : Bool) (msessionId : Nat)
    (mgid mfid mtimeout : Int) : (∀ (cfg : FpConfig) (events : List PollEvent), NoLostCancel
        (run (PolledHal.step cfg) (.start resumed stop msessionId mgid mfid mtimeout) events).2) ↔
      stop = false := by
  constructor
  · intro h
    have hlatch := (h plainConfig []).latch rfl
    cases stop with
    | false => rfl
    | true => cases hlatch
  · rintro rfl cfg events
    have hstart : Latch (.start resumed false msessionId mgid mfid mtimeout) := ⟨rfl, rfl⟩
    obtain ⟨hpoll, hlatch⟩ := run_invariant_state (latched_step cfg)
      ⟨pollInvariant_start, hstart⟩ events
    refine ⟨fun hbetween => ?_, polledRun_sound cfg resumed false msessionId mgid mfid mtimeout⟩
    rw [hlatch.bytes, hbetween]
    rfl

theorem polledHal_start_not_noLostCancel : ¬NoLostCancel
      (run (PolledHal.step plainConfig) (.start false true 0 0 0 0) []).2 := by
  intro h
  cases h.latch rfl

end

end WikoPlatform.Chipone
