import WikoPlatform.Lib.Act
import WikoPlatform.Posix

/-! The interrupt and the gpios of the Chipone driver for qcom; `irq_count` and `device_available`
stand for what the kernel knows of the line. -/

namespace WikoPlatform.Kernel.Fpsensor

open Runs
open Act (Exact)

/-- The interrupt that is held, how often it is disabled, and the gpios that are held. -/
structure Lines where
  irq : Option Int
  depth : Nat
  gpios : List Int

/-- A call of the kernel, with what it returns. -/
inductive Call where
  | gpioRequest (gpio ret : Int)
  | gpioFree (gpio : Int)
  | requestThreadedIrq (irq ret : Int)
  | freeIrq (irq : Int)
  | enableIrq (irq : Int)
  | disableIrqNosync (irq : Int)
  | exited
  | released (last : Bool)
  deriving DecidableEq

def Lines.after (k : Lines) : Call → Lines
  | .gpioRequest gpio ret => if ret < 0 then k else { k with gpios := gpio :: k.gpios }
  | .gpioFree gpio => { k with gpios := k.gpios.erase gpio }
  | .requestThreadedIrq irq ret => if ret = 0 then { k with irq := some irq, depth := 0 } else k
  | .freeIrq irq => if k.irq = some irq then { k with irq := none } else k
  | .enableIrq irq => if k.irq = some irq then { k with depth := k.depth - 1 } else k
  | .disableIrqNosync irq => if k.irq = some irq then { k with depth := k.depth + 1 } else k
  | .exited | .released _ => k

/-- Only what is held is freed, enabled and disabled, by turns. -/
def Call.Allowed (k : Lines) : Call → Prop
  | .gpioRequest _ _ | .requestThreadedIrq _ _ => True
  | .gpioFree gpio => gpio ∈ k.gpios
  | .freeIrq irq => k.irq = some irq
  | .enableIrq irq => k.irq = some irq ∧ k.depth = 1
  | .disableIrqNosync irq => k.irq = some irq ∧ k.depth = 0
  | .exited => k.irq = none ∧ k.gpios = []
  | .released last => last = true → k.irq = none ∨ k.depth ≠ 0

instance Call.decidableAllowed (k : Lines) (c : Call) : Decidable (c.Allowed k) := by
  unfold Call.Allowed
  split <;> infer_instance

structure Called where
  lines : Lines
  call : Call

def Called.Allowed (c : Called) : Prop := c.call.Allowed c.lines

instance Called.decidableAllowed (c : Called) : Decidable c.Allowed :=
  Call.decidableAllowed c.lines c.call

/-- `fpsensor_data_t` and `request_irq_ret`, beside the lines.  `power_gpio` is always 0. -/
structure World where
  lines : Lines
  users : Nat
  deviceAvailable : Bool
  irqCount : Bool
  irq : Int
  irqGpio : Int
  resetGpio : Int
  requestIrqRet : Int
  -- The character device is gone.
  removed : Bool

structure Board where
  irqGpio : Int
  resetGpio : Int
  irq : Int

structure InitOutcome where
  irqGpio : Int
  resetGpio : Int
  direction : Int
  irq : Int

def call (c : Call) : Act World Called Unit := do
  let w ← Act.get
  Act.emit ⟨w.lines, c⟩
  Act.modify fun w => { w with lines := w.lines.after c }

/-- What is held already is not given again. -/
def gpioRequest (gpio outcome : Int) : Act World Called Int := do
  let w ← Act.get
  let ret := if gpio ∈ w.lines.gpios then -ebusy else outcome
  call (.gpioRequest gpio ret)
  pure ret

def devmRequestThreadedIrq (irq outcome : Int) : Act World Called Int := do
  let w ← Act.get
  let ret := if irq ≤ 0 then -einval else if w.lines.irq = some irq then -ebusy else outcome
  call (.requestThreadedIrq irq ret)
  pure ret

def fpsensorParseDt (board : Board) (o : InitOutcome) : Act World Called Int := do
  Act.modify fun w => { w with resetGpio := board.resetGpio }
  if board.resetGpio < 0 then pure board.resetGpio
  else do
    Act.modify fun w => { w with irqGpio := board.irqGpio }
    if board.irqGpio < 0 then pure board.irqGpio
    else do
      let ret ← gpioRequest board.irqGpio o.irqGpio
      if ret < 0 then pure ret
      else do
        let ret ← gpioRequest board.resetGpio o.resetGpio
        if ret < 0 then pure ret else pure 0

def fpsensorIrqGpioCfg (board : Board) (o : InitOutcome) : Act World Called Unit :=
  if o.direction ≠ 0 then pure () else Act.modify fun w => { w with irq := board.irq }

def fpsensorEnableIrq : Act World Called Unit := do
  let w ← Act.get
  if w.irqCount then pure ()
  else do
    call (.enableIrq w.irq)
    Act.modify fun w => { w with irqCount := true }

def fpsensorDisableIrq : Act World Called Unit := do
  let w ← Act.get
  if w.deviceAvailable && w.irqCount then
    if w.irq ≠ 0 then do
      call (.disableIrqNosync w.irq)
      Act.modify fun w => { w with irqCount := false }
    else Act.modify fun w => { w with irqCount := false }
  else pure ()

def fpsensorGpioFree : Act World Called Unit := do
  let w ← Act.get
  if w.requestIrqRet ≠ 0 then pure ()
  else do
    freeGpio w.irqGpio
    Act.modify fun w => { w with irqGpio := 0 }
    freeGpio w.resetGpio
    Act.modify fun w => { w with resetGpio := 0 }
where
  freeGpio (gpio : Int) : Act World Called Unit :=
    if gpio ≠ 0 then call (.gpioFree gpio) else pure ()

/-- It goes on whatever the requests answer. -/
def init (board : Board) (o : InitOutcome) : Act World Called Int := do
  let ret ← fpsensorParseDt board o
  Act.modify fun w => { w with requestIrqRet := ret }
  fpsensorIrqGpioCfg board o
  let w ← Act.get
  let retval ← devmRequestThreadedIrq w.irq o.irq
  Act.modify fun w => { w with deviceAvailable := true, irqCount := true }
  fpsensorDisableIrq
  pure retval

def exit : Act World Called Int := do
  fpsensorDisableIrq
  freeIrq
  Act.modify fun w => { w with deviceAvailable := false }
  fpsensorGpioFree
  call .exited
  pure 0
where
  freeIrq : Act World Called Unit := do
    let w ← Act.get
    if w.irq ≠ 0 then do
      call (.freeIrq w.irq)
      Act.modify fun w => { w with irqCount := false }
    else pure ()

def remove : Act World Called Int := do
  let retval ← exit
  Act.modify fun w => { w with removed := true }
  pure retval

/-- The commands; all others leave the lines and what stands for them alone. -/
inductive Ioctl where
  | init (o : InitOutcome)
  | exit
  | enableIrq
  | disableIrq
  | remove
  | other

def fpsensorIoctl (board : Board) : Ioctl → Act World Called Int
  | .init o => Fpsensor.init board o
  | .exit => Fpsensor.exit
  | .enableIrq => do
    fpsensorEnableIrq
    pure 0
  | .disableIrq => do
    fpsensorDisableIrq
    pure 0
  | .remove => Fpsensor.remove
  | .other => pure 0

def fpsensorRelease : Act World Called Int := do
  let w ← Act.get
  Act.modify fun w => { w with users := w.users - 1 }
  close (w.users - 1 = 0)
  Act.modify fun w => { w with deviceAvailable := false }
  call (.released (w.users - 1 = 0))
  pure 0
where
  close (last : Bool) : Act World Called Unit :=
    if last then fpsensorDisableIrq else pure ()

inductive Event where
  | opened
  | ioctl (cmd : Ioctl)
  | release

/-- Only an open file gets an ioctl. -/
def step (board : Board) (w : World) : Event → List Called × World
  | .opened =>
    if w.removed then ([], w)
    else ([], { w with users := w.users + 1, deviceAvailable := true })
  | .ioctl cmd =>
    if w.users = 0 then ([], w)
    else ((fpsensorIoctl board cmd w).trace, (fpsensorIoctl board cmd w).state)
  | .release =>
    if w.users = 0 then ([], w) else ((fpsensorRelease w).trace, (fpsensorRelease w).state)

def start : World where
  lines := ⟨none, 0, []⟩
  users := 0
  deviceAvailable := true
  irqCount := false
  irq := 0
  irqGpio := 0
  resetGpio := 0
  requestIrqRet := 0
  removed := false

def Lines.Held (k : Lines) : Prop := k.irq ≠ none

def World.foundIrq (board : Board) (w : World) (o : InitOutcome) : Int :=
  if o.direction ≠ 0 then w.irq else board.irq

/-- The interrupt is given, or held and enabled, or there is none. -/
def World.InitGiven (board : Board) (w : World) (o : InitOutcome) : Prop :=
  w.foundIrq board o = 0 ∨ w.lines.irq = none ∧ 0 < w.foundIrq board o ∧ o.irq = 0 ∨
    w.lines.Held ∧ w.lines.depth = 0

def FreesAll (board : Board) (w : World) : Prop :=
  w.lines.gpios = [] ∨ w.requestIrqRet = 0 ∧ board.irqGpio ≠ 0 ∧ board.resetGpio ≠ 0

/-- An init gives the interrupt, and the others find what they need. -/
def Ioctl.Disciplined (board : Board) (w : World) : Ioctl → Prop
  | .init o => w.InitGiven board o
  | .exit | .remove => (w.irq = 0 ∨ w.lines.Held) ∧ FreesAll board w
  | .enableIrq => w.lines.Held
  | .disableIrq | .other => True

/-- The last file is not closed with the interrupt enabled but not available. -/
def Disciplined (board : Board) (w : World) : Event → Prop
  | .opened => True
  | .ioctl cmd => w.users ≠ 0 → cmd.Disciplined board w
  | .release => w.users = 1 → w.lines.Held → w.lines.depth = 0 → w.deviceAvailable = true

/-! ### What the flags stand for -/

/-- `irq_count` is set exactly while the interrupt is held and enabled. -/
structure IrqLinked (board : Board) (w : World) : Prop where
  found : w.irq = 0 ∨ w.irq = board.irq
  held : ∀ irq, w.lines.irq = some irq → irq = w.irq ∧ 0 < irq
  count : w.irqCount = true ↔ w.lines.Held ∧ w.lines.depth = 0
  depth : w.lines.Held → w.lines.depth ≤ 1

/-- If `request_irq_ret` is 0, the gpios of the driver are held or are 0. -/
structure GpioLinked (board : Board) (w : World) : Prop where
  gpios : w.lines.gpios = [] ∨ w.lines.gpios = [board.irqGpio] ∨
    w.lines.gpios = [board.resetGpio, board.irqGpio]
  parsed : w.requestIrqRet = 0 →
    w.irqGpio = 0 ∧ w.resetGpio = 0 ∧ w.lines.gpios = [] ∨
    w.irqGpio = board.irqGpio ∧ w.resetGpio = board.resetGpio ∧ board.irqGpio ≠ board.resetGpio ∧
      w.lines.gpios = [board.resetGpio, board.irqGpio]

structure Linked (board : Board) (w : World) : Prop where
  irq : IrqLinked board w
  gpio : GpioLinked board w

variable {board : Board} {w : World} {gpio outcome : Int}

theorem Linked.elsewhere (h : Linked board w) (users : Nat) (deviceAvailable removed : Bool) :
    Linked board { w with users, deviceAvailable, removed } :=
  ⟨⟨h.irq.found, h.irq.held, h.irq.count, h.irq.depth⟩, ⟨h.gpio.gpios, h.gpio.parsed⟩⟩

theorem call_exact (c : Call) : Exact Called.Allowed w (call c) (c.Allowed w.lines)
      fun _ w' => w' = { w with lines := w.lines.after c } := by
  refine ⟨?_, fun _ => ⟨(), rfl, rfl⟩⟩
  simp [call, Called.Allowed]

theorem call_bind {α : Type} {c : Call} {f : Unit → Act World Called α} {C : Prop}
    {Q : α → World → Prop} (hf : c.Allowed w.lines →
      Exact Called.Allowed { w with lines := w.lines.after c } (f ()) C Q) :
    Exact Called.Allowed w (call c >>= f) (c.Allowed w.lines ∧ C) Q :=
  (call_exact c).bind fun _ _ hallowed hw' => hw' ▸ hf hallowed

theorem IrqLinked.irq_of_held (h : IrqLinked board w) (hheld : w.lines.Held) :
    w.lines.irq = some w.irq ∧ 0 < w.irq := by
  obtain ⟨irq, hirq⟩ := Option.ne_none_iff_exists'.mp hheld
  obtain ⟨rfl, hpos⟩ := h.held irq hirq
  exact ⟨hirq, hpos⟩

def World.disabled (w : World) : World :=
  if w.deviceAvailable && w.irqCount then
    { w with
      irqCount := false
      lines := if w.irq ≠ 0 then w.lines.after (.disableIrqNosync w.irq) else w.lines }
  else w

@[simp] theorem disabled_irq (w : World) : w.disabled.irq = w.irq := by
  unfold World.disabled
  split <;> rfl

@[simp] theorem disabled_lines_irq (w : World) : w.disabled.lines.irq = w.lines.irq := by
  simp only [World.disabled, Lines.after]
  split_ifs <;> rfl

@[simp] theorem disabled_gpios (w : World) : w.disabled.lines.gpios = w.lines.gpios := by
  simp only [World.disabled, Lines.after]
  split_ifs <;> rfl

@[simp] theorem disabled_requestIrqRet (w : World) :
    w.disabled.requestIrqRet = w.requestIrqRet := by
  unfold World.disabled
  split <;> rfl

theorem GpioLinked.disabled (h : GpioLinked board w) : GpioLinked board w.disabled := by
  have hgpios := disabled_gpios w
  unfold World.disabled at hgpios ⊢
  split
  · rw [if_pos ‹_›] at hgpios
    exact ⟨hgpios ▸ h.gpios, hgpios ▸ h.parsed⟩
  · exact h

theorem disableIrq_exact (w : World) : Exact Called.Allowed w fpsensorDisableIrq
      ((w.deviceAvailable && w.irqCount) = true → w.irq ≠ 0 →
        w.lines.irq = some w.irq ∧ w.lines.depth = 0) fun _ w' => w' = w.disabled := by
  apply Exact.get_bind
  by_cases hon : (w.deviceAvailable && w.irqCount) = true
  · rw [if_pos hon]
    by_cases hne : w.irq ≠ 0
    · rw [if_pos hne]
      refine .congr (call_bind fun _ => .modify trivial ?_) ?_
      · simp [World.disabled, hon, hne]
      · simp [Call.Allowed, hon, hne]
    · rw [if_neg hne]
      apply Exact.modify fun _ h => absurd h hne
      simp [World.disabled, hon, hne]
  · rw [if_neg hon]
    apply Exact.pure fun h => absurd h hon
    simp [World.disabled, hon]

theorem IrqLinked.enabled (h : IrqLinked board w) (hcount : w.irqCount = true) :
    w.lines.irq = some w.irq ∧ w.lines.depth = 0 :=
  ⟨(h.irq_of_held (h.count.mp hcount).1).1, (h.count.mp hcount).2⟩

theorem IrqLinked.disabled (h : IrqLinked board w) : IrqLinked board w.disabled := by
  unfold World.disabled
  split
  · rename_i hon
    have hcount : w.irqCount = true := by simp_all
    obtain ⟨hirq, hdepth⟩ := h.enabled hcount
    have hne : w.irq ≠ 0 := by
      have := (h.irq_of_held (h.count.mp hcount).1).2
      omega
    simp only [if_pos hne, Lines.after, if_pos hirq, hdepth]
    exact ⟨h.found, h.held, by simp, fun _ => by simp⟩
  · exact h

theorem disableIrq_linked (h : IrqLinked board w) :
    Exact Called.Allowed w fpsensorDisableIrq True fun _ w' => w' = w.disabled := by
  refine (disableIrq_exact w).congr (iff_of_true (fun hon _ => ?_) trivial)
  exact h.enabled (by simp_all)

theorem enableIrq_exact (h : Linked board w) :
    Exact Called.Allowed w fpsensorEnableIrq w.lines.Held fun _ w' => Linked board w' := by
  apply Exact.get_bind
  by_cases hcount : w.irqCount = true
  · rw [if_pos hcount]
    exact .pure (h.irq.count.mp hcount).1 h
  · rw [if_neg hcount]
    have hdepth : w.lines.Held → w.lines.depth = 1 := by
      intro hheld
      have := h.irq.depth hheld
      have : w.lines.depth ≠ 0 := fun hzero => hcount (h.irq.count.mpr ⟨hheld, hzero⟩)
      omega
    have hallowed : (Call.enableIrq w.irq).Allowed w.lines ∧ True ↔ w.lines.Held := by
      rw [and_true]
      refine ⟨fun hirq => ?_, fun hheld => ⟨(h.irq.irq_of_held hheld).1, hdepth hheld⟩⟩
      exact Option.ne_none_iff_exists'.mpr ⟨_, hirq.1⟩
    refine (call_bind fun hcall => .modify trivial ?_).congr hallowed
    obtain ⟨hirq, hone⟩ := hcall
    simp only [Lines.after, hirq, if_true, hone]
    refine ⟨⟨h.irq.found, fun irq heq => h.irq.held irq (hirq.trans heq), ?_, fun _ => ?_⟩,
      ⟨h.gpio.gpios, h.gpio.parsed⟩⟩
    · simp [Lines.Held]
    · simp

def World.freed (w : World) : World :=
  { w with irqCount := false, lines := { w.lines with irq := none } }

theorem freeIrq_exact (h : IrqLinked board w) :
    Exact Called.Allowed w exit.freeIrq (w.irq = 0 ∨ w.lines.Held) fun _ w' => w' = w.freed := by
  apply Exact.get_bind
  by_cases hzero : w.irq = 0
  · have hnone : w.lines.irq = none := by
      by_contra hheld
      have := (h.irq_of_held hheld).2
      omega
    have hcount : w.irqCount = false := by
      by_contra htrue
      exact (h.count.mp (by simpa using htrue)).1 hnone
    rw [if_neg (by simpa using hzero)]
    apply Exact.pure (.inl hzero)
    simp [World.freed, ← hnone, ← hcount]
  · rw [if_pos hzero]
    have hallowed : (Call.freeIrq w.irq).Allowed w.lines ∧ True ↔ w.irq = 0 ∨ w.lines.Held := by
      rw [and_true, or_iff_right hzero]
      refine ⟨fun hirq => ?_, fun hheld => (h.irq_of_held hheld).1⟩
      exact Option.ne_none_iff_exists'.mpr ⟨_, hirq⟩
    refine (call_bind fun hcall => .modify trivial ?_).congr hallowed
    have hirq : w.lines.irq = some w.irq := hcall
    simp [Lines.after, hirq, World.freed]

def Lines.without (k : Lines) (gpio : Int) : Lines :=
  if gpio ≠ 0 then { k with gpios := k.gpios.erase gpio } else k

theorem freeGpio_exact (h : gpio ≠ 0 → gpio ∈ w.lines.gpios) :
    Exact Called.Allowed w (fpsensorGpioFree.freeGpio gpio) True
      fun _ w' => w' = { w with lines := w.lines.without gpio } := by
  unfold fpsensorGpioFree.freeGpio Lines.without
  by_cases hzero : gpio ≠ 0
  · rw [if_pos hzero, if_pos hzero]
    exact (call_exact _).congr (iff_of_true (h hzero) trivial)
  · rw [if_neg hzero, if_neg hzero]
    exact .pure trivial rfl

theorem gpioFree_exact (h : GpioLinked board w) :
    Exact Called.Allowed w fpsensorGpioFree True fun _ w' =>
      ∃ irqGpio resetGpio gpios,
        w' = { w with irqGpio, resetGpio, lines := { w.lines with gpios } } ∧
        (gpios = [] ↔ FreesAll board w) ∧
        (w.requestIrqRet = 0 → irqGpio = 0 ∧ resetGpio = 0) := by
  apply Exact.get_bind
  by_cases hret : w.requestIrqRet = 0
  · rw [if_neg (by simpa using hret)]
    have hirq : w.irqGpio ≠ 0 → w.irqGpio ∈ w.lines.gpios := by
      rcases h.parsed hret with ⟨hzero, -⟩ | ⟨hgpio, -, -, hgpios⟩
      · exact fun hne => absurd hzero hne
      · simp [hgpio, hgpios]
    have hreset : w.resetGpio ≠ 0 → w.resetGpio ∈ (w.lines.without w.irqGpio).gpios := by
      rcases h.parsed hret with ⟨-, hzero, -⟩ | ⟨hgpio, hgpio', hne, hgpios⟩
      · exact fun hne => absurd hzero hne
      · intro _
        unfold Lines.without
        split
        · simp [hgpio, hgpio', hgpios, Ne.symm hne]
        · simp [hgpio', hgpios]
    refine (freeGpio_exact hirq).bind_true fun _ _ hw' => ?_
    subst hw'
    apply Exact.modify_bind
    refine (freeGpio_exact hreset).bind_true fun _ _ hw' => ?_
    subst hw'
    refine .modify trivial ⟨0, 0, ((w.lines.without w.irqGpio).without w.resetGpio).gpios,
      ?_, ?_, fun _ => ⟨rfl, rfl⟩⟩
    · simp only [Lines.without]
      split_ifs <;> rfl
    · rcases h.parsed hret with ⟨hzero, hzero', hgpios⟩ | ⟨hgpio, hgpio', hne, hgpios⟩
      · simp [Lines.without, FreesAll, hzero, hzero', hgpios]
      · simp only [Lines.without, FreesAll, hgpio, hgpio', hgpios, hret]
        split_ifs <;> simp_all [Ne.symm hne]
  · rw [if_pos hret]
    apply Exact.pure trivial
    refine ⟨w.irqGpio, w.resetGpio, w.lines.gpios, rfl, ?_, fun hzero => absurd hzero hret⟩
    simp [FreesAll, hret]

theorem exit_exact (h : Linked board w) :
    Exact Called.Allowed w exit ((w.irq = 0 ∨ w.lines.Held) ∧ FreesAll board w)
      fun _ w' => Linked board w' := by
  refine (disableIrq_linked h.irq).bind_true fun _ _ hw' => ?_
  subst hw'
  have hfree := freeIrq_exact h.irq.disabled
  rw [disabled_irq, Lines.Held, disabled_lines_irq] at hfree
  refine hfree.bind fun _ _ _ hw' => ?_
  subst hw'
  apply Exact.modify_bind
  have hgpio : GpioLinked board { w.disabled.freed with deviceAvailable := false } :=
    ⟨h.gpio.disabled.gpios, h.gpio.disabled.parsed⟩
  refine (gpioFree_exact hgpio).bind_true fun _ w' hw' => ?_
  obtain ⟨irqGpio, resetGpio, gpios, rfl, hgpios, hzero⟩ := hw'
  have hall : FreesAll board { w.disabled.freed with deviceAvailable := false } ↔
      FreesAll board w := by
    simp [FreesAll, World.freed]
  rw [hall] at hgpios
  refine .congr (call_bind (C := True) fun hcall => ?_) ?_
  · obtain ⟨-, hnil⟩ := hcall
    apply Exact.pure trivial
    refine ⟨⟨h.irq.disabled.found, by simp [World.freed, Lines.after], ?_, ?_⟩, .inl hnil, ?_⟩
    · simp [World.freed, Lines.after, Lines.Held]
    · simp [World.freed, Lines.after, Lines.Held]
    · exact fun hret => .inl ⟨(hzero hret).1, (hzero hret).2, hnil⟩
  · rw [and_true, ← hgpios]
    exact and_iff_right rfl

/-! ### Init -/

theorem gpioRequest_exact : Exact Called.Allowed w (gpioRequest gpio outcome) True fun ret w' =>
      ret < 0 ∧ w' = w ∨ 0 ≤ ret ∧ gpio ∉ w.lines.gpios ∧
        w' = { w with lines := { w.lines with gpios := gpio :: w.lines.gpios } } := by
  apply Exact.get_bind
  refine Exact.congr (call_bind fun _ => Exact.pure trivial ?_) ?_
  · by_cases hheld : gpio ∈ w.lines.gpios
    · rw [if_pos hheld]
      exact .inl ⟨by decide, rfl⟩
    · rw [if_neg hheld]
      by_cases hret : outcome < 0
      · exact .inl ⟨hret, by simp [Lines.after, hret]⟩
      · exact .inr ⟨by omega, hheld, by simp [Lines.after, hret]⟩
  · exact iff_of_true ⟨trivial, trivial⟩ trivial

def Parsed (board : Board) (w : World) (ret : Int) (w' : World) : Prop :=
  ∃ irqGpio resetGpio gpios,
    w' = { w with irqGpio, resetGpio, lines := { w.lines with gpios } } ∧
    GpioLinked board { w' with requestIrqRet := ret }

theorem parseDt_exact (h : GpioLinked board w) (o : InitOutcome) :
    Exact Called.Allowed w (fpsensorParseDt board o) True (Parsed board w) := by
  apply Exact.modify_bind
  by_cases hreset : board.resetGpio < 0
  · rw [if_pos hreset]
    refine .pure trivial ⟨w.irqGpio, board.resetGpio, w.lines.gpios, rfl, h.gpios, ?_⟩
    intro hret
    exact absurd hret (by simp; omega)
  rw [if_neg hreset]
  apply Exact.modify_bind
  by_cases hirq : board.irqGpio < 0
  · rw [if_pos hirq]
    refine .pure trivial ⟨board.irqGpio, board.resetGpio, w.lines.gpios, rfl, h.gpios, ?_⟩
    intro hret
    exact absurd hret (by simp; omega)
  rw [if_neg hirq]
  refine (gpioRequest_exact).bind_true fun ret w' hw' => ?_
  rcases hw' with ⟨hret, rfl⟩ | ⟨hret, hnew, rfl⟩
  · rw [if_pos hret]
    refine .pure trivial ⟨board.irqGpio, board.resetGpio, w.lines.gpios, rfl, h.gpios, ?_⟩
    intro hzero
    exact absurd hzero (by simp; omega)
  rw [if_neg (by omega)]
  have hnil : w.lines.gpios = [] := by
    rcases h.gpios with hgpios | hgpios | hgpios
    · exact hgpios
    · simp [hgpios] at hnew
    · simp [hgpios] at hnew
  refine (gpioRequest_exact).bind_true fun ret' w' hw' => ?_
  rcases hw' with ⟨hret', rfl⟩ | ⟨hret', hnew', rfl⟩
  · rw [if_pos hret']
    refine .pure trivial ⟨board.irqGpio, board.resetGpio, [board.irqGpio], ?_, ?_, ?_⟩
    · simp [hnil]
    · simp [hnil]
    · intro hzero
      exact absurd hzero (by simp; omega)
  · rw [if_neg (by omega)]
    have hne : board.irqGpio ≠ board.resetGpio := by
      rintro heq
      simp [hnil, heq] at hnew'
    refine .pure trivial ⟨board.irqGpio, board.resetGpio,
      [board.resetGpio, board.irqGpio], ?_, ?_, fun _ => .inr ⟨rfl, rfl, hne, ?_⟩⟩
    all_goals simp [hnil]

theorem request_exact {irq : Int} :
    Exact Called.Allowed w (devmRequestThreadedIrq irq outcome) True fun _ w' =>
      (0 < irq ∧ w.lines.irq ≠ some irq ∧ outcome = 0) ∧
        w' = { w with lines := { w.lines with irq := some irq, depth := 0 } } ∨
      ¬(0 < irq ∧ w.lines.irq ≠ some irq ∧ outcome = 0) ∧ w' = w := by
  apply Exact.get_bind
  refine Exact.congr (call_bind fun _ => Exact.pure trivial ?_) ?_
  · by_cases hgiven : 0 < irq ∧ w.lines.irq ≠ some irq ∧ outcome = 0
    · obtain ⟨hpos, hfree, houtcome⟩ := hgiven
      refine .inl ⟨⟨hpos, hfree, houtcome⟩, ?_⟩
      rw [if_neg (by omega), if_neg hfree]
      simp [Lines.after, houtcome]
    · refine .inr ⟨hgiven, ?_⟩
      split_ifs with hpos hfree
      · simp [Lines.after, einval]
      · simp [Lines.after, ebusy]
      · have houtcome : outcome ≠ 0 := fun hzero => hgiven ⟨by omega, hfree, hzero⟩
        simp [Lines.after, houtcome]
  · exact iff_of_true ⟨trivial, trivial⟩ trivial

theorem IrqLinked.foundIrq (h : IrqLinked board w) (o : InitOutcome) :
    IrqLinked board { w with irq := w.foundIrq board o } := by
  refine ⟨?_, fun irq hirq => ?_, h.count, h.depth⟩
  · unfold World.foundIrq
    split
    · exact h.found
    · exact .inr rfl
  · obtain ⟨rfl, hpos⟩ := h.held irq hirq
    refine ⟨?_, hpos⟩
    unfold World.foundIrq
    split
    · rfl
    · rcases h.found with hzero | hfound
      · omega
      · exact hfound

theorem irqGpioCfg_exact (o : InitOutcome) :
    Exact Called.Allowed w (fpsensorIrqGpioCfg board o) True
      fun _ w' => w' = { w with irq := w.foundIrq board o } := by
  unfold fpsensorIrqGpioCfg World.foundIrq
  split
  · exact .pure trivial rfl
  · exact .modify trivial rfl

theorem initDisable_exact (w : World) (count : Bool) (retval : Int)
    (h : IrqLinked board { w with irqCount := count }) (hgpio : GpioLinked board w) :
    Exact Called.Allowed { w with deviceAvailable := true, irqCount := true }
      (do fpsensorDisableIrq; pure retval) (w.irq = 0 ∨ w.lines.Held ∧ w.lines.depth = 0)
      fun _ w' => Linked board w' := by
  have hiff : (true = true → w.irq ≠ 0 → w.lines.irq = some w.irq ∧ w.lines.depth = 0) ∧ True ↔
      w.irq = 0 ∨ w.lines.Held ∧ w.lines.depth = 0 := by
    rw [and_true, forall_prop_of_true rfl]
    by_cases hzero : w.irq = 0
    · simp [hzero]
    · rw [or_iff_right hzero, forall_prop_of_true hzero]
      refine and_congr_left fun _ => ⟨fun hirq => ?_, fun hheld => (h.irq_of_held hheld).1⟩
      exact Option.ne_none_iff_exists'.mpr ⟨_, hirq⟩
  refine .congr ((disableIrq_exact _).bind fun _ w' hcall hw' =>
    .pure trivial ?_) hiff
  subst hw'
  refine ⟨?_, GpioLinked.disabled ⟨hgpio.gpios, hgpio.parsed⟩⟩
  by_cases hzero : w.irq = 0
  · have hnone : w.lines.irq = none := by
      by_contra hheld
      have hpos : 0 < w.irq := (h.irq_of_held hheld).2
      omega
    simp only [World.disabled, hzero]
    exact ⟨.inl rfl, by simp [hnone], by simp [Lines.Held, hnone], by simp [Lines.Held, hnone]⟩
  · have henable : w.lines.irq = some w.irq ∧ w.lines.depth = 0 := hcall rfl hzero
    obtain ⟨hirq, hdepth⟩ := henable
    have hpos : 0 < w.irq := (h.irq_of_held (by simp [Lines.Held, hirq])).2
    simp only [World.disabled, Lines.after, hirq, hdepth, Bool.and_self, if_true, if_pos hzero]
    refine ⟨h.found, ?_, ?_, ?_⟩
    · rintro irq ⟨⟩
      exact ⟨rfl, hpos⟩
    · simp
    · simp

theorem init_exact (h : Linked board w) (o : InitOutcome) :
    Exact Called.Allowed w (init board o) (w.InitGiven board o) fun _ w' => Linked board w' := by
  refine (parseDt_exact h.gpio o).bind_true fun ret w' hparsed => ?_
  obtain ⟨irqGpio, resetGpio, gpios, rfl, hgpio⟩ := hparsed
  apply Exact.modify_bind
  refine (irqGpioCfg_exact o).bind_true fun _ _ hw' => ?_
  subst hw'
  apply Exact.get_bind
  have hirq := h.irq.foundIrq o
  refine (request_exact).bind_true fun retval _ hreq => ?_
  have hnone : w.lines.irq ≠ some (w.foundIrq board o) ↔ w.lines.irq = none := by
    refine ⟨fun hne => ?_, fun hnone => by simp [hnone]⟩
    by_contra hheld
    exact hne (hirq.irq_of_held hheld).1
  rcases hreq with ⟨⟨hpos, hfree, hok⟩, rfl⟩ | ⟨hnot, rfl⟩
  · apply Exact.modify_bind
    let given : World := { w with
      irqGpio, resetGpio, requestIrqRet := ret, irq := w.foundIrq board o
      lines := ⟨some (w.foundIrq board o), 0, gpios⟩ }
    have hgiven : IrqLinked board { given with irqCount := true } := by
      refine ⟨hirq.found, ?_, by simp [given, Lines.Held], by simp [given]⟩
      rintro irq ⟨⟩
      exact ⟨rfl, hpos⟩
    refine .congr (initDisable_exact given true retval hgiven
      ⟨hgpio.gpios, hgpio.parsed⟩) (iff_of_true ?_ ?_)
    · exact .inr ⟨by simp [given, Lines.Held], rfl⟩
    · exact .inr (.inl ⟨hnone.mp hfree, hpos, hok⟩)
  · apply Exact.modify_bind
    let kept : World := { w with
      irqGpio, resetGpio, requestIrqRet := ret, irq := w.foundIrq board o
      lines := { w.lines with gpios } }
    have hkept : IrqLinked board { kept with irqCount := w.irqCount } :=
      ⟨hirq.found, hirq.held, hirq.count, hirq.depth⟩
    refine .congr (initDisable_exact kept w.irqCount retval hkept
      ⟨hgpio.gpios, hgpio.parsed⟩) ?_
    refine or_congr_right (or_iff_right ?_).symm
    rintro ⟨hfree, hpos, hok⟩
    exact hnot ⟨hpos, hnone.mpr hfree, hok⟩

/-! ### Release -/

theorem IrqLinked.released_iff (h : IrqLinked board w) :
    (w.disabled.lines.irq = none ∨ w.disabled.lines.depth ≠ 0) ↔
      (w.lines.Held → w.lines.depth = 0 → w.deviceAvailable = true) := by
  by_cases henable : w.lines.Held ∧ w.lines.depth = 0
  · have hcount := h.count.mpr henable
    obtain ⟨hirq, hpos⟩ := h.irq_of_held henable.1
    have hne : w.irq ≠ 0 := by omega
    cases havail : w.deviceAvailable with
    | true => simp [World.disabled, Lines.after, havail, hcount, hne, hirq]
    | false => simp [World.disabled, havail, henable.1, henable.2, hirq]
  · have hcount : ¬w.irqCount = true := fun hcount => henable (h.count.mp hcount)
    have hsame : w.disabled = w := by simp [World.disabled, hcount]
    rw [hsame]
    refine iff_of_true ?_ fun hheld hdepth => absurd ⟨hheld, hdepth⟩ henable
    by_cases hnone : w.lines.irq = none
    · exact .inl hnone
    · exact .inr fun hdepth => henable ⟨hnone, hdepth⟩

theorem close_exact (h : IrqLinked board w) {last : Bool} :
    Exact Called.Allowed w (fpsensorRelease.close last) True
      fun _ w' => w' = if last then w.disabled else w := by
  cases last with
  | true => exact disableIrq_linked h
  | false => exact .pure trivial rfl

theorem release_exact (h : Linked board w) (husers : w.users ≠ 0) :
    Exact Called.Allowed w fpsensorRelease
      (w.users = 1 → w.lines.Held → w.lines.depth = 0 → w.deviceAvailable = true)
      fun _ w' => Linked board w' := by
  obtain ⟨hirq, hgpio⟩ := h.elsewhere (w.users - 1) w.deviceAvailable w.removed
  apply Exact.get_bind
  apply Exact.modify_bind
  refine (close_exact hirq).bind_true fun _ w' hw' => ?_
  have hlink : Linked board w' := by
    rw [hw']
    split
    · exact ⟨hirq.disabled, hgpio.disabled⟩
    · exact ⟨hirq, hgpio⟩
  apply Exact.modify_bind
  refine Exact.congr (call_bind fun _ => Exact.pure trivial ?_) ?_
  · exact hlink.elsewhere _ _ _
  · have hlast : decide (w.users - 1 = 0) = true ↔ w.users = 1 := by
      rw [decide_eq_true_iff]
      omega
    rw [and_true]
    refine (imp_congr_ctx hlast fun hone => ?_)
    rw [hw', if_pos (hlast.mpr hone)]
    exact hirq.released_iff

theorem ioctl_exact (h : Linked board w) (cmd : Ioctl) :
    Exact Called.Allowed w (fpsensorIoctl board cmd) (cmd.Disciplined board w)
      fun _ w' => Linked board w' := by
  cases cmd with
  | init o => exact init_exact h o
  | exit => exact exit_exact h
  | enableIrq =>
    refine .congr ((enableIrq_exact h).bind fun _ _ _ hw' => .pure trivial hw')
      (and_iff_left trivial)
  | disableIrq =>
    refine (disableIrq_linked h.irq).bind_true fun _ _ hw' => .pure trivial ?_
    rw [hw']
    exact ⟨h.irq.disabled, h.gpio.disabled⟩
  | remove =>
    refine .congr ((exit_exact h).bind fun _ _ _ hw' => .modify_bind
      (.pure trivial ?_)) (and_iff_left trivial)
    exact hw'.elsewhere _ _ _
  | other => exact .pure trivial h

theorem step_allowed_iff (h : Linked board w) (e : Event) :
    (∀ c ∈ (step board w e).1, c.Allowed) ↔ Disciplined board w e := by
  cases e with
  | opened =>
    refine iff_of_true ?_ trivial
    simp only [step]
    split <;> simp
  | ioctl cmd =>
    simp only [step, Disciplined]
    by_cases husers : w.users = 0
    · simp [husers]
    · rw [if_neg husers, forall_prop_of_true husers]
      exact (ioctl_exact h cmd).1
  | release =>
    simp only [step, Disciplined]
    by_cases husers : w.users = 0
    · simp [husers]
    · rw [if_neg husers]
      exact (release_exact h husers).1

theorem step_linked (h : Linked board w) {e : Event} (hdisciplined : Disciplined board w e) :
    Linked board (step board w e).2 := by
  cases e with
  | opened =>
    simp only [step]
    split
    · exact h
    · exact h.elsewhere _ _ _
  | ioctl cmd =>
    simp only [step]
    by_cases husers : w.users = 0
    · rwa [if_pos husers]
    · rw [if_neg husers]
      obtain ⟨_, -, hlink⟩ := (ioctl_exact h cmd).2 (hdisciplined husers)
      exact hlink
  | release =>
    simp only [step]
    by_cases husers : w.users = 0
    · rwa [if_pos husers]
    · rw [if_neg husers]
      obtain ⟨_, -, hlink⟩ := (release_exact h husers).2 hdisciplined
      exact hlink

theorem start_linked : Linked board start := by
  refine ⟨⟨.inl rfl, ?_, ?_, ?_⟩, ⟨.inl rfl, fun _ => .inl ⟨rfl, rfl, rfl⟩⟩⟩
  · simp [start]
  · simp [start, Lines.Held]
  · simp [start, Lines.Held]

/-- The driver keeps the kernel's rules as its programs keep theirs. -/
theorem lines_allowed_iff (board : Board) (events : List Event) :
    (∀ c ∈ (run (step board) start events).1, c.Allowed) ↔
      Meets (step board) (Disciplined board) start events :=
  forall_run_iff_meets_of_inv (fun w e (h : Linked board w) => step_allowed_iff h e)
    (fun w _ (h : Linked board w) hdisciplined => step_linked h hdisciplined) start_linked events

def someBoard : Board := ⟨1, 2, 3⟩

def granted : InitOutcome := ⟨0, 0, 0, 0⟩

def refused : InitOutcome := ⟨0, 0, 0, -22⟩

theorem lines_not_allowed : (∃ c ∈ (run (step someBoard) start
        [.opened, .ioctl (.init granted), .ioctl .exit, .ioctl .exit]).1,
      c.call = .freeIrq 3 ∧ c.lines.irq = none) ∧
    (∃ c ∈ (run (step someBoard) start [.opened, .ioctl .enableIrq]).1,
      c.call = .enableIrq 0 ∧ c.lines.irq = none) ∧
    (∃ c ∈ (run (step someBoard) start [.opened, .ioctl (.init refused)]).1,
      c.call = .disableIrqNosync 3 ∧ c.lines.irq = none) ∧ (∃ c ∈ (run (step someBoard) start
        [.opened, .ioctl (.init granted), .ioctl .enableIrq, .ioctl (.init granted),
          .ioctl .exit]).1, c.call = .exited ∧ c.lines.gpios = [2, 1]) ∧
    (∃ c ∈ (run (step someBoard) start
        [.opened, .opened, .ioctl (.init granted), .ioctl .enableIrq, .release, .release]).1,
      c.call = .released true ∧ c.lines.irq = some 3 ∧ c.lines.depth = 0) ∧
    ¬∀ (board : Board) (events : List Event),
      ∀ c ∈ (run (step board) start events).1, c.Allowed := by
  refine ⟨by decide +kernel, by decide +kernel, by decide +kernel, by decide +kernel,
    by decide +kernel, ?_⟩
  intro h
  exact absurd (h someBoard [.opened, .ioctl .enableIrq]) (by decide +kernel)

end WikoPlatform.Kernel.Fpsensor
