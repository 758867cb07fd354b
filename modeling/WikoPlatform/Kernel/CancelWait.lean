import WikoPlatform.Lib.Runs

/-! `FPSENSOR_IOC_CANCEL_WAIT` of the Chipone driver for qcom, statement by statement, beside a
process in `poll`.  The ioctl wakes the process up before it sets `cancel`, and every ioctl begins
by clearing `cancel`. -/

namespace WikoPlatform.Kernel.CancelWait

open Runs

/-- The commands: `FPSENSOR_IOC_CANCEL_WAIT`, those that end with `setRcvIRQ(0)`, and all others. -/
inductive Command where
  | cancelWait
  | clearIrq
  | other
  deriving DecidableEq

inductive IoctlPoint where
  | outside
  -- `cancel` is cleared.
  | begun (cmd : Command)
  -- `FPSENSOR_IOC_CANCEL_WAIT` has woken up the wait queue.
  | woken
  deriving DecidableEq

/-- Where the process stands; `triggered` says that it was woken up since it was last told so. -/
inductive PollPoint where
  | outside
  | registered (triggered : Bool)
  | waiting (triggered : Bool)
  deriving DecidableEq

/-- `wake_up_interruptible` reaches everyone on the wait queue. -/
def PollPoint.wakeUp : PollPoint → PollPoint
  | .outside => .outside
  | .registered _ => .registered true
  | .waiting _ => .waiting true

structure World where
  cancel : Bool
  rcvIrq : Bool
  ioctl : IoctlPoint
  poller : PollPoint
  deriving DecidableEq

inductive PollResult where
  | error
  | ready
  | nothing
  deriving DecidableEq

inductive Deed where
  | began (cmd : Command)
  -- `FPSENSOR_IOC_CANCEL_WAIT` is done; `next` is what the process gets when only it goes on.
  | completed (next : Option PollResult)
  | polled (result : PollResult)
  deriving DecidableEq

namespace World

def test (w : World) : PollResult × World :=
  if w.cancel then (.error, { w with cancel := false, poller := .outside })
  else if w.rcvIrq then (.ready, { w with poller := .outside })
  else (.nothing, { w with poller := .waiting (w.poller = .registered true) })

/-- It registers, tests, or sleeps until it is woken up. -/
def poll (w : World) : List Deed × World :=
  match w.poller with
  | .outside => ([], { w with poller := .registered false })
  | .registered _ | .waiting true => ([.polled w.test.1], w.test.2)
  | .waiting false => ([], w)

def alone (w : World) : Option PollResult :=
  match w.poller with
  | .outside | .registered _ | .waiting true => some w.test.1
  | .waiting false => none

def advance (w : World) : List Deed × World :=
  match w.ioctl with
  | .outside => ([], w)
  | .begun .cancelWait => ([], { w with poller := w.poller.wakeUp, ioctl := .woken })
  | .begun .clearIrq => ([], { w with rcvIrq := false, ioctl := .outside })
  | .begun .other => ([], { w with ioctl := .outside })
  | .woken =>
    ([.completed { w with cancel := true }.alone], { w with cancel := true, ioctl := .outside })

end World

/-- `ioctl` begins one when none is under way, and `irq` is the interrupt. -/
inductive Event where
  | ioctl (cmd : Command)
  | advance
  | poll
  | irq

def World.step (w : World) : Event → List Deed × World
  | .ioctl cmd =>
    if w.ioctl = .outside then ([.began cmd], { w with cancel := false, ioctl := .begun cmd })
    else ([], w)
  | .advance => w.advance
  | .poll => w.poll
  | .irq => ([], { w with rcvIrq := true, poller := w.poller.wakeUp })

/-- A `FPSENSOR_IOC_CANCEL_WAIT` was done, and since then none was returned and no other such ioctl
began. It is owed `late` if another ioctl began since. -/
inductive Owed where
  | nothing
  | error
  | late
  deriving DecidableEq

def Owed.after (owed : Owed) : Deed → Owed
  | .began .cancelWait => .nothing
  | .began _ => if owed = .nothing then .nothing else .late
  | .completed _ => .error
  | .polled .error => .nothing
  | .polled _ => owed

/-- The world with what is owed, which only the specification knows. -/
structure Watched where
  world : World
  owed : Owed

def step (x : Watched) (e : Event) : List (Owed × Deed) × Watched :=
  ((x.world.step e).1.map fun d => (x.owed, d),
    ⟨(x.world.step e).2, (x.world.step e).1.foldl Owed.after x.owed⟩)

def start : Watched := ⟨⟨false, false, .outside, .outside⟩, .nothing⟩

/-- The process gets the error event exactly if it is owed. -/
def Delivered : Owed × Deed → Prop
  | (_, .began _) => True
  | (_, .completed next) => next = some .error
  | (owed, .polled result) => result = .error ↔ owed ≠ .nothing

def PollPoint.tests : PollPoint → Bool
  | .registered _ | .waiting true => true
  | .outside | .waiting false => false

/-- Nobody falls asleep between the wake-up and `cancel`, or tests too late. -/
def Timely (x : Watched) : Event → Prop
  | .advance => x.world.ioctl = .woken → x.world.poller ≠ .waiting false
  | .poll => x.world.poller.tests = true → x.owed ≠ .late
  | .ioctl _ | .irq => True

def Watched.Linked (x : Watched) : Prop := x.world.cancel = true ↔ x.owed = .error

variable {x : Watched} {w : World}

theorem test_error_iff : w.test.1 = .error ↔ w.cancel = true := by
  unfold World.test
  split_ifs with hcancel hirq <;> simp [hcancel]

theorem test_cancel (w : World) : w.test.2.cancel = false := by
  unfold World.test
  split_ifs with hcancel hirq <;> simp [hcancel]

theorem poll_of_tests (h : w.poller.tests = true) : w.poll = ([.polled w.test.1], w.test.2) := by
  unfold World.poll
  rcases hpoller : w.poller with _ | _ | triggered
  · simp [hpoller, PollPoint.tests] at h
  · rfl
  · cases triggered with
    | true => rfl
    | false => simp [hpoller, PollPoint.tests] at h

theorem poll_of_not_tests (h : w.poller.tests = false) :
    w.poll.1 = [] ∧ w.poll.2.cancel = w.cancel := by
  unfold World.poll
  rcases hpoller : w.poller with _ | _ | triggered
  · exact ⟨rfl, rfl⟩
  · simp [hpoller, PollPoint.tests] at h
  · cases triggered with
    | true => simp [hpoller, PollPoint.tests] at h
    | false => exact ⟨rfl, rfl⟩

theorem alone_cancelled_iff :
    { w with cancel := true }.alone = some .error ↔ w.poller ≠ .waiting false := by
  unfold World.alone
  rcases w.poller with _ | _ | triggered
  · simp [test_error_iff]
  · simp [test_error_iff]
  · cases triggered <;> simp [test_error_iff]

theorem step_delivered_iff (h : x.Linked) (e : Event) :
    (∀ o ∈ (step x e).1, Delivered o) ↔ Timely x e := by
  cases e with
  | ioctl cmd =>
    refine iff_of_true ?_ trivial
    simp only [step, World.step]
    split <;> simp [Delivered]
  | irq => exact iff_of_true (by simp [step, World.step]) trivial
  | advance =>
    simp only [step, World.step, World.advance, Timely]
    rcases hioctl : x.world.ioctl with _ | cmd | _
    · simp
    · cases cmd <;> simp
    · simpa [Delivered, hioctl] using alone_cancelled_iff (w := x.world)
  | poll =>
    simp only [step, World.step, Timely]
    by_cases htests : x.world.poller.tests = true
    · rw [poll_of_tests htests, forall_prop_of_true htests]
      have hiff : x.world.test.1 = .error ↔ x.owed = .error := test_error_iff.trans h
      simp only [List.map_cons, List.map_nil, List.forall_mem_singleton, Delivered, hiff]
      cases x.owed <;> simp
    · have hnot : x.world.poller.tests = false := by simpa using htests
      simp [(poll_of_not_tests hnot).1, hnot]

theorem step_linked (h : x.Linked) (e : Event) : (step x e).2.Linked := by
  cases e with
  | ioctl cmd =>
    simp only [step, World.step]
    split
    · cases cmd <;> cases x.owed <;> simp [Watched.Linked, Owed.after]
    · exact h
  | irq => exact h
  | advance =>
    simp only [step, World.step, World.advance]
    rcases hioctl : x.world.ioctl with _ | cmd | _
    · exact h
    · cases cmd <;> exact h
    · simp [Watched.Linked, Owed.after]
  | poll =>
    simp only [step, World.step]
    by_cases htests : x.world.poller.tests = true
    · rw [poll_of_tests htests]
      have hiff : x.world.test.1 = .error ↔ x.owed = .error := test_error_iff.trans h
      simp only [Watched.Linked, test_cancel, List.foldl_cons, List.foldl_nil, Bool.false_eq_true,
        false_iff]
      cases hres : x.world.test.1 with
      | error => simp [Owed.after]
      | ready | nothing => simpa [Owed.after, hres] using hiff
    · have hnot : x.world.poller.tests = false := by simpa using htests
      obtain ⟨hnone, hcancel⟩ := poll_of_not_tests hnot
      rw [Watched.Linked, hcancel, hnone]
      exact h

theorem cancel_delivered_iff (events : List Event) :
    (∀ o ∈ (run step start events).1, Delivered o) ↔ Meets step Timely start events := by
  have hstart : start.Linked := by simp [Watched.Linked, start]
  exact forall_run_iff_meets_of_inv (fun x e (h : x.Linked) => step_delivered_iff h e)
    (fun x e (h : x.Linked) _ => step_linked h e) hstart events

theorem cancel_not_delivered :
    (run step start [.poll, .poll, .ioctl .cancelWait, .advance, .poll, .advance]).1 =
      [(.nothing, .polled .nothing), (.nothing, .began .cancelWait), (.nothing, .polled .nothing),
        (.nothing, .completed none)] ∧
    (run step start [.ioctl .cancelWait, .advance, .advance, .ioctl .other, .poll, .poll]).1 =
      [(.nothing, .began .cancelWait), (.nothing, .completed (some .error)),
        (.error, .began .other), (.late, .polled .nothing)] ∧
    ¬∀ events, ∀ o ∈ (run step start events).1, Delivered o := by
  refine ⟨by decide, by decide, ?_⟩
  intro h
  have hdeliver := h [.poll, .poll, .ioctl .cancelWait, .advance, .poll, .advance]
    (.nothing, .completed none) (by decide)
  simp [Delivered] at hdeliver

end WikoPlatform.Kernel.CancelWait
