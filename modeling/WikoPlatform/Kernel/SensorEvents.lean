import WikoPlatform.Lib.Runs

/-! How an event of the fingerprint driver reaches the reader: `fp_drv` stores it and sends a
signal, the handler copies it to a second variable and posts a semaphore, and the reader takes it.
The thread that watches the power key stores into the second variable as well. -/

namespace WikoPlatform.Kernel.SensorEvents

open Runs

def hwEventDown : Int := 1
def hwEventUp : Int := 2
def hwEventFbBlank : Int := 10
def hwEventFbUnblank : Int := 11
def hwEventWakeup : Int := 99
def keyPower : Int := 116

/-- How many activities stand before each statement that another one can come in between of. -/
structure World where
  isFpQuickWakeUpSupport : Int
  irqReportDisableFlag : Bool
  disableByUser : Bool
  /-- `fasync_queue` is not null. -/
  fasyncQueue : Bool
  fpReportEvent : Int
  /-- Events that are stored and for which `kill_fasync` is not called yet. -/
  unsignalled : Nat
  /-- `SIGIO` is pending. A second one is not counted. -/
  sigio : Bool
  /-- Runs of `fp_input_handler` before `copy_to_user`, before `fp_report_event = 0`, and before
  `sem_post`. -/
  entered : Nat
  copied : Nat
  cleared : Nat
  fpQwkEnableFlag : Int
  fpEventValue : Int
  pressed : Nat
  msgSem : Nat
  waited : Nat
  deriving DecidableEq

inductive Event where
  -- `fp_event_record` up to `fp_report_event = x`, and the `kill_fasync` behind it
  | record (key : Int)
  | killFasync
  -- the signal, and the statements of its handler
  | deliver
  | copyToUser
  | clear
  | handlerPost
  -- `KEY_POWER` in `input_key_event_wait`
  | powerKey
  | keyPost
  -- `fp_native_report_event`
  | semWait
  | readValue
  -- the other ioctls, and a change of the subscription
  | resetEvent (val : Int)
  | qwkEnable (val : Int)
  | fasync (on : Bool)

inductive Deed where
  | posted (value : Int)
  | returned (value : Int)
  deriving DecidableEq

namespace World

def killMsg (w : World) (key : Int) : List Deed × World :=
  if w.fasyncQueue then
    ([.posted key], { w with fpReportEvent := key, unsignalled := w.unsignalled + 1 })
  else ([], w)

def goGoGo (w : World) (key : Int) : List Deed × World :=
  if key = hwEventDown ∨ key = hwEventUp ∨ key = hwEventFbUnblank ∨ key = hwEventFbBlank then
    w.killMsg key
  else if key = hwEventWakeup ∧ w.irqReportDisableFlag = false ∧ w.disableByUser = false then
    { w with irqReportDisableFlag := true }.killMsg key
  else ([], w)

def fpEventRecord (w : World) (key : Int) : List Deed × World :=
  if w.isFpQuickWakeUpSupport ≠ 0 then w.goGoGo key else ([], w)

def resetEvent (w : World) (val : Int) : World :=
  if val ≠ 0 then { w with disableByUser := true }
  else { w with disableByUser := false, irqReportDisableFlag := false }

def step (w : World) : Event → List Deed × World
  | .record key => w.fpEventRecord key
  | .killFasync =>
    if 0 < w.unsignalled then ([], { w with unsignalled := w.unsignalled - 1, sigio := true })
    else ([], w)
  | .deliver =>
    if w.sigio then ([], { w with sigio := false, entered := w.entered + 1 }) else ([], w)
  | .copyToUser =>
    if 0 < w.entered then
      ([], { w with
        fpEventValue := w.fpReportEvent, entered := w.entered - 1, copied := w.copied + 1 })
    else ([], w)
  | .clear =>
    if 0 < w.copied then
      ([], { w with fpReportEvent := 0, copied := w.copied - 1, cleared := w.cleared + 1 })
    else ([], w)
  | .handlerPost =>
    if 0 < w.cleared then ([], { w with cleared := w.cleared - 1, msgSem := w.msgSem + 1 })
    else ([], w)
  | .powerKey =>
    if 1 ≤ w.fpQwkEnableFlag then
      ([.posted keyPower], { w with fpEventValue := keyPower, pressed := w.pressed + 1 })
    else ([], w)
  | .keyPost =>
    if 0 < w.pressed then ([], { w with pressed := w.pressed - 1, msgSem := w.msgSem + 1 })
    else ([], w)
  | .semWait =>
    if 0 < w.msgSem then ([], { w with msgSem := w.msgSem - 1, waited := w.waited + 1 })
    else ([], w)
  | .readValue =>
    if 0 < w.waited then ([.returned w.fpEventValue], { w with waited := w.waited - 1 })
    else ([], w)
  | .resetEvent val => ([], w.resetEvent val)
  | .qwkEnable val => ([], { w with isFpQuickWakeUpSupport := val })
  | .fasync on => ([], { w with fasyncQueue := on })

end World

def start (isFpQuickWakeUpSupport fpQwkEnableFlag : Int) (fasyncQueue : Bool) : World where
  isFpQuickWakeUpSupport
  irqReportDisableFlag := false
  disableByUser := false
  fasyncQueue
  fpReportEvent := 0
  unsignalled := 0
  sigio := false
  entered := 0
  copied := 0
  cleared := 0
  fpQwkEnableFlag
  fpEventValue := 0
  pressed := 0
  msgSem := 0
  waited := 0

def posted (trace : List Deed) : List Int :=
  trace.filterMap fun
    | .posted value => some value
    | .returned _ => none

def returned (trace : List Deed) : List Int :=
  trace.filterMap fun
    | .posted _ => none
    | .returned value => some value

namespace World

def inDriver (w : World) : Nat := w.unsignalled + w.sigio.toNat + w.entered

def inProcess (w : World) : Nat := w.copied + w.cleared + w.pressed + w.msgSem + w.waited

def Idle (w : World) : Prop := w.inDriver = 0 ∧ w.inProcess = 0

end World

/-- What was posted was returned, up to what is not read yet. -/
def ArrivesOnce (trace : List Deed) (w : World) : Prop :=
  ∃ unread, posted trace = returned trace ++ unread ∧ (w.Idle → unread = [])

/-- Nobody stores over an event, and no power key overtakes. -/
def InTurn (w : World) : Event → Prop
  | .record key => (w.fpEventRecord key).1 ≠ [] → w.inDriver = 0 ∧ w.copied = 0
  | .copyToUser => 0 < w.entered → w.inProcess = 0
  | .powerKey => 1 ≤ w.fpQwkEnableFlag → w.inDriver = 0 ∧ w.inProcess = 0
  | _ => True

instance decidableInTurn (w : World) (e : Event) : Decidable (InTurn w e) := by
  unfold InTurn
  split <;> infer_instance

/-- Each variable holds at most one event, and the two hold what is not read yet. -/
structure Carried (trace : List Deed) (w : World) : Prop where
  driver : w.inDriver + w.copied ≤ 1
  process : w.inProcess ≤ 1
  unread : posted trace = returned trace ++ List.replicate w.inProcess w.fpEventValue ++
    List.replicate w.inDriver w.fpReportEvent

variable {trace : List Deed} {w w' : World}

theorem posted_append (trace out : List Deed) :
    posted (trace ++ out) = posted trace ++ posted out :=
  List.filterMap_append

section

variable (h : Carried trace w)
include h

theorem Carried.moved (hdriver : w'.inDriver = w.inDriver) (hprocess : w'.inProcess = w.inProcess)
    (hcopied : w'.copied ≤ w.copied) (hvalue : w'.fpEventValue = w.fpEventValue)
    (hreport : 0 < w.inDriver → w'.fpReportEvent = w.fpReportEvent) : Carried (trace ++ []) w' := by
  have hcarried := h.driver
  refine ⟨by omega, by rw [hprocess]; exact h.process, ?_⟩
  rw [List.append_nil, h.unread, hdriver, hprocess, hvalue]
  rcases Nat.eq_zero_or_pos w.inDriver with hzero | hpos
  · rw [hzero]
    rfl
  · rw [hreport hpos]

theorem Carried.killMsg (key : Int)
    (hturn : (w.killMsg key).1 ≠ [] → w.inDriver = 0 ∧ w.copied = 0) :
    Carried (trace ++ (w.killMsg key).1) (w.killMsg key).2 := by
  unfold World.killMsg at hturn ⊢
  split_ifs at hturn ⊢ with hqueue
  · obtain ⟨hdriver, hcopied⟩ := hturn (by simp)
    have hone : w.unsignalled + 1 + w.sigio.toNat + w.entered = 1 := by
      simp only [World.inDriver] at hdriver
      omega
    refine ⟨?_, h.process, ?_⟩
    · simp only [World.inDriver, hone, hcopied]
      exact Nat.le_refl 1
    · rw [posted_append, h.unread, hdriver]
      simp [World.inDriver, World.inProcess, hone, posted, returned]
  · simpa using h

theorem Carried.record (key : Int) (hturn : InTurn w (.record key)) :
    Carried (trace ++ (w.fpEventRecord key).1) (w.fpEventRecord key).2 := by
  change (w.fpEventRecord key).1 ≠ [] → _ at hturn
  unfold World.fpEventRecord World.goGoGo at hturn ⊢
  split_ifs at hturn ⊢
  · exact h.killMsg key hturn
  · -- the flag plays no part in what is carried
    have hflag : Carried trace { w with irqReportDisableFlag := true } := ⟨h.1, h.2, h.3⟩
    exact hflag.killMsg key hturn
  · simpa using h
  · simpa using h

theorem Carried.killFasync (hsome : 0 < w.unsignalled) :
    Carried (trace ++ []) { w with unsignalled := w.unsignalled - 1, sigio := true } := by
  have hdriver := h.driver
  have hsigio : w.sigio = false := by
    cases hsigio : w.sigio with
    | false => rfl
    | true =>
      simp only [World.inDriver, hsigio, Bool.toNat_true] at hdriver
      omega
  refine h.moved ?_ rfl (Nat.le_refl _) rfl fun _ => rfl
  simp only [World.inDriver, hsigio, Bool.toNat_true, Bool.toNat_false]
  omega

theorem Carried.deliver (hsigio : w.sigio = true) :
    Carried (trace ++ []) { w with sigio := false, entered := w.entered + 1 } := by
  refine h.moved ?_ rfl (Nat.le_refl _) rfl fun _ => rfl
  simp only [World.inDriver, hsigio, Bool.toNat_true, Bool.toNat_false]
  omega

theorem Carried.copyToUser (henter : 0 < w.entered) (hnone : w.inProcess = 0) :
    Carried (trace ++ []) { w with
      fpEventValue := w.fpReportEvent, entered := w.entered - 1, copied := w.copied + 1 } := by
  have hdriver := h.driver
  have hone : w.inDriver = 1 := by
    simp only [World.inDriver] at hdriver ⊢
    omega
  have hunread := h.unread
  rw [hnone, hone] at hunread
  refine ⟨?_, ?_, ?_⟩
  · simp only [World.inDriver] at hdriver ⊢
    omega
  · simp only [World.inProcess] at hnone ⊢
    omega
  · have hleft : w.unsignalled + w.sigio.toNat + (w.entered - 1) = 0 := by
      simp only [World.inDriver] at hone
      omega
    have hthere : w.copied + 1 + w.cleared + w.pressed + w.msgSem + w.waited = 1 := by
      simp only [World.inProcess] at hnone
      omega
    simp [World.inDriver, World.inProcess, hleft, hthere, hunread]

theorem Carried.clear (hcopied : 0 < w.copied) : Carried (trace ++ [])
      { w with fpReportEvent := 0, copied := w.copied - 1, cleared := w.cleared + 1 } := by
  have hdriver := h.driver
  refine h.moved rfl ?_ (Nat.sub_le _ _) rfl fun hpos => ?_
  · simp only [World.inProcess]
    omega
  · -- what is cleared has left the driver
    omega

theorem Carried.powerKey (hdriver : w.inDriver = 0) (hprocess : w.inProcess = 0) :
    Carried (trace ++ [Deed.posted keyPower])
      { w with fpEventValue := keyPower, pressed := w.pressed + 1 } := by
  have hunread := h.unread
  rw [hprocess] at hunread
  have hthere : w.copied + w.cleared + (w.pressed + 1) + w.msgSem + w.waited = 1 := by
    simp only [World.inProcess] at hprocess
    omega
  refine ⟨h.driver, Nat.le_of_eq hthere, ?_⟩
  rw [posted_append, hunread]
  simp only [World.inDriver] at hdriver
  simp [World.inDriver, World.inProcess, hthere, hdriver, posted, returned]

theorem Carried.readValue (hwait : 0 < w.waited) :
    Carried (trace ++ [Deed.returned w.fpEventValue]) { w with waited := w.waited - 1 } := by
  have hprocess := h.process
  have hone : w.inProcess = 1 := by
    simp only [World.inProcess] at hprocess ⊢
    omega
  have hleft : w.copied + w.cleared + w.pressed + w.msgSem + (w.waited - 1) = 0 := by
    simp only [World.inProcess] at hone
    omega
  have hunread := h.unread
  rw [hone] at hunread
  refine ⟨h.driver, Nat.le_trans (Nat.le_of_eq hleft) (Nat.zero_le 1), ?_⟩
  rw [posted_append, hunread]
  simp [World.inDriver, World.inProcess, hleft, posted, returned]

theorem Carried.passed {cleared pressed msgSem waited : Nat}
    (hsum : w.cleared + w.pressed + w.msgSem + w.waited = cleared + pressed + msgSem + waited) :
    Carried (trace ++ []) { w with cleared, pressed, msgSem, waited } := by
  refine h.moved rfl ?_ (Nat.le_refl _) rfl fun _ => rfl
  simp only [World.inProcess]
  omega

end

theorem step_carried (trace : List Deed) (w : World) (e : Event) (h : Carried trace w)
    (hturn : InTurn w e) : Carried (trace ++ (w.step e).1) (w.step e).2 := by
  have hstill : Carried (trace ++ []) w := by rwa [List.append_nil]
  cases e with
  | record key => exact h.record key hturn
  | killFasync =>
    simp only [World.step]
    split
    next hsome => exact h.killFasync hsome
    next => exact hstill
  | deliver =>
    simp only [World.step]
    split
    next hsigio => exact h.deliver hsigio
    next => exact hstill
  | copyToUser =>
    simp only [World.step]
    split
    next henter => exact h.copyToUser henter (hturn henter)
    next => exact hstill
  | clear =>
    simp only [World.step]
    split
    next hcopied => exact h.clear hcopied
    next => exact hstill
  | handlerPost | keyPost | semWait =>
    simp only [World.step]
    split
    · exact h.passed (by omega)
    · exact hstill
  | powerKey =>
    simp only [World.step]
    split
    next hflag => exact h.powerKey (hturn hflag).1 (hturn hflag).2
    next => exact hstill
  | readValue =>
    simp only [World.step]
    split
    next hwait => exact h.readValue hwait
    next => exact hstill
  | resetEvent val =>
    simp only [World.step, World.resetEvent]
    split
    all_goals exact h.moved rfl rfl (Nat.le_refl _) rfl fun _ => rfl
  | qwkEnable val | fasync on => exact h.moved rfl rfl (Nat.le_refl _) rfl fun _ => rfl

/-- Events in turn arrive in order, each once. -/
theorem events_arriveOnce (isFpQuickWakeUpSupport fpQwkEnableFlag : Int) (fasyncQueue : Bool)
    (events : List Event)
    (hturn : Meets World.step InTurn (start isFpQuickWakeUpSupport fpQwkEnableFlag fasyncQueue)
      events) :
    ArrivesOnce (run World.step (start isFpQuickWakeUpSupport fpQwkEnableFlag fasyncQueue) events).1
      (run World.step (start isFpQuickWakeUpSupport fpQwkEnableFlag fasyncQueue) events).2 := by
  have hstart : Carried [] (start isFpQuickWakeUpSupport fpQwkEnableFlag fasyncQueue) :=
    ⟨Nat.zero_le 1, Nat.zero_le 1, rfl⟩
  have h := run_invariant step_carried hstart hturn
  refine ⟨_, h.unread.trans (List.append_assoc _ _ _), ?_⟩
  rintro ⟨hdriver, hprocess⟩
  rw [hdriver, hprocess]
  rfl

def inTurn : List Event :=
  [.record 1, .killFasync, .deliver, .copyToUser, .clear, .handlerPost, .semWait, .readValue,
    .powerKey, .keyPost, .semWait, .readValue]

theorem events_arriveOnce_inTurn : Meets World.step InTurn (start 1 1 true) inTurn ∧
    ArrivesOnce (run World.step (start 1 1 true) inTurn).1
      (run World.step (start 1 1 true) inTurn).2 :=
  ⟨by decide, events_arriveOnce 1 1 true inTurn (by decide)⟩

def coalesced : List Event :=
  [.record 1, .killFasync, .record 2, .killFasync, .deliver, .copyToUser, .clear, .handlerPost,
    .semWait, .readValue]

def overwritten : List Event :=
  [.record 1, .killFasync, .deliver, .copyToUser, .clear, .handlerPost, .powerKey, .keyPost,
    .semWait, .readValue]

def overtaken : List Event :=
  [.record 1, .killFasync, .powerKey, .keyPost, .semWait, .readValue]

def wiped : List Event :=
  [.record 1, .killFasync, .deliver, .copyToUser, .record 2, .clear, .handlerPost, .semWait,
    .readValue, .killFasync, .deliver, .copyToUser, .clear, .handlerPost, .semWait, .readValue]

theorem ArrivesOnce.returned_le_posted (h : ArrivesOnce trace w) :
    returned trace <+: posted trace := by
  obtain ⟨unread, heq, -⟩ := h
  exact ⟨unread, heq.symm⟩

theorem events_not_arriveOnce : ¬ArrivesOnce (run World.step (start 1 1 true) coalesced).1
      (run World.step (start 1 1 true) coalesced).2 ∧
    ¬ArrivesOnce (run World.step (start 1 1 true) overwritten).1
      (run World.step (start 1 1 true) overwritten).2 ∧
    ¬ArrivesOnce (run World.step (start 1 1 true) overtaken).1
      (run World.step (start 1 1 true) overtaken).2 ∧
    ¬ArrivesOnce (run World.step (start 1 1 true) wiped).1
      (run World.step (start 1 1 true) wiped).2 :=
  ⟨fun h => absurd h.returned_le_posted (by decide),
    fun h => absurd h.returned_le_posted (by decide),
    fun h => absurd h.returned_le_posted (by decide),
    fun h => absurd h.returned_le_posted (by decide)⟩

/-- The driver with what happened since the last reset: how many wake-ups were signalled, and
whether one came when nobody subscribed. -/
structure Watched where
  world : World
  signalled : Nat
  unheard : Bool

namespace Watched

/-- A wake-up with the quick wake-up on, which is not disabled. -/
def Wakes (x : Watched) (key : Int) : Prop :=
  key = hwEventWakeup ∧ x.world.isFpQuickWakeUpSupport ≠ 0 ∧ x.world.disableByUser = false

instance (x : Watched) (key : Int) : Decidable (x.Wakes key) := inferInstanceAs (Decidable (_ ∧ _))

def step (x : Watched) (e : Event) : List Deed × Watched :=
  let next := x.world.step e
  (next.1, match e with
    | .record key =>
      if x.Wakes key then
        ⟨next.2, x.signalled + next.1.length, x.unheard || !x.world.fasyncQueue⟩
      else { x with world := next.2 }
    | .resetEvent val => if val = 0 then ⟨next.2, 0, false⟩ else { x with world := next.2 }
    | _ => { x with world := next.2 })

/-- Only the first wake-up is signalled, and none before it dropped. -/
def OneShot (x : Watched) : Event → Prop
  | .record key => key = hwEventWakeup →
    ((x.world.step (.record key)).1 ≠ [] → x.signalled = 0 ∧ x.world.disableByUser = false) ∧
    ((x.world.step (.record key)).1 = [] → x.world.isFpQuickWakeUpSupport ≠ 0 →
      x.world.fasyncQueue = true → x.signalled ≠ 0 ∨ x.world.disableByUser = true)
  | _ => True

/-- No first wake-up comes after one that nobody heard. -/
def Heard (x : Watched) : Event → Prop
  | .record key => x.Wakes key → x.world.fasyncQueue = true → x.signalled = 0 → x.unheard = false
  | _ => True

instance (x : Watched) (e : Event) : Decidable (x.OneShot e) := by
  unfold OneShot
  split <;> infer_instance

/-- The first wake-up let through sets the flag. -/
def Flagged (x : Watched) : Prop :=
  x.world.irqReportDisableFlag = true ↔ x.signalled ≠ 0 ∨ x.unheard = true

variable {x : Watched} {key : Int}

theorem record_wakes (h : x.Wakes key) :
    x.world.step (.record key) = if x.world.irqReportDisableFlag then ([], x.world)
      else { x.world with irqReportDisableFlag := true }.killMsg key := by
  obtain ⟨rfl, hqwk, hdisabled⟩ := h
  rw [World.step, World.fpEventRecord, if_pos hqwk, World.goGoGo, if_neg (by decide)]
  cases x.world.irqReportDisableFlag <;> simp [hdisabled]

theorem record_sleeps (h : ¬x.Wakes hwEventWakeup) :
    x.world.step (.record hwEventWakeup) = ([], x.world) := by
  rw [World.step, World.fpEventRecord, World.goGoGo, if_neg (c := _ ∨ _) (by decide)]
  simp only [Wakes, true_and, not_and, Bool.not_eq_false] at h
  split_ifs with hqwk hflag
  · exact absurd (h hqwk) (by simp [hflag.2.2])
  · rfl
  · rfl

theorem record_flag (h : key ≠ hwEventWakeup) :
    (x.world.step (.record key)).2.irqReportDisableFlag = x.world.irqReportDisableFlag := by
  rw [World.step, World.fpEventRecord, World.goGoGo]
  simp only [h, false_and, if_false, World.killMsg]
  split_ifs <;> rfl

theorem oneShot_iff (e : Event) (hflag : x.Flagged) : x.OneShot e ↔ x.Heard e := by
  cases e with
  | record key =>
    by_cases hwakes : x.Wakes key
    · simp only [OneShot, Heard, record_wakes hwakes]
      obtain ⟨rfl, hqwk, hdisabled⟩ := hwakes
      unfold Flagged at hflag
      cases hset : x.world.irqReportDisableFlag <;> cases hqueue : x.world.fasyncQueue <;>
        cases hunheard : x.unheard <;> simp_all [Wakes, World.killMsg]
    · refine iff_of_true ?_ fun h => absurd h hwakes
      rintro rfl
      rw [record_sleeps hwakes]
      refine ⟨fun h => absurd rfl h, fun _ hqwk _ => .inr ?_⟩
      simpa [Wakes, hqwk] using hwakes
  | _ => rfl

theorem step_flagged (e : Event) (hflag : x.Flagged) : (x.step e).2.Flagged := by
  cases e with
  | record key =>
    by_cases hwakes : x.Wakes key
    · simp only [step, record_wakes hwakes, if_pos hwakes]
      unfold Flagged at hflag ⊢
      cases hset : x.world.irqReportDisableFlag <;> cases hqueue : x.world.fasyncQueue <;>
        simp_all [World.killMsg]
    · simp only [step, if_neg hwakes, Flagged]
      by_cases hkey : key = hwEventWakeup
      · rwa [hkey, record_sleeps (hkey ▸ hwakes)]
      · rwa [record_flag hkey]
  | resetEvent val =>
    simp only [step, World.step, World.resetEvent]
    by_cases hval : val = 0
    · simp [hval, Flagged]
    · simp only [hval, ne_eq, not_false_eq_true, if_true, if_false]
      exact hflag
  | killFasync | deliver | copyToUser | clear | handlerPost | powerKey | keyPost | semWait
  | readValue =>
    simp only [step, World.step]
    split <;> exact hflag
  | qwkEnable | fasync => exact hflag

end Watched

/-- Wake-ups are one-shot exactly if they are heard. -/
theorem wakeUps_oneShot_iff (isFpQuickWakeUpSupport fpQwkEnableFlag : Int) (fasyncQueue : Bool)
    (events : List Event) : Meets Watched.step Watched.OneShot
        ⟨start isFpQuickWakeUpSupport fpQwkEnableFlag fasyncQueue, 0, false⟩ events ↔
      Meets Watched.step Watched.Heard
        ⟨start isFpQuickWakeUpSupport fpQwkEnableFlag fasyncQueue, 0, false⟩ events := by
  have hstart : Watched.Flagged
      ⟨start isFpQuickWakeUpSupport fpQwkEnableFlag fasyncQueue, 0, false⟩ := by
    simp [Watched.Flagged, start]
  exact meets_congr_of_inv (fun x e (hflag : x.Flagged) => Watched.oneShot_iff e hflag)
    (fun _ e hflag _ => Watched.step_flagged e hflag) hstart events

theorem wakeUps_not_oneShot : ¬Meets Watched.step Watched.OneShot ⟨start 1 1 false, 0, false⟩
      [.record hwEventWakeup, .fasync true, .record hwEventWakeup] := by
  decide

end WikoPlatform.Kernel.SensorEvents
