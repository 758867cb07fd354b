import WikoPlatform.Chipone.Handoff

/-! The buffers of `fpTaCmdProcessor`, in which every command is constructed and answered. Nothing
locks them: a client may use them while the worker is paused. -/

namespace WikoPlatform.Chipone

open Runs

/-- The tags of `service_control` and `do_tool_control_cmd`, as far as they tell them apart. -/
inductive ControlTag where
  | navigatorEnable (enable : Bool)
  | navigatorGetStatus
  | miscPrintSystemInfo
  | releaseModeEnableLogd
  | injectionAuthenticateTest
  | miscControlAgingTest
  | enrollPause
  | enrollResume
  | checkBoard
  | selfTest
  | fingerDetectTest
  | other
  deriving DecidableEq

inductive ExtensionCmd where
  | startEnroll
  | finishEnroll
  | enrollImage
  | getFingerRectCnt
  | getSize
  | setProperty
  | getImageQuality
  | getTemplateIds
  | getFingerRect
  | captureRawImage
  | control (tag : ControlTag)
  | selfTest
  | checkBoard
  | navigatorAddkey
  | detectFinger
  deriving DecidableEq

/-- The entry points of the HAL. -/
inductive Entry where
  | setActiveGroup (gid : Int)
  | openHal
  | closeHal
  | getAuthenticatorId
  | deleteFid (gid fid : Int)
  | cancel
  | enroll (gid timeout : Int)
  | preEnroll
  | postEnroll
  | authenticate (sessionId : Nat) (gid : Int)
  | getEnrolledFids
  | enumerate
  | fingerDetect
  | serviceControl (tag : ControlTag)
  | extension (cmd : ExtensionCmd)
  deriving DecidableEq

/-- How an entry point is locked. -/
inductive Access where
  -- The daemon mutex, `goto_idle`, the body of the call and `resume_thread`.
  | paused (call : Call)
  -- The daemon mutex only, and `set_thread_default_task` if there is something to set.
  | unpaused (enable : Option Bool)
  | unlocked
  deriving DecidableEq

def ExtensionCmd.access : ExtensionCmd → Access
  | .startEnroll | .finishEnroll | .enrollImage | .getFingerRectCnt | .getSize | .setProperty
  | .getImageQuality | .getTemplateIds | .getFingerRect | .selfTest | .checkBoard
  | .navigatorAddkey => .paused .tac
  -- their tasks report to the socket and not to the callback, as `finger_detect` does
  | .captureRawImage | .detectFinger => .paused .fingerDetect
  | .control (.navigatorEnable enable) => .unpaused (some enable)
  | .control .navigatorGetStatus | .control .releaseModeEnableLogd
  | .control .miscControlAgingTest | .control .injectionAuthenticateTest => .unpaused none
  | .control .miscPrintSystemInfo | .control .enrollPause | .control .enrollResume
  | .control .checkBoard | .control .selfTest | .control .fingerDetectTest
  | .control .other => .paused .tac

/-- The injection test is sent by the client's thread. -/
def ExtensionCmd.sends : ExtensionCmd → Bool
  | .startEnroll | .finishEnroll | .enrollImage | .getFingerRectCnt | .getSize | .setProperty
  | .getImageQuality | .getTemplateIds | .getFingerRect | .selfTest | .checkBoard => true
  | .control .miscPrintSystemInfo | .control .injectionAuthenticateTest | .control .checkBoard
  | .control .selfTest | .control .fingerDetectTest => true
  | .control (.navigatorEnable _) | .control .navigatorGetStatus
  | .control .releaseModeEnableLogd | .control .miscControlAgingTest | .control .enrollPause
  | .control .enrollResume | .control .other => false
  | .captureRawImage | .navigatorAddkey | .detectFinger => false

namespace Entry

def access : Entry → Access
  | .setActiveGroup gid => .paused (.setActiveGroup gid)
  | .openHal => .unpaused none
  | .closeHal | .getAuthenticatorId | .preEnroll | .getEnrolledFids => .paused .tac
  | .deleteFid gid fid => .paused (.deleteFid gid fid)
  | .cancel => .paused .cancel
  | .enroll gid timeout => .paused (.enroll gid timeout)
  | .postEnroll => .unlocked
  | .authenticate sessionId gid => .paused (.authenticate sessionId gid)
  | .enumerate => .paused .enumerate
  | .fingerDetect => .paused .fingerDetect
  | .serviceControl .enrollPause | .serviceControl .enrollResume => .unlocked
  | .serviceControl (.navigatorEnable enable) => .paused (.navigatorEnable enable)
  | .serviceControl _ => .paused .tac
  | .extension cmd => cmd.access

def sends : Entry → Bool
  | .setActiveGroup _ | .openHal | .getAuthenticatorId | .preEnroll | .getEnrolledFids => true
  | .serviceControl .checkBoard | .serviceControl .selfTest
  | .serviceControl .fingerDetectTest => true
  | .extension cmd => cmd.sends
  | .closeHal | .deleteFid .. | .cancel | .enroll .. | .postEnroll | .authenticate .. | .enumerate
  | .fingerDetect | .serviceControl _ => false

/-- The entry sends a command without pausing the worker. -/
def intrudes (entry : Entry) : Bool :=
  entry.sends && match entry.access with
    | .unpaused _ => true
    | .paused _ | .unlocked => false

end Entry

inductive CmdPoint where
  | constructed
  | answered
  deriving DecidableEq

inductive TouchKind where
  | construct
  | send
  | process
  deriving DecidableEq

inductive Owner where
  | worker
  | client
  deriving DecidableEq

structure Touch where
  owner : Owner
  kind : TouchKind
  workerIdle : Bool
  deriving DecidableEq

def CmdPoint.next : Option CmdPoint → TouchKind × Option CmdPoint
  | none => (.construct, some .constructed)
  | some .constructed => (.send, some .answered)
  | some .answered => (.process, none)

structure TaHal where
  hal : Hal
  current : Option Entry
  workerCmd : Option CmdPoint
  clientCmd : Option CmdPoint

inductive TaEvent where
  | enter (entry : Entry)
  | client
  | worker (answer : Answer)
  | clientCommand
  | workerCommand

namespace TaHal

def mayCommand (x : TaHal) : Bool :=
  match x.current with
  | none => false
  | some entry =>
    entry.sends && match entry.access with
      | .paused _ => x.hal.point = some .body
      | .unpaused _ => true
      | .unlocked => false

def enter (cfg : FpConfig) (x : TaHal) (entry : Entry) : TaHal :=
  match entry.access, x.current with
  | .unlocked, _ => x
  -- waits for the daemon mutex
  | _, some _ => x
  | .unpaused _, none => { x with current := some entry }
  | .paused call, none =>
    { x with hal := (x.hal.step cfg (.enter call)).2, current := some entry }

def clientStep (x : TaHal) : TaHal :=
  match x.current with
  | none => x
  | some entry =>
    match entry.access with
    | .paused _ =>
      { x with
        hal := x.hal.clientStep.2
        current := if x.hal.clientStep.2.call = none then none else some entry }
    | .unpaused enable =>
      { x with
        hal := { x.hal with hasDefaultWork := enable.getD x.hal.hasDefaultWork }
        current := none }
    | .unlocked => x

def step (cfg : FpConfig) (x : TaHal) : TaEvent → List Touch × TaHal
  | .enter entry => ([], x.enter cfg entry)
  | .client => if x.clientCmd = none then ([], x.clientStep) else ([], x)
  | .worker answer =>
    if x.workerCmd = none then ([], { x with hal := (x.hal.step cfg (.worker answer)).2 })
    else ([], x)
  | .clientCommand =>
    if x.mayCommand then
      ([⟨.client, (CmdPoint.next x.clientCmd).1, x.hal.worker.isParked⟩],
        { x with clientCmd := (CmdPoint.next x.clientCmd).2 })
    else ([], x)
  | .workerCommand =>
    if x.hal.worker.activity ≠ .idle then
      ([⟨.worker, (CmdPoint.next x.workerCmd).1, x.hal.worker.isParked⟩],
        { x with workerCmd := (CmdPoint.next x.workerCmd).2 })
    else ([], x)

def start (resumed stop : Bool) (msessionId : Nat) (mgid mfid mtimeout : Int) : TaHal where
  hal := .start resumed stop msessionId mgid mfid mtimeout
  current := none
  workerCmd := none
  clientCmd := none

/-- An entry that does not pause the worker finds it parked. -/
def isQuiet (x : TaHal) : TaEvent → Bool
  | .enter entry =>
    !(entry.intrudes && x.current.isNone) ||
      (x.hal.worker.isParked && decide (x.hal.requested = .pause))
  | _ => true

end TaHal

def workerOpen (trace : List Touch) : Bool :=
  trace.foldl (fun before touch =>
    match touch.owner with
    | .worker => touch.kind ≠ .process
    | .client => before) false

/-- No client touches the buffers during a command of the worker, or while the worker is not
idle. -/
structure OneAtATime (trace : List Touch) : Prop where
  exclusive : Justified (fun before touch =>
    touch.owner = .client → workerOpen before = false) trace
  idle : ∀ touch ∈ trace, touch.owner = .client → touch.workerIdle = true

theorem workerOpen_snoc (trace : List Touch) (touch : Touch) :
    workerOpen (trace ++ [touch]) =
      match touch.owner with
      | .worker => decide (touch.kind ≠ .process)
      | .client => workerOpen trace := by
  simp only [workerOpen, List.foldl_append, List.foldl_cons, List.foldl_nil]

theorem OneAtATime.snoc {trace : List Touch} (h : OneAtATime trace) {touch : Touch}
    (htouch : touch.owner = .client → workerOpen trace = false ∧ touch.workerIdle = true) :
    OneAtATime (trace ++ [touch]) where
  exclusive := h.exclusive.snoc fun howner => (htouch howner).1
  idle := by
    intro other hother howner
    rcases List.mem_append.mp hother with hmem | hlast
    · exact h.idle other hmem howner
    · obtain rfl := List.mem_singleton.mp hlast
      exact (htouch howner).2

structure TaInvariant (trace : List Touch) (x : TaHal) : Prop where
  pausing : Pausing x.hal
  quiet : ∀ entry, x.current = some entry → entry.intrudes = true →
    x.hal.worker.isParked = true ∧ x.hal.requested = .pause
  busy : x.workerCmd ≠ none → x.hal.worker.isParked = false
  released : x.current = none → x.clientCmd = none
  tracked : workerOpen trace = x.workerCmd.isSome
  one : OneAtATime trace

section

variable {cfg : FpConfig} {trace : List Touch} {x : TaHal} {entry : Entry}

theorem TaInvariant.parked (h : TaInvariant trace x) (hmay : x.mayCommand = true) :
    x.hal.worker.isParked = true := by
  unfold TaHal.mayCommand at hmay
  cases hcur : x.current with
  | none => simp [hcur] at hmay
  | some entry =>
    simp only [hcur, Bool.and_eq_true] at hmay
    obtain ⟨hsends, hmay⟩ := hmay
    cases haccess : entry.access with
    | paused call =>
      simp only [haccess, decide_eq_true_eq] at hmay
      exact (h.pausing.paused (by rw [hmay]; rfl)).1
    | unpaused enable =>
      exact (h.quiet entry hcur (by simp [Entry.intrudes, hsends, haccess])).1
    | unlocked => simp [haccess] at hmay

theorem TaInvariant.enter (h : TaInvariant trace x) (hquiet : x.isQuiet (.enter entry) = true) :
    TaInvariant trace (x.enter cfg entry) := by
  cases hcur : x.current with
  | some holder =>
    have hsame : x.enter cfg entry = x := by
      unfold TaHal.enter
      rw [hcur]
      cases entry.access <;> rfl
    rw [hsame]
    exact h
  | none =>
    cases haccess : entry.access with
    | unlocked =>
      simp only [TaHal.enter, haccess]
      exact h
    | unpaused enable =>
      simp only [TaHal.enter, haccess, hcur]
      refine ⟨h.pausing, ?_, h.busy, by simp, h.tracked, h.one⟩
      rintro _ ⟨⟩ hintrudes
      simpa [TaHal.isQuiet, hintrudes, hcur] using hquiet
    | paused call =>
      simp only [TaHal.enter, haccess, hcur]
      obtain ⟨-, hworker, -, -⟩ := step_enter cfg x.hal call
      refine ⟨pausing_step cfg _ _ h.pausing, ?_, fun hcmd => ?_, by simp, h.tracked, h.one⟩
      · rintro _ ⟨⟩ hintrudes
        simp [Entry.intrudes, haccess] at hintrudes
      · rw [hworker]
        exact h.busy hcmd

theorem TaInvariant.clientStep (h : TaInvariant trace x) (hcmd : x.clientCmd = none) :
    TaInvariant trace x.clientStep := by
  cases hcur : x.current with
  | none =>
    simp only [TaHal.clientStep, hcur]
    exact h
  | some entry =>
    cases haccess : entry.access with
    | unlocked =>
      simp only [TaHal.clientStep, hcur, haccess]
      exact h
    | unpaused enable =>
      simp only [TaHal.clientStep, hcur, haccess]
      exact ⟨⟨h.pausing.idle, h.pausing.pausing, h.pausing.paused⟩, by simp, h.busy, fun _ => hcmd,
        h.tracked, h.one⟩
    | paused call =>
      simp only [TaHal.clientStep, hcur, haccess]
      refine ⟨h.pausing.clientStep, ?_, fun hbusy => ?_, fun _ => hcmd, h.tracked, h.one⟩
      · intro holder hholder hintrudes
        -- the same entry point goes on, and it has paused the worker
        split at hholder
        · cases hholder
        · obtain rfl := Option.some.inj hholder
          simp [Entry.intrudes, haccess] at hintrudes
      · rw [clientStep_worker]
        exact h.busy hbusy

theorem TaInvariant.workerStep (h : TaInvariant trace x) (hcmd : x.workerCmd = none)
    (answer : Answer) :
    TaInvariant trace { x with hal := (x.hal.step cfg (.worker answer)).2 } where
  pausing := pausing_step cfg _ _ h.pausing
  quiet entry hentry hintrudes := by
    obtain ⟨hpark, hpause⟩ := h.quiet entry hentry hintrudes
    exact workerStep_parked cfg hpark hpause answer
  busy hbusy := absurd hcmd hbusy
  released := h.released
  tracked := h.tracked
  one := h.one

theorem TaInvariant.clientCommand (h : TaInvariant trace x) (hmay : x.mayCommand = true) :
    TaInvariant (trace ++ [⟨.client, (CmdPoint.next x.clientCmd).1, x.hal.worker.isParked⟩])
      { x with clientCmd := (CmdPoint.next x.clientCmd).2 } where
  pausing := h.pausing
  quiet := h.quiet
  busy := h.busy
  released hnone := by simp [TaHal.mayCommand, show x.current = none from hnone] at hmay
  tracked := by
    rw [workerOpen_snoc]
    exact h.tracked
  one := by
    have hpark := h.parked hmay
    refine h.one.snoc fun _ => ⟨?_, hpark⟩
    rw [h.tracked]
    cases hcmd : x.workerCmd with
    | none => rfl
    | some point =>
      have hbusy := h.busy (by rw [hcmd]; simp)
      rw [hpark] at hbusy
      cases hbusy

theorem TaInvariant.workerCommand (h : TaInvariant trace x)
    (hactive : x.hal.worker.activity ≠ .idle) :
    TaInvariant (trace ++ [⟨.worker, (CmdPoint.next x.workerCmd).1, x.hal.worker.isParked⟩])
      { x with workerCmd := (CmdPoint.next x.workerCmd).2 } where
  pausing := h.pausing
  quiet := h.quiet
  busy _ := by
    cases hworker : x.hal.worker with
    | running | navigating => rfl
    | top | waiting | taken | finishing => exact absurd (by rw [hworker]; rfl) hactive
  released := h.released
  tracked := by
    rw [workerOpen_snoc]
    cases x.workerCmd with
    | none => rfl
    | some point => cases point <;> rfl
  one := h.one.snoc (by simp)

theorem taInvariant_step (cfg : FpConfig) (trace : List Touch) (x : TaHal) (event : TaEvent)
    (h : TaInvariant trace x) (hquiet : x.isQuiet event = true) :
    TaInvariant (trace ++ (x.step cfg event).1) (x.step cfg event).2 := by
  cases event with
  | enter entry =>
    simp only [TaHal.step, List.append_nil]
    exact h.enter hquiet
  | client =>
    by_cases hcmd : x.clientCmd = none
    · simp only [TaHal.step, if_pos hcmd, List.append_nil]
      exact h.clientStep hcmd
    · simp only [TaHal.step, if_neg hcmd, List.append_nil]
      exact h
  | worker answer =>
    by_cases hcmd : x.workerCmd = none
    · simp only [TaHal.step, if_pos hcmd, List.append_nil]
      exact h.workerStep hcmd answer
    · simp only [TaHal.step, if_neg hcmd, List.append_nil]
      exact h
  | clientCommand =>
    by_cases hmay : x.mayCommand = true
    · simp only [TaHal.step, if_pos hmay]
      exact h.clientCommand hmay
    · simp only [TaHal.step, if_neg hmay, List.append_nil]
      exact h
  | workerCommand =>
    by_cases hactive : x.hal.worker.activity ≠ .idle
    · simp only [TaHal.step, if_pos hactive]
      exact h.workerCommand hactive
    · simp only [TaHal.step, if_neg hactive, List.append_nil]
      exact h

theorem taInvariant_start {resumed stop : Bool} {msessionId : Nat} {mgid mfid mtimeout : Int} :
    TaInvariant [] (.start resumed stop msessionId mgid mfid mtimeout) :=
  ⟨pausing_start, by rintro _ ⟨⟩, fun hbusy => absurd rfl hbusy, fun _ => rfl, rfl,
    ⟨.nil, List.forall_mem_nil _⟩⟩

theorem intrudes_mayCommand (cfg : FpConfig) (hintrudes : entry.intrudes = true)
    (hcur : x.current = none) :
    x.enter cfg entry = { x with current := some entry } ∧
      ∀ hal workerCmd,
        TaHal.mayCommand { x with hal, workerCmd, current := some entry } = true := by
  simp only [Entry.intrudes, Bool.and_eq_true] at hintrudes
  obtain ⟨hsends, haccess⟩ := hintrudes
  cases hentry : entry.access with
  | unpaused enable =>
    simp [TaHal.enter, TaHal.mayCommand, hentry, hcur, hsends]
  | paused | unlocked =>
    rw [hentry] at haccess
    cases haccess

theorem workerStep_woken (cfg : FpConfig) {s : Hal} (hpark : s.worker.isParked = true)
    (hresume : s.requested = .resume) (answer : Answer) :
    (s.workerStep cfg answer).2.worker.isParked = false := by
  cases hworker : s.worker with
  | top | waiting => simp [Hal.workerStep, hworker, Hal.awake, hresume, WorkerPoint.isParked]
  | taken | running | finishing | navigating =>
    rw [hworker] at hpark
    cases hpark

theorem TaInvariant.intrusion (h : TaInvariant trace x) (cfg : FpConfig) {event : TaEvent}
    (hnot : x.isQuiet event = false) :
    ∃ rest, Meets (TaHal.step cfg) (fun x event => x.isQuiet event = true)
        (x.step cfg event).2 rest ∧ ∃ touch ∈ (run (TaHal.step cfg) x (event :: rest)).1,
        touch.owner = .client ∧ touch.workerIdle = false := by
  cases event with
  | client | worker | clientCommand | workerCommand => cases hnot
  | enter entry =>
    simp only [TaHal.isQuiet, Bool.or_eq_false_iff, Bool.not_eq_false', Bool.and_eq_true,
      Option.isNone_iff_eq_none, Bool.and_eq_false_iff, decide_eq_false_iff_not] at hnot
    obtain ⟨⟨hintrudes, hcur⟩, hworker⟩ := hnot
    obtain ⟨henter, hmay⟩ := intrudes_mayCommand cfg hintrudes hcur
    cases hpark : x.hal.worker.isParked with
    | false =>
      refine ⟨[.clientCommand], ⟨rfl, trivial⟩,
        ⟨.client, (CmdPoint.next x.clientCmd).1, x.hal.worker.isParked⟩, ?_, rfl, hpark⟩
      simp [run, TaHal.step, henter, hmay]
    | true =>
      -- the worker has been resumed, and wakes while the client is inside
      have hresume : x.hal.requested = .resume := by
        cases hreq : x.hal.requested with
        | resume => rfl
        | pause => simp [hpark, hreq] at hworker
      have hcmd : x.workerCmd = none := by
        by_contra hcmd
        rw [h.busy hcmd] at hpark
        cases hpark
      have hwoken := workerStep_woken cfg hpark hresume { ret := 0 }
      refine ⟨[.worker { ret := 0 }, .clientCommand], ⟨rfl, rfl, trivial⟩,
        ⟨.client, (CmdPoint.next x.clientCmd).1,
          (x.hal.workerStep cfg { ret := 0 }).2.worker.isParked⟩, ?_, rfl, hwoken⟩
      simp [run, TaHal.step, henter, hcmd, hmay, Hal.step]

/-- One command at a time exactly if entries are quiet. -/
theorem taRun_oneAtATime_iff (cfg : FpConfig) (resumed stop : Bool) (msessionId : Nat)
    (mgid mfid mtimeout : Int) (events : List TaEvent)
    (hquiet : Meets (TaHal.step cfg) (fun x event => x.isQuiet event = true)
      (.start resumed stop msessionId mgid mfid mtimeout) events) :
    let start := TaHal.start resumed stop msessionId mgid mfid mtimeout
    let last := (run (TaHal.step cfg) start events).2
    OneAtATime (run (TaHal.step cfg) start events).1 ∧
      ∀ event, (∀ rest, Meets (TaHal.step cfg) (fun x event => x.isQuiet event = true)
          (last.step cfg event).2 rest →
          OneAtATime (run (TaHal.step cfg) start (events ++ event :: rest)).1) ↔
        last.isQuiet event = true := by
  intro start last
  have h : TaInvariant (run (TaHal.step cfg) start events).1 last :=
    run_invariant (taInvariant_step cfg) taInvariant_start hquiet
  refine ⟨h.one, fun event => ⟨fun hall => ?_, fun hevent rest hrest => ?_⟩⟩
  · by_contra hnot
    rw [Bool.not_eq_true] at hnot
    obtain ⟨rest, hrest, touch, htouch, howner, hidle⟩ := h.intrusion cfg hnot
    have hone := hall rest hrest
    rw [run_append] at hone
    rw [hone.idle touch (List.mem_append_right _ htouch) howner] at hidle
    cases hidle
  · rw [run_append]
    have hmeets : Meets (TaHal.step cfg) (fun x event => x.isQuiet event = true) last
        (event :: rest) := ⟨hevent, hrest⟩
    exact (run_invariant (taInvariant_step cfg) h hmeets).one

def authenticatingEvents : List TaEvent :=
  [.enter .openHal, .clientCommand, .clientCommand, .clientCommand, .client,
    .enter (.authenticate 1 0), .client, .client, .client, .client, .client,
    .worker { ret := 0 }, .client, .worker { ret := 0 }, .workerCommand]

theorem taRun_oneAtATime_iff_authenticating :
    Meets (TaHal.step plainConfig) (fun x event => x.isQuiet event = true)
        (.start false false 0 0 0 0) authenticatingEvents ∧ OneAtATime
        (run (TaHal.step plainConfig) (.start false false 0 0 0 0) authenticatingEvents).1 :=
  ⟨by decide +kernel,
    (taRun_oneAtATime_iff plainConfig false false 0 0 0 0 authenticatingEvents
      (by decide +kernel)).1⟩

def injectionEvents : List TaEvent :=
  authenticatingEvents ++
    [.enter (.extension (.control .injectionAuthenticateTest)), .clientCommand]

theorem injectionEvents_not_oneAtATime : ¬OneAtATime
      (run (TaHal.step plainConfig) (.start false false 0 0 0 0) injectionEvents).1 := by
  intro h
  have htrace :
      (run (TaHal.step plainConfig) (.start false false 0 0 0 0) injectionEvents).1 =
        [⟨.client, .construct, true⟩, ⟨.client, .send, true⟩, ⟨.client, .process, true⟩,
          ⟨.worker, .construct, false⟩] ++ ⟨.client, .construct, false⟩ :: [] := by
    decide +kernel
  cases h.exclusive _ _ _ htrace rfl

end

end WikoPlatform.Chipone
