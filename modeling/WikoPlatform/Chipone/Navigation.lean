import Mathlib.Data.List.TakeWhile
import WikoPlatform.Chipone.CommandBuffer
import WikoPlatform.Lib.Stretches

/-! `fpTaEntryProxy::nav_loop` with the hold filter and the dispatcher of `fp_nav.cpp`, for the
configurations that do not report a touch by timer. -/

namespace WikoPlatform.Chipone

open Runs

structure GestureConfig where
  enableDirection : UInt32
  enableLongPress : UInt32
  enableDoubleClick : UInt32
  longPressTimeThreshold : UInt32
  doubleClickTimeThreshold : UInt32
  enableTouch : UInt32
  upThreshold : UInt32
  downThreshold : UInt32
  leftThreshold : UInt32
  rightThreshold : UInt32
  twoDimensionalNav : UInt32

inductive Gesture where
  | left | right | up | down | touch | longPress | doubleClick
  deriving DecidableEq

inductive MovingKey where
  | undecided | longPress | direction | unmoved
  deriving DecidableEq

inductive FingerStatus where
  | detected | lost | hold | moving
  deriving DecidableEq

/-- The variables of the dispatcher. -/
structure Nav where
  time : UInt64
  touchTime : UInt64
  leaveTime : UInt64
  moveTimeThreshold : UInt64
  doubleClickTimeThreshold : UInt64
  movingKey : MovingKey
  leftThreshold : UInt32
  rightThreshold : UInt32
  upThreshold : UInt32
  downThreshold : UInt32
  leftCount : UInt32
  rightCount : UInt32
  upCount : UInt32
  downCount : UInt32
  left : UInt32
  right : UInt32
  up : UInt32
  down : UInt32
  sumy : Int
  colX : Int
  colY : Int
  deriving DecidableEq

namespace Nav

/-! ### The dispatcher -/

def initEnhancedNaviSetting (cfg : GestureConfig) (nav : Nav) : Nav :=
  { nav with
    moveTimeThreshold := if cfg.enableLongPress ≠ 0 then cfg.longPressTimeThreshold.toUInt64 else 0
    doubleClickTimeThreshold := if cfg.enableDoubleClick ≠ 0 then
        cfg.doubleClickTimeThreshold.toUInt64
      else nav.doubleClickTimeThreshold }

def dispatchDetected (cfg : GestureConfig) (nav : Nav) (jiffiess : UInt64) : Nav :=
  { nav with
    touchTime := jiffiess
    movingKey := if cfg.enableDirection ≠ 0 then .unmoved else .undecided
    sumy := 0
    up := 0, down := 0, right := 0, left := 0
    leftCount := 0, rightCount := 0, downCount := 0, upCount := 0
    colY := 0, colX := 0
    leftThreshold := cfg.leftThreshold
    rightThreshold := cfg.rightThreshold
    upThreshold := cfg.upThreshold
    downThreshold := cfg.downThreshold }

def absInt (n : Int) : Int := if 0 < n then n else int32 (-n)

def vertical (nav : Nav) : List Gesture :=
  if nav.up > nav.down ∧ nav.up + nav.down > 2 then [.up]
  else if nav.down > nav.up ∧ nav.up + nav.down > 2 then [.down]
  else if nav.sumy > 1 ∧ nav.up > 1 then [.up]
  else if nav.sumy < -1 ∧ nav.down > 1 then [.down]
  else []

def horizontal (nav : Nav) : List Gesture :=
  if nav.left > nav.right + 1 then [.left]
  else if nav.right > nav.left + 1 then [.right]
  else []

/-- With one dimension at a time, both are reported. -/
def directions (cfg : GestureConfig) (nav : Nav) : List Gesture :=
  if cfg.twoDimensionalNav = 1 then
    if absInt nav.colX > absInt nav.colY then if nav.colX > 0 then [.right] else [.left]
    else if nav.colY > 0 then [.up] else [.down]
  else nav.vertical ++ nav.horizontal

def dispatchLost (cfg : GestureConfig) (nav : Nav) (jiffiess : UInt64) : List Gesture × Nav :=
  if nav.movingKey = .undecided ∧ cfg.enableTouch = 1 ∧
      jiffiess - nav.leaveTime > nav.doubleClickTimeThreshold then
    ([.touch], { nav with leaveTime := if cfg.enableDoubleClick = 1 then jiffiess else 0 })
  else if nav.movingKey = .undecided ∧ cfg.enableDoubleClick = 1 ∧
      jiffiess - nav.leaveTime ≤ nav.doubleClickTimeThreshold then
    ([.doubleClick], { nav with leaveTime := 0 })
  else if nav.movingKey = .direction then (nav.directions cfg, nav)
  else ([], nav)

/-- The acceleration, the axis multiplier and the sensitivity. -/
def scale (n : Int) : Int :=
  let sign := if 0 < n then 1 else -1
  let n := if absInt n > 40 then int32 ((40 + int32 ((absInt n - 40) * 1)) * sign) else n
  let n := (int32 (n * 200)).tdiv 100
  (int32 (n * 180)).tdiv 100

def pressLong (cfg : GestureConfig) (nav : Nav) (jiffiess : UInt64) : List Gesture × Nav :=
  let nav := if nav.movingKey = .unmoved then { nav with movingKey := .undecided } else nav
  if jiffiess - nav.touchTime ≥ nav.moveTimeThreshold ∧ cfg.enableLongPress ≠ 0 ∧
      nav.movingKey = .undecided then
    ([.longPress], { nav with movingKey := .longPress })
  else ([], nav)

def countX (nav : Nav) (x : Int) : Nav :=
  if x > 0 then
    let nav := { nav with rightCount := nav.rightCount + 1 }
    if nav.rightCount > nav.rightThreshold then
      { nav with movingKey := .direction, right := nav.right + 1, leftThreshold := 0,
                 rightThreshold := 0 }
    else nav
  else
    let nav := { nav with leftCount := nav.leftCount + 1 }
    if nav.leftCount > nav.leftThreshold then
      { nav with movingKey := .direction, left := nav.left + 1, leftThreshold := 0,
                 rightThreshold := 0 }
    else nav

/-- A move down leaves the threshold for moves up as it is. -/
def countY (nav : Nav) (y : Int) : Nav :=
  if y > 0 then
    let nav := { nav with upCount := nav.upCount + 1 }
    if nav.upCount > nav.upThreshold then
      { nav with movingKey := .direction, up := nav.up + 1, upThreshold := 0, downThreshold := 0,
                 upCount := 0, downCount := 0 }
    else nav
  else
    let nav := { nav with downCount := nav.downCount + 1 }
    if nav.downCount > nav.downThreshold then
      { nav with movingKey := .direction, down := nav.down + 1, downThreshold := 0, upCount := 0,
                 downCount := 0 }
    else nav

def countDirections (cfg : GestureConfig) (nav : Nav) (x y : Int) : Nav :=
  if cfg.enableDirection ≠ 0 ∧ nav.movingKey ≠ .longPress ∧ (absInt x ≠ 0 ∨ absInt y ≠ 0) then
    let nav := nav.countX x
    let nav := { nav with colX := int32 (nav.colX + x) }
    let nav := nav.countY y
    { nav with colY := int32 (nav.colY + y) }
  else nav

def dispatchMoving (cfg : GestureConfig) (nav : Nav) (x y : Int) (jiffiess : UInt64) :
    List Gesture × Nav :=
  let (x, y) := (scale x, scale y)
  let (reported, nav) := pressLong cfg { nav with sumy := int32 (nav.sumy + y) } jiffiess
  (reported, nav.countDirections cfg x y)

end Nav

/-! ### The hold filter -/

/-- The hold filter. -/
structure NavFilter where
  deviationX : Int
  deviationY : Int
  tickDown : UInt64
  deriving DecidableEq

def thresholdRangeTap : Int := 100
def thresholdDurationHold : UInt64 := 200

def NavFilter.filter (f : NavFilter) (dx dy : Int) (status : FingerStatus) (tickCurr : UInt64) :
    FingerStatus × NavFilter :=
  let f := if status = .detected then ⟨0, 0, tickCurr⟩ else f
  if f.tickDown > 0 then
    let duration := tickCurr - f.tickDown
    let deviationX := int32 (f.deviationX + dx)
    let deviationY := int32 (f.deviationY + dy)
    let deviation := int32 (int32 (deviationX * deviationX) + int32 (deviationY * deviationY))
    if deviation > thresholdRangeTap then (status, ⟨0, 0, 0⟩)
    else if duration > thresholdDurationHold then (.hold, ⟨0, 0, 0⟩)
    else (status, ⟨deviationX, deviationY, f.tickDown⟩)
  else (status, f)

/-- The finger has stayed in the range of a tap for too long. -/
def NavFilter.holds (f : NavFilter) (dx dy : Int) (tickCurr : UInt64) : Bool :=
  let deviationX := int32 (f.deviationX + dx)
  let deviationY := int32 (f.deviationY + dy)
  f.tickDown > 0 ∧ tickCurr - f.tickDown > thresholdDurationHold ∧
    int32 (int32 (deviationX * deviationX) + int32 (deviationY * deviationY)) ≤ thresholdRangeTap

/-! ### The loop -/

structure NavState where
  nav : Nav
  filter : NavFilter
  sumX : Int
  sumY : Int
  deltaX : Int
  deltaY : Int
  fingerLost : Bool
  running : Bool
  reads : Nat
  deriving DecidableEq

inductive NavOutput where
  | detected
  | lost (decided : List Gesture)
  | gesture (g : Gesture)
  deriving DecidableEq

/-- What `NavWaitFingerDown` returns if it is called, the stop status, and the coordinates with the
finger status, if the TA answers. -/
structure NavPass where
  wait : Int
  stop : Bool
  coords : Option (Int32 × Int32 × Int32)

inductive NavInput where
  -- `nav_loop` is called and the finger has left the sensor.
  | enter
  | pass (p : NavPass)

def fpsensorInputPollInterval : Nat := 5

namespace NavState

section

variable (cfg : GestureConfig) (clock : Nat → UInt64) (s : NavState)

def dispatchMoveEvent (x y : Int) : FingerStatus → List Gesture × NavState
  | .detected =>
    ([], { s with nav := s.nav.dispatchDetected cfg (clock s.reads), reads := s.reads + 1 })
  | .lost =>
    let (reported, nav) := s.nav.dispatchLost cfg (clock s.reads)
    (reported, { s with nav, reads := s.reads + 1 })
  | .moving =>
    let (reported, nav) := s.nav.dispatchMoving cfg x y (clock s.reads)
    (reported, { s with nav, reads := s.reads + 1 })
  | .hold => ([], s)

def processNaviEvent (dx dy : Int) (status : FingerStatus) : List Gesture × NavState :=
  let (status, filter) := s.filter.filter dx dy status (clock s.reads / 1000)
  dispatchMoveEvent cfg clock { s with filter, reads := s.reads + 1 } dx dy status

def navTimeUpdate (time : UInt64) : NavState := { s with nav := { s.nav with time } }

def detect : List NavOutput × NavState :=
  if s.fingerLost then
    let s := { s with nav := s.nav.initEnhancedNaviSetting cfg }
    let (reported, s) := s.processNaviEvent cfg clock 0 0 .detected
    let s := { s.navTimeUpdate (clock s.reads) with reads := s.reads + 1 }
    (.detected :: reported.map .gesture, { s with fingerLost := false })
  else ([], s)

/-- A failed command leaves the coordinates of the last one. -/
def sample : Option (Int32 × Int32 × Int32) → List NavOutput × NavState
  | none => ([], s)
  | some (deltaX, deltaY, getRelRet) =>
    let s := { s with deltaX := deltaX.toInt, deltaY := deltaY.toInt }
    if getRelRet ≠ 0 then
      let (decided, s) := s.processNaviEvent cfg clock 0 0 .lost
      ([.lost decided], { s.navTimeUpdate 0 with sumX := 0, sumY := 0, fingerLost := true })
    else ([], s)

/-- The movement is passed on also after a lost event. -/
def move : List NavOutput × NavState :=
  let s := { s with sumX := int32 (s.sumX + s.deltaX), sumY := int32 (s.sumY + s.deltaY) }
  let diffTime := (clock s.reads - s.nav.time).toUInt32.toInt32.toInt.natAbs
  let s := { s with reads := s.reads + 1 }
  if diffTime ≥ fpsensorInputPollInterval then
    let (reported, s) := s.processNaviEvent cfg clock s.sumX s.sumY .moving
    (reported.map .gesture,
      { s.navTimeUpdate (clock s.reads) with sumX := 0, sumY := 0, reads := s.reads + 1 })
  else ([], s)

def track (coords : Option (Int32 × Int32 × Int32)) : List NavOutput × NavState :=
  let (lost, s) := s.sample cfg clock coords
  let (reported, s) := s.move cfg clock
  (lost ++ reported, s)

def step (s : NavState) : NavInput → List NavOutput × NavState
  | .enter =>
    ([], { s with sumX := 0, sumY := 0, deltaX := 0, deltaY := 0, fingerLost := true,
                  running := true })
  | .pass p =>
    if s.running = false then ([], s)
    else if s.fingerLost ∧ p.wait ≠ 0 then
      ([], { s with nav := s.nav.initEnhancedNaviSetting cfg, running := false })
    else
      let (detected, s) := s.detect cfg clock
      if p.stop then (detected, { s with running := false })
      else
        let (tracked, s) := s.track cfg clock p.coords
        (detected ++ tracked, s)

end

def start : NavState where
  nav := ⟨0, 0, 0, 0, 0, .undecided, 0, 0, 0, 0, 0, 0, 0, 0, 0, 0, 0, 0, 0, 0, 0⟩
  filter := ⟨0, 0, 0⟩
  sumX := 0
  sumY := 0
  deltaX := 0
  deltaY := 0
  fingerLost := false
  running := false
  reads := 0

end NavState

/-! ### One gesture in a touch -/

def NavOutput.isDetected : NavOutput → Bool
  | .detected => true
  | _ => false

def NavOutput.isLost : NavOutput → Bool
  | .lost _ => true
  | _ => false

def NavOutput.reported : NavOutput → List Gesture
  | .detected => []
  | .lost decided => decided
  | .gesture g => [g]

def reportedIn (touch : List NavOutput) : List Gesture := touch.flatMap NavOutput.reported

def afterLost (touch : List NavOutput) : List NavOutput :=
  (touch.dropWhile fun o => !o.isLost).tail

/-- One gesture at most, and nothing behind the lost event. -/
def OneGesture (touch : List NavOutput) : Prop :=
  (reportedIn touch).length ≤ 1 ∧ reportedIn (afterLost touch) = []

instance (touch : List NavOutput) : Decidable (OneGesture touch) :=
  inferInstanceAs (Decidable (_ ∧ _))

/-- So it is for every touch. -/
def OneGestureEach (trace : List NavOutput) : Prop :=
  ∀ touch ∈ stretches NavOutput.isDetected trace, OneGesture touch

instance (trace : List NavOutput) : Decidable (OneGestureEach trace) :=
  inferInstanceAs (Decidable (∀ touch ∈ stretches NavOutput.isDetected trace, OneGesture touch))

def lostReport (coords : Option (Int32 × Int32 × Int32)) : Bool := coords.any fun c => c.2.2 ≠ 0

namespace NavState

section

variable (cfg : GestureConfig) (clock : Nat → UInt64) (s : NavState)

/-- A lost event that comes in `s` is taken for a hold. -/
def held : Bool := s.filter.holds 0 0 (clock s.reads / 1000)

/-- Reads of the clock behind the lost event. -/
def lostReads : Nat := s.reads + if s.held clock then 1 else 2

/-- Both axes have moved far enough, and they are not compared. -/
def DecidesTwice : Prop :=
  s.held clock = false ∧ s.nav.movingKey = .direction ∧ cfg.twoDimensionalNav ≠ 1 ∧
    s.nav.vertical ≠ [] ∧ s.nav.horizontal ≠ []

/-- The movement passed on behind the lost event is a long press. -/
def PressesLate (deltaX deltaY : Int) : Prop :=
  fpsensorInputPollInterval ≤ (clock (s.lostReads clock)).toUInt32.toInt32.toInt.natAbs ∧
    (s.filter.filter 0 0 .lost (clock s.reads / 1000)).2.holds deltaX deltaY
      (clock (s.lostReads clock + 1) / 1000) = false ∧
    (s.nav.movingKey = .undecided ∨ s.nav.movingKey = .unmoved) ∧ cfg.enableLongPress ≠ 0 ∧
    s.nav.moveTimeThreshold ≤ clock (s.lostReads clock + 2) - s.nav.touchTime

/-- A lost report decides once, and no long press follows. -/
def CleanLost : Option (Int32 × Int32 × Int32) → Prop
  | none => True
  | some (deltaX, deltaY, getRelRet) => getRelRet ≠ 0 →
      ¬s.DecidesTwice cfg clock ∧ ¬s.PressesLate cfg clock deltaX.toInt deltaY.toInt

end

/-- `CleanLost` where the coordinates come. -/
def Clean (cfg : GestureConfig) (clock : Nat → UInt64) (s : NavState) : NavInput → Prop
  | .enter => True
  | .pass p =>
    s.running = true → ¬(s.fingerLost = true ∧ p.wait ≠ 0) → p.stop = false →
      (s.detect cfg clock).2.CleanLost cfg clock p.coords

end NavState

/-! ### What a touch can report -/

structure LongPressAtMost (reported : List Gesture) (before after : MovingKey) : Prop where
  reported : reported = [] ∨ reported = [.longPress] ∧ before ≠ .longPress ∧ after = .longPress
  stays : before = .longPress → after = .longPress

theorem LongPressAtMost.refl (key : MovingKey) : LongPressAtMost [] key key := ⟨.inl rfl, id⟩

namespace Nav

variable (cfg : GestureConfig) (nav : Nav) (jiffiess : UInt64)

theorem dispatchLost_longPress (h : nav.movingKey = .longPress) :
    nav.dispatchLost cfg jiffiess = ([], nav) := by
  simp [dispatchLost, h]

theorem vertical_length : nav.vertical.length ≤ 1 := by
  unfold vertical
  split_ifs <;> simp

theorem horizontal_length : nav.horizontal.length ≤ 1 := by
  unfold horizontal
  split_ifs <;> simp

theorem dispatchLost_length : (nav.dispatchLost cfg jiffiess).1.length ≤ 1 ↔
      ¬(nav.movingKey = .direction ∧ cfg.twoDimensionalNav ≠ 1 ∧ nav.vertical ≠ [] ∧
        nav.horizontal ≠ []) := by
  have hvertical := nav.vertical_length
  have hhorizontal := nav.horizontal_length
  unfold dispatchLost
  by_cases hkey : nav.movingKey = .direction
  · simp only [hkey, reduceCtorEq, false_and, if_false, if_true, true_and, directions]
    by_cases htwo : cfg.twoDimensionalNav = 1
    · rw [if_pos htwo]
      split_ifs <;> simp [htwo]
    · rw [if_neg htwo, List.length_append, and_iff_right htwo, ← List.length_pos_iff,
        ← List.length_pos_iff]
      omega
  · split_ifs <;> simp [hkey]

theorem dispatchLost_nav :
    ∃ leaveTime, (nav.dispatchLost cfg jiffiess).2 = { nav with leaveTime } := by
  unfold dispatchLost
  split_ifs <;> exact ⟨_, rfl⟩

theorem pressLong_atMost : LongPressAtMost (nav.pressLong cfg jiffiess).1 nav.movingKey
      (nav.pressLong cfg jiffiess).2.movingKey := by
  unfold pressLong
  cases h : nav.movingKey <;> simp only [h, reduceCtorEq, if_true, if_false]
  case undecided | unmoved =>
    split_ifs
    · exact ⟨.inr ⟨rfl, by simp, rfl⟩, by simp⟩
    · exact ⟨.inl rfl, by simp⟩
  case longPress | direction => exact ⟨.inl (by simp), by simp [h]⟩

theorem pressLong_nil_iff : (nav.pressLong cfg jiffiess).1 = [] ↔
      ¬((nav.movingKey = .undecided ∨ nav.movingKey = .unmoved) ∧ cfg.enableLongPress ≠ 0 ∧
        nav.moveTimeThreshold ≤ jiffiess - nav.touchTime) := by
  unfold pressLong
  cases h : nav.movingKey <;> simp only [h, reduceCtorEq, if_true, if_false]
  case undecided | unmoved =>
    split_ifs with hlong
    · simp [hlong.1, hlong.2.1]
    · simpa [and_comm] using hlong
  case longPress | direction => simp

theorem countDirections_longPress (x y : Int) (h : nav.movingKey = .longPress) :
    nav.countDirections cfg x y = nav := by
  simp [countDirections, h]

theorem dispatchMoving_atMost (x y : Int) :
    LongPressAtMost (nav.dispatchMoving cfg x y jiffiess).1 nav.movingKey
      (nav.dispatchMoving cfg x y jiffiess).2.movingKey := by
  have hpress :=
    pressLong_atMost cfg { nav with sumy := int32 (nav.sumy + scale y) } jiffiess
  generalize hpressed : pressLong cfg { nav with sumy := int32 (nav.sumy + scale y) } jiffiess =
    pressed at hpress
  -- the directions are not counted any more when the long press has been reported
  have hcount : pressed.2.movingKey = .longPress →
      (pressed.2.countDirections cfg (scale x) (scale y)).movingKey = .longPress := by
    intro h
    rw [countDirections_longPress cfg pressed.2 _ _ h, h]
  unfold dispatchMoving
  simp only [hpressed]
  refine ⟨hpress.reported.imp_right ?_, fun h => hcount (hpress.stays h)⟩
  rintro ⟨hreport, hbefore, hafter⟩
  exact ⟨hreport, hbefore, hcount hafter⟩

end Nav

theorem NavFilter.filter_status (f : NavFilter) (dx dy : Int) (status : FingerStatus)
    (tickCurr : UInt64) :
    (f.filter dx dy status tickCurr).1 = status ∨ (f.filter dx dy status tickCurr).1 = .hold := by
  unfold filter
  dsimp only
  split_ifs <;> simp

theorem NavFilter.filter_eq (f : NavFilter) (dx dy : Int) (status : FingerStatus)
    (hstatus : status ≠ .detected) (tickCurr : UInt64) :
    (f.filter dx dy status tickCurr).1 = if f.holds dx dy tickCurr then .hold else status := by
  unfold filter holds
  simp only [if_neg hstatus, decide_eq_true_eq]
  split_ifs <;> simp_all
  omega

namespace NavState

variable (cfg : GestureConfig) (clock : Nat → UInt64) (s : NavState)
  {coords : Option (Int32 × Int32 × Int32)}

theorem processNaviEvent_detected : (s.processNaviEvent cfg clock 0 0 .detected).1 = [] := by
  unfold processNaviEvent
  rcases s.filter.filter_status 0 0 .detected (clock s.reads / 1000) with h | h <;>
    simp [h, dispatchMoveEvent]

theorem processNaviEvent_moving (dx dy : Int) :
    LongPressAtMost (s.processNaviEvent cfg clock dx dy .moving).1 s.nav.movingKey
      (s.processNaviEvent cfg clock dx dy .moving).2.nav.movingKey := by
  unfold processNaviEvent
  rcases s.filter.filter_status dx dy .moving (clock s.reads / 1000) with h | h
  · simp only [h, dispatchMoveEvent]
    exact Nav.dispatchMoving_atMost cfg s.nav _ dx dy
  · simp only [h, dispatchMoveEvent]
    exact .refl _

@[simp] theorem processNaviEvent_running (dx dy : Int) (status : FingerStatus) :
    (s.processNaviEvent cfg clock dx dy status).2.running = s.running := by
  unfold processNaviEvent
  obtain ⟨status', filter⟩ := s.filter.filter dx dy status (clock s.reads / 1000)
  cases status' <;> rfl

@[simp] theorem processNaviEvent_fingerLost (dx dy : Int) (status : FingerStatus) :
    (s.processNaviEvent cfg clock dx dy status).2.fingerLost = s.fingerLost := by
  unfold processNaviEvent
  obtain ⟨status', filter⟩ := s.filter.filter dx dy status (clock s.reads / 1000)
  cases status' <;> rfl

theorem detect_spec : (s.detect cfg clock).1 = (if s.fingerLost then [.detected] else []) ∧
      (s.detect cfg clock).2.running = s.running ∧ (s.detect cfg clock).2.fingerLost = false ∧
      (s.fingerLost = false → (s.detect cfg clock).2 = s) := by
  unfold detect
  cases hlost : s.fingerLost with
  | false => exact ⟨rfl, rfl, hlost, fun _ => rfl⟩
  | true => simp [processNaviEvent_detected, navTimeUpdate]

theorem sample_present (h : lostReport coords = false) :
    ∃ deltaX deltaY, s.sample cfg clock coords = ([], { s with deltaX, deltaY }) := by
  cases coords with
  | none => exact ⟨_, _, rfl⟩
  | some c =>
    obtain ⟨deltaX, deltaY, getRelRet⟩ := c
    have hzero : getRelRet = 0 := by simpa [lostReport] using h
    exact ⟨deltaX.toInt, deltaY.toInt, by simp [sample, hzero]⟩

theorem sample_lost (deltaX deltaY : Int32) {getRelRet : Int32} (h : getRelRet ≠ 0) :
    ∃ decided nav, s.sample cfg clock (some (deltaX, deltaY, getRelRet)) =
        ([.lost decided], { s with
          nav := { nav with time := 0 }
          filter := (s.filter.filter 0 0 .lost (clock s.reads / 1000)).2
          sumX := 0, sumY := 0, deltaX := deltaX.toInt, deltaY := deltaY.toInt
          fingerLost := true
          reads := s.lostReads clock }) ∧
      (∃ leaveTime, nav = { s.nav with leaveTime }) ∧
      (decided.length ≤ 1 ↔ ¬s.DecidesTwice cfg clock) ∧
      (s.nav.movingKey = .longPress → decided = []) := by
  have hstatus := s.filter.filter_eq 0 0 .lost (by decide) (clock s.reads / 1000)
  by_cases hheld : s.filter.holds 0 0 (clock s.reads / 1000) = true
  · refine ⟨[], s.nav, ?_, ⟨_, rfl⟩, ?_, fun _ => rfl⟩
    · simp [sample, h, processNaviEvent, hstatus, hheld, lostReads, held, dispatchMoveEvent,
        navTimeUpdate]
    · simp [DecidesTwice, held, hheld]
  · refine ⟨(s.nav.dispatchLost cfg (clock (s.reads + 1))).1, _, ?_,
      s.nav.dispatchLost_nav cfg (clock (s.reads + 1)), ?_, fun hkey => ?_⟩
    · simp [sample, h, processNaviEvent, hstatus, hheld, lostReads, held, dispatchMoveEvent,
        navTimeUpdate]
    · simpa [DecidesTwice, held, hheld] using s.nav.dispatchLost_length cfg _
    · rw [s.nav.dispatchLost_longPress cfg _ hkey]

theorem move_nil_iff : (s.move cfg clock).1 = [] ↔ ¬(fpsensorInputPollInterval ≤
            (clock s.reads - s.nav.time).toUInt32.toInt32.toInt.natAbs ∧
          s.filter.holds (int32 (s.sumX + s.deltaX)) (int32 (s.sumY + s.deltaY))
            (clock (s.reads + 1) / 1000) = false ∧
          (s.nav.movingKey = .undecided ∨ s.nav.movingKey = .unmoved) ∧ cfg.enableLongPress ≠ 0 ∧
          s.nav.moveTimeThreshold ≤ clock (s.reads + 2) - s.nav.touchTime) := by
  have hstatus := s.filter.filter_eq (int32 (s.sumX + s.deltaX)) (int32 (s.sumY + s.deltaY))
    .moving (by decide) (clock (s.reads + 1) / 1000)
  simp only [move, ge_iff_le]
  split_ifs with htime
  · simp only [List.map_eq_nil_iff, processNaviEvent, hstatus, htime, true_and]
    cases s.filter.holds _ _ (clock (s.reads + 1) / 1000) with
    | true => simp [dispatchMoveEvent]
    | false => simpa [dispatchMoveEvent, Nav.dispatchMoving] using Nav.pressLong_nil_iff cfg _ _
  · exact iff_of_true rfl fun h => htime h.1

theorem cleanLost_iff (deltaX deltaY : Int32) {getRelRet : Int32} (h : getRelRet ≠ 0) :
    ∃ decided, (s.sample cfg clock (some (deltaX, deltaY, getRelRet))).1 = [.lost decided] ∧
      (s.sample cfg clock (some (deltaX, deltaY, getRelRet))).2.fingerLost = true ∧
      (s.nav.movingKey = .longPress → decided = [] ∧
        (s.sample cfg clock (some (deltaX, deltaY, getRelRet))).2.nav.movingKey = .longPress) ∧
      (s.CleanLost cfg clock (some (deltaX, deltaY, getRelRet)) ↔ decided.length ≤ 1 ∧
        ((s.sample cfg clock (some (deltaX, deltaY, getRelRet))).2.move cfg clock).1 = []) := by
  obtain ⟨decided, nav, hsample, ⟨leaveTime, rfl⟩, htwice, hlong⟩ :=
    s.sample_lost cfg clock deltaX deltaY h
  rw [hsample]
  refine ⟨decided, rfl, rfl, fun hkey => ⟨hlong hkey, hkey⟩, ?_⟩
  rw [move_nil_iff, htwice]
  simp [CleanLost, PressesLate, h, int32]

theorem move_atMost : ∃ reported : List Gesture, (s.move cfg clock).1 = reported.map .gesture ∧
      LongPressAtMost reported s.nav.movingKey (s.move cfg clock).2.nav.movingKey ∧
      (s.move cfg clock).2.running = s.running ∧
      (s.move cfg clock).2.fingerLost = s.fingerLost := by
  unfold move
  dsimp only
  split_ifs
  · exact ⟨_, rfl, processNaviEvent_moving cfg clock _ _ _, by simp [navTimeUpdate],
      by simp [navTimeUpdate]⟩
  · exact ⟨[], rfl, .refl _, rfl, rfl⟩

end NavState

theorem reportedIn_append (a b : List NavOutput) :
    reportedIn (a ++ b) = reportedIn a ++ reportedIn b := List.flatMap_append

theorem reportedIn_map_gesture (gestures : List Gesture) :
    reportedIn (gestures.map .gesture) = gestures := by
  induction gestures with
  | nil => rfl
  | cons g gestures ih => simpa [reportedIn, NavOutput.reported] using ih

variable {touch : List NavOutput}

theorem afterLost_of_forall (h : ∀ o ∈ touch, o.isLost = false) : afterLost touch = [] := by
  unfold afterLost
  rw [List.dropWhile_eq_nil_iff.mpr (by simpa using h)]
  rfl

theorem afterLost_append (h : ∀ o ∈ touch, o.isLost = false) (decided : List Gesture)
    (rest : List NavOutput) : afterLost (touch ++ NavOutput.lost decided :: rest) = rest := by
  unfold afterLost
  rw [List.dropWhile_append_of_pos (by simpa using h)]
  rfl

theorem OneGesture.of_snoc (touch : List NavOutput) (o : NavOutput)
    (h : OneGesture (touch ++ [o])) : OneGesture touch := by
  obtain ⟨hcount, hafter⟩ := h
  rw [reportedIn_append, List.length_append] at hcount
  refine ⟨by omega, ?_⟩
  unfold afterLost at hafter ⊢
  rw [List.dropWhile_append] at hafter
  cases hrest : touch.dropWhile fun o => !o.isLost with
  | nil => rfl
  | cons lost rest =>
    rw [hrest] at hafter
    have happend : reportedIn (rest ++ [o]) = [] := hafter
    rw [reportedIn_append, List.append_eq_nil_iff] at happend
    exact happend.1

/-- The finger is down, with a long press reported at most. -/
def Touching (trace : List NavOutput) (s : NavState) : Prop :=
  ∃ touch before, stretches NavOutput.isDetected trace = touch :: before ∧
    (∀ o ∈ touch, o.isLost = false) ∧
    (reportedIn touch = [] ∨ reportedIn touch = [.longPress] ∧ s.nav.movingKey = .longPress)

def NavInvariant (trace : List NavOutput) (s : NavState) : Prop :=
  s.running = true → s.fingerLost = false → Touching trace s

section

variable (cfg : GestureConfig) (clock : Nat → UInt64) {s : NavState} {trace : List NavOutput}

theorem touching_detect (hinv : NavInvariant trace s) (hrun : s.running = true)
    (hone : OneGestureEach trace) : OneGestureEach (trace ++ (s.detect cfg clock).1) ∧
      Touching (trace ++ (s.detect cfg clock).1) (s.detect cfg clock).2 := by
  obtain ⟨hout, -, -, hsame⟩ := NavState.detect_spec cfg clock s
  rw [hout]
  cases hlost : s.fingerLost with
  | false =>
    rw [hsame hlost]
    simpa using ⟨hone, hinv hrun hlost⟩
  | true =>
    have hnew : stretches NavOutput.isDetected (trace ++ [NavOutput.detected]) =
        [] :: stretches NavOutput.isDetected trace := by
      rw [stretches_append]
      rfl
    refine ⟨?_, [], _, hnew, List.forall_mem_nil _, .inl rfl⟩
    unfold OneGestureEach
    rw [if_pos rfl, hnew]
    exact List.forall_mem_cons.mpr ⟨by decide, hone⟩

theorem oneGestureEach_append_iff {touch : List NavOutput} {before : List (List NavOutput)}
    {out : List NavOutput} (htouch : stretches NavOutput.isDetected trace = touch :: before)
    (hone : OneGestureEach trace) (hout : ∀ o ∈ out, o.isDetected = false) :
    OneGestureEach (trace ++ out) ↔ OneGesture (touch ++ out) := by
  unfold OneGestureEach at hone ⊢
  rw [htouch] at hone
  rw [stretches_append, htouch, foldl_extend_inside hout, List.forall_mem_cons]
  exact and_iff_left (List.forall_mem_cons.mp hone).2

theorem touching_move (hone : OneGestureEach trace) (htouching : Touching trace s) :
    OneGestureEach (trace ++ (s.move cfg clock).1) ∧
      Touching (trace ++ (s.move cfg clock).1) (s.move cfg clock).2 := by
  obtain ⟨touch, before, htouch, hlost, hreport⟩ := htouching
  obtain ⟨reported, hmove, hmost, -, -⟩ := s.move_atMost cfg clock
  have hinside : ∀ o ∈ reported.map NavOutput.gesture, o.isDetected = false := by
    simp [NavOutput.isDetected]
  have hstill : ∀ o ∈ touch ++ reported.map NavOutput.gesture, o.isLost = false :=
    List.forall_mem_append.mpr ⟨hlost, by simp [NavOutput.isLost]⟩
  -- nothing is reported behind a long press
  have hnow : reportedIn (touch ++ reported.map .gesture) = [] ∨
      reportedIn (touch ++ reported.map .gesture) = [.longPress] ∧
        (s.move cfg clock).2.nav.movingKey = .longPress := by
    rw [reportedIn_append, reportedIn_map_gesture]
    rcases hmost.reported with rfl | ⟨rfl, hbefore, hafter⟩
    · rw [List.append_nil]
      exact hreport.imp_right fun h => ⟨h.1, hmost.stays h.2⟩
    · rcases hreport with hnone | hlong
      · exact .inr ⟨by rw [hnone]; rfl, hafter⟩
      · exact absurd hlong.2 hbefore
  rw [hmove]
  refine ⟨(oneGestureEach_append_iff htouch hone hinside).mpr ⟨?_, ?_⟩, _, before, ?_, hstill, hnow⟩
  · rcases hnow with hnone | hlong
    · simp [hnone]
    · simp [hlong.1]
  · rw [afterLost_of_forall hstill]
    rfl
  · rw [stretches_append, htouch, foldl_extend_inside hinside]

theorem oneGestureEach_track_lost (deltaX deltaY : Int32) {getRelRet : Int32}
    (hlost : getRelRet ≠ 0) (hone : OneGestureEach trace) (htouching : Touching trace s) :
    OneGestureEach (trace ++ (s.track cfg clock (some (deltaX, deltaY, getRelRet))).1) ↔
      s.CleanLost cfg clock (some (deltaX, deltaY, getRelRet)) := by
  obtain ⟨touch, before, htouch, hthere, hreport⟩ := htouching
  obtain ⟨decided, hsample, -, hlong, hclean⟩ := s.cleanLost_iff cfg clock deltaX deltaY hlost
  generalize some (deltaX, deltaY, getRelRet) = coords at hsample hlong hclean ⊢
  obtain ⟨reported, hmove, hmost, -, -⟩ := (s.sample cfg clock coords).2.move_atMost cfg clock
  have htrack : (s.track cfg clock coords).1 = .lost decided :: reported.map .gesture := by
    simp [NavState.track, hsample, hmove]
  have hinside : ∀ o ∈ (s.track cfg clock coords).1, o.isDetected = false := by
    rw [htrack]
    simp [NavOutput.isDetected]
  rw [oneGestureEach_append_iff htouch hone hinside, htrack]
  have hall : reportedIn (touch ++ NavOutput.lost decided :: reported.map .gesture) =
      reportedIn touch ++ (decided ++ reported) := by
    rw [reportedIn_append]
    exact congrArg (fun gs => reportedIn touch ++ (decided ++ gs)) (reportedIn_map_gesture reported)
  rw [hclean, hmove, List.map_eq_nil_iff, OneGesture, afterLost_append hthere,
    reportedIn_map_gesture, hall]
  rcases hreport with hnone | ⟨hpressed, hkey⟩
  · rw [hnone, List.nil_append, List.length_append]
    exact and_congr_left fun hreport => by rw [hreport]; rfl
  · obtain ⟨rfl, hkey'⟩ := hlong hkey
    rcases hmost.reported with rfl | ⟨-, hbefore, -⟩
    · simp [hpressed]
    · exact absurd hkey' hbefore

theorem NavState.track_snd (s : NavState) (coords : Option (Int32 × Int32 × Int32)) :
    (s.track cfg clock coords).2 = ((s.sample cfg clock coords).2.move cfg clock).2 := by
  unfold NavState.track
  generalize s.sample cfg clock coords = sampled
  obtain ⟨lost, s₁⟩ := sampled
  rfl

theorem touching_track (coords : Option (Int32 × Int32 × Int32)) (hone : OneGestureEach trace)
    (htouching : Touching trace s) :
    (OneGestureEach (trace ++ (s.track cfg clock coords).1) ↔ s.CleanLost cfg clock coords) ∧
      ((s.track cfg clock coords).2.fingerLost = false →
        Touching (trace ++ (s.track cfg clock coords).1) (s.track cfg clock coords).2) := by
  have hpresent : lostReport coords = false →
      OneGestureEach (trace ++ (s.track cfg clock coords).1) ∧
        Touching (trace ++ (s.track cfg clock coords).1) (s.track cfg clock coords).2 := by
    intro hcoords
    obtain ⟨deltaX, deltaY, hsample⟩ := s.sample_present cfg clock hcoords
    have htrack : s.track cfg clock coords = { s with deltaX, deltaY }.move cfg clock := by
      simp [NavState.track, hsample]
    rw [htrack]
    exact touching_move cfg clock hone htouching
  match coords with
  | none => exact ⟨iff_of_true (hpresent rfl).1 trivial, fun _ => (hpresent rfl).2⟩
  | some (deltaX, deltaY, getRelRet) =>
    by_cases hlost : getRelRet ≠ 0
    · refine ⟨oneGestureEach_track_lost cfg clock deltaX deltaY hlost hone htouching, ?_⟩
      obtain ⟨-, -, hgone, -, -⟩ := s.cleanLost_iff cfg clock deltaX deltaY hlost
      intro hthere
      obtain ⟨-, -, -, -, hsame⟩ := NavState.move_atMost cfg clock (NavState.sample cfg clock s _).2
      rw [NavState.track_snd, hsame, hgone] at hthere
      cases hthere
    · have hcoords : lostReport (some (deltaX, deltaY, getRelRet)) = false := by
        simpa [lostReport] using hlost
      obtain ⟨hclean, hkept⟩ := hpresent hcoords
      exact ⟨iff_of_true hclean fun h => absurd h hlost, fun _ => hkept⟩

theorem navInvariant_step (trace : List NavOutput) (s : NavState) (i : NavInput)
    (hinv : NavInvariant trace s) (hone : OneGestureEach trace) :
    (OneGestureEach (trace ++ (s.step cfg clock i).1) ↔ s.Clean cfg clock i) ∧
      (s.Clean cfg clock i →
        NavInvariant (trace ++ (s.step cfg clock i).1) (s.step cfg clock i).2) := by
  cases i with
  | enter =>
    simp only [NavState.step, NavState.Clean, List.append_nil]
    exact ⟨iff_of_true hone trivial, fun _ _ => by simp⟩
  | pass p =>
    cases hrun : s.running with
    | false =>
      have hclean : s.Clean cfg clock (.pass p) := fun h => absurd h (by simp [hrun])
      have hstep : s.step cfg clock (.pass p) = ([], s) := by simp [NavState.step, hrun]
      rw [hstep, List.append_nil]
      exact ⟨iff_of_true hone hclean, fun _ => hinv⟩
    | true =>
      by_cases hwait : s.fingerLost = true ∧ p.wait ≠ 0
      · have hclean : s.Clean cfg clock (.pass p) := fun _ h => absurd hwait h
        have hstep : s.step cfg clock (.pass p) =
            ([], { s with nav := s.nav.initEnhancedNaviSetting cfg, running := false }) := by
          simp [NavState.step, hrun, hwait]
        rw [hstep, List.append_nil]
        exact ⟨iff_of_true hone hclean, fun _ h => by cases h⟩
      · obtain ⟨hone', htouching⟩ := touching_detect cfg clock hinv hrun hone
        cases hstop : p.stop with
        | true =>
          have hclean : s.Clean cfg clock (.pass p) := fun _ _ h => absurd h (by simp [hstop])
          have hstep : s.step cfg clock (.pass p) =
              ((s.detect cfg clock).1, { (s.detect cfg clock).2 with running := false }) := by
            simp only [NavState.step, hrun, if_neg hwait, hstop]
            rfl
          rw [hstep]
          exact ⟨iff_of_true hone' hclean, fun _ h => by cases h⟩
        | false =>
          have hclean : s.Clean cfg clock (.pass p) ↔
              (s.detect cfg clock).2.CleanLost cfg clock p.coords :=
            ⟨fun h => h hrun hwait hstop, fun h _ _ _ => h⟩
          have hstep : s.step cfg clock (.pass p) =
              ((s.detect cfg clock).1 ++ ((s.detect cfg clock).2.track cfg clock p.coords).1,
                ((s.detect cfg clock).2.track cfg clock p.coords).2) := by
            simp only [NavState.step, hrun, if_neg hwait, hstop]
            rfl
          obtain ⟨htrack, hnext⟩ := touching_track cfg clock p.coords hone' htouching
          rw [hstep, ← List.append_assoc, hclean]
          exact ⟨htrack, fun _ _ => hnext⟩

/-- One gesture a touch, exactly in clean runs. -/
theorem nav_oneGesture_iff (inputs : List NavInput) :
    OneGestureEach (run (NavState.step cfg clock) .start inputs).1 ↔
      Meets (NavState.step cfg clock) (NavState.Clean cfg clock) .start inputs := by
  have hprefix : ∀ a b, OneGestureEach (a ++ b) → OneGestureEach a :=
    fun _ _ => forall_stretches_of_append OneGesture.of_snoc
  have hstart : NavInvariant [] .start := by
    intro hrun
    cases hrun
  exact run_iff_meets hprefix (navInvariant_step cfg clock) inputs hstart (List.forall_mem_nil _)

theorem clean_of_config (hlong : cfg.enableLongPress = 0) (htwo : cfg.twoDimensionalNav = 1)
    (s : NavState) (i : NavInput) : s.Clean cfg clock i := by
  cases i with
  | enter => trivial
  | pass p =>
    intro _ _ _
    match p.coords with
    | none => trivial
    | some (deltaX, deltaY, getRelRet) =>
      exact fun _ => ⟨fun htwice => htwice.2.2.1 htwo, fun hlate => hlate.2.2.2.1 hlong⟩

/-- Without long presses, and with both dimensions compared. -/
theorem nav_oneGesture_of_config (hlong : cfg.enableLongPress = 0)
    (htwo : cfg.twoDimensionalNav = 1) (inputs : List NavInput) :
    OneGestureEach (run (NavState.step cfg clock) .start inputs).1 := by
  have hstart : OneGestureEach [] ∧ NavInvariant [] .start :=
    ⟨List.forall_mem_nil _, fun hrun => by cases hrun⟩
  have hstep : ∀ trace s i, OneGestureEach trace ∧ NavInvariant trace s →
      OneGestureEach (trace ++ (NavState.step cfg clock s i).1) ∧
        NavInvariant (trace ++ (NavState.step cfg clock s i).1) (s.step cfg clock i).2 := by
    intro trace s i h
    obtain ⟨hone, hnext⟩ := navInvariant_step cfg clock trace s i h.2 h.1
    have hclean := clean_of_config cfg clock hlong htwo s i
    exact ⟨hone.mpr hclean, hnext hclean⟩
  exact (run_invariant_all hstep hstart).1

end

def touchConfig : GestureConfig := ⟨0, 1, 1, 500, 300, 1, 2, 2, 2, 2, 1⟩
def directionConfig : GestureConfig := ⟨1, 0, 0, 500, 300, 0, 0, 0, 0, 0, 0⟩

def slowClock (n : Nat) : UInt64 := .ofNat (1000000 + 300 * n)

def lostPass : NavInput := .pass ⟨0, false, some (0, 0, 1)⟩
def leftUpPass : NavInput := .pass ⟨0, false, some (-30, 30, 0)⟩

theorem nav_oneGesture_of_config_leftUp :
    OneGestureEach (run (NavState.step { directionConfig with twoDimensionalNav := 1 } slowClock)
      .start [.enter, leftUpPass, leftUpPass, leftUpPass, lostPass]).1 :=
  nav_oneGesture_of_config _ _ rfl rfl _

theorem nav_not_oneGesture :
    (run (NavState.step touchConfig slowClock) .start [.enter, lostPass]).1 =
        [.detected, .lost [.touch], .gesture .longPress] ∧
      ¬OneGestureEach (run (NavState.step touchConfig slowClock) .start [.enter, lostPass]).1 ∧
      ¬OneGestureEach (run (NavState.step directionConfig slowClock) .start
        [.enter, leftUpPass, leftUpPass, leftUpPass, lostPass]).1 := by
  decide +kernel

end WikoPlatform.Chipone
