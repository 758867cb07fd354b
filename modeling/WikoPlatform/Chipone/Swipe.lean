import Mathlib.Algebra.Ring.Int.Defs
import WikoPlatform.Chipone.Navigation

/-! The key that the dispatcher of `fp_nav.cpp` reports at a lost finger, with both dimensions
compared, against the sums of the scaled movements. -/

namespace WikoPlatform.Chipone

structure Movement where
  x : Int
  y : Int
  jiffiess : UInt64

namespace Nav

/-- `FNGR_ST_LOST` with `report_touch_by_timer`. -/
def dispatchLostByTimer (cfg : GestureConfig) (set : Bool) (nav : Nav) (jiffiess : UInt64) :
    List Gesture × Nav :=
  if set = false then ([], nav)
  else if nav.movingKey = .undecided ∧ cfg.enableTouch = 1 ∧
      jiffiess - nav.leaveTime > nav.doubleClickTimeThreshold then
    ([], { nav with leaveTime := if cfg.enableDoubleClick = 1 then jiffiess else 0 })
  else nav.dispatchLost cfg jiffiess

/-- What is reported at the lost event. -/
def lostKeys (cfg : GestureConfig) (timer : Option Bool) (nav : Nav) (jiffiess : UInt64) :
    List Gesture :=
  match timer with
  | none => (nav.dispatchLost cfg jiffiess).1
  | some set => (nav.dispatchLostByTimer cfg set jiffiess).1

/-- The movements between a detected finger and a lost one. -/
def swipe (cfg : GestureConfig) (nav : Nav) (jiffiess : UInt64) (moves : List Movement) : Nav :=
  moves.foldl (fun nav m => (nav.dispatchMoving cfg m.x m.y m.jiffiess).2)
    (nav.dispatchDetected cfg jiffiess)

end Nav

def scaledSum (axis : Movement → Int) (moves : List Movement) : Int :=
  (moves.map fun m => Nav.scale (axis m)).sum

/-- The gesture is along the longer axis, and its sign is right. -/
def Gesture.Along (x y : Int) : Gesture → Prop
  | .right => y.natAbs ≤ x.natAbs ∧ 0 < x
  | .left => y.natAbs ≤ x.natAbs ∧ x < 0
  | .up => x.natAbs ≤ y.natAbs ∧ 0 < y
  | .down => x.natAbs ≤ y.natAbs ∧ y < 0
  | _ => True

namespace Nav

variable {cfg : GestureConfig} {nav : Nav} {x y : Int}

/-- The sums of a touch in which no long press is reported. -/
structure Sums (nav : Nav) (x y : Int) : Prop where
  key : nav.movingKey ≠ .longPress
  colX : nav.colX = int32 x
  colY : nav.colY = int32 y

theorem int32_add (a b : Int) : int32 (int32 a + b) = int32 (a + b) := Int.bmod_add_bmod

theorem int32_add_of_absInt_eq_zero {b : Int} (h : absInt b = 0) (a : Int) :
    int32 (a + b) = int32 a := by
  have hzero : int32 b = 0 := by
    unfold absInt at h
    split at h
    · omega
    · exact Int.bmod_eq_zero_of_dvd (Int.dvd_neg.mp (Int.dvd_of_bmod_eq_zero h))
  rw [Int.add_comm, ← int32_add, hzero, Int.zero_add]

theorem countX_key (h : nav.movingKey ≠ .longPress) (dx : Int) :
    (nav.countX dx).movingKey ≠ .longPress ∧ (nav.countX dx).colX = nav.colX ∧
      (nav.countX dx).colY = nav.colY := by
  unfold countX
  dsimp only
  split_ifs <;> simp [h]

theorem countY_key (h : nav.movingKey ≠ .longPress) (dy : Int) :
    (nav.countY dy).movingKey ≠ .longPress ∧ (nav.countY dy).colX = nav.colX ∧
      (nav.countY dy).colY = nav.colY := by
  unfold countY
  dsimp only
  split_ifs <;> simp [h]

theorem Sums.countDirections (h : nav.Sums x y) (hdir : cfg.enableDirection ≠ 0)
    (dx dy : Int) : (nav.countDirections cfg dx dy).Sums (x + dx) (y + dy) := by
  obtain ⟨hkey, hx, hy⟩ := h
  unfold Nav.countDirections
  split_ifs with hmoved
  · obtain ⟨hkeyX, hcolX, hcolY⟩ := countX_key hkey dx
    let nav' := { nav.countX dx with colX := int32 ((nav.countX dx).colX + dx) }
    have hkey' : nav'.movingKey ≠ .longPress := hkeyX
    obtain ⟨hkeyY, hcolX', hcolY'⟩ := countY_key hkey' dy
    refine ⟨hkeyY, hcolX'.trans ?_, ?_⟩
    · rw [← int32_add, ← hx, ← hcolX]
    · rw [← int32_add, ← hy, ← hcolY, ← hcolY']
  · have hstill : absInt dx = 0 ∧ absInt dy = 0 := by
      simpa [hdir, hkey] using hmoved
    refine ⟨hkey, hx.trans ?_, hy.trans ?_⟩
    · rw [int32_add_of_absInt_eq_zero hstill.1]
    · rw [int32_add_of_absInt_eq_zero hstill.2]

theorem Sums.pressLong (h : nav.Sums x y) (hlong : cfg.enableLongPress = 0) (jiffiess : UInt64) :
    (nav.pressLong cfg jiffiess).2.Sums x y := by
  obtain ⟨hkey, hx, hy⟩ := h
  simp only [Nav.pressLong, hlong, ne_eq, not_true_eq_false, false_and, and_false, if_false]
  split
  · exact ⟨by simp, hx, hy⟩
  · exact ⟨hkey, hx, hy⟩

theorem Sums.dispatchMoving (h : nav.Sums x y) (hdir : cfg.enableDirection ≠ 0)
    (hlong : cfg.enableLongPress = 0) (m : Movement) :
    (nav.dispatchMoving cfg m.x m.y m.jiffiess).2.Sums (x + scale m.x) (y + scale m.y) := by
  have hsumy : ({ nav with sumy := int32 (nav.sumy + scale m.y) } : Nav).Sums x y := { h with }
  exact (hsumy.pressLong hlong m.jiffiess).countDirections hdir _ _

theorem Sums.foldl (h : nav.Sums x y) (hdir : cfg.enableDirection ≠ 0)
    (hlong : cfg.enableLongPress = 0) (moves : List Movement) :
    (moves.foldl (fun nav m => (nav.dispatchMoving cfg m.x m.y m.jiffiess).2) nav).Sums
      (x + scaledSum Movement.x moves) (y + scaledSum Movement.y moves) := by
  induction moves generalizing nav x y with
  | nil => simpa [scaledSum] using h
  | cons m moves ih =>
    simpa [scaledSum, Int.add_assoc] using ih (h.dispatchMoving hdir hlong m)

theorem lostKeys_direction (h : nav.movingKey = .direction) (timer : Option Bool)
    (jiffiess : UInt64) :
    nav.lostKeys cfg timer jiffiess = if timer = some false then [] else nav.directions cfg := by
  rcases timer with - | - | - <;> simp [lostKeys, dispatchLostByTimer, dispatchLost, h]

theorem along_of_ne_direction (h : nav.movingKey ≠ .direction) (timer : Option Bool)
    (jiffiess : UInt64) : ∀ g ∈ nav.lostKeys cfg timer jiffiess, g.Along x y := by
  rcases timer with - | - | - <;>
    simp only [lostKeys, dispatchLostByTimer, dispatchLost, h, if_false] <;>
    split_ifs <;> simp [Gesture.Along]

theorem absInt_eq (h : -2 ^ 31 < x) (hlt : x < 2 ^ 31) : absInt x = x.natAbs := by
  unfold absInt int32
  split
  · omega
  · rw [Int.bmod_eq_of_le (by omega) (by omega)]
    omega

/-- The sums tell a direction, and `abs` makes sense of them. -/
def Directed (x y : Int) : Prop := (x ≠ 0 ∨ y ≠ 0) ∧ (x = -2 ^ 31 ↔ y = -2 ^ 31)

theorem directions_along_iff (htwo : cfg.twoDimensionalNav = 1)
    (hx : -2 ^ 31 ≤ nav.colX ∧ nav.colX < 2 ^ 31) (hy : -2 ^ 31 ≤ nav.colY ∧ nav.colY < 2 ^ 31) :
    (∀ g ∈ nav.directions cfg, g.Along nav.colX nav.colY) ↔ Directed nav.colX nav.colY := by
  have hmin : absInt (-2 ^ 31) = -2 ^ 31 := by decide
  rw [directions, if_pos htwo, Directed]
  by_cases hxmin : nav.colX = -2 ^ 31 <;> by_cases hymin : nav.colY = -2 ^ 31
  · rw [hxmin, hymin]
    simp [Gesture.Along]
  · rw [hxmin, hmin, absInt_eq (by omega) hy.2]
    split_ifs <;> simp [Gesture.Along] <;> omega
  · rw [hymin, hmin, absInt_eq (by omega) hx.2]
    split_ifs <;> simp [Gesture.Along] <;> omega
  · rw [absInt_eq (by omega) hx.2, absInt_eq (by omega) hy.2]
    split_ifs <;> simp [Gesture.Along] <;> omega

theorem swipe_along_iff (htwo : cfg.twoDimensionalNav = 1) (hdir : cfg.enableDirection ≠ 0)
    (hlong : cfg.enableLongPress = 0) (nav : Nav) (touched lost : UInt64) (timer : Option Bool)
    (moves : List Movement)
    (hx : -2 ^ 31 ≤ scaledSum Movement.x moves ∧ scaledSum Movement.x moves < 2 ^ 31)
    (hy : -2 ^ 31 ≤ scaledSum Movement.y moves ∧ scaledSum Movement.y moves < 2 ^ 31) :
    (∀ g ∈ (nav.swipe cfg touched moves).lostKeys cfg timer lost,
      g.Along (scaledSum Movement.x moves) (scaledSum Movement.y moves)) ↔
    ((nav.swipe cfg touched moves).movingKey = .direction → timer ≠ some false →
      Directed (scaledSum Movement.x moves) (scaledSum Movement.y moves)) := by
  have hstart : (nav.dispatchDetected cfg touched).Sums 0 0 :=
    ⟨by simp [dispatchDetected, hdir], rfl, rfl⟩
  obtain ⟨-, hcolX, hcolY⟩ := hstart.foldl hdir hlong moves
  rw [Int.zero_add, int32_of_mem ‹_›] at hcolX hcolY
  change (nav.swipe cfg touched moves).colX = _ at hcolX
  change (nav.swipe cfg touched moves).colY = _ at hcolY
  by_cases hkey : (nav.swipe cfg touched moves).movingKey = .direction
  · rw [lostKeys_direction hkey, ← hcolX, ← hcolY]
    split
    · simp [*]
    · rw [directions_along_iff htwo (by rwa [hcolX]) (by rwa [hcolY])]
      simp [*]
  · exact iff_of_true (along_of_ne_direction hkey timer lost) fun h => absurd h hkey

def twoDimensional : GestureConfig := ⟨1, 0, 0, 0, 0, 1, 0, 0, 0, 0, 1⟩

def backAndForth : List Movement := [⟨3, 0, 1⟩, ⟨-3, 0, 2⟩]

theorem swipe_along_back :
    (NavState.start.nav.swipe twoDimensional 0 (⟨3, 1, 1⟩ :: backAndForth)).lostKeys
      twoDimensional none 3 ≠ [] ∧
    ∀ g ∈ (NavState.start.nav.swipe twoDimensional 0 (⟨3, 1, 1⟩ :: backAndForth)).lostKeys
      twoDimensional none 3, g.Along 10 3 :=
  ⟨by decide, (swipe_along_iff rfl (by decide) rfl _ 0 3 none (⟨3, 1, 1⟩ :: backAndForth)
    (by decide) (by decide)).mpr fun _ _ => ⟨by decide, by decide⟩⟩

theorem not_swipe_along_backAndForth :
    ¬∀ g ∈ (NavState.start.nav.swipe twoDimensional 0 backAndForth).lostKeys twoDimensional none 3,
      g.Along (scaledSum Movement.x backAndForth) (scaledSum Movement.y backAndForth) :=
  fun h => absurd (h .down (by decide)).2 (by decide)

end Nav

end WikoPlatform.Chipone
