import Mathlib.Data.List.Infix
import WikoPlatform.Lib.Runs

/-! `EncryptSettingActivity`, where a new number or pattern is entered twice and stored. The click
that completes the second number only posts a message, and the message stores what it finds. -/

namespace WikoPlatform.FileLock.SettingActivity

open Runs

abbrev Cell : Type := Fin 3 × Fin 3

inductive Credential where
  | number (digits : List (Fin 10))
  | pattern (cells : List Cell)
  deriving DecidableEq

def Credential.size : Credential → Nat
  | .number digits => digits.length
  | .pattern cells => cells.length

inductive PatternState where
  | start
  | second
  | complete
  deriving DecidableEq

def maxInputNumber : Nat := 10
def minNumberSize : Nat := 4
def minLockPatternSize : Nat := 4

/-- The fields of the screen. -/
structure Setting where
  /-- `resultCode` is `CHANGE_PASSWORD_CODE`. -/
  change : Bool
  /-- `mActivityType` is `NUMBER_PASSWORD`, and the number layout is the visible one. -/
  isNumber : Bool
  first : List (Fin 10)
  again : List (Fin 10)
  secondNumberFlag : Bool
  secondPatternFlag : Bool
  patternContent : Option (List Cell)
  currentState : PatternState
  passMsg : Bool
  nextVisible : Bool
  numberTextVisible : Bool
  inputEnabled : Bool
  /-- `complete_LinearLayout` is visible, and neither of the other two layouts. -/
  complete : Bool
  asking : Nat
  finished : Bool
  /-- Only known to the specification: a second entry was refused since the first. -/
  refused : Bool
  deriving DecidableEq

inductive Output where
  | entered (c : Credential)
  | rejected (c : Credential)
  | stored (c : Credential)
  deriving DecidableEq

inductive Event where
  /-- A digit button, or the delete button. -/
  | key (digit : Option (Fin 10))
  | next
  | numberText
  | endText
  | pattern (cells : List Cell)
  | completeButton
  | back
  | passMsg
  | activityResult (expected : Bool) (question : Int) (answer : Option String)

namespace Setting

def start (change isNumber : Bool) : Setting where
  change
  isNumber
  first := []
  again := []
  secondNumberFlag := false
  secondPatternFlag := false
  patternContent := none
  currentState := .start
  passMsg := false
  nextVisible := false
  numberTextVisible := true
  inputEnabled := true
  complete := false
  asking := 0
  finished := false
  refused := false

def keyAgain (s : Setting) : Option (Fin 10) → List Output × Setting
  | some digit =>
    if s.again.length < s.first.length then
      let again := s.again ++ [digit]
      if again.length = s.first.length then
        if again = s.first then ([.entered (.number again)], { s with again, passMsg := true })
        else ([.rejected (.number again)], { s with again := [], refused := true })
      else ([], { s with again })
    else ([], s)
  | none => ([], { s with again := s.again.dropLast })

def firstAfter (s : Setting) : Option (Fin 10) → List (Fin 10)
  | some digit => if s.first.length < maxInputNumber then s.first ++ [digit] else []
  | none => s.first.dropLast

def keyFirst (s : Setting) (digit : Option (Fin 10)) : Setting :=
  let first := s.firstAfter digit
  { s with
    first
    nextVisible := minNumberSize ≤ first.length
    numberTextVisible := first.length < minNumberSize }

def onClick (s : Setting) (digit : Option (Fin 10)) : List Output × Setting :=
  if s.passMsg then ([], s)
  else if s.secondNumberFlag then s.keyAgain digit
  else ([], s.keyFirst digit)

def clickNext (s : Setting) : List Output × Setting :=
  ([.entered (.number s.first)],
    { s with
      secondNumberFlag := true, nextVisible := false, numberTextVisible := true, refused := false })

def clickNumberText (s : Setting) : Setting :=
  { s with
    isNumber := if s.secondNumberFlag then s.isNumber else !s.isNumber
    secondNumberFlag := false
    first := []
    again := [] }

def clickEndText (s : Setting) : Setting :=
  match s.currentState with
  | .start => { s with isNumber := !s.isNumber, secondPatternFlag := false }
  | .second => { s with currentState := .start, secondPatternFlag := false }
  | .complete => s

def confirmPattern (s : Setting) (cells : List Cell) : List Output × Setting :=
  let s := { s with currentState := .complete, inputEnabled := false }
  if s.change then
    ([.entered (.pattern cells), .stored (.pattern cells)], { s with complete := true })
  else ([.entered (.pattern cells)], { s with asking := s.asking + 1 })

def onPatternDetected (s : Setting) (cells : List Cell) : List Output × Setting :=
  if minLockPatternSize ≤ cells.length ∧ ¬s.secondPatternFlag then
    ([.entered (.pattern cells)],
      { s with
        currentState := .second, secondPatternFlag := true, patternContent := some cells
        inputEnabled := true, refused := false })
  else if s.secondPatternFlag ∧ s.patternContent = some cells then s.confirmPattern cells
  else if s.secondPatternFlag then
    ([.rejected (.pattern cells)], { s with inputEnabled := true, refused := true })
  else ([], { s with inputEnabled := true })

def clickComplete (s : Setting) : Setting :=
  if s.change then { s with finished := true } else { s with asking := s.asking + 1 }

def handlePassMsg (s : Setting) : List Output × Setting :=
  let s := { s with passMsg := false }
  if s.change then ([.stored (.number s.again)], { s with complete := true })
  else ([], { s with asking := s.asking + 1 })

def committed (s : Setting) : Option Credential :=
  if s.isNumber then some (.number s.again) else s.patternContent.map .pattern

/-- A result that is not waited for changes nothing. -/
def onActivityResult (s : Setting) (expected : Bool) (question : Int) (answer : Option String) :
    List Output × Setting :=
  let s := { s with asking := s.asking - 1 }
  if expected then
    (if 0 ≤ question ∧ answer.isSome then s.committed.toList.map .stored else [],
      { s with finished := true })
  else ([], s)

def visible (s : Setting) : Event → Bool
  | .key _ => s.isNumber && !s.complete
  | .next => s.isNumber && !s.complete && s.nextVisible
  | .numberText => s.isNumber && !s.complete && s.numberTextVisible
  | .endText => !s.isNumber && !s.complete
  | .pattern _ => !s.isNumber && !s.complete && s.inputEnabled
  | .completeButton => s.complete
  | .back => true
  | .passMsg | .activityResult .. => false

/-- The listener or the handler of an event. -/
def listen (s : Setting) : Event → List Output × Setting
  | .key digit => s.onClick digit
  | .next => s.clickNext
  | .numberText => ([], s.clickNumberText)
  | .endText => ([], s.clickEndText)
  | .pattern cells => s.onPatternDetected cells
  | .completeButton => ([], s.clickComplete)
  | .back => ([], { s with finished := true })
  | .passMsg => if s.passMsg then s.handlePassMsg else ([], s)
  | .activityResult .. => ([], s)

/-- Touches reach the screen in front, messages any. -/
def step (s : Setting) (e : Event) : List Output × Setting :=
  match e with
  | .passMsg => s.listen .passMsg
  | .activityResult expected question answer =>
    if s.asking ≠ 0 ∧ ¬s.finished then s.onActivityResult expected question answer else ([], s)
  | _ => if s.asking = 0 ∧ ¬s.finished ∧ s.visible e then s.listen e else ([], s)

end Setting

def Output.credential : Output → Option Credential
  | .stored c => some c
  | .entered _ | .rejected _ => none

def Output.entry : Output → Option Credential
  | .entered c | .rejected c => some c
  | .stored _ => none

def entries (trace : List Output) : List Credential := trace.filterMap Output.entry

def Credential.minSize : Credential → Nat
  | .number _ => minNumberSize
  | .pattern _ => minLockPatternSize

/-- It is long enough and was entered twice in a row. -/
def Confirmed (trace : List Output) (c : Credential) : Prop :=
  c.minSize ≤ c.size ∧ [c, c] <:+: entries trace

section

variable {trace : List Output} {c : Credential}

theorem entries_append (trace out : List Output) :
    entries (trace ++ out) = entries trace ++ entries out := List.filterMap_append

theorem entries_stored (trace : List Output) (c : Credential) :
    entries (trace ++ [Output.stored c]) = entries trace := by
  rw [entries_append]
  exact List.append_nil _

theorem last_entered (trace : List Output) (c : Credential) :
    (entries (trace ++ [Output.entered c])).getLast? = some c := by
  rw [entries_append]
  exact List.getLast?_concat

theorem twice_entered (h : (entries trace).getLast? = some c) :
    [c, c] <:+: entries (trace ++ [Output.entered c]) := by
  obtain ⟨earlier, hearlier⟩ := List.getLast?_eq_some_iff.mp h
  rw [entries_append, hearlier]
  exact ⟨earlier, [], by simp [entries, Output.entry]⟩

theorem Confirmed.append (h : Confirmed trace c) (out : List Output) : Confirmed (trace ++ out) c :=
  ⟨h.1, by rw [entries_append]; exact h.2.trans (List.infix_append' [] _ _)⟩

end

/-- Nothing is reset or switched before the message that stores it, and none was refused since the
first entry. -/
def Steady (s : Setting) : Event → Prop
  | .numberText => s.passMsg = false
  | .key digit =>
    s.secondNumberFlag = true → digit.map (s.again ++ [·]) = some s.first → s.refused = false
  | .pattern cells =>
    s.secondPatternFlag = true → s.patternContent = some cells → s.refused = false
  | _ => True

instance decidableSteady (s : Setting) (event : Event) : Decidable (Steady s event) := by
  unfold Steady
  split <;> infer_instance

theorem elim_flag {flag : Bool} {P : Prop} (hdown : flag = false) (hup : flag = true) : P :=
  absurd hup (Bool.eq_false_iff.mp hdown)

/-- The first of two entries is the last thing that was entered, unless a second was refused; what
is about to be stored is confirmed. -/
structure Held (trace : List Output) (s : Setting) : Prop where
  next : s.nextVisible = true → s.secondNumberFlag = false ∧ minNumberSize ≤ s.first.length
  exclusive : s.nextVisible = true → s.numberTextVisible = false
  number : s.secondNumberFlag = true →
    s.isNumber = true ∧ minNumberSize ≤ s.first.length ∧
      (s.refused = false → (entries trace).getLast? = some (.number s.first))
  pattern : s.secondPatternFlag = true → s.isNumber = false ∧ ∃ cells,
    s.patternContent = some cells ∧ minLockPatternSize ≤ cells.length ∧
      (s.refused = false → (entries trace).getLast? = some (.pattern cells))
  passMsg : s.passMsg = true →
    s.secondNumberFlag = true ∧ s.again = s.first ∧
      [.number s.first, .number s.first] <:+: entries trace
  asking : s.asking ≠ 0 → ∃ c, s.committed = some c ∧ Confirmed trace c
  complete : s.complete = true → s.change = true

def Just (before : List Output) : Output → Prop
  | .stored c => Confirmed before c
  | .entered _ | .rejected _ => True

def Good (trace : List Output) (r : List Output × Setting) : Prop :=
  Justified Just (trace ++ r.1) ∧ Held (trace ++ r.1) r.2

section

variable {trace : List Output} {s : Setting} {c : Credential} {e : Event}

theorem Good.cons {o : Output} {out : List Output} (h : Good (trace ++ [o]) (out, s)) :
    Good trace (o :: out, s) := by
  rw [Good, List.append_cons]
  exact h

section

variable (h : Held trace s)
include h

theorem Held.stored (c : Credential) : Held (trace ++ [Output.stored c]) s :=
  { h with
    number := by
      rw [entries_stored]
      exact h.number
    pattern := by
      rw [entries_stored]
      exact h.pattern
    passMsg := by
      rw [entries_stored]
      exact h.passMsg
    asking := fun hne => (h.asking hne).imp fun _ hc => ⟨hc.1, hc.2.append _⟩ }

theorem Held.not_pattern (hnum : s.isNumber = true) : s.secondPatternFlag = false := by
  refine Bool.eq_false_iff.mpr fun hflag => ?_
  exact Bool.false_ne_true ((h.pattern hflag).1.symm.trans hnum)

theorem Held.not_number (hpat : s.isNumber = false) : s.secondNumberFlag = false := by
  refine Bool.eq_false_iff.mpr fun hflag => ?_
  exact Bool.false_ne_true (hpat.symm.trans (h.number hflag).1)

theorem Held.not_passMsg (hflag : s.secondNumberFlag = false) : s.passMsg = false := by
  refine Bool.eq_false_iff.mpr fun hmsg => ?_
  exact Bool.false_ne_true (hflag.symm.trans (h.passMsg hmsg).1)

theorem Held.drawn (hpat : s.isNumber = false) {trace' : List Output}
    {secondPatternFlag inputEnabled complete refused : Bool} {patternContent : Option (List Cell)}
    {currentState : PatternState} {asking : Nat}
    (hsecond : secondPatternFlag = true → ∃ cells, patternContent = some cells ∧
      minLockPatternSize ≤ cells.length ∧
        (refused = false → (entries trace').getLast? = some (.pattern cells)))
    (hask : asking ≠ 0 → ∃ cells, patternContent = some cells ∧
      Confirmed trace' (.pattern cells)) (hcomplete : complete = true → s.change = true) :
    Held trace' { s with secondPatternFlag, patternContent, currentState, inputEnabled, complete,
                         asking, refused } := by
  have hflag := h.not_number hpat
  exact
    { h with
      number := elim_flag hflag
      pattern := fun hsecond' => ⟨hpat, hsecond hsecond'⟩
      passMsg := elim_flag (h.not_passMsg hflag)
      asking := fun hne => by
        obtain ⟨cells, hcontent, hconfirmed⟩ := hask hne
        exact ⟨.pattern cells, by simp [Setting.committed, hpat, hcontent], hconfirmed⟩
      complete := hcomplete }

theorem Held.finish : Held trace { s with finished := true } := { h with }

variable (hask : s.asking = 0)
include hask

theorem keyFirst_held (hflag : s.secondNumberFlag = false) (digit : Option (Fin 10)) :
    Held trace (s.keyFirst digit) where
  next hnext := ⟨hflag, of_decide_eq_true hnext⟩
  exclusive hnext := by
    have hsize : minNumberSize ≤ (s.firstAfter digit).length := of_decide_eq_true hnext
    exact decide_eq_false (Nat.not_lt.mpr hsize)
  number hflag' := elim_flag hflag hflag'
  pattern := h.pattern
  passMsg hmsg := elim_flag (h.not_passMsg hflag) hmsg
  asking hne := absurd hask hne
  complete := h.complete

theorem clickNumberText_held (hnum : s.isNumber = true) (htext : s.numberTextVisible = true)
    (hmsg : s.passMsg = false) : Held trace s.clickNumberText where
  next hnext := elim_flag (h.exclusive hnext) htext
  exclusive := h.exclusive
  number hflag := elim_flag rfl hflag
  pattern hflag := elim_flag (h.not_pattern hnum) hflag
  passMsg hmsg' := elim_flag hmsg hmsg'
  asking hne := absurd hask hne
  complete := h.complete

theorem clickEndText_held (hpat : s.isNumber = false) : Held trace s.clickEndText := by
  have hflag := h.not_number hpat
  unfold Setting.clickEndText
  split
  · exact
      { h with
        number := elim_flag hflag
        pattern := elim_flag rfl
        passMsg := elim_flag (h.not_passMsg hflag)
        asking := absurd hask }
  · exact h.drawn hpat (elim_flag rfl) (absurd hask) h.complete
  · exact h

end

section

variable (hj : Justified Just trace)
include hj

theorem Good.entered (h : Held (trace ++ [Output.entered c]) s) : Good trace ([.entered c], s) :=
  ⟨hj.snoc trivial, h⟩

theorem Good.rejected (h : Held (trace ++ [Output.rejected c]) s) : Good trace ([.rejected c], s) :=
  ⟨hj.snoc trivial, h⟩

variable (h : Held trace s)
include h

theorem Good.quiet : Good trace ([], s) := by
  rw [Good, List.append_nil]
  exact ⟨hj, h⟩

theorem Good.stored (hc : Confirmed trace c) : Good trace ([.stored c], s) :=
  ⟨hj.snoc hc, h.stored c⟩

theorem handlePassMsg_good (hmsg : s.passMsg = true) : Good trace s.handlePassMsg := by
  obtain ⟨hflag, hagain, htwice⟩ := h.passMsg hmsg
  obtain ⟨hnum, hsize, -⟩ := h.number hflag
  have hconfirmed : Confirmed trace (.number s.again) := by
    rw [hagain]
    exact ⟨hsize, htwice⟩
  unfold Setting.handlePassMsg
  dsimp only
  split
  next hchange =>
    exact .stored hj { h with passMsg := elim_flag rfl, complete := fun _ => hchange } hconfirmed
  next =>
    refine .quiet hj
      { h with
        passMsg := elim_flag rfl
        asking := fun _ => ⟨.number s.again, ?_, hconfirmed⟩ }
    simp [Setting.committed, hnum]

theorem onActivityResult_good (hask : s.asking ≠ 0) {expected : Bool} {question : Int}
    {answer : Option String} : Good trace (s.onActivityResult expected question answer) := by
  obtain ⟨c, hc, hconfirmed⟩ := h.asking hask
  have hanswer : Held trace { s with asking := s.asking - 1 } :=
    { h with asking := fun _ => ⟨c, hc, hconfirmed⟩ }
  have hcommit : Setting.committed { s with asking := s.asking - 1 } = some c := hc
  unfold Setting.onActivityResult
  dsimp only
  split
  · rw [hcommit]
    split
    · exact .stored hj hanswer.finish hconfirmed
    · exact .quiet hj hanswer.finish
  · exact .quiet hj hanswer

variable (hask : s.asking = 0)
include hask

theorem keyAgain_good (hflag : s.secondNumberFlag = true) (hmsg : s.passMsg = false)
    (digit : Option (Fin 10))
    (hsteady : digit.map (s.again ++ [·]) = some s.first → s.refused = false) :
    Good trace (s.keyAgain digit) := by
  obtain ⟨hnum, hsize, hlast⟩ := h.number hflag
  have hpat := h.not_pattern hnum
  have hedit (again : List (Fin 10)) : Held trace { s with again } :=
    { h with passMsg := elim_flag hmsg, asking := absurd hask }
  unfold Setting.keyAgain
  cases digit with
  | none => exact .quiet hj (hedit _)
  | some digit =>
    dsimp only
    split
    · split
      · split
        next heq =>
          have honce := hlast (hsteady (congrArg some heq))
          rw [heq]
          refine .entered hj
            { h with
              number := fun _ => ⟨hnum, hsize, fun _ => last_entered trace _⟩
              pattern := elim_flag hpat
              passMsg := fun _ => ⟨hflag, rfl, twice_entered honce⟩
              asking := absurd hask }
        next =>
          refine .rejected hj
            { h with
              number := fun _ => ⟨hnum, hsize, fun hkept => elim_flag hkept rfl⟩
              pattern := elim_flag hpat
              passMsg := elim_flag hmsg
              asking := absurd hask }
      · exact .quiet hj (hedit _)
    · exact .quiet hj h

theorem onClick_good (digit : Option (Fin 10)) (hsteady : Steady s (.key digit)) :
    Good trace (s.onClick digit) := by
  unfold Setting.onClick
  cases hmsg : s.passMsg with
  | true => exact .quiet hj h
  | false =>
    cases hflag : s.secondNumberFlag with
    | true => exact keyAgain_good hj h hask hflag hmsg digit (hsteady hflag)
    | false => exact .quiet hj (keyFirst_held h hask hflag digit)

theorem clickNext_good (hnum : s.isNumber = true) (hnext : s.nextVisible = true) :
    Good trace s.clickNext := by
  obtain ⟨hflag, hsize⟩ := h.next hnext
  exact .entered hj
    { h with
      next := elim_flag rfl
      exclusive := elim_flag rfl
      number := fun _ => ⟨hnum, hsize, fun _ => last_entered trace _⟩
      pattern := elim_flag (h.not_pattern hnum)
      passMsg := elim_flag (h.not_passMsg hflag)
      asking := absurd hask }

theorem confirmPattern_good (hpat : s.isNumber = false) {cells : List Cell}
    (hsecond : s.secondPatternFlag = true) (hcontent : s.patternContent = some cells)
    (hrefuse : s.refused = false) : Good trace (s.confirmPattern cells) := by
  obtain ⟨-, cells', hcontent', hsize, hlast⟩ := h.pattern hsecond
  obtain rfl : cells' = cells := Option.some.inj (hcontent'.symm.trans hcontent)
  have hconfirmed : Confirmed (trace ++ [Output.entered (.pattern cells')]) (.pattern cells') :=
    ⟨hsize, twice_entered (hlast hrefuse)⟩
  have hj' : Justified Just (trace ++ [Output.entered (.pattern cells')]) := hj.snoc trivial
  unfold Setting.confirmPattern
  dsimp only
  split
  next hchange =>
    refine .cons (.stored hj' (h.drawn hpat ?_ ?_ ?_) hconfirmed)
    · exact fun _ => ⟨cells', hcontent, hsize, fun _ => last_entered trace _⟩
    · exact absurd hask
    · exact fun _ => hchange
  next =>
    refine .entered hj (h.drawn hpat ?_ ?_ h.complete)
    · exact fun _ => ⟨cells', hcontent, hsize, fun _ => last_entered trace _⟩
    · exact fun _ => ⟨cells', hcontent, hconfirmed⟩

theorem onPatternDetected_good (hpat : s.isNumber = false) (cells : List Cell)
    (hsteady : Steady s (.pattern cells)) : Good trace (s.onPatternDetected cells) := by
  unfold Setting.onPatternDetected
  split
  next hfirst =>
    refine .entered hj (h.drawn hpat ?_ (absurd hask) h.complete)
    exact fun _ => ⟨cells, rfl, hfirst.1, fun _ => last_entered trace _⟩
  next =>
  split
  next hsame =>
    exact confirmPattern_good hj h hask hpat hsame.1 hsame.2
      (hsteady hsame.1 hsame.2)
  next =>
  split
  next hsecond =>
    obtain ⟨-, cells', hcontent, hsize, -⟩ := h.pattern hsecond
    refine .rejected hj (h.drawn hpat ?_ (absurd hask) h.complete)
    exact fun _ => ⟨cells', hcontent, hsize, fun hkept => elim_flag hkept rfl⟩
  next =>
    refine .quiet hj (h.drawn hpat ?_ (absurd hask) h.complete)
    exact fun hsecond => (h.pattern hsecond).2

end

theorem passMsg_good (hj : Justified Just trace) (h : Held trace s) :
    Good trace (s.listen .passMsg) := by
  rw [Setting.listen]
  split
  next hmsg => exact handlePassMsg_good hj h hmsg
  next => exact .quiet hj h

theorem listen_good (hj : Justified Just trace) (h : Held trace s) (hask : s.asking = 0)
    (hvisible : s.visible e = true) (hsteady : Steady s e) : Good trace (s.listen e) := by
  cases e with
  | key digit => exact onClick_good hj h hask digit hsteady
  | next =>
    simp only [Setting.visible, Bool.and_eq_true] at hvisible
    exact clickNext_good hj h hask hvisible.1.1 hvisible.2
  | numberText =>
    simp only [Setting.visible, Bool.and_eq_true] at hvisible
    exact .quiet hj (clickNumberText_held h hask hvisible.1.1 hvisible.2 hsteady)
  | endText =>
    simp only [Setting.visible, Bool.and_eq_true, Bool.not_eq_true'] at hvisible
    exact .quiet hj (clickEndText_held h hask hvisible.1)
  | pattern cells =>
    simp only [Setting.visible, Bool.and_eq_true, Bool.not_eq_true'] at hvisible
    exact onPatternDetected_good hj h hask hvisible.1.1 cells hsteady
  | completeButton =>
    have hclick : s.clickComplete = { s with finished := true } := if_pos (h.complete hvisible)
    rw [Setting.listen, hclick]
    exact .quiet hj h.finish
  | back => exact .quiet hj h.finish
  | passMsg => exact passMsg_good hj h
  | activityResult expected question answer => exact .quiet hj h

theorem step_good (hj : Justified Just trace) (h : Held trace s) (hsteady : Steady s e) :
    Good trace (s.step e) := by
  unfold Setting.step
  split
  · exact passMsg_good hj h
  · split
    next hask => exact onActivityResult_good hj h hask.1
    next => exact .quiet hj h
  · split
    next hfront => exact listen_good hj h hfront.1 hfront.2.2 hsteady
    next => exact .quiet hj h

theorem start_held (change isNumber : Bool) : Held [] (Setting.start change isNumber) where
  next h := elim_flag rfl h
  exclusive h := elim_flag rfl h
  number h := elim_flag rfl h
  pattern h := elim_flag rfl h
  passMsg h := elim_flag rfl h
  asking h := absurd rfl h
  complete h := elim_flag rfl h

end

/-- In a steady run what is stored was confirmed. -/
theorem stored_confirmed (change isNumber : Bool) {events : List Event}
    (h : Meets Setting.step Steady (Setting.start change isNumber) events)
    {before after : List Output} {c : Credential}
    (hrun : (run Setting.step (Setting.start change isNumber) events).1 =
      before ++ .stored c :: after) : c.minSize ≤ c.size ∧ [c, c] <:+: entries before := by
  have hstep (trace : List Output) (s : Setting) (e : Event)
      (hinv : Justified Just trace ∧ Held trace s) (hsteady : Steady s e) :
      Justified Just (trace ++ (s.step e).1) ∧ Held (trace ++ (s.step e).1) (s.step e).2 :=
    step_good hinv.1 hinv.2 hsteady
  obtain ⟨hjust, -⟩ := run_invariant hstep ⟨Justified.nil, start_held change isNumber⟩ h
  exact hjust before (.stored c) after hrun

def patternL : List Cell := [(0, 0), (1, 0), (2, 0), (2, 1)]

def keys (digits : List (Fin 10)) : List Event := digits.map fun digit => .key (some digit)

theorem stored_confirmed_number :
    let events := keys [1, 2, 3, 4] ++ [Event.next] ++ keys [1, 2, 3, 5] ++ [Event.numberText] ++
      keys [1, 2, 3, 4] ++ [Event.next] ++ keys [1, 2, 3, 4] ++
      [Event.passMsg, .activityResult true 0 (some "answer")]
    let c : Credential := .number [1, 2, 3, 4]
    let before := [.entered c, .rejected (.number [1, 2, 3, 5]), .entered c, .entered c]
    Meets Setting.step Steady (Setting.start false true) events ∧
      (run Setting.step (Setting.start false true) events).1 = before ++ Output.stored c :: [] ∧
      c.minSize ≤ c.size ∧ [c, c] <:+: entries before := by
  intro events c before
  have hmeets : Meets Setting.step Steady (Setting.start false true) events := by decide +kernel
  have hrun : (run Setting.step (Setting.start false true) events).1 =
      before ++ Output.stored c :: [] := by
    decide +kernel
  exact ⟨hmeets, hrun, stored_confirmed false true hmeets hrun⟩

theorem stored_not_confirmed :
    let stored := Output.stored (.pattern patternL)
    let once : List Output := [.entered (.pattern patternL), .entered (.number [1, 2, 3, 4]),
      .entered (.number [1, 2, 3, 4])]
    let refused : List Output := [.entered (.pattern patternL), .rejected (.pattern []),
      .entered (.pattern patternL)]
    (run Setting.step (Setting.start false false) ([Event.pattern patternL, .endText, .endText] ++
      keys [1, 2, 3, 4] ++ [Event.next] ++ keys [1, 2, 3, 4] ++
      [Event.numberText, .numberText, .passMsg, .activityResult true 0 (some "answer")])).1 =
        once ++ [stored] ∧ (entries once).count (.pattern patternL) = 1 ∧
    (run Setting.step (Setting.start true false)
      [.pattern patternL, .pattern [], .pattern patternL]).1 = refused ++ [stored] ∧
      ¬[.pattern patternL, .pattern patternL] <:+: entries refused := by
  decide +kernel

end WikoPlatform.FileLock.SettingActivity
