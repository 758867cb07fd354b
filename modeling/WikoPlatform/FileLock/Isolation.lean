import WikoPlatform.Lib.TwoRuns
import WikoPlatform.Fingerprint.Looper
import WikoPlatform.FileLock.Password

/-! Who can reach the file-lock passwords. Two runs are compared that differ in the calls of callers
without `MANAGE_FINGERPRINT`, and two runs of the same calls over different passwords. -/

namespace WikoPlatform.FileLock

open Runs Fingerprint

/-- The service with the passwords of its users. They are served on binder threads, next to the
looper. -/
structure Locker where
  system : System
  users : Int → UserState

namespace Locker

inductive Event where
  | service (event : Fingerprint.Event)
  | password (w : World) (caller : Caller) (userId : Int) (call : PasswordCall)
  | doWriteState (userId : Int)
  | restart (daemon : Bool) (halDeviceId currentUserId : Int) (fingerprints : List (Int × Int))

inductive Output where
  | service (output : Fingerprint.Output)
  | returned (caller : Caller) (reply : Reply)
  deriving DecidableEq

def passwordCall (md5 : String → String) (l : Locker) (w : World) (userId : Int)
    (call : PasswordCall) : Reply × Locker :=
  if w.isCurrentUserOrProfile userId then
    let outcome := (l.users userId).call md5 call
    (outcome.1, { l with users := Function.update l.users userId outcome.2 })
  else (.null, l)

def step (md5 : String → String) (l : Locker) : Event → List Output × Locker
  | .service event =>
    ((l.system.step event).1.map .service, { l with system := (l.system.step event).2 })
  | .password w caller userId call =>
    ([.returned caller (l.passwordCall md5 w userId call).1], (l.passwordCall md5 w userId call).2)
  | .doWriteState userId =>
    ([], { l with users := Function.update l.users userId (l.users userId).doWriteState })
  | .restart daemon halDeviceId currentUserId fingerprints =>
    ([], { system := .start daemon halDeviceId currentUserId fingerprints
           users := fun userId => (l.users userId).restart })

/-- A call of a caller without `MANAGE_FINGERPRINT`. -/
def foreign (_ : Locker) : Event → Bool
  | .service (.binder _ caller _) | .password _ caller _ _ => !caller.manage
  | .service (.looper _) => true
  | _ => false

end Locker

def PasswordCall.writes (passwords : List FlPassword) : PasswordCall → Bool
  | .changePatternPassword value | .changeNumberPassword value =>
    (given value).isSome && !passwords.isEmpty
  | .changePasswordQuestion question answer =>
    (given answer).isSome && decide (0 ≤ question) && !passwords.isEmpty
  | .setNumberPassword value question answer | .setPatternPassword value question answer =>
    (given value).isSome && (given answer).isSome && decide (0 ≤ question)
  | .getFlPasswordData => false

/-- The reply depends on the first record. -/
def PasswordCall.tells : PasswordCall → Bool
  | .changePatternPassword value | .changeNumberPassword value => (given value).isSome
  | .changePasswordQuestion question answer => (given answer).isSome && decide (0 ≤ question)
  | .setNumberPassword .. | .setPatternPassword .. => false
  | .getFlPasswordData => true

def Locker.writesNothing (l : Locker) : Event → Prop
  | .password w _ userId call =>
    w.isCurrentUserOrProfile userId = true → call.writes (l.users userId).stored = false
  | _ => True

instance (l : Locker) : DecidablePred l.writesNothing
  | .password .. => inferInstanceAs (Decidable (_ → _))
  | .service _ | .doWriteState _ | .restart .. => .isTrue trivial

def Locker.tellsNothing (_ : Locker) : Event → Prop
  | .password w caller userId call =>
    caller.manage = false → w.isCurrentUserOrProfile userId = true → call.tells = false
  | _ => True

instance (l : Locker) : DecidablePred l.tellsNothing
  | .password .. => inferInstanceAs (Decidable (_ → _))
  | .service _ | .doWriteState _ | .restart .. => .isTrue trivial

def Locker.Output.visible : Output → Bool
  | .service _ => true
  | .returned caller _ => !caller.manage

section

variable {md5 : String → String} {record : String → String → String → FlPassword}
  {value answer : Option String} {question : Int} {passwords : List FlPassword}
  {call : PasswordCall}

theorem setPassword_eq_none
    (h : ((given value).isSome && (given answer).isSome && decide (0 ≤ question)) = false) :
    setPassword md5 record value question answer passwords = none := by
  unfold setPassword
  cases hvalue : given value with
  | none => rfl
  | some value =>
    cases hanswer : given answer with
    | none => rfl
    | some answer =>
      have hquestion : question < 0 := by simpa [hvalue, hanswer] using h
      simp only [Option.bind_eq_bind, Option.bind_some, if_pos hquestion]

theorem changePassword_eq_none (h : ((given value).isSome && !passwords.isEmpty) = false) :
    changePassword md5 record value passwords = none := by
  unfold changePassword
  cases hvalue : given value with
  | none => rfl
  | some value =>
    have hempty : passwords = [] := by simpa [hvalue] using h
    rw [hempty]
    rfl

theorem changePasswordQuestion_eq_none
    (h : ((given answer).isSome && decide (0 ≤ question) && !passwords.isEmpty) = false) :
    changePasswordQuestion md5 question answer passwords = none := by
  unfold changePasswordQuestion
  cases hanswer : given answer with
  | none => rfl
  | some answer =>
    by_cases hquestion : question < 0
    · simp only [Option.bind_eq_bind, Option.bind_some, if_pos hquestion]
    · have hempty : passwords = [] := by simpa [hanswer, Int.not_lt.mp hquestion] using h
      simp only [Option.bind_eq_bind, Option.bind_some, if_neg hquestion, hempty]

theorem update_eq_none (h : call.writes passwords = false) : call.update md5 passwords = none := by
  cases call with
  | changePatternPassword | changeNumberPassword => exact changePassword_eq_none h
  | changePasswordQuestion => exact changePasswordQuestion_eq_none h
  | setNumberPassword | setPatternPassword => exact setPassword_eq_none h
  | getFlPasswordData => rfl

theorem setPassword_reply {passwords' : List FlPassword} :
    (setPassword md5 record value question answer passwords).map Prod.fst =
      (setPassword md5 record value question answer passwords').map Prod.fst := by
  unfold setPassword
  cases given value with
  | none => rfl
  | some value =>
    cases given answer with
    | none => rfl
    | some answer => by_cases hquestion : question < 0 <;> simp [hquestion]

theorem update_reply (h : call.tells = false) (passwords passwords' : List FlPassword) :
    (call.update md5 passwords).map Prod.fst = (call.update md5 passwords').map Prod.fst := by
  have hrefuse : ∀ passwords, call.writes passwords = false →
      (call.update md5 passwords).map Prod.fst = none := fun passwords hwrites => by
    rw [update_eq_none hwrites]
    rfl
  cases call with
  | setNumberPassword | setPatternPassword => exact setPassword_reply ..
  | getFlPasswordData => cases h
  | changePatternPassword | changeNumberPassword | changePasswordQuestion =>
    -- a call without good arguments is refused before the records are looked at
    rw [hrefuse passwords (congrArg (· && !passwords.isEmpty) h),
      hrefuse passwords' (congrArg (· && !passwords'.isEmpty) h)]

theorem call_reply (h : call.tells = false) (u v : UserState) :
    (u.call md5 call).1 = (v.call md5 call).1 := by
  have hreply : ∀ u : UserState, (u.call md5 call).1 =
      ((call.update md5 u.stored).map Prod.fst).elim .null .token := fun u => by
    unfold UserState.call
    cases call.update md5 u.stored with
    | some result => rfl
    | none =>
      cases call with
      | getFlPasswordData => cases h
      | _ => rfl
  rw [hreply u, hreply v, update_reply h u.stored v.stored]

end

/-! What a run keeps of the passwords. -/

/-- Every user has the same view in both. -/
def SamePasswords (l m : Locker) : Prop := ∀ userId, (l.users userId).view = (m.users userId).view

theorem samePasswords_equivalence : Equivalence SamePasswords where
  refl _ _ := rfl
  symm h userId := (h userId).symm
  trans h h' userId := (h userId).trans (h' userId)

variable {l m : Locker} {md5 : String → String}

theorem samePasswords_update (h : SamePasswords l m) (userId : Int) {u v : UserState}
    (huv : u.view = v.view) :
    SamePasswords { l with users := Function.update l.users userId u }
      { m with users := Function.update m.users userId v } := by
  intro other
  by_cases hother : other = userId
  · subst hother
    simpa only [Function.update_self] using huv
  · simpa only [Function.update_of_ne hother] using h other

theorem step_samePasswords (l m : Locker) (event : Locker.Event) (h : SamePasswords l m) :
    SamePasswords (l.step md5 event).2 (m.step md5 event).2 := by
  cases event with
  | service => exact h
  | password w caller userId call =>
    simp only [Locker.step, Locker.passwordCall]
    by_cases huser : w.isCurrentUserOrProfile userId = true
    · simp only [if_pos huser]
      exact samePasswords_update h userId (UserState.view_call (h userId) md5 call)
    · simpa only [if_neg huser] using h
  | doWriteState userId =>
    exact samePasswords_update h userId (UserState.view_doWriteState (h userId))
  | restart => exact fun userId => UserState.view_restart (h userId)

theorem foreign_samePasswords (l : Locker) (event : Locker.Event)
    (hforeign : l.foreign event = true) (hwrites : l.writesNothing event) :
    SamePasswords l (l.step md5 event).2 := by
  cases event with
  | service => exact samePasswords_equivalence.refl l
  | password w caller userId call =>
    simp only [Locker.step, Locker.passwordCall]
    by_cases huser : w.isCurrentUserOrProfile userId = true
    · have hnone : call.update md5 (l.users userId).stored = none := update_eq_none (hwrites huser)
      have hview := UserState.view_call_of_none hnone
      have hsame := samePasswords_update (samePasswords_equivalence.refl l) userId hview.symm
      simpa only [if_pos huser, Function.update_eq_self] using hsame
    · simpa only [if_neg huser] using samePasswords_equivalence.refl l
  | doWriteState | restart => cases hforeign

/-! What a run shows of the passwords. -/

theorem step_visible (md5 : String → String) {event : Locker.Event} (hsystem : l.system = m.system)
    (htells : l.tellsNothing event) : (l.step md5 event).1.filter Locker.Output.visible =
        (m.step md5 event).1.filter Locker.Output.visible ∧
      (l.step md5 event).2.system = (m.step md5 event).2.system := by
  cases event with
  | service event => simp only [Locker.step, hsystem, and_self]
  | password w caller userId call =>
    simp only [Locker.step, Locker.passwordCall]
    by_cases huser : w.isCurrentUserOrProfile userId = true
    · simp only [if_pos huser]
      refine ⟨?_, hsystem⟩
      cases hmanage : caller.manage with
      | true => simp only [List.filter_cons, Locker.Output.visible, hmanage]; rfl
      | false => rw [call_reply (htells hmanage huser) (l.users userId) (m.users userId)]
    · simp only [if_neg huser]
      exact ⟨trivial, hsystem⟩
  | doWriteState => exact ⟨rfl, hsystem⟩
  | restart => exact ⟨rfl, rfl⟩

theorem run_visible {events : List Locker.Event} (hsystem : l.system = m.system)
    (hmeets : Meets (Locker.step md5) Locker.tellsNothing l events) :
    (run (Locker.step md5) l events).1.filter Locker.Output.visible =
      (run (Locker.step md5) m events).1.filter Locker.Output.visible := by
  induction events generalizing l m with
  | nil => rfl
  | cons event events ih =>
    obtain ⟨htells, hrest⟩ := hmeets
    obtain ⟨hout, hnext⟩ := step_visible md5 hsystem htells
    simp only [run, List.filter_append, hout, ih hnext hrest]

/-- Unprivileged calls neither change passwords nor learn of them. -/
theorem lockerRuns_isolated (md5 : String → String) (system : System)
    (users users' : Int → UserState) :
    (∀ moves, Meets (pairStep (Locker.step md5)) (Aligned Locker.foreign Locker.writesNothing)
        (⟨system, users⟩, ⟨system, users⟩) moves →
      let pair := (run (pairStep (Locker.step md5)) (⟨system, users⟩, ⟨system, users⟩) moves).2
      ∀ userId, (pair.1.users userId).stored = (pair.2.users userId).stored) ∧
    (∀ events, Meets (Locker.step md5) Locker.tellsNothing ⟨system, users⟩ events →
      (run (Locker.step md5) ⟨system, users⟩ events).1.filter Locker.Output.visible =
        (run (Locker.step md5) ⟨system, users'⟩ events).1.filter Locker.Output.visible) := by
  refine ⟨fun moves hmoves => ?_, fun events hevents => run_visible rfl hevents⟩
  intro pair userId
  have hend := unwinding samePasswords_equivalence
    (fun l m event h _ _ => step_samePasswords l m event h) foreign_samePasswords
    (samePasswords_equivalence.refl _) hmoves
  exact congrArg (fun view => view.2.1) (hend userId)

def knownMd5 : String → String
  | "1234" => "81dc9bdb52d04dc20036dbd8313ed055"
  | "0000" => "4a7d1ed414474e4033ac29ccb8653d9b"
  | "row=1" => "597572859f071651dc1a6ebb66e2e9bc"
  | "cat" => "d077f244def8a70e5ea758bd8352fcd8"
  | "dog" => "06d80eb0c50b49a509b49f2424e8c805"
  | _ => ""

def manager : Caller := ⟨1, 1, true, true, true⟩

def oneUserWorld : World := { plainWorld with enabledProfileIds := fun _ => [0] }

def noPasswords : UserState := ⟨[], none, 0⟩

def onePassword : UserState where
  file := [numberRecord knownMd5 "1234" "2" (knownMd5 "cat")]
  memory := none
  pendingWrites := 0

def refusedMoves : List (Move Locker.Event) :=
  [.both (.password oneUserWorld manager 0 (.setNumberPassword (some "1234") 2 (some "cat"))),
    .first (.password oneUserWorld stranger 5 (.setNumberPassword (some "0000") 2 (some "dog"))),
    .second (.password oneUserWorld stranger 0 (.changeNumberPassword none)),
    .second (.password oneUserWorld stranger 0 .getFlPasswordData), .both (.doWriteState 0)]

def blindEvents : List Locker.Event :=
  [.password oneUserWorld stranger 0 (.setPatternPassword (some "row=1") 2 (some "dog")),
    .password oneUserWorld stranger 0 (.changePasswordQuestion (-1) (some "dog")),
    .password oneUserWorld manager 0 .getFlPasswordData]

theorem refusedMoves_isolated :
    let system := System.start true 1 0 []
    let start : Locker := ⟨system, fun _ => noPasswords⟩
    let other : Locker := ⟨system, fun _ => onePassword⟩
    let pair := (run (pairStep (Locker.step knownMd5)) (start, start) refusedMoves).2
    Meets (pairStep (Locker.step knownMd5)) (Aligned Locker.foreign Locker.writesNothing)
        (start, start) refusedMoves ∧
      (∀ userId, (pair.1.users userId).stored = (pair.2.users userId).stored) ∧
      Meets (Locker.step knownMd5) Locker.tellsNothing start blindEvents ∧
      (run (Locker.step knownMd5) start blindEvents).1.filter Locker.Output.visible =
        (run (Locker.step knownMd5) other blindEvents).1.filter Locker.Output.visible :=
  have hmoves : Meets (pairStep (Locker.step knownMd5))
      (Aligned Locker.foreign Locker.writesNothing)
      (⟨.start true 1 0 [], fun _ => noPasswords⟩, ⟨.start true 1 0 [], fun _ => noPasswords⟩)
      refusedMoves := by decide +kernel
  have hevents : Meets (Locker.step knownMd5) Locker.tellsNothing
      ⟨.start true 1 0 [], fun _ => noPasswords⟩ blindEvents := by decide +kernel
  have h := lockerRuns_isolated knownMd5 (.start true 1 0 []) (fun _ => noPasswords)
    fun _ => onePassword
  ⟨hmoves, h.1 refusedMoves hmoves, hevents, h.2 blindEvents hevents⟩

theorem strangerCalls_not_isolated :
    let system := System.start true 1 0 []
    let start : Locker := ⟨system, fun _ => noPasswords⟩
    let other : Locker := ⟨system, fun _ => onePassword⟩
    let moves : List (Move Locker.Event) :=
      [.first (.password oneUserWorld stranger 0 (.setNumberPassword (some "0000") 2 (some "dog")))]
    let events : List Locker.Event := [.password oneUserWorld stranger 0 .getFlPasswordData]
    let pair := (run (pairStep (Locker.step knownMd5)) (start, start) moves).2
    Meets (pairStep (Locker.step knownMd5)) (Aligned Locker.foreign fun _ _ => True) (start, start)
        moves ∧
      (pair.1.users 0).stored ≠ (pair.2.users 0).stored ∧
      (run (Locker.step knownMd5) start events).1.filter Locker.Output.visible ≠
        (run (Locker.step knownMd5) other events).1.filter Locker.Output.visible := by
  decide +kernel

end WikoPlatform.FileLock
