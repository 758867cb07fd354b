import WikoPlatform.FileLock.Password
import WikoPlatform.Lib.Runs

/-! The checks of `EncryptServiceUtil`, against the credential and the answer that were accepted
last. -/

namespace WikoPlatform.FileLock

open Runs

section

variable (md5 : String → String)

def checkPassword (flPassword : Option FlPassword) (password : String) : Option String :=
  flPassword.bind fun p =>
    if p.code = md5 password ∨ p.patternPassword = md5 password then some p.token else none

def checkPasswordQuestion (flPassword : Option FlPassword) (security : String) : Bool :=
  flPassword.any fun p => p.answer = md5 (getSpaceFilter security)

end

def isMustSetPassword (flPassword : Option FlPassword) : Bool :=
  flPassword.all fun p => p.code.isEmpty && p.patternPassword.isEmpty

def UserState.flPassword (u : UserState) : Option FlPassword := u.stored.head?

/-- The credential and the answer that were accepted last. -/
structure Accepted where
  credential : Option String
  answer : Option String

def Accepted.record (a : Accepted) : PasswordCall → Accepted
  | .setNumberPassword value _ answer | .setPatternPassword value _ answer => ⟨value, answer⟩
  | .changeNumberPassword value | .changePatternPassword value => { a with credential := value }
  | .changePasswordQuestion _ answer => { a with answer := answer }
  | .getFlPasswordData => a

def accepted (calls : List (PasswordCall × Reply)) : Accepted :=
  calls.foldl
    (fun a call =>
      match call.2 with
      | .token _ => a.record call.1
      | .null | .data _ => a)
    ⟨none, none⟩

inductive PasswordEvent where
  | call (call : PasswordCall)
  | doWriteState
  | restart

def passwordStep (md5 : String → String) (u : UserState) :
    PasswordEvent → List (PasswordCall × Reply) × UserState
  | .call call => ([(call, (u.call md5 call).1)], (u.call md5 call).2)
  | .doWriteState => ([], u.doWriteState)
  | .restart => ([], u.restart)

/-- A restart finds in the file what is in memory. -/
def RereadsWritten (u : UserState) : PasswordEvent → Prop
  | .restart => u.file = u.stored
  | .call _ | .doWriteState => True

instance (u : UserState) : DecidablePred (RereadsWritten u)
  | .restart => inferInstanceAs (Decidable (u.file = u.stored))
  | .call _ | .doWriteState => .isTrue trivial

/-- Exactly what was accepted last passes the checks. -/
structure Exact (md5 : String → String) (a : Accepted) (flPassword : Option FlPassword) : Prop where
  password : ∀ x, (checkPassword md5 flPassword x).isSome = true ↔ a.credential = some x
  question : ∀ x, checkPasswordQuestion md5 flPassword x = true ↔
    a.answer.map getSpaceFilter = some (getSpaceFilter x)
  mustSet : isMustSetPassword flPassword = true ↔ a.credential = none

/-- The hash of the credential stands in the code, in the pattern or, after a change of the
question, in both. -/
structure Represents (md5 : String → String) (a : Accepted) (p : FlPassword) : Prop where
  credential : ∃ value, a.credential = some value ∧ p.token = md5 value ∧
    ((p.code = md5 value ∧ (p.patternPassword = "" ∨ p.patternPassword = md5 value)) ∨
      (p.code = "" ∧ p.patternPassword = md5 value))
  answer : ∃ answer, a.answer = some answer ∧ p.answer = md5 (getSpaceFilter answer)

def Stores (md5 : String → String) (a : Accepted) : List FlPassword → Prop
  | [] => a = ⟨none, none⟩
  | p :: _ => Represents md5 a p

section

variable {md5 : String → String} {a : Accepted} {passwords passwords' : List FlPassword}
  {reply answer : String} {value : Option String} {question : Int}

theorem Represents.exact (hinj : Function.Injective md5) (hempty : ∀ x, md5 x ≠ "")
    {p : FlPassword} (h : Represents md5 a p) : Exact md5 a (some p) := by
  obtain ⟨⟨value, hvalue, -, hstore⟩, answer, hanswer, hhash⟩ := h
  have hcode : ∀ x, p.code = md5 x ∨ p.patternPassword = md5 x ↔ value = x := by
    intro x
    have hx := (hempty x).symm
    rcases hstore with ⟨hc, hp | hp⟩ | ⟨hc, hp⟩ <;> simp [hc, hp, hx, hinj.eq_iff]
  refine ⟨fun x => ?_, fun x => ?_, ?_⟩
  · simp only [checkPassword, Option.bind_some, hvalue, Option.some.injEq, ← hcode x]
    split_ifs with haccepts
    · simp [haccepts]
    · simp [haccepts]
  · simp [checkPasswordQuestion, hanswer, hhash, hinj.eq_iff]
  · have hne := hempty value
    rw [hvalue]
    rcases hstore with ⟨hc, -⟩ | ⟨-, hp⟩
    · simp [isMustSetPassword, hc, hne]
    · simp [isMustSetPassword, hp, hne]

theorem Stores.exact (hinj : Function.Injective md5) (hempty : ∀ x, md5 x ≠ "")
    (h : Stores md5 a passwords) : Exact md5 a passwords.head? := by
  cases passwords with
  | nil =>
    obtain rfl : a = ⟨none, none⟩ := h
    exact ⟨by simp [checkPassword], by simp [checkPasswordQuestion], by simp [isMustSetPassword]⟩
  | cons p rest => exact Represents.exact hinj hempty h

theorem given_eq_some {text : String} (h : given value = some text) :
    value = some text := (Option.filter_eq_some_iff.mp h).1

def Makes (md5 : String → String) (record : String → String → String → FlPassword) : Prop :=
  ∀ (a : Accepted) (value answer question : String), a.credential = some value →
    a.answer = some answer → Represents md5 a (record value question (md5 (getSpaceFilter answer)))

variable {record : String → String → String → FlPassword}

theorem setPassword_stores (hmakes : Makes md5 record) {answer : Option String}
    (h : setPassword md5 record value question answer passwords =
      some (reply, passwords')) : Stores md5 ⟨value, answer⟩ passwords' := by
  obtain ⟨value', hvalue, h⟩ := Option.bind_eq_some_iff.mp h
  obtain ⟨answer', hanswer, h⟩ := Option.bind_eq_some_iff.mp h
  split_ifs at h
  obtain ⟨-, rfl⟩ := Prod.mk.inj (Option.some.inj h)
  exact hmakes _ value' answer' _ (given_eq_some hvalue) (given_eq_some hanswer)

theorem changePassword_stores (hmakes : Makes md5 record) (hstores : Stores md5 a passwords)
    (h : changePassword md5 record value passwords = some (reply, passwords')) :
    Stores md5 { a with credential := value } passwords' := by
  obtain ⟨value', hvalue, h⟩ := Option.bind_eq_some_iff.mp h
  cases passwords with
  | nil => cases h
  | cons p rest =>
    obtain ⟨-, rfl⟩ := Prod.mk.inj (Option.some.inj h)
    obtain ⟨-, answer, hanswer, hhash⟩ := hstores
    rw [hhash]
    exact hmakes { a with credential := value } value' answer _ (given_eq_some hvalue) hanswer

theorem changePasswordQuestion_stores {answer : Option String} (hstores : Stores md5 a passwords)
    (h : changePasswordQuestion md5 question answer passwords = some (reply, passwords')) :
    Stores md5 { a with answer := answer } passwords' := by
  obtain ⟨answer', hanswer, h⟩ := Option.bind_eq_some_iff.mp h
  split_ifs at h
  cases passwords with
  | nil => cases h
  | cons p rest =>
    obtain ⟨-, rfl⟩ := Prod.mk.inj (Option.some.inj h)
    obtain ⟨⟨value, hvalue, htoken, hstore⟩, -⟩ := hstores
    refine ⟨⟨value, hvalue, htoken, .inl ⟨htoken, ?_⟩⟩, answer', given_eq_some hanswer, rfl⟩
    rcases hstore with ⟨-, hpat⟩ | ⟨-, hpat⟩
    · exact hpat
    · exact .inr hpat

theorem update_stores {call : PasswordCall} (hstores : Stores md5 a passwords)
    (h : call.update md5 passwords = some (reply, passwords')) :
    Stores md5 (a.record call) passwords' := by
  have hnum : Makes md5 (numberRecord md5) :=
    fun _ _ _ _ hvalue hanswer => ⟨⟨_, hvalue, rfl, .inl ⟨rfl, .inl rfl⟩⟩, _, hanswer, rfl⟩
  have hpat : Makes md5 (patternRecord md5) :=
    fun _ _ _ _ hvalue hanswer => ⟨⟨_, hvalue, rfl, .inr ⟨rfl, rfl⟩⟩, _, hanswer, rfl⟩
  cases call with
  | setNumberPassword value question answer => exact setPassword_stores hnum h
  | setPatternPassword value question answer => exact setPassword_stores hpat h
  | changeNumberPassword value => exact changePassword_stores hnum hstores h
  | changePatternPassword value => exact changePassword_stores hpat hstores h
  | changePasswordQuestion question answer => exact changePasswordQuestion_stores hstores h
  | getFlPasswordData => cases h

end

theorem accepted_snoc (calls : List (PasswordCall × Reply)) (call : PasswordCall) (reply : Reply) :
    accepted (calls ++ [(call, reply)]) =
      match reply with
      | .token _ => (accepted calls).record call
      | .null | .data _ => accepted calls := by
  simp [accepted]

theorem stores_step (md5 : String → String) (calls : List (PasswordCall × Reply)) (u : UserState)
    (event : PasswordEvent) (h : Stores md5 (accepted calls) u.stored)
    (hwritten : RereadsWritten u event) :
    Stores md5 (accepted (calls ++ (passwordStep md5 u event).1))
      (passwordStep md5 u event).2.stored := by
  cases event with
  | call call =>
    simp only [passwordStep, accepted_snoc]
    unfold UserState.call
    cases hupdate : call.update md5 u.stored with
    | some result => exact update_stores h hupdate
    | none =>
      cases call with
      | getFlPasswordData =>
        simp only [getFlPasswordData]
        cases u.stored.head? <;> exact h
      | _ => exact h
  | doWriteState =>
    simp only [passwordStep, List.append_nil]
    rw [u.stored_doWriteState]
    exact h
  | restart =>
    simp only [passwordStep, List.append_nil]
    have hfile : u.restart.stored = u.stored := hwritten
    rw [hfile]
    exact h

/-- The checks accept exactly what was accepted last. -/
theorem fileLock_exact (md5 : String → String) (hinj : Function.Injective md5)
    (hempty : ∀ x, md5 x ≠ "") (events : List PasswordEvent)
    (hwritten : Meets (passwordStep md5) RereadsWritten ⟨[], none, 0⟩ events) :
    Exact md5 (accepted (run (passwordStep md5) ⟨[], none, 0⟩ events).1)
      (run (passwordStep md5) ⟨[], none, 0⟩ events).2.flPassword := by
  have hstart : Stores md5 (accepted []) ((⟨[], none, 0⟩ : UserState).stored) := rfl
  have hend := run_invariant (stores_step md5) hstart hwritten
  exact hend.exact hinj hempty

def markHash (text : String) : String := "#" ++ text

theorem markHash_injective : Function.Injective markHash := by
  intro x y h
  have hlist : ("#" ++ x).toList = ("#" ++ y).toList := congrArg String.toList h
  rw [String.toList_append, String.toList_append] at hlist
  exact String.toList_inj.mp (List.append_cancel_left hlist)

theorem markHash_ne_empty (x : String) : markHash x ≠ "" := by
  intro h
  have hlist : ("#" ++ x).toList = "".toList := congrArg String.toList h
  simp at hlist

def writtenEvents : List PasswordEvent :=
  [.call (.setNumberPassword (some "1234") 2 (some " cat")), .doWriteState, .restart,
    .call (.changePatternPassword (some "row=1")), .call (.changePasswordQuestion 1 (some "dog ")),
    .doWriteState, .restart, .doWriteState]

theorem fileLock_exact_written :
    Meets (passwordStep markHash) RereadsWritten ⟨[], none, 0⟩ writtenEvents ∧
      Exact markHash (accepted (run (passwordStep markHash) ⟨[], none, 0⟩ writtenEvents).1)
        (run (passwordStep markHash) ⟨[], none, 0⟩ writtenEvents).2.flPassword :=
  have hwritten : Meets (passwordStep markHash) RereadsWritten ⟨[], none, 0⟩ writtenEvents := by
    decide +kernel
  ⟨hwritten, fileLock_exact markHash markHash_injective markHash_ne_empty writtenEvents hwritten⟩

def lostEvents : List PasswordEvent :=
  [.call (.setNumberPassword (some "1234") 2 (some "cat")), .restart]

theorem fileLock_not_exact_lost :
    ¬Exact markHash (accepted (run (passwordStep markHash) ⟨[], none, 0⟩ lostEvents).1)
      (run (passwordStep markHash) ⟨[], none, 0⟩ lostEvents).2.flPassword := by
  have hcredential :
      (accepted (run (passwordStep markHash) ⟨[], none, 0⟩ lostEvents).1).credential =
        some "1234" := by
    decide +kernel
  have hmust : isMustSetPassword
      (run (passwordStep markHash) ⟨[], none, 0⟩ lostEvents).2.flPassword = true := by
    decide +kernel
  intro h
  have hnone := h.mustSet.mp hmust
  cases hnone

end WikoPlatform.FileLock
