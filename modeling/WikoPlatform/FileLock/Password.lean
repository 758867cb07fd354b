import Mathlib.Algebra.GroupWithZero.Nat
import Mathlib.Logic.Function.Basic

/-! The file-lock passwords of one user. An operation that refuses its arguments answers `null` and
leaves the record alone. -/

namespace WikoPlatform.FileLock

/-- A record of the password file. -/
structure FlPassword where
  passwordId : Int
  code : String
  token : String
  passwordLength : Int
  question : String
  answer : String
  patternPassword : String
  currentPasswordType : Int
  deriving DecidableEq

def numberPasswordType : Int := 0

def patternPasswordType : Int := 1

def utf16Length (text : String) : Nat :=
  (text.toList.map fun c => if c.toNat < 0x10000 then 1 else 2).sum

def isLineTerminator (c : Char) : Bool :=
  c == '\n' || c == '\r' || c == '\u0085' || c == '\u2028' || c == '\u2029'

def dropSpaces (text : List Char) : List Char := text.dropWhile (· == ' ')

/-- What `[ ]*$` matches, also before a line terminator. -/
def dropEndSpaces : List Char → List Char
  | '\n' :: '\r' :: text => '\n' :: '\r' :: dropSpaces text
  | c :: text => if isLineTerminator c then c :: dropSpaces text else dropSpaces (c :: text)
  | [] => []

def getSpaceFilter (original : String) : String :=
  .ofList (dropEndSpaces (dropSpaces original.toList).reverse).reverse

def getFindStringCount (part : List Char) : List Char → Nat
  | [] => 0
  | c :: text => (if part.isPrefixOf (c :: text) then 1 else 0) + getFindStringCount part text

def given (value : Option String) : Option String := value.filter (!·.isEmpty)

section

variable (md5 : String → String)

def numberRecord (passwordValue question answer : String) : FlPassword where
  passwordId := 0
  code := md5 passwordValue
  token := md5 passwordValue
  passwordLength := utf16Length passwordValue
  question
  answer
  patternPassword := ""
  currentPasswordType := numberPasswordType

def patternRecord (passwordValue question answer : String) : FlPassword where
  passwordId := 0
  code := ""
  token := md5 passwordValue
  passwordLength := getFindStringCount "row=".toList passwordValue.toList
  question
  answer
  patternPassword := md5 passwordValue
  currentPasswordType := patternPasswordType

def setPassword (record : String → String → String → FlPassword) (passwordValue : Option String)
    (questionId : Int) (answerValue : Option String) (passwords : List FlPassword) :
    Option (String × List FlPassword) := do
  let passwordValue ← given passwordValue
  let answerValue ← given answerValue
  if questionId < 0 then none
  else
    let record := record passwordValue (toString questionId) (md5 (getSpaceFilter answerValue))
    some (md5 passwordValue, record :: passwords.tail)

def setNumberPassword := setPassword md5 (numberRecord md5)

def setPatternPassword := setPassword md5 (patternRecord md5)

def changePassword (record : String → String → String → FlPassword)
    (passwordValue : Option String) (passwords : List FlPassword) :
    Option (String × List FlPassword) := do
  let passwordValue ← given passwordValue
  match passwords with
  | [] => none
  | old :: rest => some (md5 passwordValue, record passwordValue old.question old.answer :: rest)

def changeNumberPassword := changePassword md5 (numberRecord md5)

def changePatternPassword := changePassword md5 (patternRecord md5)

/-- The code becomes the old token, also for a pattern. -/
def changePasswordQuestion (questionId : Int) (answerValue : Option String)
    (passwords : List FlPassword) : Option (String × List FlPassword) := do
  let answerValue ← given answerValue
  if questionId < 0 then none
  else
    match passwords with
    | [] => none
    | old :: rest =>
      let record :=
        { old with
          passwordId := 0
          code := old.token
          question := toString questionId
          answer := md5 (getSpaceFilter answerValue) }
      some (old.token, record :: rest)

end

inductive PasswordCall where
  | changePatternPassword (patternPassword : Option String)
  | changeNumberPassword (numberPassword : Option String)
  | changePasswordQuestion (question : Int) (answer : Option String)
  | setNumberPassword (numberPassword : Option String) (question : Int) (answer : Option String)
  | setPatternPassword (patternPassword : Option String) (question : Int) (answer : Option String)
  | getFlPasswordData

inductive Reply where
  | null
  | token (token : String)
  | data (password : FlPassword)
  deriving DecidableEq

def PasswordCall.update (md5 : String → String) :
    PasswordCall → List FlPassword → Option (String × List FlPassword)
  | .changePatternPassword patternPassword => FileLock.changePatternPassword md5 patternPassword
  | .changeNumberPassword numberPassword => FileLock.changeNumberPassword md5 numberPassword
  | .changePasswordQuestion question answer => FileLock.changePasswordQuestion md5 question answer
  | .setNumberPassword numberPassword question answer =>
    FileLock.setNumberPassword md5 numberPassword question answer
  | .setPatternPassword patternPassword question answer =>
    FileLock.setPatternPassword md5 patternPassword question answer
  | .getFlPasswordData => fun _ => none

def getFlPasswordData (passwords : List FlPassword) : Reply :=
  passwords.head?.elim .null .data

/-- The records are in memory once something has asked for them. -/
structure UserState where
  file : List FlPassword
  memory : Option (List FlPassword)
  pendingWrites : Nat

namespace UserState

def stored (u : UserState) : List FlPassword := u.memory.getD u.file

def load (u : UserState) : UserState := { u with memory := some u.stored }

def call (md5 : String → String) (u : UserState) (call : PasswordCall) : Reply × UserState :=
  match call.update md5 u.stored with
  | some (reply, passwords) =>
    (.token reply, { u with memory := some passwords, pendingWrites := u.pendingWrites + 1 })
  | none =>
    match call with
    | .getFlPasswordData => (getFlPasswordData u.stored, u.load)
    | _ => (.null, u.load)

/-- The records are written as they are when the write-out runs. -/
def doWriteState (u : UserState) : UserState :=
  match u.pendingWrites with
  | 0 => u
  | pendingWrites + 1 => { u with file := u.stored, pendingWrites }

def restart (u : UserState) : UserState := { u with memory := none, pendingWrites := 0 }

/-- The file, the records and the writes to come. -/
def view (u : UserState) : List FlPassword × List FlPassword × Nat :=
  (u.file, u.stored, u.pendingWrites)

variable {u v : UserState} {md5 : String → String} {call : PasswordCall}

theorem view_eq_iff : u.view = v.view ↔
    u.file = v.file ∧ u.stored = v.stored ∧ u.pendingWrites = v.pendingWrites := by
  simp only [view, Prod.mk.injEq]

theorem view_call_of_none (h : call.update md5 u.stored = none) :
    (u.call md5 call).2.view = u.view := by
  simp only [UserState.call, h]
  cases call <;> rfl

theorem view_call_of_some {reply : String} {passwords : List FlPassword}
    (h : call.update md5 u.stored = some (reply, passwords)) :
    (u.call md5 call).2.view = (u.file, passwords, u.pendingWrites + 1) := by
  simp only [UserState.call, h]
  rfl

theorem view_call (h : u.view = v.view) (md5 : String → String) (call : PasswordCall) :
    (u.call md5 call).2.view = (v.call md5 call).2.view := by
  obtain ⟨hfile, hstore, hpend⟩ := view_eq_iff.mp h
  cases hupdate : call.update md5 u.stored with
  | none => rw [view_call_of_none hupdate, view_call_of_none (hstore ▸ hupdate), h]
  | some result =>
    rw [view_call_of_some hupdate, view_call_of_some (hstore ▸ hupdate), hfile, hpend]

theorem stored_doWriteState (u : UserState) : u.doWriteState.stored = u.stored := by
  unfold doWriteState
  split
  · rfl
  · cases hmemory : u.memory <;> simp only [stored, hmemory, Option.getD]

theorem view_doWriteState (h : u.view = v.view) : u.doWriteState.view = v.doWriteState.view := by
  obtain ⟨hfile, hstore, hpend⟩ := view_eq_iff.mp h
  rw [view, view, stored_doWriteState, stored_doWriteState, hstore]
  unfold doWriteState
  rw [← hpend]
  cases hwrites : u.pendingWrites with
  | zero => simp only [hfile, ← hpend]
  | succ n => simp only [hstore]

theorem view_restart (h : u.view = v.view) : u.restart.view = v.restart.view := by
  have hfile : u.file = v.file := congrArg Prod.fst h
  simp only [view, restart, stored, Option.getD_none, hfile]

end UserState

end WikoPlatform.FileLock
