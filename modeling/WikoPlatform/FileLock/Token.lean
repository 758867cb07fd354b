import WikoPlatform.FileLock.CheckActivity
import WikoPlatform.FileLock.SettingActivity

/-! The screens behind "forget password": one asks for the answer to the question and starts the
other, which changes the password. -/

namespace WikoPlatform.FileLock

open Runs
open SettingActivity (Cell Credential Setting)

variable (md5 : String → String) (patternText : List Cell → String)

structure ForgetPasswordActivity where
  resultCode : Int
  key : Option String
  finished : Bool
  deriving DecidableEq

/-- `onBackPressed` is also the home button. -/
inductive ForgetEvent where
  | complete (text : String)
  | onBackPressed

inductive ForgetOutput where
  | asked (security : String) (accepted : Bool)
  | startSetting
  | result (resultCode : Int) (key : Option String)
  deriving DecidableEq

def changePasswordCode : Int := 1100

namespace ForgetPasswordActivity

/-- Only the first `finish` makes a result. -/
def finish (s : ForgetPasswordActivity) : List ForgetOutput × ForgetPasswordActivity :=
  (if s.finished then [] else [.result s.resultCode s.key], { s with finished := true })

/-- The complete, back and home buttons and `onStop` are one. -/
def handle (flPassword : Option FlPassword) (s : ForgetPasswordActivity) :
    ForgetEvent → List ForgetOutput × ForgetPasswordActivity
  | .complete text =>
    if text.isEmpty then ([], s)
    else if checkPasswordQuestion md5 flPassword text then ([.asked text true, .startSetting], s)
    else ([.asked text false], s)
  | .onBackPressed => s.finish

def onActivityResult (requestCode resultCode : Int) (answer : Option String)
    (s : ForgetPasswordActivity) : List ForgetOutput × ForgetPasswordActivity :=
  if requestCode = s.resultCode ∧ resultCode = changePasswordCode then
    { s with key := answer }.finish
  else ([], s)

end ForgetPasswordActivity

/-- The screen as it is started with the `REQ_KEY` `CHANGE_PASSWORD_CODE`, the result of the last
change, and the token that it hands out. -/
structure EncryptSettingActivity where
  screen : Setting
  mResult : Option String
  key : Option String
  deriving DecidableEq

inductive SettingOutput where
  | changed (value : String) (result : Option String) (flPassword : Option FlPassword)
  | result (resultCode : Int) (key : Option String)
  deriving DecidableEq

namespace EncryptSettingActivity

/-- The type that is shown first is that of the password. -/
def onCreate (flPassword : Option FlPassword) : EncryptSettingActivity :=
  ⟨.start true (flPassword.any fun p => p.currentPasswordType = numberPasswordType), none, none⟩

def finish (s : EncryptSettingActivity) : List SettingOutput × EncryptSettingActivity :=
  (if s.screen.finished then [] else [.result changePasswordCode s.key],
    { s with screen := { s.screen with finished := true } })

def cancel (s : EncryptSettingActivity) : List SettingOutput × EncryptSettingActivity :=
  { s with key := s.mResult }.finish

/-- `stringAgainBuffer.toString()` or `patternContent`. -/
def text : Credential → String
  | .number digits => .ofList (digits.map fun d => (Button.digit d).char)
  | .pattern cells => patternText cells

def changeCall (c : Credential) : PasswordCall :=
  match c with
  | .number _ => .changeNumberPassword (some (text patternText c))
  | .pattern _ => .changePatternPassword (some (text patternText c))

def change (c : Credential) (s : EncryptSettingActivity) (u : UserState) :
    List SettingOutput × EncryptSettingActivity × UserState :=
  let reply := u.call md5 (changeCall patternText c)
  let result :=
    match reply.1 with
    | .token token => some token
    | .null | .data _ => none
  ([.changed (text patternText c) result reply.2.flPassword], { s with mResult := result }, reply.2)

def handle (s : EncryptSettingActivity) (u : UserState) :
    SettingActivity.Event → List SettingOutput × EncryptSettingActivity × UserState
  | .completeButton | .back => (s.cancel.1, s.cancel.2, u)
  | event =>
    let (out, screen) := s.screen.listen event
    match out.findSome? SettingActivity.Output.credential with
    | none => ([], { s with screen }, u)
    | some c => { s with screen }.change md5 patternText c u

end EncryptSettingActivity

structure SubResult where
  /-- The forget-password screen that made it, or that it is for. -/
  forget : Nat
  resultCode : Int
  key : Option String

def ForgetOutput.waiting (forget : Nat) : ForgetOutput → Option SubResult
  | .result resultCode key => some ⟨forget, resultCode, key⟩
  | .asked _ _ | .startSetting => none

/-- A screen with a negative request code has no result. -/
def SettingOutput.waiting (forget : Nat) (requestCode : Int) : SettingOutput → Option SubResult
  | .result resultCode key => if 0 ≤ requestCode then some ⟨forget, resultCode, key⟩ else none
  | .changed _ _ _ => none

/-- A forget-password screen goes by its number, and a setting screen by that of the one that
started it. -/
structure LockScreens where
  check : EncryptCheckActivity
  forgets : List ForgetPasswordActivity
  settings : List (Nat × EncryptSettingActivity)
  toCheck : List SubResult
  toForget : List SubResult
  store : UserState
  crashed : Bool

inductive ScreenOutput where
  | check (o : CheckOutput)
  | forget (forget : Nat) (o : ForgetOutput)
  | setting (setting forget : Nat) (o : SettingOutput)
  deriving DecidableEq

/-- `canceled` is the result of a screen that the system ended, and `password` are the other users
of the service. -/
inductive ScreenEvent where
  | check (device : Device) (event : CheckEvent)
  | forget (forget : Nat) (event : ForgetEvent)
  | setting (setting : Nat) (event : SettingActivity.Event)
  | checkResult (waiting : Nat)
  | forgetResult (waiting : Nat)
  | canceled
  | password (event : PasswordEvent)

namespace LockScreens

def start (device : Device) (store : UserState) (reqKey : Int) : LockScreens where
  check := .onCreate device store.flPassword reqKey
  forgets := []
  settings := []
  toCheck := []
  toForget := []
  store
  crashed := false

def afterCheck (s : LockScreens) (next : List CheckOutput × EncryptCheckActivity) :
    List ScreenOutput × LockScreens :=
  (next.1.map .check,
    { s with
      check := next.2
      forgets :=
        if .startForgetPassword ∈ next.1 then s.forgets ++ [⟨next.2.resultCode, none, false⟩]
        else s.forgets
      crashed := .nullPointer ∈ next.1 })

def afterForget (forget : Nat) (s : LockScreens)
    (next : List ForgetOutput × ForgetPasswordActivity) : List ScreenOutput × LockScreens :=
  (next.1.map (.forget forget),
    { s with
      forgets := s.forgets.set forget next.2
      settings :=
        if .startSetting ∈ next.1 then
          s.settings ++ [(forget, .onCreate s.store.flPassword)]
        else s.settings
      toCheck := s.toCheck ++ next.1.filterMap (ForgetOutput.waiting forget) })

def afterSetting (setting forget : Nat) (s : LockScreens)
    (next : List SettingOutput × EncryptSettingActivity × UserState) :
    List ScreenOutput × LockScreens :=
  let requestCode := (s.forgets[forget]?.map (·.resultCode)).getD (-1)
  (next.1.map (.setting setting forget),
    { s with
      settings := s.settings.set setting (forget, next.2.1)
      toForget := s.toForget ++ next.1.filterMap (SettingOutput.waiting forget requestCode)
      store := next.2.2 })

def handle (s : LockScreens) : ScreenEvent → List ScreenOutput × LockScreens
  | .check device event => s.afterCheck (s.check.handle md5 device s.store.flPassword event)
  | .forget forget event =>
    match s.forgets[forget]? with
    | none => ([], s)
    | some f => s.afterForget forget (f.handle md5 s.store.flPassword event)
  | .setting setting event =>
    match s.settings[setting]? with
    | none => ([], s)
    | some (forget, c) => s.afterSetting setting forget (c.handle md5 patternText s.store event)
  | .checkResult waiting =>
    match s.toCheck[waiting]? with
    | none => ([], s)
    | some r =>
      { s with toCheck := s.toCheck.eraseIdx waiting }.afterCheck
        (s.check.onActivityResult EncryptCheckActivity.forgetPasswordReq r.resultCode (some r.key))
  | .forgetResult waiting =>
    match s.toForget[waiting]? with
    | none => ([], s)
    | some r =>
      match s.forgets[r.forget]? with
      | none => ([], s)
      | some f =>
        { s with toForget := s.toForget.eraseIdx waiting }.afterForget r.forget
          (f.onActivityResult f.resultCode r.resultCode r.key)
  | .canceled =>
    s.afterCheck (s.check.onActivityResult EncryptCheckActivity.forgetPasswordReq 0 none)
  | .password event => ([], { s with store := (passwordStep md5 s.store event).2 })

def step (s : LockScreens) (event : ScreenEvent) : List ScreenOutput × LockScreens :=
  if s.crashed then ([], s) else s.handle md5 patternText event

end LockScreens

def Answered (trace : List ScreenOutput) (forget : Nat) : Prop :=
  ∃ security, .forget forget (.asked security true) ∈ trace

/-- The question was answered, and then the credential was stored. -/
def Renewed (trace : List ScreenOutput) (forget : Nat) (token : String) : Prop :=
  ∃ before between after security setting value flPassword,
    trace = before ++ .forget forget (.asked security true) :: between ++
      .setting setting forget (.changed value (some token) flPassword) :: after ∧
    checkPassword md5 flPassword value = some token

/-- A credential, a bound finger or the question gave the token. -/
def Proved (trace : List ScreenOutput) (token : String) : Prop :=
  (∃ password, .check (.checked password (some token)) ∈ trace) ∨
    (∃ fingerId apeFpDatas, .check (.verified fingerId apeFpDatas (some token)) ∈ trace ∧
      Bound apeFpDatas fingerId) ∨
    ∃ forget resultCode, .forget forget (.result resultCode (some token)) ∈ trace

/-- A result with a token comes after its proof. -/
def HandedOut (before : List ScreenOutput) : ScreenOutput → Prop
  | .check (.result _ (some token)) => Proved before token
  | .forget forget (.result _ (some token)) => Renewed md5 before forget token
  | _ => True

section

variable {md5} {trace : List ScreenOutput} {forget : Nat} {token : String}

theorem Answered.mono (h : Answered trace forget) (out : List ScreenOutput) :
    Answered (trace ++ out) forget := by
  obtain ⟨security, hmem⟩ := h
  exact ⟨security, List.mem_append_left out hmem⟩

theorem Renewed.mono (h : Renewed md5 trace forget token) (out : List ScreenOutput) :
    Renewed md5 (trace ++ out) forget token := by
  obtain ⟨before, between, after, security, setting, value, flPassword, rfl, hcheck⟩ := h
  refine ⟨before, between, after ++ out, security, setting, value, flPassword, ?_, hcheck⟩
  simp

theorem Proved.mono (h : Proved trace token) (out : List ScreenOutput) :
    Proved (trace ++ out) token := by
  rcases h with ⟨password, hmem⟩ | ⟨fingerId, apeFpDatas, hmem, hbound⟩ | ⟨forget, resultCode, hmem⟩
  · exact .inl ⟨password, List.mem_append_left out hmem⟩
  · exact .inr (.inl ⟨fingerId, apeFpDatas, List.mem_append_left out hmem, hbound⟩)
  · exact .inr (.inr ⟨forget, resultCode, List.mem_append_left out hmem⟩)

theorem Shown.proved {shown : List CheckOutput} (h : Shown shown token) :
    Proved (trace ++ shown.map .check) token := by
  rcases h with ⟨password, hmem⟩ | ⟨fingerId, apeFpDatas, hmem, hbound⟩
  · exact .inl ⟨password, List.mem_append_right _ (List.mem_map_of_mem hmem)⟩
  · exact .inr (.inl ⟨fingerId, apeFpDatas,
      List.mem_append_right _ (List.mem_map_of_mem hmem), hbound⟩)

end

structure Backed (trace : List ScreenOutput) (s : LockScreens) : Prop where
  handedOut : Justified (HandedOut md5) trace
  mResult : ∀ token, s.check.mResult = some token → Proved trace token
  key : ∀ token, s.check.key = some token → Proved trace token
  forgets : ∀ (forget : Nat) (f : ForgetPasswordActivity), s.forgets[forget]? = some f →
    ∀ token, f.key = some token → Renewed md5 trace forget token
  settings : ∀ (setting forget : Nat) (c : EncryptSettingActivity),
    s.settings[setting]? = some (forget, c) → Answered trace forget ∧
      ∀ token, c.mResult = some token ∨ c.key = some token → Renewed md5 trace forget token
  toCheck : ∀ r ∈ s.toCheck, ∀ token, r.key = some token → Proved trace token
  toForget : ∀ r ∈ s.toForget, ∀ token, r.key = some token → Renewed md5 trace r.forget token

section

variable {md5} {patternText} {trace : List ScreenOutput} {s : LockScreens} {α : Type}
  {i forget setting : Nat} {f : ForgetPasswordActivity} {value token : String} {call : PasswordCall}
  {c c' : EncryptSettingActivity}

theorem backed_start (device : Device) (store : UserState) (reqKey : Int) :
    Backed md5 [] (.start device store reqKey) where
  handedOut := .nil
  mResult := by rintro token ⟨⟩
  key := by rintro token ⟨⟩
  forgets := by simp [LockScreens.start]
  settings := by simp [LockScreens.start]
  toCheck := by simp [LockScreens.start]
  toForget := by simp [LockScreens.start]

theorem of_getElem?_concat {l : List α} {a x : α} (h : (l ++ [a])[i]? = some x) :
    l[i]? = some x ∨ x = a := by
  rw [List.getElem?_append] at h
  split_ifs at h
  · exact .inl h
  · exact .inr (List.mem_singleton.mp (List.mem_of_getElem? h))

theorem of_getElem?_set {l : List α} {a x : α} {j : Nat} (h : (l.set i a)[j]? = some x) :
    l[j]? = some x ∨ j = i ∧ x = a := by
  rw [List.getElem?_set] at h
  split_ifs at h with hij hlt
  · exact .inr ⟨hij.symm, (Option.some.inj h).symm⟩
  · exact .inl h

def ChangesTo (md5 : String → String) (call : PasswordCall) (value : String) : Prop :=
  ∀ passwords token passwords', call.update md5 passwords = some (token, passwords') →
    checkPassword md5 passwords'.head? value = some token

theorem changesTo_record {record : String → String → String → FlPassword}
    (hcall : call.update md5 = changePassword md5 record (some value))
    (hrecord : ∀ question answer, checkPassword md5 (some (record value question answer)) value =
      some (md5 value)) : ChangesTo md5 call value := by
  intro passwords token passwords' h
  rw [hcall] at h
  obtain ⟨value', hvalue, h⟩ := Option.bind_eq_some_iff.mp h
  obtain rfl := Option.some.inj (given_eq_some hvalue)
  cases passwords with
  | nil => cases h
  | cons old rest =>
    obtain ⟨rfl, rfl⟩ := Prod.mk.inj (Option.some.inj h)
    exact hrecord old.question old.answer

theorem ChangesTo.checks (h : ChangesTo md5 call value) {u : UserState}
    (hreply : (u.call md5 call).1 = .token token) :
    checkPassword md5 (u.call md5 call).2.flPassword value = some token := by
  cases hupdate : call.update md5 u.stored with
  | none =>
    simp only [UserState.call, hupdate] at hreply
    cases call with
    | getFlPasswordData =>
      unfold getFlPasswordData at hreply
      cases hhead : u.stored.head? <;> simp [hhead] at hreply
    | _ => cases hreply
  | some result =>
    simp only [UserState.call, hupdate, Reply.token.injEq] at hreply ⊢
    subst hreply
    exact h _ _ _ hupdate

section

variable (h : Backed md5 trace s)
include h

theorem Backed.mono {out : List ScreenOutput} (hjust : Justified (HandedOut md5) (trace ++ out)) :
    Backed md5 (trace ++ out) s where
  handedOut := hjust
  mResult token ht := (h.mResult token ht).mono out
  key token ht := (h.key token ht).mono out
  forgets forget f hf token ht := (h.forgets forget f hf token ht).mono out
  settings setting forget c hc :=
    have ⟨hanswered, hrenew⟩ := h.settings setting forget c hc
    ⟨hanswered.mono out, fun token ht => (hrenew token ht).mono out⟩
  toCheck r hr token ht := (h.toCheck r hr token ht).mono out
  toForget r hr token ht := (h.toForget r hr token ht).mono out

theorem backed_afterCheck {given : Option String} {next : List CheckOutput × EncryptCheckActivity}
    (hnext : EncryptCheckActivity.Handles given s.check next)
    (hgiven : ∀ token, given = some token → Proved trace token) :
    After (Backed md5) trace (s.afterCheck next) := by
  obtain ⟨shown, hands, hout⟩ := hnext
  -- what the screen holds after the step is proved before its result
  have hprove : ∀ token, EncryptCheckActivity.Had given s.check shown token →
      Proved (trace ++ shown.map .check) token := by
    rintro token (hkey | hmResult | hgave | hshown)
    · exact (h.key token hkey).mono _
    · exact (h.mResult token hmResult).mono _
    · exact (hgiven token hgave).mono _
    · exact hshown.proved
  have hjust : Justified (HandedOut md5) (trace ++ shown.map .check) := by
    refine h.handedOut.append fun o ho before => ?_
    obtain ⟨o, hmem, rfl⟩ := List.mem_map.mp ho
    cases o with
    | result resultCode key => exact absurd hmem (hands.silent resultCode key)
    | _ => trivial
  obtain ⟨rest, hrest, hall⟩ : ∃ rest, (s.afterCheck next).1 = shown.map .check ++ rest ∧
      Justified (HandedOut md5) (trace ++ shown.map .check ++ rest) := by
    rcases hout with hout | ⟨resultCode, hout⟩
    · exact ⟨[], by simp [LockScreens.afterCheck, hout], by simpa using hjust⟩
    · refine ⟨[.check (.result resultCode next.2.key)], by simp [LockScreens.afterCheck, hout],
        hjust.snoc ?_⟩
      cases hkey : next.2.key with
      | none => trivial
      | some token => exact hprove token (hands.key token hkey)
  rw [After, hrest, ← List.append_assoc]
  have hafter := (h.mono hjust).mono hall
  refine { hafter with
    mResult := fun token ht => (hprove token (hands.mResult token ht)).mono rest
    key := fun token ht => (hprove token (hands.key token ht)).mono rest
    forgets := fun forget f hf token ht => ?_ }
  simp only [LockScreens.afterCheck] at hf
  split_ifs at hf
  · rcases of_getElem?_concat hf with hf | rfl
    · exact hafter.forgets forget f hf token ht
    · cases ht
  · exact hafter.forgets forget f hf token ht

theorem backed_afterForget {next : List ForgetOutput × ForgetPasswordActivity}
    (hjust : Justified (HandedOut md5) (trace ++ next.1.map (.forget forget)))
    (hkey : ∀ token, next.2.key = some token → Renewed md5 trace forget token)
    (hstart : .startSetting ∈ next.1 → Answered (trace ++ next.1.map (.forget forget)) forget) :
    After (Backed md5) trace (s.afterForget forget next) := by
  have hafter := h.mono hjust
  refine { hafter with
    forgets := fun forget' f hf token ht => ?_
    settings := fun setting forget' c hc => ?_
    toCheck := fun r hr token ht => ?_ }
  · rcases of_getElem?_set hf with hold | ⟨rfl, rfl⟩
    · exact hafter.forgets forget' f hold token ht
    · exact (hkey token ht).mono _
  · simp only [LockScreens.afterForget] at hc
    split_ifs at hc with hnew
    · rcases of_getElem?_concat hc with hc | heq
      · exact hafter.settings setting forget' c hc
      · obtain ⟨rfl, rfl⟩ := Prod.mk.inj heq
        exact ⟨hstart hnew, by rintro token (⟨⟨⟩⟩ | ⟨⟨⟩⟩)⟩
    · exact hafter.settings setting forget' c hc
  · rcases List.mem_append.mp hr with hr | hr
    · exact hafter.toCheck r hr token ht
    · obtain ⟨o, hmem, ho⟩ := List.mem_filterMap.mp hr
      cases o with
      | result resultCode key =>
        obtain rfl := Option.some.inj ho
        obtain rfl : key = some token := ht
        exact .inr (.inr ⟨forget, resultCode,
          List.mem_append_right _ (List.mem_map_of_mem hmem)⟩)
      | _ => cases ho

theorem backed_forget_finish (hkey : ∀ token, f.key = some token → Renewed md5 trace forget token) :
    After (Backed md5) trace (s.afterForget forget f.finish) := by
  refine backed_afterForget h ?_ hkey ?_
  · by_cases hfinish : f.finished
    · simpa [ForgetPasswordActivity.finish, hfinish] using h.handedOut
    · simp only [ForgetPasswordActivity.finish, hfinish, Bool.false_eq_true, if_false,
        List.map_cons, List.map_nil]
      refine h.handedOut.snoc ?_
      cases hf : f.key with
      | none => trivial
      | some token => exact hkey token hf
  · by_cases hfinish : f.finished <;> simp [ForgetPasswordActivity.finish, hfinish]

theorem backed_forget (hf : s.forgets[forget]? = some f) (flPassword : Option FlPassword)
    (event : ForgetEvent) :
    After (Backed md5) trace (s.afterForget forget (f.handle md5 flPassword event)) := by
  have hkey := h.forgets forget f hf
  cases event with
  | complete text =>
    have hasked : ∀ out : List ForgetOutput, (∀ resultCode key, .result resultCode key ∉ out) →
        Justified (HandedOut md5) (trace ++ out.map (.forget forget)) := by
      intro out hsilent
      refine h.handedOut.append fun o ho before => ?_
      obtain ⟨o, hmem, rfl⟩ := List.mem_map.mp ho
      cases o with
      | result resultCode key => exact absurd hmem (hsilent resultCode key)
      | _ => trivial
    dsimp only [ForgetPasswordActivity.handle]
    split_ifs
    · exact backed_afterForget h (hasked [] (by simp)) hkey (by simp)
    · exact backed_afterForget h (hasked _ (by simp)) hkey fun _ => ⟨text, by simp⟩
    · exact backed_afterForget h (hasked _ (by simp)) hkey (by simp)
  | onBackPressed => exact backed_forget_finish h hkey

theorem backed_forgetResult (hf : s.forgets[forget]? = some f) (requestCode resultCode : Int)
    {answer : Option String}
    (hanswer : ∀ token, answer = some token → Renewed md5 trace forget token) :
    let next := s.afterForget forget (f.onActivityResult requestCode resultCode answer)
    After (Backed md5) trace next := by
  intro next
  dsimp only [next, ForgetPasswordActivity.onActivityResult]
  split_ifs
  · exact backed_forget_finish h hanswer
  · exact backed_afterForget h (by simpa using h.handedOut) (h.forgets forget f hf) (by simp)

section

variable (hc : s.settings[setting]? = some (forget, c))
include hc

theorem backed_afterSetting {next : List SettingOutput × EncryptSettingActivity × UserState}
    (hheld : ∀ token, next.2.1.mResult = some token ∨ next.2.1.key = some token →
      (c.mResult = some token ∨ c.key = some token) ∨
        Renewed md5 (trace ++ next.1.map (.setting setting forget)) forget token)
    (hres : ∀ resultCode key, .result resultCode key ∈ next.1 → key = next.2.1.key) :
    After (Backed md5) trace (s.afterSetting setting forget next) := by
  have hjust : Justified (HandedOut md5) (trace ++ next.1.map (.setting setting forget)) := by
    refine h.handedOut.append fun o ho before => ?_
    obtain ⟨o, -, rfl⟩ := List.mem_map.mp ho
    trivial
  have hafter := h.mono hjust
  obtain ⟨hanswered, hrenew⟩ := hafter.settings setting forget c hc
  have hrenew' := fun token ht => (hheld token ht).elim (hrenew token) id
  refine { hafter with
    settings := fun setting' forget' c hc => ?_
    toForget := fun r hr token ht => ?_ }
  · rcases of_getElem?_set hc with hold | ⟨rfl, heq⟩
    · exact hafter.settings setting' forget' c hold
    · obtain ⟨rfl, rfl⟩ := Prod.mk.inj heq
      exact ⟨hanswered, hrenew'⟩
  · rcases List.mem_append.mp hr with hr | hr
    · exact hafter.toForget r hr token ht
    · obtain ⟨o, hmem, ho⟩ := List.mem_filterMap.mp hr
      cases o with
      | result resultCode key =>
        simp only [SettingOutput.waiting] at ho
        split_ifs at ho
        obtain rfl := Option.some.inj ho
        exact hrenew' token (.inr (hres resultCode key hmem ▸ ht))
      | changed value result flPassword => cases ho

variable (u : UserState)

theorem backed_change (hkey : c'.key = c.key) (credential : Credential) : After (Backed md5) trace
      (s.afterSetting setting forget (c'.change md5 patternText credential u)) := by
  refine backed_afterSetting h hc ?_ (by simp [EncryptSettingActivity.change])
  rintro token (ht | ht)
  · cases hreply : (u.call md5 (EncryptSettingActivity.changeCall patternText credential)).1 with
    | token token' =>
      simp only [EncryptSettingActivity.change, hreply, Option.some.injEq] at ht ⊢
      subst ht
      have hcall : ChangesTo md5 (EncryptSettingActivity.changeCall patternText credential)
          (EncryptSettingActivity.text patternText credential) := by
        cases credential with
        | number digits =>
          exact changesTo_record rfl fun _ _ => by simp [checkPassword, numberRecord]
        | pattern cells =>
          exact changesTo_record rfl fun _ _ => by simp [checkPassword, patternRecord]
      obtain ⟨security, hmem⟩ := (h.settings setting forget c hc).1
      obtain ⟨before, between, rfl⟩ := List.append_of_mem hmem
      exact .inr ⟨before, between, [], security, setting, _, _, rfl, hcall.checks hreply⟩
    | null | data password => simp [EncryptSettingActivity.change, hreply] at ht
  · exact .inl (.inr (hkey ▸ ht))

theorem backed_setting_cancel :
    After (Backed md5) trace (s.afterSetting setting forget (c.cancel.1, c.cancel.2, u)) := by
  refine backed_afterSetting h hc (fun token ht => .inl (.inl (ht.elim id id))) ?_
  by_cases hfinish : c.screen.finished <;>
    simp [EncryptSettingActivity.cancel, EncryptSettingActivity.finish, hfinish]

end

theorem backed_setting (hc : s.settings[setting]? = some (forget, c)) (u : UserState)
    (event : SettingActivity.Event) : After (Backed md5) trace
      (s.afterSetting setting forget (c.handle md5 patternText u event)) := by
  unfold EncryptSettingActivity.handle
  split
  · exact backed_setting_cancel h hc u
  · exact backed_setting_cancel h hc u
  · dsimp only
    split
    · exact backed_afterSetting h hc (fun _ ht => .inl ht) (by simp)
    · exact backed_change h hc u (by rfl) _

theorem Backed.delivered {toCheck toForget : List SubResult} (hcheck : toCheck ⊆ s.toCheck)
    (hforget : toForget ⊆ s.toForget) : Backed md5 trace { s with toCheck, toForget } :=
  { h with
    toCheck := fun r hr => h.toCheck r (hcheck hr)
    toForget := fun r hr => h.toForget r (hforget hr) }

theorem backed_handle (event : ScreenEvent) :
    After (Backed md5) trace (s.handle md5 patternText event) := by
  cases event with
  | check device event =>
    have hnext : EncryptCheckActivity.Handles none s.check _ :=
      EncryptCheckActivity.handles_handle md5 s.store.flPassword device s.check event
    exact backed_afterCheck h hnext (by rintro token ⟨⟩)
  | forget forget event =>
    dsimp only [LockScreens.handle]
    split
    · exact .nil h
    · next f hf => exact backed_forget h hf s.store.flPassword event
  | setting setting event =>
    dsimp only [LockScreens.handle]
    split
    · exact .nil h
    · next forget c hc => exact backed_setting h hc s.store event
  | checkResult waiting =>
    dsimp only [LockScreens.handle]
    split
    · exact .nil h
    · next r hr =>
      refine backed_afterCheck (h.delivered List.eraseIdx_subset (List.Subset.refl _))
        (EncryptCheckActivity.handles_onActivityResult ..) ?_
      exact h.toCheck r (List.mem_of_getElem? hr)
  | forgetResult waiting =>
    dsimp only [LockScreens.handle]
    split
    · exact .nil h
    · next r hr =>
      split
      · exact .nil h
      · next f hf =>
        exact backed_forgetResult (h.delivered (List.Subset.refl _) List.eraseIdx_subset) hf
          f.resultCode r.resultCode (h.toForget r (List.mem_of_getElem? hr))
  | canceled =>
    exact backed_afterCheck h (EncryptCheckActivity.handles_onActivityResult ..)
      (by rintro token ⟨⟩)
  | password event => exact After.nil { h with }

end

theorem backed_step (trace : List ScreenOutput) (s : LockScreens) (event : ScreenEvent)
    (h : Backed md5 trace s) : After (Backed md5) trace (s.step md5 patternText event) := by
  unfold LockScreens.step
  split_ifs
  · exact .nil h
  · exact backed_handle h event

end

/-- A result with a token comes after a proof. -/
theorem lockScreens_token_proved (device : Device) (store : UserState) (reqKey : Int)
    (events : List ScreenEvent) : Justified (HandedOut md5)
      (run (LockScreens.step md5 patternText) (.start device store reqKey) events).1 :=
  (run_invariant_all backed_step (backed_start device store reqKey)).handedOut

def fourKeys : List ScreenEvent := [1, 2, 3, 4].map fun d => .setting 0 (.key (some d))

def forgottenEvents : List ScreenEvent :=
  let device : Device := ⟨⟨false, false, true⟩, some []⟩
  List.flatten [
    [.check device .onResume, .check device (.onPatternDetected "row=1"),
      .check device .actionForgetPassword, .forget 0 (.complete "dog"),
      .forget 0 (.complete "cat")],
    fourKeys, [.setting 0 .next], fourKeys,
    [.setting 0 .passMsg, .setting 0 .completeButton, .forgetResult 0, .checkResult 0]]

example :
    (run (LockScreens.step markHash fun _ => "")
      (.start ⟨⟨false, false, true⟩, some []⟩
        ⟨[patternRecord markHash "row=2" "1" (markHash "cat")], none, 0⟩ 1) forgottenEvents).1 =
      [.check (.checked "row=1" none), .check .startForgetPassword,
        .forget 0 (.asked "dog" false), .forget 0 (.asked "cat" true), .forget 0 .startSetting,
        .setting 0 0 (.changed "1234" (some "#1234")
          (some (numberRecord markHash "1234" "1" (markHash "cat")))),
        .setting 0 0 (.result changePasswordCode (some "#1234")),
        .forget 0 (.result 1 (some "#1234")), .check (.result 1 (some "#1234"))] := by
  decide +kernel

end WikoPlatform.FileLock
