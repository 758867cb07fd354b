import WikoPlatform.FileLock.Check
import WikoPlatform.Fingerprint.Records

/-! The screen that asks for the file-lock credential. Its result has the `RESULT_KEY` of the intent
that started it. -/

namespace WikoPlatform.FileLock

open Fingerprint (ApeFpData)

structure DeviceState where
  deviceLocked : Bool
  keyguardLocked : Bool
  screenOn : Bool

/-- Nobody listens for a finger on such a device. -/
def DeviceState.locked (d : DeviceState) : Bool :=
  d.deviceLocked || d.keyguardLocked || !d.screenOn

/-- The list is null when the service cannot be reached. -/
structure Device extends DeviceState where
  apeFpDatas : Option (List ApeFpData)

def getAppSwitch (apeFpDatas : Option (List ApeFpData)) : Bool :=
  apeFpDatas.any (·.any (0 < ·.allowUnlockApp))

def getBindPrivacyLockFingerprint (apeFpDatas : List ApeFpData) : Option (List Int) :=
  if apeFpDatas.length ≤ 0 then none
  else some ((apeFpDatas.filter (0 < ·.allowUnlockApp)).map (·.fingerId))

def checkBindPrivacyLockFingerprint (apeFpDatas : Option (List ApeFpData)) (fingerId : Int) :
    Option Bool := do
  let fingerListData ← getBindPrivacyLockFingerprint (← apeFpDatas)
  some (fingerListData.contains fingerId)

def getPasswordLength (flPassword : Option FlPassword) : Int :=
  flPassword.elim (-1) (·.passwordLength)

def getToken (flPassword : Option FlPassword) : Option String := flPassword.map (·.token)

inductive Button where
  | digit (value : Fin 10)
  | delete

def Button.char : Button → Char
  | .digit value => Char.ofNat ('0'.toNat + value)
  | .delete => ' '

inductive CheckMessage where
  | pass
  | fingerprintDelayVerifyStart
  | verifySuccess (fingerId : Int)
  | verifyFailed
  | systemError
  | verifyErrorLockout
  deriving DecidableEq

/-- `onBackPressed` is also the home button. -/
inductive CheckEvent where
  | onClick (button : Button)
  | onPatternDetected (pattern : String)
  | handleMessage (msg : CheckMessage)
  | onPause
  | onResume
  | onStop
  | onBackPressed
  | actionForgetPassword

inductive CheckOutput where
  | checked (password : String) (result : Option String)
  /-- A finger passed `checkBindPrivacyLockFingerprint`, and the token of the password. -/
  | verified (fingerId : Int) (apeFpDatas : List ApeFpData) (result : Option String)
  | verifyStart
  | cancelOperation
  | resetTimeout
  | startForgetPassword
  | result (resultCode : Int) (key : Option String)
  | nullPointer
  deriving DecidableEq

structure EncryptCheckActivity where
  resultCode : Int
  passwordLength : Int
  stringBuffer : List Char
  mResult : Option String
  stopFlag : Bool
  verifyStartFlag : Bool
  hasManager : Bool
  passMsg : Bool
  /-- `MSG_FINGERPRINT_DELAY_VERIFY_START` is in the queue. -/
  delayVerifyStart : Bool
  key : Option String
  finished : Bool
  deriving DecidableEq

namespace EncryptCheckActivity

def fileManager : Int := 1

def gallery : Int := 2

def cm : Int := 3

def forgetPasswordReq : Int := 104

/-- The `REQ_KEY` of the intent may be missing. -/
def onCreate (device : Device) (flPassword : Option FlPassword) (reqKey : Int) :
    EncryptCheckActivity where
  resultCode := reqKey
  passwordLength := getPasswordLength flPassword
  stringBuffer := []
  mResult := none
  stopFlag := false
  verifyStartFlag := false
  hasManager :=
    (reqKey == fileManager || reqKey == gallery || reqKey == cm) && getAppSwitch device.apeFpDatas
  passMsg := false
  delayVerifyStart := false
  key := none
  finished := false

def finish (s : EncryptCheckActivity) : List CheckOutput × EncryptCheckActivity :=
  (if s.finished then [] else [.result s.resultCode s.key], { s with finished := true })

def crash (s : EncryptCheckActivity) : List CheckOutput × EncryptCheckActivity :=
  ([.nullPointer], s)

/-- Extras without a `RESULT_KEY` leave the one of the intent. -/
def cancel (s : EncryptCheckActivity) : List CheckOutput × EncryptCheckActivity := s.finish

def check (s : EncryptCheckActivity) : List CheckOutput × EncryptCheckActivity :=
  match s.mResult with
  | none => ([], s)
  | some result => { s with key := some result }.finish

def verifyStart (s : EncryptCheckActivity) : List CheckOutput × EncryptCheckActivity :=
  if s.hasManager then ([.verifyStart], { s with verifyStartFlag := true }) else s.crash

def verifySuccess (device : Device) (flPassword : Option FlPassword) (fingerId : Int)
    (s : EncryptCheckActivity) : List CheckOutput × EncryptCheckActivity :=
  match checkBindPrivacyLockFingerprint device.apeFpDatas fingerId with
  | none => s.crash
  | some false => s.verifyStart
  | some true =>
    let next := { s with key := getToken flPassword }.finish
    (.verified fingerId (device.apeFpDatas.getD []) (getToken flPassword) :: next.1, next.2)

/-- The failures are reset with a null token. -/
def verifyErrorLockout (s : EncryptCheckActivity) : List CheckOutput × EncryptCheckActivity :=
  if s.hasManager then ([.cancelOperation, .resetTimeout, .verifyStart], s) else s.crash

def fingerprintDelayVerifyStart (device : Device) (s : EncryptCheckActivity) :
    List CheckOutput × EncryptCheckActivity :=
  if device.locked then ([], { s with delayVerifyStart := true })
  else s.verifyStart

/-- No message has an effect on a paused screen. -/
def handleMessage (device : Device) (flPassword : Option FlPassword) (s : EncryptCheckActivity) :
    CheckMessage → List CheckOutput × EncryptCheckActivity
  | .pass =>
    if !s.passMsg then ([], s)
    else if s.stopFlag then ([], { s with passMsg := false })
    else { s with passMsg := false }.check
  | .fingerprintDelayVerifyStart =>
    if !s.delayVerifyStart then ([], s)
    else if s.stopFlag then ([], { s with delayVerifyStart := false })
    else { s with delayVerifyStart := false }.fingerprintDelayVerifyStart device
  | .verifySuccess fingerId =>
    if s.stopFlag then ([], s) else s.verifySuccess device flPassword fingerId
  | .verifyFailed | .systemError => ([], s)
  | .verifyErrorLockout => if s.stopFlag then ([], s) else s.verifyErrorLockout

section

variable (md5 : String → String)

def checkBuffer (flPassword : Option FlPassword) (s : EncryptCheckActivity) :
    List CheckOutput × EncryptCheckActivity :=
  let password := String.ofList s.stringBuffer
  match checkPassword md5 flPassword password with
  | some result =>
    ([.checked password (some result)], { s with mResult := some result, passMsg := true })
  | none => ([.checked password none], { s with stringBuffer := [] })

def onClick (flPassword : Option FlPassword) (s : EncryptCheckActivity) (button : Button) :
    List CheckOutput × EncryptCheckActivity :=
  if s.passMsg then ([], s)
  else
    let temp := button.char
    if '0' ≤ temp ∧ temp ≤ '9' ∧ (s.stringBuffer.length : Int) < s.passwordLength then
      let s := { s with stringBuffer := s.stringBuffer ++ [temp] }
      if (s.stringBuffer.length : Int) = s.passwordLength ∧ s.passwordLength ≠ 0 then
        s.checkBuffer md5 flPassword
      else ([], s)
    else if temp = ' ' ∧ 0 < s.stringBuffer.length then
      ([], { s with stringBuffer := s.stringBuffer.dropLast })
    else ([], s)

def onPatternDetected (flPassword : Option FlPassword) (s : EncryptCheckActivity)
    (pattern : String) : List CheckOutput × EncryptCheckActivity :=
  match checkPassword md5 flPassword pattern with
  | none => ([.checked pattern none], s)
  | some result =>
    if 0 < result.length then
      let next := { s with key := some result }.finish
      (.checked pattern (some result) :: next.1, next.2)
    else ([.checked pattern (some result)], s)

def onPause (device : Device) (s : EncryptCheckActivity) :
    List CheckOutput × EncryptCheckActivity :=
  let s := { s with delayVerifyStart := false }
  if s.verifyStartFlag && s.hasManager && !device.deviceLocked then
    ([.cancelOperation], { s with verifyStartFlag := false, stopFlag := true })
  else ([], { s with stopFlag := true })

def onResume (flPassword : Option FlPassword) (s : EncryptCheckActivity) : EncryptCheckActivity :=
  { s with
    passwordLength := getPasswordLength flPassword
    delayVerifyStart := s.delayVerifyStart || (!s.verifyStartFlag && s.hasManager)
    stopFlag := false }

def handle (device : Device) (flPassword : Option FlPassword) (s : EncryptCheckActivity) :
    CheckEvent → List CheckOutput × EncryptCheckActivity
  | .onClick button => s.onClick md5 flPassword button
  | .onPatternDetected pattern => s.onPatternDetected md5 flPassword pattern
  | .handleMessage msg => s.handleMessage device flPassword msg
  | .onPause => s.onPause device
  | .onResume => ([], s.onResume flPassword)
  | .onStop => ([], { s with verifyStartFlag := false })
  | .onBackPressed => s.cancel
  | .actionForgetPassword => ([.startForgetPassword], s)

end

/-- The data may be null, and its `RESULT_KEY` missing. -/
def onActivityResult (requestCode resultCode : Int) (data : Option (Option String))
    (s : EncryptCheckActivity) : List CheckOutput × EncryptCheckActivity :=
  if (requestCode = s.resultCode ∨ requestCode = forgetPasswordReq) ∧
      resultCode = s.resultCode then
    match data with
    | none => s.crash
    | some none => ([], s)
    | some (some answer) => { s with key := some answer }.finish
  else ([], s)

end EncryptCheckActivity

/-- The finger may unlock applications. -/
def Bound (apeFpDatas : List ApeFpData) (fingerId : Int) : Prop :=
  ∃ data ∈ apeFpDatas, data.fingerId = fingerId ∧ 0 < data.allowUnlockApp

/-- The token was given out for a credential or a bound finger. -/
def Shown (out : List CheckOutput) (token : String) : Prop :=
  (∃ password, .checked password (some token) ∈ out) ∨
    ∃ fingerId apeFpDatas, .verified fingerId apeFpDatas (some token) ∈ out ∧
      Bound apeFpDatas fingerId

theorem bound_of_checkBind {apeFpDatas : Option (List ApeFpData)} {fingerId : Int}
    (h : checkBindPrivacyLockFingerprint apeFpDatas fingerId = some true) :
    Bound (apeFpDatas.getD []) fingerId := by
  obtain ⟨datas, rfl, h⟩ := Option.bind_eq_some_iff.mp h
  obtain ⟨fingers, hfingers, hcontains⟩ := Option.bind_eq_some_iff.mp h
  unfold getBindPrivacyLockFingerprint at hfingers
  split_ifs at hfingers
  obtain rfl := Option.some.inj hfingers
  have hmem := List.contains_iff_mem.mp (Option.some.inj hcontains)
  obtain ⟨data, hdata, hfinger⟩ := List.mem_map.mp hmem
  obtain ⟨hin, hallow⟩ := List.mem_filter.mp hdata
  exact ⟨data, hin, hfinger, of_decide_eq_true hallow⟩

namespace EncryptCheckActivity

/-- The token was known, comes with the event or was shown. -/
def Had (given : Option String) (s : EncryptCheckActivity) (shown : List CheckOutput)
    (token : String) : Prop :=
  s.key = some token ∨ s.mResult = some token ∨ given = some token ∨ Shown shown token

structure Hands (given : Option String) (s : EncryptCheckActivity) (shown : List CheckOutput)
    (s' : EncryptCheckActivity) : Prop where
  silent : ∀ resultCode key, .result resultCode key ∉ shown
  mResult : ∀ token, s'.mResult = some token → Had given s shown token
  key : ∀ token, s'.key = some token → Had given s shown token

/-- A result comes last and has the key of the intent. -/
def Handles (given : Option String) (s : EncryptCheckActivity)
    (next : List CheckOutput × EncryptCheckActivity) : Prop :=
  ∃ shown, Hands given s shown next.2 ∧
    (next.1 = shown ∨ ∃ resultCode, next.1 = shown ++ [.result resultCode next.2.key])

section

variable {given : Option String} {s s' : EncryptCheckActivity} {shown : List CheckOutput}

theorem handles_quiet (hsilent : ∀ resultCode key, .result resultCode key ∉ shown)
    (hmResult : s'.mResult = s.mResult) (hkey : s'.key = s.key) : Handles given s (shown, s') := by
  refine ⟨shown, ⟨hsilent, fun token h => .inr (.inl ?_), fun token h => .inl ?_⟩, .inl rfl⟩
  · rwa [← hmResult]
  · rwa [← hkey]

theorem handles_finish (shown : List CheckOutput) (s' : EncryptCheckActivity)
    (hsilent : ∀ resultCode key, .result resultCode key ∉ shown) (hmResult : s'.mResult = s.mResult)
    (hkey : ∀ token, s'.key = some token → Had given s shown token) :
    Handles given s (shown ++ s'.finish.1, s'.finish.2) := by
  refine ⟨shown, ⟨hsilent, fun token h => .inr (.inl ?_), hkey⟩, ?_⟩
  · rwa [← hmResult]
  · by_cases hfinish : s'.finished
    · exact .inl (by simp [finish, hfinish])
    · exact .inr ⟨s'.resultCode, by simp [finish, hfinish]⟩

theorem handles_verifyStart (hmResult : s'.mResult = s.mResult) (hkey : s'.key = s.key) :
    Handles given s s'.verifyStart := by
  unfold verifyStart
  split_ifs <;> exact handles_quiet (by simp) hmResult hkey

theorem handles_check (hmResult : s'.mResult = s.mResult) (hkey : s'.key = s.key) :
    Handles given s s'.check := by
  unfold check
  split
  · exact handles_quiet (by simp) hmResult hkey
  · next result hres =>
    refine handles_finish [] { s' with key := some result } (by simp) hmResult ?_
    rintro token ⟨⟩
    exact .inr (.inl (hmResult ▸ hres))

theorem handles_verifySuccess (device : Device) (flPassword : Option FlPassword) (fingerId : Int)
    (s : EncryptCheckActivity) : Handles given s (s.verifySuccess device flPassword fingerId) := by
  unfold verifySuccess
  split
  · exact handles_quiet (by simp) rfl rfl
  · exact handles_verifyStart rfl rfl
  · next hbind =>
    refine handles_finish [.verified fingerId (device.apeFpDatas.getD []) (getToken flPassword)]
      { s with key := getToken flPassword } (by simp) rfl fun token htoken =>
        .inr (.inr (.inr (.inr ?_)))
    have hgot : getToken flPassword = some token := htoken
    exact ⟨fingerId, _, by simp [hgot], bound_of_checkBind hbind⟩

theorem handles_handleMessage (device : Device) (flPassword : Option FlPassword)
    (s : EncryptCheckActivity) (msg : CheckMessage) :
    Handles given s (s.handleMessage device flPassword msg) := by
  cases msg with
  | pass =>
    dsimp only [handleMessage]
    split_ifs
    · exact handles_quiet (by simp) rfl rfl
    · exact handles_quiet (by simp) rfl rfl
    · exact handles_check rfl rfl
  | fingerprintDelayVerifyStart =>
    dsimp only [handleMessage, EncryptCheckActivity.fingerprintDelayVerifyStart]
    split_ifs
    · exact handles_quiet (by simp) rfl rfl
    · exact handles_quiet (by simp) rfl rfl
    · exact handles_quiet (by simp) rfl rfl
    · exact handles_verifyStart rfl rfl
  | verifySuccess fingerId =>
    dsimp only [handleMessage]
    split_ifs
    · exact handles_quiet (by simp) rfl rfl
    · exact handles_verifySuccess device flPassword fingerId s
  | verifyFailed | systemError => exact handles_quiet (by simp) rfl rfl
  | verifyErrorLockout =>
    dsimp only [handleMessage, EncryptCheckActivity.verifyErrorLockout]
    split_ifs <;> exact handles_quiet (by simp) rfl rfl

variable (md5 : String → String) (flPassword : Option FlPassword)

theorem handles_checkBuffer (hmResult : s'.mResult = s.mResult) (hkey : s'.key = s.key) :
    Handles given s (s'.checkBuffer md5 flPassword) := by
  unfold checkBuffer
  dsimp only
  split
  · refine ⟨_, ⟨by simp, ?_, fun token h => .inl (hkey ▸ h)⟩, .inl rfl⟩
    rintro token ⟨⟩
    exact .inr (.inr (.inr (.inl ⟨_, List.mem_singleton.mpr rfl⟩)))
  · exact handles_quiet (by simp) hmResult hkey

theorem handles_onClick (s : EncryptCheckActivity) (button : Button) :
    Handles given s (s.onClick md5 flPassword button) := by
  unfold onClick
  dsimp only
  split_ifs
  any_goals exact handles_checkBuffer md5 flPassword rfl rfl
  all_goals exact handles_quiet (by simp) rfl rfl

theorem handles_onPatternDetected (s : EncryptCheckActivity) (pattern : String) :
    Handles given s (s.onPatternDetected md5 flPassword pattern) := by
  unfold onPatternDetected
  split
  · exact handles_quiet (by simp) rfl rfl
  · next result hres =>
    split_ifs
    · refine handles_finish [.checked pattern (some result)] { s with key := some result }
        (by simp) rfl ?_
      rintro token ⟨⟩
      exact .inr (.inr (.inr (.inl ⟨pattern, List.mem_singleton.mpr rfl⟩)))
    · exact handles_quiet (by simp) rfl rfl

theorem handles_handle (device : Device) (s : EncryptCheckActivity) (event : CheckEvent) :
    Handles given s (s.handle md5 device flPassword event) := by
  cases event with
  | onClick button => exact handles_onClick md5 flPassword s button
  | onPatternDetected pattern => exact handles_onPatternDetected md5 flPassword s pattern
  | handleMessage msg => exact handles_handleMessage device flPassword s msg
  | onPause =>
    dsimp only [handle, EncryptCheckActivity.onPause]
    split_ifs <;> exact handles_quiet (by simp) rfl rfl
  | onResume | onStop | actionForgetPassword => exact handles_quiet (by simp) rfl rfl
  | onBackPressed => exact handles_finish [] s (by simp) rfl fun token h => .inl h

end

theorem handles_onActivityResult (requestCode resultCode : Int) (data : Option (Option String))
    (s : EncryptCheckActivity) :
    Handles data.join s (s.onActivityResult requestCode resultCode data) := by
  unfold onActivityResult
  split_ifs
  · rcases data with _ | _ | answer
    · exact handles_quiet (by simp) rfl rfl
    · exact handles_quiet (by simp) rfl rfl
    · refine handles_finish [] { s with key := some answer } (by simp) rfl ?_
      rintro token ⟨⟩
      exact .inr (.inr (.inl rfl))
  · exact handles_quiet (by simp) rfl rfl

end EncryptCheckActivity

end WikoPlatform.FileLock
