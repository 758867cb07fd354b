import WikoPlatform.Chipone.Remove

/-! `fpTacImpl::enroll`, one call or notification at a time. -/

namespace WikoPlatform.Chipone

def duplicatedFingerCheck (answer : Answer) : Int :=
  let ret := if answer.beginRet = 0 then answer.ret else answer.beginRet
  let matchResult := if answer.beginRet = 0 then answer.matchResult else 0
  if ret < 0 then ret else if 0 < matchResult then 1 else 0

structure EnrollVars where
  fid : Int
  totalEnrollCnt : Int
  curEnrollCnt : Int
  lastEnrollCnt : Int
  enrollFailReason : Int
  fillPartIndication : Int
  deriving DecidableEq

/-- The next call or notification of `enroll`. -/
inductive EnrollPoint where
  | authorizeEnrol
  -- An error before `start_enroll`, which skips `finish_enroll`.
  | unauthorized (code : Int)
  | startEnroll
  | loop
  | captureImg
  | captured (ret : Int)
  | duplicateCheck
  | duplicate (code : Int)
  | enrollState
  | enrollImg
  | storeTemplate
  -- The template is stored, before the stop flag is read.
  | stored
  -- `delete_fid(gid, fid, false)`.
  | discard (task : RemoveTask)
  | unchanged
  | notifyEnrolling
  -- An error inside the loop that does not leave it.
  | notifyNoSpace
  | detail
  | failed (code : Int)
  | finishEnroll
  | returned
  deriving DecidableEq

structure EnrollTask where
  gid : Int
  vars : EnrollVars
  point : EnrollPoint
  deriving DecidableEq

namespace EnrollTask

def start (gid : Int) : EnrollTask where
  gid := gid
  vars := {
    fid := 0
    totalEnrollCnt := 10
    curEnrollCnt := 0
    lastEnrollCnt := 0
    enrollFailReason := 0
    fillPartIndication := 0 }
  point := .authorizeEnrol

def goto (t : EnrollTask) (point : EnrollPoint) : EnrollTask := { t with point := point }

/-- The branch in the build with `ENV_TEE` and `DEBUG_ENABLE`. -/
def afterAuthorize (cfg : FpConfig) (t : EnrollTask) (ret : Int) : EnrollTask :=
  if ret = 0 ∨ cfg.injectEnabled then t.goto .startEnroll
  else if ret = -etimedout then t.goto (.unauthorized errorTimeout)
  else t.goto (.unauthorized errorHwUnavailable)

def afterCapture (cfg : FpConfig) (t : EnrollTask) (ret : Int) : EnrollTask :=
  if ret = -fpErrorUserCancel then t.goto .finishEnroll
  else if ret ≠ 0 then t.goto .captureImg
  else if cfg.forbiddenDuplicatedFingerEnroll then t.goto .duplicateCheck
  else t.goto .enrollState

def afterDuplicateCheck (cfg : FpConfig) (t : EnrollTask) (result : Int) : EnrollTask :=
  if result < 0 then t.goto (.failed errorUnableToProcess)
  else if 0 < result then
    match cfg.onEnrollDuplicate.getD (acquiredVendorAlgoImageenrolled, 0) with
    | (code, type) => if type ≠ 0 then t.goto (.failed code) else t.goto (.duplicate code)
  else t.goto .enrollState

def afterEnrollImg (t : EnrollTask) (answer : Answer) : EnrollTask :=
  let t := { t with vars := { t.vars with
    totalEnrollCnt := answer.totalEnrollCnt
    curEnrollCnt := answer.curEnrollCnt
    enrollFailReason := answer.enrollFailReason
    fillPartIndication := answer.fillPartIndication } }
  if answer.ret ≠ 0 then t.goto (.failed errorUnableToProcess)
  else if t.vars.lastEnrollCnt ≤ t.vars.curEnrollCnt then
    if t.vars.curEnrollCnt = t.vars.totalEnrollCnt then t.goto .storeTemplate
    else if t.vars.curEnrollCnt = t.vars.lastEnrollCnt then t.goto .unchanged
    else t.goto .notifyEnrolling
  else t.goto .loop

def unchangedCode (cfg : FpConfig) (vars : EnrollVars) : Int :=
  if vars.enrollFailReason = 61441 ∨ vars.enrollFailReason = 4103 then
    cfg.onEnrollFingerSameArea.getD 0
  else if vars.enrollFailReason = 4444 then acquiredPartial
  else 0

/-- The missing part is indicated one sample before the end. -/
def detailMsg (cfg : FpConfig) (vars : EnrollVars) : Option FingerprintMsg :=
  if cfg.reportDetailMsg ∧ vars.totalEnrollCnt - vars.curEnrollCnt = 1 ∧
      1 ≤ vars.fillPartIndication ∧ vars.fillPartIndication ≤ 4 then
    some (.acquired (acquiredVendorAlgoFillIndUp + (vars.fillPartIndication - 1)))
  else none

def step (cfg : FpConfig) (stop : Bool) (answer : Answer) (t : EnrollTask) :
    Option FingerprintMsg × EnrollTask :=
  match t.point with
  | .authorizeEnrol => (none, t.afterAuthorize cfg answer.ret)
  | .unauthorized code => (some (.error code), t.goto .returned)
  | .startEnroll =>
    let t := { t with vars := { t.vars with fid := answer.fid } }
    (none, if answer.ret < 0 then t.goto (.failed errorNoSpace) else t.goto .loop)
  | .loop =>
    (none, if t.vars.curEnrollCnt < t.vars.totalEnrollCnt then t.goto .captureImg
      else t.goto .finishEnroll)
  | .captureImg => (none, t.goto (.captured answer.ret))
  | .captured ret => (captureMsg .upDown ret, t.afterCapture cfg ret)
  | .duplicateCheck => (none, t.afterDuplicateCheck cfg (duplicatedFingerCheck answer))
  | .duplicate code => (some (.acquired code), t.goto .loop)
  | .enrollState =>
    (none, if answer.enrollState then t.goto .enrollImg else t.goto .captureImg)
  | .enrollImg => (none, t.afterEnrollImg answer)
  | .storeTemplate =>
    let t := { t with vars := { t.vars with fid := answer.fid } }
    (none, if answer.ret ≠ 0 ∨ answer.fid = 0 then t.goto .notifyNoSpace else t.goto .stored)
  | .stored =>
    (none, if stop then t.goto (.discard (.start t.gid t.vars.fid false))
      else t.goto .notifyEnrolling)
  | .discard task =>
    match task.point with
    | .returned => (none, t.goto .detail)
    | _ => ((task.step answer).1, t.goto (.discard (task.step answer).2))
  | .unchanged =>
    let code := unchangedCode cfg t.vars
    (if code ≠ 0 then some (.acquired code) else none, t.goto .captureImg)
  | .notifyEnrolling =>
    (some (constructEnrollingMsg t.gid t.vars.fid t.vars.curEnrollCnt t.vars.totalEnrollCnt),
      t.goto .detail)
  | .notifyNoSpace => (some (.error errorNoSpace), t.goto .detail)
  | .detail =>
    (detailMsg cfg t.vars,
      { t with vars := { t.vars with lastEnrollCnt := t.vars.curEnrollCnt }, point := .loop })
  | .failed code => (some (.error code), t.goto .finishEnroll)
  | .finishEnroll => (none, t.goto .returned)
  | .returned => (none, t)

/-- A message may come before the stop flag is read. -/
def committed (cfg : FpConfig) (t : EnrollTask) : Bool :=
  match t.point with
  | .captured ret => ret = 0 ∨ ret = -msgTypeFingerMove
  | .duplicateCheck | .duplicate _ | .enrollState | .enrollImg | .notifyEnrolling => true
  | .unchanged => unchangedCode cfg t.vars ≠ 0
  | .storeTemplate | .stored | .discard _ | .notifyNoSpace | .detail =>
    (detailMsg cfg t.vars).isSome
  | _ => false

theorem step_uncommitted {cfg : FpConfig} {t : EnrollTask} {stop : Bool} {answer : Answer}
    (h : t.committed cfg = false)
    (hcapture : t.point = .captureImg → answer.ret = -fpErrorUserCancel)
    (hlooks : stop = false → t.point ≠ .stored) :
    (∀ msg, (t.step cfg stop answer).1 = some msg → msg.isResult = false) ∧
      (t.step cfg stop answer).2.committed cfg = false := by
  unfold committed at h
  unfold step
  cases hpoint : t.point with
  | authorizeEnrol =>
    refine ⟨by simp, ?_⟩
    dsimp only
    unfold afterAuthorize
    split_ifs <;> rfl
  | startEnroll =>
    refine ⟨by simp, ?_⟩
    dsimp only
    split_ifs <;> rfl
  | loop =>
    refine ⟨by simp, ?_⟩
    dsimp only
    split_ifs <;> rfl
  | captureImg =>
    refine ⟨by simp, ?_⟩
    simp [committed, goto, hcapture hpoint, fpErrorUserCancel, msgTypeFingerMove]
  | captured ret =>
    simp only [hpoint, decide_eq_false_iff_not, not_or] at h ⊢
    obtain ⟨hzero, hmove⟩ := h
    refine ⟨by simp [captureMsg, hzero, hmove], ?_⟩
    unfold afterCapture
    rw [if_pos hzero]
    split_ifs <;> rfl
  | storeTemplate =>
    simp only [hpoint] at h ⊢
    refine ⟨by simp, ?_⟩
    split_ifs <;> exact h
  | stored =>
    cases stop with
    | false => exact absurd hpoint (hlooks rfl)
    | true =>
      simp only [hpoint] at h
      exact ⟨by simp, h⟩
  | discard task =>
    simp only [hpoint] at h ⊢
    split
    · exact ⟨by simp, h⟩
    · exact ⟨fun msg hmsg => task.step_not_result answer hmsg, h⟩
  | unchanged =>
    simp only [hpoint, decide_eq_false_iff_not] at h ⊢
    exact ⟨by simp [h], rfl⟩
  | notifyNoSpace =>
    simp only [hpoint] at h ⊢
    refine ⟨?_, h⟩
    rintro msg ⟨rfl⟩
    rfl
  | detail =>
    simp only [hpoint] at h ⊢
    refine ⟨fun msg hsome => ?_, rfl⟩
    rw [hsome] at h
    cases h
  | unauthorized code | failed code =>
    refine ⟨?_, rfl⟩
    rintro msg ⟨rfl⟩
    rfl
  | finishEnroll => exact ⟨by simp, rfl⟩
  | returned =>
    refine ⟨by simp, ?_⟩
    simp only [committed, hpoint]
  | duplicateCheck | duplicate | enrollState | enrollImg | notifyEnrolling => simp [hpoint] at h

end EnrollTask

end WikoPlatform.Chipone
