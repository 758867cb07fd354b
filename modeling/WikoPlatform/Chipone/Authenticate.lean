import WikoPlatform.Chipone.Message

/-! `fpTacImpl::authenticate`, one call or notification at a time, so that another thread can set
the stop flag between any two of them. -/

namespace WikoPlatform.Chipone

/-- The local variables of `authenticate`. -/
structure AuthVars where
  unmatchTimes : Nat
  unmatchMinus2Times : Nat
  captureStyle : CaptureStyle
  unmatchMsgPending : Bool
  additional2sRetryProcessing : Bool
  deriving DecidableEq

/-- The next call or notification of `authenticate`. -/
inductive AuthPoint where
  | beginAuthenticate
  | captureImg
  -- `capture_img` got `ret` and is about to notify.
  | captured (ret : Int)
  | pendingUnmatch
  | identify
  -- A match, before the stop flag is read.
  | matched (matchFinger matchResult : Int)
  | notifyMatch (matchFinger matchResult : Int)
  | endMatch (matchResult : Int)
  | unmatched (matchResult : Int)
  | notifyUnmatch
  | endUnmatch (needReportMsg : Bool)
  | failed (code : Int)
  | returned
  deriving DecidableEq

structure AuthTask where
  gid : Int
  vars : AuthVars
  point : AuthPoint
  deriving DecidableEq

namespace AuthTask

def start (cfg : FpConfig) (gid : Int) : AuthTask where
  gid := gid
  vars := {
    unmatchTimes := 0
    unmatchMinus2Times := 0
    captureStyle := if cfg.authFirstEnterNoWaitup then .down else .upDown
    unmatchMsgPending := false
    additional2sRetryProcessing := false }
  point := .beginAuthenticate

def goto (t : AuthTask) (point : AuthPoint) : AuthTask := { t with point := point }

def getAuthUnmatchRetryTimes (cfg : FpConfig) : Int :=
  if cfg.authUnmatchRetryTimes ≤ 0 then 1
  else if 3 < cfg.authUnmatchRetryTimes then 3
  else cfg.authUnmatchRetryTimes

def reportUnmatchThreshold (cfg : FpConfig) : Nat :=
  if cfg.authUnmatchRetry then (getAuthUnmatchRetryTimes cfg).toNat else 1

def restart (t : AuthTask) : AuthTask :=
  { t with
    vars := { t.vars with unmatchTimes := 0, unmatchMinus2Times := 0, captureStyle := .upDown }
    point := .captureImg }

def fingerUp (t : AuthTask) : AuthTask :=
  { t with
    vars := { t.vars with
      unmatchTimes := 0
      unmatchMinus2Times := 0
      captureStyle := .down
      additional2sRetryProcessing := false }
    point := .captureImg }

/-- The retry counter is never decremented. -/
def afterCapture (cfg : FpConfig) (t : AuthTask) (ret : Int) : AuthTask :=
  if ret = -msgTypeFingerMove then
    if cfg.authUnmatchRetry ∧ t.vars.unmatchMsgPending then t.goto .pendingUnmatch else t.fingerUp
  else if ret = 0 then t.goto .identify
  else if ret = -fpErrorUserCancel then t.goto .returned
  else if ret = -enoent then t.goto (.failed errorHwUnavailable)
  else t.goto .captureImg

def afterIdentify (t : AuthTask) (answer : Answer) : AuthTask :=
  if answer.ret = 0 then
    if 0 < answer.matchResult then t.goto (.matched answer.matchFinger answer.matchResult)
    else t.goto (.unmatched answer.matchResult)
  else if answer.ret = -fpErrorUserCancel then t.goto .returned
  else t.goto (.failed errorUnableToProcess)

def countUnmatch (cfg : FpConfig) (vars : AuthVars) (matchResult : Int) : AuthVars × Bool :=
  let poor := matchResult = matchResultFailedPoorQuality
  let tmpUnmatchTimes := vars.unmatchTimes
  let unmatchTimes := if poor then vars.unmatchTimes else vars.unmatchTimes + 1
  let unmatchMinus2Times := if poor then vars.unmatchMinus2Times + 1 else vars.unmatchMinus2Times
  let needReportMsg := (!cfg.authUnmatchRetry && !poor) ||
    (unmatchTimes = reportUnmatchThreshold cfg && tmpUnmatchTimes + 1 = unmatchTimes)
  let pending := cfg.authUnmatchRetry && unmatchTimes < reportUnmatchThreshold cfg && !poor
  ({ vars with
      unmatchTimes := unmatchTimes
      unmatchMinus2Times := unmatchMinus2Times
      unmatchMsgPending := pending },
    needReportMsg)

def retryUnmatch (cfg : FpConfig) (t : AuthTask) (needReportMsg : Bool) (elapsed : Int) :
    AuthTask :=
  if cfg.authUnmatchRetry then
    if needReportMsg then
      if cfg.authRetryAdditional2s then
        { t with
          vars := { t.vars with additional2sRetryProcessing := true }
          point := .captureImg }
      else t.restart
    else
      let t := { t with
        vars := { t.vars with captureStyle := .noWait }
        point := .captureImg }
      let t :=
        if cfg.authRetryAdditional2s ∧ t.vars.additional2sRetryProcessing ∧ 2000 < elapsed then
          { t with vars := { t.vars with additional2sRetryProcessing := false } }.restart
        else t
      if 10 < t.vars.unmatchMinus2Times then
        { t with vars := { t.vars with additional2sRetryProcessing := false } }.restart
      else t
  else t.restart

def step (cfg : FpConfig) (stop : Bool) (answer : Answer) (t : AuthTask) :
    Option FingerprintMsg × AuthTask :=
  match t.point with
  | .beginAuthenticate =>
    (none, if answer.ret = 0 then t.goto .captureImg else t.goto (.failed errorUnableToProcess))
  | .captureImg => (none, t.goto (.captured answer.ret))
  | .captured ret => (captureMsg t.vars.captureStyle ret, t.afterCapture cfg ret)
  | .pendingUnmatch =>
    (some (.authenticated t.gid 0),
      { t with vars := { t.vars with unmatchMsgPending := false } }.fingerUp)
  | .identify => (none, t.afterIdentify answer)
  | .matched matchFinger matchResult =>
    (none, if stop then t.goto (.endMatch matchResult)
      else t.goto (.notifyMatch matchFinger matchResult))
  | .notifyMatch matchFinger matchResult =>
    (some (.authenticated t.gid matchFinger), t.goto (.endMatch matchResult))
  | .endMatch _ => (none, if cfg.authSuccessContinuous then t.restart else t.goto .returned)
  | .unmatched matchResult =>
    let (vars, needReportMsg) := countUnmatch cfg t.vars matchResult
    let t := { t with vars := vars }
    (none, if needReportMsg ∧ stop = false then t.goto .notifyUnmatch
      else t.goto (.endUnmatch needReportMsg))
  | .notifyUnmatch => (some (.authenticated t.gid 0), t.goto (.endUnmatch true))
  | .endUnmatch needReportMsg => (none, t.retryUnmatch cfg needReportMsg answer.elapsed)
  | .failed code => (some (.error code), t.goto .returned)
  | .returned => (none, t)

/-- A message about the finger is due, whatever the stop flag is. -/
def committed (cfg : FpConfig) (t : AuthTask) : Bool :=
  match t.point with
  | .captured ret => ret = 0 ∨ ret = -msgTypeFingerMove ∧
      (t.vars.captureStyle.waitUp ∨ cfg.authUnmatchRetry ∧ t.vars.unmatchMsgPending)
  | .pendingUnmatch | .notifyMatch .. | .notifyUnmatch => true
  | _ => false

/-- The next step reads the stop flag. -/
def looks (cfg : FpConfig) (t : AuthTask) : Bool :=
  match t.point with
  | .matched .. => true
  | .unmatched matchResult => (countUnmatch cfg t.vars matchResult).2
  | _ => false

theorem retryUnmatch_point (cfg : FpConfig) (t : AuthTask) (needReportMsg : Bool)
    (elapsed : Int) : (t.retryUnmatch cfg needReportMsg elapsed).point = .captureImg := by
  unfold retryUnmatch
  dsimp only
  split_ifs <;> rfl

theorem step_uncommitted {cfg : FpConfig} {t : AuthTask} {stop : Bool} {answer : Answer}
    (h : t.committed cfg = false)
    (hcapture : t.point = .captureImg → answer.ret = -fpErrorUserCancel)
    (hlooks : stop = false → t.looks cfg = false) :
    (∀ msg, (t.step cfg stop answer).1 = some msg → msg.isResult = false) ∧
      (t.step cfg stop answer).2.committed cfg = false := by
  unfold committed at h
  unfold looks at hlooks
  unfold step
  cases hpoint : t.point with
  | beginAuthenticate =>
    refine ⟨by simp, ?_⟩
    dsimp only
    split_ifs <;> rfl
  | captureImg =>
    refine ⟨by simp, ?_⟩
    simp [committed, goto, hcapture hpoint, fpErrorUserCancel, msgTypeFingerMove]
  | captured ret =>
    simp only [hpoint, decide_eq_false_iff_not, not_or, not_and] at h ⊢
    obtain ⟨hzero, hmove⟩ := h
    refine ⟨fun msg hmsg => ?_, ?_⟩
    · unfold captureMsg at hmsg
      split_ifs at hmsg with hcancel hup
      exact absurd hup.1 (hmove hup.2).1
    · unfold afterCapture
      split_ifs with hret hpend
      · exact absurd hpend fun hp => (hmove hret).2 hp.1 hp.2
      all_goals rfl
  | identify =>
    refine ⟨by simp, ?_⟩
    dsimp only
    unfold afterIdentify
    split_ifs <;> rfl
  | matched finger result =>
    cases stop with
    | false => simp [hpoint] at hlooks
    | true => exact ⟨by simp, rfl⟩
  | endMatch result =>
    refine ⟨by simp, ?_⟩
    dsimp only
    split_ifs <;> rfl
  | unmatched result =>
    refine ⟨by simp, ?_⟩
    cases stop with
    | false =>
      have hnot := hlooks rfl
      simp only [hpoint] at hnot
      simp [hnot, goto, committed]
    | true => simp [goto, committed]
  | endUnmatch needReportMsg =>
    refine ⟨by simp, ?_⟩
    simp only [committed, retryUnmatch_point]
  | failed code =>
    refine ⟨?_, rfl⟩
    rintro msg ⟨rfl⟩
    rfl
  | returned =>
    refine ⟨by simp, ?_⟩
    simp only [committed, hpoint]
  | pendingUnmatch | notifyMatch | notifyUnmatch => simp [hpoint] at h

end AuthTask

end WikoPlatform.Chipone
