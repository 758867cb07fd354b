import Mathlib.Data.List.Basic
import WikoPlatform.Posix

/-! The messages of the fingerprint HAL, its configuration table, and what the trusted application
answers. -/

namespace WikoPlatform.Chipone

/-! ### The codes -/

def errorHwUnavailable : Int := 1
def errorUnableToProcess : Int := 2
def errorTimeout : Int := 3
def errorNoSpace : Int := 4
def errorUnableToRemove : Int := 6

def acquiredGood : Int := 0
def acquiredPartial : Int := 1
def acquiredTooFast : Int := 5
def acquiredVendorAlgoImageenrolled : Int := 1009
def acquiredVendorAlgoFillIndUp : Int := 1010

def fpErrorUserCancel : Int := 2016
def msgTypeFingerMove : Int := 151

def matchResultFailedPoorQuality : Int := -2

/-- `fingerprint_msg_t`, without the token of an authentication. -/
inductive FingerprintMsg where
  | error (code : Int)
  | acquired (info : Int)
  | enrolling (gid fid samplesRemaining : Int)
  | removed (gid fid : Int)
  | authenticated (gid fid : Int)
  | enumerating (gid fid remaining : Int)
  deriving DecidableEq

def FingerprintMsg.isResult : FingerprintMsg → Bool
  | .acquired _ => true
  | .enrolling _ _ _ => true
  | .authenticated _ _ => true
  | _ => false

def constructEnrollingMsg (gid fid enrolledCnt totalCnt : Int) : FingerprintMsg :=
  .enrolling gid fid (if enrolledCnt = 0 then totalCnt - 1 else totalCnt - enrolledCnt)

/-- The part of the configuration table that the tasks read. -/
structure FpConfig where
  authUnmatchRetry : Bool
  authUnmatchRetryTimes : Int
  authRetryAdditional2s : Bool
  authFirstEnterNoWaitup : Bool
  authSuccessContinuous : Bool
  forbiddenDuplicatedFingerEnroll : Bool
  reportDetailMsg : Bool
  injectEnabled : Bool
  -- The code and the type that `on_enroll_duplicate` writes, when it is set.
  onEnrollDuplicate : Option (Int × Int)
  onEnrollFingerSameArea : Option Int

def plainConfig : FpConfig where
  authUnmatchRetry := false
  authUnmatchRetryTimes := 1
  authRetryAdditional2s := false
  authFirstEnterNoWaitup := false
  authSuccessContinuous := false
  forbiddenDuplicatedFingerEnroll := false
  reportDetailMsg := false
  injectEnabled := false
  onEnrollDuplicate := none
  onEnrollFingerSameArea := none

/-- What a task gets back from its next call.  A call reads the fields that it returns. -/
structure Answer where
  ret : Int
  beginRet : Int := 0
  matchResult : Int := 0
  matchFinger : Int := -1
  fid : Int := 0
  fids : List Int := []
  totalEnrollCnt : Int := 0
  curEnrollCnt : Int := 0
  enrollFailReason : Int := 0
  fillPartIndication : Int := 0
  -- `enroll_state`, which `service_control` sets from other threads.
  enrollState : Bool := true
  elapsed : Int := 0

structure CaptureStyle where
  waitUp : Bool
  waitDown : Bool
  deriving DecidableEq

def CaptureStyle.noWait : CaptureStyle := ⟨false, false⟩
def CaptureStyle.down : CaptureStyle := ⟨false, true⟩
def CaptureStyle.upDown : CaptureStyle := ⟨true, true⟩

def captureMsg (style : CaptureStyle) (ret : Int) : Option FingerprintMsg :=
  if ret = 0 then some (.acquired acquiredGood)
  else if ret = -fpErrorUserCancel then none
  else if style.waitUp ∧ ret = -msgTypeFingerMove then some (.acquired acquiredTooFast)
  else none

end WikoPlatform.Chipone
