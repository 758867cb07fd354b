import WikoPlatform.Fingerprint.Client

/-! The handlers of the fingerprint service, one for each runnable of its looper. Every message of
the daemon is taken to be for the current client. -/

namespace WikoPlatform.Fingerprint

open Runs Act

def removeClient : Handler Unit :=
  modify fun s => { s with currentClient := none }

/-- A running client is stopped, and the new one waits. -/
def startClient (w : World) (newClient : Option ClientMonitor) (initiatedByClient : Bool) :
    Handler Unit := do
  match (← get).currentClient with
  | some currentClient =>
    currentClient.stop w initiatedByClient
    modify fun s => { s with pendingClient := newClient }
    emit .disarmReset
    emit (.armReset currentClient.id)
  | none =>
    match newClient with
    | some client =>
      modify fun s => { s with currentClient := some client }
      client.start w
    | none => pure ()

def startPendingClient (w : World) : Handler Unit := do
  match (← get).pendingClient with
  | some pendingClient =>
    startClient w (some pendingClient) false
    modify fun s => { s with pendingClient := none }
  | none => pure ()

def handleError (w : World) (error : Int) : Handler Unit := do
  match (← get).currentClient with
  | some client =>
    client.onError w error
    removeClient
  | none => pure ()
  if error = errorCanceled then
    emit .disarmReset
    startPendingClient w

def handleRemoved (w : World) (fingerId : Int) : Handler Unit := do
  match (← get).currentClient with
  | some client =>
    if client.kind.isRemoval then
      if ← client.onRemoved w fingerId then removeClient
  | none => pure ()

def handleAuthenticated (w : World) (fingerId groupId : Int) (origin : Option Nat) :
    Handler Unit := do
  match (← get).currentClient with
  | some client =>
    if client.kind.isAuthentication then
      if ← client.onAuthenticated w fingerId groupId origin then removeClient
      count (if fingerId ≠ 0 then .accept else .reject)
  | none => pure ()

def handleAcquired (w : World) (acquiredInfo : Int) : Handler Unit := do
  match (← get).currentClient with
  | some client =>
    if ← client.onAcquired w acquiredInfo then removeClient
    let s ← get
    -- acquisitions of an enrolment or in lockout are not counted
    if s.performanceStats.isSome && !s.inLockoutMode && client.kind.isAuthentication then
      count .acquire
  | none => pure ()

/-- The client is not asked whether it is enrolling. -/
def handleEnrollResult (w : World) (fingerId groupId remaining : Int) (origin : Option Nat) :
    Handler Unit := do
  match (← get).currentClient with
  | some client =>
    if ← client.onEnrollResult w fingerId groupId remaining origin then removeClient
  | none => pure ()

def handleAcq (w : World) (acquiredInfo : Int) : Handler Unit := do
  match (← get).currentClient with
  | some client => let _ ← client.onAcquired w acquiredInfo
  | none => pure ()

def resetClientState (w : World) : Handler Unit := do
  modify fun s => { s with currentClient := none }
  startClient w (← get).pendingClient false
  modify fun s => { s with pendingClient := none }

def startRemove (w : World) (token : Option Nat) (fingerId groupId userId : Int)
    (receiver : Option Nat) (restricted : Bool) : Handler Unit := do
  if ← getFingerprintDaemon w w.opening then
    let client ← ClientMonitor.new (.removal fingerId) token receiver userId groupId restricted
      (toString token)
    startClient w (some client) true

def startEnrollment (w : World) (token : Option Nat) (cryptoToken : Option (List UInt8))
    (userId : Int) (receiver : Option Nat) (restricted : Bool) (opPackageName : String) :
    Handler Unit :=
  match cryptoToken with
  | none => pure ()
  | some cryptoToken => do
    updateActiveGroup w userId (some opPackageName)
    let client ← ClientMonitor.new (.enroll cryptoToken) token receiver userId userId restricted
      opPackageName
    startClient w (some client) true

def startAuthentication (w : World) (token : Option Nat) (opId groupId : Int)
    (receiver : Option Nat) (restricted : Bool) (opPackageName : String) : Handler Unit := do
  updateActiveGroup w groupId (some opPackageName)
  let s ← get
  let client ← ClientMonitor.new (.authentication opId) token receiver s.currentUserId groupId
    restricted opPackageName
  if s.inLockoutMode then client.onError w errorLockout
  else startClient w (some client) true

/-- The package owns the current client. -/
def currentClientIs (opPackageName : String) (s : Service) : Bool :=
  match s.currentClient with
  | some client => client.owner == opPackageName
  | none => false

def wrapperPackages : List String :=
  ["com.android.settings", "com.ape.applock", "com.sugar.applock", "com.myos.applock"]

/-- Run by the handler, so that the service checks itself. -/
def canUseFingerprint (w : World) (opPackageName : String) (uid pid : Nat) : Handler Bool := do
  let s ← get
  if w.isKeyguard (some opPackageName) || wrapperPackages.contains opPackageName then pure true
  else if !w.isCurrentUserOrProfile 0 then pure false
  else match w.noteOp uid opPackageName with
    | .errored => throw
    | .ignored => pure false
    | .allowed => pure (w.isForegroundActivity uid pid || currentClientIs opPackageName s)

def authenticate (w : World) (token : Option Nat) (opId groupId : Int) (receiver : Option Nat)
    (restricted : Bool) (opPackageName : String) (uid pid : Nat) : Handler Unit := do
  if ← canUseFingerprint w opPackageName uid pid then
    modify fun s => { s with performanceStats := some ⟨opId != 0, s.currentUserId⟩ }
    startAuthentication w token opId groupId receiver restricted opPackageName

def cancelAuthentication (w : World) (token : Option Nat) (opPackageName : String)
    (uid pid : Nat) : Handler Unit := do
  if ← canUseFingerprint w opPackageName uid pid then
    match (← get).currentClient with
    | some client =>
      if client.kind.isAuthentication && client.token == token then client.stop w true
    | none => pure ()

def cancelEnrollment (w : World) (token : Option Nat) : Handler Unit := do
  match (← get).currentClient with
  | some client => if client.kind.isEnroll && client.token == token then client.stop w true
  | none => pure ()

def faceStop (w : World) : Handler Unit := do
  if ← getFingerprintDaemon w w.opening then
    let _ ← callDaemon w none .cancelAuthentication

/-- Message 1: the keyguard is hidden; message 2: it is occluded. -/
def notifyFpService (w : World) (msgId : Int) : Handler Unit := do
  let s ← get
  if (msgId = 1 ∨ msgId = 2) ∧ s.inLockoutMode then
    faceStop w
    if msgId = 1 then emit (.post .resetFailedAttempts)

def handleMessage (w : World) : DaemonMessage → Handler Unit
  | .enrollResult origin fingerId groupId remaining =>
    handleEnrollResult w fingerId groupId remaining (some origin)
  | .acquired acquiredInfo => handleAcquired w acquiredInfo
  | .authenticated origin fingerId groupId => handleAuthenticated w fingerId groupId (some origin)
  | .error code => handleError w code
  | .removed fingerId _ => handleRemoved w fingerId

def runRunnable (w : World) : Runnable → Handler Unit
  | .message message => handleMessage w message
  | .startEnrollment token cryptoToken userId receiver restricted opPackageName =>
    startEnrollment w token cryptoToken userId receiver restricted opPackageName
  | .cancelEnrollment token => cancelEnrollment w token
  | .authenticate token opId groupId receiver restricted opPackageName uid pid =>
    authenticate w token opId groupId receiver restricted opPackageName uid pid
  | .cancelAuthentication token opPackageName uid pid =>
    cancelAuthentication w token opPackageName uid pid
  | .updateActiveGroup userId => updateActiveGroup w userId none
  | .remove token fingerId groupId userId receiver restricted =>
    startRemove w token fingerId groupId userId receiver restricted
  | .resetFailedAttempts => resetFailedAttempts
  | .resetClientState _ => resetClientState w
  | .notifyFpService msgId => notifyFpService w msgId
  | .handleAcq acquiredInfo => handleAcq w acquiredInfo

def daemonDied (w : World) : Handler Unit := do
  modify fun s => { s with daemon := false, currentUserId := userCurrent }
  handleError w errorHwUnavailable

end WikoPlatform.Fingerprint
