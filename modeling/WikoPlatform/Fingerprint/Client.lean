import WikoPlatform.Fingerprint.State

/-! The clients of the fingerprint service. Every `on…` says whether the client is done. -/

namespace WikoPlatform.Fingerprint

open Runs Act

def callDaemon (w : World) (client : Option Nat) (call : DaemonCall) : Handler (Option Int) := do
  let s ← get
  emit (.daemon client call s.failedAttempts (w.answer call))
  pure (w.answer call)

def setActiveGroup (w : World) (grouping : Grouping) (userId : Int)
    (clientPackage : Option String) : Handler Unit := do
  let s ← get
  let userId := w.getUserOrWorkProfileId clientPackage userId
  if userId ≠ s.currentUserId ∧ grouping.directory then
    emit (.daemon none (.setActiveGroup userId) s.failedAttempts grouping.setActiveGroup)
    if grouping.setActiveGroup.isSome then
      modify fun s => { s with currentUserId := userId }

def getFingerprintDaemon (w : World) (opening : Opening) : Handler Bool := do
  let s ← get
  if s.daemon then pure true
  else match opening with
    | .absent | .failed => pure false
    | .opened deviceId currentUser grouping => do
      emit (.daemon none .openHal s.failedAttempts (some deviceId))
      modify fun s => { s with halDeviceId := deviceId }
      if deviceId ≠ 0 then
        modify fun s => { s with daemon := true }
        setActiveGroup w grouping currentUser none
        pure true
      else pure false

def updateActiveGroup (w : World) (userId : Int) (clientPackage : Option String) :
    Handler Unit := do
  if ← getFingerprintDaemon w w.opening then
    setActiveGroup w w.grouping userId clientPackage

/-- At the counters of the last authentication. -/
def count (counter : Counter) : Handler Unit := do
  match (← get).performanceStats with
  | none => throw
  | some key => emit (.counted key counter)

def resetFailedAttempts : Handler Unit := do
  modify fun s => { s with failedAttempts := 0, alarm := false }
  emit .lockoutReset

namespace ClientMonitor

/-- The constructor links to the death of the token. -/
def new (kind : ClientKind) (token receiver : Option Nat) (targetUserId groupId : Int)
    (restricted : Bool) (owner : String) : Handler ClientMonitor := do
  let s ← get
  match token with
  | none => throw
  | some _ => do
    modify fun s => { s with nextClient := s.nextClient + 1 }
    emit (.created s.nextClient token)
    pure { id := s.nextClient, kind, halDeviceId := s.halDeviceId, token, receiver, targetUserId,
           groupId, isRestricted := restricted, owner }

def send (w : World) (c : ClientMonitor) (callback : Callback) (origin : Option Nat) :
    Handler Bool :=
  match c.receiver with
  | none => pure false
  | some receiver => do
    emit (.callback c.id receiver c.halDeviceId callback (w.receives receiver callback) origin)
    pure (w.receives receiver callback)

def onError (w : World) (c : ClientMonitor) (error : Int) : Handler Unit := do
  let _ ← c.send w (.onError error) none

def onAcquired (w : World) (c : ClientMonitor) (acquiredInfo : Int) : Handler Bool := do
  let heard ← c.send w (.onAcquired acquiredInfo) none
  pure !heard

/-- A refused call of `start` is told; one that threw is not. -/
def startCall (w : World) (c : ClientMonitor) (call : DaemonCall) : Handler Unit := do
  let answer ← callDaemon w (some c.id) call
  if answer ≠ some 0 ∧ answer ≠ none then c.onError w errorHwUnavailable

def enrollmentTimeout : Int := 60

def startDaemonCall (c : ClientMonitor) : DaemonCall :=
  match c.kind with
  | .authentication opId => .authenticate opId c.groupId
  | .enroll cryptoToken => .enroll cryptoToken c.groupId enrollmentTimeout
  | .removal fingerId => .remove fingerId c.groupId

/-- `RemovalClient.start` does not look whether there is a daemon. -/
def start (w : World) (c : ClientMonitor) : Handler Unit := do
  emit (.started c.id)
  if ← getFingerprintDaemon w w.reopening then c.startCall w c.startDaemonCall
  else if c.kind.isRemoval then throw

/-- Tells the receiver only on behalf of the client itself. -/
def stop (w : World) (c : ClientMonitor) (initiatedByClient : Bool) : Handler Unit := do
  emit (.stopped c.id)
  match c.kind with
  | .authentication _ =>
    if ← getFingerprintDaemon w w.reopening then
      let _ ← callDaemon w (some c.id) .cancelAuthentication
  | .enroll _ =>
    if ← getFingerprintDaemon w w.reopening then
      let answer ← callDaemon w (some c.id) .cancelEnrollment
      -- an exception is only logged
      if (answer = some 0 ∨ answer = none) ∧ initiatedByClient then c.onError w errorCanceled
  | .removal _ =>
    if initiatedByClient then c.onError w errorCanceled

def handleFailedAttempt (c : ClientMonitor) (origin : Option Nat) : Handler Bool := do
  modify fun s => { s with failedAttempts := s.failedAttempts + 1 }
  emit (.failedAttempt c.id origin)
  let s ← get
  if s.failedAttempts = maxFailedAttempts then count .lockout
  if s.inLockoutMode then
    modify fun s => { s with alarm := true }
    pure true
  else pure false

/-- The finger is kept from a restricted client. -/
def authenticatedFp (c : ClientMonitor) (fingerId groupId : Int) : Option (Int × Int) :=
  if !c.isRestricted || c.owner == "com.android.systemui" then some (groupId, fingerId) else none

def onAuthenticated (w : World) (c : ClientMonitor) (fingerId groupId : Int) (origin : Option Nat) :
    Handler Bool := do
  if fingerId ≠ 0 then
    let _ ← c.send w
      (.onAuthenticationSucceeded (c.authenticatedFp fingerId groupId) c.targetUserId) origin
    resetFailedAttempts
    pure true
  else
    let heard ← c.send w .onAuthenticationFailed origin
    let inLockoutMode ← c.handleFailedAttempt origin
    if inLockoutMode then
      -- the receiver is used without a look
      if c.receiver = none then throw
      let _ ← c.send w (.onError errorLockout) origin
    pure (!heard || inLockoutMode)

/-- Any client but an enrolling one is done. -/
def onEnrollResult (w : World) (c : ClientMonitor) (fingerId groupId remaining : Int)
    (origin : Option Nat) : Handler Bool := do
  if c.kind.isEnroll then
    if remaining = 0 then
      modify fun s => { s with fingerprints := s.fingerprints ++ [(c.targetUserId, fingerId)] }
      emit (.stored c.id c.targetUserId fingerId origin)
    let heard ← c.send w (.onEnrollResult fingerId groupId remaining) origin
    pure (!heard || remaining == 0)
  else pure true

def onRemoved (w : World) (c : ClientMonitor) (fingerId : Int) : Handler Bool := do
  if fingerId ≠ 0 then
    modify fun s => { s with fingerprints := s.fingerprints.erase (c.targetUserId, fingerId) }
    emit (.unstored c.id c.targetUserId fingerId)
  let _ ← c.send w (.onRemoved fingerId c.groupId) none
  pure (fingerId == 0)

def destroyed (c : ClientMonitor) : ClientMonitor := { c with token := none, receiver := none }

end ClientMonitor

end WikoPlatform.Fingerprint
