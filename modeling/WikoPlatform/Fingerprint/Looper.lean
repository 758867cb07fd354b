import WikoPlatform.Fingerprint.Handler

/-! The fingerprint service as a system: binder calls, daemon messages and timers post runnables,
and the looper runs them one at a time. An exception that nobody catches ends the system. -/

namespace WikoPlatform.Fingerprint

open Runs Act

/-- Who makes a binder call, and which of the fingerprint permissions the caller holds. -/
structure Caller where
  uid : Nat
  pid : Nat
  manage : Bool
  use : Bool
  resetLockout : Bool
  deriving DecidableEq

def Caller.isUnprivileged (caller : Caller) : Bool :=
  !caller.manage && !caller.use && !caller.resetLockout

/-- `other` stands for those that reach none of the fields of `Service`. -/
inductive BinderCall where
  | preEnroll
  | postEnroll
  | enroll (token : Option Nat) (cryptoToken : Option (List UInt8)) (userId : Int)
      (receiver : Option Nat) (opPackageName : String)
  | cancelEnrollment (token : Option Nat)
  | authenticate (token : Option Nat) (opId groupId : Int) (receiver : Option Nat)
      (opPackageName : String)
  | cancelAuthentication (token : Option Nat) (opPackageName : String)
  | setActiveUser (userId : Int)
  | remove (token : Option Nat) (fingerId groupId userId : Int) (receiver : Option Nat)
  | resetTimeout
  | notifyFpService (msgId : Int)
  | other

def enrolledFingerprints (s : Service) (userId : Int) : List Int :=
  (s.fingerprints.filter (·.1 = userId)).map Prod.snd

/-- Nothing happens without the permission. -/
def binderCall (w : World) (caller : Caller) : BinderCall → Handler Unit
  | .preEnroll | .postEnroll => do
    if caller.manage then
      let _ ← getFingerprintDaemon w w.opening
  | .enroll token cryptoToken userId receiver opPackageName => do
    let s ← get
    if caller.manage && decide ((enrolledFingerprints s userId).length < w.maxTemplatesPerUser) &&
        w.isCurrentUserOrProfile userId then
      emit (.post (.startEnrollment token cryptoToken userId receiver (!caller.manage)
        opPackageName))
  | .cancelEnrollment token => do
    if caller.manage then emit (.post (.cancelEnrollment token))
  | .authenticate token opId groupId receiver opPackageName =>
    emit (.post (.authenticate token opId groupId receiver (!caller.manage) opPackageName
      caller.uid caller.pid))
  | .cancelAuthentication token opPackageName =>
    emit (.post (.cancelAuthentication token opPackageName caller.uid caller.pid))
  | .setActiveUser userId => do
    if caller.manage then emit (.post (.updateActiveGroup userId))
  | .remove token fingerId groupId userId receiver => do
    if caller.manage then
      emit (.post (.remove token fingerId groupId userId receiver (!caller.manage)))
  | .resetTimeout => do
    if caller.resetLockout then emit (.post .resetFailedAttempts)
  | .notifyFpService msgId => emit (.post (.notifyFpService msgId))
  | .other => pure ()

/-- A runnable in the looper's queue, and whether an unprivileged call put it there. -/
structure Posted where
  runnable : Runnable
  unprivileged : Bool

/-- `timer` holds the client for which `mResetClientState` is delayed; `broadcasts` counts the
lockout broadcasts on their way. -/
structure System where
  service : Service
  queue : List Posted
  timer : Option Nat
  broadcasts : Nat
  crashed : Bool

def System.start (daemon : Bool) (halDeviceId currentUserId : Int)
    (fingerprints : List (Int × Int)) : System where
  service :=
    { currentClient := none, pendingClient := none, failedAttempts := 0, alarm := false, daemon,
      halDeviceId, currentUserId, performanceStats := none, fingerprints, nextClient := 0 }
  queue := []
  timer := none
  broadcasts := 0
  crashed := false

def System.obey (unprivileged : Bool) (y : System) : Output → System
  | .post runnable => { y with queue := y.queue ++ [⟨runnable, unprivileged⟩] }
  | .armReset client => { y with timer := some client }
  | .disarmReset =>
    { y with timer := none, queue := y.queue.filter (!·.runnable.isResetClientState) }
  | _ => y

def droppedClient (s s' : Service) (unowned : Bool) : List Output :=
  match s.currentClient with
  | some client =>
    if s'.currentClient.map ClientMonitor.id = some client.id then []
    else [.dropped client.id client.receiver unowned]
  | none => []

def System.perform (y : System) (unprivileged unowned : Bool) (handler : Handler Unit) :
    List Output × System :=
  let outcome := handler y.service
  (outcome.trace ++ droppedClient y.service outcome.state unowned,
    outcome.trace.foldl (obey unprivileged)
      { y with service := outcome.state, crashed := outcome.result.isNone })

/-- An enrolment result for another kind of client, or another's reset. -/
def unowned (s : Service) (runnable : Runnable) : Bool :=
  match runnable, s.currentClient with
  | .message (.enrollResult ..), some client => !client.kind.isEnroll
  | .resetClientState armedFor, some client => client.id != armedFor
  | _, _ => false

inductive Event where
  | binder (w : World) (caller : Caller) (call : BinderCall)
  | message (message : DaemonMessage)
  | looper (w : World)
  | resetDue
  | alarmFires
  | lockoutBroadcast
  | permittedBroadcast
  | daemonDied (w : World)
  | clientDied (client : Nat)
  | userSwitching (userId : Int)
  | eventReport (acquiredInfo : Int)

def ClientMonitor.binderDied (k : Nat) (c : ClientMonitor) : ClientMonitor :=
  if c.id = k then c.destroyed else c

def clientDied (k : Nat) : Handler Unit :=
  modify fun s => { s with
    currentClient := s.currentClient.map (·.binderDied k)
    pendingClient := s.pendingClient.map (·.binderDied k) }

def System.react (y : System) : Event → List Output × System
  | .binder w caller call => y.perform caller.isUnprivileged false (binderCall w caller call)
  | .message message => y.perform false false (emit (.post (.message message)))
  | .looper w =>
    match y.queue with
    | [] => ([], y)
    | posted :: queue =>
      { y with queue }.perform posted.unprivileged (unowned y.service posted.runnable)
        (runRunnable w posted.runnable)
  | .resetDue =>
    match y.timer with
    | none => ([], y)
    | some client =>
      ([], { y with timer := none, queue := y.queue ++ [⟨.resetClientState client, false⟩] })
  | .alarmFires =>
    if y.service.alarm then
      ([], { y with service := { y.service with alarm := false }, broadcasts := y.broadcasts + 1 })
    else ([], y)
  | .lockoutBroadcast =>
    match y.broadcasts with
    | 0 => ([], y)
    | broadcasts + 1 => { y with broadcasts }.perform false false resetFailedAttempts
  | .permittedBroadcast => y.perform false false resetFailedAttempts
  | .daemonDied w => y.perform false false (Fingerprint.daemonDied w)
  | .clientDied client => y.perform false false (Fingerprint.clientDied client)
  | .userSwitching userId => y.perform false false (emit (.post (.updateActiveGroup userId)))
  | .eventReport acquiredInfo => y.perform false false (emit (.post (.handleAcq acquiredInfo)))

def System.step (y : System) (event : Event) : List Output × System :=
  if y.crashed then ([], y) else y.react event

def plainWorld : World where
  keyguardPackage := "com.android.systemui"
  enabledProfileIds userId := [userId]
  credentialOwnerProfile userId := userId
  isManagedProfile _ := false
  noteOp _ _ := .allowed
  isForegroundActivity _ _ := true
  maxTemplatesPerUser := 5
  opening := .absent
  reopening := .absent
  grouping := ⟨true, some 0⟩
  answer _ := some 0
  receives _ _ := true

def stranger : Caller := ⟨7, 7, false, false, false⟩

def authenticateEvent (app : Nat) : Event :=
  .binder plainWorld ⟨app, app, false, true, false⟩
    (.authenticate (some app) 0 0 (some app) "app")

end WikoPlatform.Fingerprint
