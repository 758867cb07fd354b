import WikoPlatform.Lib.Act

/-! The data of the framework's fingerprint service, what it asks of the world around it, and what
it does to others. -/

namespace WikoPlatform.Fingerprint

def maxFailedAttempts : Nat := 5
def errorHwUnavailable : Int := 1
def errorCanceled : Int := 5
def errorLockout : Int := 7

def userCurrent : Int := -2

/-- The subclasses of `ClientMonitor` that the service starts, each with its own fields. -/
inductive ClientKind where
  | authentication (opId : Int)
  | enroll (cryptoToken : List UInt8)
  | removal (fingerId : Int)
  deriving DecidableEq

def ClientKind.isAuthentication : ClientKind → Bool
  | .authentication _ => true
  | _ => false

def ClientKind.isEnroll : ClientKind → Bool
  | .enroll _ => true
  | _ => false

def ClientKind.isRemoval : ClientKind → Bool
  | .removal _ => true
  | _ => false

/-- A client object. `id` is its identity; tokens and receivers are binder objects, none for
`null`. -/
structure ClientMonitor where
  id : Nat
  kind : ClientKind
  halDeviceId : Int
  token : Option Nat
  receiver : Option Nat
  targetUserId : Int
  groupId : Int
  isRestricted : Bool
  owner : String
  deriving DecidableEq

/-- `onAuthenticationSucceeded` carries the group and finger unless the client is restricted. -/
inductive Callback where
  | onAcquired (acquiredInfo : Int)
  | onError (error : Int)
  | onAuthenticationFailed
  | onAuthenticationSucceeded (fp : Option (Int × Int)) (userId : Int)
  | onEnrollResult (fingerId groupId remaining : Int)
  | onRemoved (fingerId groupId : Int)
  deriving DecidableEq

def Callback.isTerminal : Callback → Bool
  | .onError _ | .onAuthenticationSucceeded _ _ => true
  | .onEnrollResult _ _ remaining => remaining == 0
  | .onRemoved fingerId _ => fingerId == 0
  | .onAcquired _ | .onAuthenticationFailed => false

inductive DaemonCall where
  | openHal
  | setActiveGroup (userId : Int)
  | authenticate (opId groupId : Int)
  | enroll (cryptoToken : List UInt8) (groupId timeout : Int)
  | remove (fingerId groupId : Int)
  | cancelAuthentication
  | cancelEnrollment
  deriving DecidableEq

def DaemonCall.isOperation : DaemonCall → Bool
  | .authenticate .. | .enroll .. => true
  | _ => false

inductive Counter where
  | accept | reject | acquire | lockout
  deriving DecidableEq

structure StatsKey where
  crypto : Bool
  userId : Int
  deriving DecidableEq

/-- Results carry the client whose daemon call they answer, which the service does not see. -/
inductive DaemonMessage where
  | enrollResult (origin : Nat) (fingerId groupId remaining : Int)
  | acquired (acquiredInfo : Int)
  | authenticated (origin : Nat) (fingerId groupId : Int)
  | error (code : Int)
  | removed (fingerId groupId : Int)
  deriving DecidableEq

/-- `mResetClientState` carries the client it was armed for, which the service does not see either.
-/
inductive Runnable where
  | message (message : DaemonMessage)
  | startEnrollment (token : Option Nat) (cryptoToken : Option (List UInt8)) (userId : Int)
      (receiver : Option Nat) (restricted : Bool) (opPackageName : String)
  | cancelEnrollment (token : Option Nat)
  | authenticate (token : Option Nat) (opId groupId : Int) (receiver : Option Nat)
      (restricted : Bool) (opPackageName : String) (uid pid : Nat)
  | cancelAuthentication (token : Option Nat) (opPackageName : String) (uid pid : Nat)
  | updateActiveGroup (userId : Int)
  | remove (token : Option Nat) (fingerId groupId userId : Int) (receiver : Option Nat)
      (restricted : Bool)
  | resetFailedAttempts
  | resetClientState (armedFor : Nat)
  | notifyFpService (msgId : Int)
  | handleAcq (acquiredInfo : Int)
  deriving DecidableEq

def Runnable.isResetClientState : Runnable → Bool
  | .resetClientState _ => true
  | _ => false

/-- `daemon` says that `mDaemon` is not `null`, `alarm` that the lockout alarm is set, and
`fingerprints` lists users with their stored fingers. -/
structure Service where
  currentClient : Option ClientMonitor
  pendingClient : Option ClientMonitor
  failedAttempts : Nat
  alarm : Bool
  daemon : Bool
  halDeviceId : Int
  currentUserId : Int
  performanceStats : Option StatsKey
  fingerprints : List (Int × Int)
  nextClient : Nat

/-- Callbacks, failed attempts and stored fingers name the client they are for, and the origin of
the result that led to them. -/
inductive Output where
  | created (client : Nat) (token : Option Nat)
  | started (client : Nat)
  | stopped (client : Nat)
  | daemon (client : Option Nat) (call : DaemonCall) (failedAttempts : Nat) (answer : Option Int)
  | callback (client receiver : Nat) (deviceId : Int) (callback : Callback) (delivered : Bool)
      (origin : Option Nat)
  | failedAttempt (client : Nat) (origin : Option Nat)
  | lockoutReset
  | stored (client : Nat) (userId fingerId : Int) (origin : Option Nat)
  | unstored (client : Nat) (userId fingerId : Int)
  | counted (key : StatsKey) (counter : Counter)
  | post (runnable : Runnable)
  | armReset (client : Nat)
  | disarmReset
  | dropped (client : Nat) (receiver : Option Nat) (unowned : Bool)
  deriving DecidableEq

inductive OpMode where
  | allowed | ignored | errored
  deriving DecidableEq

/-- Whether the data directory is there or can be made, and what the daemon answers. -/
structure Grouping where
  directory : Bool
  setActiveGroup : Option Int

inductive Opening where
  | absent
  | failed
  | opened (deviceId currentUser : Int) (grouping : Grouping)

/-- A daemon call without an answer and a callback that is not received throw `RemoteException`. A
step reaches for the daemon at most twice. -/
structure World where
  keyguardPackage : String
  enabledProfileIds : Int → List Int
  credentialOwnerProfile : Int → Int
  isManagedProfile : Int → Bool
  noteOp : Nat → String → OpMode
  isForegroundActivity : Nat → Nat → Bool
  maxTemplatesPerUser : Nat
  opening : Opening
  reopening : Opening
  grouping : Grouping
  answer : DaemonCall → Option Int
  receives : Nat → Callback → Bool

abbrev Handler (α : Type) : Type := Runs.Act Service Output α

def Service.inLockoutMode (s : Service) : Bool := decide (maxFailedAttempts ≤ s.failedAttempts)

def World.isCurrentUserOrProfile (w : World) (userId : Int) : Bool :=
  (w.enabledProfileIds userId).contains userId

def World.isKeyguard (w : World) (clientPackage : Option String) : Bool :=
  clientPackage == some w.keyguardPackage

def World.getUserOrWorkProfileId (w : World) (clientPackage : Option String) (userId : Int) : Int :=
  if !w.isKeyguard clientPackage && w.isManagedProfile userId then userId
  else w.credentialOwnerProfile userId

end WikoPlatform.Fingerprint
