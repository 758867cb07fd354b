import WikoPlatform.Chipone.Authenticate
import WikoPlatform.Chipone.Enroll
import WikoPlatform.Lib.Runs

/-! The two threads of the HAL: `task_function`, which runs one task at a time, and the calls of
`fpDameonImpl`. The code between two waits on the mutex of `thread_task` is one step, since its
fields are only touched there. -/

namespace WikoPlatform.Chipone

inductive TaskFunction where
  | authenticate
  | enroll
  | remove
  | enumerate
  | fingerDetect
  deriving DecidableEq

inductive EnumeratePoint where
  | getEnrolledFids
  | each (ids : List Int)
  | notifyEach (id : Int) (rest : List Int)
  | returned
  deriving DecidableEq

inductive Task where
  | authenticate (t : AuthTask)
  | enroll (t : EnrollTask)
  | remove (t : RemoveTask)
  | enumerate (activeGid : Int) (point : EnumeratePoint)
  | fingerDetect (returned : Bool)
  deriving DecidableEq

inductive Requested where
  | pause
  | resume
  deriving DecidableEq

/-- Where `task_function` stands.  `op` numbers the submitted tasks. -/
inductive WorkerPoint where
  | top
  -- In `pthread_cond_wait`.
  | waiting
  -- Out of the mutex with the submitted task, if there was one.
  | taken (work : Option (Nat × TaskFunction))
  | running (op : Nat) (task : Task)
  | finishing
  | navigating
  deriving DecidableEq

/-- `tac` stands for the calls that ask the trusted application something and submit no task. -/
inductive Call where
  | cancel
  | authenticate (sessionId : Nat) (gid : Int)
  | enroll (gid timeout : Int)
  | deleteFid (gid fid : Int)
  | enumerate
  | fingerDetect
  | setActiveGroup (gid : Int)
  | navigatorEnable (enable : Bool)
  | tac
  deriving DecidableEq

/-- Where a call of the daemon stands. -/
inductive CallPoint where
  -- In `cancel`, before `FINGERPRINT_ERROR_CANCELED` is notified.
  | canceling
  | setStop
  | pause
  | pausing
  | clearStop
  | body
  | resume
  | resuming
  deriving DecidableEq

/-- The fields of `fpDameonImpl`, `fpTacImpl` and `thread_task`, and the two threads. -/
structure Hal where
  call : Option (Call × CallPoint)
  worker : WorkerPoint
  requested : Requested
  isIdle : Bool
  resumed : Bool
  threadWork : Option (Nat × TaskFunction)
  hasDefaultWork : Bool
  stop : Bool
  msessionId : Nat
  mgid : Int
  mfid : Int
  mtimeout : Int
  activeGid : Int
  nextOp : Nat
  deriving DecidableEq

/-- A message of a task comes with the task's number, and `FINGERPRINT_ERROR_CANCELED` of `cancel`
with that of the task then running. -/
inductive Output where
  | notify (op : Nat) (msg : FingerprintMsg)
  | canceled (running : Option Nat)
  deriving DecidableEq

inductive HalEvent where
  | enter (call : Call)
  | client
  | worker (answer : Answer)

namespace Task

/-- A task function reads its arguments from the daemon first. -/
def start (cfg : FpConfig) (s : Hal) : TaskFunction → Task
  | .authenticate => .authenticate (.start cfg s.mgid)
  | .enroll => .enroll (.start s.mgid)
  | .remove => .remove (.start s.mgid s.mfid true)
  | .enumerate => .enumerate s.activeGid .getEnrolledFids
  | .fingerDetect => .fingerDetect false

def isReturned : Task → Bool
  | .authenticate t => t.point = .returned
  | .enroll t => t.point = .returned
  | .remove t => t.point = .returned
  | .enumerate _ point => point = .returned
  | .fingerDetect returned => returned

def stepEnumerate (stop : Bool) (answer : Answer) (activeGid : Int) :
    EnumeratePoint → Option FingerprintMsg × EnumeratePoint
  | .getEnrolledFids => (none, .each answer.fids)
  | .each [] => (none, .returned)
  | .each (id :: rest) => (none, if stop then .returned else .notifyEach id rest)
  | .notifyEach id rest => (some (.enumerating activeGid id rest.length), .each rest)
  | .returned => (none, .returned)

def step (cfg : FpConfig) (stop : Bool) (answer : Answer) : Task → Option FingerprintMsg × Task
  | .authenticate t => ((t.step cfg stop answer).1, .authenticate (t.step cfg stop answer).2)
  | .enroll t => ((t.step cfg stop answer).1, .enroll (t.step cfg stop answer).2)
  | .remove t => ((t.step answer).1, .remove (t.step answer).2)
  | .enumerate activeGid point =>
    ((stepEnumerate stop answer activeGid point).1,
      .enumerate activeGid (stepEnumerate stop answer activeGid point).2)
  | .fingerDetect _ => (none, .fingerDetect true)

end Task

namespace Hal

def running (s : Hal) : Option Nat :=
  match s.worker with
  | .taken (some (op, _)) => some op
  | .running op _ => some op
  | _ => none

def awake (s : Hal) : Hal :=
  match s.requested with
  | .resume =>
    { s with resumed := true, isIdle := false, threadWork := none, worker := .taken s.threadWork }
  | .pause => { s with worker := .waiting }

variable {s : Hal}

theorem awake_of_pause (h : s.requested = .pause) : s.awake = { s with worker := .waiting } := by
  simp only [awake, h]

theorem awake_of_resume (h : s.requested = .resume) : s.awake = { s with
      resumed := true, isIdle := false, threadWork := none, worker := .taken s.threadWork } := by
  simp only [awake, h]

def workerStep (cfg : FpConfig) (answer : Answer) (s : Hal) : List Output × Hal :=
  match s.worker with
  | .top => ([], { s with isIdle := true }.awake)
  | .waiting => ([], s.awake)
  | .taken none => ([], { s with worker := .finishing })
  | .taken (some (op, function)) => ([], { s with worker := .running op (.start cfg s function) })
  | .running op task =>
    if task.isReturned then ([], { s with worker := .finishing })
    else
      (((task.step cfg s.stop answer).1.map (Output.notify op)).toList,
        { s with worker := .running op (task.step cfg s.stop answer).2 })
  | .finishing =>
    ([], { s with
      requested := .pause
      worker := if s.requested = .resume ∧ s.hasDefaultWork then .navigating else .top })
  | .navigating => ([], { s with worker := if answer.ret = 0 then .navigating else .top })

def setThreadTask (s : Hal) (function : TaskFunction) : Hal :=
  { s with threadWork := some (s.nextOp, function), nextOp := s.nextOp + 1 }

def callBody (s : Hal) : Call → Hal
  | .cancel => s
  | .authenticate sessionId gid =>
    { s with msessionId := sessionId, mgid := gid }.setThreadTask .authenticate
  | .enroll gid timeout => { s with mgid := gid, mtimeout := timeout }.setThreadTask .enroll
  | .deleteFid gid fid => { s with mfid := fid, mgid := gid }.setThreadTask .remove
  | .enumerate => s.setThreadTask .enumerate
  | .fingerDetect => s.setThreadTask .fingerDetect
  | .setActiveGroup gid => { s with activeGid := gid }
  | .navigatorEnable enable => { s with hasDefaultWork := enable }
  | .tac => s

def awaitResumed (s : Hal) (call : Call) : Hal :=
  if s.resumed then { s with resumed := false, call := none }
  else { s with call := some (call, .resuming) }

def awaitIdle (s : Hal) (call : Call) : Hal :=
  { s with call := some (call, if s.isIdle then .clearStop else .pausing) }

def clientStep (s : Hal) : List Output × Hal :=
  match s.call with
  | none => ([], s)
  | some (call, .canceling) => ([.canceled s.running], { s with call := some (call, .setStop) })
  | some (call, .setStop) => ([], { s with stop := true, call := some (call, .pause) })
  | some (call, .pause) => ([], { s with requested := .pause }.awaitIdle call)
  | some (call, .pausing) => ([], s.awaitIdle call)
  | some (call, .clearStop) => ([], { s with stop := false, call := some (call, .body) })
  | some (call, .body) => ([], { s.callBody call with call := some (call, .resume) })
  | some (call, .resume) => ([], { s with requested := .resume }.awaitResumed call)
  | some (call, .resuming) => ([], s.awaitResumed call)

def firstPoint : Call → CallPoint
  | .cancel => .canceling
  | _ => .setStop

def step (cfg : FpConfig) (s : Hal) : HalEvent → List Output × Hal
  | .enter call =>
    match s.call with
    | none => ([], { s with call := some (call, firstPoint call) })
    | some _ => ([], s)
  | .client => s.clientStep
  | .worker answer => s.workerStep cfg answer

/-- The constructors leave `resumed` and `stop_status` unset. -/
def start (resumed stop : Bool) (msessionId : Nat) (mgid mfid mtimeout : Int) : Hal where
  call := none
  worker := .top
  requested := .pause
  isIdle := true
  resumed := resumed
  threadWork := none
  hasDefaultWork := false
  stop := stop
  msessionId := msessionId
  mgid := mgid
  mfid := mfid
  mtimeout := mtimeout
  activeGid := -1
  nextOp := 0

end Hal

end WikoPlatform.Chipone
