import WikoPlatform.FileLock.CheckActivity

/-! The authentications that `ApeCustomFpManager` asks for.  Starts and cancellations are posted to
a handler, and each may be dropped when the handler comes to it. -/

namespace WikoPlatform.FileLock

def tagPrivateFmgr : Int := 1
def tagKeyguardBinderCall : Int := 2
def tagUserPresent : Int := 3
def tagSimStateChange : Int := 6
def tagVerifySuccess : Int := 7
def tagScreenOnOff : Int := 9
def tagAirplaneModeChanged : Int := 10
def tagCountdownTimerOnFinish : Int := 11
def tagDoUnlockScreen : Int := 12
def tagVerifyErrLockout : Int := 13

def checkCancelPolicy (cancelTag authTag : Int) : Bool :=
  if cancelTag = tagKeyguardBinderCall ∨ cancelTag = tagVerifySuccess ∨
      cancelTag = tagSimStateChange ∨ cancelTag = tagVerifyErrLockout then true
  else if cancelTag = authTag then true
  else
    (authTag = tagKeyguardBinderCall ∨ authTag = tagScreenOnOff ∨
      authTag = tagAirplaneModeChanged ∨ authTag = tagDoUnlockScreen ∨
      authTag = tagCountdownTimerOnFinish) ∧ cancelTag = tagUserPresent

namespace Listening

open Runs

inductive Runnable where
  | doAuthenticateListening (tag userId : Int)
  | doCancel (tag : Int)
  deriving DecidableEq

/-- Every `CancellationSignal` belongs to one call of `authenticate`, and both have one number. -/
structure ApeCustomFpManager where
  lastVerifyTag : Int
  fingerprintCancelSignal : Option Nat
  signals : Nat

/-- What the manager asks of the service. -/
inductive Request where
  | authenticate (call : Nat) (userId : Int)
  | cancel (call : Nat)

namespace ApeCustomFpManager

def start : ApeCustomFpManager := ⟨0, none, 0⟩

def doAuthenticateListening (m : ApeCustomFpManager) (locked : Bool) (tag userId : Int) :
    Option Request × ApeCustomFpManager :=
  if locked then (none, m)
  else (some (.authenticate m.signals userId), ⟨tag, some m.signals, m.signals + 1⟩)

def doCancel (m : ApeCustomFpManager) (locked : Bool) (tag : Int) :
    Option Request × ApeCustomFpManager :=
  if !checkCancelPolicy tag m.lastVerifyTag then (none, m)
  else if locked then (none, m)
  else (m.fingerprintCancelSignal.map .cancel, { m with fingerprintCancelSignal := none })

def perform (m : ApeCustomFpManager) (locked : Bool) :
    Runnable → Option Request × ApeCustomFpManager
  | .doAuthenticateListening tag userId => m.doAuthenticateListening locked tag userId
  | .doCancel tag => m.doCancel locked tag

/-- A user without fingers is not listened for. -/
def verifyStart (enrolled possible : Bool) (tag userId : Int) : List Runnable :=
  if enrolled ∧ possible then [.doAuthenticateListening tag userId] else []

/-- For the other type, `cancelEnrollment` is called. -/
def cancelOperation (verifyType : Bool) (tag : Int) : List Runnable :=
  if verifyType then [.doCancel tag] else []

end ApeCustomFpManager

/-- The manager, the calls that the service has not answered, and the runnables of its handler. -/
structure Manager extends ApeCustomFpManager where
  outstanding : List Nat
  posted : List Runnable
  device : DeviceState

inductive Event where
  | verifyStart (enrolled possible : Bool) (tag userId : Int)
  | cancelOperation (verifyType : Bool) (tag : Int)
  /-- The handler comes to one of the runnables. Their delays may put them into any order. -/
  | handle (i : Nat)
  | onAuthenticationSucceeded (call : Nat)
  | onAuthenticationError (call : Nat)
  | onAuthenticationFailed (call : Nat)
  | onAuthenticationHelp (call : Nat)
  | device (state : DeviceState)

namespace Manager

def start (device : DeviceState) : Manager := ⟨.start, [], [], device⟩

def post (m : Manager) (runnables : List Runnable) : Manager :=
  { m with posted := m.posted ++ runnables }

def finish (m : Manager) (call : Nat) : Manager :=
  { m with outstanding := m.outstanding.filter (· ≠ call) }

def ask (m : Manager) : Option Request → Manager
  | some (.authenticate call _) => { m with outstanding := call :: m.outstanding }
  | some (.cancel call) => m.finish call
  | none => m

def perform (m : Manager) (runnable : Runnable) : Manager :=
  let next := m.toApeCustomFpManager.perform m.device.locked runnable
  { m with toApeCustomFpManager := next.2 }.ask next.1

def next (m : Manager) : Event → Manager
  | .verifyStart enrolled possible tag userId =>
    m.post (ApeCustomFpManager.verifyStart enrolled possible tag userId)
  | .cancelOperation verifyType tag =>
    m.post (ApeCustomFpManager.cancelOperation verifyType tag)
  | .handle i =>
    match m.posted[i]? with
    | some runnable => { m with posted := m.posted.eraseIdx i }.perform runnable
    | none => m
  | .onAuthenticationSucceeded call =>
    (m.finish call).post (ApeCustomFpManager.cancelOperation true tagVerifySuccess)
  | .onAuthenticationError call => m.finish call
  | .onAuthenticationFailed _ | .onAuthenticationHelp _ => m
  | .device state => { m with device := state }

def step (m : Manager) (e : Event) : List Manager × Manager := ([m.next e], m.next e)

/-- One call at most is outstanding, the one that the signal cancels. -/
def AtMostOne (m : Manager) : Prop :=
  m.outstanding = [] ∨ ∃ call, m.outstanding = [call] ∧ m.fingerprintCancelSignal = some call

instance decidableAtMostOne (m : Manager) : Decidable m.AtMostOne :=
  decidable_of_iff (m.outstanding = [] ∨ ∃ call ∈ m.outstanding,
      m.outstanding = [call] ∧ m.fingerprintCancelSignal = some call) <|
    or_congr_right ⟨fun ⟨call, _, h⟩ => ⟨call, h⟩,
      fun ⟨call, h⟩ => ⟨call, h.1 ▸ List.mem_singleton_self call, h⟩⟩

/-- A start that is not dropped comes when nothing is outstanding. -/
def Alone (m : Manager) : Event → Prop
  | .handle i => ∀ tag userId, m.posted[i]? = some (.doAuthenticateListening tag userId) →
      m.device.locked = false → m.outstanding = []
  | _ => True

variable {m : Manager}

theorem finish_atMostOne (h : m.AtMostOne) (call : Nat) : (m.finish call).AtMostOne := by
  rcases h with hnone | ⟨a, hone, hstore⟩
  · exact .inl (by rw [finish, hnone, List.filter_nil])
  · by_cases ha : a = call
    · exact .inl (by simp [finish, hone, ha])
    · exact .inr ⟨a, by simp [finish, hone, ha], hstore⟩

theorem doCancel_atMostOne (h : m.AtMostOne) (tag : Int) :
    (m.perform (.doCancel tag)).AtMostOne := by
  simp only [perform, ApeCustomFpManager.perform, ApeCustomFpManager.doCancel]
  split
  · exact h
  split
  · exact h
  cases hsignal : m.fingerprintCancelSignal with
  | none =>
    rcases h with hnone | ⟨a, -, hstore⟩
    · exact .inl hnone
    · cases hstore.symm.trans hsignal
  | some call =>
    refine .inl ?_
    rcases h with hnone | ⟨a, hone, hstore⟩
    · simp [ask, finish, hnone]
    · obtain rfl : a = call := Option.some.inj (hstore.symm.trans hsignal)
      simp [ask, finish, hone]

theorem doAuthenticateListening_atMostOne_iff (h : m.AtMostOne) (tag userId : Int) :
    (m.perform (.doAuthenticateListening tag userId)).AtMostOne ↔
      (m.device.locked = false → m.outstanding = []) := by
  simp only [perform, ApeCustomFpManager.perform, ApeCustomFpManager.doAuthenticateListening]
  cases hlock : m.device.locked with
  | true => exact iff_of_true h (by rintro ⟨⟩)
  | false =>
    constructor
    · rintro (hnone | ⟨a, hone, -⟩) -
      · exact absurd hnone (List.cons_ne_nil _ _)
      · exact (List.cons.inj hone).2
    · intro hnone
      exact .inr ⟨m.signals, by simp [ask, hnone], rfl⟩

theorem handle_atMostOne_iff (h : m.AtMostOne) (i : Nat) :
    (m.next (.handle i)).AtMostOne ↔ m.Alone (.handle i) := by
  change Manager.AtMostOne (match m.posted[i]? with | some runnable => _ | none => m) ↔
    ∀ tag userId, m.posted[i]? = some (.doAuthenticateListening tag userId) → _
  have hkept : AtMostOne { m with posted := m.posted.eraseIdx i } := h
  cases m.posted[i]? with
  | none => simp [h]
  | some runnable =>
    cases runnable with
    | doCancel tag => simp [doCancel_atMostOne hkept tag]
    | doAuthenticateListening tag userId =>
      have hiff := doAuthenticateListening_atMostOne_iff hkept tag userId
      simp [hiff]

theorem next_atMostOne_iff (h : m.AtMostOne) (e : Event) : (m.next e).AtMostOne ↔ m.Alone e := by
  cases e with
  | handle i => exact handle_atMostOne_iff h i
  | onAuthenticationSucceeded call | onAuthenticationError call =>
    exact iff_of_true (finish_atMostOne h call) trivial
  | _ => exact iff_of_true h trivial

end Manager

/-- One at most, exactly if starts come alone. -/
theorem authentications_atMostOne_iff (device : DeviceState) (events : List Event) :
    (∀ m ∈ (run Manager.step (Manager.start device) events).1, m.AtMostOne) ↔
      Meets Manager.step Manager.Alone (Manager.start device) events :=
  forall_run_iff_meets_of_inv
    (fun _ e h => List.forall_mem_singleton.trans (Manager.next_atMostOne_iff h e))
    (fun _ e h halone => (Manager.next_atMostOne_iff h e).mpr halone) (.inl rfl) events

theorem authentications_not_atMostOne :
    let awake : DeviceState := ⟨false, false, true⟩
    let verify := fun tag => [Event.verifyStart true true tag 0, .handle 0]
    let cancel := [Event.cancelOperation true tagPrivateFmgr, .handle 0]
    let after := fun events => (run Manager.step (Manager.start awake) events).2
    let twice : Manager := after (verify tagPrivateFmgr ++ verify tagPrivateFmgr)
    let locked : Manager := after (verify tagPrivateFmgr ++ [Event.device ⟨false, true, true⟩] ++
      cancel ++ [Event.device awake] ++ verify tagPrivateFmgr)
    let refused : Manager := after (verify tagUserPresent ++ cancel ++ verify tagPrivateFmgr)
    (twice.outstanding = [1, 0] ∧ ¬twice.AtMostOne) ∧
      (locked.outstanding = [1, 0] ∧ ¬locked.AtMostOne) ∧
      (refused.outstanding = [1, 0] ∧ ¬refused.AtMostOne) := by
  decide +kernel

end Listening

end WikoPlatform.FileLock
