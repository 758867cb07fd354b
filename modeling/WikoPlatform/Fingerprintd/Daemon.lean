import WikoPlatform.Lib.Act
import WikoPlatform.Posix

/-! `FingerprintDaemonProxy`, the service of `fingerprintd`: its binder transactions, the death of
its client, and the device of the fingerprint HAL. -/

namespace WikoPlatform.Fingerprintd

open Runs Act

/-- A device that a HAL module opened, known to the client by its address. -/
structure Device where
  handle : Nat
  handle_pos : 0 < handle
  deriving DecidableEq

inductive HalModule where
  | goodix
  | elan
  | silead
  | chipone
  deriving DecidableEq

inductive Chip where
  | unknow
  | silead
  | goodix
  | elan
  | tee
  | chipone
  deriving DecidableEq

def Chip.module : Chip → Option HalModule
  | .goodix => some .goodix
  | .elan => some .elan
  | .silead => some .silead
  | .chipone => some .chipone
  | .unknow | .tee => none

inductive HalFunction where
  | setNotify
  | close
  | enroll
  | preEnroll
  | postEnroll
  | cancel
  | authenticate
  | remove
  | getAuthenticatorId
  | setActiveGroup
  deriving DecidableEq

/-- What `hw_get_module` and `open` give. -/
structure HalLibrary where
  getErr : Int
  null : Bool
  hasOpen : Bool
  openErr : Int
  device : Option Device

structure OpenOutcome where
  chip : Chip
  -- The property `sys.fp.onstart` is 1.
  onstart : Bool
  library : HalModule → HalLibrary
  setNotify : Int

/-- The module is chosen by the chip, or with `USE_HAL_DYNAMIC_COMPATIBLE` by trying two, the first
of which some projects try only with `sys.fp.onstart`. -/
inductive Build where
  | byChip
  | dynamic (checksOnstart : Bool)
  deriving DecidableEq

/-- The fields of the service. -/
structure FingerprintDaemonProxy where
  mModule : Option HalModule
  mDevice : Option Device
  -- The binder of the callback.
  mCallback : Option Nat
  -- The process ended with a null pointer.
  dead : Bool
  deriving DecidableEq

def FingerprintDaemonProxy.new : FingerprintDaemonProxy := ⟨none, none, none, false⟩

inductive Output where
  -- A function pointer of the HAL is used, with the device at that time.
  | halCall (function : HalFunction) (mDevice : Option Device)
  | replied (ret : Int)
  -- The reply of `openHal`, with the device after it.
  | opened (ret : Int) (mDevice : Option Device)
  deriving DecidableEq

abbrev Daemon (α : Type) : Type := Act FingerprintDaemonProxy Output α

def hwAuthTokenSize : Int := 69
def enosys : Int := 38

namespace FingerprintDaemonProxy

def callDevice (function : HalFunction) (ret : Int) : Daemon Int := do
  let mDevice := (← get).mDevice
  emit (.halCall function mDevice)
  match mDevice with
  | none => throw
  | some _ => pure ret

def init (callback : Option Nat) : Daemon Unit := do
  match callback with
  | none => throw
  | some callback => modify fun s => { s with mCallback := some callback }

def enroll (tokenSize : Int) (ret : Int) : Daemon Int :=
  if tokenSize ≠ hwAuthTokenSize then pure (-1) else callDevice .enroll ret

def preEnroll (ret : Int) : Daemon Int := callDevice .preEnroll ret

def postEnroll (ret : Int) : Daemon Int := callDevice .postEnroll ret

def stopEnrollment (ret : Int) : Daemon Int := callDevice .cancel ret

def authenticate (ret : Int) : Daemon Int := callDevice .authenticate ret

def stopAuthentication (ret : Int) : Daemon Int := callDevice .cancel ret

def remove (fingerId : Int) (ret : Int) : Daemon Int :=
  if fingerId = 0 then pure (-1) else callDevice .remove ret

def getAuthenticatorId (ret : Int) : Daemon Int := callDevice .getAuthenticatorId ret

def setActiveGroup (pathlen : Int) (ret : Int) : Daemon Int :=
  if pathMax ≤ pathlen ∨ pathlen ≤ 0 then pure (-1) else callDevice .setActiveGroup ret

def tryModule (outcome : OpenOutcome) (module : HalModule) : Daemon (Option (Option Device)) := do
  let library := outcome.library module
  if library.getErr ≠ 0 then pure none
  else if library.null then pure none
  else
    modify fun s => { s with mModule := some module }
    if library.hasOpen = false then pure none
    else if library.openErr ≠ 0 then pure none
    else pure (some library.device)

def openModule (outcome : OpenOutcome) : Build → Daemon (Option (Option Device))
  | .byChip =>
    match outcome.chip.module with
    | none => pure none
    | some module => tryModule outcome module
  | .dynamic checksOnstart => do
    let first ← if checksOnstart ∧ outcome.onstart = false then pure none
      else tryModule outcome .goodix
    match first with
    | none => tryModule outcome .elan
    | some device => pure (some device)

/-- A device stays in `mDevice` when `set_notify` fails. -/
def openHal (build : Build) (outcome : OpenOutcome) : Daemon Int := do
  match ← openModule outcome build with
  | none => pure 0
  | some device =>
    modify fun s => { s with mDevice := device }
    let err ← callDevice .setNotify outcome.setNotify
    if err < 0 then pure 0 else pure (device.elim 0 fun d => d.handle)

def closeHal (err : Int) : Daemon Int := do
  match (← get).mDevice with
  | none => pure (-enosys)
  | some _ =>
    let err ← callDevice .close err
    if err ≠ 0 then pure err
    else
      modify fun s => { s with mDevice := none }
      pure 0

def binderDied (who : Nat) (err : Int) : Daemon Unit := do
  let _ ← closeHal err
  modify fun s => if s.mCallback = some who then { s with mCallback := none } else s

end FingerprintDaemonProxy

inductive Transaction where
  | authenticate (ret : Int)
  | cancelAuthentication (ret : Int)
  | enroll (tokenSize : Int) (ret : Int)
  | cancelEnrollment (ret : Int)
  | preEnroll (ret : Int)
  | postEnroll (ret : Int)
  | remove (fingerId : Int) (ret : Int)
  | getAuthenticatorId (ret : Int)
  | setActiveGroup (pathSize : Int) (ret : Int)
  | openHal (outcome : OpenOutcome)
  | closeHal (err : Int)
  | init (callback : Option Nat)
  | setMsg (chip : Chip)
  | get

def Transaction.checksPermission : Transaction → Bool
  | .setMsg _ | .get => false
  | _ => true

inductive Event where
  | transact (permitted : Bool) (transaction : Transaction)
  | binderDied (who : Nat) (err : Int)

namespace FingerprintDaemonProxy

def reply (call : Daemon Int) : Daemon Unit := do
  emit (.replied (← call))

def onTransact (build : Build) (permitted : Bool) (transaction : Transaction) : Daemon Unit :=
  if transaction.checksPermission ∧ permitted = false then pure ()
  else
    match transaction with
    | .authenticate ret => reply (authenticate ret)
    | .cancelAuthentication ret => reply (stopAuthentication ret)
    | .enroll tokenSize ret => reply (enroll tokenSize ret)
    | .cancelEnrollment ret => reply (stopEnrollment ret)
    | .preEnroll ret => reply (preEnroll ret)
    | .postEnroll ret => reply (postEnroll ret)
    | .remove fingerId ret => reply (remove fingerId ret)
    | .getAuthenticatorId ret => reply (getAuthenticatorId ret)
    | .setActiveGroup pathSize ret => reply (setActiveGroup pathSize ret)
    | .openHal outcome => do
      let ret ← openHal build outcome
      emit (.opened ret (← Act.get).mDevice)
    | .closeHal err => reply (closeHal err)
    | .init callback => init callback
    | .setMsg chip => if chip.module.isSome then emit (.replied 0) else pure ()
    | .get => emit (.replied 0)

def handle (build : Build) : Event → Daemon Unit
  | .transact permitted transaction => onTransact build permitted transaction
  | .binderDied who err => binderDied who err

def step (build : Build) (s : FingerprintDaemonProxy) (e : Event) :
    List Output × FingerprintDaemonProxy :=
  if s.dead then ([], s)
  else
    let outcome := handle build e s
    (outcome.trace,
      if outcome.result.isSome then outcome.state else { outcome.state with dead := true })

end FingerprintDaemonProxy

/-- HAL functions have a device, and `openHal` returns 0 without one. -/
def Output.Sound : Output → Prop
  | .halCall _ mDevice => mDevice ≠ none
  | .opened ret mDevice => ret = 0 ↔ mDevice = none
  | .replied _ => True

variable {mDevice : Option Device} {ret : Int}

@[simp] theorem Output.sound_halCall {function : HalFunction} :
    (Output.halCall function mDevice).Sound ↔ mDevice ≠ none := Iff.rfl

@[simp] theorem Output.sound_opened :
    (Output.opened ret mDevice).Sound ↔ (ret = 0 ↔ mDevice = none) := Iff.rfl

@[simp] theorem Output.sound_replied : (Output.replied ret).Sound := trivial

instance (o : Output) : Decidable o.Sound := by
  unfold Output.Sound
  split <;> infer_instance

def HalLibrary.opens (library : HalLibrary) : Option (Option Device) :=
  if library.getErr = 0 ∧ library.null = false ∧ library.hasOpen = true ∧ library.openErr = 0 then
    some library.device
  else none

def OpenOutcome.opens (outcome : OpenOutcome) : Build → Option (Option Device)
  | .byChip => outcome.chip.module.bind fun module => (outcome.library module).opens
  | .dynamic checksOnstart =>
    (if checksOnstart ∧ outcome.onstart = false then none
      else (outcome.library .goodix).opens).or (outcome.library .elan).opens

/-- A device is opened that can be notified, or there is none. -/
def OpenOutcome.Clean (outcome : OpenOutcome) (build : Build) (mDevice : Option Device) : Prop :=
  match outcome.opens build with
  | none => mDevice = none
  | some none => False
  | some (some _) => 0 ≤ outcome.setNotify

/-- It calls through `mDevice`, `openHal` and `closeHal` apart. -/
def Transaction.callsDevice : Transaction → Bool
  | .enroll tokenSize _ => tokenSize = hwAuthTokenSize
  | .remove fingerId _ => fingerId ≠ 0
  | .setActiveGroup pathSize _ => pathSize < pathMax ∧ 0 < pathSize
  | .authenticate _ | .cancelAuthentication _ | .cancelEnrollment _ | .preEnroll _
  | .postEnroll _ | .getAuthenticatorId _ => true
  | .openHal _ | .closeHal _ | .init _ | .setMsg _ | .get => false

namespace FingerprintDaemonProxy

/-- Operations come after a successful, clean `openHal`. -/
def Ready (build : Build) (s : FingerprintDaemonProxy) : Event → Prop
  | .transact permitted transaction => s.dead = false → permitted = true →
      (transaction.callsDevice = true → s.mDevice ≠ none) ∧
      ∀ outcome, transaction = .openHal outcome → outcome.Clean build s.mDevice
  | .binderDied _ _ => True

section

variable {s : FingerprintDaemonProxy} {d : Device} {build : Build} {outcome : OpenOutcome}

theorem callDevice_none (h : s.mDevice = none) (function : HalFunction) (ret : Int) :
    callDevice function ret s = ⟨[.halCall function none], s, none⟩ := by
  simp only [callDevice, get_bind, emit_bind, h, throw_apply]

theorem callDevice_some (h : s.mDevice = some d) (function : HalFunction) (ret : Int) :
    callDevice function ret s = ⟨[.halCall function (some d)], s, some ret⟩ := by
  simp only [callDevice, get_bind, emit_bind, h, pure_apply]

theorem reply_callDevice_sound (function : HalFunction) (ret : Int) (s : FingerprintDaemonProxy) :
    (∀ o ∈ (reply (callDevice function ret) s).trace, o.Sound) ↔ s.mDevice ≠ none := by
  unfold reply
  cases h : s.mDevice with
  | none =>
    rw [bind_none (by rw [callDevice_none h]), callDevice_none h]
    simp
  | some d =>
    rw [bind_eq (callDevice_some h function ret) (emit_apply _ _)]
    simp

theorem reply_guarded_sound {refused : Prop} [Decidable refused] (function : HalFunction)
    (ret : Int) (s : FingerprintDaemonProxy) :
    (∀ o ∈ (reply (if refused then pure (-1) else callDevice function ret) s).trace, o.Sound) ↔
      (¬ refused → s.mDevice ≠ none) := by
  by_cases h : refused
  · simp [h, reply]
  · simp only [h, if_false, not_false_eq_true, true_imp_iff]
    exact reply_callDevice_sound function ret s

theorem closeHal_sound (err : Int) (s : FingerprintDaemonProxy) :
    ∃ out s' ret, closeHal err s = ⟨out, s', some ret⟩ ∧ ∀ o ∈ out, o.Sound := by
  unfold closeHal
  rw [get_bind]
  cases h : s.mDevice with
  | none => exact ⟨[], s, _, rfl, List.forall_mem_nil _⟩
  | some d =>
    have hsound : ∀ o ∈ [Output.halCall .close (some d)], o.Sound := by simp
    simp only
    rw [bind_of_eq (callDevice_some h .close err)]
    split_ifs
    all_goals exact ⟨_, _, _, rfl, hsound⟩

theorem tryModule_spec (outcome : OpenOutcome) (module : HalModule) (s : FingerprintDaemonProxy) :
    ∃ s', tryModule outcome module s = ⟨[], s', some (outcome.library module).opens⟩ ∧
      s'.mDevice = s.mDevice := by
  unfold tryModule HalLibrary.opens
  by_cases hget : (outcome.library module).getErr = 0
  · cases hnull : (outcome.library module).null with
    | true => exact ⟨s, by simp [hget], rfl⟩
    | false =>
      refine ⟨{ s with mModule := some module }, ?_, rfl⟩
      cases hopen : (outcome.library module).hasOpen with
      | false => simp [hget]
      | true =>
        by_cases herr : (outcome.library module).openErr = 0
        · simp [hget, herr]
        · simp [hget, herr]
  · exact ⟨s, by simp [hget], rfl⟩

theorem openModule_spec (outcome : OpenOutcome) (build : Build) (s : FingerprintDaemonProxy) :
    ∃ s', openModule outcome build s = ⟨[], s', some (outcome.opens build)⟩ ∧
      s'.mDevice = s.mDevice := by
  cases build with
  | byChip =>
    unfold openModule OpenOutcome.opens
    cases hchip : outcome.chip.module with
    | none => exact ⟨s, rfl, rfl⟩
    | some module => exact tryModule_spec outcome module s
  | dynamic checksOnstart =>
    simp only [openModule, OpenOutcome.opens]
    by_cases hskip : checksOnstart = true ∧ outcome.onstart = false
    · rw [if_pos hskip, if_pos hskip]
      exact tryModule_spec outcome .elan s
    · rw [if_neg hskip, if_neg hskip]
      obtain ⟨s₁, hgoodix, hdev₁⟩ := tryModule_spec outcome .goodix s
      rw [bind_of_silent hgoodix]
      cases hopens : (outcome.library .goodix).opens with
      | some device => exact ⟨s₁, rfl, hdev₁⟩
      | none =>
        obtain ⟨s₂, helan, hdev₂⟩ := tryModule_spec outcome .elan s₁
        exact ⟨s₂, helan, hdev₂.trans hdev₁⟩

theorem openHal_none (hopens : outcome.opens build = none) (s : FingerprintDaemonProxy) :
    ∃ s', openHal build outcome s = ⟨[], s', some 0⟩ ∧ s'.mDevice = s.mDevice := by
  obtain ⟨s', hmodule, hdev⟩ := openModule_spec outcome build s
  refine ⟨s', ?_, hdev⟩
  rw [openHal, bind_of_silent hmodule, hopens]
  rfl

theorem openHal_null (hopens : outcome.opens build = some none) (s : FingerprintDaemonProxy) :
    ∃ s', openHal build outcome s = ⟨[.halCall .setNotify none], s', none⟩ := by
  obtain ⟨s', hmodule, -⟩ := openModule_spec outcome build s
  refine ⟨{ s' with mDevice := none }, ?_⟩
  rw [openHal, bind_of_silent hmodule, hopens]
  rfl

theorem openHal_device (hopens : outcome.opens build = some (some d)) (s : FingerprintDaemonProxy) :
    ∃ s', openHal build outcome s = ⟨[.halCall .setNotify (some d)], s',
        some (if outcome.setNotify < 0 then 0 else (d.handle : Int))⟩ ∧ s'.mDevice = some d := by
  obtain ⟨s', hmodule, -⟩ := openModule_spec outcome build s
  refine ⟨{ s' with mDevice := some d }, ?_, rfl⟩
  rw [openHal, bind_of_silent hmodule, hopens]
  simp only [modify_bind]
  rw [bind_of_eq (callDevice_some rfl .setNotify outcome.setNotify)]
  split_ifs <;> rfl

theorem openHal_sound (build : Build) (outcome : OpenOutcome) (s : FingerprintDaemonProxy) :
    (∀ o ∈ (onTransact build true (.openHal outcome) s).trace, o.Sound) ↔
      outcome.Clean build s.mDevice := by
  have hcall : onTransact build true (.openHal outcome) s = ((do
      let ret ← openHal build outcome
      emit (.opened ret (← Act.get).mDevice)) : Daemon Unit) s := rfl
  rw [hcall]
  unfold OpenOutcome.Clean
  cases hopens : outcome.opens build with
  | none =>
    obtain ⟨s', hopen, hdev⟩ := openHal_none hopens s
    rw [bind_of_silent hopen]
    simp [hdev]
  | some device =>
    cases device with
    | none =>
      obtain ⟨s', hopen⟩ := openHal_null hopens s
      rw [bind_none (by rw [hopen]), hopen]
      simp
    | some d =>
      obtain ⟨s', hopen, hdev⟩ := openHal_device hopens s
      have hhandle := d.handle_pos
      rw [bind_of_eq hopen]
      simp only [get_bind, emit_apply, hdev, List.singleton_append, List.forall_mem_cons,
        Output.sound_halCall, Output.sound_opened]
      by_cases hnotify : outcome.setNotify < 0
      · simp [hnotify]
      · simp [hnotify]
        omega

theorem onTransact_sound (build : Build) {transaction : Transaction}
    (h : ∀ outcome, transaction ≠ .openHal outcome) (s : FingerprintDaemonProxy) :
    (∀ o ∈ (onTransact build true transaction s).trace, o.Sound) ↔
      (transaction.callsDevice = true → s.mDevice ≠ none) := by
  cases transaction with
  | openHal outcome => exact absurd rfl (h outcome)
  | enroll tokenSize ret =>
    refine (reply_guarded_sound .enroll ret s).trans ?_
    simp [Transaction.callsDevice]
  | remove fingerId ret =>
    refine (reply_guarded_sound .remove ret s).trans ?_
    simp [Transaction.callsDevice]
  | setActiveGroup pathSize ret =>
    refine (reply_guarded_sound .setActiveGroup ret s).trans ?_
    simp [Transaction.callsDevice]
  | closeHal err =>
    obtain ⟨out, s', ret, hclose, hsound⟩ := closeHal_sound err s
    have hreply : onTransact build true (.closeHal err) s = reply (closeHal err) s := rfl
    rw [hreply, reply, bind_eq hclose (emit_apply _ _), List.forall_mem_append]
    simpa [Transaction.callsDevice] using hsound
  | init callback =>
    cases callback <;> simp [onTransact, init, Transaction.callsDevice]
  | setMsg chip =>
    cases chip <;> simp [onTransact, Transaction.callsDevice, Chip.module]
  | get => simp [onTransact, Transaction.callsDevice]
  | _ =>
    refine (reply_callDevice_sound _ _ s).trans ?_
    simp [Transaction.callsDevice]

theorem onTransact_denied (build : Build) (transaction : Transaction) (s : FingerprintDaemonProxy) :
    ∀ o ∈ (onTransact build false transaction s).trace, o.Sound := by
  cases transaction with
  | setMsg chip =>
    cases chip <;> simp [onTransact, Transaction.checksPermission, Chip.module]
  | get => simp [onTransact, Transaction.checksPermission]
  | _ => simp [onTransact, Transaction.checksPermission]

theorem step_sound_iff (build : Build) (s : FingerprintDaemonProxy) (e : Event) :
    (∀ o ∈ (step build s e).1, o.Sound) ↔ Ready build s e := by
  unfold step
  cases hdead : s.dead with
  | true => cases e <;> simp [Ready, hdead]
  | false =>
    simp only [Bool.false_eq_true, if_false]
    cases e with
    | binderDied who err =>
      obtain ⟨out, s', ret, hclose, hsound⟩ := closeHal_sound err s
      have hdied : handle build (.binderDied who err) s = binderDied who err s := rfl
      rw [hdied, binderDied, bind_eq hclose (modify_apply _ _)]
      simpa [Ready] using hsound
    | transact permitted transaction =>
      simp only [handle, Ready, hdead, true_imp_iff]
      cases permitted with
      | false => simpa using onTransact_denied build transaction s
      | true =>
        by_cases hopen : ∃ outcome, transaction = .openHal outcome
        · obtain ⟨outcome, rfl⟩ := hopen
          rw [openHal_sound]
          simp [Transaction.callsDevice]
        · have hother : ∀ outcome, transaction ≠ .openHal outcome := by simpa using hopen
          rw [onTransact_sound build hother]
          simp [hother]

end

/-- Sound exactly if operations are ready. -/
theorem daemon_sound_iff (build : Build) (events : List Event) :
    (∀ o ∈ (run (step build) .new events).1, o.Sound) ↔
      Meets (step build) (Ready build) .new events :=
  forall_run_iff_meets (step_sound_iff build) .new events

def chiponeOutcome (openErr : Int) (device : Option Device) (setNotify : Int) : OpenOutcome :=
  ⟨.chipone, false, fun _ => ⟨0, false, true, openErr, device⟩, setNotify⟩

def unopened : List Event := [.transact true (.preEnroll 0)]

def unnotified : List Event :=
  [.transact true (.openHal (chiponeOutcome 0 (some ⟨1, by decide⟩) (-1)))]

def reopened : List Event :=
  [.transact true (.openHal (chiponeOutcome 0 (some ⟨1, by decide⟩) 0)),
    .transact true (.openHal (chiponeOutcome (-1) none 0))]

def openedNull : List Event := [.transact true (.openHal (chiponeOutcome 0 none 0))]

theorem daemon_not_sound : (run (step .byChip) .new unopened).1 = [.halCall .preEnroll none] ∧
    (run (step .byChip) .new unnotified).1 =
      [.halCall .setNotify (some ⟨1, by decide⟩), .opened 0 (some ⟨1, by decide⟩)] ∧
    (run (step .byChip) .new reopened).1 =
      [.halCall .setNotify (some ⟨1, by decide⟩), .opened 1 (some ⟨1, by decide⟩),
        .opened 0 (some ⟨1, by decide⟩)] ∧
    (run (step .byChip) .new openedNull).1 = [.halCall .setNotify none] ∧
    ∀ events ∈ [unopened, unnotified, reopened, openedNull],
      ¬ ∀ o ∈ (run (step .byChip) .new events).1, o.Sound := by
  decide

end FingerprintDaemonProxy

end WikoPlatform.Fingerprintd
