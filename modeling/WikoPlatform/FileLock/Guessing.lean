import WikoPlatform.FileLock.Listening
import WikoPlatform.Fingerprint.Rejections

/-! The file-lock screen and the fingerprint service together: the screen answers a lockout by
asking for a reset. -/

namespace WikoPlatform.FileLock

open Runs
open Fingerprint (System Event Output Callback World Caller Runnable Posted errorLockout
  maxFailedAttempts LocksAlone)
open Listening (ApeCustomFpManager Request)

/-- Callbacks of the service, messages to the screen, and the runnables of `ApeCustomFpManager`. -/
inductive Task where
  | callback (callback : Callback)
  | message (msg : CheckMessage)
  | manager (runnable : Listening.Runnable)
  deriving DecidableEq

/-- `credential` is asked for by a caller that has accepted one and `caller` by one that has not,
`screen` by the file-lock screen and `keyguardHidden` by the service; `broadcast` is not the
alarm's. -/
inductive Clearing where
  | matchingFinger
  | credential
  | alarm
  | screen
  | caller
  | keyguardHidden
  | broadcast
  deriving DecidableEq

/-- The clearing comes with a proof, or after the time. -/
def Clearing.legitimate : Clearing → Bool
  | .matchingFinger | .credential | .alarm => true
  | .screen | .caller | .keyguardHidden | .broadcast => false

inductive GuessOutput where
  | service (o : Output)
  | cleared (clearing : Clearing)
  | screen (o : CheckOutput)
  deriving DecidableEq

/-- The process of the screen: its tokens and receivers are one binder object. -/
structure App where
  pid : Nat
  binder : Nat
  userId : Int

def App.caller (app : App) : Caller := ⟨1000, app.pid, true, true, true⟩

structure Around where
  device : Device
  flPassword : Option FlPassword
  fingerprintDisabled : Bool
  world : World

structure Guessing where
  check : EncryptCheckActivity
  manager : ApeCustomFpManager
  tasks : List Task
  system : System
  /-- Who has asked for the resets in the queue of the service. -/
  askers : List Clearing
  crashed : Bool

/-- An event of the screen is one that no fingerprint message makes. At `credential` another caller
has accepted a PIN or a pattern, and asks for the reset with its token. -/
inductive GuessEvent where
  | screen (around : Around) (event : CheckEvent)
  | task (around : Around)
  | service (event : Event)
  | credential (world : World) (caller : Caller)

def CheckEvent.fromManager : CheckEvent → Bool
  | .handleMessage (.verifySuccess _) | .handleMessage .verifyFailed
  | .handleMessage .systemError | .handleMessage .verifyErrorLockout => true
  | _ => false

def App.callback (app : App) : Output → Option Task
  | .callback _ receiver _ callback delivered _ =>
    if receiver = app.binder ∧ delivered then some (.callback callback) else none
  | _ => none

def Clearing.asks (asker : Clearing) (o : Output) : Option Clearing :=
  if o = .post .resetFailedAttempts then some asker else none

def GuessOutput.of (clearing : Clearing) : Output → GuessOutput
  | .lockoutReset => .cleared clearing
  | o => .service o

namespace Guessing

def start (around : Around) (reqKey : Int) (system : System) : Guessing where
  check := .onCreate around.device around.flPassword reqKey
  manager := .start
  tasks := []
  system
  askers := []
  crashed := false

def resetting (x : Guessing) : Event → Bool
  | .looper _ => !x.system.crashed &&
      x.system.queue.head?.any (·.runnable = .resetFailedAttempts)
  | _ => false

/-- A runnable other than the reset clears the count for a match. -/
def clearing (x : Guessing) (event : Event) : Clearing :=
  if x.resetting event then x.askers.headD .screen
  else
    match event with
    | .looper _ => .matchingFinger
    | .lockoutBroadcast => .alarm
    | _ => .broadcast

def serve (app : App) (asker : Clearing) (x : Guessing) (event : Event) :
    List GuessOutput × Guessing :=
  let next := x.system.step event
  (next.1.map (.of (x.clearing event)),
    { x with
      tasks := x.tasks ++ next.1.filterMap app.callback
      system := next.2
      askers := (if x.resetting event then x.askers.tail else x.askers) ++
        next.1.filterMap asker.asks })

/-- Callers pass a null token without any credential. -/
def asker : Event → Clearing
  | .binder .. => .caller
  | _ => .keyguardHidden

def post (x : Guessing) (tasks : List Task) : Guessing := { x with tasks := x.tasks ++ tasks }

def verifyStart (app : App) (around : Around) (x : Guessing) : Guessing :=
  let enrolled := decide (0 < (Fingerprint.enrolledFingerprints x.system.service app.userId).length)
  x.post ((ApeCustomFpManager.verifyStart enrolled (!around.fingerprintDisabled) tagPrivateFmgr
    app.userId).map .manager)

def cancelOperation (x : Guessing) (tag : Int) : Guessing :=
  x.post ((ApeCustomFpManager.cancelOperation true tag).map .manager)

def obey (app : App) (around : Around) (x : Guessing) (o : CheckOutput) :
    List GuessOutput × Guessing :=
  match o with
  | .verifyStart => ([.screen o], x.verifyStart app around)
  | .cancelOperation => ([.screen o], x.cancelOperation tagPrivateFmgr)
  | .resetTimeout =>
    let next := x.serve app .screen (.binder around.world app.caller .resetTimeout)
    (.screen o :: next.1, next.2)
  | .nullPointer => ([.screen o], { x with crashed := true })
  | .checked .. | .verified .. | .startForgetPassword | .result .. => ([.screen o], x)

section

variable (md5 : String → String)

def handle (app : App) (around : Around) (x : Guessing) (event : CheckEvent) :
    List GuessOutput × Guessing :=
  let next := x.check.handle md5 around.device around.flPassword event
  run (obey app around) { x with check := next.2 } next.1

/-- A match with the screen off is not for the file-lock screen. -/
def heard (around : Around) (x : Guessing) : Callback → Guessing
  | .onAuthenticationSucceeded (some (_, fingerId)) _ =>
    (x.post (if around.device.screenOn then [.message (.verifySuccess fingerId)] else
      [])).cancelOperation tagVerifySuccess
  | .onAuthenticationSucceeded none _ => { x with crashed := true }
  | .onAuthenticationFailed => x.post [.message .verifyFailed]
  | .onError error =>
    x.post [.message (if error = errorLockout then .verifyErrorLockout else .systemError)]
  | .onAcquired _ | .onEnrollResult .. | .onRemoved .. => x

/-- Every call of `authenticate` is made with the one token. -/
def ask (app : App) (around : Around) (x : Guessing) : Option Request → List GuessOutput × Guessing
  | some (.authenticate _ userId) =>
    x.serve app .screen (.binder around.world app.caller
      (.authenticate (some app.binder) 0 userId (some app.binder) "com.android.settings"))
  | some (.cancel _) =>
    x.serve app .screen (.binder around.world app.caller
      (.cancelAuthentication (some app.binder) "com.android.settings"))
  | none => ([], x)

def perform (app : App) (around : Around) (x : Guessing) : Task → List GuessOutput × Guessing
  | .callback callback => ([], x.heard around callback)
  | .message msg => x.handle md5 app around (.handleMessage msg)
  | .manager runnable =>
    let next := x.manager.perform around.device.locked runnable
    { x with manager := next.2 }.ask app around next.1

def step (app : App) (x : Guessing) : GuessEvent → List GuessOutput × Guessing
  | .screen around event =>
    if x.crashed || event.fromManager then ([], x) else x.handle md5 app around event
  | .task around =>
    match x.crashed, x.tasks with
    | false, task :: tasks => { x with tasks }.perform md5 app around task
    | _, _ => ([], x)
  | .service event => x.serve app (asker event) event
  | .credential world caller => x.serve app .credential (.binder world caller .resetTimeout)

end

end Guessing

def GuessOutput.rejects : GuessOutput → Bool
  | .service o => o.rejects
  | .cleared _ | .screen _ => false

def GuessOutput.legitimate : GuessOutput → Bool
  | .cleared clearing => clearing.legitimate
  | .screen (.checked _ (some _)) => true
  | .service _ | .screen _ => false

/-- No stretch without a legitimate clearing has too many rejects. -/
def GuessesBounded (trace : List GuessOutput) : Prop :=
  ∀ before stretch after, trace = before ++ stretch ++ after →
    (∀ o ∈ stretch, o.legitimate = false) → stretch.countP GuessOutput.rejects ≤ maxFailedAttempts

/-- No lockout message reaches the screen, no reset comes without a proof, and no mismatch locks the
sensor while an authentication waits. -/
def Guarded (x : Guessing) : GuessEvent → Prop
  | .screen _ _ | .credential _ _ => True
  | .task _ => x.tasks.head? = some (.message .verifyErrorLockout) → x.check.stopFlag = true
  | .service event => event.isPermitted = false ∧ LocksAlone x.system event ∧
      .post .resetFailedAttempts ∉ (x.system.step event).1

instance (x : Guessing) : DecidablePred (Guarded x)
  | .screen _ _ | .credential _ _ => .isTrue trivial
  | .task _ => inferInstanceAs (Decidable (_ → _))
  | .service _ => inferInstanceAs (Decidable (_ ∧ _ ∧ _))

def GuessOutput.output : GuessOutput → Option Output
  | .service o => some o
  | .cleared _ => some .lockoutReset
  | .screen _ => none

theorem filterMap_output_of (clearing : Clearing) (out : List Output) :
    (out.map (GuessOutput.of clearing)).filterMap GuessOutput.output = out := by
  induction out with
  | nil => rfl
  | cons o out ih =>
    have ho : (GuessOutput.of clearing o).output = some o := by cases o <;> rfl
    rw [List.map_cons, List.filterMap_cons, ho, ih]

def resetsQueued (queue : List Posted) : Nat :=
  queue.countP (·.runnable = .resetFailedAttempts)

section

variable {y : System}

theorem resetsQueued_obey (unprivileged : Bool) (y : System) (o : Output) :
    resetsQueued (y.obey unprivileged o).queue =
      resetsQueued y.queue + if o = .post .resetFailedAttempts then 1 else 0 := by
  cases o with
  | post runnable => simp [System.obey, resetsQueued, List.countP_append, List.countP_cons]
  | disarmReset =>
    simp only [System.obey, resetsQueued, List.countP_filter]
    refine (List.countP_congr fun posted _ => ?_).trans (Nat.add_zero _).symm
    cases posted.runnable <;> simp [Runnable.isResetClientState]
  | _ => simp [System.obey]

theorem resetsQueued_foldl (unprivileged : Bool) (out : List Output) (y : System) :
    resetsQueued (out.foldl (System.obey unprivileged) y).queue =
      resetsQueued y.queue + out.countP (· = .post .resetFailedAttempts) := by
  induction out generalizing y with
  | nil => simp
  | cons o out ih =>
    rw [List.foldl_cons, ih, resetsQueued_obey, List.countP_cons]
    simp only [decide_eq_true_eq]
    omega

theorem resetsQueued_perform (y : System) (unprivileged unowned : Bool)
    (handler : Fingerprint.Handler Unit) :
    resetsQueued (y.perform unprivileged unowned handler).2.queue = resetsQueued y.queue +
      (y.perform unprivileged unowned handler).1.countP (· = .post .resetFailedAttempts) := by
  have hdrop : (Fingerprint.droppedClient y.service (handler y.service).state unowned).countP
      (· = .post .resetFailedAttempts) = 0 :=
    List.countP_eq_zero.mpr (Fingerprint.forall_mem_droppedClient (by simp))
  rw [System.perform, List.countP_append, hdrop]
  exact resetsQueued_foldl ..

end

theorem resetsQueued_pos {x : Guessing} {event : Event} (h : x.resetting event = true) :
    0 < resetsQueued x.system.queue := by
  cases event with
  | looper w =>
    simp only [Guessing.resetting, Bool.and_eq_true] at h
    cases hqueue : x.system.queue with
    | nil => simp [hqueue] at h
    | cons posted queue =>
      have hhead : posted.runnable = .resetFailedAttempts := by simpa [hqueue] using h.2
      simp [resetsQueued, hhead]
  | _ => cases h

theorem resetsQueued_step (x : Guessing) (event : Event) :
    resetsQueued (x.system.step event).2.queue + (if x.resetting event then 1 else 0) =
      resetsQueued x.system.queue +
        (x.system.step event).1.countP (· = .post .resetFailedAttempts) := by
  cases hcrash : x.system.crashed with
  | true =>
    have hresetting : x.resetting event = false := by
      cases event <;> simp [Guessing.resetting, hcrash]
    simp [System.step, hcrash, hresetting]
  | false =>
    simp only [System.step, hcrash, Bool.false_eq_true, if_false]
    cases event with
    | looper w =>
      cases hqueue : x.system.queue with
      | nil => simp [System.react, Guessing.resetting, hqueue]
      | cons posted queue =>
        simp only [System.react, hqueue, resetsQueued_perform, Guessing.resetting, hcrash]
        simp only [resetsQueued, List.countP_cons, List.head?_cons, Option.any_some, Bool.not_false,
          Bool.true_and]
        omega
    | resetDue =>
      cases htimer : x.system.timer with
      | none => simp [System.react, htimer, Guessing.resetting]
      | some client => simp [System.react, htimer, Guessing.resetting, resetsQueued]
    | alarmFires =>
      simp only [System.react]
      split <;> simp [Guessing.resetting]
    | lockoutBroadcast =>
      cases hbroadcasts : x.system.broadcasts with
      | zero => simp [System.react, hbroadcasts, Guessing.resetting]
      | succ n => simp [System.react, hbroadcasts, Guessing.resetting, resetsQueued_perform]
    | _ => simp [System.react, Guessing.resetting, resetsQueued_perform]

/-- Every clearing so far was legitimate, and so will be those that are asked for. -/
structure GuessInvariant (trace : List GuessOutput) (x : Guessing) : Prop where
  service : Fingerprint.RejectionInvariant (trace.filterMap GuessOutput.output) x.system
  cleared : ∀ clearing, .cleared clearing ∈ trace → clearing.legitimate = true
  named : .service .lockoutReset ∉ trace
  askers : ∀ asker ∈ x.askers, asker = .credential
  queued : resetsQueued x.system.queue = x.askers.length

namespace EncryptCheckActivity

theorem resetTimeout_mem_handle {md5 : String → String} {device : Device}
    {flPassword : Option FlPassword} {s : EncryptCheckActivity} {event : CheckEvent}
    (h : .resetTimeout ∈ (s.handle md5 device flPassword event).1) :
    event = .handleMessage .verifyErrorLockout ∧ s.stopFlag = false := by
  cases event with
  | handleMessage msg =>
    cases msg with
    | verifyErrorLockout =>
      refine ⟨rfl, Bool.eq_false_iff.mpr fun hpause => ?_⟩
      simp [handle, handleMessage, hpause] at h
    | pass | fingerprintDelayVerifyStart | verifySuccess =>
      simp only [handle, handleMessage, check, EncryptCheckActivity.fingerprintDelayVerifyStart,
        EncryptCheckActivity.verifySuccess, verifyStart, crash, finish] at h
      (repeat' split at h) <;> simp at h
    | verifyFailed | systemError => simp [handle, handleMessage] at h
  | onClick | onPatternDetected | onPause | onBackPressed =>
    simp only [handle, EncryptCheckActivity.onClick, checkBuffer,
      EncryptCheckActivity.onPatternDetected, EncryptCheckActivity.onPause, cancel, finish] at h
    (repeat' split at h) <;> simp at h
  | onResume | onStop | actionForgetPassword => simp [handle] at h

end EncryptCheckActivity

section

variable {trace : List GuessOutput} {x : Guessing} {app : App} {event : Event}
  {md5 : String → String}

section

variable (around : Around) (h : GuessInvariant trace x)
include h

theorem GuessInvariant.same {x' : Guessing} (hsystem : x'.system = x.system)
    (haskers : x'.askers = x.askers) : GuessInvariant trace x' where
  service := hsystem ▸ h.service
  cleared := h.cleared
  named := h.named
  askers := haskers ▸ h.askers
  queued := by rw [hsystem, haskers, h.queued]

theorem GuessInvariant.screen (o : CheckOutput) : GuessInvariant (trace ++ [.screen o]) x where
  service := by
    rw [List.filterMap_append, List.filterMap_cons_none rfl, List.filterMap_nil, List.append_nil]
    exact h.service
  cleared := by simpa using h.cleared
  named := by simpa using h.named
  askers := h.askers
  queued := h.queued

theorem clearing_legitimate (hperm : event.isPermitted = false)
    (hreset : .lockoutReset ∈ (x.system.step event).1) : (x.clearing event).legitimate = true := by
  unfold Guessing.clearing
  split_ifs with hresetting
  · -- the one who has asked stands first
    have hpos : 0 < x.askers.length := h.queued ▸ resetsQueued_pos hresetting
    cases haskers : x.askers with
    | nil => simp [haskers] at hpos
    | cons asker askers =>
      rw [h.askers asker (haskers ▸ List.mem_cons_self)]
      rfl
  · split
    · rfl
    · rfl
    · next hlooper halarm =>
      exact absurd hreset (Fingerprint.lockoutReset_not_mem_step (fun w heq => hlooper w heq)
        (fun heq => halarm heq) hperm)

theorem guessInvariant_serve {asker : Clearing} (hperm : event.isPermitted = false)
    (halone : LocksAlone x.system event)
    (hasker : asker = .credential ∨ .post .resetFailedAttempts ∉ (x.system.step event).1) :
    After GuessInvariant trace (x.serve app asker event) := by
  have hasks : ∀ c ∈ (x.system.step event).1.filterMap asker.asks, c = asker ∧
      .post .resetFailedAttempts ∈ (x.system.step event).1 := by
    intro c hc
    obtain ⟨o, ho, hasks⟩ := List.mem_filterMap.mp hc
    unfold Clearing.asks at hasks
    split_ifs at hasks with hpost
    exact ⟨(Option.some.inj hasks).symm, hpost ▸ ho⟩
  refine ⟨?_, ?_, ?_, ?_, ?_⟩
  · rw [List.filterMap_append, Guessing.serve, filterMap_output_of]
    exact Fingerprint.rejectionInvariant_step _ _ _ h.service halone
  · intro clearing hclearing
    rcases List.mem_append.mp hclearing with hold | hnew
    · exact h.cleared clearing hold
    · obtain ⟨o, ho, heq⟩ := List.mem_map.mp hnew
      cases o <;> cases heq
      exact clearing_legitimate h hperm ho
  · rw [List.mem_append, not_or]
    refine ⟨h.named, fun hnew => ?_⟩
    obtain ⟨o, -, heq⟩ := List.mem_map.mp hnew
    cases o <;> cases heq
  · intro c hc
    rcases List.mem_append.mp hc with hold | hnew
    · refine h.askers c ?_
      split_ifs at hold
      · exact List.mem_of_mem_tail hold
      · exact hold
    · obtain ⟨rfl, hpost⟩ := hasks c hnew
      exact hasker.resolve_right (not_not_intro hpost)
  · have hstep := resetsQueued_step x event
    have hnew : ((x.system.step event).1.filterMap asker.asks).length =
        (x.system.step event).1.countP (· = .post .resetFailedAttempts) := by
      rw [List.length_filterMap_eq_countP]
      refine List.countP_congr fun o _ => ?_
      simp [Clearing.asks]
    rw [h.queued] at hstep
    simp only [Guessing.serve, List.length_append]
    split_ifs at hstep ⊢ with hresetting
    · have hpos : 0 < x.askers.length := h.queued ▸ resetsQueued_pos hresetting
      rw [List.length_tail]
      omega
    · omega

theorem guessInvariant_obey {o : CheckOutput} (ho : o ≠ .resetTimeout) :
    After GuessInvariant trace (x.obey app around o) := by
  cases o with
  | resetTimeout => exact absurd rfl ho
  | verifyStart | cancelOperation | nullPointer => exact (h.screen _).same rfl rfl
  | checked | verified | startForgetPassword | result => exact h.screen _

theorem guessInvariant_obeyAll {out : List CheckOutput} (hout : .resetTimeout ∉ out) :
    After GuessInvariant trace (run (Guessing.obey app around) x out) := by
  refine run_invariant (fun _ _ _ h ho => guessInvariant_obey around h ho) h
    (meets_iff_forall.mpr ?_)
  rintro before _ after rfl rfl
  exact hout (by simp)

theorem guessInvariant_handle {event : CheckEvent}
    (hevent : event = .handleMessage .verifyErrorLockout → x.check.stopFlag = true) :
    After GuessInvariant trace (x.handle md5 app around event) := by
  have hout : .resetTimeout ∉ (x.check.handle md5 around.device around.flPassword event).1 := by
    intro hreset
    obtain ⟨hlock, hresumed⟩ := EncryptCheckActivity.resetTimeout_mem_handle hreset
    rw [hevent hlock] at hresumed
    cases hresumed
  refine guessInvariant_obeyAll around ?_ hout
  exact h.same rfl rfl

theorem guessInvariant_call (w : World) {call : Fingerprint.BinderCall}
    (hcall : ∀ s, ∃ runnable, Fingerprint.binderCall w app.caller call s =
      ⟨[.post runnable], s, some ()⟩ ∧ runnable ≠ .resetFailedAttempts) :
    After GuessInvariant trace (x.serve app .screen (.binder w app.caller call)) := by
  obtain ⟨runnable, heq, hrun⟩ := hcall x.system.service
  refine guessInvariant_serve h rfl (by rintro ⟨⟩) (.inr ?_)
  unfold System.step
  split_ifs
  · exact List.not_mem_nil
  · rw [System.react, System.perform, heq, Fingerprint.droppedClient_eq_nil _ rfl]
    simpa using Ne.symm hrun

theorem guessInvariant_perform {task : Task}
    (htask : task = .message .verifyErrorLockout → x.check.stopFlag = true) :
    After GuessInvariant trace (x.perform md5 app around task) := by
  cases task with
  | callback callback =>
    have hsame : (x.heard around callback).system = x.system ∧
        (x.heard around callback).askers = x.askers := by
      unfold Guessing.heard
      split <;> exact ⟨rfl, rfl⟩
    exact .nil (h.same hsame.1 hsame.2)
  | message msg =>
    exact guessInvariant_handle around h fun heq => htask (by cases heq; rfl)
  | manager runnable =>
    simp only [Guessing.perform]
    have hkept : ∀ manager, GuessInvariant trace { x with manager } := fun _ => h.same rfl rfl
    rcases (x.manager.perform around.device.locked runnable).1 with _ | _ | _
    · exact .nil (hkept _)
    · exact guessInvariant_call (hkept _) around.world fun _ => ⟨_, rfl, by simp⟩
    · exact guessInvariant_call (hkept _) around.world fun _ => ⟨_, rfl, by simp⟩

end

theorem guessInvariant_step (trace : List GuessOutput) (x : Guessing) (event : GuessEvent)
    (h : GuessInvariant trace x) (hguard : Guarded x event) :
    After GuessInvariant trace (x.step md5 app event) := by
  cases event with
  | screen around event =>
    simp only [Guessing.step]
    split_ifs with hskip
    · exact .nil h
    · refine guessInvariant_handle around h ?_
      rintro rfl
      simp [CheckEvent.fromManager] at hskip
  | task around =>
    simp only [Guessing.step]
    split
    · next task tasks hcrash htasks =>
      refine guessInvariant_perform around ?_ fun heq => ?_
      · exact h.same rfl rfl
      · exact hguard (by rw [htasks, heq]; rfl)
    · exact .nil h
  | service event =>
    obtain ⟨hperm, halone, hasks⟩ := hguard
    exact guessInvariant_serve h hperm halone (.inr hasks)
  | credential world caller => exact guessInvariant_serve h rfl (by rintro ⟨⟩) (.inl rfl)

end

/-- Guarded runs have few rejects between legitimate clearings. -/
theorem guessing_bounded (md5 : String → String) (app : App) (around : Around) (reqKey : Int)
    (daemon : Bool) (halDeviceId currentUserId : Int) (fingerprints : List (Int × Int))
    (events : List GuessEvent) (hguard : Meets (Guessing.step md5 app) Guarded
      (.start around reqKey (.start daemon halDeviceId currentUserId fingerprints)) events) :
    GuessesBounded (run (Guessing.step md5 app)
      (.start around reqKey (.start daemon halDeviceId currentUserId fingerprints)) events).1 := by
  have hstart : GuessInvariant []
      (.start around reqKey (.start daemon halDeviceId currentUserId fingerprints)) :=
    ⟨Fingerprint.rejectionInvariant_start .., by simp, by simp, by simp [Guessing.start], rfl⟩
  have hend := run_invariant guessInvariant_step hstart hguard
  rw [List.nil_append] at hend
  intro before stretch after htrace hstretch
  have hbound := hend.service.bounded
  rw [htrace, List.filterMap_append, List.filterMap_append] at hbound
  have huncleared : ∀ o ∈ stretch.filterMap GuessOutput.output, o.resets = false := by
    intro o ho
    obtain ⟨g, hg, hout⟩ := List.mem_filterMap.mp ho
    cases g with
    | service o' =>
      obtain rfl := Option.some.inj hout
      by_contra hresets
      have hreset : o' = .lockoutReset := by
        cases o' <;> first | rfl | exact absurd rfl hresets
      exact hend.named (htrace ▸ by simp [← hreset, hg])
    | cleared clearing =>
      have hlegit := hend.cleared clearing (htrace ▸ by simp [hg])
      have hnot : clearing.legitimate = false := hstretch _ hg
      rw [hlegit] at hnot
      cases hnot
    | screen => cases hout
  have hle := hbound.countP_le huncleared
  rw [List.countP_filterMap] at hle
  have hsame : stretch.countP GuessOutput.rejects =
      stretch.countP fun o => (o.output.map Output.rejects).getD false := by
    refine List.countP_congr fun o _ => ?_
    cases o <;> rfl
  rw [hsame]
  exact hle

def settingsApp : App := ⟨1, 1, 0⟩

def unlockedDevice : Around where
  device := ⟨⟨false, false, true⟩, some [⟨7, .empty, .empty, 1⟩]⟩
  flPassword := none
  fingerprintDisabled := false
  world := Fingerprint.plainWorld

def wrongFingers (n : Nat) : List GuessEvent :=
  (Fingerprint.mismatchEvents n).map .service

def lockingEvents : List GuessEvent :=
  [.screen unlockedDevice .onResume,
    .screen unlockedDevice (.handleMessage .fingerprintDelayVerifyStart), .task unlockedDevice,
    .service (.looper Fingerprint.plainWorld)] ++ wrongFingers 5

def pausedEvents : List GuessEvent :=
  lockingEvents ++
  [.screen unlockedDevice .onPause] ++ List.replicate 13 (.task unlockedDevice) ++
  [.service .alarmFires, .service .lockoutBroadcast,
    .credential Fingerprint.plainWorld settingsApp.caller]

theorem guessing_bounded_paused : Meets (Guessing.step markHash settingsApp) Guarded
        (.start unlockedDevice 1 (.start true 1 0 [(0, 7)])) pausedEvents ∧
      GuessesBounded (run (Guessing.step markHash settingsApp)
        (.start unlockedDevice 1 (.start true 1 0 [(0, 7)])) pausedEvents).1 :=
  have hguard : Meets (Guessing.step markHash settingsApp) Guarded
      (.start unlockedDevice 1 (.start true 1 0 [(0, 7)])) pausedEvents := by
    decide +kernel
  ⟨hguard, guessing_bounded markHash settingsApp unlockedDevice 1 true 1 0 [(0, 7)] pausedEvents
    hguard⟩

def againEvents (event : Event) : List GuessEvent :=
  lockingEvents ++
  [.service event, .service (.looper Fingerprint.plainWorld),
    .service (.looper Fingerprint.plainWorld), .service (Fingerprint.authenticateEvent 2),
    .service (.looper Fingerprint.plainWorld)] ++ wrongFingers 1

def guessingEvents : List (List GuessEvent) :=
  [lockingEvents ++ List.replicate 14 (.task unlockedDevice) ++
      List.replicate 3 (.service (.looper Fingerprint.plainWorld)) ++ wrongFingers 1,
    againEvents (.binder Fingerprint.plainWorld settingsApp.caller .resetTimeout),
    againEvents (.binder Fingerprint.plainWorld settingsApp.caller (.notifyFpService 1)),
    againEvents .permittedBroadcast,
    (Fingerprint.lockedStartEvents ++ Fingerprint.mismatchEvents 1).map .service]

theorem guessing_not_bounded :
    ¬∃ events ∈ guessingEvents, GuessesBounded (run (Guessing.step markHash settingsApp)
      (.start unlockedDevice 1 (.start true 1 0 [(0, 7)])) events).1 := by
  rintro ⟨events, hmem, hbound⟩
  have hguesses : ∀ events ∈ guessingEvents,
      let trace := (run (Guessing.step markHash settingsApp)
        (.start unlockedDevice 1 (.start true 1 0 [(0, 7)])) events).1
      (∀ o ∈ trace, o.legitimate = false) ∧ trace.countP GuessOutput.rejects = 6 := by
    decide +kernel
  obtain ⟨hnone, hsix⟩ := hguesses events hmem
  have hle := hbound [] _ [] (by rw [List.nil_append, List.append_nil]) hnone
  rw [hsix] at hle
  revert hle
  decide

end WikoPlatform.FileLock
