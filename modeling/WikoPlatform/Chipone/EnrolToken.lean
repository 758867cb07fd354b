import WikoPlatform.Chipone.Handoff

/-! The token of an enrolment. `fpDameonImpl::enroll` copies it to `mhat` before it pauses the
worker, and leaves `mhat` as it is when there is none; `authorize_enrol` reads `mhat` when the
worker gets there. -/

namespace WikoPlatform.Chipone

open Runs

variable {Token : Type}

/-- The HAL with `mhat`, and the token of the call that holds the daemon mutex. -/
structure TokenHal (Token : Type) where
  hal : Hal
  mhat : Token
  hat : Option Token

/-- `hat` is looked at by `enroll` only. -/
inductive TokenEvent (Token : Type) where
  | enter (call : Call) (hat : Option Token)
  | client
  | worker (answer : Answer)

/-- The task of an `enroll` call with the token of the call, and an `authorize_enrol` of a task. -/
inductive TokenMark (Token : Type) where
  | submitted (op : Nat) (hat : Option Token)
  | authorized (op : Nat) (hat : Token)
  deriving DecidableEq

def Call.isEnroll : Call → Bool
  | .enroll .. => true
  | _ => false

namespace TokenHal

def enter (cfg : FpConfig) (x : TokenHal Token) (call : Call) (hat : Option Token) :
    TokenHal Token :=
  match x.hal.call with
  | some _ => x
  | none =>
    { hal := (x.hal.step cfg (.enter call)).2
      mhat := if call.isEnroll then hat.getD x.mhat else x.mhat
      hat }

def marks (x : TokenHal Token) : TokenEvent Token → List (TokenMark Token)
  | .enter .. => []
  | .client =>
    match x.hal.call with
    | some (.enroll .., .body) => [.submitted x.hal.nextOp x.hat]
    | _ => []
  | .worker _ =>
    match x.hal.worker with
    | .running op (.enroll t) => if t.point = .authorizeEnrol then [.authorized op x.mhat] else []
    | _ => []

def step (cfg : FpConfig) (x : TokenHal Token) (event : TokenEvent Token) :
    List (TokenMark Token) × TokenHal Token :=
  (x.marks event,
    match event with
    | .enter call hat => x.enter cfg call hat
    | .client => { x with hal := x.hal.clientStep.2 }
    | .worker answer => { x with hal := (x.hal.workerStep cfg answer).2 })

def start (mhat : Token) (resumed stop : Bool) (msessionId : Nat) (mgid mfid mtimeout : Int) :
    TokenHal Token where
  hal := .start resumed stop msessionId mgid mfid mtimeout
  mhat := mhat
  hat := none

end TokenHal

theorem tokenHal_step_hal (cfg : FpConfig) (x : TokenHal Token) (event : TokenEvent Token) :
    ∃ moves, (x.step cfg event).2.hal = (run (Hal.step cfg) x.hal moves).2 := by
  cases event with
  | enter call hat =>
    simp only [TokenHal.step, TokenHal.enter]
    split
    · exact ⟨[], rfl⟩
    · exact ⟨[.enter call], rfl⟩
  | client => exact ⟨[.client], rfl⟩
  | worker answer => exact ⟨[.worker answer], rfl⟩

def Task.isUnauthorized : Task → Bool
  | .enroll t => t.point = .authorizeEnrol
  | _ => false

def unauthorizedWork : Option (Nat × TaskFunction) → List Nat
  | some (op, .enroll) => [op]
  | _ => []

def WorkerPoint.unauthorized : WorkerPoint → List Nat
  | .taken work => unauthorizedWork work
  | .running op task => if task.isUnauthorized then [op] else []
  | _ => []

def Hal.unauthorized (s : Hal) : List Nat :=
  unauthorizedWork s.threadWork ++ s.worker.unauthorized

/-- An enrolment that is authorised has the token of its own call, and its call had one. -/
structure OwnToken (trace : List (TokenMark Token)) : Prop where
  passed : ∀ op hat, .authorized op hat ∈ trace → .submitted op (some hat) ∈ trace
  only : ∀ op hat passed, .authorized op hat ∈ trace → .submitted op passed ∈ trace →
    passed = some hat

/-- `enroll` has a token, and overwrites none still needed. -/
def TokenHal.Spares (x : TokenHal Token) : TokenEvent Token → Prop
  | .enter call hat =>
    x.hal.call = none → call.isEnroll = true →
      hat ≠ none ∧ (x.hal.unauthorized = [] ∨ hat = some x.mhat)
  | .client | .worker _ => True

instance [DecidableEq Token] (x : TokenHal Token) (event : TokenEvent Token) :
    Decidable (x.Spares event) := by
  unfold TokenHal.Spares
  split <;> infer_instance

/-- `mhat` holds the token of the task that is not authorised yet. -/
structure TokenInvariant (trace : List (TokenMark Token)) (x : TokenHal Token) : Prop where
  numbered : ∀ op hat, .submitted op hat ∈ trace → op < x.hal.nextOp
  unique : ∀ op hat hat', .submitted op hat ∈ trace → .submitted op hat' ∈ trace → hat = hat'
  calling : ∀ call point, x.hal.call = some (call, point) → call.isEnroll = true →
    x.hat = some x.mhat
  waiting : ∀ op ∈ x.hal.unauthorized, .submitted op (some x.mhat) ∈ trace
  passed : ∀ op hat, .authorized op hat ∈ trace → .submitted op (some hat) ∈ trace

section

variable {cfg : FpConfig} {s : Hal}

theorem EnrollTask.step_point (cfg : FpConfig) (t : EnrollTask) (stop : Bool) (answer : Answer) :
    (t.step cfg stop answer).2.point ≠ .authorizeEnrol := by
  unfold EnrollTask.step
  cases hpoint : t.point with
  | authorizeEnrol =>
    simp only [afterAuthorize]
    split
    · rintro ⟨⟩
    · split <;> rintro ⟨⟩
  | captured ret =>
    simp only [afterCapture]
    split
    · rintro ⟨⟩
    · split
      · rintro ⟨⟩
      · split <;> rintro ⟨⟩
  | duplicateCheck =>
    simp only [afterDuplicateCheck]
    split
    · rintro ⟨⟩
    · split
      · split <;> rintro ⟨⟩
      · rintro ⟨⟩
  | enrollImg =>
    simp only [afterEnrollImg]
    split
    · rintro ⟨⟩
    · split
      · split
        · rintro ⟨⟩
        · split <;> rintro ⟨⟩
      · rintro ⟨⟩
  | discard task | startEnroll | loop | enrollState | storeTemplate | stored =>
    simp only
    split <;> rintro ⟨⟩
  | returned => simp [hpoint]
  | unauthorized | captureImg | duplicate | unchanged | notifyEnrolling | notifyNoSpace | detail
  | failed | finishEnroll => rintro ⟨⟩

theorem Task.step_isUnauthorized (cfg : FpConfig) (task : Task) (stop : Bool) (answer : Answer) :
    (task.step cfg stop answer).2.isUnauthorized = false := by
  cases task with
  | enroll t => exact decide_eq_false (t.step_point cfg stop answer)
  | authenticate | remove | enumerate | fingerDetect => rfl

theorem Task.start_unauthorized (cfg : FpConfig) (s : Hal) (op : Nat) (function : TaskFunction) :
    (WorkerPoint.running op (.start cfg s function)).unauthorized =
      unauthorizedWork (some (op, function)) := by
  cases function <;> rfl

theorem awake_unauthorized (hworker : s.worker.unauthorized = []) :
    s.awake.unauthorized = s.unauthorized := by
  have hs : s.unauthorized = unauthorizedWork s.threadWork := by
    rw [Hal.unauthorized, hworker, List.append_nil]
  rw [hs]
  unfold Hal.awake
  split
  · rfl
  · exact List.append_nil _

theorem workerStep_unauthorized (cfg : FpConfig) (s : Hal) (answer : Answer) :
    ∀ op ∈ (s.workerStep cfg answer).2.unauthorized, op ∈ s.unauthorized := by
  intro op hop
  cases hworker : s.worker with
  | top =>
    simp only [Hal.workerStep, hworker] at hop
    rw [awake_unauthorized rfl] at hop
    simpa only [Hal.unauthorized, hworker] using hop
  | waiting =>
    simp only [Hal.workerStep, hworker] at hop
    rw [awake_unauthorized (by rw [hworker]; rfl)] at hop
    exact hop
  | taken work =>
    cases work with
    | none =>
      simp only [Hal.workerStep, hworker] at hop
      simpa [Hal.unauthorized, hworker, WorkerPoint.unauthorized, unauthorizedWork] using hop
    | some work =>
      simp only [Hal.workerStep, hworker, Hal.unauthorized, Task.start_unauthorized] at hop
      simpa only [Hal.unauthorized, hworker, WorkerPoint.unauthorized] using hop
  | running current task =>
    have hmem : op ∈ unauthorizedWork s.threadWork := by
      simp only [Hal.workerStep, hworker] at hop
      split at hop
      · simpa [Hal.unauthorized, WorkerPoint.unauthorized] using hop
      · simpa [Hal.unauthorized, WorkerPoint.unauthorized, Task.step_isUnauthorized] using hop
    exact List.mem_append_left _ hmem
  | finishing =>
    have hnone : (if s.requested = .resume ∧ s.hasDefaultWork then
        WorkerPoint.navigating else .top).unauthorized = [] := by split <;> rfl
    simp only [Hal.workerStep, hworker, Hal.unauthorized, hnone] at hop
    simpa [Hal.unauthorized, hworker, WorkerPoint.unauthorized] using hop
  | navigating =>
    have hnone : (if answer.ret = 0 then
        WorkerPoint.navigating else .top).unauthorized = [] := by split <;> rfl
    simp only [Hal.workerStep, hworker, Hal.unauthorized, hnone] at hop
    simpa [Hal.unauthorized, hworker, WorkerPoint.unauthorized] using hop

end

section

variable {cfg : FpConfig} {trace : List (TokenMark Token)} {x : TokenHal Token} {s : Hal}
  {call : Call}

section

variable (h : TokenInvariant trace x)
include h

theorem TokenInvariant.ownToken : OwnToken trace where
  passed := h.passed
  only op hat passed hauthorize hsubmit :=
    h.unique op passed (some hat) hsubmit (h.passed op hat hauthorize)

theorem TokenInvariant.hal (hnext : x.hal.nextOp ≤ s.nextOp)
    (hcall : ∀ call point, s.call = some (call, point) → ∃ point', x.hal.call = some (call, point'))
    (hunauth : ∀ op ∈ s.unauthorized, op ∈ x.hal.unauthorized) :
    TokenInvariant trace { x with hal := s } where
  numbered op hat hmem := Nat.lt_of_lt_of_le (h.numbered op hat hmem) hnext
  unique := h.unique
  calling call point hsome henroll := by
    obtain ⟨point', hbefore⟩ := hcall call point hsome
    exact h.calling call point' hbefore henroll
  waiting op hop := h.waiting op (hunauth op hop)
  passed := h.passed

theorem TokenInvariant.enter {hat : Option Token} (hspares : x.Spares (.enter call hat)) :
    TokenInvariant trace (x.enter cfg call hat) := by
  cases hcall : x.hal.call with
  | some current =>
    simp only [TokenHal.enter, hcall]
    exact h
  | none =>
    simp only [TokenHal.enter, hcall, Hal.step]
    cases henroll : call.isEnroll with
    | false =>
      refine ⟨h.numbered, h.unique, ?_, h.waiting, h.passed⟩
      rintro _ _ ⟨⟩ hisEnroll
      rw [henroll] at hisEnroll
      cases hisEnroll
    | true =>
      obtain ⟨hhat, hkeeps⟩ := hspares hcall henroll
      obtain ⟨token, rfl⟩ := Option.ne_none_iff_exists'.mp hhat
      refine ⟨h.numbered, h.unique, fun _ _ _ _ => rfl, fun op hop => ?_, h.passed⟩
      rcases hkeeps with hnone | hsame
      · have hmem : op ∈ x.hal.unauthorized := hop
        rw [hnone] at hmem
        cases hmem
      · obtain rfl := Option.some.inj hsame
        exact h.waiting op hop

theorem TokenInvariant.submit {function : TaskFunction} (hcall : x.hal.call = some (call, .body))
    (hfunction : function ≠ .enroll) (hnext : s.nextOp = x.hal.nextOp)
    (hworker : s.worker = x.hal.worker) : TokenInvariant trace
      { x with hal := { s.setThreadTask function with call := some (call, .resume) } } := by
  refine h.hal (by simp [Hal.setThreadTask, hnext]) ?_ fun op hop => ?_
  · rintro _ _ ⟨⟩
    exact ⟨_, hcall⟩
  · have hnone : unauthorizedWork (some (s.nextOp, function)) = [] := by
      cases function with
      | enroll => exact absurd rfl hfunction
      | authenticate | remove | enumerate | fingerDetect => rfl
    refine List.mem_append_right _ ?_
    simpa [Hal.unauthorized, Hal.setThreadTask, hnone, hworker] using hop

theorem TokenInvariant.submitEnroll {gid timeout : Int}
    (hcall : x.hal.call = some (.enroll gid timeout, .body)) :
    TokenInvariant (trace ++ [TokenMark.submitted x.hal.nextOp x.hat]) { x with hal :=
        { x.hal.callBody (.enroll gid timeout) with
          call := some (.enroll gid timeout, .resume) } } := by
  have hhat := h.calling _ _ hcall rfl
  have hnumbered : ∀ op hat, .submitted op hat ∈ trace ++ [TokenMark.submitted x.hal.nextOp x.hat] →
      .submitted op hat ∈ trace ∧ op < x.hal.nextOp ∨ op = x.hal.nextOp ∧ hat = x.hat := by
    intro op hat hmem
    rcases List.mem_append.mp hmem with hold | hnew
    · exact .inl ⟨hold, h.numbered op hat hold⟩
    · rw [List.mem_singleton] at hnew
      obtain ⟨rfl, rfl⟩ := TokenMark.submitted.inj hnew
      exact .inr ⟨rfl, rfl⟩
  constructor
  case numbered =>
    intro op hat hmem
    show op < x.hal.nextOp + 1
    rcases hnumbered op hat hmem with ⟨-, hlt⟩ | ⟨rfl, -⟩ <;> omega
  case unique =>
    intro op hat hat' hmem hmem'
    rcases hnumbered op hat hmem with ⟨hold, hlt⟩ | ⟨heq, hnew⟩
    · rcases hnumbered op hat' hmem' with ⟨hold', -⟩ | ⟨heq', -⟩
      · exact h.unique op hat hat' hold hold'
      · omega
    · rcases hnumbered op hat' hmem' with ⟨-, hlt'⟩ | ⟨-, hnew'⟩
      · omega
      · rw [hnew, hnew']
  case calling => exact fun _ _ _ _ => hhat
  case waiting =>
    intro op hop
    rcases List.mem_append.mp hop with hwork | hworker
    · obtain rfl := List.mem_singleton.mp hwork
      exact List.mem_append_right _ (by simp [hhat])
    · exact List.mem_append_left _ (h.waiting op (List.mem_append_right _ hworker))
  case passed =>
    intro op hat hmem
    rcases List.mem_append.mp hmem with hold | hnew
    · exact List.mem_append_left _ (h.passed op hat hold)
    · simp at hnew

theorem TokenInvariant.clientStep :
    TokenInvariant (trace ++ x.marks .client) { x with hal := x.hal.clientStep.2 } := by
  cases hcall : x.hal.call with
  | none =>
    simp only [TokenHal.marks, Hal.clientStep, hcall, List.append_nil]
    exact h
  | some current =>
    obtain ⟨call, point⟩ := current
    -- the call goes on, and nothing else of the HAL that matters here changes
    have hstays : ∀ {s : Hal}, s.nextOp = x.hal.nextOp → s.unauthorized = x.hal.unauthorized →
        (∀ point', s.call = some point' → point'.1 = call) →
        TokenInvariant trace { x with hal := s } := by
      intro s hnext hunauth hsame
      refine h.hal (Nat.le_of_eq hnext.symm) ?_ fun op hop => hunauth ▸ hop
      intro call' point' hsome
      obtain rfl : call' = call := hsame _ hsome
      exact ⟨point, hcall⟩
    cases point with
    | canceling | setStop | clearStop | pause | pausing =>
      simp only [TokenHal.marks, Hal.clientStep, hcall, List.append_nil]
      exact hstays rfl rfl (by rintro _ ⟨⟩; rfl)
    | resume | resuming =>
      simp only [TokenHal.marks, Hal.clientStep, hcall, List.append_nil, Hal.awaitResumed]
      cases x.hal.resumed with
      | true => exact hstays rfl rfl (by simp)
      | false => exact hstays rfl rfl (by rintro _ ⟨⟩; rfl)
    | body =>
      cases call with
      | enroll gid timeout =>
        simp only [TokenHal.marks, Hal.clientStep, hcall]
        exact h.submitEnroll hcall
      | cancel | setActiveGroup | navigatorEnable | tac =>
        simp only [TokenHal.marks, Hal.clientStep, hcall, List.append_nil]
        exact hstays rfl rfl (by rintro _ ⟨⟩; rfl)
      | authenticate | deleteFid | enumerate | fingerDetect =>
        simp only [TokenHal.marks, Hal.clientStep, hcall, List.append_nil]
        exact h.submit hcall (by simp) rfl rfl

theorem TokenInvariant.authorize {op : Nat} (hop : op ∈ x.hal.unauthorized) :
    TokenInvariant (trace ++ [TokenMark.authorized op x.mhat]) x := by
  have hsubmit : ∀ op' hat, .submitted op' hat ∈ trace ++ [TokenMark.authorized op x.mhat] →
      .submitted op' hat ∈ trace := by
    intro op' hat hmem
    simpa using hmem
  constructor
  case numbered => exact fun op' hat hmem => h.numbered op' hat (hsubmit op' hat hmem)
  case unique =>
    intro op' hat hat' hmem hmem'
    exact h.unique op' hat hat' (hsubmit op' hat hmem) (hsubmit op' hat' hmem')
  case calling => exact h.calling
  case waiting => exact fun op' hop' => List.mem_append_left _ (h.waiting op' hop')
  case passed =>
    intro op' hat hmem
    refine List.mem_append_left _ ?_
    rcases List.mem_append.mp hmem with hold | hnew
    · exact h.passed op' hat hold
    · rw [List.mem_singleton] at hnew
      obtain ⟨rfl, rfl⟩ := TokenMark.authorized.inj hnew
      exact h.waiting op' hop

theorem TokenInvariant.workerStep (answer : Answer) :
    TokenInvariant (trace ++ x.marks (.worker answer))
      { x with hal := (x.hal.workerStep cfg answer).2 } := by
  have hmarks : TokenInvariant (trace ++ x.marks (.worker answer)) x := by
    simp only [TokenHal.marks]
    split
    case h_1 op t hworker =>
      split
      case isTrue hpoint =>
        refine h.authorize (List.mem_append_right _ ?_)
        simp [hworker, WorkerPoint.unauthorized, Task.isUnauthorized, hpoint]
      case isFalse => simpa using h
    case h_2 => simpa using h
  obtain ⟨-, hcall, hnext⟩ := workerStep_fields cfg x.hal answer
  refine hmarks.hal (Nat.le_of_eq hnext.symm) (fun call point hsome => ⟨point, ?_⟩)
    (workerStep_unauthorized cfg x.hal answer)
  rw [← hcall]
  exact hsome

end

theorem tokenInvariant_step (cfg : FpConfig) (trace : List (TokenMark Token))
    (x : TokenHal Token) (event : TokenEvent Token) (h : TokenInvariant trace x)
    (hspares : x.Spares event) :
    TokenInvariant (trace ++ (x.step cfg event).1) (x.step cfg event).2 := by
  cases event with
  | enter call hat =>
    simp only [TokenHal.step, TokenHal.marks, List.append_nil]
    exact h.enter hspares
  | client => exact h.clientStep
  | worker answer => exact h.workerStep answer

end

/-- Enrolments use their own token where none is overwritten. -/
theorem tokenRun_ownToken (cfg : FpConfig) (mhat : Token) (resumed stop : Bool) (msessionId : Nat)
    (mgid mfid mtimeout : Int) (events : List (TokenEvent Token))
    (hspares : Meets (TokenHal.step cfg) TokenHal.Spares
      (.start mhat resumed stop msessionId mgid mfid mtimeout) events) : OwnToken
      (run (TokenHal.step cfg) (.start mhat resumed stop msessionId mgid mfid mtimeout)
        events).1 := by
  have hstart : TokenInvariant [] (.start mhat resumed stop msessionId mgid mfid mtimeout) :=
    ⟨by simp, by simp, by rintro _ _ ⟨⟩, by rintro _ ⟨⟩, by simp⟩
  have hrun := run_invariant (tokenInvariant_step cfg) hstart hspares
  exact hrun.ownToken

def enrollEvents (hat : Option Nat) : List (TokenEvent Nat) :=
  [.enter (.enroll 0 60) hat, .client, .client, .client, .client, .client, .worker { ret := 0 },
    .client, .worker { ret := 0 }]

def separateEvents : List (TokenEvent Nat) :=
  enrollEvents (some 1) ++
    [.worker { ret := -1 }, .worker { ret := 0 }, .worker { ret := 0 }, .worker { ret := 0 },
      .worker { ret := 0 }] ++
    enrollEvents (some 2) ++ [.worker { ret := 0 }]

theorem tokenRun_ownToken_separate :
    Meets (TokenHal.step plainConfig) TokenHal.Spares (.start 7 false false 0 0 0 0)
        separateEvents ∧ OwnToken
        (run (TokenHal.step plainConfig) (.start 7 false false 0 0 0 0) separateEvents).1 :=
  ⟨by decide +kernel,
    tokenRun_ownToken plainConfig 7 false false 0 0 0 0 separateEvents (by decide +kernel)⟩

example : (run (TokenHal.step plainConfig) (.start 7 false false 0 0 0 0) separateEvents).1 =
    [.submitted 0 (some 1), .authorized 0 1, .submitted 1 (some 2), .authorized 1 2] := by
  decide +kernel

def overtakenEvents : List (TokenEvent Nat) :=
  enrollEvents (some 1) ++ [.enter (.enroll 0 60) (some 2), .worker { ret := 0 }]

def tokenlessEvents : List (TokenEvent Nat) := enrollEvents none ++ [.worker { ret := 0 }]

theorem overtakenEvents_not_ownToken :
    ¬OwnToken (run (TokenHal.step plainConfig) (.start 7 false false 0 0 0 0) overtakenEvents).1 ∧
      ¬OwnToken
        (run (TokenHal.step plainConfig) (.start 7 false false 0 0 0 0) tokenlessEvents).1 := by
  have hovertaken :
      (run (TokenHal.step plainConfig) (.start 7 false false 0 0 0 0) overtakenEvents).1 =
        [.submitted 0 (some 1), .authorized 0 2] := by decide +kernel
  have htokenless :
      (run (TokenHal.step plainConfig) (.start 7 false false 0 0 0 0) tokenlessEvents).1 =
        [.submitted 0 none, .authorized 0 7] := by decide +kernel
  constructor
  · intro h
    cases h.only 0 2 (some 1) (by decide) (by decide)
  · intro h
    cases h.only 0 7 none (by decide) (by decide)

end WikoPlatform.Chipone
