import WikoPlatform.Chipone.Authenticate
import WikoPlatform.Lib.Runs

/-! The presses of a finger during one call of `fpTacImpl::authenticate`, and how often each of them
is rejected. -/

namespace WikoPlatform.Chipone

open Runs

/-- What happened in one press. -/
structure Press where
  mismatched : Nat := 0
  matched : Nat := 0
  -- `AUTHENTICATED` messages with finger 0.
  rejected : Nat := 0
  -- A message was due and the stop flag was set.
  canceled : Bool := false
  deriving DecidableEq

namespace Press

def count (cfg : FpConfig) (t : AuthTask) (stop : Bool) (p : Press) : Press :=
  match t.point with
  | .matched _ _ => { p with matched := p.matched + 1, canceled := p.canceled || stop }
  | .unmatched matchResult =>
    { p with
      mismatched :=
        if matchResult = matchResultFailedPoorQuality then p.mismatched else p.mismatched + 1
      canceled := p.canceled || stop && (AuthTask.countUnmatch cfg t.vars matchResult).2 }
  | _ => p

def notified (msg : Option FingerprintMsg) (p : Press) : Press :=
  match msg with
  | some (.authenticated _ 0) => { p with rejected := p.rejected + 1 }
  | _ => p

def isOver (cfg : FpConfig) (t : AuthTask) : Bool :=
  match t.point with
  | .captureImg => t.vars.captureStyle.waitUp
  | .captured ret =>
    ret = -msgTypeFingerMove ∧ ¬ (cfg.authUnmatchRetry ∧ t.vars.unmatchMsgPending)
  | .pendingUnmatch => true
  | .endMatch _ => !cfg.authSuccessContinuous
  | _ => false

/-- One reject if there was a mismatch and no match, else none. -/
def Balanced (p : Press) : Prop :=
  p.canceled = false → p.rejected = if 0 < p.mismatched ∧ p.matched = 0 then 1 else 0

instance (p : Press) : Decidable p.Balanced := inferInstanceAs (Decidable (_ → _))

end Press

structure Pressing where
  task : AuthTask
  press : Press
  deriving DecidableEq

namespace Pressing

def start (cfg : FpConfig) (gid : Int) : Pressing := ⟨.start cfg gid, {}⟩

def step (cfg : FpConfig) (s : Pressing) (i : Bool × Answer) : List Press × Pressing :=
  let next := s.task.step cfg i.1 i.2
  let press := (s.press.count cfg s.task i.1).notified next.1
  if Press.isOver cfg s.task then ([press], ⟨next.2, {}⟩) else ([], ⟨next.2, press⟩)

/-- No poor image follows a pending mismatch and no match a reject, and the extra retry does not
wait for the finger to lift. -/
def Steady (cfg : FpConfig) (s : Pressing) (_ : Bool × Answer) : Prop :=
  match s.task.point with
  | .unmatched matchResult =>
    matchResult = matchResultFailedPoorQuality → s.task.vars.unmatchMsgPending = false
  | .matched matchFinger _ =>
    matchFinger ≠ 0 ∧ s.task.vars.additional2sRetryProcessing = false ∧
      (cfg.authSuccessContinuous = true → s.task.vars.unmatchMsgPending = false)
  | .endUnmatch true =>
    cfg.authRetryAdditional2s = true → s.task.vars.captureStyle.waitUp = false
  | _ => True

instance (cfg : FpConfig) (s : Pressing) (i : Bool × Answer) : Decidable (s.Steady cfg i) := by
  unfold Steady
  split <;> infer_instance

end Pressing

section

variable (cfg : FpConfig) (p : Press) (v : AuthVars)

structure AuthVars.Quiet : Prop where
  times : v.unmatchTimes = 0
  pending : v.unmatchMsgPending = false
  additional : v.additional2sRetryProcessing = false

/-- No mismatch yet. -/
structure Untried : Prop where
  mismatched : p.mismatched = 0
  rejected : p.rejected = 0
  quiet : v.Quiet

/-- Mismatches that are still to be reported. -/
structure Undecided : Prop where
  mismatched : 0 < p.mismatched
  rejected : p.rejected = 0
  below : v.unmatchTimes < AuthTask.reportUnmatchThreshold cfg
  pending : v.unmatchMsgPending = true
  additional : v.additional2sRetryProcessing = false
  minus2 : v.unmatchMinus2Times ≤ 10

structure Rejected : Prop where
  mismatched : 0 < p.mismatched
  rejected : p.canceled = false → p.rejected = 1
  above : AuthTask.reportUnmatchThreshold cfg ≤ v.unmatchTimes
  pending : v.unmatchMsgPending = false

/-- After a reject the loop goes on with the same press only for the extra retry. -/
structure Trying : Prop where
  matched : p.matched = 0
  phase : Untried p v ∨ Undecided cfg p v ∨
    Rejected cfg p v ∧ v.additional2sRetryProcessing = true

structure Accepted : Prop where
  matched : 0 < p.matched
  rejected : p.rejected = 0
  additional : v.additional2sRetryProcessing = false
  pending : cfg.authSuccessContinuous = true → v.unmatchMsgPending = false

structure Waiting : Prop where
  quiet : v.Quiet
  balanced : p.Balanced

end

/-- What holds at each point of the loop. -/
def Pressing.At (cfg : FpConfig) (s : Pressing) : Prop :=
  let p := s.press
  let v := s.task.vars
  match s.task.point with
  | .beginAuthenticate => p.matched = 0 ∧ v.unmatchMinus2Times ≤ 10 ∧ Untried p v
  | .captureImg => v.unmatchMinus2Times ≤ 10 ∧
      if v.captureStyle.waitUp then Waiting p v else Trying cfg p v
  | .captured _ => v.unmatchMinus2Times ≤ 10 ∧ Trying cfg p v ∧
      (v.captureStyle.waitUp = true → Untried p v)
  | .pendingUnmatch => p.matched = 0 ∧ Undecided cfg p v
  | .identify | .matched _ _ | .unmatched _ => v.unmatchMinus2Times ≤ 10 ∧ Trying cfg p v
  | .notifyMatch matchFinger _ => Accepted cfg p v ∧ matchFinger ≠ 0
  | .endMatch _ => Accepted cfg p v
  | .notifyUnmatch => v.unmatchMinus2Times ≤ 10 ∧ p.matched = 0 ∧ p.rejected = 0 ∧
      0 < p.mismatched ∧ AuthTask.reportUnmatchThreshold cfg ≤ v.unmatchTimes ∧
      v.unmatchMsgPending = false ∧ v.additional2sRetryProcessing = false
  | .endUnmatch true => v.unmatchMinus2Times ≤ 10 ∧ p.matched = 0 ∧ Rejected cfg p v ∧
      v.additional2sRetryProcessing = false
  | .endUnmatch false => Trying cfg p v
  | .failed _ | .returned => True

theorem AuthTask.one_le_threshold (cfg : FpConfig) : 1 ≤ reportUnmatchThreshold cfg := by
  unfold reportUnmatchThreshold getAuthUnmatchRetryTimes
  split_ifs <;> omega

section

variable {cfg : FpConfig} {p : Press} {v : AuthVars}

theorem Untried.balanced (h : Untried p v) : p.Balanced := by
  intro _
  simp [h.mismatched, h.rejected]

theorem Rejected.balanced (h : Rejected cfg p v) (hmatch : p.matched = 0) : p.Balanced := by
  intro hcancel
  simp [h.mismatched, hmatch, h.rejected hcancel]

theorem Accepted.balanced (h : Accepted cfg p v) : p.Balanced := by
  intro _
  have := h.matched
  rw [h.rejected, if_neg (by omega)]

theorem Trying.balanced (h : Trying cfg p v) (hpend : v.unmatchMsgPending = false) :
    p.Balanced := by
  rcases h.phase with hu | hu | ⟨hu, -⟩
  · exact hu.balanced
  · exact absurd (hpend.symm.trans hu.pending) (by decide)
  · exact hu.balanced h.matched

theorem Trying.pending_eq_false (h : Trying cfg p v) (hne : ¬ Undecided cfg p v) :
    v.unmatchMsgPending = false := by
  rcases h.phase with hu | hu | ⟨hu, -⟩
  · exact hu.quiet.pending
  · exact absurd hu hne
  · exact hu.pending

theorem Trying.unreported_or_rejected (h : Trying cfg p v) :
    (p.rejected = 0 ∧ v.additional2sRetryProcessing = false ∧
        v.unmatchTimes < AuthTask.reportUnmatchThreshold cfg) ∨
      Rejected cfg p v ∧ v.additional2sRetryProcessing = true := by
  rcases h.phase with hu | hu | hu
  · have hone := AuthTask.one_le_threshold cfg
    have htimes := hu.quiet.times
    exact .inl ⟨hu.rejected, hu.quiet.additional, by omega⟩
  · exact .inl ⟨hu.rejected, hu.additional, hu.below⟩
  · exact .inr hu

theorem Trying.undecided (h : Trying cfg p v) (hpend : v.unmatchMsgPending = true) :
    Undecided cfg p v := by
  by_contra hne
  exact absurd ((h.pending_eq_false hne).symm.trans hpend) (by decide)

theorem Trying.withStyle (h : Trying cfg p v) (style : CaptureStyle) :
    Trying cfg p { v with captureStyle := style } := by
  refine ⟨h.matched, h.phase.imp (fun hu => ?_) (Or.imp (fun hu => ?_) (And.imp_left fun hu => ?_))⟩
  · exact ⟨hu.mismatched, hu.rejected, hu.quiet.times, hu.quiet.pending, hu.quiet.additional⟩
  · exact ⟨hu.mismatched, hu.rejected, hu.below, hu.pending, hu.additional, hu.minus2⟩
  · exact ⟨hu.mismatched, hu.rejected, hu.above, hu.pending⟩

theorem trying_of_quiet (h : v.Quiet) : Trying cfg {} v :=
  ⟨rfl, .inl ⟨rfl, rfl, h⟩⟩

end

section

variable {cfg : FpConfig} {v : AuthVars} {matchResult : Int}

theorem AuthTask.countUnmatch_poor (hretry : cfg.authUnmatchRetry = true) (v : AuthVars) :
    countUnmatch cfg v matchResultFailedPoorQuality =
      ({ v with
          unmatchMinus2Times := v.unmatchMinus2Times + 1
          unmatchMsgPending := false },
        false) := by
  simp [countUnmatch, hretry]

theorem AuthTask.countUnmatch_mismatch (hretry : cfg.authUnmatchRetry = true) (v : AuthVars)
    (h : matchResult ≠ matchResultFailedPoorQuality) :
    countUnmatch cfg v matchResult =
      ({ v with
          unmatchTimes := v.unmatchTimes + 1
          unmatchMsgPending := decide (v.unmatchTimes + 1 < reportUnmatchThreshold cfg) },
        decide (v.unmatchTimes + 1 = reportUnmatchThreshold cfg)) := by
  simp [countUnmatch, hretry, h]

theorem Press.notified_captureMsg (p : Press) (style : CaptureStyle) (ret : Int) :
    p.notified (captureMsg style ret) = p := by
  unfold captureMsg
  split_ifs <;> rfl

end

namespace Pressing

variable {cfg : FpConfig} {s : Pressing} {i : Bool × Answer} {gid : Int} {v : AuthVars} {p : Press}

theorem step_of_not_isOver (h : Press.isOver cfg s.task = false) :
    s.step cfg i = ([], ⟨(s.task.step cfg i.1 i.2).2,
      (s.press.count cfg s.task i.1).notified (s.task.step cfg i.1 i.2).1⟩) := by
  simp [step, h]

theorem step_of_isOver (h : Press.isOver cfg s.task = true) : s.step cfg i =
      ([(s.press.count cfg s.task i.1).notified (s.task.step cfg i.1 i.2).1],
        ⟨(s.task.step cfg i.1 i.2).2, {}⟩) := by
  simp [step, h]

theorem balanced_of_not_isOver (h : Press.isOver cfg s.task = false) :
    ∀ p ∈ (s.step cfg i).1, p.Balanced := by
  rw [step_of_not_isOver h]
  exact List.forall_mem_nil _

theorem at_poor (hretry : cfg.authUnmatchRetry = true) (i : Bool × Answer) (h : Trying cfg p v)
    (hpend : v.unmatchMsgPending = false) :
    (step cfg ⟨⟨gid, v, .unmatched matchResultFailedPoorQuality⟩, p⟩ i).2.At cfg := by
  have hcount : p.count cfg ⟨gid, v, .unmatched matchResultFailedPoorQuality⟩ i.1 = p := by
    simp [Press.count, AuthTask.countUnmatch_poor hretry]
  rw [step_of_not_isOver rfl]
  simp only [AuthTask.step, AuthTask.countUnmatch_poor hretry, hcount]
  refine ⟨h.matched, ?_⟩
  rcases h.phase with hu | hu | ⟨hu, hadditional⟩
  · exact .inl ⟨hu.mismatched, hu.rejected, hu.quiet.times, rfl, hu.quiet.additional⟩
  · exact absurd (hpend.symm.trans hu.pending) (by decide)
  · exact .inr (.inr ⟨⟨hu.mismatched, hu.rejected, hu.above, rfl⟩, hadditional⟩)

theorem at_mismatch (hretry : cfg.authUnmatchRetry = true) {matchResult : Int} (i : Bool × Answer)
    (hminus2 : v.unmatchMinus2Times ≤ 10) (h : Trying cfg p v)
    (hmismatch : matchResult ≠ matchResultFailedPoorQuality) :
    (step cfg ⟨⟨gid, v, .unmatched matchResult⟩, p⟩ i).2.At cfg := by
  rw [step_of_not_isOver rfl]
  simp only [AuthTask.step, Press.count, AuthTask.countUnmatch_mismatch hretry v hmismatch,
    if_neg hmismatch, decide_eq_true_eq]
  rcases h.unreported_or_rejected with ⟨hreject, hadditional, hbelow⟩ | ⟨hu, hadditional⟩
  · by_cases hdue : v.unmatchTimes + 1 = AuthTask.reportUnmatchThreshold cfg
    · have hpend : ¬ v.unmatchTimes + 1 < AuthTask.reportUnmatchThreshold cfg := by omega
      by_cases hstop : i.1 = false
      · rw [if_pos ⟨hdue, hstop⟩]
        exact ⟨hminus2, h.matched, hreject, Nat.succ_pos _, Nat.le_of_eq hdue.symm,
          decide_eq_false hpend, hadditional⟩
      · rw [if_neg fun hcond => hstop hcond.2]
        simp only [hdue, decide_true]
        refine ⟨hminus2, h.matched, ⟨Nat.succ_pos _, fun hcancel => ?_, ?_, ?_⟩, hadditional⟩
        · simp [Press.notified, hstop] at hcancel
        · exact Nat.le_refl _
        · exact decide_eq_false (Nat.lt_irrefl _)
    · have hpend : v.unmatchTimes + 1 < AuthTask.reportUnmatchThreshold cfg := by omega
      simp only [hdue, decide_false]
      exact ⟨h.matched, .inr (.inl ⟨Nat.succ_pos _, hreject, hpend, decide_eq_true hpend,
        hadditional, hminus2⟩)⟩
  · -- the report was already made
    have habove := hu.above
    have hdue : ¬ v.unmatchTimes + 1 = AuthTask.reportUnmatchThreshold cfg := by omega
    have hpend : ¬ v.unmatchTimes + 1 < AuthTask.reportUnmatchThreshold cfg := by omega
    simp only [hdue, decide_false]
    refine ⟨h.matched, .inr (.inr ⟨⟨Nat.succ_pos _, fun hcancel => hu.rejected ?_, ?_, ?_⟩,
      hadditional⟩)⟩
    · simpa [Press.notified] using hcancel
    · exact Nat.le_succ_of_le habove
    · exact decide_eq_false hpend

theorem at_reported (hretry : cfg.authUnmatchRetry = true) (i : Bool × Answer)
    (h : At cfg ⟨⟨gid, v, .endUnmatch true⟩, p⟩)
    (hok : Steady cfg ⟨⟨gid, v, .endUnmatch true⟩, p⟩ i) :
    (step cfg ⟨⟨gid, v, .endUnmatch true⟩, p⟩ i).2.At cfg := by
  obtain ⟨hminus2, hmatch, hu, hadditional⟩ := h
  rw [step_of_not_isOver rfl]
  simp only [AuthTask.step, AuthTask.retryUnmatch, hretry, if_true]
  split_ifs with hextra
  · refine ⟨hminus2, ?_⟩
    rw [if_neg (by simpa using hok hextra)]
    exact ⟨hmatch, .inr (.inr ⟨⟨hu.mismatched, hu.rejected, hu.above, hu.pending⟩, rfl⟩)⟩
  · exact ⟨Nat.zero_le _, ⟨rfl, hu.pending, hadditional⟩, hu.balanced hmatch⟩

theorem at_unreported (hretry : cfg.authUnmatchRetry = true) (i : Bool × Answer)
    (h : At cfg ⟨⟨gid, v, .endUnmatch false⟩, p⟩) :
    (step cfg ⟨⟨gid, v, .endUnmatch false⟩, p⟩ i).2.At cfg := by
  have htry : Trying cfg p v := h
  rw [step_of_not_isOver rfl]
  simp only [AuthTask.step, AuthTask.retryUnmatch, hretry, if_true, Bool.false_eq_true, if_false]
  by_cases hlate : cfg.authRetryAdditional2s = true ∧ v.additional2sRetryProcessing = true ∧
      2000 < i.2.elapsed
  · rw [if_pos hlate]
    have hpend := htry.pending_eq_false fun hu =>
      absurd (hu.additional.symm.trans hlate.2.1) (by decide)
    exact ⟨Nat.zero_le _, ⟨rfl, hpend, rfl⟩, htry.balanced hpend⟩
  · rw [if_neg hlate]
    by_cases hpoor : 10 < v.unmatchMinus2Times
    · rw [if_pos hpoor]
      have hpend := htry.pending_eq_false fun hu => Nat.not_le.mpr hpoor hu.minus2
      exact ⟨Nat.zero_le _, ⟨rfl, hpend, rfl⟩, htry.balanced hpend⟩
    · rw [if_neg hpoor]
      exact ⟨Nat.not_lt.mp hpoor, htry.withStyle .noWait⟩

theorem at_untried (hminus2 : v.unmatchMinus2Times ≤ 10) (hmatch : p.matched = 0)
    (h : Untried p v) : At cfg ⟨⟨gid, v, .captureImg⟩, p⟩ := by
  refine ⟨hminus2, ?_⟩
  split
  · exact ⟨h.quiet, h.balanced⟩
  · exact ⟨hmatch, .inl h⟩

theorem at_captured (hretry : cfg.authUnmatchRetry = true) {ret : Int} (i : Bool × Answer)
    (h : At cfg ⟨⟨gid, v, .captured ret⟩, p⟩) :
    (∀ q ∈ (step cfg ⟨⟨gid, v, .captured ret⟩, p⟩ i).1, q.Balanced) ∧
      (step cfg ⟨⟨gid, v, .captured ret⟩, p⟩ i).2.At cfg := by
  obtain ⟨hminus2, htry, huntried⟩ := h
  have hmsg := p.notified_captureMsg v.captureStyle ret
  by_cases hmove : ret = -msgTypeFingerMove
  · by_cases hpend : v.unmatchMsgPending = true
    · have hover : Press.isOver cfg ⟨gid, v, .captured ret⟩ = false := by
        simp [Press.isOver, hretry, hpend]
      refine ⟨balanced_of_not_isOver hover, ?_⟩
      rw [step_of_not_isOver hover]
      simp only [AuthTask.step, AuthTask.afterCapture, Press.count, hmsg, if_pos hmove]
      rw [if_pos ⟨hretry, hpend⟩]
      exact ⟨htry.matched, htry.undecided hpend⟩
    · have hover : Press.isOver cfg ⟨gid, v, .captured ret⟩ = true := by
        simp [Press.isOver, hmove, hpend]
      have hquiet := Bool.eq_false_iff.mpr hpend
      rw [step_of_isOver hover]
      simp only [AuthTask.step, AuthTask.afterCapture, Press.count, hmsg, if_pos hmove]
      rw [if_neg fun h => hpend h.2]
      refine ⟨List.forall_mem_singleton.mpr (htry.balanced hquiet), Nat.zero_le _, ?_⟩
      exact trying_of_quiet ⟨rfl, hquiet, rfl⟩
  · have hover : Press.isOver cfg ⟨gid, v, .captured ret⟩ = false := by
      simp [Press.isOver, hmove]
    refine ⟨balanced_of_not_isOver hover, ?_⟩
    rw [step_of_not_isOver hover]
    simp only [AuthTask.step, AuthTask.afterCapture, Press.count, hmsg, if_neg hmove]
    split_ifs
    · exact ⟨hminus2, htry⟩
    · trivial
    · trivial
    · -- the capture is tried again
      refine ⟨hminus2, ?_⟩
      split
      next hwait => exact ⟨(huntried hwait).quiet, (huntried hwait).balanced⟩
      next => exact htry

theorem at_step (hretry : cfg.authUnmatchRetry = true) (s : Pressing) (i : Bool × Answer)
    (h : s.At cfg) (hok : s.Steady cfg i) :
    (∀ p ∈ (s.step cfg i).1, p.Balanced) ∧ (s.step cfg i).2.At cfg := by
  obtain ⟨⟨gid, v, point⟩, p⟩ := s
  cases point with
  | beginAuthenticate =>
    obtain ⟨hmatch, hminus2, hu⟩ := h
    refine ⟨balanced_of_not_isOver rfl, ?_⟩
    rw [step_of_not_isOver rfl]
    simp only [AuthTask.step]
    split_ifs
    · exact at_untried hminus2 hmatch hu
    · trivial
  | captureImg =>
    obtain ⟨hminus2, hpress⟩ := h
    have hover : Press.isOver cfg ⟨gid, v, .captureImg⟩ = v.captureStyle.waitUp := rfl
    cases hwait : v.captureStyle.waitUp with
    | true =>
      simp only [hwait, if_true] at hpress
      rw [step_of_isOver (hover.trans hwait)]
      refine ⟨List.forall_mem_singleton.mpr hpress.balanced, hminus2, ?_, ?_⟩
      · exact trying_of_quiet hpress.quiet
      · exact fun _ => ⟨rfl, rfl, hpress.quiet⟩
    | false =>
      simp only [hwait, Bool.false_eq_true, if_false] at hpress
      rw [step_of_not_isOver (hover.trans hwait)]
      refine ⟨List.forall_mem_nil _, hminus2, hpress, ?_⟩
      exact fun hup => absurd (hwait.symm.trans hup) (by decide)
  | captured ret => exact at_captured hretry i h
  | pendingUnmatch =>
    have hmatch : p.matched = 0 := h.1
    have hu : Undecided cfg p v := h.2
    refine ⟨List.forall_mem_singleton.mpr ?_, Nat.zero_le _, trying_of_quiet ⟨rfl, rfl, rfl⟩⟩
    intro _
    simp [Press.count, Press.notified, AuthTask.step, hu.rejected, hu.mismatched, hmatch]
  | identify =>
    refine ⟨balanced_of_not_isOver rfl, ?_⟩
    rw [step_of_not_isOver rfl]
    simp only [AuthTask.step, AuthTask.afterIdentify]
    split_ifs
    · exact h
    · exact h
    · trivial
    · trivial
  | matched matchFinger matchResult =>
    obtain ⟨hminus2, htry⟩ := h
    obtain ⟨hfinger, hadditional, hpend⟩ := hok
    refine ⟨balanced_of_not_isOver rfl, ?_⟩
    have hreject : p.rejected = 0 := by
      rcases htry.unreported_or_rejected with hu | ⟨-, hu⟩
      · exact hu.1
      · exact absurd (hadditional.symm.trans hu) (by decide)
    rw [step_of_not_isOver rfl]
    simp only [AuthTask.step]
    split_ifs
    · exact ⟨Nat.succ_pos _, hreject, hadditional, hpend⟩
    · exact ⟨⟨Nat.succ_pos _, hreject, hadditional, hpend⟩, hfinger⟩
  | notifyMatch matchFinger matchResult =>
    have haccept : Accepted cfg p v := h.1
    have hfinger : matchFinger ≠ 0 := h.2
    have hsame : p.notified (some (.authenticated gid matchFinger)) = p := by
      unfold Press.notified
      split
      next heq => cases heq; exact absurd rfl hfinger
      next => rfl
    refine ⟨balanced_of_not_isOver rfl, ?_⟩
    rw [step_of_not_isOver rfl]
    simp only [AuthTask.step, Press.count, hsame]
    exact haccept
  | endMatch matchResult =>
    have haccept : Accepted cfg p v := h
    cases hcont : cfg.authSuccessContinuous with
    | true =>
      rw [step_of_not_isOver (by simp [Press.isOver, hcont])]
      simp only [AuthTask.step, hcont, if_true]
      have hquiet := haccept.pending hcont
      exact ⟨List.forall_mem_nil _, Nat.zero_le _, ⟨rfl, hquiet, haccept.additional⟩,
        haccept.balanced⟩
    | false =>
      rw [step_of_isOver (by simp [Press.isOver, hcont])]
      simp only [AuthTask.step, hcont, Bool.false_eq_true, if_false]
      exact ⟨List.forall_mem_singleton.mpr haccept.balanced, trivial⟩
  | unmatched matchResult =>
    refine ⟨balanced_of_not_isOver rfl, ?_⟩
    by_cases hpoor : matchResult = matchResultFailedPoorQuality
    · subst hpoor
      exact at_poor hretry i h.2 (hok rfl)
    · exact at_mismatch hretry i h.1 h.2 hpoor
  | notifyUnmatch =>
    obtain ⟨hminus2, hmatch, hreject, hmismatched, habove, hpend, hadditional⟩ := h
    refine ⟨balanced_of_not_isOver rfl, ?_⟩
    refine ⟨hminus2, hmatch, ⟨hmismatched, fun _ => ?_, habove, hpend⟩, hadditional⟩
    exact congrArg (· + 1) hreject
  | endUnmatch needReportMsg =>
    refine ⟨balanced_of_not_isOver rfl, ?_⟩
    cases needReportMsg with
    | true => exact at_reported hretry i h hok
    | false => exact at_unreported hretry i h
  | failed code | returned => exact ⟨balanced_of_not_isOver rfl, trivial⟩

structure PressInvariant (cfg : FpConfig) (trace : List Press) (s : Pressing) : Prop where
  balanced : ∀ p ∈ trace, p.Balanced
  now : s.At cfg

theorem pressInvariant_step (hretry : cfg.authUnmatchRetry = true) (trace : List Press)
    (s : Pressing) (i : Bool × Answer) (h : PressInvariant cfg trace s) (hok : s.Steady cfg i) :
    PressInvariant cfg (trace ++ (s.step cfg i).1) (s.step cfg i).2 := by
  obtain ⟨hout, hnext⟩ := at_step hretry s i h.now hok
  exact ⟨List.forall_mem_append.mpr ⟨h.balanced, hout⟩, hnext⟩

/-- In a steady run every press is balanced. -/
theorem presses_balanced (cfg : FpConfig) (hretry : cfg.authUnmatchRetry = true) (gid : Int)
    (inputs : List (Bool × Answer))
    (hmeets : Meets (step cfg) (Steady cfg) (start cfg gid) inputs) :
    ∀ p ∈ (run (step cfg) (start cfg gid) inputs).1, p.Balanced := by
  have hstart : PressInvariant cfg [] (start cfg gid) :=
    ⟨List.forall_mem_nil _, rfl, Nat.zero_le _, rfl, rfl, rfl, rfl, rfl⟩
  have hend := run_invariant (pressInvariant_step hretry) hstart hmeets
  exact hend.balanced

end Pressing

def retryConfig (times : Int) (additional2s continuous : Bool) : FpConfig :=
  { plainConfig with
    authUnmatchRetry := true
    authUnmatchRetryTimes := times
    authRetryAdditional2s := additional2s
    authSuccessContinuous := continuous }

def fingerMoved : List (Bool × Answer) :=
  [(false, { ret := -msgTypeFingerMove }), (false, { ret := 0 }), (false, { ret := 0 })]

def identified (matchResult matchFinger : Int) : List (Bool × Answer) :=
  [(false, { ret := 0 }), (false, { ret := 0 }),
    (false, { ret := 0, matchResult := matchResult, matchFinger := matchFinger }),
    (false, { ret := 0 }), (false, { ret := 0 })]

def presses (cfg : FpConfig) (attempts : List (List (Bool × Answer))) : List Press :=
  (run (Pressing.step cfg) (Pressing.start cfg 7) ((false, { ret := 0 }) :: attempts.flatten)).1

theorem lifted_balanced :
    let inputs := (false, { ret := 0 }) :: (identified 0 (-1) ++ fingerMoved)
    Meets (Pressing.step (retryConfig 2 false false)) (Pressing.Steady (retryConfig 2 false false))
        (Pressing.start (retryConfig 2 false false) 7) inputs ∧
      ∀ p ∈ (run (Pressing.step (retryConfig 2 false false))
        (Pressing.start (retryConfig 2 false false) 7) inputs).1, p.Balanced :=
  ⟨by decide +kernel, Pressing.presses_balanced _ rfl 7 _ (by decide +kernel)⟩

def reported (matchResult matchFinger : Int) : List (Bool × Answer) :=
  identified matchResult matchFinger ++ [(false, { ret := 0 })]

theorem presses_not_balanced : (∃ p ∈ presses (retryConfig 2 false false)
        [identified 0 (-1), identified (-2) (-1), fingerMoved], ¬ p.Balanced) ∧
      (∃ p ∈ presses (retryConfig 2 true false)
        [identified 0 (-1), reported 0 (-1), reported 1 3], ¬ p.Balanced) ∧
      (∃ p ∈ presses (retryConfig 1 true false)
        [reported 0 (-1), identified 0 (-1), fingerMoved], ¬ p.Balanced) ∧
      ∃ p ∈ presses (retryConfig 2 false true)
        [identified 0 (-1), reported 1 3, fingerMoved], ¬ p.Balanced := by
  decide +kernel

end WikoPlatform.Chipone
