import WikoPlatform.Chipone.Enroll
import WikoPlatform.Lib.Runs

/-! One call of `fpTacImpl::enroll`: the samples that it reports as missing, the end of the
enrolment, and `finish_enroll`. -/

namespace WikoPlatform.Chipone

open Runs

/-- What an observer of `enroll` sees. -/
inductive EnrollEvent where
  | notify (msg : FingerprintMsg)
  | startEnroll (ret : Int)
  | enrolStoreTemplate (ret fid : Int)
  | getStopStatus (stop : Bool)
  | finishEnroll
  deriving DecidableEq

namespace EnrollEvent

def remaining : EnrollEvent → Option Int
  | .notify (.enrolling _ _ samplesRemaining) => some samplesRemaining
  | _ => none

def bracket : EnrollEvent → Bool
  | .startEnroll _ | .finishEnroll => true
  | _ => false

end EnrollEvent

/-- From the last sample, or a new one, to the end of the body. -/
def EnrollPoint.storing : EnrollPoint → Bool
  | .storeTemplate | .stored | .discard _ | .notifyEnrolling | .notifyNoSpace | .detail => true
  | _ => false

def EnrollPoint.passing : EnrollPoint → Bool
  | .startEnroll | .enrollImg => false
  | point => !point.storing

namespace EnrollTask

def calls (stop : Bool) (answer : Answer) (t : EnrollTask) : List EnrollEvent :=
  match t.point with
  | .startEnroll => [.startEnroll answer.ret]
  | .storeTemplate => [.enrolStoreTemplate answer.ret answer.fid]
  | .stored => [.getStopStatus stop]
  | .finishEnroll => [.finishEnroll]
  | _ => []

def observe (cfg : FpConfig) (t : EnrollTask) (i : Bool × Answer) :
    List EnrollEvent × EnrollTask :=
  (t.calls i.1 i.2 ++ (t.step cfg i.1 i.2).1.toList.map .notify, (t.step cfg i.1 i.2).2)

variable {cfg : FpConfig} {t : EnrollTask} {total : Int} {vars : EnrollVars} {i : Bool × Answer}
  {point : EnrollPoint} {trace : List EnrollEvent}

theorem step_remaining (h : t.point ≠ .notifyEnrolling) (stop : Bool) (answer : Answer)
    {msg : FingerprintMsg} (hmsg : (t.step cfg stop answer).1 = some msg) :
    (EnrollEvent.notify msg).remaining = none := by
  unfold step at hmsg
  cases hpoint : t.point with
  | captured ret =>
    simp only [hpoint, captureMsg] at hmsg
    split_ifs at hmsg <;> obtain rfl := Option.some.inj hmsg <;> rfl
  | discard task =>
    simp only [hpoint] at hmsg
    split at hmsg
    · cases hmsg
    · have hres := task.step_not_result answer hmsg
      cases msg with
      | enrolling => cases hres
      | _ => rfl
  | unchanged =>
    simp only [hpoint] at hmsg
    split at hmsg
    · obtain rfl := Option.some.inj hmsg
      rfl
    · cases hmsg
  | detail =>
    simp only [hpoint, detailMsg] at hmsg
    split at hmsg
    · obtain rfl := Option.some.inj hmsg
      rfl
    · cases hmsg
  | unauthorized _ | duplicate _ | notifyNoSpace | failed _ =>
    simp only [hpoint] at hmsg
    obtain rfl := Option.some.inj hmsg
    rfl
  | notifyEnrolling => exact absurd hpoint h
  | _ => simp [hpoint] at hmsg

theorem observe_remaining (cfg : FpConfig) (h : t.point ≠ .notifyEnrolling) (i : Bool × Answer) :
    ∀ e ∈ (t.observe cfg i).1, e.remaining = none := by
  have hcalls : ∀ e ∈ t.calls i.1 i.2, e.remaining = none := by
    unfold calls
    split <;> simp [EnrollEvent.remaining]
  simp only [observe, List.mem_append, List.mem_map, Option.mem_toList]
  rintro e (he | ⟨msg, hmsg, rfl⟩)
  · exact hcalls e he
  · exact step_remaining h i.1 i.2 hmsg

theorem step_passing (cfg : FpConfig) (h : t.point.passing = true) (stop : Bool) (answer : Answer) :
    ∃ point, (t.step cfg stop answer).2 = t.goto point ∧ point.storing = false := by
  obtain ⟨gid, vars, point⟩ := t
  unfold step
  cases point with
  | authorizeEnrol =>
    simp only [afterAuthorize]
    split_ifs <;> exact ⟨_, rfl, rfl⟩
  | captured ret =>
    simp only [afterCapture]
    split_ifs <;> exact ⟨_, rfl, rfl⟩
  | duplicateCheck =>
    simp only [afterDuplicateCheck]
    split_ifs <;> exact ⟨_, rfl, rfl⟩
  | loop | enrollState =>
    split_ifs <;> exact ⟨_, rfl, rfl⟩
  | returned => exact ⟨.returned, rfl, rfl⟩
  | startEnroll | enrollImg | storeTemplate | stored | discard _ | notifyEnrolling
  | notifyNoSpace | detail => cases h
  | _ => exact ⟨_, rfl, rfl⟩

inductive Phase where
  | before
  | inside
  | ended

/-- Before `start_enroll`, behind it, or returned. -/
def phase (t : EnrollTask) : Phase :=
  match t.point with
  | .authorizeEnrol | .unauthorized _ | .startEnroll => .before
  | .returned => .ended
  | _ => .inside

theorem phase_step (hphase : t.phase = .inside) (hpoint : t.point ≠ .finishEnroll) (stop : Bool)
    (answer : Answer) : (t.step cfg stop answer).2.phase = .inside := by
  unfold phase at hphase
  unfold step
  cases hp : t.point with
  | captured ret =>
    simp only [afterCapture]
    split_ifs <;> rfl
  | duplicateCheck =>
    simp only [afterDuplicateCheck]
    split_ifs <;> rfl
  | enrollImg =>
    simp only [afterEnrollImg]
    split_ifs <;> rfl
  | loop | enrollState | storeTemplate | stored =>
    split_ifs <;> rfl
  | discard task =>
    simp only
    split <;> rfl
  | finishEnroll => exact absurd hp hpoint
  | authorizeEnrol | unauthorized _ | startEnroll | returned => simp [hp] at hphase
  | _ => rfl

theorem observe_not_bracket (cfg : FpConfig) (hphase : t.phase = .inside)
    (hpoint : t.point ≠ .finishEnroll) (i : Bool × Answer) :
    ∀ e ∈ (t.observe cfg i).1, e.bracket = false := by
  have hcalls : ∀ e ∈ t.calls i.1 i.2, e.bracket = false := by
    unfold phase at hphase
    unfold calls
    split <;> simp_all [EnrollEvent.bracket]
  simp only [observe, List.mem_append, List.mem_map]
  rintro e (he | ⟨msg, -, rfl⟩)
  · exact hcalls e he
  · rfl

/-- `start_enroll` comes first, and `finish_enroll` last. -/
def Bracketed (trace : List EnrollEvent) (t : EnrollTask) : Prop :=
  match t.phase with
  | .before => trace = []
  | .inside => ∃ ret rest, trace = .startEnroll ret :: rest ∧ ∀ e ∈ rest, e.bracket = false
  | .ended => (∀ e ∈ trace, e.bracket = false) ∨
      ∃ ret rest, trace = .startEnroll ret :: (rest ++ [.finishEnroll]) ∧
        ∀ e ∈ rest, e.bracket = false

theorem bracketed_step (trace : List EnrollEvent) (t : EnrollTask) (i : Bool × Answer)
    (h : Bracketed trace t) : Bracketed (trace ++ (t.observe cfg i).1) (t.observe cfg i).2 := by
  cases hphase : t.phase with
  | before =>
    obtain rfl : trace = [] := by simpa [Bracketed, hphase] using h
    cases hpoint : t.point with
    | authorizeEnrol =>
      have hnext : (t.afterAuthorize cfg i.2.ret).phase = .before := by
        unfold afterAuthorize
        split_ifs <;> rfl
      simp [Bracketed, observe, calls, step, hpoint, hnext]
    | unauthorized code =>
      simp only [observe, calls, step, hpoint]
      exact .inl (by simp [EnrollEvent.bracket])
    | startEnroll =>
      have hnext : (t.observe cfg i).2.phase = .inside := by
        simp only [observe, step, hpoint]
        split_ifs <;> rfl
      simp only [Bracketed, hnext]
      exact ⟨i.2.ret, [], by simp [observe, calls, step, hpoint], by simp⟩
    | _ => simp [phase, hpoint] at hphase
  | inside =>
    obtain ⟨ret, rest, rfl, hrest⟩ : ∃ ret rest, trace = .startEnroll ret :: rest ∧
        ∀ e ∈ rest, e.bracket = false := by simpa [Bracketed, hphase] using h
    by_cases hpoint : t.point = .finishEnroll
    · simp only [observe, calls, step, hpoint]
      exact .inr ⟨ret, rest, rfl, hrest⟩
    · have hnext : (t.observe cfg i).2.phase = .inside := phase_step hphase hpoint i.1 i.2
      have hout := observe_not_bracket cfg hphase hpoint i
      simp only [Bracketed, hnext]
      refine ⟨ret, rest ++ (t.observe cfg i).1, rfl, ?_⟩
      intro e he
      exact (List.mem_append.mp he).elim (hrest e) (hout e)
  | ended =>
    have hpoint : t.point = .returned := by
      unfold phase at hphase
      split at hphase <;> first | assumption | cases hphase
    simpa [observe, calls, step, hpoint] using h

/-- What the TA answers, with a fixed total. -/
def Counts (total : Int) (t : EnrollTask) (i : Bool × Answer) : Prop :=
  t.point = .enrollImg → i.2.ret = 0 →
    i.2.totalEnrollCnt = total ∧ 0 ≤ i.2.curEnrollCnt ∧ i.2.curEnrollCnt ≤ total

instance (total : Int) (t : EnrollTask) (i : Bool × Answer) : Decidable (Counts total t i) :=
  inferInstanceAs (Decidable (_ → _ → _))

/-- A new sample is reported unless it is the last. -/
def Counted (total : Int) (vars : EnrollVars) (point : EnrollPoint) : Prop :=
  0 ≤ vars.lastEnrollCnt ∧ vars.lastEnrollCnt ≤ total ∧
    match point with
    | .storeTemplate | .stored | .discard _ | .notifyNoSpace =>
      vars.lastEnrollCnt < total ∧ vars.curEnrollCnt = total ∧ vars.totalEnrollCnt = total
    | .notifyEnrolling | .detail =>
      vars.lastEnrollCnt < vars.curEnrollCnt ∧ vars.curEnrollCnt ≤ total ∧
        vars.totalEnrollCnt = total
    | .loop => vars.lastEnrollCnt < total ∨ vars.totalEnrollCnt ≤ vars.curEnrollCnt
    | .failed _ | .finishEnroll | .returned => True
    | _ => vars.lastEnrollCnt < total

theorem counted_of_last
    (h : vars.lastEnrollCnt < total ∧ vars.curEnrollCnt = total ∧ vars.totalEnrollCnt = total) :
    vars.lastEnrollCnt < vars.curEnrollCnt ∧ vars.curEnrollCnt ≤ total ∧
      vars.totalEnrollCnt = total := by
  omega

theorem counted_step (cfg : FpConfig) (h : Counted total t.vars t.point) (hok : Counts total t i) :
    Counted total (t.observe cfg i).2.vars (t.observe cfg i).2.point := by
  obtain ⟨gid, vars, point⟩ := t
  change Counted total vars point at h
  obtain ⟨hlast, hle, hpoint⟩ := h
  unfold observe step
  cases point with
  | enrollImg =>
    simp only [afterEnrollImg]
    by_cases hret : i.2.ret = 0
    · obtain ⟨htotal, -, hcur⟩ := hok rfl hret
      rw [if_neg (not_not.mpr hret)]
      split_ifs with hgrown hdone hsame
      · exact ⟨hlast, hle, hpoint, hdone.trans htotal, htotal⟩
      · exact ⟨hlast, hle, hpoint⟩
      · exact ⟨hlast, hle, Int.lt_iff_le_and_ne.mpr ⟨hgrown, Ne.symm hsame⟩, hcur, htotal⟩
      · exact ⟨hlast, hle, .inl hpoint⟩
    · rw [if_pos hret]
      exact ⟨hlast, hle, trivial⟩
  | captured ret =>
    simp only [afterCapture]
    split_ifs
    · exact ⟨hlast, hle, trivial⟩
    all_goals exact ⟨hlast, hle, hpoint⟩
  | duplicateCheck =>
    simp only [afterDuplicateCheck]
    split_ifs
    · exact ⟨hlast, hle, trivial⟩
    · exact ⟨hlast, hle, trivial⟩
    all_goals exact ⟨hlast, hle, hpoint⟩
  | authorizeEnrol =>
    simp only [afterAuthorize]
    split_ifs <;> exact ⟨hlast, hle, hpoint⟩
  | startEnroll =>
    simp only
    split_ifs
    · exact ⟨hlast, hle, trivial⟩
    · exact ⟨hlast, hle, .inl hpoint⟩
  | loop =>
    simp only
    split_ifs with hmore
    · exact ⟨hlast, hle, hpoint.resolve_right (by omega)⟩
    · exact ⟨hlast, hle, trivial⟩
  | enrollState | storeTemplate =>
    split_ifs <;> exact ⟨hlast, hle, hpoint⟩
  | stored =>
    simp only
    split_ifs
    · exact ⟨hlast, hle, hpoint⟩
    · exact ⟨hlast, hle, counted_of_last hpoint⟩
  | discard task =>
    simp only
    split
    · exact ⟨hlast, hle, counted_of_last hpoint⟩
    · exact ⟨hlast, hle, hpoint⟩
  | notifyNoSpace => exact ⟨hlast, hle, counted_of_last hpoint⟩
  | detail =>
    have hcur : 0 ≤ vars.curEnrollCnt := by omega
    have hmore : vars.curEnrollCnt < total ∨ vars.totalEnrollCnt ≤ vars.curEnrollCnt := by omega
    exact ⟨hcur, hpoint.2.1, hmore⟩
  | duplicate code => exact ⟨hlast, hle, .inl hpoint⟩
  | unauthorized _ | failed _ | finishEnroll | returned => exact ⟨hlast, hle, trivial⟩
  | captureImg | unchanged | notifyEnrolling => exact ⟨hlast, hle, hpoint⟩

def floor (total : Int) (vars : EnrollVars) : EnrollPoint → Int
  | .detail => total - vars.curEnrollCnt
  | _ => total - vars.lastEnrollCnt

theorem last_step (h : t.point ≠ .detail) (i : Bool × Answer) :
    (t.observe cfg i).2.vars.lastEnrollCnt = t.vars.lastEnrollCnt := by
  by_cases hpass : t.point.passing = true
  · obtain ⟨point, hstep, -⟩ := step_passing cfg hpass i.1 i.2
    rw [observe, hstep]
    rfl
  · unfold observe step
    cases hpoint : t.point with
    | enrollImg =>
      simp only [afterEnrollImg]
      split_ifs <;> rfl
    | startEnroll | storeTemplate | stored =>
      split_ifs <;> rfl
    | discard task =>
      simp only
      split <;> rfl
    | detail => exact absurd hpoint h
    | notifyEnrolling | notifyNoSpace => rfl
    | _ => simp [hpoint, EnrollPoint.passing, EnrollPoint.storing] at hpass

theorem observe_notify (hcount : Counted total t.vars t.point)
    (hnotify : t.point = .notifyEnrolling) : (t.observe cfg i).1 =
      [.notify (.enrolling t.gid t.vars.fid (total - t.vars.curEnrollCnt))] := by
  obtain ⟨hlast, -, hpoint⟩ := hcount
  simp only [hnotify] at hpoint
  have hcur : t.vars.curEnrollCnt ≠ 0 := by omega
  simp [observe, calls, step, hnotify, constructEnrollingMsg, hcur, hpoint.2.2]

/-- The numbers reported go down, to the floor at most. -/
structure Reported (total : Int) (trace : List EnrollEvent) (t : EnrollTask) : Prop where
  decreasing : (trace.filterMap EnrollEvent.remaining).Pairwise (· > ·)
  floor : ∀ r ∈ trace.filterMap EnrollEvent.remaining, floor total t.vars t.point ≤ r

theorem floor_le (h : Counted total vars point) :
    floor total vars point ≤ total - vars.lastEnrollCnt := by
  unfold floor
  split
  · have := h.2.2.1
    omega
  · exact Int.le_refl _

theorem floor_nonneg (h : Counted total vars point) : 0 ≤ floor total vars point := by
  unfold floor
  split
  · have := h.2.2.2.1
    omega
  · have := h.2.1
    omega

theorem floor_of_ne (h : point ≠ .detail) :
    floor total vars point = total - vars.lastEnrollCnt := by
  cases point with
  | detail => exact absurd rfl h
  | _ => rfl

theorem filterMap_append_silent (trace : List EnrollEvent) {out : List EnrollEvent}
    (h : ∀ e ∈ out, e.remaining = none) :
    (trace ++ out).filterMap EnrollEvent.remaining = trace.filterMap EnrollEvent.remaining := by
  rw [List.filterMap_append, List.filterMap_eq_nil_iff.mpr h, List.append_nil]

theorem reported_step (hcount : Counted total t.vars t.point)
    (hnext : Counted total (t.observe cfg i).2.vars (t.observe cfg i).2.point)
    (h : Reported total trace t) :
    Reported total (trace ++ (t.observe cfg i).1) (t.observe cfg i).2 := by
  by_cases hnotify : t.point = .notifyEnrolling
  · -- the new value is below the floor of the old ones
    have hpoint := hcount.2.2
    simp only [hnotify] at hpoint
    have hout : (t.observe cfg i).1.filterMap EnrollEvent.remaining =
        [total - t.vars.curEnrollCnt] := by
      rw [observe_notify hcount hnotify]
      rfl
    have hbelow : ∀ r ∈ trace.filterMap EnrollEvent.remaining, total - t.vars.curEnrollCnt < r := by
      intro r hr
      have := h.floor r hr
      simp only [hnotify, floor] at this
      omega
    refine ⟨?_, ?_⟩
    · rw [List.filterMap_append, hout, List.pairwise_append]
      exact ⟨h.decreasing, by simp, by simpa using hbelow⟩
    · have hfloor : floor total (t.observe cfg i).2.vars (t.observe cfg i).2.point =
          total - t.vars.curEnrollCnt := by
        simp [observe, step, hnotify, goto, floor]
      rw [List.filterMap_append, hout, hfloor]
      intro r hr
      rcases List.mem_append.mp hr with hold | hnew
      · exact Int.le_of_lt (hbelow r hold)
      · exact Int.le_of_eq (List.mem_singleton.mp hnew).symm
  · have hsame := filterMap_append_silent trace (observe_remaining cfg hnotify i)
    refine ⟨by rw [hsame]; exact h.decreasing, ?_⟩
    rw [hsame]
    intro r hr
    have hr' := h.floor r hr
    by_cases hdetail : t.point = .detail
    · simpa [observe, step, hdetail, floor] using hr'
    · have hle := floor_le hnext
      rw [last_step hdetail] at hle
      rw [floor_of_ne hdetail] at hr'
      exact Int.le_trans hle hr'

/-- 0 is reported right after the store, with the stop flag clear. -/
def Stored (before : List EnrollEvent) (e : EnrollEvent) : Prop :=
  ∀ gid fid, e = .notify (.enrolling gid fid 0) →
    fid ≠ 0 ∧ ∃ earlier, before = earlier ++ [.enrolStoreTemplate 0 fid, .getStopStatus false]

def Ready (total : Int) (trace : List EnrollEvent) (t : EnrollTask) : Prop :=
  match t.point with
  | .stored => t.vars.fid ≠ 0 ∧
      ∃ earlier, trace = earlier ++ [.enrolStoreTemplate 0 t.vars.fid]
  | .notifyEnrolling => t.vars.curEnrollCnt = total → t.vars.fid ≠ 0 ∧
      ∃ earlier, trace = earlier ++ [.enrolStoreTemplate 0 t.vars.fid, .getStopStatus false]
  | _ => True

theorem ready_of_not_storing (h : t.point.storing = false) : Ready total trace t := by
  unfold Ready
  split
  case h_1 hpoint => simp [hpoint, EnrollPoint.storing] at h
  case h_2 hpoint => simp [hpoint, EnrollPoint.storing] at h
  case h_3 => trivial

theorem ready_step (hok : Counts total t i) (h : Ready total trace t) :
    Ready total (trace ++ (t.observe cfg i).1) (t.observe cfg i).2 := by
  by_cases hpass : t.point.passing = true
  · obtain ⟨point, hstep, hstore⟩ := step_passing cfg hpass i.1 i.2
    refine ready_of_not_storing ?_
    rw [observe, hstep]
    exact hstore
  · unfold observe calls step
    cases hpoint : t.point with
    | enrollImg =>
      simp only [afterEnrollImg]
      split_ifs with hret hgrown hdone hsame
      · trivial
      · trivial
      · trivial
      · -- the sample was counted and is not the last
        have htotal := (hok hpoint (not_not.mp hret)).1
        exact fun hcur => absurd (hcur.trans htotal.symm) hdone
      · trivial
    | storeTemplate =>
      simp only
      split_ifs with hfail
      · trivial
      · obtain ⟨hret, hfid⟩ := not_or.mp hfail
        exact ⟨hfid, trace, by simp [goto, not_not.mp hret]⟩
    | stored =>
      simp only [Ready, hpoint] at h
      obtain ⟨hfid, earlier, rfl⟩ := h
      simp only
      split_ifs with hstop
      · trivial
      · exact fun _ => ⟨hfid, earlier, by simp [goto, hstop]⟩
    | startEnroll =>
      split_ifs <;> trivial
    | discard task =>
      simp only
      split <;> trivial
    | notifyEnrolling | notifyNoSpace | detail => trivial
    | _ => simp [hpoint, EnrollPoint.passing, EnrollPoint.storing] at hpass

theorem stored_step (hcount : Counted total t.vars t.point) (hready : Ready total trace t)
    (h : Justified Stored trace) : Justified Stored (trace ++ (t.observe cfg i).1) := by
  by_cases hnotify : t.point = .notifyEnrolling
  · rw [observe_notify hcount hnotify]
    refine h.snoc ?_
    intro gid fid heq
    simp only [EnrollEvent.notify.injEq, FingerprintMsg.enrolling.injEq] at heq
    obtain ⟨-, rfl, hzero⟩ := heq
    simp only [Ready, hnotify] at hready
    exact hready (by omega)
  · refine h.append fun e he before gid fid heq => ?_
    have hnone := observe_remaining cfg hnotify i e he
    rw [heq] at hnone
    cases hnone

structure ProgressInvariant (total : Int) (trace : List EnrollEvent) (t : EnrollTask) :
    Prop where
  bracketed : Bracketed trace t
  counted : Counted total t.vars t.point
  reported : Reported total trace t
  ready : Ready total trace t
  stored : Justified Stored trace

theorem progressInvariant_step (trace : List EnrollEvent) (t : EnrollTask) (i : Bool × Answer)
    (h : ProgressInvariant total trace t) (hok : Counts total t i) :
    ProgressInvariant total (trace ++ (t.observe cfg i).1) (t.observe cfg i).2 := by
  have hcount := counted_step cfg h.counted hok
  exact ⟨bracketed_step trace t i h.bracketed, hcount,
    reported_step h.counted hcount h.reported, ready_step hok h.ready,
    stored_step h.counted h.ready h.stored⟩

end EnrollTask

/-- The missing samples go down to 0, which is the last message. -/
structure Progress (trace : List EnrollEvent) : Prop where
  decreasing : (trace.filterMap EnrollEvent.remaining).Pairwise (· > ·)
  nonneg : ∀ r ∈ trace.filterMap EnrollEvent.remaining, 0 ≤ r
  last : ∀ before gid fid after, trace = before ++ .notify (.enrolling gid fid 0) :: after →
    after.filterMap EnrollEvent.remaining = [] ∧ fid ≠ 0 ∧
      ∃ earlier, before = earlier ++ [.enrolStoreTemplate 0 fid, .getStopStatus false]

namespace EnrollTask

theorem ProgressInvariant.progress {total : Int} {trace : List EnrollEvent} {t : EnrollTask}
    (h : ProgressInvariant total trace t) : Progress trace := by
  have hnonneg : ∀ r ∈ trace.filterMap EnrollEvent.remaining, 0 ≤ r := fun r hr =>
    Int.le_trans (floor_nonneg h.counted) (h.reported.floor r hr)
  refine ⟨h.reported.decreasing, hnonneg, ?_⟩
  rintro before gid fid after rfl
  refine ⟨List.eq_nil_iff_forall_not_mem.mpr fun r hr => ?_,
    h.stored before _ after rfl gid fid rfl⟩
  -- a later value would be negative
  have hremaining : EnrollEvent.remaining (.notify (.enrolling gid fid 0)) = some 0 := rfl
  have hdecrease := h.reported.decreasing
  rw [List.filterMap_append, List.filterMap_cons_some hremaining] at hdecrease hnonneg
  have hlt := (List.pairwise_cons.mp (List.pairwise_append.mp hdecrease).2.1).1 r hr
  have hge := hnonneg r (by simp [hr])
  omega

/-- With a fixed total the missing samples go down to 0, the last message. -/
theorem enroll_progress (cfg : FpConfig) (gid : Int) (total : Int) (htotal : 1 ≤ total)
    (inputs : List (Bool × Answer))
    (hmeets : Meets (observe cfg) (Counts total) (start gid) inputs) :
    Progress (run (observe cfg) (start gid) inputs).1 ∧
      ∀ ret, .startEnroll ret ∈ (run (observe cfg) (start gid) inputs).1 →
        (run (observe cfg) (start gid) inputs).2.point = .returned →
        ∃ rest, (run (observe cfg) (start gid) inputs).1 =
            .startEnroll ret :: (rest ++ [.finishEnroll]) ∧ .finishEnroll ∉ rest := by
  have hstart : ProgressInvariant total [] (start gid) := by
    refine ⟨rfl, ⟨Int.le_refl 0, ?_, ?_⟩, ⟨.nil, by simp⟩, trivial, .nil⟩
    · exact Int.le_trans Int.one_nonneg htotal
    · exact Int.lt_of_lt_of_le Int.zero_lt_one htotal
  have h := run_invariant progressInvariant_step hstart hmeets
  rw [List.nil_append] at h
  refine ⟨h.progress, fun ret hret hreturned => ?_⟩
  have hphase : (run (observe cfg) (start gid) inputs).2.phase = .ended := by
    rw [phase, hreturned]
  have hbracket := h.bracketed
  simp only [Bracketed, hphase] at hbracket
  rcases hbracket with hnone | ⟨ret', rest, htrace, hrest⟩
  · cases hnone _ hret
  · have hfinish : .finishEnroll ∉ rest := fun hmem => by cases hrest _ hmem
    rw [htrace] at hret ⊢
    have heq : ret = ret' := by
      rcases List.mem_cons.mp hret with heq | hmem
      · exact EnrollEvent.startEnroll.inj heq
      · rcases List.mem_append.mp hmem with hmem | hmem
        · cases hrest _ hmem
        · cases List.mem_singleton.mp hmem
    exact ⟨rest, by rw [heq], hfinish⟩

def completeEnrollInputs : List (Bool × Answer) :=
  let sample (cur : Int) : List (Bool × Answer) :=
    [(false, { ret := 0 }), (false, { ret := 0 }), (false, { ret := 0 }), (false, { ret := 0 }),
      (false, { ret := 0, totalEnrollCnt := 2, curEnrollCnt := cur })]
  [(false, { ret := 0 }), (false, { ret := 0 })] ++ sample 1 ++
    [(false, { ret := 0 }), (false, { ret := 0 })] ++ sample 2 ++
    [(false, { ret := 0, fid := 3 }), (false, { ret := 0 }), (false, { ret := 0 }),
      (false, { ret := 0 }), (false, { ret := 0 }), (false, { ret := 0 })]

theorem completeEnroll_progress : (run (observe plainConfig) (start 7) completeEnrollInputs).1 =
        [.startEnroll 0, .notify (.acquired acquiredGood), .notify (.enrolling 7 0 1),
          .notify (.acquired acquiredGood), .enrolStoreTemplate 0 3, .getStopStatus false,
          .notify (.enrolling 7 3 0), .finishEnroll] ∧
      (run (observe plainConfig) (start 7) completeEnrollInputs).2.point = .returned ∧
      Progress (run (observe plainConfig) (start 7) completeEnrollInputs).1 :=
  ⟨by decide +kernel, by decide +kernel,
    (enroll_progress plainConfig 7 2 (by decide) completeEnrollInputs
      (by decide +kernel)).1⟩

end EnrollTask

end WikoPlatform.Chipone
