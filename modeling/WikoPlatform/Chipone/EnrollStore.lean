import WikoPlatform.Chipone.EnrollProgress
import WikoPlatform.Chipone.Templates

/-! One call of `fpTacImpl::enroll` with the templates of the trusted application. -/

namespace WikoPlatform.Chipone

open Runs Act

/-- The calls other than those that change the templates give `answer` and leave the proxy as
`proxy`. -/
structure EnrollInput where
  stop : Bool
  answer : Answer
  x₁ : Exchange
  x₂ : Exchange
  proxy : TaProxy

def EnrollTask.serve (t : EnrollTask) (tee : Tee) (i : EnrollInput) : Answer × Tee :=
  match t.point with
  | .storeTemplate =>
    let reply := tee.exec i.x₁.par (TaProxy.enrolStoreTemplate i.x₁ i.x₂ t.vars.fid)
    let result := reply.1.getD (-enoent, t.vars.fid)
    ({ ret := result.1, fid := result.2 }, reply.2)
  | .discard task => task.serve tee i.x₁ i.x₂
  | _ => (i.answer, { tee with proxy := i.proxy })

theorem RemoveTask.step_silent (answer : Answer) (t : RemoveTask) (gid f : Int) :
    .enrolling gid f 0 ∉ (t.step answer).1.toList := by
  intro hmem
  have hres := step_not_result answer t (Option.mem_toList.mp hmem)
  cases hres

theorem EnrollTask.step_discard (cfg : FpConfig) (stop : Bool) (answer : Answer) {t : EnrollTask}
    {task : RemoveTask} (h : t.point = .discard task) : t.step cfg stop answer =
      if task.point = .returned then (none, t.goto .detail)
      else ((task.step answer).1, t.goto (.discard (task.step answer).2)) := by
  simp only [step, h]
  split
  next hreturned => rw [if_pos hreturned]
  next hne => rw [if_neg hne]

structure Enrollment where
  task : EnrollTask
  tee : Tee

def Enrollment.step (cfg : FpConfig) (s : Enrollment) (i : EnrollInput) :
    List FingerprintMsg × Enrollment :=
  let reply := s.task.serve s.tee i
  ((s.task.step cfg i.stop reply.1).1.toList, ⟨(s.task.step cfg i.stop reply.1).2, reply.2⟩)

theorem Tee.exec_enrolStoreTemplate (tee : Tee) (x₁ x₂ : Exchange) (fid : Int) :
    (tee.exec x₁.par (TaProxy.enrolStoreTemplate x₁ x₂ fid)).1 = some (-enoent, fid) ∧
        (tee.exec x₁.par (TaProxy.enrolStoreTemplate x₁ x₂ fid)).2.enrolled = tee.enrolled ∨
      (tee.proxy.fpInitilized = true ∧ tee.proxy.acknowledges x₁ (.noPayload .endEnroll) = true) ∧
        (∃ ret, (tee.exec x₁.par (TaProxy.enrolStoreTemplate x₁ x₂ fid)).1 = some (ret, x₁.par) ∧
          (ret = 0 ↔ (tee.proxy.constructed x₁ (.noPayload .endEnroll)).acknowledges x₂
            (.noPayload .storeTemplate) = true)) ∧
        (tee.exec x₁.par (TaProxy.enrolStoreTemplate x₁ x₂ fid)).2.enrolled =
          if x₁.par = 0 then tee.enrolled else tee.enrolled ++ [x₁.par] := by
  unfold exec
  cases hinit : tee.proxy.fpInitilized with
  | false =>
    rw [TaProxy.enrolStoreTemplate_uninitilized hinit]
    exact .inl ⟨rfl, rfl⟩
  | true =>
    cases hack : tee.proxy.acknowledges x₁ (.noPayload .endEnroll) with
    | false =>
      rw [TaProxy.enrolStoreTemplate_refused hinit hack]
      refine .inl ⟨rfl, ?_⟩
      simp only [TaProxy.foldl_served_sent, hack]
      rfl
    | true =>
      obtain ⟨ret, hcall, hret⟩ := TaProxy.enrolStoreTemplate_stored hinit hack x₂ fid
      refine .inr ⟨⟨rfl, rfl⟩, ⟨ret, by rw [hcall], hret⟩, ?_⟩
      rw [hcall]
      simp only [List.foldl_append, TaProxy.foldl_served_sent, hack, if_true]
      rw [← TaProxy.foldl_served_sent, TaProxy.foldl_served_silent fun _ _ => rfl]
      rfl

section

variable (gid : Int) (ids enrolled : List Int) (trace : List FingerprintMsg)

/-- No new finger is enrolled, and none was notified. -/
structure Unadded : Prop where
  absent : ∀ f, f ∉ ids → f ∉ enrolled
  silent : ∀ f, .enrolling gid f 0 ∉ trace

/-- One new finger is enrolled, and none was notified. -/
structure Unreported (fid : Int) : Prop where
  present : fid ∈ enrolled
  only : ∀ f, f ∉ ids → (f ∈ enrolled ↔ f = fid)
  silent : ∀ f, .enrolling gid f 0 ∉ trace

/-- A new finger is enrolled exactly if its end was notified. -/
def NoOrphan : Prop := ∀ f, f ∉ ids → (f ∈ enrolled ↔ .enrolling gid f 0 ∈ trace)

end

section

variable {gid fid : Int} {ids enrolled : List Int} {trace out : List FingerprintMsg}

theorem Unadded.noOrphan (h : Unadded gid ids enrolled trace) : NoOrphan gid ids enrolled trace :=
  fun f hf => iff_of_false (h.absent f hf) (h.silent f)

theorem Unadded.append (h : Unadded gid ids enrolled trace) (hout : ∀ f, .enrolling gid f 0 ∉ out) :
    Unadded gid ids enrolled (trace ++ out) :=
  ⟨h.absent, fun f hmem => (List.mem_append.mp hmem).elim (h.silent f) (hout f)⟩

theorem Unadded.add (h : Unadded gid ids enrolled trace) (fid : Int) :
    Unreported gid ids (enrolled ++ [fid]) trace fid := by
  refine ⟨by simp, fun f hf => ?_, h.silent⟩
  simp [h.absent f hf]

theorem Unreported.append (h : Unreported gid ids enrolled trace fid)
    (hout : ∀ f, .enrolling gid f 0 ∉ out) : Unreported gid ids enrolled (trace ++ out) fid :=
  ⟨h.present, h.only, fun f hmem => (List.mem_append.mp hmem).elim (h.silent f) (hout f)⟩

theorem Unreported.drop (h : Unreported gid ids enrolled trace fid) (hfid : fid ≠ 0) :
    Unadded gid ids (dropFid fid enrolled) trace := by
  refine ⟨fun f hf hmem => ?_, h.silent⟩
  obtain ⟨hmem, hne⟩ := (mem_dropFid hfid).mp hmem
  exact hne ((h.only f hf).mp hmem)

theorem Unreported.report (h : Unreported gid ids enrolled trace fid) :
    NoOrphan gid ids enrolled (trace ++ [.enrolling gid fid 0]) := by
  intro f hf
  rw [h.only f hf]
  simp [h.silent f]

theorem NoOrphan.append (h : NoOrphan gid ids enrolled trace)
    (hout : ∀ f, .enrolling gid f 0 ∉ out) : NoOrphan gid ids enrolled (trace ++ out) := by
  intro f hf
  rw [h f hf]
  simp [hout f]

end

namespace Enrollment

def Discardable (task : RemoveTask) (tee : Tee) (x₁ x₂ : Exchange) : Prop :=
  match task.point with
  | .getEnrolledFids => (task.serve tee x₁ x₂).1.ret = 0
  | .removeOne _ => tee.proxy.fpInitilized = true ∧
      tee.proxy.acknowledges x₁ (.gidFid .remove task.gid task.fid) = true
  | _ => True

instance (task : RemoveTask) (tee : Tee) (x₁ x₂ : Exchange) :
    Decidable (Discardable task tee x₁ x₂) := by
  unfold Discardable
  split <;> infer_instance

/-- The TA counts to a total, and fails neither before the store nor in a removal. -/
def Sound (s : Enrollment) (i : EnrollInput) : Prop :=
  match s.task.point with
  | .enrollImg => i.answer.ret = 0 → 0 ≤ i.answer.curEnrollCnt ∧ 1 ≤ i.answer.totalEnrollCnt
  | .storeTemplate =>
    s.tee.proxy.fpInitilized = true →
      s.tee.proxy.acknowledges i.x₁ (.noPayload .endEnroll) = true →
      (s.tee.proxy.constructed i.x₁ (.noPayload .endEnroll)).acknowledges i.x₂
        (.noPayload .storeTemplate) = true
  | .discard task => Discardable task s.tee i.x₁ i.x₂
  | _ => True

instance (s : Enrollment) (i : EnrollInput) : Decidable (s.Sound i) := by
  unfold Sound
  split <;> infer_instance

def Discarding (gid fid : Int) (ids enrolled : List Int) (trace : List FingerprintMsg)
    (point : RemovePoint) : Prop :=
  match point with
  | .getEnrolledFids => Unreported gid ids enrolled trace fid
  | .removeOne found => found = enrolled ∧ Unreported gid ids enrolled trace fid
  | .removeEach _ | .notifyEach _ _ => False
  | _ => Unadded gid ids enrolled trace

def Settling (ids : List Int) (trace : List FingerprintMsg) (s : Enrollment) : Prop :=
  let vars := s.task.vars
  match s.task.point with
  | .storeTemplate => Unadded s.task.gid ids s.tee.enrolled trace ∧
      vars.curEnrollCnt = vars.totalEnrollCnt ∧ 1 ≤ vars.totalEnrollCnt
  | .stored => (Unreported s.task.gid ids s.tee.enrolled trace vars.fid ∧ vars.fid ≠ 0) ∧
      vars.curEnrollCnt = vars.totalEnrollCnt ∧ 1 ≤ vars.totalEnrollCnt
  | .discard task => (task.gid = s.task.gid ∧ task.fid ≠ 0) ∧
      Discarding task.gid task.fid ids s.tee.enrolled trace task.point
  | .notifyEnrolling =>
      Unadded s.task.gid ids s.tee.enrolled trace ∧
        vars.curEnrollCnt ≠ 0 ∧ vars.curEnrollCnt ≠ vars.totalEnrollCnt ∨
      Unreported s.task.gid ids s.tee.enrolled trace vars.fid ∧
        vars.curEnrollCnt = vars.totalEnrollCnt ∧ 1 ≤ vars.totalEnrollCnt
  | .detail | .loop =>
      Unadded s.task.gid ids s.tee.enrolled trace ∨
      NoOrphan s.task.gid ids s.tee.enrolled trace ∧ vars.totalEnrollCnt ≤ vars.curEnrollCnt
  | .failed _ | .finishEnroll | .returned => NoOrphan s.task.gid ids s.tee.enrolled trace
  | _ => Unadded s.task.gid ids s.tee.enrolled trace

structure StoreInvariant (gid : Int) (ids : List Int) (trace : List FingerprintMsg)
    (s : Enrollment) : Prop where
  gid_eq : s.task.gid = gid
  last : 0 ≤ s.task.vars.lastEnrollCnt
  cur : s.task.point.storing = true → 0 ≤ s.task.vars.curEnrollCnt
  settling : s.Settling ids trace

variable {ids : List Int} {trace : List FingerprintMsg} {s : Enrollment} {gid : Int}
  {task : RemoveTask} {tee : Tee} {vars : EnrollVars} {i : EnrollInput}

theorem settling_of_unadded (hpoint : s.task.point.storing = false)
    (h : Unadded s.task.gid ids s.tee.enrolled trace) : s.Settling ids trace := by
  unfold Settling
  split
  case h_5 => exact .inl h
  case h_6 => exact .inl h
  case h_7 | h_8 | h_9 => exact h.noOrphan
  case h_10 => exact h
  all_goals simp_all [EnrollPoint.storing]

theorem step_silent (cfg : FpConfig) (h : s.task.point ≠ .notifyEnrolling) (i : EnrollInput)
    (gid f : Int) : .enrolling gid f 0 ∉ (s.step cfg i).1 := by
  intro hmem
  have hnone := EnrollTask.step_remaining h i.stop _ (Option.mem_toList.mp hmem)
  cases hnone

theorem serve_passing {t : EnrollTask} (h : t.point.passing = true) (tee : Tee) (i : EnrollInput) :
    (t.serve tee i).2.enrolled = tee.enrolled := by
  unfold EnrollTask.serve
  split
  case h_1 hpoint => simp [hpoint, EnrollPoint.passing, EnrollPoint.storing] at h
  case h_2 hpoint => simp [hpoint, EnrollPoint.passing, EnrollPoint.storing] at h
  case h_3 => rfl

theorem storeInvariant_passing {cfg : FpConfig} (i : EnrollInput)
    (hpass : s.task.point.passing = true) (h : StoreInvariant gid ids trace s)
    (hunadded : Unadded s.task.gid ids s.tee.enrolled trace) :
    StoreInvariant gid ids (trace ++ (s.step cfg i).1) (s.step cfg i).2 := by
  obtain ⟨point, hstep, hstore⟩ :=
    EnrollTask.step_passing cfg hpass i.stop (s.task.serve s.tee i).1
  have hpoint : s.task.point ≠ .notifyEnrolling := by
    intro hpoint
    simp [hpoint, EnrollPoint.passing, EnrollPoint.storing] at hpass
  have htask : (s.step cfg i).2.task = s.task.goto point := hstep
  have henrol : (s.step cfg i).2.tee.enrolled = s.tee.enrolled := serve_passing hpass s.tee i
  refine ⟨?_, ?_, ?_, settling_of_unadded ?_ ?_⟩
  · rw [htask]
    exact h.gid_eq
  · rw [htask]
    exact h.last
  · rw [htask]
    exact fun hs => absurd (hstore.symm.trans hs) Bool.false_ne_true
  · rw [htask]
    exact hstore
  · rw [htask, henrol]
    exact hunadded.append (step_silent cfg hpoint i _)

theorem Discarding.append {fid : Int} {enrolled : List Int} {out : List FingerprintMsg}
    {point : RemovePoint} (h : Discarding gid fid ids enrolled trace point)
    (hout : ∀ f, .enrolling gid f 0 ∉ out) :
    Discarding gid fid ids enrolled (trace ++ out) point := by
  cases point with
  | getEnrolledFids => exact Unreported.append h hout
  | removeOne found => exact ⟨h.1, h.2.append hout⟩
  | removeEach _ | notifyEach _ _ => exact h.elim
  | _ => exact Unadded.append h hout

theorem discarding_step {x₁ x₂ : Exchange} (hfid : task.fid ≠ 0) (hok : Discardable task tee x₁ x₂)
    (h : Discarding task.gid task.fid ids tee.enrolled trace task.point) :
    Discarding task.gid task.fid ids (task.serve tee x₁ x₂).2.enrolled trace
      (task.step (task.serve tee x₁ x₂).1).2.point := by
  obtain ⟨g, f, report, point⟩ := task
  cases point with
  | getEnrolledFids =>
    have hsame := RemoveTask.serve_getEnrolledFids (t := ⟨g, f, report, .getEnrolledFids⟩) rfl tee
      x₁ x₂
    simp only [Discardable] at hok
    simp only [RemoveTask.step]
    rw [if_neg (not_not.mpr hok), if_neg hfid]
    exact ⟨hsame.symm, hsame ▸ h⟩
  | removeEach _ | notifyEach _ _ => exact h.elim
  | removeOne found =>
    obtain ⟨rfl, hnew⟩ := h
    obtain ⟨hinit, hack⟩ := hok
    have hcall : RemoveTask.call x₁ x₂ ⟨g, f, report, .removeOne tee.enrolled⟩ =
        TaProxy.deleteFid x₁ x₂ g f := if_pos hnew.present
    have hremoves : tee.removes x₁ g f = true := by rw [Tee.removes, hinit, hack]; rfl
    have hserve := RemoveTask.serve_deleteFid hcall tee
    rw [if_pos hremoves] at hserve
    have hunadded := hnew.drop hfid
    rw [← hserve] at hunadded
    simp only [RemoveTask.step]
    split_ifs <;> exact hunadded
  | clear =>
    have hcall : RemoveTask.call x₁ x₂ ⟨g, f, report, .clear⟩ = TaProxy.deleteFid x₁ x₂ g 0 := rfl
    have hunadded : Unadded g ids (RemoveTask.serve ⟨g, f, report, .clear⟩ tee x₁ x₂).2.enrolled
        trace := by
      rw [RemoveTask.serve_deleteFid hcall]
      split
      · exact ⟨fun _ _ => List.not_mem_nil, h.silent⟩
      · exact h
    exact hunadded
  | reportOne size =>
    simp only [RemoveTask.step]
    split_ifs <;> exact h
  | failed | succeeded | returned =>
    exact h

theorem storeInvariant_storeTemplate (cfg : FpConfig)
    (h : StoreInvariant gid ids trace ⟨⟨gid, vars, .storeTemplate⟩, tee⟩)
    (hok : Sound ⟨⟨gid, vars, .storeTemplate⟩, tee⟩ i) :
    StoreInvariant gid ids (trace ++ (step cfg ⟨⟨gid, vars, .storeTemplate⟩, tee⟩ i).1)
      (step cfg ⟨⟨gid, vars, .storeTemplate⟩, tee⟩ i).2 := by
  obtain ⟨-, hlast, hcur, hunadded, hdone, htotal⟩ := h
  simp only [step, EnrollTask.step, EnrollTask.serve, Option.toList_none, List.append_nil]
  rcases tee.exec_enrolStoreTemplate i.x₁ i.x₂ vars.fid with
    ⟨hres, hsame⟩ | ⟨⟨hinit, hack⟩, ⟨ret, hres, hret⟩, hadded⟩
  · rw [← hsame] at hunadded
    simp only [hres, Option.getD_some]
    exact ⟨rfl, hlast, fun _ => hcur rfl, hunadded⟩
  · simp only [hres, Option.getD_some, hret.mpr (hok hinit hack)]
    by_cases hpar : i.x₁.par = 0
    · rw [if_pos hpar] at hadded
      rw [← hadded] at hunadded
      rw [if_pos (.inr hpar)]
      exact ⟨rfl, hlast, fun _ => hcur rfl, hunadded⟩
    · have hnew := hunadded.add i.x₁.par
      rw [if_neg hpar] at hadded
      rw [← hadded] at hnew
      rw [if_neg (by simp [hpar])]
      exact ⟨rfl, hlast, fun _ => hcur rfl, ⟨hnew, hpar⟩, hdone, htotal⟩

theorem storeInvariant_discard (cfg : FpConfig)
    (h : StoreInvariant gid ids trace ⟨⟨gid, vars, .discard task⟩, tee⟩)
    (hok : Sound ⟨⟨gid, vars, .discard task⟩, tee⟩ i) :
    StoreInvariant gid ids (trace ++ (step cfg ⟨⟨gid, vars, .discard task⟩, tee⟩ i).1)
      (step cfg ⟨⟨gid, vars, .discard task⟩, tee⟩ i).2 := by
  obtain ⟨-, hlast, hcur, ⟨hgid, hfid⟩, hdiscard⟩ := h
  subst hgid
  have hstep := EnrollTask.step_discard cfg i.stop (task.serve tee i.x₁ i.x₂).1
    (t := ⟨task.gid, vars, .discard task⟩) rfl
  by_cases hreturned : task.point = .returned
  · have hidle : task.serve tee i.x₁ i.x₂ = ({ ret := 0, fids := tee.enrolled }, tee) :=
      RemoveTask.serve_idle (by rw [RemoveTask.call, hreturned])
    have hunadded : Unadded task.gid ids tee.enrolled trace := by
      simpa [Discarding, hreturned] using hdiscard
    rw [if_pos hreturned, hidle] at hstep
    simp only [step, EnrollTask.serve, hidle, hstep, Option.toList_none, List.append_nil]
    exact ⟨rfl, hlast, fun _ => hcur rfl, .inl hunadded⟩
  · have hnext := discarding_step hfid hok hdiscard
    obtain ⟨hgid, htfid⟩ := task.step_gid_fid (task.serve tee i.x₁ i.x₂).1
    rw [if_neg hreturned] at hstep
    simp only [step, EnrollTask.serve, hstep]
    refine ⟨rfl, hlast, fun _ => hcur rfl, ⟨hgid, by rwa [htfid]⟩, ?_⟩
    rw [hgid, htfid]
    exact hnext.append (task.step_silent _ _)

theorem storeInvariant_step (cfg : FpConfig) (trace : List FingerprintMsg) (s : Enrollment)
    (i : EnrollInput) (h : StoreInvariant gid ids trace s) (hok : s.Sound i) :
    StoreInvariant gid ids (trace ++ (s.step cfg i).1) (s.step cfg i).2 := by
  obtain ⟨⟨g, vars, point⟩, tee⟩ := s
  obtain ⟨hg, hlast, hcur, hsettle⟩ := id h
  change 0 ≤ vars.lastEnrollCnt at hlast
  subst hg
  cases point with
  | loop =>
    rcases hsettle with hunadded | ⟨hno, hdone⟩
    · exact storeInvariant_passing i rfl h hunadded
    · have hmore : ¬ vars.curEnrollCnt < vars.totalEnrollCnt := Int.not_lt.mpr hdone
      simp only [step, EnrollTask.step, if_neg hmore, Option.toList_none, List.append_nil]
      exact ⟨rfl, hlast, by rintro ⟨⟩, hno⟩
  | failed _ | finishEnroll | returned =>
    exact ⟨rfl, hlast, by rintro ⟨⟩, hsettle.append (step_silent cfg (by rintro ⟨⟩) i g)⟩
  | startEnroll =>
    simp only [step, EnrollTask.step, Option.toList_none, List.append_nil]
    split_ifs
    · exact ⟨rfl, hlast, by rintro ⟨⟩, hsettle.noOrphan⟩
    · exact ⟨rfl, hlast, by rintro ⟨⟩, .inl hsettle⟩
  | enrollImg =>
    simp only [step, EnrollTask.step, EnrollTask.afterEnrollImg, Option.toList_none,
      List.append_nil]
    split_ifs with hret hgrown hdone hsame
    · exact ⟨rfl, hlast, by rintro ⟨⟩, hsettle.noOrphan⟩
    · obtain ⟨hcur, htotal⟩ := hok (not_not.mp hret)
      exact ⟨rfl, hlast, fun _ => hcur, hsettle, hdone, htotal⟩
    · exact ⟨rfl, hlast, by rintro ⟨⟩, hsettle⟩
    · have hnext := (hok (not_not.mp hret)).1
      change vars.lastEnrollCnt ≤ i.answer.curEnrollCnt at hgrown
      change ¬ i.answer.curEnrollCnt = vars.lastEnrollCnt at hsame
      have hpos : i.answer.curEnrollCnt ≠ 0 := by omega
      exact ⟨rfl, hlast, fun _ => hnext, .inl ⟨hsettle, hpos, hdone⟩⟩
    · exact ⟨rfl, hlast, by rintro ⟨⟩, .inl hsettle⟩
  | storeTemplate => exact storeInvariant_storeTemplate cfg h hok
  | stored =>
    obtain ⟨⟨hnew, hfid⟩, hdone, htotal⟩ := hsettle
    simp only [step, EnrollTask.step, Option.toList_none, List.append_nil]
    split_ifs
    · exact ⟨rfl, hlast, fun _ => hcur rfl, ⟨rfl, hfid⟩, hnew⟩
    · exact ⟨rfl, hlast, fun _ => hcur rfl, .inr ⟨hnew, hdone, htotal⟩⟩
  | discard task => exact storeInvariant_discard cfg h hok
  | notifyEnrolling =>
    have hout : vars.curEnrollCnt ≠ 0 → (step cfg ⟨⟨g, vars, .notifyEnrolling⟩, tee⟩ i).1 =
        [.enrolling g vars.fid (vars.totalEnrollCnt - vars.curEnrollCnt)] := fun hpos => by
      simp [step, EnrollTask.step, constructEnrollingMsg, hpos]
    simp only [Settling] at hsettle
    rcases hsettle with ⟨hunadded, hpos, hmore⟩ | ⟨hnew, hdone, htotal⟩
    · refine ⟨rfl, hlast, fun _ => hcur rfl, .inl (hunadded.append fun f hmem => ?_)⟩
      rw [hout hpos, List.mem_singleton, FingerprintMsg.enrolling.injEq] at hmem
      omega
    · refine ⟨rfl, hlast, fun _ => hcur rfl, .inr ⟨?_, Int.le_of_eq hdone.symm⟩⟩
      rw [hout (by omega), hdone, Int.sub_self]
      exact hnew.report
  | notifyNoSpace =>
    exact ⟨rfl, hlast, fun _ => hcur rfl, .inl (hsettle.append (step_silent cfg (by simp) i g))⟩
  | detail =>
    have hout := step_silent cfg (s := ⟨⟨g, vars, .detail⟩, tee⟩) (by simp) i g
    refine ⟨rfl, hcur rfl, by rintro ⟨⟩, ?_⟩
    exact hsettle.imp (·.append hout) fun hno => ⟨hno.1.append hout, hno.2⟩
  | _ => exact storeInvariant_passing i rfl h hsettle

theorem enroll_noOrphan (cfg : FpConfig) (gid : Int) (tee : Tee) (inputs : List EnrollInput)
    (hmeets : Meets (step cfg) Sound ⟨.start gid, tee⟩ inputs)
    (hreturned : (run (step cfg) ⟨.start gid, tee⟩ inputs).2.task.point = .returned) :
    NoOrphan gid tee.enrolled (run (step cfg) ⟨.start gid, tee⟩ inputs).2.tee.enrolled
      (run (step cfg) ⟨.start gid, tee⟩ inputs).1 := by
  have hstart : StoreInvariant gid tee.enrolled [] ⟨.start gid, tee⟩ := by
    refine ⟨rfl, Int.le_refl 0, by rintro ⟨⟩, ?_⟩
    exact ⟨fun f hf => hf, fun f => List.not_mem_nil⟩
  obtain ⟨hgid, -, -, hsettle⟩ := run_invariant (storeInvariant_step cfg) hstart hmeets
  simp only [Settling, hreturned, List.nil_append] at hsettle
  rwa [hgid] at hsettle

end Enrollment

def EnrollInput.succeeds : EnrollInput := ⟨false, { ret := 0 }, acknowledged, acknowledged, .opened⟩

def singleSampleInputs (total : Int) (store : EnrollInput) : List EnrollInput :=
  List.replicate 6 .succeeds ++
    [{ EnrollInput.succeeds with
        answer := { ret := 0, totalEnrollCnt := total, curEnrollCnt := total } }, store]

def newFinger : EnrollInput :=
  { EnrollInput.succeeds with x₁ := { acknowledged with par := 3 } }

def enrollFour : Enrollment := ⟨.start 7, .opened, [4]⟩

theorem stoppedEnroll_noOrphan :
    let inputs := singleSampleInputs 1 newFinger ++ [{ EnrollInput.succeeds with stop := true }] ++
      List.replicate 8 .succeeds
    (run (Enrollment.step plainConfig) enrollFour inputs).2.tee.enrolled = [4] ∧
      NoOrphan 7 [4] (run (Enrollment.step plainConfig) enrollFour inputs).2.tee.enrolled
        (run (Enrollment.step plainConfig) enrollFour inputs).1 :=
  ⟨by decide +kernel, Enrollment.enroll_noOrphan plainConfig 7 ⟨.opened, [4]⟩ _
    (by decide +kernel) (by decide +kernel)⟩

def unacknowledged : Exchange := { acknowledged with rspCode := 5 }

def unstoredEnroll : List FingerprintMsg × Enrollment :=
  run (Enrollment.step plainConfig) enrollFour
    (singleSampleInputs 1 { newFinger with x₂ := unacknowledged } ++ List.replicate 4 .succeeds)

def undiscardedEnroll : List FingerprintMsg × Enrollment :=
  run (Enrollment.step plainConfig) enrollFour
    (singleSampleInputs 1 newFinger ++ [{ EnrollInput.succeeds with stop := true },
      { EnrollInput.succeeds with x₁ := unacknowledged }] ++ List.replicate 5 .succeeds)

def uncountedEnroll : List FingerprintMsg × Enrollment :=
  run (Enrollment.step plainConfig) enrollFour
    (singleSampleInputs 0 newFinger ++ List.replicate 5 .succeeds)

theorem not_noOrphan {out : List FingerprintMsg × Enrollment} (hmem : 3 ∈ out.2.tee.enrolled)
    (hsilent : .enrolling 7 3 0 ∉ out.1) : ¬ NoOrphan 7 [4] out.2.tee.enrolled out.1 :=
  fun h => hsilent ((h 3 (by decide)).mp hmem)

theorem enroll_orphans : (unstoredEnroll.2.task.point = .returned ∧
      ¬ NoOrphan 7 [4] unstoredEnroll.2.tee.enrolled unstoredEnroll.1) ∧
    (undiscardedEnroll.2.task.point = .returned ∧
      ¬ NoOrphan 7 [4] undiscardedEnroll.2.tee.enrolled undiscardedEnroll.1) ∧
    (uncountedEnroll.2.task.point = .returned ∧
      ¬ NoOrphan 7 [4] uncountedEnroll.2.tee.enrolled uncountedEnroll.1) := by
  refine ⟨⟨?_, not_noOrphan ?_ ?_⟩, ⟨?_, not_noOrphan ?_ ?_⟩, ⟨?_, not_noOrphan ?_ ?_⟩⟩
  all_goals decide +kernel

end WikoPlatform.Chipone
