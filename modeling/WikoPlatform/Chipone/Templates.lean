import WikoPlatform.Chipone.Remove
import WikoPlatform.Chipone.TaProxy

/-! The templates that the trusted application holds, and `fpTacImpl::delete_fid` over the proxy
that sends the commands. -/

namespace WikoPlatform.Chipone

open Runs Act

/-- `REMOVE` of finger 0 clears the database. -/
def dropFid (fid : Int) (ids : List Int) : List Int :=
  if fid = 0 then [] else ids.filter (· ≠ fid)

/-- `END_ENROLL` gives the new finger, 0 if there is none. -/
def served (par : Int) (ids : List Int) (s : Sent) : List Int :=
  if s.ret ≠ 0 then ids
  else
    match s.command with
    | some (.gidFid .remove _ fid) => dropFid fid ids
    | some (.noPayload .endEnroll) => if par = 0 then ids else ids ++ [par]
    | _ => ids

/-- The proxy, and the fingers that the TA holds. -/
structure Tee where
  proxy : TaProxy
  enrolled : List Int
  deriving DecidableEq

def Tee.exec {α : Type} (tee : Tee) (par : Int) (call : Proxy α) : Option α × Tee :=
  ((call tee.proxy).result,
    ⟨(call tee.proxy).state, (call tee.proxy).trace.foldl (served par) tee.enrolled⟩)

namespace TaProxy

variable {p : TaProxy} {x x₁ x₂ : Exchange} {gid fid : Int}

theorem foldl_served_sent (p : TaProxy) (x : Exchange) (command : Command) (par : Int)
    (ids : List Int) : (p.sent x command).foldl (served par) ids =
      if p.acknowledges x command then served par ids ⟨some command, 0⟩ else ids := by
  unfold sent acknowledges
  cases p.constructs x command with
  | false => simp
  | true =>
    by_cases hanswer : p.answer x command = 0
    · simp [hanswer]
    · simp [served, hanswer]

theorem foldl_served_silent {command : Command}
    (h : ∀ par ids, served par ids ⟨some command, 0⟩ = ids) (par : Int) (ids : List Int) :
    (p.sent x command).foldl (served par) ids = ids := by
  rw [foldl_served_sent, h, ite_self]

theorem deleteFid_foldl_served (hinit : p.fpInitilized = true) (par : Int) (ids : List Int) :
    (deleteFid x₁ x₂ gid fid p).trace.foldl (served par) ids =
      if p.acknowledges x₁ (.gidFid .remove gid fid) then dropFid fid ids else ids := by
  have hremove := foldl_served_sent p x₁ (.gidFid .remove gid fid) par ids
  rcases deleteFid_sends hinit x₁ x₂ gid fid with ⟨-, -, hcall⟩ | ⟨-, ret, hcall, -⟩
  · rw [hcall, hremove]
    rfl
  · rw [hcall, List.foldl_append, hremove, foldl_served_silent fun _ _ => rfl]
    rfl

/-- The `STORE_TEMPLATE` behind a `REMOVE` is acknowledged. -/
def stores (p : TaProxy) (x₁ x₂ : Exchange) (gid fid : Int) : Bool :=
  (p.constructed x₁ (.gidFid .remove gid fid)).acknowledges x₂ (.noPayload .storeTemplate)

theorem deleteFid_result_iff (hinit : p.fpInitilized = true) :
    (deleteFid x₁ x₂ gid fid p).result = some 0 ↔
      (p.constructs x₁ (.gidFid .remove gid fid) = true →
        p.acknowledges x₁ (.gidFid .remove gid fid) = true) ∧ p.stores x₁ x₂ gid fid = true := by
  rcases deleteFid_sends hinit x₁ x₂ gid fid with ⟨hc, hanswer, hcall⟩ | ⟨hack, ret, hcall, hret⟩
  · simp [hcall, hc, acknowledges_of_constructs hc, hanswer]
  · rw [hcall, Option.some.injEq, hret, ← hack]
    simp [stores]

end TaProxy

theorem getD_eq_zero {o : Option Int} : o.getD (-enoent) = 0 ↔ o = some 0 := by
  cases o with
  | none => simp [enoent]
  | some ret => simp

namespace Tee

/-- The TA acknowledges the `REMOVE`. -/
def removes (tee : Tee) (x : Exchange) (gid fid : Int) : Bool :=
  tee.proxy.fpInitilized && tee.proxy.acknowledges x (.gidFid .remove gid fid)

/-- No store succeeds after a `REMOVE` that was left out. -/
def Unmasking (tee : Tee) (x₁ x₂ : Exchange) (gid fid : Int) : Prop :=
  tee.proxy.fpInitilized = true → tee.proxy.stores x₁ x₂ gid fid = true →
    tee.proxy.constructs x₁ (.gidFid .remove gid fid) = true

instance (tee : Tee) (x₁ x₂ : Exchange) (gid fid : Int) :
    Decidable (tee.Unmasking x₁ x₂ gid fid) :=
  inferInstanceAs (Decidable (_ → _))

variable (tee : Tee) (par : Int) (x₁ x₂ : Exchange) (gid fid : Int)

theorem exec_deleteFid : (tee.exec par (TaProxy.deleteFid x₁ x₂ gid fid)).2.enrolled =
      if tee.removes x₁ gid fid then dropFid fid tee.enrolled else tee.enrolled := by
  unfold exec removes
  cases hinit : tee.proxy.fpInitilized with
  | false =>
    rw [TaProxy.deleteFid_uninitilized hinit]
    rfl
  | true => exact TaProxy.deleteFid_foldl_served hinit par tee.enrolled

theorem exec_deleteFid_zero_iff : (tee.exec par (TaProxy.deleteFid x₁ x₂ gid fid)).1 = some 0 ↔
      tee.proxy.fpInitilized = true ∧
        (tee.proxy.constructs x₁ (.gidFid .remove gid fid) = true → tee.removes x₁ gid fid = true) ∧
        tee.proxy.stores x₁ x₂ gid fid = true := by
  unfold exec removes
  cases hinit : tee.proxy.fpInitilized with
  | false =>
    rw [TaProxy.deleteFid_uninitilized hinit]
    simp [enoent]
  | true => simp [TaProxy.deleteFid_result_iff hinit]

theorem exec_getEnrolledFids (x : Exchange) :
    (tee.exec par (TaProxy.getEnrolledFids x)).2.enrolled = tee.enrolled := by
  unfold exec
  cases hinit : tee.proxy.fpInitilized with
  | false => rw [TaProxy.getEnrolledFids_uninitilized hinit]; rfl
  | true =>
    obtain ⟨ret, hcall, -⟩ := TaProxy.getEnrolledFids_sends hinit x
    rw [hcall]
    exact TaProxy.foldl_served_silent (fun _ _ => rfl) _ _

end Tee

def RemoveTask.call (x₁ x₂ : Exchange) (t : RemoveTask) : Proxy Int :=
  match t.point with
  | .getEnrolledFids => TaProxy.getEnrolledFids x₁
  | .removeEach (id :: _) => TaProxy.deleteFid x₁ x₂ t.gid id
  | .removeOne ids => if t.fid ∈ ids then TaProxy.deleteFid x₁ x₂ t.gid t.fid else pure 0
  | .clear => TaProxy.deleteFid x₁ x₂ t.gid 0
  | _ => pure 0

def RemoveTask.serve (t : RemoveTask) (tee : Tee) (x₁ x₂ : Exchange) : Answer × Tee :=
  ({ ret := (tee.exec x₁.par (t.call x₁ x₂)).1.getD (-enoent), fids := tee.enrolled },
    (tee.exec x₁.par (t.call x₁ x₂)).2)

structure Removal where
  task : RemoveTask
  tee : Tee
  deriving DecidableEq

def Removal.step (s : Removal) (x : Exchange × Exchange) : List FingerprintMsg × Removal :=
  let reply := s.task.serve s.tee x.1 x.2
  ((s.task.step reply.1).1.toList, ⟨(s.task.step reply.1).2, reply.2⟩)

namespace RemoveTask

variable {t : RemoveTask} {tee : Tee} {x₁ x₂ : Exchange} {id : Int}

theorem serve_fids : (t.serve tee x₁ x₂).1.fids = tee.enrolled := rfl

theorem serve_getEnrolledFids (h : t.point = .getEnrolledFids) (tee : Tee) (x₁ x₂ : Exchange) :
    (t.serve tee x₁ x₂).2.enrolled = tee.enrolled := by
  simp only [serve, call, h, Tee.exec_getEnrolledFids]

section

variable (h : t.call x₁ x₂ = TaProxy.deleteFid x₁ x₂ t.gid id) (tee : Tee)
include h

theorem serve_deleteFid : (t.serve tee x₁ x₂).2.enrolled =
      if tee.removes x₁ t.gid id then dropFid id tee.enrolled else tee.enrolled := by
  simp only [serve, h]
  exact tee.exec_deleteFid _ _ _ _ _

theorem serve_deleteFid_zero_iff : (t.serve tee x₁ x₂).1.ret = 0 ↔ tee.proxy.fpInitilized = true ∧
        (tee.proxy.constructs x₁ (.gidFid .remove t.gid id) = true →
          tee.removes x₁ t.gid id = true) ∧ tee.proxy.stores x₁ x₂ t.gid id = true := by
  simp only [serve, h, getD_eq_zero]
  exact tee.exec_deleteFid_zero_iff _ _ _ _ _

theorem serve_deleteFid_zero (hmask : tee.Unmasking x₁ x₂ t.gid id)
    (hret : (t.serve tee x₁ x₂).1.ret = 0) :
    (t.serve tee x₁ x₂).2.enrolled = dropFid id tee.enrolled := by
  obtain ⟨hinit, hremoves, hstores⟩ := (serve_deleteFid_zero_iff h tee).mp hret
  rw [serve_deleteFid h, if_pos (hremoves (hmask hinit hstores))]

theorem serve_deleteFid_settled
    (hstore : tee.removes x₁ t.gid id = true → tee.proxy.stores x₁ x₂ t.gid id = true)
    (hmask : tee.Unmasking x₁ x₂ t.gid id) : (t.serve tee x₁ x₂).2.enrolled =
      if (t.serve tee x₁ x₂).1.ret = 0 then dropFid id tee.enrolled else tee.enrolled := by
  by_cases hret : (t.serve tee x₁ x₂).1.ret = 0
  · rw [if_pos hret, serve_deleteFid_zero h tee hmask hret]
  · rw [if_neg hret, serve_deleteFid h, if_neg fun hremoves => hret ?_]
    have hinit : tee.proxy.fpInitilized = true := (Bool.and_eq_true_iff.mp hremoves).1
    exact (serve_deleteFid_zero_iff h tee).mpr ⟨hinit, fun _ => hremoves, hstore hremoves⟩

end

theorem serve_idle (h : t.call x₁ x₂ = pure 0) :
    t.serve tee x₁ x₂ = ({ ret := 0, fids := tee.enrolled }, tee) := by
  rw [serve, h]
  rfl

end RemoveTask

namespace Removal

/-- A finger reported is enrolled, its `REMOVE` is sent, and the database is not cleared with others
in it. -/
def Sound (s : Removal) (x : Exchange × Exchange) : Prop :=
  match s.task.point with
  | .removeOne ids => s.task.reportRmResult = true →
      s.task.fid ∈ ids ∧ s.tee.Unmasking x.1 x.2 s.task.gid s.task.fid
  | .clear => s.tee.removes x.1 s.task.gid 0 = true → ∀ f ∈ s.tee.enrolled, f = s.task.fid
  | _ => True

instance (s : Removal) (x : Exchange × Exchange) : Decidable (s.Sound x) := by
  unfold Sound
  split <;> infer_instance

end Removal

/-- Every other finger is still enrolled, and the finger was reported only if it was enrolled and is
gone. -/
structure Framed (gid fid : Int) (ids enrolled : List Int) (trace : List FingerprintMsg) :
    Prop where
  others : ∀ f ∈ ids, f ≠ fid → f ∈ enrolled
  reported : .removed gid fid ∈ trace → fid ∈ ids ∧ fid ∉ enrolled

theorem mem_dropFid {fid f : Int} {ids : List Int} (hfid : fid ≠ 0) :
    f ∈ dropFid fid ids ↔ f ∈ ids ∧ f ≠ fid := by
  simp [dropFid, hfid]

theorem mem_of_mem_dropFid {fid f : Int} {ids : List Int} (h : f ∈ dropFid fid ids) : f ∈ ids := by
  unfold dropFid at h
  split at h
  · cases h
  · exact List.mem_of_mem_filter h

namespace Framed

variable {gid fid : Int} {ids enrolled : List Int} {trace : List FingerprintMsg}

theorem of_silent (hsilent : .removed gid fid ∉ trace)
    (h : ∀ f ∈ ids, f ≠ fid → f ∈ enrolled) : Framed gid fid ids enrolled trace :=
  ⟨h, fun hmem => absurd hmem hsilent⟩

theorem append (h : Framed gid fid ids enrolled trace) {out : List FingerprintMsg}
    (hout : .removed gid fid ∉ out) : Framed gid fid ids enrolled (trace ++ out) := by
  refine ⟨h.others, fun hmem => h.reported ?_⟩
  exact (List.mem_append.mp hmem).resolve_right hout

theorem clear (h : Framed gid fid ids enrolled trace) (honly : ∀ f ∈ enrolled, f = fid) :
    Framed gid fid ids [] trace :=
  ⟨fun f hf hne => absurd (honly f (h.others f hf hne)) hne,
    fun hmem => ⟨(h.reported hmem).1, List.not_mem_nil⟩⟩

end Framed

namespace Removal

def Pending (ids : List Int) (trace : List FingerprintMsg) (s : Removal) : Prop :=
  match s.task.point with
  | .getEnrolledFids => s.tee.enrolled = ids ∧ .removed s.task.gid s.task.fid ∉ trace
  | .removeOne found =>
    found = ids ∧ s.tee.enrolled = ids ∧ .removed s.task.gid s.task.fid ∉ trace
  | .reportOne _ =>
    .removed s.task.gid s.task.fid ∉ trace ∧ (∀ f ∈ ids, f ≠ s.task.fid → f ∈ s.tee.enrolled) ∧
      (s.task.reportRmResult = true → s.task.fid ∈ ids ∧ s.task.fid ∉ s.tee.enrolled)
  | .removeEach _ | .notifyEach _ _ => False
  | .clear | .failed | .succeeded | .returned =>
    Framed s.task.gid s.task.fid ids s.tee.enrolled trace

structure OneInvariant (gid fid : Int) (ids : List Int) (trace : List FingerprintMsg)
    (s : Removal) : Prop where
  task : s.task.gid = gid ∧ s.task.fid = fid
  pending : s.Pending ids trace

variable {ids : List Int}

theorem Pending.framed {s : Removal} {trace : List FingerprintMsg}
    (h : s.Pending ids trace) : Framed s.task.gid s.task.fid ids s.tee.enrolled trace := by
  unfold Pending at h
  split at h
  · exact .of_silent h.2 fun f hf _ => h.1 ▸ hf
  · exact .of_silent h.2.2 fun f hf _ => h.2.1 ▸ hf
  · exact .of_silent h.1 h.2.1
  · exact h.elim
  · exact h.elim
  all_goals exact h

theorem oneInvariant_step {gid fid : Int} (hfid : fid ≠ 0) (trace : List FingerprintMsg)
    (s : Removal) (x : Exchange × Exchange) (h : OneInvariant gid fid ids trace s)
    (hok : s.Sound x) : OneInvariant gid fid ids (trace ++ (s.step x).1) (s.step x).2 := by
  obtain ⟨⟨g, f, report, point⟩, tee⟩ := s
  obtain ⟨⟨hg, hf⟩, hpend⟩ := h
  subst hg hf
  simp only [Pending] at hpend
  cases point with
  | getEnrolledFids =>
    obtain ⟨rfl, hsilent⟩ := hpend
    have hsame := RemoveTask.serve_getEnrolledFids (t := ⟨g, f, report, .getEnrolledFids⟩) rfl tee
      x.1 x.2
    simp only [step, RemoveTask.step, if_neg hfid, Option.toList_none, List.append_nil]
    split
    · exact ⟨⟨rfl, rfl⟩, .of_silent hsilent fun f hf _ => hsame ▸ hf⟩
    · exact ⟨⟨rfl, rfl⟩, rfl, hsame, hsilent⟩
  | removeEach _ | notifyEach _ _ => exact hpend.elim
  | removeOne found =>
    obtain ⟨rfl, hfound, hsilent⟩ := hpend
    subst hfound
    have hcall : f ∈ tee.enrolled →
        RemoveTask.call x.1 x.2 ⟨g, f, report, .removeOne tee.enrolled⟩ =
          TaProxy.deleteFid x.1 x.2 g f := fun hmem => if_pos hmem
    have hkept : ∀ id ∈ tee.enrolled, id ≠ f → id ∈ (RemoveTask.serve
        ⟨g, f, report, .removeOne tee.enrolled⟩ tee x.1 x.2).2.enrolled := by
      intro id hid hne
      by_cases hmem : f ∈ tee.enrolled
      · rw [RemoveTask.serve_deleteFid (hcall hmem)]
        split
        · exact (mem_dropFid hfid).mpr ⟨hid, hne⟩
        · exact hid
      · have hidle : RemoveTask.call x.1 x.2 ⟨g, f, report, .removeOne tee.enrolled⟩ = pure 0 :=
          if_neg hmem
        rwa [RemoveTask.serve_idle hidle]
    simp only [step, RemoveTask.step, Option.toList_none, List.append_nil]
    split
    next hfail => exact ⟨⟨rfl, rfl⟩, .of_silent hsilent hkept⟩
    next hdone =>
      refine ⟨⟨rfl, rfl⟩, hsilent, hkept, fun hreport => ?_⟩
      obtain ⟨hmem, hmask⟩ := hok hreport
      have hret := not_not.mp fun hne => hdone ⟨hmem, hne⟩
      rw [RemoveTask.serve_deleteFid_zero (hcall hmem) tee hmask hret]
      exact ⟨hmem, fun hdrop => ((mem_dropFid hfid).mp hdrop).2 rfl⟩
  | reportOne size =>
    obtain ⟨hsilent, hkept, hreported⟩ := hpend
    have hframed : Framed g f ids tee.enrolled
        (trace ++ (if report then some (.removed g f) else none).toList) := by
      cases report with
      | false => simpa using Framed.of_silent hsilent hkept
      | true => exact ⟨hkept, fun _ => hreported rfl⟩
    rw [step]
    simp only [RemoveTask.step]
    by_cases hone : size = 1
    · rw [if_pos hone]
      exact ⟨⟨rfl, rfl⟩, hframed⟩
    · rw [if_neg hone]
      exact ⟨⟨rfl, rfl⟩, hframed⟩
  | clear =>
    have hleft : Framed g f ids (RemoveTask.serve ⟨g, f, report, .clear⟩ tee x.1 x.2).2.enrolled
        trace := by
      rw [RemoveTask.serve_deleteFid rfl]
      split
      next hremoves => exact hpend.clear (hok hremoves)
      next => exact hpend
    simp only [step, RemoveTask.step, Option.toList_none, List.append_nil]
    exact ⟨⟨rfl, rfl⟩, hleft⟩
  | failed | succeeded | returned =>
    refine ⟨⟨rfl, rfl⟩, ?_⟩
    rw [step]
    exact hpend.append (by cases report <;> simp [RemoveTask.step, hfid])

theorem sound_of_ended {s : Removal} (h : s.task.point = .failed ∨ s.task.point = .succeeded ∨
    s.task.point = .returned) (inputs : List (Exchange × Exchange)) :
    Meets step Sound s inputs := by
  induction inputs generalizing s with
  | nil => trivial
  | cons x inputs ih =>
    obtain ⟨⟨g, f, report, point⟩, tee⟩ := s
    rcases h with rfl | rfl | rfl <;> exact ⟨trivial, ih (.inr (.inr rfl))⟩

section

variable {gid fid : Int} {report : Bool} {tee : Tee} {x y z : Exchange × Exchange}
  {rest : List (Exchange × Exchange)} {trace : List FingerprintMsg}

theorem sound_reportOne {size : Nat} (hsub : ∀ f ∈ tee.enrolled, f ∈ ids) (h : Framed gid fid ids
      (run step ⟨⟨gid, fid, report, .reportOne size⟩, tee⟩ [x, y]).2.tee.enrolled trace) :
    Meets step Sound ⟨⟨gid, fid, report, .reportOne size⟩, tee⟩ (x :: y :: rest) := by
  have hidle : RemoveTask.serve ⟨gid, fid, report, .reportOne size⟩ tee x.1 x.2 = (_, tee) :=
    RemoveTask.serve_idle rfl
  refine ⟨trivial, ?_⟩
  by_cases hone : size = 1
  · simp only [run, step, RemoveTask.step, hidle, if_pos hone, RemoveTask.goto] at h ⊢
    refine ⟨fun hremoves f hf => by_contra fun hne => ?_, sound_of_ended (.inr (.inl rfl)) rest⟩
    rw [RemoveTask.serve_deleteFid rfl] at h
    rw [if_pos hremoves] at h
    exact List.not_mem_nil (h.others f (hsub f hf) hne)
  · simp only [step, RemoveTask.step, if_neg hone]
    exact sound_of_ended (.inr (.inl rfl)) _

theorem sound_removeOne (hids : tee.enrolled = ids) (hreported : Framed gid fid ids
      (run step ⟨⟨gid, fid, report, .removeOne ids⟩, tee⟩ [x, y]).2.tee.enrolled
      (run step ⟨⟨gid, fid, report, .removeOne ids⟩, tee⟩ [x, y]).1) (hcleared : Framed gid fid ids
      (run step ⟨⟨gid, fid, report, .removeOne ids⟩, tee⟩ [x, y, z]).2.tee.enrolled trace) :
    Meets step Sound ⟨⟨gid, fid, report, .removeOne ids⟩, tee⟩ (x :: y :: z :: rest) := by
  have hcall : fid ∈ ids → RemoveTask.call x.1 x.2 ⟨gid, fid, report, .removeOne ids⟩ =
      TaProxy.deleteFid x.1 x.2 gid fid := fun hmem => if_pos hmem
  generalize hreply : RemoveTask.serve ⟨gid, fid, report, .removeOne ids⟩ tee x.1 x.2 = reply
  have hserve : fid ∈ ids → reply.2.enrolled =
      if tee.removes x.1 gid fid then dropFid fid ids else ids := fun hmem => by
    rw [← hreply, RemoveTask.serve_deleteFid (hcall hmem), hids]
  have hsub : ∀ f ∈ reply.2.enrolled, f ∈ ids := by
    intro f hf
    by_cases hmem : fid ∈ ids
    · rw [hserve hmem] at hf
      split at hf
      · exact mem_of_mem_dropFid hf
      · exact hf
    · have hidle : RemoveTask.call x.1 x.2 ⟨gid, fid, report, .removeOne ids⟩ = pure 0 :=
        if_neg hmem
      rw [← hreply, RemoveTask.serve_idle hidle] at hf
      exact hids ▸ hf
  by_cases hfails : fid ∈ ids ∧ reply.1.ret ≠ 0
  · have hstep : step ⟨⟨gid, fid, report, .removeOne ids⟩, tee⟩ x =
        ([], ⟨⟨gid, fid, report, .failed⟩, reply.2⟩) := by
      simp only [step, RemoveTask.step, hreply, if_pos hfails, Option.toList_none, RemoveTask.goto]
    rw [Meets, hstep]
    refine ⟨fun _ => ⟨hfails.1, fun hinit hstores => by_contra fun hleft => ?_⟩,
      sound_of_ended (.inl rfl) _⟩
    have hzero := RemoveTask.serve_deleteFid_zero_iff (hcall hfails.1) tee
    rw [hreply] at hzero
    exact hfails.2 (hzero.mpr ⟨hinit, fun hc => absurd hc hleft, hstores⟩)
  · have hstep : step ⟨⟨gid, fid, report, .removeOne ids⟩, tee⟩ x =
        ([], ⟨⟨gid, fid, report, .reportOne ids.length⟩, reply.2⟩) := by
      simp only [step, RemoveTask.step, hreply, if_neg hfails, Option.toList_none, RemoveTask.goto]
    rw [run, hstep] at hreported hcleared
    rw [Meets, hstep]
    refine ⟨fun hreport => ?_, sound_reportOne hsub hcleared⟩
    obtain rfl : report = true := hreport
    obtain ⟨hmem, hgone⟩ := hreported.reported (by simp [run, step, RemoveTask.step])
    refine ⟨hmem, fun _ _ => by_contra fun hleft => hgone ?_⟩
    have hunsent : tee.removes x.1 gid fid = false := by
      simp [Tee.removes, TaProxy.not_acknowledges (Bool.eq_false_iff.mpr hleft)]
    have hkept : fid ∈ reply.2.enrolled := by
      rw [hserve hmem, hunsent]
      exact hmem
    exact hkept

end

/-- A removal leaves the other fingers exactly if it is sound. -/
theorem singleRemoval_framed_iff (gid : Int) {fid : Int} (hfid : fid ≠ 0) (reportRmResult : Bool)
    (tee : Tee) (x₀ x₁ x₂ x₃ : Exchange × Exchange) (rest : List (Exchange × Exchange)) :
    (∀ n,
      let next := run step ⟨.start gid fid reportRmResult, tee⟩
        ((x₀ :: x₁ :: x₂ :: x₃ :: rest).take n)
      Framed gid fid tee.enrolled next.2.tee.enrolled next.1) ↔
    Meets step Sound ⟨.start gid fid reportRmResult, tee⟩ (x₀ :: x₁ :: x₂ :: x₃ :: rest) := by
  constructor
  · intro h
    refine ⟨trivial, ?_⟩
    generalize hreply : RemoveTask.serve (.start gid fid reportRmResult) tee x₀.1 x₀.2 = reply
    have hids : reply.2.enrolled = tee.enrolled := by
      rw [← hreply]
      exact RemoveTask.serve_getEnrolledFids rfl tee x₀.1 x₀.2
    have hfids : reply.1.fids = tee.enrolled := by rw [← hreply]; rfl
    have hstep : step ⟨.start gid fid reportRmResult, tee⟩ x₀ =
        ([], ⟨⟨gid, fid, reportRmResult,
          if reply.1.ret ≠ 0 then .failed else .removeOne tee.enrolled⟩, reply.2⟩) := by
      simp only [step, hreply]
      simp only [RemoveTask.start, RemoveTask.step, RemoveTask.goto, if_neg hfid, hfids]
      split <;> rfl
    have hreported : Framed gid fid tee.enrolled
        (run step (step ⟨.start gid fid reportRmResult, tee⟩ x₀).2 [x₁, x₂]).2.tee.enrolled
        ((step ⟨.start gid fid reportRmResult, tee⟩ x₀).1 ++
          (run step (step ⟨.start gid fid reportRmResult, tee⟩ x₀).2 [x₁, x₂]).1) := h 3
    have hcleared : Framed gid fid tee.enrolled
        (run step (step ⟨.start gid fid reportRmResult, tee⟩ x₀).2 [x₁, x₂, x₃]).2.tee.enrolled _ :=
      h 4
    rw [hstep] at hreported hcleared ⊢
    split at hreported
    next hret =>
      rw [if_pos hret]
      exact sound_of_ended (.inl rfl) _
    next hret =>
      rw [if_neg hret] at hcleared ⊢
      exact sound_removeOne hids hreported hcleared
  · intro hmeets n
    have hstart : OneInvariant gid fid tee.enrolled [] ⟨.start gid fid reportRmResult, tee⟩ :=
      ⟨⟨rfl, rfl⟩, rfl, List.not_mem_nil⟩
    obtain ⟨⟨hgid, hfid'⟩, hpend⟩ :=
      run_invariant (oneInvariant_step hfid) hstart (hmeets.take n)
    have hframed := hpend.framed
    rwa [hgid, hfid'] at hframed

end Removal

theorem singleRemoval_of_enrolled :
    let s : Removal := ⟨.start 7 3 true, .opened, [3, 4]⟩
    let inputs := List.replicate 5 (acknowledged, acknowledged)
    Meets Removal.step Removal.Sound s inputs ∧
      (run Removal.step s inputs).2.task.point = .returned ∧
      Framed 7 3 [3, 4] (run Removal.step s inputs).2.tee.enrolled
        (run Removal.step s inputs).1 :=
  have hmeets : Meets Removal.step Removal.Sound ⟨.start 7 3 true, .opened, [3, 4]⟩
      (List.replicate 5 (acknowledged, acknowledged)) := by decide +kernel
  ⟨hmeets, by decide +kernel,
    (Removal.singleRemoval_framed_iff 7 (by decide) true ⟨.opened, [3, 4]⟩ _ _ _ _ _).mpr hmeets 5⟩

def unenrolledRemoval : List FingerprintMsg × Removal :=
  run Removal.step ⟨.start 7 9 true, .opened, [3]⟩
    (List.replicate 5 (acknowledged, acknowledged))

def starvedRemoval : List FingerprintMsg × Removal :=
  run Removal.step ⟨.start 7 3 true, ⟨true, CmdProcessor.new false⟩, [3, 4]⟩
    [(acknowledged, acknowledged), ({ acknowledged with available := false }, acknowledged),
      (acknowledged, acknowledged)]

theorem singleRemoval_not_framed :
    (.removed 7 9 ∈ unenrolledRemoval.1 ∧ 3 ∉ unenrolledRemoval.2.tee.enrolled ∧
      ¬ Framed 7 9 [3] unenrolledRemoval.2.tee.enrolled unenrolledRemoval.1) ∧
    (.removed 7 3 ∈ starvedRemoval.1 ∧ 3 ∈ starvedRemoval.2.tee.enrolled ∧
      ¬ Framed 7 3 [3, 4] starvedRemoval.2.tee.enrolled starvedRemoval.1) := by
  have hreported : .removed 7 9 ∈ unenrolledRemoval.1 := by decide +kernel
  have hlost : 3 ∉ unenrolledRemoval.2.tee.enrolled := by decide +kernel
  have hmasked : .removed 7 3 ∈ starvedRemoval.1 := by decide +kernel
  have hstays : 3 ∈ starvedRemoval.2.tee.enrolled := by decide +kernel
  refine ⟨⟨hreported, hlost, fun h => ?_⟩, ⟨hmasked, hstays, fun h => ?_⟩⟩
  · exact hlost (h.others 3 (by decide) (by decide))
  · exact (h.reported hmasked).2 hstays

end WikoPlatform.Chipone
