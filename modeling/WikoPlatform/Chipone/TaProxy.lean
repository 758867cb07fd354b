import WikoPlatform.Chipone.CommandBuffer
import WikoPlatform.Chipone.Message
import WikoPlatform.Lib.Act

/-! The calls of `fpTaEntryProxy` that change what the trusted application stores, command by
command, in the build with `FEATURE_TEE_STORAGE`. -/

namespace WikoPlatform.Chipone

open Runs Act

/-- What one command meets; `par` is the one parameter of the response. -/
structure Exchange where
  available : Bool
  session : Bool
  status : Int
  rspCode : Int
  par : Int
  deriving DecidableEq

def Exchange.tlcFunc (x : Exchange) (len : Int) : Int :=
  if x.session = false then -1
  else if (fpCmdSize : Int) < len % 2 ^ 32 then -1
  else if x.status ≠ 0 then -1
  else x.rspCode

structure TaProxy where
  fpInitilized : Bool
  processor : CmdProcessor
  deriving DecidableEq

structure Sent where
  command : Option Command
  ret : Int
  deriving DecidableEq

abbrev Proxy (α : Type) : Type := Act TaProxy Sent α

namespace TaProxy

def initCheck : Proxy Int := do
  pure (if (← get).fpInitilized then 0 else errorHwUnavailable)

def construct (x : Exchange) (command : Command) : Proxy Int := do
  let c := command.construct (← get).processor x.available
  modify fun p => { p with processor := c.processor }
  pure c.ret

def sendCmd (x : Exchange) : Proxy Int := do
  let processor := (← get).processor
  emit ⟨processor.command, x.tlcFunc processor.mCmdLen⟩
  pure (x.tlcFunc processor.mCmdLen)

def sendCmdNoPayload (x : Exchange) (cmd : TciFpCmd) : Proxy Int := do
  let status ← construct x (.noPayload cmd)
  if status ≠ 0 then pure status else sendCmd x

def loadTemplate (x : Exchange) : Proxy Int := do
  if (← construct x (.loadTemplate 0 0)) = 0 then sendCmd x else pure (-enoent)

/-- The result of `SET_ACTIVE_GROUP` is overwritten by the load's. -/
def setActiveGroup (x₁ x₂ : Exchange) (igid : Int) (path : List UInt8) : Proxy Int := do
  if (← initCheck) ≠ 0 then pure (-enoent)
  else
    if (← construct x₁ (.setActiveGroup igid path)) = 0 then
      let _ ← sendCmd x₁
    loadTemplate x₂

def storeTemplate (x : Exchange) : Proxy Int := sendCmdNoPayload x .storeTemplate

/-- A `REMOVE` that cannot be constructed is left out. -/
def deleteFid (x₁ x₂ : Exchange) (gid fid : Int) : Proxy Int := do
  if (← initCheck) ≠ 0 then pure (-enoent)
  else if (← construct x₁ (.gidFid .remove gid fid)) = 0 then
    let ret ← sendCmd x₁
    if ret ≠ 0 then pure ret else storeTemplate x₂
  else storeTemplate x₂

/-- Returns `*pFid` as well. -/
def enrolStoreTemplate (x₁ x₂ : Exchange) (fid : Int) : Proxy (Int × Int) := do
  if (← initCheck) ≠ 0 then pure (-enoent, fid)
  else if (← sendCmdNoPayload x₁ .endEnroll) = 0 then
    let ret ← storeTemplate x₂
    pure (ret, x₁.par)
  else pure (-enoent, fid)

def getEnrolledFids (x : Exchange) : Proxy Int := do
  if (← initCheck) ≠ 0 then pure (-enoent)
  else if (← sendCmdNoPayload x .getEnrolledFids) = 0 then pure 0
  else pure (-enoent)

def constructs (p : TaProxy) (x : Exchange) (command : Command) : Bool :=
  (command.construct p.processor x.available).ret = 0

def constructed (p : TaProxy) (x : Exchange) (command : Command) : TaProxy :=
  { p with processor := (command.construct p.processor x.available).processor }

def answer (p : TaProxy) (x : Exchange) (command : Command) : Int :=
  x.tlcFunc (p.constructed x command).processor.mCmdLen

def sent (p : TaProxy) (x : Exchange) (command : Command) : List Sent :=
  if p.constructs x command then [⟨some command, p.answer x command⟩] else []

def acknowledges (p : TaProxy) (x : Exchange) (command : Command) : Bool :=
  p.constructs x command && decide (p.answer x command = 0)

/-- The result is 0 exactly if the last command was acknowledged. -/
def Sends (p : TaProxy) (x : Exchange) (command : Command) (out : Outcome TaProxy Sent Int) :
    Prop :=
  ∃ ret, out = ⟨p.sent x command, p.constructed x command, some ret⟩ ∧
    (ret = 0 ↔ p.acknowledges x command = true)

def SendsBoth (p : TaProxy) (x₁ x₂ : Exchange) (first second : Command)
    (out : Outcome TaProxy Sent Int) : Prop :=
  ∃ ret, out = ⟨p.sent x₁ first ++ (p.constructed x₁ first).sent x₂ second,
      (p.constructed x₁ first).constructed x₂ second, some ret⟩ ∧
    (ret = 0 ↔ (p.constructed x₁ first).acknowledges x₂ second = true)

section

variable {p : TaProxy} {x x₁ x₂ : Exchange} {command command' : Command} {α : Type}

theorem mem_sent : ⟨some command', 0⟩ ∈ p.sent x command ↔
    command' = command ∧ p.acknowledges x command = true := by
  unfold sent acknowledges
  cases p.constructs x command with
  | false => simp
  | true => simp [eq_comm]

theorem construct_bind (f : Int → Proxy α) : (construct x command >>= f) p =
      f (command.construct p.processor x.available).ret (p.constructed x command) := rfl

theorem sendCmd_constructed (h : p.constructs x command = true) :
    sendCmd x (p.constructed x command) =
      ⟨p.sent x command, p.constructed x command, some (p.answer x command)⟩ := by
  have hcommand : (p.constructed x command).processor.command = some command :=
    Command.construct_command (of_decide_eq_true h)
  simp only [sent, h, if_true, ← hcommand]
  rfl

theorem sent_of_not_constructs (h : p.constructs x command = false) : p.sent x command = [] := by
  simp [sent, h]

theorem acknowledges_of_constructs (h : p.constructs x command = true) :
    p.acknowledges x command = true ↔ p.answer x command = 0 := by
  simp [acknowledges, h]

theorem not_acknowledges (h : p.constructs x command = false) :
    p.acknowledges x command = false := by
  simp [acknowledges, h]

theorem sends_of_construct {f : Int → Proxy Int} (hsend : f 0 = sendCmd x)
    (hfails : ∀ ret, ret ≠ 0 → ∃ ret' ≠ 0, f ret = pure ret') :
    p.Sends x command ((construct x command >>= f) p) := by
  rw [construct_bind]
  cases h : p.constructs x command with
  | true =>
    rw [of_decide_eq_true h, hsend, sendCmd_constructed h]
    exact ⟨_, rfl, (acknowledges_of_constructs h).symm⟩
  | false =>
    obtain ⟨ret, hret, hpure⟩ := hfails _ (of_decide_eq_false h)
    rw [hpure, Sends, sent_of_not_constructs h, not_acknowledges h]
    exact ⟨ret, rfl, by simp [hret]⟩

theorem sendCmdNoPayload_sends (p : TaProxy) (x : Exchange) (cmd : TciFpCmd) :
    p.Sends x (.noPayload cmd) (sendCmdNoPayload x cmd p) :=
  sends_of_construct rfl fun ret h => ⟨ret, h, if_pos h⟩

theorem loadTemplate_sends (p : TaProxy) (x : Exchange) :
    p.Sends x (.loadTemplate 0 0) (loadTemplate x p) :=
  sends_of_construct rfl fun _ h => ⟨-enoent, by decide, if_neg h⟩

theorem initCheck_bind (hinit : p.fpInitilized = true) (fails go : Proxy α) :
    (initCheck >>= fun ret => if ret ≠ 0 then fails else go) p = go p := by
  have hcheck : initCheck p = ⟨[], p, some 0⟩ := by simp [initCheck, hinit]
  exact bind_of_silent hcheck

theorem initCheck_bind_uninitilized (hinit : p.fpInitilized = false) (fails go : Proxy α) :
    (initCheck >>= fun ret => if ret ≠ 0 then fails else go) p = fails p := by
  have hcheck : initCheck p = ⟨[], p, some errorHwUnavailable⟩ := by simp [initCheck, hinit]
  exact bind_of_silent hcheck

theorem setActiveGroup_sends (hinit : p.fpInitilized = true) (x₁ x₂ : Exchange) (igid : Int)
    (path : List UInt8) : p.SendsBoth x₁ x₂ (.setActiveGroup igid path) (.loadTemplate 0 0)
      (setActiveGroup x₁ x₂ igid path p) := by
  obtain ⟨ret, hload, hret⟩ := loadTemplate_sends (p.constructed x₁ (.setActiveGroup igid path)) x₂
  refine ⟨ret, ?_, hret⟩
  unfold setActiveGroup
  rw [initCheck_bind hinit, construct_bind]
  cases h : p.constructs x₁ (.setActiveGroup igid path) with
  | true =>
    rw [if_pos (of_decide_eq_true h)]
    exact bind_eq (sendCmd_constructed h) hload
  | false =>
    rw [if_neg (of_decide_eq_false h), sent_of_not_constructs h]
    exact hload

theorem setActiveGroup_uninitilized (hinit : p.fpInitilized = false) (x₁ x₂ : Exchange)
    (igid : Int) (path : List UInt8) : setActiveGroup x₁ x₂ igid path p = ⟨[], p, some (-enoent)⟩ :=
  initCheck_bind_uninitilized hinit _ _

theorem deleteFid_uninitilized (hinit : p.fpInitilized = false) (x₁ x₂ : Exchange) (gid fid : Int) :
    deleteFid x₁ x₂ gid fid p = ⟨[], p, some (-enoent)⟩ :=
  initCheck_bind_uninitilized hinit _ _

theorem deleteFid_sends (hinit : p.fpInitilized = true) (x₁ x₂ : Exchange) (gid fid : Int) :
    (p.constructs x₁ (.gidFid .remove gid fid) = true ∧ p.answer x₁ (.gidFid .remove gid fid) ≠ 0 ∧
      deleteFid x₁ x₂ gid fid p =
        ⟨p.sent x₁ (.gidFid .remove gid fid), p.constructed x₁ (.gidFid .remove gid fid),
          some (p.answer x₁ (.gidFid .remove gid fid))⟩) ∨
    ((p.acknowledges x₁ (.gidFid .remove gid fid) = true ↔
        p.constructs x₁ (.gidFid .remove gid fid) = true) ∧
      p.SendsBoth x₁ x₂ (.gidFid .remove gid fid) (.noPayload .storeTemplate)
        (deleteFid x₁ x₂ gid fid p)) := by
  obtain ⟨ret, hstore, hret⟩ :=
    sendCmdNoPayload_sends (p.constructed x₁ (.gidFid .remove gid fid)) x₂ .storeTemplate
  unfold deleteFid storeTemplate
  rw [initCheck_bind hinit, construct_bind]
  cases hc : p.constructs x₁ (.gidFid .remove gid fid) with
  | false =>
    rw [if_neg (of_decide_eq_false hc), SendsBoth, sent_of_not_constructs hc, not_acknowledges hc]
    exact .inr ⟨Iff.rfl, ret, hstore, hret⟩
  | true =>
    rw [if_pos (of_decide_eq_true hc), acknowledges_of_constructs hc]
    by_cases hanswer : p.answer x₁ (.gidFid .remove gid fid) = 0
    · refine .inr ⟨by simp [hanswer], ret, ?_, hret⟩
      refine bind_eq (sendCmd_constructed hc) ?_
      rw [if_neg (not_not.mpr hanswer), hstore]
    · refine .inl ⟨rfl, hanswer, ?_⟩
      rw [← List.append_nil (p.sent x₁ (.gidFid .remove gid fid))]
      refine bind_eq (sendCmd_constructed hc) ?_
      rw [if_pos hanswer]
      rfl

theorem getEnrolledFids_uninitilized (hinit : p.fpInitilized = false) (x : Exchange) :
    getEnrolledFids x p = ⟨[], p, some (-enoent)⟩ :=
  initCheck_bind_uninitilized hinit _ _

theorem getEnrolledFids_sends (hinit : p.fpInitilized = true) (x : Exchange) :
    p.Sends x (.noPayload .getEnrolledFids) (getEnrolledFids x p) := by
  obtain ⟨ret, hsend, hret⟩ := sendCmdNoPayload_sends p x .getEnrolledFids
  unfold getEnrolledFids
  rw [initCheck_bind hinit, bind_of_eq hsend, Sends, ← hret]
  by_cases hzero : ret = 0
  · simp [hzero]
  · simp [hzero, enoent]

theorem enrolStoreTemplate_uninitilized (hinit : p.fpInitilized = false) (fid : Int) :
    enrolStoreTemplate x₁ x₂ fid p = ⟨[], p, some (-enoent, fid)⟩ :=
  initCheck_bind_uninitilized hinit _ _

theorem enrolStoreTemplate_refused (hinit : p.fpInitilized = true)
    (hack : p.acknowledges x₁ (.noPayload .endEnroll) = false) (fid : Int) :
    enrolStoreTemplate x₁ x₂ fid p =
      ⟨p.sent x₁ (.noPayload .endEnroll), p.constructed x₁ (.noPayload .endEnroll),
        some (-enoent, fid)⟩ := by
  obtain ⟨ret, hsend, hret⟩ := sendCmdNoPayload_sends p x₁ .endEnroll
  unfold enrolStoreTemplate
  rw [initCheck_bind hinit, bind_of_eq hsend, if_neg (by simp [hret, hack])]
  simp

theorem enrolStoreTemplate_stored (hinit : p.fpInitilized = true)
    (hack : p.acknowledges x₁ (.noPayload .endEnroll) = true) (x₂ : Exchange) (fid : Int) :
    ∃ ret, enrolStoreTemplate x₁ x₂ fid p = ⟨p.sent x₁ (.noPayload .endEnroll) ++
            (p.constructed x₁ (.noPayload .endEnroll)).sent x₂ (.noPayload .storeTemplate),
          (p.constructed x₁ (.noPayload .endEnroll)).constructed x₂ (.noPayload .storeTemplate),
          some (ret, x₁.par)⟩ ∧
      (ret = 0 ↔ (p.constructed x₁ (.noPayload .endEnroll)).acknowledges x₂
        (.noPayload .storeTemplate) = true) := by
  obtain ⟨ret₁, hsend, hret₁⟩ := sendCmdNoPayload_sends p x₁ .endEnroll
  obtain ⟨ret, hstore, hret⟩ :=
    sendCmdNoPayload_sends (p.constructed x₁ (.noPayload .endEnroll)) x₂ .storeTemplate
  refine ⟨ret, ?_, hret⟩
  unfold enrolStoreTemplate storeTemplate
  rw [initCheck_bind hinit]
  refine bind_eq hsend ?_
  rw [if_pos (hret₁.mpr hack), ← List.append_nil (sent _ x₂ _)]
  exact bind_eq hstore rfl

end

end TaProxy

/-- The call returns 0 only if both commands were acknowledged. -/
def Unmasked (outcome : Outcome TaProxy Sent Int) (first second : Command) : Prop :=
  outcome.result = some 0 → ⟨some first, 0⟩ ∈ outcome.trace ∧ ⟨some second, 0⟩ ∈ outcome.trace

instance (outcome : Outcome TaProxy Sent Int) (first second : Command) :
    Decidable (Unmasked outcome first second) :=
  inferInstanceAs (Decidable (_ → _))

namespace TaProxy

variable (p : TaProxy) (x₁ x₂ : Exchange)

theorem setActiveGroup_unmasked_iff (igid : Int) (path : List UInt8) :
    Unmasked (setActiveGroup x₁ x₂ igid path p) (.setActiveGroup igid path) (.loadTemplate 0 0) ↔
      (p.fpInitilized = true →
        (p.constructed x₁ (.setActiveGroup igid path)).acknowledges x₂ (.loadTemplate 0 0) = true →
          p.acknowledges x₁ (.setActiveGroup igid path) = true) := by
  unfold Unmasked
  cases hinit : p.fpInitilized with
  | false =>
    have hcall := setActiveGroup_uninitilized hinit x₁ x₂ igid path
    simp [hcall, enoent]
  | true =>
    obtain ⟨ret, hcall, hret⟩ := setActiveGroup_sends hinit x₁ x₂ igid path
    simp only [hcall, Option.some.injEq, List.mem_append, mem_sent, hret, forall_const]
    refine imp_congr_right fun hload => ?_
    simp [hload]

theorem deleteFid_unmasked_iff (gid fid : Int) :
    Unmasked (deleteFid x₁ x₂ gid fid p) (.gidFid .remove gid fid) (.noPayload .storeTemplate) ↔
      (p.fpInitilized = true → (p.constructed x₁ (.gidFid .remove gid fid)).acknowledges x₂
            (.noPayload .storeTemplate) = true →
          p.constructs x₁ (.gidFid .remove gid fid) = true) := by
  unfold Unmasked
  cases hinit : p.fpInitilized with
  | false =>
    have hcall := deleteFid_uninitilized hinit x₁ x₂ gid fid
    simp [hcall, enoent]
  | true =>
    rcases deleteFid_sends hinit x₁ x₂ gid fid with ⟨hc, hanswer, hcall⟩ | ⟨hack, ret, hcall, hret⟩
    · -- the result is that of `REMOVE`, so there is nothing to mask
      simp [hcall, hc, hanswer]
    · simp only [hcall, Option.some.injEq, List.mem_append, mem_sent, hret, hack, forall_const]
      refine imp_congr_right fun hstore => ?_
      simp [hstore]

/-- A load or store that succeeds masks the failure before it. -/
theorem calls_unmasked_iff (igid : Int) (path : List UInt8) (gid fid : Int) :
    (Unmasked (setActiveGroup x₁ x₂ igid path p) (.setActiveGroup igid path) (.loadTemplate 0 0) ∧
      Unmasked (deleteFid x₁ x₂ gid fid p) (.gidFid .remove gid fid) (.noPayload .storeTemplate)) ↔
      (p.fpInitilized = true → ((p.constructed x₁ (.setActiveGroup igid path)).acknowledges x₂
            (.loadTemplate 0 0) = true → p.acknowledges x₁ (.setActiveGroup igid path) = true) ∧
        ((p.constructed x₁ (.gidFid .remove gid fid)).acknowledges x₂
            (.noPayload .storeTemplate) = true →
          p.constructs x₁ (.gidFid .remove gid fid) = true)) := by
  rw [setActiveGroup_unmasked_iff, deleteFid_unmasked_iff, ← forall_and]

end TaProxy

def acknowledged : Exchange := ⟨true, true, 0, 0, 0⟩

def TaProxy.opened : TaProxy := ⟨true, CmdProcessor.new true⟩

theorem calls_masked :
    ¬ Unmasked (TaProxy.setActiveGroup { acknowledged with rspCode := 5 } acknowledged 7 [47]
        TaProxy.opened) (.setActiveGroup 7 [47]) (.loadTemplate 0 0) ∧
      ¬ Unmasked (TaProxy.deleteFid { acknowledged with available := false } acknowledged 7 3
        ⟨true, CmdProcessor.new false⟩) (.gidFid .remove 7 3) (.noPayload .storeTemplate) := by
  decide +kernel

end WikoPlatform.Chipone
