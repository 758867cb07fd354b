import WikoPlatform.Fingerprint.RemoveAll
import WikoPlatform.Silead.ActiveUser

/-! One `fingerprint_remove` of the Silead HAL together with the service of the framework: what the
client that asked for the removal hears of it. -/

namespace WikoPlatform.Silead

open Runs
open Chipone (FingerprintMsg)
open Fingerprint (Service ClientMonitor Callback halNotifyCallback handleMessage)

def Output.message : Output → Option FingerprintMsg
  | .template _ => none
  | .notify msg => some msg

def messages (trace : List Output) : List FingerprintMsg := trace.filterMap Output.message

/-- Left out if the group has the number of the active user. -/
def groupSwitch (users : List UInt32) (env : OpEnv) (gid : UInt32) (s : Hal) :
    Outcome Hal Empty Int :=
  let s := (getFPInfo env.firstInfo s).state
  if s.info.userid ≠ gid then fingerprintSetActiveGroup users env.group gid s
  else ⟨[], s, some 0⟩

/-- The group switch, or `RemoveCredential` behind it, refuses. -/
def Refused (users : List UInt32) (env : OpEnv) (gid : UInt32) (s : Hal) : Prop :=
  (groupSwitch users env gid s).result.any (· < 0) = true ∨ env.credential ≠ 0

theorem onActiveUser_remove (users : List UInt32) (env : OpEnv) (gid : UInt32) (s : Hal) :
    ∃ trace, messages trace = [] ∧
      onActiveUser users env gid (fun activeRet => activeRet < 0) (credentialCall env)
          (credentialCall env) s =
        ⟨trace, (groupSwitch users env gid s).state, (groupSwitch users env gid s).result.map
          fun activeRet => if activeRet < 0 then -1 else env.credential⟩ := by
  have hinfo : (Act.silent (getFPInfo env.firstInfo) s : Outcome Hal Output Unit) =
      ⟨[], (getFPInfo env.firstInfo s).state, some ()⟩ := by
    cases env.firstInfo with
    | none | some fingers => rfl
  unfold onActiveUser groupSwitch
  rw [Act.bind_of_silent hinfo, Act.get_bind]
  generalize (getFPInfo env.firstInfo s).state = s
  dsimp only
  by_cases huser : s.info.userid ≠ gid
  · rw [if_pos huser, if_pos huser]
    cases hr : (fingerprintSetActiveGroup users env.group gid s).result with
    | none =>
      have hnone : (Act.silent (fingerprintSetActiveGroup users env.group gid) s :
        Outcome Hal Output Int).result = none := hr
      exact ⟨[], rfl, Act.bind_none hnone⟩
    | some activeRet =>
      have hsome : (Act.silent (fingerprintSetActiveGroup users env.group gid) s :
          Outcome Hal Output Int) =
            ⟨[], (fingerprintSetActiveGroup users env.group gid s).state, some activeRet⟩ := by
        simp [Act.silent, hr]
      rw [Act.bind_of_silent hsome]
      by_cases hneg : activeRet < 0
      · exact ⟨[], rfl, by simp [hneg]⟩
      · exact ⟨[.template (fingerprintSetActiveGroup users env.group gid s).state.active], rfl,
          by simp [hneg, credentialCall]⟩
  · rw [if_neg huser, if_neg huser]
    exact ⟨[.template s.active], rfl, rfl⟩

theorem messages_append_notify (trace : List Output) (msgs : List FingerprintMsg) :
    messages (trace ++ msgs.map .notify) = messages trace ++ msgs := by
  simp [messages, List.filterMap_map, Function.comp_def, Output.message]

theorem fingerprintRemove_returns {users : List UInt32} {env : OpEnv} {gid fid : UInt32} {s : Hal}
    {ret : Int} (hclient : env.group.client = true) (hfid : fid ≠ 0)
    (h : (fingerprintRemove users env gid fid s).result = some ret) :
    (ret ≠ 0 ↔ Refused users env gid s) ∧ messages (fingerprintRemove users env gid fid s).trace =
        resultMessages env gid fid ret (lastInfo env (groupSwitch users env gid s).state) := by
  obtain ⟨trace, hsilent, heq⟩ := onActiveUser_remove users env gid s
  unfold fingerprintRemove at h ⊢
  simp only [hclient, Bool.not_true, Bool.false_eq_true, if_false, if_neg hfid] at h ⊢
  cases hr : (groupSwitch users env gid s).result with
  | none =>
    rw [hr] at heq
    rw [Act.bind_none (by rw [heq]; rfl)] at h
    cases h
  | some activeRet =>
    rw [hr] at heq
    rw [Act.bind_of_eq heq, reportResult_eq] at h ⊢
    obtain rfl : (if activeRet < 0 then -1 else env.credential) = ret := by
      split at h
      · cases h
      · exact Option.some_inj.mp h
    refine ⟨?_, by rw [messages_append_notify, hsilent, List.nil_append]⟩
    by_cases hneg : activeRet < 0 <;> simp [Refused, hr, hneg]

inductive Report where
  | out (o : Fingerprint.Output)
  | ended (client : Nat)
  deriving DecidableEq

def endedBetween (before after : Option ClientMonitor) : List Report :=
  match before with
  | none => []
  | some c => if after.map ClientMonitor.id = some c.id then [] else [.ended c.id]

def deliver (s : Service) (i : Fingerprint.World × FingerprintMsg) : List Report × Service :=
  match halNotifyCallback 0 i.2 with
  | none => ([], s)
  | some message =>
    let outcome := handleMessage i.1 message s
    (outcome.trace.map .out ++ endedBetween s.currentClient outcome.state.currentClient,
      outcome.state)

def startReport (w : Fingerprint.World) (c : ClientMonitor) (ret : Int) (s : Service) :
    List Report :=
  if ret ≠ 0 then (c.onError w Fingerprint.errorHwUnavailable s).trace.map .out else []

def removalReports (w : Nat → Fingerprint.World) (c : ClientMonitor) (ret : Int)
    (msgs : List FingerprintMsg) (s : Service) : List Report × Service :=
  let fed := run deliver s (msgs.zipIdx.map fun i => (w (i.2 + 1), i.1))
  (startReport (w 0) c ret s ++ fed.1, fed.2)

def Report.isErrorTo (client : Nat) : Report → Bool
  | .out (.callback told _ _ (.onError _) _ _) => told == client
  | _ => false

def errorsTo (client : Nat) (reports : List Report) : Nat :=
  reports.countP (Report.isErrorTo client)

def Told (c : ClientMonitor) (fingerId : Int) (reports : List Report) : Prop :=
  ∃ receiver delivered, c.receiver = some receiver ∧
    .out (.callback c.id receiver c.halDeviceId (.onRemoved fingerId c.groupId) delivered none) ∈
      reports

/-- The client is ended once. A removal that succeeds is dropped from the list and reported; one
that fails is one error, and the list is left as it is. -/
structure RemovalReported (c : ClientMonitor) (fingerId ret : Int) (s : Service)
    (seen : List Report × Service) : Prop where
  endedOnce : seen.1.count (.ended c.id) = 1
  success : ret = 0 → Told c fingerId seen.1 ∧ errorsTo c.id seen.1 = 0 ∧
    seen.2.fingerprints = s.fingerprints.erase (c.targetUserId, fingerId)
  failure : ret ≠ 0 → errorsTo c.id seen.1 = 1 ∧ seen.2.fingerprints = s.fingerprints

section

variable {w : Fingerprint.World} {s : Service} {c : ClientMonitor} {receiver : Nat}

theorem deliver_state (msg : FingerprintMsg) :
    (deliver s (w, msg)).2 = Fingerprint.notified w s msg := by
  unfold deliver Fingerprint.notified
  cases halNotifyCallback 0 msg with
  | none | some message => rfl

theorem onError_out {error : Int} (hrecv : c.receiver = some receiver) :
    (c.onError w error s).trace = [.callback c.id receiver c.halDeviceId (.onError error)
        (w.receives receiver (.onError error)) none] := by
  simp only [ClientMonitor.onError, ClientMonitor.send, hrecv]
  rfl

theorem deliver_error (hclient : s.currentClient = some c) (hrecv : c.receiver = some receiver)
    (error : Int) : 0 < errorsTo c.id (deliver s (w, .error error)).1 := by
  obtain ⟨told, htold, heq⟩ := Fingerprint.handleError_eq w error s
  unfold Fingerprint.ToldError at htold
  rw [hclient] at htold
  have htrace := congrArg Outcome.trace (heq _ rfl)
  simp only [deliver, halNotifyCallback, handleMessage, htrace]
  cases htold with
  | unheard hnone =>
    rw [hrecv] at hnone
    cases hnone
  | told receiver' delivered h =>
    simp [errorsTo, Report.isErrorTo]

theorem deliver_removed_zero (hclient : s.currentClient = some c)
    (hkind : c.kind.isRemoval = true) (gid : Int) :
    errorsTo c.id (deliver s (w, .removed gid 0)).1 = 0 ∧
    (deliver s (w, .removed gid 0)).1.count (.ended c.id) = 1 := by
  obtain ⟨out, heard, hsend, hout⟩ := Fingerprint.send_eq (c := c) (w := w)
    (.onRemoved 0 c.groupId) none s
  have hremove : c.onRemoved w 0 s = ⟨out, s, some true⟩ := by
    unfold ClientMonitor.onRemoved
    simp [Act.bind_of_eq hsend]
  have hreports : (deliver s (w, .removed gid 0)).1 = out.map .out ++ [Report.ended c.id] := by
    simp only [deliver, halNotifyCallback, handleMessage, Fingerprint.handleRemoved, Act.get_bind,
      hclient, hkind, if_true, Act.bind_of_eq hremove]
    simp [Fingerprint.removeClient, endedBetween]
  rw [hreports]
  constructor
  · rw [errorsTo, List.countP_eq_zero]
    intro report hmem
    rcases List.mem_append.mp hmem with hmap | hended
    · obtain ⟨o, ho, rfl⟩ := List.mem_map.mp hmap
      obtain ⟨receiver, delivered, rfl⟩ := hout o ho
      simp [Report.isErrorTo]
    · rw [List.mem_singleton.mp hended]
      simp [Report.isErrorTo]
  · rw [List.count_append, List.count_eq_zero.mpr (by simp), List.count_singleton_self]

theorem startReport_ended (ret : Int) : (startReport w c ret s).count (.ended c.id) = 0 := by
  unfold startReport
  split
  · rw [List.count_eq_zero]
    simp
  · rfl

theorem startReport_errors {ret : Int} (hret : ret ≠ 0) :
    errorsTo c.id (startReport w c ret s) = if c.receiver.isSome then 1 else 0 := by
  unfold startReport
  rw [if_pos hret]
  cases hrecv : c.receiver with
  | none => simp [errorsTo, ClientMonitor.onError, ClientMonitor.send, hrecv]
  | some receiver => simp [onError_out hrecv, errorsTo, Report.isErrorTo]

theorem errorsTo_append (client : Nat) (reports rest : List Report) :
    errorsTo client (reports ++ rest) = errorsTo client reports + errorsTo client rest :=
  List.countP_append

theorem toInt_ne_zero {x : UInt32} (h : x ≠ 0) : toInt x ≠ 0 := by
  have hlt := x.toNat_lt
  have hpos : x.toNat ≠ 0 := fun hzero => h (UInt32.toNat_inj.mp hzero)
  have hmod : (x.toNat : Int).bmod 4294967296 % (4294967296 : Nat) =
      x.toNat % (4294967296 : Nat) := Int.bmod_emod
  unfold toInt
  omega

end

section

variable {w : Nat → Fingerprint.World} {s : Service} {c : ClientMonitor} {gid fid : UInt32}
  {rest : List FingerprintMsg} {ret : Int}

theorem not_reported_nil {fingerId : Int} :
    ¬RemovalReported c fingerId ret s (removalReports w c ret [] s) := by
  intro h
  have hended := h.endedOnce
  simp [removalReports, run, startReport_ended] at hended

theorem not_reported_success (hclient : s.currentClient = some c)
    (hkind : c.kind.isRemoval = true) (hfid : fid ≠ 0) :
    ¬RemovalReported c (toInt fid) 0 s (removalReports w c 0
      (.removed (toInt gid) (toInt fid) :: .error fingerprintErrorCanceled :: rest) s) := by
  intro h
  obtain ⟨⟨receiver, delivered, hrecv, -⟩, herrors, -⟩ := h.success rfl
  have hstill : (deliver s (w 1, .removed (toInt gid) (toInt fid))).2.currentClient = some c := by
    rw [deliver_state, Fingerprint.notified_removed hclient hkind (toInt_ne_zero hfid), hclient]
  have herror := deliver_error (w := w 2) hstill hrecv fingerprintErrorCanceled
  simp only [removalReports, List.zipIdx_cons, List.map_cons, run, errorsTo_append] at herrors
  simp only [Nat.zero_add, Nat.reduceAdd] at herrors
  omega

theorem reported_failure_iff (hret : ret ≠ 0) (hclient : s.currentClient = some c)
    (hkind : c.kind.isRemoval = true) (emptied : Bool) :
    RemovalReported c (toInt fid) ret s (removalReports w c ret
      (if emptied then [.removed (toInt gid) 0] else []) s) ↔
        emptied = true ∧ c.receiver.isSome = true := by
  cases emptied with
  | false => exact ⟨fun h => absurd h not_reported_nil, fun h => absurd h.1 (by decide)⟩
  | true =>
    obtain ⟨hzero, hone⟩ := deliver_removed_zero hclient hkind (toInt gid)
    have hstart := startReport_errors (w := w 0) (s := s) (c := c) hret
    have hended := startReport_ended (w := w 0) (s := s) (c := c) ret
    have hfed : removalReports w c ret [.removed (toInt gid) 0] s =
        (startReport (w 0) c ret s ++ (deliver s (w 1, .removed (toInt gid) 0)).1,
          { s with currentClient := none }) := by
      simp only [removalReports, List.zipIdx_cons, List.zipIdx_nil, List.map_cons, List.map_nil,
        run, List.append_nil, Nat.zero_add, deliver_state,
        Fingerprint.notified_removed_zero hclient hkind]
    rw [if_pos rfl, hfed]
    constructor
    · intro h
      have herrors := (h.failure hret).1
      rw [errorsTo_append, hstart, hzero] at herrors
      refine ⟨rfl, ?_⟩
      by_contra hnone
      simp [hnone] at herrors
    · rintro ⟨-, hrecv⟩
      refine ⟨?_, fun hsuccess => absurd hsuccess hret, fun _ => ⟨?_, rfl⟩⟩
      · rw [List.count_append, hended, hone]
      · rw [errorsTo_append, hstart, hzero, if_pos hrecv]

end

/-- Only a refused removal with no finger left is reported right. -/
theorem fingerprintRemove_reported_iff {users : List UInt32} {env : OpEnv} {gid fid : UInt32}
    {hal : Hal} {ret : Int} {w : Nat → Fingerprint.World} {s : Service} {c : ClientMonitor}
    (hret : (fingerprintRemove users env gid fid hal).result = some ret)
    (hclient : s.currentClient = some c) (hkind : c.kind.isRemoval = true) :
    RemovalReported c (toInt fid) ret s (removalReports w c ret
      (messages (fingerprintRemove users env gid fid hal).trace) s) ↔ Refused users env gid hal ∧
      fingerlistempty (lastInfo env (groupSwitch users env gid hal).state) = true ∧
      env.group.client = true ∧ fid ≠ 0 ∧ env.notify = true ∧ c.receiver.isSome = true := by
  by_cases hasked : env.group.client = true ∧ fid ≠ 0
  · obtain ⟨hrefuse, hmsgs⟩ := fingerprintRemove_returns hasked.1 hasked.2 hret
    rw [hmsgs, resultMessages, ← hrefuse]
    by_cases hzero : ret = 0
    · subst hzero
      refine ⟨fun h => ?_, fun h => absurd rfl h.1⟩
      cases hnotify : env.notify with
      | false =>
        simp only [hnotify, Bool.false_and, Bool.and_false, Bool.false_eq_true, if_false,
          List.append_nil] at h
        exact absurd h not_reported_nil
      | true =>
        simp only [hnotify, Bool.true_and, beq_self_eq_true, if_true, List.cons_append] at h
        exact absurd h (not_reported_success hclient hkind hasked.2)
    · have hnothing : (env.notify && ret == 0) = false := by simp [hzero]
      rw [hnothing, if_neg (by decide), List.nil_append,
        reported_failure_iff hzero hclient hkind, Bool.and_eq_true]
      constructor
      · rintro ⟨⟨hempty, hnotify⟩, hrecv⟩
        exact ⟨hzero, hempty, hasked.1, hasked.2, hnotify, hrecv⟩
      · rintro ⟨-, hempty, -, -, hnotify, hrecv⟩
        exact ⟨⟨hempty, hnotify⟩, hrecv⟩
  · have hnone : messages (fingerprintRemove users env gid fid hal).trace = [] := by
      unfold fingerprintRemove
      by_cases hhas : env.group.client = true
      · have hfid : fid = 0 := by simpa [hhas] using hasked
        simp [hhas, hfid, messages]
      · simp [hhas, messages]
    rw [hnone]
    exact ⟨fun h => absurd h not_reported_nil, fun h => absurd ⟨h.2.2.1, h.2.2.2.1⟩ hasked⟩

def removalClient : ClientMonitor where
  id := 1
  kind := .removal 1
  halDeviceId := 1
  token := some 1
  receiver := some 1
  targetUserId := 0
  groupId := 0
  isRestricted := false
  owner := "com.android.settings"

def removalService : Service :=
  { (Fingerprint.System.start true 1 0 [(0, 1), (0, 2)]).service with
    currentClient := some removalClient }

def removalEnv (credential : Int) (left : Fin 5 → Finger) : OpEnv where
  group := groupEnv none
  firstInfo := some left
  lastInfo := some left
  credential
  notify := true

theorem fingerprintRemove_reported_failed :
    RemovalReported removalClient (toInt 1) (-3) removalService
      (removalReports (fun _ => Fingerprint.plainWorld) removalClient (-3)
        (messages (fingerprintRemove [0] (removalEnv (-3) fun _ => ⟨0, 0⟩) 0 1
          (freshDevice [0]).hal).trace) removalService) :=
  (fingerprintRemove_reported_iff (by decide +kernel) rfl rfl).mpr
    ⟨.inr (by decide), by decide +kernel, by decide +kernel⟩

theorem fingerprintRemove_not_reported :
    (let seen := removalReports (fun _ => Fingerprint.plainWorld) removalClient 0
      (messages (fingerprintRemove [0] (removalEnv 0 fun _ => ⟨1, 1⟩) 0 1
        (freshDevice [0]).hal).trace) removalService
     errorsTo 1 seen.1 = 1 ∧ seen.2.fingerprints = [(0, 2)] ∧
      ¬RemovalReported removalClient 1 0 removalService seen) ∧
    (let seen := removalReports (fun _ => Fingerprint.plainWorld) removalClient (-3)
      (messages (fingerprintRemove [0] (removalEnv (-3) fun _ => ⟨1, 1⟩) 0 1
        (freshDevice [0]).hal).trace) removalService
     seen.2.currentClient = some removalClient ∧
      ¬RemovalReported removalClient 1 (-3) removalService seen) := by
  refine ⟨⟨by decide +kernel, by decide +kernel, fun h => ?_⟩, by decide +kernel, fun h => ?_⟩
  · exact absurd (h.success rfl).2.1 (by decide +kernel)
  · exact absurd h.endedOnce (by decide +kernel)

end WikoPlatform.Silead
