import WikoPlatform.Chipone.Templates
import WikoPlatform.Fingerprint.Records
import WikoPlatform.Fingerprint.Turn

/-! The removal of all fingers, from `fpTacImpl::delete_fid` with finger 0, which reports every
finger it removes, to the records of the framework. -/

namespace WikoPlatform.Fingerprint

open Runs Act
open Chipone (Removal RemoveTask Tee Exchange FingerprintMsg dropFid errorUnableToRemove)

/-- Results carry the client whose call they answer. -/
def halNotifyCallback (origin : Nat) : FingerprintMsg → Option DaemonMessage
  | .error code => some (.error code)
  | .acquired info => some (.acquired info)
  | .authenticated gid fid => some (.authenticated origin fid gid)
  | .enrolling gid fid samplesRemaining => some (.enrollResult origin fid gid samplesRemaining)
  | .removed gid fid => some (.removed fid gid)
  | .enumerating _ _ _ => none

def notified (w : World) (s : Service) (msg : FingerprintMsg) : Service :=
  match halNotifyCallback 0 msg with
  | some message => (handleMessage w message s).state
  | none => s

structure RemoveAll where
  removal : Removal
  service : Service

def RemoveAll.start (gid : Int) (tee : Tee) (service : Service) : RemoveAll :=
  ⟨⟨.start gid 0 true, tee⟩, service⟩

def RemoveAll.step (y : RemoveAll) (i : World × Exchange × Exchange) :
    List FingerprintMsg × RemoveAll :=
  let next := y.removal.step i.2
  (next.1, ⟨next.2, next.1.foldl (notified i.1) y.service⟩)

/-- An acknowledged `REMOVE` is stored, and none is left out. -/
def Stored (y : RemoveAll) (i : World × Exchange × Exchange) : Prop :=
  match y.removal.task.point with
  | .removeEach (id :: _) =>
    let tee := y.removal.tee
    let gid := y.removal.task.gid
    (tee.removes i.2.1 gid id = true → tee.proxy.stores i.2.1 i.2.2 gid id = true) ∧
      tee.Unmasking i.2.1 i.2.2 gid id
  | _ => True

instance (y : RemoveAll) (i : World × Exchange × Exchange) : Decidable (Stored y i) := by
  unfold Stored
  split <;> infer_instance

def isFinal : FingerprintMsg → Bool
  | .removed _ fid => fid == 0
  | .error _ => true
  | _ => false

def finals (trace : List FingerprintMsg) : List FingerprintMsg := trace.filter isFinal

/-- At the end both sides list the same fingers, which is told once. -/
structure InStep (gid userId : Int) (trace : List FingerprintMsg) (y : RemoveAll) : Prop where
  lists : y.removal.task.point = .returned →
    (enrolledFingerprints y.service userId).Perm y.removal.tee.enrolled
  client : y.service.currentClient = none ↔
    .removed gid 0 ∈ trace ∨ .error errorUnableToRemove ∈ trace
  removed : .removed gid 0 ∈ trace → y.removal.tee.enrolled = []
  once : (finals trace).length ≤ 1
  ended : y.removal.task.point = .returned →
    finals trace = [.removed gid 0] ∨ finals trace = [.error errorUnableToRemove]

section

variable {w : World} {s : Service} {c : ClientMonitor} {gid fid : Int}

theorem notified_removed (hclient : s.currentClient = some c) (hkind : c.kind.isRemoval = true)
    (hfid : fid ≠ 0) : notified w s (.removed gid fid) =
      { s with fingerprints := s.fingerprints.erase (c.targetUserId, fid) } := by
  obtain ⟨out, hremoved⟩ := onRemoved_eq (c := c) (w := w) fid s
  simp only [notified, halNotifyCallback, handleMessage, handleRemoved, get_bind, hclient, hkind,
    if_true, bind_of_eq hremoved]
  simp [hfid]

theorem notified_removed_zero (hclient : s.currentClient = some c)
    (hkind : c.kind.isRemoval = true) :
    notified w s (.removed gid 0) = { s with currentClient := none } := by
  obtain ⟨out, hremoved⟩ := onRemoved_eq (c := c) (w := w) 0 s
  simp only [notified, halNotifyCallback, handleMessage, handleRemoved, get_bind, hclient, hkind,
    if_true, bind_of_eq hremoved]
  rfl

theorem notified_error {code : Int} (hcode : code ≠ errorCanceled) :
    notified w s (.error code) = { s with currentClient := none } := by
  obtain ⟨told, -, heq⟩ := handleError_eq w code s
  have htail := heq ⟨[], { s with currentClient := none }, some ()⟩ (by rw [if_neg hcode]; rfl)
  simp only [notified, halNotifyCallback, handleMessage, htail]

end

@[simp] theorem finals_nil : finals [] = [] := rfl

@[simp] theorem finals_append (trace out : List FingerprintMsg) :
    finals (trace ++ out) = finals trace ++ finals out :=
  List.filter_append ..

structure Removing (c : ClientMonitor) (trace : List FingerprintMsg) (s : Service) : Prop where
  client : s.currentClient = some c
  unended : finals trace = []

def Underway (gid : Int) (c : ClientMonitor) (trace : List FingerprintMsg) (y : RemoveAll) : Prop :=
  let listed := enrolledFingerprints y.service c.targetUserId
  let enrolled := y.removal.tee.enrolled
  match y.removal.task.point with
  | .getEnrolledFids | .failed => Removing c trace y.service ∧ listed.Perm enrolled
  | .removeEach ids => Removing c trace y.service ∧ listed.Perm enrolled ∧ enrolled = ids
  | .notifyEach id rest =>
    Removing c trace y.service ∧ listed.Perm (id :: enrolled) ∧ enrolled = rest ∧ id ≠ 0
  | .clear | .succeeded => Removing c trace y.service ∧ listed.Perm enrolled ∧ enrolled = []
  | .returned => y.service.currentClient = none ∧ listed.Perm enrolled ∧
      (finals trace = [.removed gid 0] ∧ enrolled = [] ∨
        finals trace = [.error errorUnableToRemove])
  | .removeOne _ | .reportOne _ => False

structure RemoveInvariant (gid : Int) (c : ClientMonitor) (trace : List FingerprintMsg)
    (y : RemoveAll) : Prop where
  task : y.removal.task.gid = gid ∧ y.removal.task.fid = 0 ∧ y.removal.task.reportRmResult = true
  nodup : y.removal.tee.enrolled.Nodup
  nonzero : 0 ∉ y.removal.tee.enrolled
  underway : Underway gid c trace y

section

variable {gid : Int} {c : ClientMonitor} {trace : List FingerprintMsg} {y : RemoveAll} {s : Service}

theorem Removing.append {s' : Service} {out : List FingerprintMsg} (h : Removing c trace s)
    (hout : finals out = []) (hclient : s'.currentClient = s.currentClient) :
    Removing c (trace ++ out) s' :=
  ⟨hclient.trans h.client, by rw [finals_append, h.unended, hout]; rfl⟩

theorem dropFid_head {id : Int} {rest : List Int} (hid : id ≠ 0) (hnodup : (id :: rest).Nodup) :
    dropFid id (id :: rest) = rest := by
  have hrest : id ∉ rest := (List.nodup_cons.mp hnodup).1
  rw [dropFid, if_neg hid, List.filter_cons_of_neg (by simp), List.filter_eq_self]
  intro f hf
  simpa using fun heq : f = id => hrest (heq ▸ hf)

theorem removeInvariant_step (hkind : c.kind.isRemoval = true) (trace : List FingerprintMsg)
    (y : RemoveAll) (i : World × Exchange × Exchange) (h : RemoveInvariant gid c trace y)
    (hok : Stored y i) : RemoveInvariant gid c (trace ++ (y.step i).1) (y.step i).2 := by
  obtain ⟨⟨⟨g, f, report, point⟩, tee⟩, s⟩ := y
  obtain ⟨w, x₁, x₂⟩ := i
  obtain ⟨⟨hg, hf, hreport⟩, hnodup, hnonzero, hunderway⟩ := h
  subst hg hf hreport
  simp only [Underway] at hunderway
  cases point with
  | getEnrolledFids =>
    obtain ⟨hremove, hperm⟩ := hunderway
    have hsame := RemoveTask.serve_getEnrolledFids (t := ⟨g, 0, true, .getEnrolledFids⟩) rfl tee
      x₁ x₂
    simp only [RemoveAll.step, Removal.step, RemoveTask.step, Option.toList_none, List.append_nil,
      List.foldl_nil, if_true]
    rw [← hsame] at hnodup hnonzero hperm
    split
    · exact ⟨⟨rfl, rfl, rfl⟩, hnodup, hnonzero, hremove, hperm⟩
    · exact ⟨⟨rfl, rfl, rfl⟩, hnodup, hnonzero, hremove, hperm, hsame⟩
  | removeEach ids =>
    obtain ⟨hremove, hperm, henrol⟩ := hunderway
    cases ids with
    | nil =>
      simp only [RemoveAll.step, Removal.step, RemoveTask.step]
      simp only [Option.toList_none, List.append_nil, List.foldl_nil]
      exact ⟨⟨rfl, rfl, rfl⟩, hnodup, hnonzero, hremove, hperm, henrol⟩
    | cons id rest =>
      have hid : id ≠ 0 := fun hzero => hnonzero (by simp [henrol, hzero])
      have hok := RemoveTask.serve_deleteFid_settled
        (t := ⟨g, 0, true, .removeEach (id :: rest)⟩) rfl tee hok.1 hok.2
      simp only [henrol] at hok
      simp only [RemoveAll.step, Removal.step, RemoveTask.step, Option.toList_none,
        List.append_nil, List.foldl_nil]
      by_cases hret : (RemoveTask.serve ⟨g, 0, true, .removeEach (id :: rest)⟩ tee x₁ x₂).1.ret = 0
      · rw [henrol] at hnodup hnonzero hperm
        rw [if_pos hret, dropFid_head hid hnodup] at hok
        rw [if_neg (not_not.mpr hret)]
        refine ⟨⟨rfl, rfl, rfl⟩, ?_, ?_, hremove, ?_, hok, hid⟩
        · rw [hok]
          exact (List.nodup_cons.mp hnodup).2
        · rw [hok]
          exact fun hmem => hnonzero (List.mem_cons_of_mem _ hmem)
        · rwa [hok]
      · rw [if_neg hret] at hok
        rw [if_pos hret]
        rw [← hok.trans henrol.symm] at hnodup hnonzero hperm
        exact ⟨⟨rfl, rfl, rfl⟩, hnodup, hnonzero, hremove, hperm⟩
  | notifyEach id rest =>
    obtain ⟨hremove, hperm, rfl, hid⟩ := hunderway
    simp only [RemoveAll.step, Removal.step, RemoveTask.step]
    rw [RemoveTask.serve_idle rfl]
    simp only [Option.toList_some, List.foldl_cons, List.foldl_nil,
      notified_removed hremove.client hkind hid]
    refine ⟨⟨rfl, rfl, rfl⟩, hnodup, hnonzero, ?_, ?_, rfl⟩
    · exact hremove.append (by simp [finals, isFinal, hid]) rfl
    · simp only [enrolledFingerprints_erase, if_true]
      simpa using hperm.erase id
  | removeOne ids | reportOne size => exact hunderway.elim
  | clear =>
    obtain ⟨hremove, hperm, hempty⟩ := hunderway
    have hcleared : (RemoveTask.serve ⟨g, 0, true, .clear⟩ tee x₁ x₂).2.enrolled =
        tee.enrolled := by
      rw [RemoveTask.serve_deleteFid rfl, hempty]
      exact ite_self _
    simp only [RemoveAll.step, Removal.step, RemoveTask.step, Option.toList_none, List.append_nil,
      List.foldl_nil]
    rw [← hcleared] at hnodup hnonzero hperm hempty
    exact ⟨⟨rfl, rfl, rfl⟩, hnodup, hnonzero, hremove, hperm, hempty⟩
  | failed =>
    obtain ⟨hremove, hperm⟩ := hunderway
    simp only [RemoveAll.step, Removal.step, RemoveTask.step]
    simp only [if_true, Option.toList_some, List.foldl_cons, List.foldl_nil,
      notified_error (show errorUnableToRemove ≠ errorCanceled by decide)]
    refine ⟨⟨rfl, rfl, rfl⟩, hnodup, hnonzero, rfl, hperm, .inr ?_⟩
    rw [finals_append, hremove.unended]
    rfl
  | succeeded =>
    obtain ⟨hremove, hperm, hempty⟩ := hunderway
    simp only [RemoveAll.step, Removal.step, RemoveTask.step]
    simp only [if_true, Option.toList_some, List.foldl_cons, List.foldl_nil,
      notified_removed_zero hremove.client hkind]
    refine ⟨⟨rfl, rfl, rfl⟩, hnodup, hnonzero, rfl, hperm, .inl ⟨?_, hempty⟩⟩
    rw [finals_append, hremove.unended]
    rfl
  | returned =>
    simp only [RemoveAll.step, Removal.step, RemoveTask.step]
    simp only [Option.toList_none, List.append_nil, List.foldl_nil]
    exact ⟨⟨rfl, rfl, rfl⟩, hnodup, hnonzero, hunderway⟩

theorem Removing.not_mem (h : Removing c trace s) {msg : FingerprintMsg}
    (hmsg : isFinal msg = true) : msg ∉ trace := by
  intro hmem
  have hfinal : msg ∈ finals trace := List.mem_filter.mpr ⟨hmem, hmsg⟩
  rw [h.unended] at hfinal
  exact List.not_mem_nil hfinal

theorem Removing.inStep {userId : Int} (h : Removing c trace y.service)
    (hpoint : y.removal.task.point ≠ .returned) : InStep gid userId trace y := by
  have hremoved : .removed gid 0 ∉ trace := h.not_mem rfl
  have herror : .error errorUnableToRemove ∉ trace := h.not_mem rfl
  refine ⟨fun hreturned => absurd hreturned hpoint, ?_, fun hmem => absurd hmem hremoved, ?_,
    fun hreturned => absurd hreturned hpoint⟩
  · simp [h.client, hremoved, herror]
  · rw [h.unended]
    exact Nat.zero_le _

theorem RemoveInvariant.inStep (h : RemoveInvariant gid c trace y) :
    InStep gid c.targetUserId trace y := by
  have hunderway := h.underway
  simp only [Underway] at hunderway
  cases hpoint : y.removal.task.point with
  | returned =>
    rw [hpoint] at hunderway
    obtain ⟨hclient, hperm, hfinals⟩ := hunderway
    have hfinal : ∀ msg, isFinal msg = true → (msg ∈ trace ↔ msg ∈ finals trace) := by
      intro msg hmsg
      simp [finals, hmsg]
    have hremoved := hfinal (.removed gid 0) rfl
    have herror := hfinal (.error errorUnableToRemove) rfl
    rcases hfinals with ⟨hfinals, hempty⟩ | hfinals
    · rw [hfinals] at hremoved herror
      refine ⟨fun _ => hperm, ?_, fun _ => hempty, ?_, fun _ => .inl hfinals⟩
      · simp [hclient, hremoved]
      · simp [hfinals]
    · rw [hfinals] at hremoved herror
      refine ⟨fun _ => hperm, ?_, fun hmem => ?_, ?_, fun _ => .inr hfinals⟩
      · simp [hclient, herror]
      · simp at hremoved
        exact absurd hmem hremoved
      · simp [hfinals]
  | removeOne | reportOne =>
    rw [hpoint] at hunderway
    exact hunderway.elim
  | getEnrolledFids | removeEach | notifyEach | clear | failed | succeeded =>
    rw [hpoint] at hunderway
    exact hunderway.1.inStep (by rw [hpoint]; simp)

end

def stepsLeft (y : RemoveAll) : Nat :=
  match y.removal.task.point with
  | .getEnrolledFids => 2 * y.removal.tee.enrolled.length + 5
  | .removeEach ids => 2 * ids.length + 3
  | .notifyEach _ rest => 2 * rest.length + 4
  | .removeOne _ => 4
  | .reportOne _ => 3
  | .clear => 2
  | .failed | .succeeded => 1
  | .returned => 0

theorem step_stepsLeft (y : RemoveAll) (i : World × Exchange × Exchange) :
    stepsLeft (y.step i).2 ≤ stepsLeft y - 1 := by
  obtain ⟨⟨⟨g, f, report, point⟩, tee⟩, s⟩ := y
  simp only [RemoveAll.step, Removal.step]
  have hfids : (RemoveTask.serve ⟨g, f, report, point⟩ tee i.2.1 i.2.2).1.fids = tee.enrolled :=
    RemoveTask.serve_fids
  cases point with
  | removeEach ids =>
    cases ids with
    | nil => simp [RemoveTask.step, RemoveTask.goto, stepsLeft]
    | cons id rest =>
      simp only [RemoveTask.step]
      split
      · simp [RemoveTask.goto, stepsLeft]
      · simp only [RemoveTask.goto, stepsLeft, List.length_cons]
        omega
  | getEnrolledFids =>
    simp only [RemoveTask.step, hfids]
    split
    · simp [RemoveTask.goto, stepsLeft]
    · split <;> simp [RemoveTask.goto, stepsLeft]
  | removeOne | reportOne =>
    simp only [RemoveTask.step]
    split <;> simp [RemoveTask.goto, stepsLeft]
  | notifyEach | clear | failed | succeeded | returned =>
    simp [RemoveTask.step, RemoveTask.goto, stepsLeft]

/-- The records keep in step, wherever a removal fails. -/
theorem removeAll_inStep (gid : Int) (tee : Tee) (s : Service) (c : ClientMonitor)
    (hclient : s.currentClient = some c) (hkind : c.kind.isRemoval = true)
    (hnodup : tee.enrolled.Nodup) (hnonzero : 0 ∉ tee.enrolled)
    (hequal : (enrolledFingerprints s c.targetUserId).Perm tee.enrolled)
    (inputs : List (World × Exchange × Exchange))
    (hmeets : Meets RemoveAll.step Stored (.start gid tee s) inputs) :
    InStep gid c.targetUserId (run RemoveAll.step (.start gid tee s) inputs).1
      (run RemoveAll.step (.start gid tee s) inputs).2 ∧
    (2 * tee.enrolled.length + 5 ≤ inputs.length →
      (run RemoveAll.step (.start gid tee s) inputs).2.removal.task.point = .returned) := by
  have hstart : RemoveInvariant gid c [] (.start gid tee s) :=
    ⟨⟨rfl, rfl, rfl⟩, hnodup, hnonzero, ⟨hclient, rfl⟩, hequal⟩
  have hend := run_invariant (removeInvariant_step hkind) hstart hmeets
  refine ⟨hend.inStep, fun hlength => ?_⟩
  have hleft := run_descends step_stepsLeft (.start gid tee s) inputs
  have hzero : stepsLeft (run RemoveAll.step (.start gid tee s) inputs).2 = 0 := by
    have hstarted : stepsLeft (.start gid tee s) = 2 * tee.enrolled.length + 5 := rfl
    omega
  unfold stepsLeft at hzero
  split at hzero <;> first | assumption | omega

def removeAllClient : ClientMonitor where
  id := 0
  kind := .removal 0
  halDeviceId := 1
  token := some 1
  receiver := some 1
  targetUserId := 0
  groupId := 0
  isRestricted := false
  owner := "com.android.settings"

def removeAllStart : RemoveAll :=
  .start 0 ⟨.opened, [3, 4, 5]⟩ { (System.start true 1 0 [(0, 4), (10, 3), (0, 3), (0, 5)]).service
    with currentClient := some removeAllClient }

def refusedInputs : List (World × Exchange × Exchange) :=
  List.replicate 3 (plainWorld, Chipone.acknowledged, Chipone.acknowledged) ++
    List.replicate 8 (plainWorld, { Chipone.acknowledged with rspCode := 1 }, Chipone.acknowledged)

theorem removeAll_inStep_refused : Meets RemoveAll.step Stored removeAllStart refusedInputs ∧
    InStep 0 0 (run RemoveAll.step removeAllStart refusedInputs).1
      (run RemoveAll.step removeAllStart refusedInputs).2 ∧
    (run RemoveAll.step removeAllStart refusedInputs).1 =
      [.removed 0 3, .error errorUnableToRemove] ∧
    (run RemoveAll.step removeAllStart refusedInputs).2.removal.tee.enrolled = [4, 5] := by
  have hmeets : Meets RemoveAll.step Stored removeAllStart refusedInputs := by decide +kernel
  refine ⟨hmeets, ?_, by decide +kernel, by decide +kernel⟩
  exact (removeAll_inStep 0 ⟨.opened, [3, 4, 5]⟩ removeAllStart.service removeAllClient rfl rfl
    (by decide) (by decide) (by decide +kernel) refusedInputs hmeets).1

/-- Finger 3 is removed, and the store behind it is refused. -/
def unstoredInputs : List (World × Exchange × Exchange) :=
  (plainWorld, Chipone.acknowledged, Chipone.acknowledged) ::
    List.replicate 2 (plainWorld, Chipone.acknowledged, { Chipone.acknowledged with rspCode := 1 })

/-- There is no memory for the `REMOVE` of finger 3. -/
def maskedInputs : List (World × Exchange × Exchange) :=
  [(plainWorld, Chipone.acknowledged, Chipone.acknowledged),
    (plainWorld, { Chipone.acknowledged with available := false }, Chipone.acknowledged)] ++
  List.replicate 4 (plainWorld, { Chipone.acknowledged with rspCode := 1 }, Chipone.acknowledged)

def maskedStart : RemoveAll :=
  .start 0 ⟨⟨true, Chipone.CmdProcessor.new false⟩, [3]⟩
    { (System.start true 1 0 [(0, 3)]).service with currentClient := some removeAllClient }

theorem removeAll_not_inStep : ¬InStep 0 0 (run RemoveAll.step removeAllStart unstoredInputs).1
      (run RemoveAll.step removeAllStart unstoredInputs).2 ∧
    ¬InStep 0 0 (run RemoveAll.step maskedStart maskedInputs).1
      (run RemoveAll.step maskedStart maskedInputs).2 := by
  refine ⟨fun h => absurd (h.lists ?_) ?_, fun h => absurd (h.lists ?_) ?_⟩
  all_goals decide +kernel

end WikoPlatform.Fingerprint
