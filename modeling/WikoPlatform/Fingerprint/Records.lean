import Mathlib.Data.List.Nodup
import Mathlib.Data.List.Perm.Subperm
import WikoPlatform.Fingerprint.Mild

/-! The two records that the framework keeps of a stored finger, in `FingerprintsUserState` and in
`ApeFpDatasUserState`. Every operation finds its record by the first match of the finger's id. -/

namespace WikoPlatform.Fingerprint

open Runs Act

/-- A `Fingerprint`. Its name is `null` only where the file it was read from had none. -/
structure StoredFingerprint where
  name : Option String
  groupId : Int
  fingerId : Int
  deviceId : Int
  deriving DecidableEq

structure PackageInfo where
  appName : Option String
  packageName : Option String
  className : Option String
  category : Option String
  action : Option String
  data : Option String
  deriving DecidableEq

structure ContactsInfo where
  phoneName : Option String
  phoneNumber : Option String
  contactPhotoId : Int
  contactId : Int
  deriving DecidableEq

/-- What a finger launches and unlocks. -/
structure ApeFpData where
  fingerId : Int
  package : PackageInfo
  contacts : ContactsInfo
  allowUnlockApp : Int
  deriving DecidableEq

def PackageInfo.empty : PackageInfo := ⟨some "", some "", some "", some "", some "", some ""⟩

def ContactsInfo.empty : ContactsInfo := ⟨some "", some "", -1, -1⟩

structure NameTemplate where
  format : Nat → String
  injective : Function.Injective format

inductive RecordFile where
  | settingsFingerprint
  | apeFpData
  deriving DecidableEq

structure Write where
  file : RecordFile
  userId : Int
  deriving DecidableEq

/-- Both lists of every user. -/
structure Records where
  fingerprints : Int → List StoredFingerprint
  apeFpDatas : Int → List ApeFpData

abbrev Keeper (α : Type) : Type := Act Records Write α

def isUnique (name : String) : List StoredFingerprint → Option Bool
  | [] => some true
  | fp :: fingerprints =>
    match fp.name with
    | none => none
    | some other => if other = name then some false else isUnique name fingerprints

def guessName (template : NameTemplate) (fingerprints : List StoredFingerprint) :
    Nat → Nat → Option String
  | 0, _ => none
  | guesses + 1, guess =>
    match isUnique (template.format guess) fingerprints with
    | none => none
    | some true => some (template.format guess)
    | some false => guessName template fingerprints guesses (guess + 1)

/-- One guess more than there are fingers finds a free name. -/
def getUniqueName (template : NameTemplate) (fingerprints : List StoredFingerprint) :
    Option String :=
  guessName template fingerprints (fingerprints.length + 1) 1

def replaceFirst {α : Type} (p : α → Bool) (f : α → α) : List α → List α
  | [] => []
  | a :: rest => if p a then f a :: rest else a :: replaceFirst p f rest

def setFingerprints (userId : Int) (fingerprints : List StoredFingerprint) : Keeper Unit := do
  modify fun r => { r with fingerprints := Function.update r.fingerprints userId fingerprints }
  emit ⟨.settingsFingerprint, userId⟩

def addFingerprint (template : NameTemplate) (userId fingerId groupId : Int) : Keeper Unit := do
  let fingerprints := (← get).fingerprints userId
  match getUniqueName template fingerprints with
  | none => throw
  | some name => setFingerprints userId (fingerprints ++ [⟨some name, groupId, fingerId, 0⟩])

def removeFingerprint (userId fingerId : Int) : Keeper Unit := do
  let fingerprints := (← get).fingerprints userId
  if fingerprints.any (·.fingerId == fingerId) then
    setFingerprints userId (fingerprints.eraseP (·.fingerId == fingerId))

def renameFingerprint (userId fingerId : Int) (name : Option String) : Keeper Unit := do
  let fingerprints := (← get).fingerprints userId
  if fingerprints.any (·.fingerId == fingerId) then
    setFingerprints userId
      (replaceFirst (·.fingerId == fingerId) (fun old => { old with name }) fingerprints)

def addFingerprintForUser (template : NameTemplate) (fingerId userId : Int) : Keeper Unit :=
  addFingerprint template userId fingerId userId

def renameFingerprintForUser (fingerId userId : Int) (name : Option String) : Keeper Unit := do
  if name.getD "" ≠ "" then renameFingerprint userId fingerId name

def setApeFpDatas (userId : Int) (apeFpDatas : List ApeFpData) : Keeper Unit := do
  modify fun r => { r with apeFpDatas := Function.update r.apeFpDatas userId apeFpDatas }
  emit ⟨.apeFpData, userId⟩

def addApeFpData (userId fingerId : Int) : Keeper Unit := do
  let apeFpDatas := (← get).apeFpDatas userId
  setApeFpDatas userId (apeFpDatas ++ [⟨fingerId, .empty, .empty, 0⟩])

def removeApeFpData (userId fingerId : Int) : Keeper Unit := do
  let apeFpDatas := (← get).apeFpDatas userId
  if apeFpDatas.any (·.fingerId == fingerId) then
    setApeFpDatas userId (apeFpDatas.eraseP (·.fingerId == fingerId))

/-- A new package clears the contact. -/
def updateApeFpDataQBPackageInfo (userId fingerId : Int) (info : PackageInfo) : Keeper Unit := do
  let apeFpDatas := (← get).apeFpDatas userId
  if apeFpDatas.any (·.fingerId == fingerId) then
    match info.packageName with
    | none => throw
    | some packageName =>
      setApeFpDatas userId (replaceFirst (·.fingerId == fingerId)
        (fun old => if packageName.isEmpty then { old with package := info }
          else { old with package := info, contacts := .empty }) apeFpDatas)

def updateApeFpDataQBContactsInfo (userId fingerId : Int) (info : ContactsInfo) : Keeper Unit := do
  let apeFpDatas := (← get).apeFpDatas userId
  if apeFpDatas.any (·.fingerId == fingerId) then
    match info.phoneNumber with
    | none => throw
    | some phoneNumber =>
      setApeFpDatas userId (replaceFirst (·.fingerId == fingerId)
        (fun old => if phoneNumber.isEmpty then { old with contacts := info }
          else { old with contacts := info, package := .empty }) apeFpDatas)

def updateApeFpDataPrivLockValue (userId fingerId allowUnlockApp : Int) : Keeper Unit := do
  let apeFpDatas := (← get).apeFpDatas userId
  if apeFpDatas.any (·.fingerId == fingerId) then
    setApeFpDatas userId
      (replaceFirst (·.fingerId == fingerId) (fun old => { old with allowUnlockApp }) apeFpDatas)

def updateFingerprintPrivLockValueForUser (fingerId userId allowUnlockApp : Int) :
    Keeper Unit := do
  if 0 ≤ allowUnlockApp then updateApeFpDataPrivLockValue userId fingerId allowUnlockApp

inductive RecordOp where
  | enrollResult (userId fingerId remaining : Int)
  | removed (userId fingerId : Int)
  | rename (userId fingerId : Int) (name : Option String)
  | updateQBPackageInfo (userId fingerId : Int) (info : PackageInfo)
  | updateQBContactsInfo (userId fingerId : Int) (info : ContactsInfo)
  | updatePrivLockValue (userId fingerId allowUnlockApp : Int)
  deriving DecidableEq

def RecordOp.userId : RecordOp → Int
  | .enrollResult userId _ _ | .removed userId _ | .rename userId _ _
  | .updateQBPackageInfo userId _ _ | .updateQBContactsInfo userId _ _
  | .updatePrivLockValue userId _ _ => userId

def RecordOp.perform (template : NameTemplate) : RecordOp → Keeper Unit
  | .enrollResult userId fingerId remaining => do
    if remaining = 0 then
      addFingerprintForUser template fingerId userId
      addApeFpData userId fingerId
  | .removed userId fingerId => do
    if fingerId ≠ 0 then
      removeFingerprint userId fingerId
      removeApeFpData userId fingerId
  | .rename userId fingerId name => renameFingerprintForUser fingerId userId name
  | .updateQBPackageInfo userId fingerId info => updateApeFpDataQBPackageInfo userId fingerId info
  | .updateQBContactsInfo userId fingerId info => updateApeFpDataQBContactsInfo userId fingerId info
  | .updatePrivLockValue userId fingerId allowUnlockApp =>
    updateFingerprintPrivLockValueForUser fingerId userId allowUnlockApp

/-- An exception ends the process. -/
structure Keeping where
  records : Records
  crashed : Bool

def Keeping.step (template : NameTemplate) (y : Keeping) (op : RecordOp) : List Write × Keeping :=
  if y.crashed then ([], y)
  else
    let outcome := op.perform template y.records
    (outcome.trace, ⟨outcome.state, outcome.result.isNone⟩)

section

variable {template : NameTemplate} {fingerprints : List StoredFingerprint} {name : String}
  {guesses guess : Nat}

theorem isUnique_eq_none (h : isUnique name fingerprints = none) :
    ∃ fp ∈ fingerprints, fp.name = none := by
  induction fingerprints with
  | nil => cases h
  | cons fp fingerprints ih =>
    cases hname : fp.name with
    | none => exact ⟨fp, List.mem_cons_self, hname⟩
    | some other =>
      simp only [isUnique, hname] at h
      split at h
      · cases h
      · obtain ⟨fp', hmem, hnull⟩ := ih h
        exact ⟨fp', List.mem_cons_of_mem _ hmem, hnull⟩

theorem isUnique_eq_false (h : isUnique name fingerprints = some false) :
    some name ∈ fingerprints.map StoredFingerprint.name := by
  induction fingerprints with
  | nil => cases h
  | cons fp fingerprints ih =>
    cases hname : fp.name with
    | none =>
      simp only [isUnique, hname] at h
      cases h
    | some other =>
      simp only [isUnique, hname] at h
      rw [List.map_cons, List.mem_cons, hname]
      split at h
      · next heq => exact .inl (by rw [heq])
      · exact .inr (ih h)

theorem isUnique_eq_true (h : isUnique name fingerprints = some true) :
    ∀ fp ∈ fingerprints, ∃ other, fp.name = some other ∧ other ≠ name := by
  induction fingerprints with
  | nil => exact List.forall_mem_nil _
  | cons fp fingerprints ih =>
    cases hname : fp.name with
    | none =>
      simp only [isUnique, hname] at h
      cases h
    | some other =>
      simp only [isUnique, hname] at h
      split at h
      · cases h
      · next hne => exact List.forall_mem_cons.mpr ⟨⟨other, hname, hne⟩, ih h⟩

theorem guessName_eq_none (hnamed : ∀ fp ∈ fingerprints, fp.name ≠ none)
    (h : guessName template fingerprints guesses guess = none) :
    ∀ i < guesses, some (template.format (guess + i)) ∈
      fingerprints.map StoredFingerprint.name := by
  induction guesses generalizing guess with
  | zero => exact fun i hi => absurd hi (Nat.not_lt_zero i)
  | succ guesses ih =>
    simp only [guessName] at h
    split at h
    · next hnone =>
      obtain ⟨fp, hmem, hnull⟩ := isUnique_eq_none hnone
      exact absurd hnull (hnamed fp hmem)
    · cases h
    · next htaken =>
      intro i hi
      cases i with
      | zero => exact isUnique_eq_false htaken
      | succ i =>
        have hrest := ih h i (by omega)
        rwa [Nat.add_right_comm] at hrest

theorem getUniqueName_ne_none (hnamed : ∀ fp ∈ fingerprints, fp.name ≠ none) :
    getUniqueName template fingerprints ≠ none := by
  intro hnone
  have htaken := guessName_eq_none hnamed hnone
  let guesses := (List.range (fingerprints.length + 1)).map fun i => some (template.format (1 + i))
  have hnodup : guesses.Nodup := by
    refine List.Nodup.map (fun i j hij => ?_) List.nodup_range
    have := template.injective (Option.some_inj.mp hij)
    omega
  have hsubset : guesses ⊆ fingerprints.map StoredFingerprint.name := by
    intro name hname
    obtain ⟨i, hi, rfl⟩ := List.mem_map.mp hname
    exact htaken i (List.mem_range.mp hi)
  have hlength := (hnodup.subperm hsubset).length_le
  simp only [guesses, List.length_map, List.length_range] at hlength
  omega

theorem guessName_fresh (h : guessName template fingerprints guesses guess = some name) :
    ∀ fp ∈ fingerprints, ∃ other, fp.name = some other ∧ other ≠ name := by
  induction guesses generalizing guess with
  | zero => cases h
  | succ guesses ih =>
    simp only [guessName] at h
    split at h
    · cases h
    · next hunique =>
      rw [← Option.some_inj.mp h]
      exact isUnique_eq_true hunique
    · exact ih h

theorem getUniqueName_fresh (h : getUniqueName template fingerprints = some name) :
    ∀ fp ∈ fingerprints, fp.name ≠ some name := by
  intro fp hmem hname
  obtain ⟨other, hother, hne⟩ := guessName_fresh h fp hmem
  exact hne (Option.some_inj.mp (hother.symm.trans hname))

end

def Records.fingerIds (r : Records) (userId : Int) : List Int :=
  (r.fingerprints userId).map (·.fingerId)

def Records.apeFingerIds (r : Records) (userId : Int) : List Int :=
  (r.apeFpDatas userId).map (·.fingerId)

/-- Both lists have the same fingers. -/
def Records.Agree (r : Records) : Prop :=
  ∀ userId, (r.fingerIds userId).Perm (r.apeFingerIds userId)

structure Updated (userId : Int) (f g : List Int → List Int) (r r' : Records) : Prop where
  fingerIds : r'.fingerIds userId = f (r.fingerIds userId)
  apeFingerIds : r'.apeFingerIds userId = g (r.apeFingerIds userId)
  others : ∀ other ≠ userId,
    r'.fingerprints other = r.fingerprints other ∧ r'.apeFpDatas other = r.apeFpDatas other

def Completes (userId : Int) (f g : List Int → List Int) (r : Records)
    (o : Outcome Records Write Unit) : Prop :=
  o.result = some () ∧ Updated userId f g r o.state

def RecordOp.change : RecordOp → List Int → List Int
  | .enrollResult _ fingerId remaining => fun ids =>
    if remaining = 0 then ids ++ [fingerId] else ids
  | .removed _ fingerId => fun ids => if fingerId ≠ 0 then ids.erase fingerId else ids
  | _ => id

section

variable {α : Type} {userId fingerId : Int} {f f' g g' : List Int → List Int} {r r₁ r₂ : Records}
  {l : List α} {p : α → Bool} {change : α → α} {template : NameTemplate}

theorem Updated.refl (userId : Int) (r : Records) : Updated userId id id r r :=
  ⟨rfl, rfl, fun _ _ => ⟨rfl, rfl⟩⟩

theorem Updated.trans (h : Updated userId f g r r₁) (h' : Updated userId f' g' r₁ r₂) :
    Updated userId (f' ∘ f) (g' ∘ g) r r₂ where
  fingerIds := by rw [h'.fingerIds, h.fingerIds]; rfl
  apeFingerIds := by rw [h'.apeFingerIds, h.apeFingerIds]; rfl
  others other hne :=
    ⟨(h'.others other hne).1.trans (h.others other hne).1,
      (h'.others other hne).2.trans (h.others other hne).2⟩

theorem setFingerprints_completes {fingerprints : List StoredFingerprint}
    (h : fingerprints.map (·.fingerId) = f (r.fingerIds userId)) :
    Completes userId f id r (setFingerprints userId fingerprints r) := by
  refine ⟨rfl, ?_, rfl, fun other hne => ⟨?_, rfl⟩⟩
  · simp only [setFingerprints, modify_bind, emit_apply, Records.fingerIds, Function.update_self]
    exact h
  · exact Function.update_of_ne hne _ _

theorem setApeFpDatas_completes {apeFpDatas : List ApeFpData}
    (h : apeFpDatas.map (·.fingerId) = g (r.apeFingerIds userId)) :
    Completes userId id g r (setApeFpDatas userId apeFpDatas r) := by
  refine ⟨rfl, rfl, ?_, fun other hne => ⟨rfl, ?_⟩⟩
  · simp only [setApeFpDatas, modify_bind, emit_apply, Records.apeFingerIds, Function.update_self]
    exact h
  · exact Function.update_of_ne hne _ _

theorem map_eraseP_id {id : α → Int} :
    (l.eraseP (id · == fingerId)).map id = (l.map id).erase fingerId := by
  rw [List.erase_eq_eraseP', List.eraseP_map]
  rfl

theorem erase_map_of_not_any {id : α → Int} (h : ¬ l.any (id · == fingerId) = true) :
    (l.map id).erase fingerId = l.map id := by
  refine List.erase_of_not_mem fun hmem => h ?_
  obtain ⟨a, ha, rfl⟩ := List.mem_map.mp hmem
  exact List.any_eq_true.mpr ⟨a, ha, beq_self_eq_true _⟩

theorem map_replaceFirst {β : Type} {g : α → β} (h : ∀ a, g (change a) = g a) (l : List α) :
    (replaceFirst p change l).map g = l.map g := by
  induction l with
  | nil => rfl
  | cons a rest ih =>
    simp only [replaceFirst]
    split
    · rw [List.map_cons, List.map_cons, h]
    · rw [List.map_cons, List.map_cons, ih]

theorem forall_replaceFirst {P : α → Prop} (hchange : ∀ a, P a → P (change a)) (hl : ∀ a ∈ l, P a) :
    ∀ a ∈ replaceFirst p change l, P a := by
  induction l with
  | nil => exact List.forall_mem_nil _
  | cons a l ih =>
    obtain ⟨ha, hl⟩ := List.forall_mem_cons.mp hl
    unfold replaceFirst
    split
    · exact List.forall_mem_cons.mpr ⟨hchange a ha, hl⟩
    · exact List.forall_mem_cons.mpr ⟨ha, ih hl⟩

theorem completes_refl (userId : Int) (r : Records) : Completes userId id id r ⟨[], r, some ()⟩ :=
  ⟨rfl, .refl userId r⟩

theorem Completes.bind {x y : Keeper Unit} (hx : Completes userId f g r (x r))
    (hy : Completes userId f' g' (x r).state (y (x r).state)) :
    Completes userId (f' ∘ f) (g' ∘ g) r ((x >>= fun _ => y) r) := by
  rw [bind_some hx.1]
  exact ⟨hy.1, hx.2.trans hy.2⟩

theorem addFingerprint_completes (hname : getUniqueName template (r.fingerprints userId) ≠ none)
    (groupId : Int) : Completes userId (· ++ [fingerId]) id r
      (addFingerprint template userId fingerId groupId r) := by
  obtain ⟨name, hname⟩ := Option.ne_none_iff_exists'.mp hname
  simp only [addFingerprint, get_bind, hname]
  exact setFingerprints_completes (by simp [Records.fingerIds])

theorem removeFingerprint_completes (userId fingerId : Int) (r : Records) :
    Completes userId (·.erase fingerId) id r (removeFingerprint userId fingerId r) := by
  simp only [removeFingerprint, get_bind]
  split
  · exact setFingerprints_completes map_eraseP_id
  · next h => exact ⟨rfl, (erase_map_of_not_any h).symm, rfl, fun _ _ => ⟨rfl, rfl⟩⟩

theorem renameFingerprint_completes (name : Option String) (r : Records) :
    Completes userId id id r (renameFingerprint userId fingerId name r) := by
  simp only [renameFingerprint, get_bind]
  split
  · refine setFingerprints_completes (map_replaceFirst (fun old => ?_) _)
    rfl
  · exact completes_refl userId r

theorem addApeFpData_completes (userId fingerId : Int) :
    Completes userId id (· ++ [fingerId]) r (addApeFpData userId fingerId r) := by
  exact setApeFpDatas_completes (by simp [Records.apeFingerIds])

theorem removeApeFpData_completes (userId fingerId : Int) :
    Completes userId id (·.erase fingerId) r (removeApeFpData userId fingerId r) := by
  simp only [removeApeFpData, get_bind]
  split
  · exact setApeFpDatas_completes map_eraseP_id
  · next h => exact ⟨rfl, rfl, (erase_map_of_not_any h).symm, fun _ _ => ⟨rfl, rfl⟩⟩

theorem replaceApeFpData_completes {p : ApeFpData → Bool} {change : ApeFpData → ApeFpData}
    (h : ∀ old, (change old).fingerId = old.fingerId) (r : Records) : Completes userId id id r
      (setApeFpDatas userId (replaceFirst p change (r.apeFpDatas userId)) r) :=
  setApeFpDatas_completes (map_replaceFirst h _)

theorem updateQBPackageInfo_completes (info : PackageInfo) (r : Records) :
    Completes userId id id r (updateApeFpDataQBPackageInfo userId fingerId info r) ∨
      updateApeFpDataQBPackageInfo userId fingerId info r = ⟨[], r, none⟩ := by
  simp only [updateApeFpDataQBPackageInfo, get_bind]
  split
  · cases info.packageName with
    | none => exact .inr rfl
    | some packageName =>
      refine .inl (replaceApeFpData_completes (fun old => ?_) r)
      split <;> rfl
  · exact .inl (completes_refl userId r)

theorem updateQBContactsInfo_completes (info : ContactsInfo) (r : Records) :
    Completes userId id id r (updateApeFpDataQBContactsInfo userId fingerId info r) ∨
      updateApeFpDataQBContactsInfo userId fingerId info r = ⟨[], r, none⟩ := by
  simp only [updateApeFpDataQBContactsInfo, get_bind]
  split
  · cases info.phoneNumber with
    | none => exact .inr rfl
    | some phoneNumber =>
      refine .inl (replaceApeFpData_completes (fun old => ?_) r)
      split <;> rfl
  · exact .inl (completes_refl userId r)

theorem updatePrivLockValue_completes (allowUnlockApp : Int) (r : Records) :
    Completes userId id id r (updateApeFpDataPrivLockValue userId fingerId allowUnlockApp r) := by
  simp only [updateApeFpDataPrivLockValue, get_bind]
  split
  · refine replaceApeFpData_completes (fun old => ?_) r
    rfl
  · exact completes_refl userId r

theorem enrollResult_completes {remaining : Int}
    (hname : remaining = 0 → getUniqueName template (r.fingerprints userId) ≠ none) :
    Completes userId (RecordOp.enrollResult userId fingerId remaining).change
      (RecordOp.enrollResult userId fingerId remaining).change r
      ((RecordOp.enrollResult userId fingerId remaining).perform template r) := by
  by_cases hremaining : remaining = 0
  · simp only [RecordOp.perform, RecordOp.change, if_pos hremaining]
    exact (addFingerprint_completes (hname hremaining) userId).bind
      (addApeFpData_completes userId fingerId)
  · simp only [RecordOp.perform, RecordOp.change, if_neg hremaining]
    exact completes_refl userId r

theorem removed_completes (template : NameTemplate) (userId fingerId : Int) (r : Records) :
    Completes userId (RecordOp.removed userId fingerId).change
      (RecordOp.removed userId fingerId).change r
      ((RecordOp.removed userId fingerId).perform template r) := by
  by_cases hfinger : fingerId = 0
  · simp only [RecordOp.perform, RecordOp.change, hfinger, ne_eq, not_true_eq_false, if_false]
    exact completes_refl userId r
  · simp only [RecordOp.perform, RecordOp.change, ne_eq, hfinger, not_false_eq_true, if_true]
    exact (removeFingerprint_completes userId fingerId r).bind
      (removeApeFpData_completes userId fingerId)

theorem perform_completes (template : NameTemplate) (op : RecordOp) (r : Records) :
    Completes op.userId op.change op.change r (op.perform template r) ∨
      op.perform template r = ⟨[], r, none⟩ := by
  cases op with
  | enrollResult userId fingerId remaining =>
    by_cases hthrown : remaining = 0 ∧ getUniqueName template (r.fingerprints userId) = none
    · obtain ⟨rfl, hname⟩ := hthrown
      have hadded : addFingerprint template userId fingerId userId r = ⟨[], r, none⟩ := by
        simp only [addFingerprint, get_bind, hname, throw_apply]
      simp only [RecordOp.perform, if_true]
      rw [bind_none (by rw [addFingerprintForUser, hadded]), addFingerprintForUser, hadded]
      exact .inr rfl
    · exact .inl (enrollResult_completes fun hremaining hname => hthrown ⟨hremaining, hname⟩)
  | removed userId fingerId => exact .inl (removed_completes template userId fingerId r)
  | rename userId fingerId name =>
    simp only [RecordOp.perform, renameFingerprintForUser]
    split
    · exact .inl (renameFingerprint_completes name r)
    · exact .inl (completes_refl userId r)
  | updateQBPackageInfo userId fingerId info => exact updateQBPackageInfo_completes info r
  | updateQBContactsInfo userId fingerId info => exact updateQBContactsInfo_completes info r
  | updatePrivLockValue userId fingerId allowUnlockApp =>
    simp only [RecordOp.perform, updateFingerprintPrivLockValueForUser]
    split
    · exact .inl (updatePrivLockValue_completes allowUnlockApp r)
    · exact .inl (completes_refl userId r)

theorem RecordOp.change_perm (op : RecordOp) {ids ids' : List Int} (h : ids.Perm ids') :
    (op.change ids).Perm (op.change ids') := by
  cases op with
  | enrollResult userId fingerId remaining =>
    simp only [RecordOp.change]
    split
    exacts [h.append_right _, h]
  | removed userId fingerId =>
    simp only [RecordOp.change]
    split
    exacts [h.erase _, h]
  | rename | updateQBPackageInfo | updateQBContactsInfo | updatePrivLockValue => exact h

theorem step_others (template : NameTemplate) (y : Keeping) (op : RecordOp) {other : Int}
    (hother : other ≠ op.userId) :
    (y.step template op).2.records.fingerprints other = y.records.fingerprints other ∧
      (y.step template op).2.records.apeFpDatas other = y.records.apeFpDatas other := by
  unfold Keeping.step
  split
  · exact ⟨rfl, rfl⟩
  · rcases perform_completes template op y.records with ⟨-, hupdate⟩ | hthrown
    · exact hupdate.others other hother
    · rw [hthrown]
      exact ⟨rfl, rfl⟩

theorem step_agree (template : NameTemplate) (y : Keeping) (op : RecordOp)
    (h : y.records.Agree) : (y.step template op).2.records.Agree := by
  intro userId
  by_cases huser : userId = op.userId
  · subst huser
    unfold Keeping.step
    split
    · exact h op.userId
    · rcases perform_completes template op y.records with ⟨-, hupdate⟩ | hthrown
      · rw [hupdate.fingerIds, hupdate.apeFingerIds]
        exact op.change_perm (h op.userId)
      · rw [hthrown]
        exact h op.userId
  · obtain ⟨hfingerprints, hapeFpDatas⟩ := step_others template y op huser
    rw [Records.fingerIds, Records.apeFingerIds, hfingerprints, hapeFpDatas]
    exact h userId

/-- Both lists of every user hold the same ids. -/
theorem recordsRun_agree (template : NameTemplate) (y : Keeping) (ops : List RecordOp)
    (h : y.records.Agree) :
    (run (Keeping.step template) y ops).2.records.Agree ∧
    ∀ before op after, ops = before ++ op :: after → ∀ other ≠ op.userId,
      let kept := (run (Keeping.step template) y before).2.records
      let next := (run (Keeping.step template) y (before ++ [op])).2.records
      next.fingerprints other = kept.fingerprints other ∧
        next.apeFpDatas other = kept.apeFpDatas other := by
  refine ⟨run_invariant_state (step_agree template) h ops, ?_⟩
  intro before op after _ other hother
  simp only [run_append]
  exact step_others template _ op hother

end

def fingerTemplate : NameTemplate where
  format guess := "Finger " ++ guess.repr
  injective guess guess' h := by
    have hdigits : guess.repr.toList = guess'.repr.toList := by
      rw [(String.append_right_inj _).mp h]
    rw [Nat.toList_repr, Nat.toList_repr] at hdigits
    rw [← Nat.ofDigitChars_ten_toDigits (n := guess), hdigits, Nat.ofDigitChars_ten_toDigits]

def twiceKept : Keeping where
  records :=
    { fingerprints := fun userId =>
        if userId = 0 then [⟨some "Finger 1", 0, 7, 0⟩, ⟨some "thumb", 0, 7, 0⟩]
        else [⟨some "Finger 1", 10, 7, 0⟩]
      apeFpDatas := fun userId =>
        if userId = 0 then [⟨7, .empty, .empty, 0⟩, ⟨7, .empty, .empty, 1⟩]
        else [⟨7, .empty, .empty, 0⟩] }
  crashed := false

theorem recordsRun_agree_twiceKept :
    let ops := [.removed 0 7, .enrollResult 0 8 0, .rename 0 7 (some "index"),
      .updatePrivLockValue 10 7 1, .removed 0 9]
    let records := (run (Keeping.step fingerTemplate) twiceKept ops).2.records
    twiceKept.records.Agree ∧ records.Agree ∧
      records.fingerprints 0 = [⟨some "index", 0, 7, 0⟩, ⟨some "Finger 1", 0, 8, 0⟩] ∧
      records.apeFingerIds 0 = [7, 8] := by
  have hagree : twiceKept.records.Agree := by
    intro userId
    unfold Records.fingerIds Records.apeFingerIds twiceKept
    by_cases huser : userId = 0 <;> simp [huser]
  refine ⟨hagree, (recordsRun_agree fingerTemplate twiceKept _ hagree).1, ?_, ?_⟩
  · decide +kernel
  · decide +kernel

theorem enrolledFingerprints_erase (s : Service) (user fingerId userId : Int) :
    enrolledFingerprints { s with fingerprints := s.fingerprints.erase (user, fingerId) } userId =
      if user = userId then (enrolledFingerprints s userId).erase fingerId
      else enrolledFingerprints s userId := by
  unfold enrolledFingerprints
  induction s.fingerprints with
  | nil => simp
  | cons entry fingerprints ih =>
    obtain ⟨first, second⟩ := entry
    rw [List.erase_cons]
    by_cases heq : (first, second) = (user, fingerId)
    · obtain ⟨rfl, rfl⟩ := Prod.mk.inj heq
      by_cases huser : first = userId <;> simp [huser]
    · rw [if_neg (by simpa using heq)]
      by_cases hfirst : first = userId
      · subst hfirst
        simp only [decide_true, List.filter_cons_of_pos, List.map_cons, ih]
        by_cases huser : user = first
        · subst huser
          have hsecond : second ≠ fingerId := fun h => heq (by rw [h])
          simp [hsecond]
        · simp [huser]
      · simp [hfirst, ih]

end WikoPlatform.Fingerprint
