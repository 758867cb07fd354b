import Mathlib.Data.List.Induction
import WikoPlatform.Fingerprint.RecordWriter
import WikoPlatform.Lib.LastWrite

/-! What a finger launches and what it unlocks: a package and a phone number take each other's
place, and the lock value stands by itself. -/

namespace WikoPlatform.Fingerprint.QuickLaunch

open RecordWriter LastWrite

def getCopy (array : List ApeFpData) : List ApeFpData :=
  array.map fun fp =>
    { fingerId := fp.fingerId
      package := ⟨fp.package.appName, fp.package.packageName, fp.package.className,
        fp.package.category, fp.package.action, fp.package.data⟩
      contacts := ⟨fp.contacts.phoneName, fp.contacts.phoneNumber, fp.contacts.contactPhotoId,
        fp.contacts.contactId⟩
      allowUnlockApp := fp.allowUnlockApp }

def records (calls : List RecordCall) : List ApeFpData :=
  calls.foldl (fun apeFpDatas c => c.after apeFpDatas) []

def getApeFpDatas (calls : List RecordCall) : List ApeFpData := getCopy (records calls)

/-- The first record of the finger becomes what `becomes` allows. -/
def OnlyFirst (fingerId : Int) (becomes : ApeFpData → List ApeFpData → Prop)
    (old new : List ApeFpData) : Prop :=
  (∀ fp ∈ old, fp.fingerId ≠ fingerId) ∧ new = old ∨
    ∃ before fp after fps, old = before ++ fp :: after ∧
      (∀ other ∈ before, other.fingerId ≠ fingerId) ∧ fp.fingerId = fingerId ∧
      new = before ++ fps ++ after ∧ becomes fp fps

def Relaunched (fp : ApeFpData) (fps : List ApeFpData) : Prop :=
  ∃ fp', fps = [fp'] ∧ fp'.fingerId = fp.fingerId ∧ fp'.allowUnlockApp = fp.allowUnlockApp

def Isolated (old new : List ApeFpData) : RecordCall → Prop
  | .addApeFpData fingerId => ∃ fp, fp.fingerId = fingerId ∧ new = old ++ [fp]
  | .removeApeFpData fingerId => OnlyFirst fingerId (fun _ fps => fps = []) old new
  | .updateQBPackageInfo fingerId _ | .updateQBContactsInfo fingerId _ =>
    OnlyFirst fingerId Relaunched old new
  | .updatePrivLockValue fingerId allowUnlockApp =>
    OnlyFirst fingerId (fun fp fps => fps = [{ fp with allowUnlockApp }]) old new

/-- The finger launches a package or a number, and not both. -/
def Exclusive (fp : ApeFpData) : Prop :=
  fp.package.packageName.getD "" = "" ∨ fp.contacts.phoneNumber.getD "" = ""

/-- A finger's record, as the calls that were for it. -/
structure Journal where
  fingerId : Int
  taken : List RecordCall

def journalStep (journals : List Journal) (c : RecordCall) : List Journal :=
  match c with
  | .addApeFpData fingerId => journals ++ [⟨fingerId, []⟩]
  | .removeApeFpData fingerId => journals.eraseP (·.fingerId == fingerId)
  | .updateQBPackageInfo fingerId _ | .updateQBContactsInfo fingerId _
  | .updatePrivLockValue fingerId _ =>
    replaceFirst (·.fingerId == fingerId) (fun j => { j with taken := j.taken ++ [c] }) journals

def journals (calls : List RecordCall) : List Journal := calls.foldl journalStep []

def lockValue : RecordCall → Option Int
  | .updatePrivLockValue _ allowUnlockApp => some allowUnlockApp
  | _ => none

def Journal.allowUnlockApp (j : Journal) : Int := (last lockValue j.taken).getD 0

structure Kept (calls : List RecordCall) : Prop where
  isolated : ∀ before c after, calls = before ++ c :: after →
    Isolated (getApeFpDatas before) (getApeFpDatas (before ++ [c])) c
  exclusive : ∀ n, ∀ fp ∈ getApeFpDatas (calls.take n), Exclusive fp
  lastSet : ∀ n, (getApeFpDatas (calls.take n)).map (fun fp => (fp.fingerId, fp.allowUnlockApp)) =
    (journals (calls.take n)).map fun j => (j.fingerId, j.allowUnlockApp)

section

variable {α β : Type} {p : α → Bool} {f : α → α} {l : List α}

theorem replaceFirst_of_forall_not (h : ∀ a ∈ l, ¬p a = true) : replaceFirst p f l = l := by
  induction l with
  | nil => rfl
  | cons a l ih =>
    obtain ⟨ha, hl⟩ := List.forall_mem_cons.mp h
    rw [replaceFirst, if_neg ha, ih hl]

theorem replaceFirst_append {before : List α} (hbefore : ∀ b ∈ before, ¬p b = true) {a : α}
    (ha : p a = true) (after : List α) :
    replaceFirst p f (before ++ a :: after) = before ++ f a :: after := by
  induction before with
  | nil => rw [List.nil_append, replaceFirst, if_pos ha, List.nil_append]
  | cons b before ih =>
    obtain ⟨hb, hbefore⟩ := List.forall_mem_cons.mp hbefore
    rw [List.cons_append, replaceFirst, if_neg hb, ih hbefore, List.cons_append]

theorem map_replaceFirst_of {g : α → β} {p' : β → Bool} {f' : β → β}
    (hp : ∀ a, p a = p' (g a)) (hf : ∀ a, g (f a) = f' (g a)) (l : List α) :
    (replaceFirst p f l).map g = replaceFirst p' f' (l.map g) := by
  induction l with
  | nil => rfl
  | cons a l ih =>
    rw [replaceFirst, List.map_cons, replaceFirst, ← hp]
    split
    · rw [List.map_cons, hf]
    · rw [List.map_cons, ih]

end

section

variable {c : RecordCall} {apeFpDatas : List ApeFpData} {fp : ApeFpData}

theorem changed_of_not_found (h : c.found apeFpDatas = false) :
    c.changed apeFpDatas = apeFpDatas := by
  cases c with
  | addApeFpData => cases h
  | removeApeFpData fingerId => exact List.eraseP_of_forall_not (List.any_eq_false.mp h)
  | updateQBPackageInfo | updateQBContactsInfo | updatePrivLockValue =>
    exact replaceFirst_of_forall_not (List.any_eq_false.mp h)

theorem after_eq (c : RecordCall) (apeFpDatas : List ApeFpData) :
    c.after apeFpDatas = if c.throws then apeFpDatas else c.changed apeFpDatas := by
  rw [RecordCall.after]
  cases hfound : c.found apeFpDatas with
  | false =>
    rw [RecordCall.call_not_found hfound, changed_of_not_found hfound, ite_self]
  | true =>
    cases hthrows : c.throws with
    | true =>
      rw [RecordCall.call_throws hfound hthrows]
      rfl
    | false =>
      rw [RecordCall.call_found hfound hthrows]
      rfl

variable {fingerId : Int} {becomes : ApeFpData → List ApeFpData → Prop}

theorem OnlyFirst.intro {new : List ApeFpData} {change : ApeFpData → List ApeFpData}
    (hchange : ∀ fp, becomes fp (change fp))
    (hnone : (∀ fp ∈ apeFpDatas, ¬(fp.fingerId == fingerId) = true) → new = apeFpDatas)
    (hfirst : ∀ before fp after, apeFpDatas = before ++ fp :: after →
      (∀ other ∈ before, ¬(other.fingerId == fingerId) = true) →
      (fp.fingerId == fingerId) = true → new = before ++ change fp ++ after) :
    OnlyFirst fingerId becomes apeFpDatas new := by
  cases hfind : apeFpDatas.find? (·.fingerId == fingerId) with
  | none =>
    have habsent := List.find?_eq_none.mp hfind
    exact .inl ⟨by simpa using habsent, hnone habsent⟩
  | some fp =>
    obtain ⟨hfp, before, after, hsplit, hbefore⟩ := List.find?_eq_some_iff_append.mp hfind
    have hnew := hfirst before fp after hsplit (by simpa using hbefore) hfp
    exact .inr ⟨before, fp, after, change fp, hsplit, by simpa using hbefore, by simpa using hfp,
      hnew, hchange fp⟩

theorem OnlyFirst.replaced {f : ApeFpData → ApeFpData} (hf : ∀ fp, becomes fp [f fp]) :
    OnlyFirst fingerId becomes apeFpDatas (replaceFirst (·.fingerId == fingerId) f apeFpDatas) := by
  refine .intro hf replaceFirst_of_forall_not ?_
  rintro before fp after rfl hbefore hfp
  rw [replaceFirst_append hbefore hfp, List.append_assoc, List.singleton_append]

theorem OnlyFirst.removed : OnlyFirst fingerId (fun _ fps => fps = []) apeFpDatas
      (apeFpDatas.eraseP (·.fingerId == fingerId)) := by
  refine .intro (fun _ => rfl) List.eraseP_of_forall_not ?_
  rintro before fp after rfl hbefore hfp
  rw [List.eraseP_append_right _ hbefore, List.append_nil]
  exact congrArg (before ++ ·) (List.eraseP_cons_of_pos hfp)

theorem OnlyFirst.same (h : ∀ fp, becomes fp [fp]) :
    OnlyFirst fingerId becomes apeFpDatas apeFpDatas := by
  refine .intro h (fun _ => rfl) ?_
  rintro before fp after rfl - -
  rw [List.append_assoc, List.singleton_append]

theorem relaunched_refl (fp : ApeFpData) : Relaunched fp [fp] := ⟨fp, rfl, rfl, rfl⟩

theorem relaunched_package (fingerId : Int) (info : PackageInfo) (fp : ApeFpData) :
    Relaunched fp [(RecordCall.updateQBPackageInfo fingerId info).replaced fp] := by
  refine ⟨_, rfl, ?_⟩
  rw [RecordCall.replaced]
  split <;> exact ⟨rfl, rfl⟩

theorem relaunched_contacts (fingerId : Int) (info : ContactsInfo) (fp : ApeFpData) :
    Relaunched fp [(RecordCall.updateQBContactsInfo fingerId info).replaced fp] := by
  refine ⟨_, rfl, ?_⟩
  rw [RecordCall.replaced]
  split <;> exact ⟨rfl, rfl⟩

theorem after_isolated (c : RecordCall) : Isolated apeFpDatas (c.after apeFpDatas) c := by
  rw [after_eq]
  cases c with
  | addApeFpData fingerId => exact ⟨⟨fingerId, .empty, .empty, 0⟩, rfl, rfl⟩
  | removeApeFpData fingerId => exact .removed
  | updateQBPackageInfo fingerId info =>
    split
    · exact .same relaunched_refl
    · exact .replaced (relaunched_package fingerId info)
  | updateQBContactsInfo fingerId info =>
    split
    · exact .same relaunched_refl
    · exact .replaced (relaunched_contacts fingerId info)
  | updatePrivLockValue fingerId allowUnlockApp => exact .replaced fun _ => rfl

theorem replaced_exclusive (h : Exclusive fp) : Exclusive (c.replaced fp) := by
  cases c with
  | addApeFpData | removeApeFpData | updatePrivLockValue => exact h
  | updateQBPackageInfo fingerId info =>
    rw [RecordCall.replaced]
    split
    · next hempty => exact .inl (by simpa using hempty)
    · exact .inr rfl
  | updateQBContactsInfo fingerId info =>
    rw [RecordCall.replaced]
    split
    · next hempty => exact .inr (by simpa using hempty)
    · exact .inl rfl

theorem after_exclusive (c : RecordCall) (h : ∀ fp ∈ apeFpDatas, Exclusive fp) :
    ∀ fp ∈ c.after apeFpDatas, Exclusive fp := by
  rw [after_eq]
  split
  · exact h
  cases c with
  | addApeFpData fingerId =>
    exact List.forall_mem_append.mpr ⟨h, List.forall_mem_singleton.mpr (.inl rfl)⟩
  | removeApeFpData fingerId => exact fun fp hfp => h fp (List.mem_of_mem_eraseP hfp)
  | updateQBPackageInfo | updateQBContactsInfo | updatePrivLockValue =>
    exact forall_replaceFirst (fun fp (hfp : Exclusive fp) => replaced_exclusive hfp) h

def lockStep (locks : List (Int × Int)) : RecordCall → List (Int × Int)
  | .addApeFpData fingerId => locks ++ [(fingerId, 0)]
  | .removeApeFpData fingerId => locks.eraseP (·.1 == fingerId)
  | .updatePrivLockValue fingerId allowUnlockApp =>
    replaceFirst (·.1 == fingerId) (fun lock => (lock.1, allowUnlockApp)) locks
  | .updateQBPackageInfo .. | .updateQBContactsInfo .. => locks

def lockOf (fp : ApeFpData) : Int × Int := (fp.fingerId, fp.allowUnlockApp)

def Journal.lock (j : Journal) : Int × Int := (j.fingerId, j.allowUnlockApp)

theorem Relaunched.lockOf_eq {fp' : ApeFpData} (h : Relaunched fp [fp']) :
    lockOf fp' = lockOf fp := by
  obtain ⟨_, heq, hid, hlock⟩ := h
  rw [List.singleton_inj.mp heq, lockOf, hid, hlock, lockOf]

theorem after_locks (c : RecordCall) (apeFpDatas : List ApeFpData) :
    (c.after apeFpDatas).map lockOf = lockStep (apeFpDatas.map lockOf) c := by
  rw [after_eq]
  cases c with
  | addApeFpData fingerId => exact List.map_append
  | removeApeFpData fingerId =>
    rw [lockStep, List.eraseP_map]
    rfl
  | updateQBPackageInfo fingerId info =>
    split
    · rfl
    · exact map_replaceFirst (fun fp => (relaunched_package fingerId info fp).lockOf_eq) apeFpDatas
  | updateQBContactsInfo fingerId info =>
    split
    · rfl
    · exact map_replaceFirst (fun fp => (relaunched_contacts fingerId info fp).lockOf_eq) apeFpDatas
  | updatePrivLockValue fingerId allowUnlockApp =>
    refine map_replaceFirst_of (fun fp => ?_) (fun fp => ?_) apeFpDatas
    · rfl
    · rfl

theorem Journal.lock_snoc (j : Journal) (c : RecordCall) :
    Journal.lock { j with taken := j.taken ++ [c] } =
      (j.fingerId, (lockValue c).getD j.allowUnlockApp) := by
  rw [Journal.lock, Journal.allowUnlockApp, last_snoc]
  cases lockValue c with
  | none | some value => rfl

theorem journalStep_locks (journals : List Journal) (c : RecordCall) :
    (journalStep journals c).map Journal.lock = lockStep (journals.map Journal.lock) c := by
  cases c with
  | addApeFpData fingerId => exact List.map_append
  | removeApeFpData fingerId =>
    rw [lockStep, List.eraseP_map]
    rfl
  | updateQBPackageInfo fingerId info | updateQBContactsInfo fingerId info =>
    exact map_replaceFirst (fun j => j.lock_snoc _) journals
  | updatePrivLockValue fingerId allowUnlockApp =>
    refine map_replaceFirst_of (fun j => ?_) (fun j => ?_) journals
    · rfl
    · exact j.lock_snoc _

end

theorem getApeFpDatas_eq (calls : List RecordCall) : getApeFpDatas calls = records calls :=
  List.map_id _

theorem records_snoc (calls : List RecordCall) (c : RecordCall) :
    records (calls ++ [c]) = c.after (records calls) := by
  rw [records, List.foldl_append]
  rfl

theorem journals_snoc (calls : List RecordCall) (c : RecordCall) :
    journals (calls ++ [c]) = journalStep (journals calls) c := by
  rw [journals, List.foldl_append]
  rfl

variable {calls : List RecordCall}

theorem records_exclusive : ∀ fp ∈ records calls, Exclusive fp := by
  induction calls using List.reverseRecOn with
  | nil => exact List.forall_mem_nil _
  | append_singleton calls c ih =>
    rw [records_snoc]
    exact after_exclusive c ih

theorem records_locks : (records calls).map lockOf = (journals calls).map Journal.lock := by
  induction calls using List.reverseRecOn with
  | nil => rfl
  | append_singleton calls c ih =>
    rw [records_snoc, after_locks, ih, journals_snoc, journalStep_locks]

/-- A call changes the first record of its finger only. -/
theorem quickLaunch_kept (calls : List RecordCall) : Kept calls where
  isolated before c after _ := by
    rw [getApeFpDatas_eq, getApeFpDatas_eq, records_snoc]
    exact after_isolated c
  exclusive n := by
    rw [getApeFpDatas_eq]
    exact records_exclusive
  lastSet n := by
    rw [getApeFpDatas_eq]
    exact records_locks

end WikoPlatform.Fingerprint.QuickLaunch
