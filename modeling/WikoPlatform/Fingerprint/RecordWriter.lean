import WikoPlatform.Fingerprint.Records

/-! The background writer of `ApeFpDatasUserState`. A value that the serializer does not take is
accepted by the call, and the run of `doWriteState` throws. -/

namespace WikoPlatform.Fingerprint.RecordWriter

open Runs Act

/-- The strings that `XmlSerializer.attribute` takes. It throws for any other. -/
structure Serializer where
  accepts : String → Bool
  accepts_empty : accepts "" = true

/-- The attributes of one `apefpdata` element. -/
abbrev Element : Type := List (String × String)

abbrev Document : Type := List Element

/-- The value of an attribute: `toString` of a `null` throws. -/
def Serializer.text (serializer : Serializer) (value : Option String) : Option String :=
  value.filter serializer.accepts

def Serializer.element (serializer : Serializer) (fp : ApeFpData) : Option Element := do
  let appName ← serializer.text fp.package.appName
  let packageName ← serializer.text fp.package.packageName
  let className ← serializer.text fp.package.className
  let category ← serializer.text fp.package.category
  let action ← serializer.text fp.package.action
  let data ← serializer.text fp.package.data
  let phoneName ← serializer.text fp.contacts.phoneName
  let phoneNumber ← serializer.text fp.contacts.phoneNumber
  some [("fingerId", fp.fingerId.repr), ("appName", appName), ("packageName", packageName),
    ("className", className), ("category", category), ("action", action), ("data", data),
    ("phoneName", phoneName), ("phoneNumber", phoneNumber),
    ("contactPhotoId", fp.contacts.contactPhotoId.repr),
    ("contactId", fp.contacts.contactId.repr), ("allowUnlockApp", fp.allowUnlockApp.repr)]

def Serializer.document (serializer : Serializer) (apeFpDatas : List ApeFpData) :
    Option Document :=
  apeFpDatas.mapM serializer.element

def PackageInfo.strings (info : PackageInfo) : List (Option String) :=
  [info.appName, info.packageName, info.className, info.category, info.action, info.data]

def ContactsInfo.strings (info : ContactsInfo) : List (Option String) :=
  [info.phoneName, info.phoneNumber]

def Serializer.Takes (serializer : Serializer) (values : List (Option String)) : Prop :=
  ∀ value ∈ values, (serializer.text value).isSome

def Serializer.Writable (serializer : Serializer) (fp : ApeFpData) : Prop :=
  serializer.Takes (PackageInfo.strings fp.package) ∧
    serializer.Takes (ContactsInfo.strings fp.contacts)

theorem isSome_bind_iff {α β : Type} {x : Option α} {f : α → Option β} {P : Prop}
    (h : ∀ a, (f a).isSome ↔ P) : (x >>= f).isSome ↔ x.isSome ∧ P := by
  cases x with
  | none => simp
  | some a => simpa using h a

theorem Serializer.element_isSome_iff (serializer : Serializer) (fp : ApeFpData) :
    (serializer.element fp).isSome ↔ serializer.Writable fp := by
  have h : (serializer.element fp).isSome ↔ _ :=
    isSome_bind_iff fun _ => isSome_bind_iff fun _ => isSome_bind_iff fun _ =>
      isSome_bind_iff fun _ => isSome_bind_iff fun _ => isSome_bind_iff fun _ =>
        isSome_bind_iff fun _ => isSome_bind_iff fun _ => (iff_true_intro rfl)
  rw [h]
  simp [Serializer.Writable, Serializer.Takes, PackageInfo.strings, ContactsInfo.strings, and_assoc]

theorem Serializer.document_isSome_iff (serializer : Serializer) (apeFpDatas : List ApeFpData) :
    (serializer.document apeFpDatas).isSome ↔ ∀ fp ∈ apeFpDatas, serializer.Writable fp := by
  induction apeFpDatas with
  | nil => simp [Serializer.document]
  | cons fp apeFpDatas ih =>
    rw [List.forall_mem_cons, ← ih, ← serializer.element_isSome_iff, Serializer.document,
      List.mapM_cons]
    refine isSome_bind_iff fun _ => ?_
    exact (isSome_bind_iff fun _ => iff_true_intro rfl).trans (Iff.of_eq (and_true _))

inductive RecordCall where
  | addApeFpData (fingerId : Int)
  | removeApeFpData (fingerId : Int)
  | updateQBPackageInfo (fingerId : Int) (info : PackageInfo)
  | updateQBContactsInfo (fingerId : Int) (info : ContactsInfo)
  | updatePrivLockValue (fingerId allowUnlockApp : Int)
  deriving DecidableEq

namespace RecordCall

def perform (userId : Int) : RecordCall → Keeper Unit
  | .addApeFpData fingerId => Fingerprint.addApeFpData userId fingerId
  | .removeApeFpData fingerId => Fingerprint.removeApeFpData userId fingerId
  | .updateQBPackageInfo fingerId info => updateApeFpDataQBPackageInfo userId fingerId info
  | .updateQBContactsInfo fingerId info => updateApeFpDataQBContactsInfo userId fingerId info
  | .updatePrivLockValue fingerId allowUnlockApp =>
    updateApeFpDataPrivLockValue userId fingerId allowUnlockApp

/-- There is one such object for each user. -/
def call (c : RecordCall) (apeFpDatas : List ApeFpData) : Outcome Records Write Unit :=
  c.perform 0 ⟨fun _ => [], fun _ => apeFpDatas⟩

def after (c : RecordCall) (apeFpDatas : List ApeFpData) : List ApeFpData :=
  (c.call apeFpDatas).state.apeFpDatas 0

def found (apeFpDatas : List ApeFpData) : RecordCall → Bool
  | .addApeFpData _ => true
  | .removeApeFpData fingerId | .updateQBPackageInfo fingerId _ | .updateQBContactsInfo fingerId _
  | .updatePrivLockValue fingerId _ => apeFpDatas.any (·.fingerId == fingerId)

def throws : RecordCall → Bool
  | .updateQBPackageInfo _ info => info.packageName.isNone
  | .updateQBContactsInfo _ info => info.phoneNumber.isNone
  | .addApeFpData _ | .removeApeFpData _ | .updatePrivLockValue .. => false

def strings : RecordCall → List (Option String)
  | .updateQBPackageInfo _ info => PackageInfo.strings info
  | .updateQBContactsInfo _ info => ContactsInfo.strings info
  | .addApeFpData _ | .removeApeFpData _ | .updatePrivLockValue .. => []

def Clean (serializer : Serializer) (apeFpDatas : List ApeFpData) (c : RecordCall) : Prop :=
  c.found apeFpDatas = true → c.throws = false → serializer.Takes c.strings

variable {c : RecordCall} {apeFpDatas : List ApeFpData}

def replaced : RecordCall → ApeFpData → ApeFpData
  | .updateQBPackageInfo _ info, old =>
    if (info.packageName.getD "").isEmpty then { old with package := info }
    else { old with package := info, contacts := .empty }
  | .updateQBContactsInfo _ info, old =>
    if (info.phoneNumber.getD "").isEmpty then { old with contacts := info }
    else { old with contacts := info, package := .empty }
  | .updatePrivLockValue _ allowUnlockApp, old => { old with allowUnlockApp }
  | .addApeFpData _, old | .removeApeFpData _, old => old

def changed (apeFpDatas : List ApeFpData) : RecordCall → List ApeFpData
  | .addApeFpData fingerId => apeFpDatas ++ [⟨fingerId, .empty, .empty, 0⟩]
  | .removeApeFpData fingerId => apeFpDatas.eraseP (·.fingerId == fingerId)
  | .updateQBPackageInfo fingerId info =>
    replaceFirst (·.fingerId == fingerId) (updateQBPackageInfo fingerId info).replaced apeFpDatas
  | .updateQBContactsInfo fingerId info =>
    replaceFirst (·.fingerId == fingerId) (updateQBContactsInfo fingerId info).replaced apeFpDatas
  | .updatePrivLockValue fingerId allowUnlockApp =>
    replaceFirst (·.fingerId == fingerId) (updatePrivLockValue fingerId allowUnlockApp).replaced
      apeFpDatas

theorem call_eq (c : RecordCall) (apeFpDatas : List ApeFpData) : c.call apeFpDatas =
      (if c.found apeFpDatas then if c.throws then throw else setApeFpDatas 0 (c.changed apeFpDatas)
      else pure () : Keeper Unit) ⟨fun _ => [], fun _ => apeFpDatas⟩ := by
  cases c with
  | addApeFpData | removeApeFpData | updatePrivLockValue => rfl
  | updateQBPackageInfo fingerId info =>
    obtain ⟨appName, packageName, className, category, action, data⟩ := info
    cases packageName <;> rfl
  | updateQBContactsInfo fingerId info =>
    obtain ⟨phoneName, phoneNumber, contactPhotoId, contactId⟩ := info
    cases phoneNumber <;> rfl

theorem call_not_found (h : c.found apeFpDatas = false) :
    c.call apeFpDatas = ⟨[], ⟨fun _ => [], fun _ => apeFpDatas⟩, some ()⟩ := by
  rw [call_eq, h]
  rfl

theorem call_throws (h : c.found apeFpDatas = true) (hthrows : c.throws = true) :
    c.call apeFpDatas = ⟨[], ⟨fun _ => [], fun _ => apeFpDatas⟩, none⟩ := by
  rw [call_eq, h, hthrows]
  rfl

theorem call_found (h : c.found apeFpDatas = true) (hthrows : c.throws = false) :
    c.call apeFpDatas = ⟨[⟨.apeFpData, 0⟩],
      ⟨fun _ => [], Function.update (fun _ => apeFpDatas) 0 (c.changed apeFpDatas)⟩, some ()⟩ := by
  rw [call_eq, h, hthrows]
  rfl

theorem writable_empty (serializer : Serializer) : serializer.Takes (PackageInfo.strings .empty) ∧
      serializer.Takes (ContactsInfo.strings .empty) := by
  have htext : (serializer.text (some "")).isSome := by
    simp [Serializer.text, serializer.accepts_empty]
  constructor
  · intro value hvalue
    have hsome : value = some "" := by simpa [PackageInfo.strings, PackageInfo.empty] using hvalue
    rwa [hsome]
  · intro value hvalue
    have hsome : value = some "" := by simpa [ContactsInfo.strings, ContactsInfo.empty] using hvalue
    rwa [hsome]

theorem forall_replaceFirst_iff {α : Type} {p : α → Bool} {f : α → α} {P : α → Prop} {C : Prop}
    (hf : ∀ a, P a → (P (f a) ↔ C)) {l : List α} (hl : ∀ a ∈ l, P a) (hany : l.any p = true) :
    (∀ a ∈ replaceFirst p f l, P a) ↔ C := by
  induction l with
  | nil => cases hany
  | cons a l ih =>
    obtain ⟨ha, hl⟩ := List.forall_mem_cons.mp hl
    unfold replaceFirst
    split
    next => rw [List.forall_mem_cons, hf a ha, and_iff_left hl]
    next hp =>
      have hrest : l.any p = true := by simpa [hp] using hany
      rw [List.forall_mem_cons, ih hl hrest, and_iff_right ha]

theorem changed_writable_iff {serializer : Serializer}
    (hl : ∀ fp ∈ apeFpDatas, serializer.Writable fp) (hfound : c.found apeFpDatas = true) :
    (∀ fp ∈ c.changed apeFpDatas, serializer.Writable fp) ↔ serializer.Takes c.strings := by
  obtain ⟨hpackage, hcontacts⟩ := writable_empty serializer
  cases c with
  | addApeFpData fingerId =>
    refine iff_of_true (List.forall_mem_append.mpr ⟨hl, ?_⟩) (List.forall_mem_nil _)
    exact List.forall_mem_singleton.mpr ⟨hpackage, hcontacts⟩
  | removeApeFpData fingerId =>
    exact iff_of_true (fun fp hfp => hl fp (List.mem_of_mem_eraseP hfp)) (List.forall_mem_nil _)
  | updatePrivLockValue fingerId allowUnlockApp =>
    refine forall_replaceFirst_iff (fun old hold => ?_) hl hfound
    exact iff_of_true hold (List.forall_mem_nil _)
  | updateQBPackageInfo fingerId info =>
    refine forall_replaceFirst_iff (fun old hold => ?_) hl hfound
    rw [replaced]
    split
    · exact and_iff_left hold.2
    · exact and_iff_left hcontacts
  | updateQBContactsInfo fingerId info =>
    refine forall_replaceFirst_iff (fun old hold => ?_) hl hfound
    rw [replaced]
    split
    · exact and_iff_right hold.1
    · exact and_iff_right hpackage

end RecordCall

structure UserState where
  apeFpDatas : List ApeFpData
  scheduled : Nat
  crashed : Bool

inductive Event where
  | call (c : RecordCall)
  | doWriteState

inductive Output where
  | wrote (document : Document)
  | threw
  deriving DecidableEq

namespace UserState

def call (s : UserState) (c : RecordCall) : UserState :=
  let o := c.call s.apeFpDatas
  ⟨o.state.apeFpDatas 0, s.scheduled + o.trace.length, o.result.isNone⟩

def doWriteState (serializer : Serializer) (s : UserState) : List Output × UserState :=
  match serializer.document s.apeFpDatas with
  | some document => ([.wrote document], { s with scheduled := s.scheduled - 1 })
  | none => ([.threw], { s with crashed := true })

def step (serializer : Serializer) (s : UserState) (e : Event) : List Output × UserState :=
  if s.crashed then ([], s)
  else
    match e with
    | .call c => ([], s.call c)
    | .doWriteState => if s.scheduled = 0 then ([], s) else s.doWriteState serializer

def start (fingerIds : List Int) : UserState :=
  ⟨fingerIds.map fun fingerId => ⟨fingerId, .empty, .empty, 0⟩, 0, false⟩

variable {serializer : Serializer} {s : UserState} {c : RecordCall}

def Writable (serializer : Serializer) (s : UserState) : Prop :=
  ∀ fp ∈ s.apeFpDatas, serializer.Writable fp

theorem start_writable (serializer : Serializer) (fingerIds : List Int) :
    (start fingerIds).Writable serializer := by
  intro fp hfp
  obtain ⟨fingerId, -, rfl⟩ := List.mem_map.mp hfp
  exact RecordCall.writable_empty serializer

theorem call_writable_iff (h : s.Writable serializer) :
    (s.call c).Writable serializer ↔ c.Clean serializer s.apeFpDatas := by
  change ∀ fp ∈ s.apeFpDatas, serializer.Writable fp at h
  unfold call Writable RecordCall.Clean
  cases hfound : c.found s.apeFpDatas with
  | false => simpa [RecordCall.call_not_found hfound] using h
  | true =>
    cases hthrows : c.throws with
    | true => simpa [RecordCall.call_throws hfound hthrows] using h
    | false =>
      rw [RecordCall.call_found hfound hthrows]
      simpa using RecordCall.changed_writable_iff h hfound

theorem call_scheduled (h : s.Writable serializer) (hcall : ¬(s.call c).Writable serializer) :
    (s.call c).scheduled ≠ 0 ∧ (s.call c).crashed = false := by
  rw [call_writable_iff h, RecordCall.Clean] at hcall
  obtain ⟨hfound, hthrows, -⟩ : c.found s.apeFpDatas = true ∧ c.throws = false ∧
      ¬serializer.Takes c.strings := by
    simpa using hcall
  rw [call, RecordCall.call_found hfound hthrows]
  exact ⟨Nat.succ_ne_zero _, rfl⟩

theorem doWriteState_eq (h : s.Writable serializer) : ∃ document,
    s.doWriteState serializer = ([.wrote document], { s with scheduled := s.scheduled - 1 }) := by
  obtain ⟨document, hdoc⟩ :=
    Option.isSome_iff_exists.mp ((serializer.document_isSome_iff s.apeFpDatas).mpr h)
  exact ⟨document, by rw [doWriteState, hdoc]⟩

theorem doWriteState_threw (h : ¬s.Writable serializer) :
    .threw ∈ (s.doWriteState serializer).1 := by
  have hnone : serializer.document s.apeFpDatas = none :=
    Option.not_isSome_iff_eq_none.mp fun hsome => h ((serializer.document_isSome_iff _).mp hsome)
  rw [doWriteState, hnone]
  exact List.mem_singleton_self _

def living (s : UserState) : Option (List ApeFpData) :=
  if s.crashed then none else some s.apeFpDatas

end UserState

def callStep (living : Option (List ApeFpData)) (c : RecordCall) :
    List Empty × Option (List ApeFpData) :=
  ([], living.bind fun apeFpDatas =>
    (c.call apeFpDatas).result.map fun _ => c.after apeFpDatas)

/-- No call puts a string into a record that cannot be written. -/
def CallsClean (serializer : Serializer) (living : Option (List ApeFpData)) (c : RecordCall) :
    Prop :=
  ∀ apeFpDatas ∈ living, c.Clean serializer apeFpDatas

def Event.call? : Event → Option RecordCall
  | .call c => some c
  | .doWriteState => none

section

variable {serializer : Serializer} {s : UserState} {events : List Event}

theorem living_call (hlive : s.crashed = false) (c : RecordCall) :
    (s.call c).living = (callStep s.living c).2 := by
  cases hres : (c.call s.apeFpDatas).result with
  | none => simp [UserState.living, UserState.call, callStep, hlive, hres]
  | some _ => simp [UserState.living, UserState.call, callStep, RecordCall.after, hlive, hres]

theorem step_crashed (hcrash : s.crashed = true) (e : Event) : s.step serializer e = ([], s) :=
  if_pos hcrash

theorem step_call (hlive : s.crashed = false) (c : RecordCall) :
    s.step serializer (.call c) = ([], s.call c) :=
  if_neg (Bool.eq_false_iff.mp hlive)

theorem run_not_threw (hwritable : s.Writable serializer)
    (hclean : Meets callStep (CallsClean serializer) s.living (events.filterMap Event.call?)) :
    .threw ∉ (run (UserState.step serializer) s events).1 := by
  induction events generalizing s with
  | nil => exact List.not_mem_nil
  | cons e events ih =>
    rw [run, List.mem_append, not_or]
    cases hcrash : s.crashed with
    | true =>
      rw [step_crashed hcrash]
      refine ⟨List.not_mem_nil, ih hwritable ?_⟩
      cases e with
      | call c =>
        have hnone : s.living = none := if_pos hcrash
        rw [hnone] at hclean ⊢
        exact hclean.2
      | doWriteState => exact hclean
    | false =>
      cases e with
      | call c =>
        obtain ⟨hc, hrest⟩ := hclean
        have hmem : s.apeFpDatas ∈ s.living := by simp [UserState.living, hcrash]
        rw [step_call hcrash]
        refine ⟨List.not_mem_nil, ih ((UserState.call_writable_iff hwritable).mpr (hc _ hmem)) ?_⟩
        rwa [living_call hcrash]
      | doWriteState =>
        obtain ⟨document, hwrote⟩ := UserState.doWriteState_eq hwritable
        have hstep : s.step serializer .doWriteState =
            if s.scheduled = 0 then ([], s) else s.doWriteState serializer :=
          if_neg (Bool.eq_false_iff.mp hcrash)
        rw [hstep]
        split
        · exact ⟨List.not_mem_nil, ih hwritable hclean⟩
        · rw [hwrote]
          exact ⟨by simp, ih hwritable hclean⟩

theorem threw_of_not_clean {c : RecordCall} (hwritable : s.Writable serializer)
    (hlive : s.crashed = false) (hc : ¬c.Clean serializer s.apeFpDatas) :
    .threw ∈ (run (UserState.step serializer) s (.call c :: .doWriteState :: events)).1 := by
  have hnot : ¬(s.call c).Writable serializer := mt (UserState.call_writable_iff hwritable).mp hc
  obtain ⟨hscheduled, hlive'⟩ := UserState.call_scheduled hwritable hnot
  have hstep : (s.call c).step serializer .doWriteState = (s.call c).doWriteState serializer := by
    rw [UserState.step, if_neg (Bool.eq_false_iff.mp hlive')]
    exact if_neg hscheduled
  rw [run, step_call hlive, run, hstep]
  rw [List.nil_append]
  exact List.mem_append_left _ (UserState.doWriteState_threw hnot)

theorem clean_of_not_threw {calls : List RecordCall} (hwritable : s.Writable serializer)
    (h : ∀ events : List Event, events.filterMap Event.call? = calls →
      .threw ∉ (run (UserState.step serializer) s events).1) :
    Meets callStep (CallsClean serializer) s.living calls := by
  induction calls generalizing s with
  | nil => trivial
  | cons c calls ih =>
    have hrest (events : List Event) (hevents : events.filterMap Event.call? = calls) :
        .threw ∉ (run (UserState.step serializer) (s.step serializer (.call c)).2 events).1 := by
      have hall := h (.call c :: events) (by rw [← hevents]; rfl)
      rw [run, List.mem_append, not_or] at hall
      exact hall.2
    cases hcrash : s.crashed with
    | true =>
      rw [step_crashed hcrash] at hrest
      have hnone : s.living = none := if_pos hcrash
      have hmeets := ih hwritable hrest
      rw [hnone] at hmeets ⊢
      exact ⟨fun _ hmem => absurd hmem (Option.not_mem_none _), hmeets⟩
    | false =>
      have hc : c.Clean serializer s.apeFpDatas := by
        by_contra hc
        have hcalls : (calls.map Event.call).filterMap Event.call? = calls := by
          rw [List.filterMap_map]
          exact List.filterMap_some
        refine h (.call c :: .doWriteState :: calls.map .call) ?_
          (threw_of_not_clean hwritable hcrash hc)
        exact congrArg (c :: ·) hcalls
      rw [step_call hcrash] at hrest
      have hmeets := ih ((UserState.call_writable_iff hwritable).mpr hc) hrest
      rw [living_call hcrash] at hmeets
      have hliving : s.living = some s.apeFpDatas := by simp [UserState.living, hcrash]
      refine ⟨fun apeFpDatas hmem => ?_, hmeets⟩
      rw [hliving, Option.mem_some_iff] at hmem
      exact hmem ▸ hc

end

/-- The writer throws exactly for refused strings. -/
theorem doWriteState_never_throws_iff (serializer : Serializer) (fingerIds : List Int)
    (calls : List RecordCall) : (∀ events : List Event, events.filterMap Event.call? = calls →
      .threw ∉ (run (UserState.step serializer) (UserState.start fingerIds) events).1) ↔
    Meets callStep (CallsClean serializer) (UserState.start fingerIds).living calls := by
  have hstart := UserState.start_writable serializer fingerIds
  refine ⟨clean_of_not_threw hstart, ?_⟩
  rintro h events rfl
  exact run_not_threw hstart h

def allStrings : Serializer := ⟨fun _ => true, rfl⟩

theorem nullAppName_threw : (run (UserState.step allStrings) (UserState.start [1])
      [.call (.updateQBPackageInfo 1 ⟨none, some "pkg", some "", some "", some "", some ""⟩),
        .doWriteState]).1 = [.threw] := by
  decide +kernel

end WikoPlatform.Fingerprint.RecordWriter
