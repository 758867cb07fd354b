import WikoPlatform.Chipone.Templates
import WikoPlatform.Silead.TemplateStores

/-! Which fingerprint user the daemon is switched to when the Silead HAL makes it work on templates.
The HAL compares the number of a fingerprint user with that of a group. -/

namespace WikoPlatform.Silead

open Runs
open Act (Ends)
open Chipone (FingerprintMsg)

/-- `mClient`, what `fingerprint_set_active_group` meets, the `GetFPInfo` before and after it, and
the call on the templates. `notify`: there is a callback. -/
structure OpEnv where
  group : GroupEnv
  firstInfo : Option (Fin 5 → Finger)
  lastInfo : Option (Fin 5 → Finger)
  credential : Int
  notify : Bool

inductive Output where
  | template (active : UInt32)
  | notify (msg : FingerprintMsg)
  deriving DecidableEq

def toInt (x : UInt32) : Int := (x.toNat : Int).bmod 4294967296

def credentialCall (env : OpEnv) : Act Hal Output Int := do
  let s ← Act.get
  Act.emit (.template s.active)
  pure env.credential

def enrollIndex (info : FpInfo) : Option (Fin 5) :=
  (List.finRange 5).find? fun i => (info.fpinfo i).slot == 0

def enrollCredential (env : OpEnv) : Act Hal Output Int := do
  let s ← Act.get
  match enrollIndex s.info with
  | none => pure (-1)
  | some _ => credentialCall env

def fingerlistempty (info : FpInfo) : Bool :=
  (List.finRange 5).all fun i => !((info.fpinfo i).slot == 1 && (info.fpinfo i).enable == 1)

def fingerprintErrorCanceled : Int := 5

section

variable (users : List UInt32) (env : OpEnv) (gid : UInt32)

/-- The group is set unless it has the number of the active user. -/
def onActiveUser (noticed : Int → Bool) (switched direct : Act Hal Output Int) :
    Act Hal Output Int := do
  Act.silent (getFPInfo env.firstInfo)
  let s ← Act.get
  if s.info.userid ≠ gid then do
    let value ← Act.silent (fingerprintSetActiveGroup users env.group gid)
    if noticed value then pure (-1) else switched
  else direct

def fingerprintEnroll : Act Hal Output Int :=
  if !env.group.client then pure (-1)
  else onActiveUser users env gid (fun value => gid != 0 && value == -1)
    (do
      Act.silent (getFPInfo env.lastInfo)
      enrollCredential env)
    (enrollCredential env)

def fingerprintAuthenticate : Act Hal Output Int :=
  if !env.group.client then pure (-1)
  else onActiveUser users env gid (fun value => gid != 0 && value == -1) (credentialCall env)
    (credentialCall env)

/-- A removal is followed by an error, to end its client. -/
def reportRemoved (fid : UInt32) (ret : Int) : Act Hal Output Unit := do
  if env.notify && ret == 0 then do
    Act.emit (.notify (.removed (toInt gid) (toInt fid)))
    Act.emit (.notify (.error fingerprintErrorCanceled))
  else pure ()

def reportEmpty : Act Hal Output Unit := do
  let s ← Act.get
  if fingerlistempty s.info then
    if env.notify then Act.emit (.notify (.removed (toInt gid) 0)) else Act.throw
  else pure ()

def reportResult (fid : UInt32) (ret : Int) : Act Hal Output Int := do
  reportRemoved env gid fid ret
  Act.silent (getFPInfo env.lastInfo)
  reportEmpty env gid
  pure ret

def fingerprintRemove (fid : UInt32) : Act Hal Output Int := do
  if !env.group.client then pure (-1)
  else if fid = 0 then pure (-1)
  else do
    let ret ← onActiveUser users env gid (fun activeRet => activeRet < 0) (credentialCall env)
      (credentialCall env)
    reportResult env gid fid ret

end

def Hal.mapped (s : Hal) (gid : UInt32) : Option UInt32 :=
  (s.nextMap.indexOf gid).map s.nextMap.fpUserId

theorem MapInfo.bytes_read (file : List UInt8) (m : MapInfo) :
    (MapInfo.read file m).bytes = file.take 60 ++ m.bytes.drop file.length := by
  have hwords : (MapInfo.read file m).words = (List.range 15).map fun i =>
      Words.get32 (file.take 60 ++ m.bytes.drop file.length) (4 * i) := rfl
  rw [MapInfo.bytes, hwords]
  apply Words.flatMap_le32_get32
  rw [List.length_append, List.length_take, List.length_drop, m.bytes_length]
  omega

theorem MapInfo.read_read (file : List UInt8) (m : MapInfo) :
    MapInfo.read file (MapInfo.read file m) = MapInfo.read file m := by
  have hall : file.take 60 ++ (MapInfo.read file m).bytes.drop file.length =
      file.take 60 ++ m.bytes.drop file.length := by
    rw [m.bytes_read]
    by_cases hlen : file.length ≤ 60
    · rw [List.take_of_length_le hlen, List.drop_left]
    · rw [List.drop_of_length_le, List.drop_of_length_le]
      · rw [m.bytes_length]
        omega
      · rw [List.length_append, List.length_take, List.length_drop, m.bytes_length]
        omega
  exact congrArg MapInfo.ofBytes hall

def At (m : MapInfo) (s : Hal) : Prop := s.mapInfo = m ∧ s.nextMap = m

variable {s : Hal}

theorem Loaded.at {m : MapInfo} (h : Loaded m s) : At m s := ⟨h.2, h.stored.nextMap_eq⟩

section

variable {users : List UInt32} {env : GroupEnv} {m : MapInfo} {gid : UInt32} {cut : Option Nat}
  {i : Fin 5}

theorem saveConfigsFile_at :
    Ends (fun s => s.mapInfo = m) (saveConfigsFile cut) (fun _ => At m) fun _ => True := by
  cases cut with
  | none =>
    apply Ends.modify
    rintro s rfl
    exact ⟨rfl, s.mapInfo.read_bytes _⟩
  | some written =>
    exact .bind (.modify (Q := fun _ _ => True) fun _ _ => trivial)
      fun _ => .throw fun _ _ => trivial

theorem loadConfigsFile_at :
    Ends (fun s => s.nextMap = m) (loadConfigsFile cut) (fun _ => At m) fun _ => True := by
  apply Ends.get_bind
  intro s hs
  unfold Hal.nextMap at hs
  cases hfile : s.file with
  | none =>
    rw [hfile] at hs
    subst hs
    refine .bind (.modify ?_) fun _ => saveConfigsFile_at
    exact fun _ _ => rfl
  | some file =>
    rw [hfile] at hs
    apply Ends.modify
    rintro t rfl
    refine ⟨hs, ?_⟩
    simp only [Hal.nextMap, hfile]
    rw [MapInfo.read_read]
    exact hs

theorem removeOldUserFromfpUser_at :
    Ends (At m) (removeOldUserFromfpUser users env) (fun _ s => ∃ m', At m' s) fun _ => True := by
  refine Ends.ite (fun _ => ?_) fun _ => Ends.pure fun s hs => ⟨m, hs⟩
  apply Ends.pinned
  intro s hs
  have hloop : Ends (· = s) (removeOldUsers users env [1, 2, 3, 4])
      (LoopEnd users m m s.file) (fun _ => True) := by
    refine (removeOldUsers_ends (by decide) (.refl users m)).mono ?_ (fun _ _ h => h) fun _ h => h
    rintro _ rfl
    exact ⟨rfl, hs.1⟩
  refine .bind hloop fun changed => .ite (fun _ => ?_) fun hchanged => ?_
  · exact .pinned fun t _ => saveConfigsFile_at.mono (fun _ hu => hu ▸ rfl)
      (fun _ _ h => ⟨t.mapInfo, h⟩) fun _ h => h
  · refine .pure fun t ht => ?_
    have hmap := ht.same (by simpa using hchanged)
    have hnext : t.nextMap = s.nextMap := by
      unfold Hal.nextMap
      rw [ht.file_eq, hmap, hs.1]
    exact ⟨m, hmap, hnext.trans hs.2⟩

theorem find?_of_imp {p q : Fin 5 → Bool} {entries : List (Fin 5)} (h : entries.find? p = some i)
    (hq : q i = true) (himp : ∀ j, j ≠ i → q j = true → p j = true) : entries.find? q = some i := by
  induction entries with
  | nil => simp at h
  | cons j rest ih =>
    by_cases hj : j = i
    · subst hj
      exact List.find?_cons_of_pos hq
    · cases hp : p j with
      | true =>
        rw [List.find?_cons_of_pos hp] at h
        exact absurd (Option.some_inj.mp h) hj
      | false =>
        rw [List.find?_cons_of_neg (by simp [hp])] at h
        rw [List.find?_cons_of_neg]
        · exact ih h
        · intro hqj
          rw [himp j hj hqj] at hp
          cases hp

theorem MapInfo.take_indexOf (h : m.placeFor gid = some i) :
    (m.take gid i).indexOf gid = some i := by
  refine find?_of_imp h (by rw [take_sysUserId]; simp) fun j hj hq => ?_
  rw [take_sysUserId, if_neg hj] at hq
  simp [hq]

def Found (gid fpUserId : UInt32) (s : Hal) : Prop :=
  isNeg fpUserId = false → s.mapped gid = some fpUserId

theorem addNewUserTofpUser_found :
    Ends (fun s => ∃ m, At m s) (addNewUserTofpUser env gid) (Found gid) fun _ => True := by
  apply Ends.pinned
  rintro s ⟨m, hs⟩
  have hload : Ends (· = s) (loadConfigsFile env.loadCut) (fun _ => At m) fun _ => True :=
    loadConfigsFile_at.mono (fun _ ht => ht ▸ hs.2) (fun _ _ h => h) fun _ h => h
  refine .bind hload fun _ => .get_bind fun t ht => ?_
  rw [ht.1]
  cases hplace : m.placeFor gid with
  | none => exact .pure fun _ _ hneg => absurd hneg (by decide)
  | some i =>
    have htake : Ends (· = t)
        (Act.modify fun s => { s with mapInfo := s.mapInfo.take gid i } : Call Unit)
        (fun _ s => s.mapInfo = m.take gid i) fun _ => True := by
      apply Ends.modify
      rintro u rfl
      rw [ht.1]
    refine .bind htake fun _ => .ite (fun hneg => ?_) fun _ => ?_
    · refine .pure fun _ _ hpos => ?_
      rw [hneg] at hpos
      cases hpos
    · refine .bind saveConfigsFile_at fun _ => .pure fun u hu _ => ?_
      simp only [Hal.mapped, hu.2, MapInfo.take_indexOf hplace, MapInfo.take_fpUserId,
        Option.map_some]

theorem knownFpUser_found : Ends (fun s => gid = 0 → s.mapped 0 = some 0) (knownFpUser env gid)
      (fun fpUserId s => (∃ m, At m s) ∧ Found gid fpUserId s) fun _ => True := by
  apply Ends.pinned
  intro s howner
  have hload : Ends (· = s) (loadConfigsFile env.loadCut) (fun _ => At s.nextMap)
      fun _ => True := loadConfigsFile_at.mono (fun _ ht => ht ▸ rfl) (fun _ _ h => h) fun _ h => h
  refine .ite (fun hzero => ?_) fun _ => ?_
  · refine .bind hload fun _ => .get_bind fun t ht => .pure fun u hu => ?_
    subst hu hzero
    refine ⟨⟨_, ht⟩, fun hneg => ?_⟩
    by_cases hlast : 0 = u.lastGid
    · rw [if_pos hlast, ← howner rfl]
      simp only [Hal.mapped, ht.2]
    · rw [if_neg hlast] at hneg
      exact absurd hneg (by decide)
  · refine .bind hload fun _ => .get_bind fun t ht => ?_
    rw [ht.1]
    cases hindex : s.nextMap.indexOf gid with
    | none => exact .pure fun u hu => ⟨⟨_, hu ▸ ht⟩, fun hneg => absurd hneg (by decide)⟩
    | some i =>
      refine .pure fun u hu => ⟨⟨_, hu ▸ ht⟩, fun _ => ?_⟩
      subst hu
      simp only [Hal.mapped, ht.2, hindex, Option.map_some]

theorem newFpUser_found :
    Ends (fun s => ∃ m, At m s) (newFpUser users env gid) (Found gid) fun _ => True := by
  refine .get_bind fun s ⟨m, hs⟩ => .ite (fun _ => ?_) fun _ => ?_
  · exact .pure fun _ _ hneg => absurd hneg (by decide)
  · have hremove : Ends (· = s) (removeOldUserFromfpUser users env)
        (fun _ s => ∃ m', At m' s) (fun _ => True) :=
      removeOldUserFromfpUser_at.mono (fun _ ht => ht ▸ hs) (fun _ _ h => h) fun _ h => h
    refine .bind hremove fun _ => .bind addNewUserTofpUser_found fun fpUserId =>
      .ite (fun _ => .pure fun _ h => h) fun _ => ?_
    exact .bind (.modify fun _ h => h)
      fun _ => .pure fun _ h => h

theorem selectFpUser_found :
    Ends (fun s => gid = 0 → s.mapped 0 = some 0) (selectFpUser users env gid) (Found gid)
      fun _ => True := by
  refine .bind knownFpUser_found fun fpUserId => .ite (fun _ => ?_) fun _ => ?_
  · exact newFpUser_found.mono (fun _ hs => hs.1) (fun _ _ h => h) fun _ h => h
  · exact .pure fun _ hs => hs.2

theorem fingerprintSetActiveGroup_active (hinfo : env.getFPInfo.isSome = true) :
    Ends (fun s => gid = 0 → s.mapped 0 = some 0) (fingerprintSetActiveGroup users env gid)
      (fun ret s => ret = 0 → s.mapped gid = some s.active) fun _ => True := by
  obtain ⟨fingers, hfingers⟩ := Option.isSome_iff_exists.mp hinfo
  refine .ite (fun _ => .pure fun _ _ hret => absurd hret (by decide)) fun _ => ?_
  refine .bind selectFpUser_found fun fpUserId => .ite (fun _ => ?_) fun hneg => ?_
  · exact .pure fun _ _ hret => absurd hret (by decide)
  · unfold activateFpUser
    rw [hfingers]
    have hmapped : Ends (Found gid fpUserId) (getFPInfo (some fingers))
        (fun _ s => s.mapped gid = some fpUserId ∧ s.info.userid = s.active) fun _ => True :=
      .modify fun s hs => ⟨hs (by simpa using hneg), rfl⟩
    refine .bind hmapped fun _ => .get_bind fun s ⟨hs, huserid⟩ => ?_
    refine .ite (fun _ => ?_) fun hsame => ?_
    · refine .ite (fun _ => ?_) fun hret => ?_
      · refine .bind (.modify ?_)
          fun _ => .pure fun _ ht _ => ht
        rintro _ rfl
        exact hs
      · exact .pure fun _ _ h => absurd h hret
    · refine .pure fun t ht _ => ?_
      subst ht
      rw [hs, ← huserid, not_ne_iff.mp hsame]

end

def lastInfo (env : OpEnv) (s : Hal) : FpInfo :=
  match env.lastInfo with
  | none => s.info
  | some fingers => ⟨s.active, fingers⟩

def resultMessages (env : OpEnv) (gid fid : UInt32) (ret : Int) (info : FpInfo) :
    List FingerprintMsg :=
  (if env.notify && ret == 0 then
    [.removed (toInt gid) (toInt fid), .error fingerprintErrorCanceled] else []) ++
  (if fingerlistempty info && env.notify then [.removed (toInt gid) 0] else [])

theorem reportResult_eq (env : OpEnv) (gid fid : UInt32) (ret : Int) (s : Hal) :
    reportResult env gid fid ret s =
      ⟨(resultMessages env gid fid ret (lastInfo env s)).map .notify,
        { s with info := lastInfo env s },
        if fingerlistempty (lastInfo env s) && !env.notify then none else some ret⟩ := by
  have hremoved : reportRemoved env gid fid ret s =
      ⟨(if env.notify && ret == 0 then [FingerprintMsg.removed (toInt gid) (toInt fid),
        .error fingerprintErrorCanceled] else []).map .notify, s, some ()⟩ := by
    unfold reportRemoved
    split <;> rfl
  have hinfo : (Act.silent (getFPInfo env.lastInfo) s : Outcome Hal Output Unit) =
      ⟨[], { s with info := lastInfo env s }, some ()⟩ := by
    unfold lastInfo
    cases env.lastInfo with
    | none | some fingers => rfl
  have hempty : (reportEmpty env gid >>= fun _ => pure ret) { s with info := lastInfo env s } =
      ⟨(if fingerlistempty (lastInfo env s) && env.notify
        then [FingerprintMsg.removed (toInt gid) 0] else []).map .notify,
        { s with info := lastInfo env s },
        if fingerlistempty (lastInfo env s) && !env.notify then none else some ret⟩ := by
    cases he : fingerlistempty (lastInfo env s) with
    | false =>
      have hpure : reportEmpty env gid { s with info := lastInfo env s } =
          ⟨[], { s with info := lastInfo env s }, some ()⟩ := by
        simp [reportEmpty, he]
      rw [Act.bind_of_silent hpure]
      rfl
    | true =>
      cases hn : env.notify with
      | false =>
        have hthrow : reportEmpty env gid { s with info := lastInfo env s } =
            ⟨[], { s with info := lastInfo env s }, none⟩ := by
          simp [reportEmpty, he, hn]
        rw [Act.bind_none (by rw [hthrow]), hthrow]
        rfl
      | true =>
        have hemit : reportEmpty env gid { s with info := lastInfo env s } =
            ⟨[.notify (.removed (toInt gid) 0)], { s with info := lastInfo env s }, some ()⟩ := by
          simp [reportEmpty, he, hn]
        rw [Act.bind_of_eq hemit]
        rfl
  unfold reportResult
  rw [Act.bind_of_eq hremoved, Act.bind_of_silent hinfo, hempty, resultMessages, List.map_append]

/-- The call works on no templates but those of the group, and returns an error if it works on none.
-/
structure Served (gid : UInt32) (outcome : Outcome Hal Output Int) : Prop where
  active : ∀ a, .template a ∈ outcome.trace → outcome.state.mapped gid = some a
  error : (∀ a, .template a ∉ outcome.trace) → ∀ ret, outcome.result = some ret → ret = -1

def Serves (gid : UInt32) (P : Hal → Prop) (x : Act Hal Output Int) : Prop :=
  ∀ s, P s → Served gid (x s)

/-- The daemon works for the group. -/
def Switched (gid : UInt32) (s : Hal) : Prop := s.mapped gid = some s.active

namespace Serves

variable {gid : UInt32} {P : Hal → Prop} {env : OpEnv} {x : Act Hal Output Int}

theorem fail : Serves gid P (pure (-1)) := by
  intro s _
  refine ⟨by simp, ?_⟩
  rintro - _ ⟨⟩
  rfl

theorem silent_bind {α : Type} {x : Act Hal Empty α} {f : α → Act Hal Output Int}
    {Q : α → Hal → Prop} {D : Hal → Prop} (hx : Ends P x Q D)
    (hf : ∀ a, Serves gid (Q a) (f a)) : Serves gid P (Act.silent x >>= f) := by
  intro s hs
  have hres : (Act.silent x s : Outcome Hal Output α).result = (x s).result := rfl
  cases hr : (x s).result with
  | none =>
    rw [Act.bind_none (hres.trans hr)]
    exact ⟨by simp [Act.silent], by simp⟩
  | some a =>
    rw [Act.bind_some (hres.trans hr)]
    exact hf a (x s).state ((hx s hs).1 a hr)

theorem get_bind {f : Hal → Act Hal Output Int} (h : ∀ s, P s → Serves gid (· = s) (f s)) :
    Serves gid P (Act.get >>= f) :=
  fun s hs => h s hs s rfl

theorem ite {p : Prop} [Decidable p] {y : Act Hal Output Int} (hx : p → Serves gid P x)
    (hy : ¬p → Serves gid P y) : Serves gid P (if p then x else y) := by
  split
  · exact hx ‹_›
  · exact hy ‹_›

theorem credentialCall : Serves gid (Switched gid) (credentialCall env) := by
  intro s hs
  refine ⟨?_, fun hnone => absurd (hnone s.active) ?_⟩
  · intro a ha
    obtain rfl : a = s.active := by simpa [Silead.credentialCall] using ha
    exact hs
  · simp [Silead.credentialCall]

theorem enrollCredential : Serves gid (Switched gid) (enrollCredential env) := by
  apply get_bind
  intro s hs
  cases enrollIndex s.info with
  | none => exact fail
  | some i =>
    rintro t rfl
    exact credentialCall t hs

theorem bind_reportResult {fid : UInt32} (hx : Serves gid P x) :
    Serves gid P (x >>= reportResult env gid fid) := by
  intro s hs
  have hserve := hx s hs
  cases hr : (x s).result with
  | none =>
    rw [Act.bind_none hr]
    exact ⟨hserve.active, by simp⟩
  | some ret =>
    rw [Act.bind_some hr, reportResult_eq]
    have hmsgs : ∀ a, Output.template a ∉
        (resultMessages env gid fid ret (lastInfo env (x s).state)).map Output.notify := by simp
    constructor
    · intro a ha
      exact hserve.active a ((List.mem_append.mp ha).resolve_right (hmsgs a))
    · intro hnone ret' hret'
      have herror := hserve.error (fun a ha => hnone a (List.mem_append_left _ ha)) ret hr
      split at hret'
      · cases hret'
      · rw [← Option.some_inj.mp hret', herror]

end Serves

/-- The active user is told; one with the number of the group is that of the group, and that of the
owner has number 0; and the group is set, or the operation notices that it is not. -/
structure Reliable (users : List UInt32) (env : OpEnv) (gid : UInt32) (noticed : Int → Bool)
    (s : Hal) : Prop where
  firstInfo : env.firstInfo.isSome = true
  groupInfo : env.group.getFPInfo.isSome = true
  number : s.active = gid → s.mapped gid = some gid
  owner : gid = 0 → s.mapped 0 = some 0
  switched : ∀ ret, (fingerprintSetActiveGroup users env.group gid
      (getFPInfo env.firstInfo s).state).result = some ret → ret = 0 ∨ noticed ret = true

section

variable {users : List UInt32} {env : OpEnv} {gid : UInt32} {s : Hal}

theorem onActiveUser_serves {noticed : Int → Bool} {switched direct : Act Hal Output Int}
    (h : Reliable users env gid noticed s) (hswitch : Serves gid (Switched gid) switched)
    (hdirect : Serves gid (Switched gid) direct) :
    Serves gid (· = s) (onActiveUser users env gid noticed switched direct) := by
  obtain ⟨fingers, hfingers⟩ := Option.isSome_iff_exists.mp h.firstInfo
  have hset := h.switched
  unfold onActiveUser
  rw [hfingers] at hset ⊢
  have hinfo : Ends (· = s) (getFPInfo (some fingers))
      (fun _ t => t = { s with info := ⟨s.active, fingers⟩ }) fun _ => True := by
    apply Ends.modify
    rintro _ rfl
    rfl
  refine .silent_bind hinfo fun _ => .get_bind ?_
  rintro _ rfl
  refine .ite (fun _ => ?_) fun hsame => ?_
  · have hactive : Ends (· = { s with info := ⟨s.active, fingers⟩ })
        (fingerprintSetActiveGroup users env.group gid)
        (fun ret t => noticed ret = true ∨ Switched gid t) fun _ => True := by
      rintro _ rfl
      have hends : Ends (fun s => gid = 0 → s.mapped 0 = some 0)
          (fingerprintSetActiveGroup users env.group gid)
          (fun ret s => ret = 0 → s.mapped gid = some s.active) fun _ => True :=
        fingerprintSetActiveGroup_active h.groupInfo
      obtain ⟨hres, -⟩ := hends { s with info := ⟨s.active, fingers⟩ } h.owner
      refine ⟨fun ret hret => ?_, fun _ => trivial⟩
      rcases hset ret hret with hzero | hnotice
      · exact .inr (hres ret hret hzero)
      · exact .inl hnotice
    refine .silent_bind hactive fun ret => .ite (fun _ => .fail) fun hgo => ?_
    exact fun t ht => hswitch t (ht.resolve_left hgo)
  · have hgid : s.active = gid := not_ne_iff.mp hsame
    rintro _ rfl
    refine hdirect _ ?_
    show s.mapped gid = some s.active
    rw [hgid, h.number hgid]

end

/-- The operations on templates. -/
inductive Op where
  | enroll
  | authenticate
  | remove (fid : UInt32)

def Op.noticed (gid : UInt32) : Op → Int → Bool
  | .enroll, value | .authenticate, value => gid != 0 && value == -1
  | .remove _, value => value < 0

def perform (users : List UInt32) (env : OpEnv) (gid : UInt32) : Op → Act Hal Output Int
  | .enroll => fingerprintEnroll users env gid
  | .authenticate => fingerprintAuthenticate users env gid
  | .remove fid => fingerprintRemove users env gid fid

theorem perform_serves {users : List UInt32} {env : OpEnv} {gid : UInt32} {op : Op}
    (h : Reliable users env gid (op.noticed gid) s) : Served gid (perform users env gid op s) := by
  have hserves : Serves gid (· = s) (perform users env gid op) := by
    cases op with
    | enroll =>
      refine .ite (fun _ => .fail) fun _ => onActiveUser_serves h ?_
        Serves.enrollCredential
      have hinfo : Ends (Switched gid) (getFPInfo env.lastInfo) (fun _ => Switched gid)
          fun _ => True := by
        cases env.lastInfo with
        | none => exact .pure fun _ hs => hs
        | some fingers => exact .modify fun _ hs => hs
      exact .silent_bind hinfo fun _ => .enrollCredential
    | authenticate =>
      exact .ite (fun _ => .fail) fun _ =>
        onActiveUser_serves h Serves.credentialCall Serves.credentialCall
    | remove fid =>
      refine .ite (fun _ => .fail) fun _ => .ite (fun _ => .fail) fun _ =>
        Serves.bind_reportResult ?_
      exact onActiveUser_serves h Serves.credentialCall Serves.credentialCall
  exact hserves s rfl

structure Device where
  hal : Hal
  users : List UInt32

inductive Request where
  | operate (op : Op) (env : OpEnv) (gid : UInt32)
  | setActiveGroup (env : GroupEnv) (gid : UInt32)
  | setUsers (users : List UInt32)
  | restart (reborn : FpInfo)

def settled {α ο : Type} (reborn : FpInfo) (outcome : Outcome Hal ο α) : Hal :=
  if outcome.result.isSome then outcome.state else outcome.state.restarted reborn

def serve (d : Device) : Request → List Output × Device
  | .operate op env gid =>
    let outcome := perform d.users env gid op d.hal
    (outcome.trace, { d with hal := settled env.group.reborn outcome })
  | .setActiveGroup env gid =>
    ([], { d with hal := settled env.reborn (fingerprintSetActiveGroup d.users env gid d.hal) })
  | .setUsers users => ([], { d with users })
  | .restart reborn => ([], { d with hal := d.hal.restarted reborn })

def RequestServed (d : Device) : Request → Prop
  | .operate op env gid => Served gid (perform d.users env gid op d.hal)
  | _ => True

def RequestReliable (d : Device) : Request → Prop
  | .operate op env gid => Reliable d.users env gid (op.noticed gid) d.hal
  | _ => True

/-- Reliable requests are served on the user of their group. -/
theorem requests_served (d : Device) (requests : List Request)
    (h : Meets serve RequestReliable d requests) : Meets serve RequestServed d requests := by
  refine h.mono fun d request hreliable => ?_
  cases request with
  | operate op env gid => exact perform_serves hreliable
  | setActiveGroup env gid | setUsers users | restart reborn => trivial

def freshDevice (users : List UInt32) : Device := ⟨⟨.zero, none, 0xFFFFFFFF, noFingers, 0⟩, users⟩

def opEnv (switchUser : Int) (firstInfo : Option (Fin 5 → Finger)) : OpEnv where
  group := { groupEnv none with switchUser }
  firstInfo
  lastInfo := some fun _ => ⟨0, 0⟩
  credential := 0
  notify := true

def answered : Option (Fin 5 → Finger) := some fun _ => ⟨0, 0⟩

def plainRequests : List Request :=
  [.operate .enroll (opEnv 0 answered) 10, .operate .authenticate (opEnv 0 answered) 0,
    .operate (.remove 1) (opEnv 0 answered) 10]

theorem requests_served_plainRequests :
    Meets serve RequestReliable (freshDevice [0, 10]) plainRequests ∧
    (run serve (freshDevice [0, 10]) plainRequests).1.take 3 =
      [.template 1, .template 0, .template 1] ∧
    Meets serve RequestServed (freshDevice [0, 10]) plainRequests := by
  have hreliable : Meets serve RequestReliable (freshDevice [0, 10]) plainRequests := by
    refine ⟨⟨by decide +kernel, by decide +kernel, by decide +kernel, by decide +kernel, ?_⟩,
      ⟨by decide +kernel, by decide +kernel, by decide +kernel, by decide +kernel, ?_⟩,
      ⟨by decide +kernel, by decide +kernel, by decide +kernel, by decide +kernel, ?_⟩, trivial⟩
    all_goals exact fun ret hret => .inl (Option.some_inj.mp (hret.symm.trans (by decide +kernel)))
  exact ⟨hreliable, by decide +kernel, requests_served _ _ hreliable⟩

def afterGroup10 (env : OpEnv) (gid : UInt32) : List Request :=
  [.setActiveGroup (groupEnv none) 10, .operate .authenticate env gid]

theorem requests_not_served :
    ¬Meets serve RequestServed (freshDevice [0, 10]) (afterGroup10 (opEnv (-1) answered) 0) ∧
    ¬Meets serve RequestServed (freshDevice [0, 10]) (afterGroup10 (opEnv 0 none) 0) ∧
    ¬Meets serve RequestServed (freshDevice [0, 10])
      [.operate .authenticate (opEnv (-2) answered) 10] ∧
    ¬Meets serve RequestServed (freshDevice [0, 10]) (afterGroup10 (opEnv 0 answered) 1) := by
  refine ⟨fun h => ?_, fun h => ?_, fun h => ?_, fun h => ?_⟩
  · exact absurd (h.2.1.active 1 (by decide +kernel)) (by decide +kernel)
  · exact absurd (h.2.1.active 1 (by decide +kernel)) (by decide +kernel)
  · exact absurd (h.1.active 0 (by decide +kernel)) (by decide +kernel)
  · exact absurd (h.2.1.active 1 (by decide +kernel)) (by decide +kernel)

end WikoPlatform.Silead
