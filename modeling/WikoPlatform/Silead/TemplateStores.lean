import WikoPlatform.Silead.UserMap

/-! Which fingerprint users the system users are given, over runs of the HAL with system users that
come and go and a process that dies in the middle of a save. -/

namespace WikoPlatform.Silead

open Runs
open Act (Ends)

/-- Every entry has the fingerprint user of its own number, the first one is the owner's, and no
two used entries are of one system user. -/
structure MapInfo.Wf (m : MapInfo) : Prop where
  fp : ∀ i, m.fpUserId i = UInt32.ofNat i
  owner : m.sysUserId 0 = 0
  ownerUsed : m.slot 0 ≠ slotUnused
  distinct : ∀ i j, m.slot i ≠ slotUnused → m.slot j ≠ slotUnused →
    m.sysUserId i = m.sysUserId j → i = j

/-- The entries of system users that exist stay as they are. -/
def MapInfo.Keeps (users : List UInt32) (m m' : MapInfo) : Prop :=
  ∀ i, m.slot i ≠ slotUnused → m.sysUserId i ∈ users →
    m'.slot i ≠ slotUnused ∧ m'.sysUserId i = m.sysUserId i

/-- A used entry gives the group that user. -/
def MapInfo.Has (m : MapInfo) (gid fpUserId : UInt32) : Prop :=
  ∃ i, m.slot i ≠ slotUnused ∧ m.sysUserId i = gid ∧ m.fpUserId i = fpUserId

/-- The file holds the map. -/
def Stored (m : MapInfo) (s : Hal) : Prop :=
  s.file = some m.bytes ∨ s.file = none ∧ m = .initial

def Loaded (m : MapInfo) (s : Hal) : Prop := s.file = some m.bytes ∧ s.mapInfo = m

variable {m : MapInfo} {s : Hal} {w : World}

theorem Loaded.stored (h : Loaded m s) : Stored m s := .inl h.1

theorem Stored.nextMap_eq (h : Stored m s) : s.nextMap = m := by
  rcases h with hfile | ⟨hfile, rfl⟩
  · simp only [Hal.nextMap, hfile]
    exact m.read_bytes _
  · simp only [Hal.nextMap, hfile]

def Whole (cut : Option Nat) : Prop := cut.all (60 ≤ ·) = true

section

variable {m : MapInfo} {cut : Option Nat}

theorem saveConfigsFile_ends (hcut : Whole cut) :
    Ends (fun s => s.mapInfo = m) (saveConfigsFile cut) (fun _ => Loaded m) (Stored m) := by
  cases cut with
  | none =>
    apply Ends.modify
    rintro s rfl
    exact ⟨rfl, rfl⟩
  | some written =>
    have hwritten : 60 ≤ written := by simpa [Whole] using hcut
    refine .bind (.modify ?_) fun _ => .throw fun s hs => hs
    rintro s rfl
    left
    rw [List.take_of_length_le (hwritten)]

theorem loadConfigsFile_ends (hcut : Whole cut) :
    Ends (Stored m) (loadConfigsFile cut) (fun _ => Loaded m) (Stored m) := by
  apply Ends.get_bind
  rintro s hs
  rcases hs with hfile | ⟨hfile, rfl⟩
  · rw [hfile]
    apply Ends.modify
    rintro _ rfl
    exact ⟨hfile, m.read_bytes _⟩
  · rw [hfile]
    refine .bind (.modify ?_) fun _ => saveConfigsFile_ends hcut
    rintro _ rfl
    rfl

end

structure Cleaned (users : List UInt32) (m m' : MapInfo) : Prop where
  fp : m'.fpUserId = m.fpUserId
  entry : ∀ i, m'.sysUserId i = m.sysUserId i ∧ m'.slot i = m.slot i ∨
    i ≠ 0 ∧ m.sysUserId i ∉ users ∧ m'.slot i = slotUnused

namespace Cleaned

variable {users : List UInt32} {m m' : MapInfo} {i : Fin 5}

theorem refl (users : List UInt32) (m : MapInfo) : Cleaned users m m :=
  ⟨rfl, fun _ => .inl ⟨rfl, rfl⟩⟩

theorem free (h : Cleaned users m m') (hi : i ≠ 0) (hgone : m'.sysUserId i ∉ users) :
    Cleaned users m (m'.free i) := by
  refine ⟨h.fp, fun j => ?_⟩
  by_cases hji : j = i
  · subst hji
    right
    refine ⟨hi, ?_, by simp [MapInfo.free]⟩
    rcases h.entry j with ⟨hsys, -⟩ | ⟨-, hgone', -⟩
    · rwa [← hsys]
    · exact hgone'
  · simpa [MapInfo.free, hji] using h.entry j

theorem used (h : Cleaned users m m') (hused : m'.slot i ≠ slotUnused) :
    m'.sysUserId i = m.sysUserId i ∧ m.slot i ≠ slotUnused := by
  rcases h.entry i with ⟨hsys, hslot⟩ | ⟨-, -, hslot⟩
  · exact ⟨hsys, hslot ▸ hused⟩
  · exact absurd hslot hused

theorem keeps (h : Cleaned users m m') : m.Keeps users m' := by
  intro i hused hexists
  rcases h.entry i with ⟨hsys, hslot⟩ | ⟨-, hgone, -⟩
  · exact ⟨hslot ▸ hused, hsys⟩
  · exact absurd hexists hgone

theorem wf (h : Cleaned users m m') (hwf : m.Wf) : m'.Wf where
  fp i := by rw [h.fp, hwf.fp]
  owner := by
    rcases h.entry 0 with ⟨hsys, -⟩ | ⟨hne, -⟩
    · rw [hsys, hwf.owner]
    · exact absurd rfl hne
  ownerUsed := by
    rcases h.entry 0 with ⟨-, hslot⟩ | ⟨hne, -⟩
    · rw [hslot]
      exact hwf.ownerUsed
    · exact absurd rfl hne
  distinct i j hi hj hsame := by
    obtain ⟨hsysi, hi'⟩ := h.used hi
    obtain ⟨hsysj, hj'⟩ := h.used hj
    exact hwf.distinct i j hi' hj' (by rw [← hsysi, ← hsysj, hsame])

end Cleaned

structure LoopEnd (users : List UInt32) (m m' : MapInfo) (file : Option (List UInt8))
    (changed : Bool) (s : Hal) : Prop where
  file_eq : s.file = file
  cleaned : Cleaned users m s.mapInfo
  same : changed = false → s.mapInfo = m'

def Holds (file : Option (List UInt8)) (m : MapInfo) (s : Hal) : Prop :=
  s.file = file ∧ s.mapInfo = m

section

variable {users : List UInt32} {env : GroupEnv} {m m' : MapInfo} {file : Option (List UInt8)}
  {D : Hal → Prop}

theorem switchUser_ends (ret : Int) (user : UInt32) :
    Ends (Holds file m) (switchUser ret user) (fun _ => Holds file m) D := by
  refine .ite (fun _ => ?_) fun _ => .pure fun _ hs => hs
  exact .bind (.modify fun _ hs => hs)
    fun _ => .pure fun _ hs => hs

theorem deleteFpUserInfo_ends (i : Fin 5) (fpUserId sysUserId : UInt32) :
    Ends (Holds file m) (deleteFpUserInfo env i fpUserId sysUserId) (fun _ => Holds file m) D :=
  .ite (fun _ => .pure fun _ hs => hs) fun _ =>
    .bind (switchUser_ends _ _) fun _ => .pure fun _ hs => hs

theorem removeOldUser_ends (hclean : Cleaned users m m') {i : Fin 5} (hi : i ≠ 0) :
    Ends (Holds file m') (removeOldUser users env i) (LoopEnd users m m' file) D := by
  apply Ends.get_bind
  intro s hs
  have hsame : ∀ t, t = s → LoopEnd users m m' file false t := by
    rintro _ rfl
    exact ⟨hs.1, hs.2 ▸ hclean, fun _ => hs.2⟩
  refine .ite (fun _ => .pure hsame) fun _ =>
    .ite (fun _ => .pure hsame) fun hgone => ?_
  have hdelete : Ends (· = s)
      (deleteFpUserInfo env i (s.mapInfo.fpUserId i) (s.mapInfo.sysUserId i))
      (fun _ => Holds file m') D :=
    (deleteFpUserInfo_ends i _ _).mono (fun _ ht => ht ▸ hs) (fun _ _ h => h) fun _ h => h
  refine .bind hdelete fun result => ?_
  refine .ite (fun _ => ?_) fun _ => .pure fun t ht => ?_
  · have hfree : ∀ t, Holds file m' t →
        LoopEnd users m m' file true { t with mapInfo := t.mapInfo.free i } := by
      rintro t ⟨hfile, rfl⟩
      exact ⟨hfile, hclean.free hi (hs.2 ▸ hgone), by simp⟩
    exact .bind (.modify hfree) fun _ => .pure fun _ ht => ht
  · exact ⟨ht.1, ht.2 ▸ hclean, fun _ => ht.2⟩

theorem removeOldUsers_ends {entries : List (Fin 5)} (hentries : 0 ∉ entries)
    (hclean : Cleaned users m m') :
    Ends (Holds file m') (removeOldUsers users env entries) (LoopEnd users m m' file) D := by
  induction entries generalizing m' with
  | nil => exact .pure fun s hs => ⟨hs.1, hs.2 ▸ hclean, fun _ => hs.2⟩
  | cons i rest ih =>
    obtain ⟨hi, hrest⟩ := List.ne_and_not_mem_of_not_mem_cons hentries
    refine Ends.bind (removeOldUser_ends hclean hi.symm) fun changed => ?_
    apply Ends.pinned
    intro s hs
    refine Ends.bind ((ih hrest hs.cleaned).mono ?_ (fun _ _ h => h) fun _ h => h)
      fun changedLater => .pure fun t ht => ⟨ht.file_eq, ht.cleaned, fun hnone => ?_⟩
    · rintro _ rfl
      exact ⟨hs.file_eq, rfl⟩
    · obtain ⟨hfirst, hlater⟩ := Bool.or_eq_false_iff.mp hnone
      rw [ht.same hlater, hs.same hfirst]

theorem removeOldUserFromfpUser_ends (hcut : Whole env.cleanCut) :
    Ends (Loaded m) (removeOldUserFromfpUser users env)
      (fun _ s => ∃ m', Cleaned users m m' ∧ Loaded m' s)
      (fun s => ∃ m', Cleaned users m m' ∧ Stored m' s) := by
  refine .ite (fun _ => ?_) fun _ => .pure fun s hs => ⟨m, .refl users m, hs⟩
  refine Ends.bind (removeOldUsers_ends (by decide) (.refl users m)) fun changed => ?_
  apply Ends.pinned
  intro s hs
  refine Ends.ite (fun _ => ?_) fun hchanged => Ends.pure fun t ht => ?_
  · refine (saveConfigsFile_ends hcut).mono ?_ (fun _ _ h => ⟨s.mapInfo, hs.cleaned, h⟩)
      fun _ h => ⟨s.mapInfo, hs.cleaned, h⟩
    rintro _ rfl
    rfl
  · subst ht
    exact ⟨m, .refl users m, hs.file_eq, hs.same (by simpa using hchanged)⟩

end

namespace MapInfo

variable {m : MapInfo} {gid : UInt32} {i : Fin 5}

theorem sysUserId_of_indexOf (h : m.indexOf gid = some i) : m.sysUserId i = gid := by
  simpa using List.find?_some h

theorem placeFor_place (h : m.placeFor gid = some i) :
    m.sysUserId i = gid ∨ m.slot i = slotUnused := by
  simpa using List.find?_some h

theorem Wf.placeFor_zero (hwf : m.Wf) : m.placeFor 0 = some 0 := by
  have hfirst : List.finRange 5 = 0 :: [1, 2, 3, 4] := rfl
  rw [placeFor, hfirst]
  simp [hwf.owner]

theorem take_slot (j : Fin 5) : (m.take gid i).slot j = if j = i then slotUsed else m.slot j := by
  unfold take
  split <;> simp [Function.update_apply]

theorem take_sysUserId (j : Fin 5) :
    (m.take gid i).sysUserId j = if j = i then gid else m.sysUserId j := by
  unfold take
  split
  · by_cases hj : j = i
    · simp_all
    · simp [hj]
  · simp [Function.update_apply]

theorem take_fpUserId : (m.take gid i).fpUserId = m.fpUserId := by
  unfold take
  split <;> rfl

theorem take_has : (m.take gid i).Has gid (m.fpUserId i) :=
  ⟨i, by rw [take_slot, if_pos rfl]; decide, by rw [take_sysUserId, if_pos rfl],
    by rw [take_fpUserId]⟩

theorem take_keeps (hplace : m.sysUserId i = gid ∨ m.slot i = slotUnused) (users : List UInt32) :
    m.Keeps users (m.take gid i) := by
  intro j hused _
  rw [take_slot, take_sysUserId]
  by_cases hj : j = i
  · subst hj
    rw [if_pos rfl, if_pos rfl]
    exact ⟨by decide, (hplace.resolve_right hused).symm⟩
  · rw [if_neg hj, if_neg hj]
    exact ⟨hused, rfl⟩

theorem Wf.take (hwf : m.Wf) (hplace : m.sysUserId i = gid ∨ m.slot i = slotUnused)
    (hnew : ∀ j, m.slot j ≠ slotUnused → m.sysUserId j = gid → j = i) : (m.take gid i).Wf where
  fp j := by rw [take_fpUserId, hwf.fp]
  owner := by
    rw [take_sysUserId]
    split
    · rename_i hi
      subst hi
      rw [← hplace.resolve_right hwf.ownerUsed, hwf.owner]
    · exact hwf.owner
  ownerUsed := by
    rw [take_slot]
    split
    · decide
    · exact hwf.ownerUsed
  distinct j k hj hk hsame := by
    rw [take_slot] at hj hk
    rw [take_sysUserId, take_sysUserId] at hsame
    by_cases hji : j = i
    · by_cases hki : k = i
      · rw [hji, hki]
      · rw [if_neg hki] at hk
        rw [if_pos hji, if_neg hki] at hsame
        rw [hji, hnew k hk hsame.symm]
    · rw [if_neg hji] at hj
      by_cases hki : k = i
      · rw [if_neg hji, if_pos hki] at hsame
        rw [hki, hnew j hj hsame]
      · rw [if_neg hki] at hk
        rw [if_neg hji, if_neg hki] at hsame
        exact hwf.distinct j k hj hk hsame

theorem Wf.isNeg_fpUserId (hwf : m.Wf) (i : Fin 5) : isNeg (m.fpUserId i) = false := by
  rw [hwf.fp]
  revert i
  decide

theorem Keeps.refl (users : List UInt32) (m : MapInfo) : m.Keeps users m :=
  fun _ hused _ => ⟨hused, rfl⟩

theorem Keeps.trans {users : List UInt32} {m₁ m₂ : MapInfo} (h : m.Keeps users m₁)
    (h' : m₁.Keeps users m₂) : m.Keeps users m₂ := by
  intro i hused hexists
  obtain ⟨hused₁, hsys₁⟩ := h i hused hexists
  obtain ⟨hused₂, hsys₂⟩ := h' i hused₁ (hsys₁ ▸ hexists)
  exact ⟨hused₂, hsys₂.trans hsys₁⟩

end MapInfo

def Kept (users : List UInt32) (m : MapInfo) (s : Hal) : Prop :=
  ∃ m' : MapInfo, m'.Wf ∧ m.Keeps users m' ∧ Stored m' s

def Selected (users : List UInt32) (m : MapInfo) (gid fpUserId : UInt32) (s : Hal) : Prop :=
  ∃ m' : MapInfo, m'.Wf ∧ m.Keeps users m' ∧ Stored m' s ∧
    (isNeg fpUserId = false → m'.Has gid fpUserId)

section

variable {users : List UInt32} {env : GroupEnv} {m : MapInfo} {gid : UInt32}

theorem addNewUserTofpUser_ends (hload : Whole env.loadCut) (hadd : Whole env.addCut) (hwf : m.Wf)
    (hnew : ∀ i, m.slot i ≠ slotUnused → m.sysUserId i = gid → gid = 0) :
    Ends (Loaded m) (addNewUserTofpUser env gid) (Selected users m gid) (Kept users m) := by
  have hload' := (loadConfigsFile_ends hload).mono (fun s (hs : Loaded m s) => hs.stored)
    (fun _ _ h => h) fun s hs => (⟨m, hwf, .refl users m, hs⟩ : Kept users m s)
  refine .bind hload' fun _ => .get_bind fun s hs => ?_
  rw [hs.2]
  cases hplace : m.placeFor gid with
  | none =>
    refine .pure fun t ht => ⟨m, hwf, .refl users m, ht ▸ hs.stored, fun hneg => ?_⟩
    exact absurd hneg (by decide)
  | some i =>
    have hunique : ∀ j, m.slot j ≠ slotUnused → m.sysUserId j = gid → j = i := by
      intro j hused hgid
      obtain rfl := hnew j hused hgid
      rw [hwf.placeFor_zero] at hplace
      obtain rfl := Option.some_inj.mp hplace
      exact hwf.distinct j 0 hused hwf.ownerUsed (hgid.trans hwf.owner.symm)
    have hwf' := hwf.take (m.placeFor_place hplace) hunique
    have hkeeps := m.take_keeps (m.placeFor_place hplace) users
    have htake : Ends (· = s)
        (Act.modify fun s => { s with mapInfo := s.mapInfo.take gid i } : Call Unit)
        (fun _ s => s.mapInfo = m.take gid i) (Kept users m) := by
      apply Ends.modify
      rintro t rfl
      rw [hs.2]
    simp only [hwf.isNeg_fpUserId, Bool.false_eq_true, if_false]
    refine .bind htake fun _ => .bind ((saveConfigsFile_ends hadd).mono
      (fun _ h => h) (fun _ _ h => h) fun t ht => ⟨_, hwf', hkeeps, ht⟩) fun _ => ?_
    exact .pure fun t ht => ⟨_, hwf', hkeeps, ht.stored, fun _ => m.take_has⟩

def MapInfo.Clear (m : MapInfo) (gid : UInt32) : Prop :=
  ∀ i, m.sysUserId i = gid → m.slot i ≠ slotUnused

structure Known (m : MapInfo) (gid fpUserId : UInt32) (s : Hal) : Prop where
  loaded : Loaded m s
  has : isNeg fpUserId = false → m.Has gid fpUserId
  new : isNeg fpUserId = true → gid = 0 ∨ ∀ i, m.sysUserId i ≠ gid

theorem knownFpUser_ends (hload : Whole env.loadCut) (hwf : m.Wf) (hclear : m.Clear gid) :
    Ends (Stored m) (knownFpUser env gid) (Known m gid) (Kept users m) := by
  have hload' := (loadConfigsFile_ends hload).mono (fun s (hs : Stored m s) => hs)
    (fun _ _ h => h) fun s hs => (⟨m, hwf, .refl users m, hs⟩ : Kept users m s)
  refine .ite (fun hzero => ?_) fun _ => ?_
  · refine .bind hload' fun _ => .get_bind fun s hs => .pure fun t ht => ?_
    subst ht hzero
    refine ⟨hs, fun hneg => ?_, fun _ => .inl rfl⟩
    by_cases hlast : 0 = t.lastGid
    · rw [if_pos hlast]
      exact ⟨0, hwf.ownerUsed, hwf.owner, hwf.fp 0⟩
    · rw [if_neg hlast] at hneg
      exact absurd hneg (by decide)
  · refine .bind hload' fun _ => .get_bind fun s hs => ?_
    rw [hs.2]
    cases hindex : m.indexOf gid with
    | none =>
      refine .pure fun t ht => ⟨ht ▸ hs, fun hneg => absurd hneg (by decide), fun _ => ?_⟩
      exact .inr fun i => by simpa using List.find?_eq_none.mp hindex i (List.mem_finRange i)
    | some i =>
      have hgid := m.sysUserId_of_indexOf hindex
      refine .pure fun t ht => ⟨ht ▸ hs, fun _ => ⟨i, hclear i hgid, hgid, rfl⟩, ?_⟩
      intro hneg
      rw [hwf.isNeg_fpUserId] at hneg
      cases hneg

theorem newFpUser_ends (hload : Whole env.loadCut) (hclean : Whole env.cleanCut)
    (hadd : Whole env.addCut) (hwf : m.Wf) (hnew : gid = 0 ∨ ∀ i, m.sysUserId i ≠ gid) :
    Ends (Loaded m) (newFpUser users env gid) (Selected users m gid) (Kept users m) := by
  refine .get_bind fun s hs => .ite (fun _ => ?_) fun _ => ?_
  · exact .pure fun t ht => ⟨m, hwf, .refl users m, ht ▸ hs.stored,
      fun hneg => absurd hneg (by decide)⟩
  · have hremove : Ends (· = s) (removeOldUserFromfpUser users env)
        (fun _ s => ∃ m', Cleaned users m m' ∧ Loaded m' s) (Kept users m) :=
      (removeOldUserFromfpUser_ends hclean).mono (fun _ ht => ht ▸ hs) (fun _ _ h => h)
        fun _ ⟨m', h, hstore⟩ => ⟨m', h.wf hwf, h.keeps, hstore⟩
    refine .bind hremove fun _ => .pinned ?_
    rintro t ⟨m', hcleaned, hloaded⟩
    have hnew' : ∀ i, m'.slot i ≠ slotUnused → m'.sysUserId i = gid → gid = 0 := by
      intro i hused hgid
      refine hnew.resolve_right fun hnone => hnone i ?_
      rw [← hgid, (hcleaned.used hused).1]
    have hselect : Ends (· = t) (addNewUserTofpUser env gid) (Selected users m gid)
        (Kept users m) := by
      have hends : Ends (Loaded m') (addNewUserTofpUser env gid) (Selected users m' gid)
          (Kept users m') := addNewUserTofpUser_ends hload hadd (hcleaned.wf hwf) hnew'
      refine hends.mono (fun _ ht => ht ▸ hloaded) ?_ ?_
      · rintro fpUserId u ⟨m'', hwf'', hkeeps, hstore, hhas⟩
        exact ⟨m'', hwf'', hcleaned.keeps.trans hkeeps, hstore, hhas⟩
      · rintro u ⟨m'', hwf'', hkeeps, hstore⟩
        exact ⟨m'', hwf'', hcleaned.keeps.trans hkeeps, hstore⟩
    refine .bind hselect fun fpUserId => .ite (fun _ => ?_) fun _ => ?_
    · exact .pure fun _ h => h
    · exact .bind (.modify
        fun _ h => h) fun _ => .pure fun _ h => h

theorem selectFpUser_ends (hload : Whole env.loadCut) (hclean : Whole env.cleanCut)
    (hadd : Whole env.addCut) (hwf : m.Wf) (hclear : m.Clear gid) :
    Ends (Stored m) (selectFpUser users env gid) (Selected users m gid) (Kept users m) := by
  refine .bind (knownFpUser_ends hload hwf hclear) fun fpUserId => ?_
  refine .ite (fun hneg => .pinned fun s hs => ?_) fun _ => ?_
  · exact (newFpUser_ends hload hclean hadd hwf (hs.new hneg)).mono (fun _ ht => ht ▸ hs.loaded)
      (fun _ _ h => h) fun _ h => h
  · exact .pure fun s hs => ⟨m, hwf, .refl users m, hs.loaded.stored, hs.has⟩

theorem activateFpUser_file (newFpUserId : UInt32) (s : Hal) :
    (activateFpUser env newFpUserId s).state.file = s.file := by
  unfold activateFpUser
  cases env.getFPInfo with
  | none =>
    simp only [getFPInfo, switchUser, Act.pure_bind_apply, Act.get_bind]
    split_ifs <;> rfl
  | some fingers =>
    simp only [getFPInfo, switchUser, Act.modify_bind, Act.get_bind]
    split_ifs <;> rfl

end

/-- The groups that the HAL has found a fingerprint user for, and the fingerprint users that were
given to system users that exist. -/
structure World where
  hal : Hal
  users : List UInt32
  accepted : List UInt32
  given : List (UInt32 × UInt32)

inductive Event where
  | setActiveGroup (env : GroupEnv) (gid : UInt32)
  | createUser (user : UInt32)
  | removeUser (user : UInt32)
  | restart (reborn : FpInfo)

def selected (users : List UInt32) (env : GroupEnv) (gid : UInt32) (s : Hal) : Option UInt32 :=
  if env.client then (selectFpUser users env gid s).result.filter (!isNeg ·) else none

/-- A call that does not return is one in which the process dies. -/
def step (w : World) : Event → List (Option Int) × World
  | .setActiveGroup env gid =>
    let outcome := fingerprintSetActiveGroup w.users env gid w.hal
    let hal := if outcome.result.isSome then outcome.state else outcome.state.restarted env.reborn
    match selected w.users env gid w.hal with
    | none => ([outcome.result], { w with hal })
    | some fpUserId =>
      ([outcome.result], { w with
        hal
        accepted := gid :: w.accepted
        given := if gid ∈ w.users then (gid, fpUserId) :: w.given else w.given })
  | .createUser user =>
    if user ∈ w.users then ([], w)
    else
      -- the group may have been set while there was no such user
      let fpUserId := if user ∈ w.accepted then
        (w.hal.nextMap.indexOf user).map w.hal.nextMap.fpUserId else none
      ([], { w with
        users := user :: w.users
        given := (fpUserId.map (user, ·)).toList ++ w.given })
  | .removeUser user =>
    ([], { w with
      users := w.users.filter (· ≠ user)
      accepted := w.accepted.filter (· ≠ user)
      given := w.given.filter (·.1 ≠ user) })
  | .restart reborn => ([], { w with hal := w.hal.restarted reborn })

def start (users : List UInt32) (info : FpInfo) (active : UInt32) : World :=
  ⟨⟨.zero, none, 0xFFFFFFFF, info, active⟩, users, [], []⟩

/-- No two system users share a fingerprint user. -/
def Separate (w : World) : Prop :=
  ∀ p ∈ w.given, ∀ q ∈ w.given, p.1 = q.1 ↔ p.2 = q.2

/-- The process does not die in a save, and no group has the number of a free entry. -/
def Undisturbed (w : World) : Event → Prop
  | .setActiveGroup env gid => Whole env.loadCut ∧ Whole env.cleanCut ∧ Whole env.addCut ∧
    w.hal.nextMap.Clear gid
  | .createUser user => w.hal.nextMap.Clear user
  | .removeUser _ => True
  | .restart _ => True

/-- Every system user has a used entry with what it was given. -/
def Sound (w : World) : Prop :=
  ∃ m : MapInfo, m.Wf ∧ Stored m w.hal ∧ ∀ p ∈ w.given, p.1 ∈ w.users ∧ m.Has p.1 p.2

section

variable {users : List UInt32} {env : GroupEnv} {m m' : MapInfo} {gid : UInt32} {s : Hal}

theorem MapInfo.initial_wf : MapInfo.initial.Wf where
  fp := by decide
  owner := rfl
  ownerUsed := by decide
  distinct := by decide

theorem MapInfo.Has.keep {user fpUserId : UInt32} (h : m.Has user fpUserId)
    (hkeeps : m.Keeps users m') (hwf : m.Wf) (hwf' : m'.Wf) (huser : user ∈ users) :
    m'.Has user fpUserId := by
  obtain ⟨i, hused, rfl, rfl⟩ := h
  obtain ⟨hused', hsys⟩ := hkeeps i hused huser
  exact ⟨i, hused', hsys, by rw [hwf.fp, hwf'.fp]⟩

theorem ofNat_inj : ∀ i j : Fin 5, UInt32.ofNat i = UInt32.ofNat j ↔ i = j := by decide

theorem MapInfo.Has.eq_iff (hwf : m.Wf) {u v a b : UInt32} (hu : m.Has u a) (hv : m.Has v b) :
    u = v ↔ a = b := by
  obtain ⟨i, hi, rfl, rfl⟩ := hu
  obtain ⟨j, hj, rfl, rfl⟩ := hv
  rw [hwf.fp, hwf.fp, ofNat_inj]
  constructor
  · exact fun hsys => hwf.distinct i j hi hj hsys
  · rintro rfl
    rfl

theorem fingerprintSetActiveGroup_file (hclient : env.client = true) (s : Hal) :
    (fingerprintSetActiveGroup users env gid s).state.file =
      (selectFpUser users env gid s).state.file := by
  have hclient' : (!env.client) ≠ true := by simp [hclient]
  unfold fingerprintSetActiveGroup
  rw [if_neg hclient']
  cases hr : (selectFpUser users env gid s).result with
  | none => rw [Act.bind_none hr]
  | some fpUserId =>
    rw [Act.bind_some hr]
    split
    · rfl
    · exact activateFpUser_file _ _

theorem Stored.of_file {s' : Hal} (h : Stored m s) (hfile : s'.file = s.file) : Stored m s' := by
  unfold Stored at h ⊢
  rwa [hfile]

theorem fingerprintSetActiveGroup_kept (users : List UInt32) (hload : Whole env.loadCut)
    (hclean : Whole env.cleanCut) (hadd : Whole env.addCut) (hwf : m.Wf) (hclear : m.Clear gid)
    (hstore : Stored m s) : ∃ m' : MapInfo, m'.Wf ∧ m.Keeps users m' ∧
      Stored m' (fingerprintSetActiveGroup users env gid s).state ∧
      ∀ fpUserId, selected users env gid s = some fpUserId → m'.Has gid fpUserId := by
  by_cases hclient : env.client = true
  · have hends : Ends (Stored m) (selectFpUser users env gid) (Selected users m gid)
        (Kept users m) := selectFpUser_ends hload hclean hadd hwf hclear
    obtain ⟨hres, hdied⟩ := hends s hstore
    cases hr : (selectFpUser users env gid s).result with
    | none =>
      obtain ⟨m', hwf', hkeeps, hstore'⟩ := hdied hr
      refine ⟨m', hwf', hkeeps, hstore'.of_file (fingerprintSetActiveGroup_file hclient s), ?_⟩
      simp [selected, hclient, hr]
    | some fpUserId =>
      obtain ⟨m', hwf', hkeeps, hstore', hhas⟩ := hres fpUserId hr
      refine ⟨m', hwf', hkeeps, hstore'.of_file (fingerprintSetActiveGroup_file hclient s), ?_⟩
      intro chosen hchosen
      simp only [selected, hclient, if_true, hr, Option.filter_eq_some_iff, Option.some.injEq,
        Bool.not_eq_true'] at hchosen
      obtain ⟨rfl, hneg⟩ := hchosen
      exact hhas hneg
  · refine ⟨m, hwf, .refl users m, ?_, by simp [selected, hclient]⟩
    simpa [fingerprintSetActiveGroup, hclient] using hstore

end

theorem step_sound {event : Event} (h : Sound w) (hok : Undisturbed w event) :
    Sound (step w event).2 := by
  obtain ⟨m, hwf, hstore, hgiven⟩ := h
  cases event with
  | setActiveGroup env gid =>
    obtain ⟨hload, hclean, hadd, hclear⟩ := hok
    rw [hstore.nextMap_eq] at hclear
    obtain ⟨m', hwf', hkeeps, hstore', hhas⟩ :=
      fingerprintSetActiveGroup_kept w.users hload hclean hadd hwf hclear hstore
    have hkept : ∀ p ∈ w.given, p.1 ∈ w.users ∧ m'.Has p.1 p.2 := fun p hp =>
      ⟨(hgiven p hp).1, (hgiven p hp).2.keep hkeeps hwf hwf' (hgiven p hp).1⟩
    have hfile : Stored m' (if (fingerprintSetActiveGroup w.users env gid w.hal).result.isSome
        then (fingerprintSetActiveGroup w.users env gid w.hal).state
        else (fingerprintSetActiveGroup w.users env gid w.hal).state.restarted env.reborn) := by
      split
      · exact hstore'
      · exact hstore'.of_file rfl
    dsimp only [step]
    cases hselected : selected w.users env gid w.hal with
    | none => exact ⟨m', hwf', hfile, hkept⟩
    | some fpUserId =>
      refine ⟨m', hwf', hfile, fun p hp => ?_⟩
      dsimp only at hp ⊢
      split at hp
      · rename_i huser
        rcases List.mem_cons.mp hp with rfl | hp
        · exact ⟨huser, hhas fpUserId hselected⟩
        · exact hkept p hp
      · exact hkept p hp
  | createUser user =>
    have hclear : m.Clear user := hstore.nextMap_eq ▸ hok
    dsimp only [step]
    split
    · exact ⟨m, hwf, hstore, hgiven⟩
    · refine ⟨m, hwf, hstore, fun p hp => ?_⟩
      rcases List.mem_append.mp hp with hnew | hold
      · rw [hstore.nextMap_eq] at hnew
        simp only [Option.mem_toList, Option.map_eq_some_iff] at hnew
        obtain ⟨fpUserId, hfp, rfl⟩ := hnew
        refine ⟨List.mem_cons_self, ?_⟩
        split at hfp
        · obtain ⟨i, hindex, rfl⟩ := Option.map_eq_some_iff.mp hfp
          have hsys := m.sysUserId_of_indexOf hindex
          exact ⟨i, hclear i hsys, hsys, rfl⟩
        · cases hfp
      · exact ⟨List.mem_cons_of_mem _ (hgiven p hold).1, (hgiven p hold).2⟩
  | removeUser user =>
    refine ⟨m, hwf, hstore, fun p hp => ?_⟩
    simp only [step, List.mem_filter, decide_eq_true_eq] at hp ⊢
    exact ⟨⟨(hgiven p hp.1).1, hp.2⟩, (hgiven p hp.1).2⟩
  | restart reborn => exact ⟨m, hwf, hstore.of_file rfl, hgiven⟩

theorem Sound.separate (h : Sound w) : Separate w := by
  obtain ⟨m, hwf, -, hgiven⟩ := h
  exact fun p hp q hq => (hgiven p hp).2.eq_iff hwf (hgiven q hq).2

/-- System users have fingerprint users of their own. -/
theorem fpUsers_separate (users : List UInt32) (info : FpInfo) (active : UInt32)
    (events : List Event) (h : Meets step Undisturbed (start users info active) events) :
    Separate (run step (start users info active) events).2 :=
  (run_invariant_meets (fun _ _ hsound hok => step_sound hsound hok)
    ⟨.initial, MapInfo.initial_wf, .inr ⟨rfl, rfl⟩, by simp [start]⟩ h).separate

instance Whole.decidable (cut : Option Nat) : Decidable (Whole cut) :=
  inferInstanceAs (Decidable (_ = true))

instance MapInfo.Clear.decidable (m : MapInfo) (gid : UInt32) : Decidable (m.Clear gid) :=
  inferInstanceAs (Decidable (∀ i, m.sysUserId i = gid → m.slot i ≠ slotUnused))

instance Undisturbed.decidable (w : World) (event : Event) : Decidable (Undisturbed w event) := by
  unfold Undisturbed
  split <;> infer_instance

def noFingers : FpInfo := ⟨0, fun _ => ⟨0, 0⟩⟩

def groupEnv (addCut : Option Nat) : GroupEnv where
  client := true
  loadCut := none
  cleanCut := none
  addCut
  userlist := true
  switchOwner _ := 0
  deleteUser _ := 0
  getFPInfo := some fun _ => ⟨0, 0⟩
  switchUser := 0
  reborn := noFingers

def replacedUser : List Event :=
  [.setActiveGroup (groupEnv none) 0, .setActiveGroup (groupEnv none) 10,
    .setActiveGroup (groupEnv none) 11, .removeUser 10, .createUser 12,
    .setActiveGroup (groupEnv (some 60)) 12, .setActiveGroup (groupEnv none) 12,
    .setActiveGroup (groupEnv none) 11]

theorem fpUsers_separate_replacedUser :
    Meets step Undisturbed (start [0, 10, 11] noFingers 0) replacedUser ∧
    (run step (start [0, 10, 11] noFingers 0) replacedUser).2.given =
      [(11, 2), (12, 1), (11, 2), (0, 0)] ∧
    Separate (run step (start [0, 10, 11] noFingers 0) replacedUser).2 :=
  ⟨by decide +kernel, by decide +kernel,
    fpUsers_separate [0, 10, 11] noFingers 0 replacedUser (by decide +kernel)⟩

def truncatedMap : List Event :=
  [.setActiveGroup (groupEnv (some 0)) 0, .setActiveGroup (groupEnv none) 10,
    .setActiveGroup (groupEnv none) 0]

def placeholderUser : List Event :=
  [.setActiveGroup (groupEnv none) 111, .setActiveGroup (groupEnv none) 10]

theorem fpUsers_not_separate :
    (run step (start [0, 10] noFingers 0) truncatedMap).1 = [none, some 0, some 0] ∧
    (run step (start [0, 10] noFingers 0) truncatedMap).2.given = [(0, 0), (10, 0)] ∧
    ¬Separate (run step (start [0, 10] noFingers 0) truncatedMap).2 ∧
    (run step (start [0, 10, 111] noFingers 0) placeholderUser).1 = [some 0, some 0] ∧
    (run step (start [0, 10, 111] noFingers 0) placeholderUser).2.given = [(10, 1), (111, 1)] ∧
    ¬Separate (run step (start [0, 10, 111] noFingers 0) placeholderUser).2 := by
  have htrunc : (run step (start [0, 10] noFingers 0) truncatedMap).2.given =
      [(0, 0), (10, 0)] := by decide +kernel
  have hplaceholder : (run step (start [0, 10, 111] noFingers 0) placeholderUser).2.given =
      [(10, 1), (111, 1)] := by decide +kernel
  refine ⟨by decide +kernel, htrunc, fun h => ?_, by decide +kernel, hplaceholder, fun h => ?_⟩
  · have hshare := h (0, 0) (by simp [htrunc]) (10, 0) (by simp [htrunc])
    exact absurd (hshare.mpr rfl) (by decide)
  · have hshare := h (10, 1) (by simp [hplaceholder]) (111, 1) (by simp [hplaceholder])
    exact absurd (hshare.mpr rfl) (by decide)

end WikoPlatform.Silead
