import WikoPlatform.Chipone.TaProxy
import WikoPlatform.Fingerprintd.Daemon
import WikoPlatform.Lib.CString
import WikoPlatform.Lib.Words

/-! The path of the template store, from the parcel of a `SET_ACTIVE_GROUP` transaction to the
command for the TA. -/

namespace WikoPlatform.Chipone

open Runs Act CString

/-- What is left of a parcel. -/
abbrev Parcel := List UInt8

def padSize (len : Nat) : Nat := (len + 3) / 4 * 4

/-- 0 if there is too little data. -/
def Parcel.readInt32 (data : Parcel) : Int × Parcel :=
  if 4 ≤ data.length then (((Words.get32 data 0).toNat : Int).bmod (2 ^ 32), data.drop 4)
  else (0, data)

/-- Null if there is too little data for the padded bytes. -/
def Parcel.readInplace (data : Parcel) (len : Nat) : Option (List UInt8) :=
  if len < 2 ^ 31 ∧ padSize len ≤ data.length then some (data.take len) else none

inductive PathBuffer where
  | pathName | templatePath | pathBak | commandPath
  deriving DecidableEq

def PathBuffer.size : PathBuffer → Nat
  | .pathName | .templatePath | .pathBak => 4096
  | .commandPath => taPathMax

structure PathWrite where
  buffer : PathBuffer
  count : Nat
  deriving DecidableEq

def PathWrite.Fits (w : PathWrite) : Prop := w.count ≤ w.buffer.size

instance PathWrite.Fits.decidable (w : PathWrite) : Decidable w.Fits :=
  inferInstanceAs (Decidable (_ ≤ _))

inductive Forwarding where
  | refused
  -- `memcpy` reads from null, which ends the process.
  | nullRead
  | forwarded (groupId : Int) (path : List UInt8)
  deriving DecidableEq

def forwardActiveGroup (groupId : Int) (path : Option (List UInt8)) (pathlen : Int) : Forwarding :=
  if pathMax ≤ pathlen ∨ pathlen ≤ 0 then .refused
  else
    match path with
    | none => .nullRead
    | some path => .forwarded groupId path

def transactActiveGroup (permitted : Bool) (data : Parcel) : Forwarding :=
  if permitted = false then .refused
  else
    let (group, data) := data.readInt32
    let (pathSize, data) := data.readInt32
    forwardActiveGroup group (data.readInplace (sizeT pathSize)) pathSize

/-- Where templates are kept: in the TA with `FEATURE_TEE_STORAGE`, and otherwise in a file that can
be opened or not. -/
inductive TemplateStorage where
  | tee
  | file (opened : Bool)
  deriving DecidableEq

structure PathRoute where
  -- `daemon_hal_instance` is not null.
  halInstance : Bool
  proxy : TaProxy
  exchange : Exchange
  storage : TemplateStorage

def userData : List UInt8 := "/user_data".toList.map Char.toUInt8
def bak : List UInt8 := ".bak".toList.map Char.toUInt8

/-- Zeros, with the path over them as far as there is room. -/
def commandPath (pPath : List UInt8) : List UInt8 :=
  padded taPathMax (pPath.take (sizeT (min (taPathMax - 1) (int32 pPath.length))))

namespace PathRoute

def reaches (r : PathRoute) : Bool := r.halInstance && r.proxy.fpInitilized

/-- `sprintf(path_bak, "%s.bak", path)` in `read_file`. -/
def backs (r : PathRoute) : Bool := r.storage = .file false

def halWrites (r : PathRoute) (igid : Int) (pPath : List UInt8) : List PathWrite :=
  if r.reaches = false then []
  else
    [⟨.templatePath, (pPath ++ userData).length + 1⟩] ++
      (if r.proxy.constructs r.exchange (.setActiveGroup igid pPath) then
        [⟨.commandPath, taPathMax⟩,
          ⟨.commandPath, sizeT (min (taPathMax - 1) (int32 pPath.length))⟩]
      else []) ++
      (if r.backs then [⟨.pathBak, (pPath ++ userData ++ bak).length + 1⟩] else [])

/-- The HAL gets a terminated copy. -/
def writes (r : PathRoute) (permitted : Bool) (data : Parcel) : List PathWrite :=
  match transactActiveGroup permitted data with
  | .forwarded group path =>
    ⟨.pathName, path.length + 1⟩ :: r.halWrites group (cString (path ++ [0]))
  | _ => []

def sends (r : PathRoute) (igid : Int) (pPath : List UInt8) : Bool :=
  r.reaches && r.proxy.constructs r.exchange (.setActiveGroup igid pPath)

/-- The path in the command, if there is one. -/
def taPath (r : PathRoute) (permitted : Bool) (data : Parcel) : Option (List UInt8) :=
  match transactActiveGroup permitted data with
  | .forwarded group path =>
    let pPath := cString (path ++ [0])
    if r.sends group pPath then some (commandPath pPath) else none
  | _ => none

/-- The path leaves room for the suffixes. -/
def HasRoom (r : PathRoute) (path : List UInt8) : Prop :=
  r.reaches = true →
    (cString path ++ userData).length < PathBuffer.templatePath.size ∧
    (r.backs = true → (cString path ++ userData ++ bak).length < PathBuffer.pathBak.size)

instance (r : PathRoute) (path : List UInt8) : Decidable (r.HasRoom path) :=
  inferInstanceAs (Decidable (_ → _))

end PathRoute

/-- The bytes before the first zero, as far as they fit. -/
def cutPath (path : List UInt8) : List UInt8 := (cString path).take (taPathMax - 1)

theorem le_padSize (len : Nat) : len ≤ padSize len := by
  unfold padSize
  omega

variable {permitted : Bool} {data : Parcel} {group : Int} {path : List UInt8}

theorem length_of_forwarded (h : transactActiveGroup permitted data = .forwarded group path) :
    0 < path.length ∧ path.length < 4096 := by
  unfold transactActiveGroup at h
  split_ifs at h
  simp only [forwardActiveGroup] at h
  split_ifs at h with hlen
  have hmax : pathMax = 4096 := rfl
  generalize (Parcel.readInt32 data).2.readInt32 = sized at h hlen
  split at h
  · cases h
  next bytes hread =>
    obtain ⟨-, rfl⟩ := Forwarding.forwarded.inj h
    unfold Parcel.readInplace at hread
    split_ifs at hread with hroom
    obtain rfl := Option.some.inj hread
    have hpad := le_padSize (sizeT sized.1)
    have hsize : (sizeT sized.1 : Int) = sized.1 :=
      CmdProcessor.sizeT_of_nonneg (by omega) (by omega)
    rw [List.length_take]
    omega

theorem cString_terminated (path : List UInt8) : cString (path ++ [0]) = cString path :=
  cString_append_zero path []

theorem commandPath_eq {pPath : List UInt8} (h : pPath.length < 2 ^ 31) :
    commandPath pPath = padded taPathMax (pPath.take (taPathMax - 1)) := by
  have hmax : taPathMax = 512 := rfl
  have hlen : int32 pPath.length = pPath.length := int32_of_lt (by omega)
  have hcut : sizeT (min ((taPathMax : Int) - 1) pPath.length) =
      min (taPathMax - 1) pPath.length := by
    unfold sizeT
    omega
  unfold commandPath
  rw [hlen, hcut, ← List.take_eq_take_min]

theorem commandPath_cString_inj {p q : List UInt8} (hp : p.length < 2 ^ 31)
    (hq : q.length < 2 ^ 31) :
    commandPath (cString p) = commandPath (cString q) ↔ cutPath p = cutPath q := by
  have hzero : ∀ path : List UInt8, 0 ∉ cutPath path :=
    fun path h => zero_notMem_cString path (List.mem_of_mem_take h)
  rw [commandPath_eq (Nat.lt_of_le_of_lt (length_cString_le p) hp),
    commandPath_eq (Nat.lt_of_le_of_lt (length_cString_le q) hq)]
  exact padded_inj (hzero p) (hzero q)

namespace PathRoute

variable {r : PathRoute} {permitted : Bool} {data : Parcel} {group : Int} {path field : List UInt8}

theorem taPath_of_forwarded (h : transactActiveGroup permitted data = .forwarded group path) :
    r.taPath permitted data = some field ↔
      r.sends group (cString path) = true ∧ commandPath (cString path) = field := by
  unfold taPath
  rw [h]
  simp only [cString_terminated, Option.ite_none_right_eq_some, Option.some.injEq]

theorem halWrites_fit_iff (r : PathRoute) (igid : Int) (h : path.length < 4096) :
    (∀ w ∈ r.halWrites igid (cString path), w.Fits) ↔ r.HasRoom path := by
  have hmax : taPathMax = 512 := rfl
  have hlen := length_cString_le path
  have hint : int32 (cString path).length = (cString path).length :=
    int32_of_lt (by omega)
  have hcut : sizeT (min ((taPathMax : Int) - 1) (cString path).length) ≤ taPathMax := by
    unfold sizeT
    omega
  have hcommand : ∀ w ∈ (if r.proxy.constructs r.exchange (.setActiveGroup igid (cString path)) then
      [⟨.commandPath, taPathMax⟩,
        ⟨.commandPath, sizeT (min ((taPathMax : Int) - 1) (cString path).length)⟩] else []),
      PathWrite.Fits w := by
    split_ifs
    · exact List.forall_mem_cons.mpr ⟨Nat.le_refl _, List.forall_mem_singleton.mpr hcut⟩
    · exact List.forall_mem_nil _
  unfold halWrites HasRoom
  rw [hint]
  cases r.reaches with
  | false => simp
  | true =>
    simp only [Bool.true_eq_false, if_false, List.forall_mem_append, List.forall_mem_singleton,
      iff_true_intro hcommand, and_true, forall_const]
    refine and_congr Iff.rfl ?_
    cases r.backs with
    | false => simp
    | true =>
      simp only [if_true, List.forall_mem_singleton, true_implies]
      exact Iff.rfl

theorem writes_fit_iff (h : transactActiveGroup permitted data = .forwarded group path) :
    (∀ w ∈ r.writes permitted data, w.Fits) ↔ r.HasRoom path := by
  have hlen := (length_of_forwarded h).2
  unfold writes
  rw [h]
  simp only [cString_terminated, List.forall_mem_cons]
  rw [halWrites_fit_iff r group hlen]
  exact and_iff_right (show path.length + 1 ≤ 4096 by omega)

end PathRoute

/-- Sound exactly if paths leave room and do not agree up to the cut. -/
theorem storePaths_sound_iff {permitted₁ permitted₂ : Bool} {data₁ data₂ : Parcel}
    {group₁ group₂ : Int} {path₁ path₂ : List UInt8}
    (h₁ : transactActiveGroup permitted₁ data₁ = .forwarded group₁ path₁)
    (h₂ : transactActiveGroup permitted₂ data₂ = .forwarded group₂ path₂) (r₁ r₂ : PathRoute) :
    ((∀ w ∈ r₁.writes permitted₁ data₁, w.Fits) ↔ r₁.HasRoom path₁) ∧
      ((∃ field, r₁.taPath permitted₁ data₁ = some field ∧
          r₂.taPath permitted₂ data₂ = some field) ↔
        r₁.sends group₁ (cString path₁) = true ∧ r₂.sends group₂ (cString path₂) = true ∧
          cutPath path₁ = cutPath path₂) := by
  have hlen₁ := (length_of_forwarded h₁).2
  have hlen₂ := (length_of_forwarded h₂).2
  refine ⟨PathRoute.writes_fit_iff h₁, ?_⟩
  simp only [PathRoute.taPath_of_forwarded h₁, PathRoute.taPath_of_forwarded h₂]
  rw [← commandPath_cString_inj (by omega) (by omega)]
  constructor
  · rintro ⟨field, ⟨hsent₁, rfl⟩, hsent₂, hsame⟩
    exact ⟨hsent₁, hsent₂, hsame.symm⟩
  · rintro ⟨hsent₁, hsent₂, hsame⟩
    exact ⟨_, ⟨hsent₁, rfl⟩, hsent₂, hsame.symm⟩

def pathParcel (path : List UInt8) : Parcel :=
  Words.le32 0 ++ (Words.le32 (.ofNat path.length) ++ padded (padSize path.length) path)

theorem transact_pathParcel (hpos : 0 < path.length) (hlt : path.length < 4096) :
    transactActiveGroup true (pathParcel path) = .forwarded 0 path := by
  have hmax : pathMax = 4096 := rfl
  have hlength : (UInt32.ofNat path.length).toNat = path.length :=
    UInt32.toNat_ofNat_of_lt (Nat.lt_trans hlt (by decide))
  have hsize : (Parcel.readInt32 (Words.le32 (.ofNat path.length) ++
      padded (padSize path.length) path)) =
        ((path.length : Int), padded (padSize path.length) path) := by
    unfold Parcel.readInt32
    rw [Words.get32_le32_append, hlength,
      Int.bmod_eq_of_le (by omega) (by omega)]
    rfl
  have hread : Parcel.readInplace (padded (padSize path.length) path) (sizeT path.length) =
      some path := by
    have hsizeT : sizeT path.length = path.length := by
      unfold sizeT
      omega
    unfold Parcel.readInplace
    rw [hsizeT, if_pos ⟨by omega, by simp [padded]; omega⟩]
    simp [padded]
  have hgroup : Parcel.readInt32 (pathParcel path) =
      (0, Words.le32 (.ofNat path.length) ++ padded (padSize path.length) path) := by
    unfold Parcel.readInt32 pathParcel
    rw [Words.get32_le32_append, UInt32.toNat_zero,
      Int.natCast_zero]
    rfl
  have haccept : ¬(pathMax ≤ (path.length : Int) ∨ (path.length : Int) ≤ 0) := by
    omega
  rw [transactActiveGroup, hgroup]
  dsimp only
  rw [hsize]
  rw [hread]
  exact if_neg haccept

def teeRoute : PathRoute :=
  ⟨true, ⟨true, .new true⟩, ⟨true, true, 0, 0, 0⟩, .tee⟩

theorem storePaths_sound_short : ((∀ w ∈ teeRoute.writes true (pathParcel [47, 97]), w.Fits) ∧
      (teeRoute.taPath true (pathParcel [47, 97])).isSome = true ∧
      teeRoute.taPath true (pathParcel [47, 97]) ≠ teeRoute.taPath true (pathParcel [47, 98])) := by
  have h₁ : transactActiveGroup true (pathParcel [47, 97]) = .forwarded 0 [47, 97] :=
    transact_pathParcel (by decide) (by decide)
  have h₂ : transactActiveGroup true (pathParcel [47, 98]) = .forwarded 0 [47, 98] :=
    transact_pathParcel (by decide) (by decide)
  obtain ⟨hroom, hsame⟩ := storePaths_sound_iff h₁ h₂ teeRoute teeRoute
  have hsent : (teeRoute.taPath true (pathParcel [47, 97])).isSome = true := by decide +kernel
  obtain ⟨field, hfield⟩ := Option.isSome_iff_exists.mp hsent
  refine ⟨hroom.mpr (by decide), hsent, fun heq => ?_⟩
  obtain ⟨-, -, hcut⟩ := hsame.mp ⟨field, hfield, heq ▸ hfield⟩
  exact absurd hcut (by decide)

theorem storePaths_not_sound : (transactActiveGroup true (pathParcel (.replicate 4086 97)) =
        .forwarded 0 (.replicate 4086 97) ∧
      ¬∀ w ∈ teeRoute.writes true (pathParcel (.replicate 4086 97)), w.Fits) ∧
    (teeRoute.taPath true (pathParcel (.replicate 511 97 ++ [98])) =
        teeRoute.taPath true (pathParcel (.replicate 511 97 ++ [99])) ∧
      (teeRoute.taPath true (pathParcel (.replicate 511 97 ++ [98]))).isSome = true) ∧
    (teeRoute.taPath true (pathParcel [47, 0, 98]) = teeRoute.taPath true (pathParcel [47, 0, 99]) ∧
      (teeRoute.taPath true (pathParcel [47, 0, 98])).isSome = true) := by
  have hforward : transactActiveGroup true (pathParcel (.replicate 4086 97)) =
      .forwarded 0 (.replicate 4086 97) :=
    transact_pathParcel (by rw [List.length_replicate]; decide)
      (by rw [List.length_replicate]; decide)
  refine ⟨⟨hforward, fun hfits => ?_⟩, by decide +kernel, by decide +kernel⟩
  have hroom := ((PathRoute.writes_fit_iff hforward).mp hfits rfl).1
  have hstr : cString (.replicate 4086 97) = .replicate 4086 97 :=
    cString_eq_self fun h => absurd (List.eq_of_mem_replicate h) (by decide)
  have hsuffix : userData.length = 10 := by decide
  rw [hstr, List.length_append, List.length_replicate] at hroom
  exact absurd hroom (by decide)

end WikoPlatform.Chipone
