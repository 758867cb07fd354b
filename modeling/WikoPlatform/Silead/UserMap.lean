import Mathlib.Data.Fintype.Pi
import Mathlib.Data.List.OfFn
import Mathlib.Logic.Function.Basic
import Mathlib.Tactic.FinCases
import WikoPlatform.Lib.Act
import WikoPlatform.Lib.Words

/-! `fingerprint_set_active_group` of the Silead HAL and the map from system users to the five users
of the fingerprint daemon. An `int` is held as its 32 bits. -/

namespace WikoPlatform.Silead

open Runs Words

def slotUsed : UInt32 := 1
def slotUnused : UInt32 := 0
def sysUserIdUnused : UInt32 := 0xFFFFFFFF

def isNeg (x : UInt32) : Bool := 0x80000000 ≤ x

/-- The five entries of the map. -/
@[ext] structure MapInfo where
  sysUserId : Fin 5 → UInt32
  fpUserId : Fin 5 → UInt32
  slot : Fin 5 → UInt32
  deriving DecidableEq

namespace MapInfo

def zero : MapInfo := ⟨fun _ => 0, fun _ => 0, fun _ => 0⟩

/-- The map that is made up where there is no file. -/
def initial : MapInfo where
  sysUserId i := if i = 0 then 0 else 110 + UInt32.ofNat i
  fpUserId i := UInt32.ofNat i
  slot i := if i = 0 then slotUsed else slotUnused

def words (m : MapInfo) : List UInt32 :=
  List.ofFn m.sysUserId ++ List.ofFn m.fpUserId ++ List.ofFn m.slot

def bytes (m : MapInfo) : List UInt8 := m.words.flatMap le32

def ofBytes (all : List UInt8) : MapInfo where
  sysUserId i := get32 all (4 * i)
  fpUserId i := get32 all (4 * (5 + i))
  slot i := get32 all (4 * (10 + i))

/-- What the file is too short for stays as it was. -/
def read (file : List UInt8) (m : MapInfo) : MapInfo :=
  ofBytes (file.take 60 ++ m.bytes.drop file.length)

def indexOf (m : MapInfo) (gid : UInt32) : Option (Fin 5) :=
  (List.finRange 5).find? fun i => m.sysUserId i == gid

def placeFor (m : MapInfo) (gid : UInt32) : Option (Fin 5) :=
  (List.finRange 5).find? fun i => m.sysUserId i == gid || m.slot i == slotUnused

/-- The entry is marked as used, and a free one given to the group. -/
def take (m : MapInfo) (gid : UInt32) (i : Fin 5) : MapInfo :=
  let marked := { m with slot := Function.update m.slot i slotUsed }
  if m.sysUserId i = gid then marked
  else { marked with sysUserId := Function.update m.sysUserId i gid }

def free (m : MapInfo) (i : Fin 5) : MapInfo :=
  { m with
    sysUserId := Function.update m.sysUserId i sysUserIdUnused
    slot := Function.update m.slot i slotUnused }

theorem words_length (m : MapInfo) : m.words.length = 15 := by
  simp [words]

theorem bytes_length (m : MapInfo) : m.bytes.length = 60 := by
  rw [bytes, length_flatMap_le32, words_length]

theorem read_bytes (m before : MapInfo) : read m.bytes before = m := by
  have hall : m.bytes.take 60 ++ before.bytes.drop m.bytes.length = m.bytes := by
    rw [← m.bytes_length, List.take_length, List.drop_of_length_le, List.append_nil]
    rw [m.bytes_length, before.bytes_length]
  have hword : ∀ (i : Nat) (h : i < m.words.length),
      get32 (m.bytes.take 60 ++ before.bytes.drop m.bytes.length) (4 * i) = m.words[i] :=
    fun i h => by rw [hall, bytes, get32_flatMap_le32 h]
  have hlen := m.words_length
  apply MapInfo.ext
  · funext i
    refine (hword i (by omega)).trans ?_
    fin_cases i <;> rfl
  · funext i
    refine (hword (5 + i) (by omega)).trans ?_
    fin_cases i <;> rfl
  · funext i
    refine (hword (10 + i) (by omega)).trans ?_
    fin_cases i <;> rfl

end MapInfo

structure Finger where
  slot : UInt32
  enable : UInt32
  deriving DecidableEq

structure FpInfo where
  userid : UInt32
  fpinfo : Fin 5 → Finger

/-- The memory of the HAL, the file of the map, and the user that the daemon has switched to. -/
structure Hal where
  mapInfo : MapInfo
  file : Option (List UInt8)
  lastGid : UInt32
  info : FpInfo
  active : UInt32

def Hal.nextMap (s : Hal) : MapInfo :=
  match s.file with
  | none => .initial
  | some file => .read file s.mapInfo

def Hal.restarted (s : Hal) (reborn : FpInfo) : Hal :=
  { s with mapInfo := .zero, lastGid := 0xFFFFFFFF, info := reborn }

abbrev Call (α : Type) : Type := Act Hal Empty α

/-- Whether there is a client, after how many bytes of a save the process dies, whether the system
users can be read, and what the daemon returns. `reborn` is `mInfo` in a new process. -/
structure GroupEnv where
  client : Bool
  loadCut : Option Nat
  cleanCut : Option Nat
  addCut : Option Nat
  userlist : Bool
  switchOwner : Fin 5 → Int
  deleteUser : Fin 5 → Int
  getFPInfo : Option (Fin 5 → Finger)
  switchUser : Int
  reborn : FpInfo

/-- A failed `GetFPInfo` leaves the information of the last one. -/
def getFPInfo : Option (Fin 5 → Finger) → Call Unit
  | none => pure ()
  | some fingers => Act.modify fun s => { s with info := ⟨s.active, fingers⟩ }

def switchUser (ret : Int) (user : UInt32) : Call Int := do
  if ret = 0 then do
    Act.modify fun s => { s with active := user }
    pure ret
  else pure ret

def saveConfigsFile : Option Nat → Call Unit
  | none => Act.modify fun s => { s with file := some s.mapInfo.bytes }
  | some written => do
    Act.modify fun s => { s with file := some (s.mapInfo.bytes.take written) }
    Act.throw

def loadConfigsFile (cut : Option Nat) : Call Unit := do
  let s ← Act.get
  match s.file with
  | none => do
    Act.modify fun s => { s with mapInfo := .initial }
    saveConfigsFile cut
  | some file => Act.modify fun s => { s with mapInfo := .read file s.mapInfo }

/-- The directory of the user is removed as well. -/
def deleteFpUserInfo (env : GroupEnv) (i : Fin 5) (fpUserId sysUserId : UInt32) : Call Int := do
  if isNeg fpUserId || fpUserId == 0 || isNeg sysUserId || sysUserId == 0 then pure (-1)
  else do
    let _ ← switchUser (env.switchOwner i) 0
    pure (env.deleteUser i)

section

variable (users : List UInt32) (env : GroupEnv)

/-- One round of the loop; `true` if the entry was freed. -/
def removeOldUser (i : Fin 5) : Call Bool := do
  let s ← Act.get
  if s.mapInfo.sysUserId i = sysUserIdUnused then pure false
  else if s.mapInfo.sysUserId i ∈ users then pure false
  else do
    let result ← deleteFpUserInfo env i (s.mapInfo.fpUserId i) (s.mapInfo.sysUserId i)
    if result = 0 then do
      Act.modify fun s => { s with mapInfo := s.mapInfo.free i }
      pure true
    else pure false

def removeOldUsers : List (Fin 5) → Call Bool
  | [] => pure false
  | i :: rest => do
    let changed ← removeOldUser users env i
    let changedLater ← removeOldUsers rest
    pure (changed || changedLater)

def removeOldUserFromfpUser : Call Unit := do
  if env.userlist then do
    let dataChanged ← removeOldUsers users env [1, 2, 3, 4]
    if dataChanged then saveConfigsFile env.cleanCut

def addNewUserTofpUser (newGroupId : UInt32) : Call UInt32 := do
  loadConfigsFile env.loadCut
  let s ← Act.get
  match s.mapInfo.placeFor newGroupId with
  | none => pure 0xFFFFFFFF
  | some i => do
    Act.modify fun s => { s with mapInfo := s.mapInfo.take newGroupId i }
    if isNeg (s.mapInfo.fpUserId i) then pure (s.mapInfo.fpUserId i)
    else do
      saveConfigsFile env.addCut
      pure (s.mapInfo.fpUserId i)

def sileadGetFpUserIdByGroupId (newGroupId : UInt32) : Call UInt32 := do
  loadConfigsFile env.loadCut
  let s ← Act.get
  match s.mapInfo.indexOf newGroupId with
  | none => pure 0xFFFFFFFF
  | some i => pure (s.mapInfo.fpUserId i)

def knownFpUser (gid : UInt32) : Call UInt32 := do
  if gid = 0 then do
    loadConfigsFile env.loadCut
    let s ← Act.get
    pure (if gid = s.lastGid then 0 else 0xFFFFFFFF)
  else sileadGetFpUserIdByGroupId env gid

/-- A group that was the last one to be added is not added again. -/
def newFpUser (gid : UInt32) : Call UInt32 := do
  let s ← Act.get
  if gid = s.lastGid then pure 0xFFFFFFFF
  else do
    removeOldUserFromfpUser users env
    let newFpUserId ← addNewUserTofpUser env gid
    if isNeg newFpUserId then pure newFpUserId
    else do
      Act.modify fun s => { s with lastGid := gid }
      pure newFpUserId

def selectFpUser (gid : UInt32) : Call UInt32 := do
  let known ← knownFpUser env gid
  if isNeg known then newFpUser users env gid else pure known

def activateFpUser (newFpUserId : UInt32) : Call Int := do
  getFPInfo env.getFPInfo
  let s ← Act.get
  if s.info.userid ≠ newFpUserId then switchUser env.switchUser newFpUserId
  else pure 0

def fingerprintSetActiveGroup (gid : UInt32) : Call Int := do
  if !env.client then pure (-1)
  else do
    let newFpUserId ← selectFpUser users env gid
    if isNeg newFpUserId then pure (-1) else activateFpUser env newFpUserId

end

end WikoPlatform.Silead
