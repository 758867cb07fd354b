import Mathlib.Algebra.GroupWithZero.Nat
import Mathlib.Logic.Function.Basic
import WikoPlatform.Lib.Layout
import WikoPlatform.Lib.Runs
import WikoPlatform.Lib.Words
import WikoPlatform.Posix

/-! The files of the trusted application in its 64-bit build: a header with the length of the data,
the MAC and the IV, and behind it the data. -/

namespace WikoPlatform.Qsee

open Runs Words

/-- Encryption and decryption work in place, and the check accepts exactly what the protection
makes. -/
structure Crypto where
  encrypt : List UInt8 → List UInt8 → Option (List UInt8 × List UInt8)
  decrypt : List UInt8 → List UInt8 → Option (List UInt8)
  integrityProtect : List UInt8 → Option (List UInt8)
  integrityVerify : List UInt8 → List UInt8 → Bool
  encrypt_length : ∀ {data iv data' iv'}, encrypt data iv = some (data', iv') →
    data'.length = data.length ∧ iv'.length = iv.length
  decrypt_length : ∀ {data iv data'}, decrypt data iv = some data' → data'.length = data.length
  decrypt_encrypt : ∀ {data iv data' iv'}, encrypt data iv = some (data', iv') →
    decrypt data' iv' = some data
  protect_length : ∀ {data hmac}, integrityProtect data = some hmac → hmac.length = 32
  verify_iff : ∀ {data hmac}, integrityVerify data hmac = true ↔ integrityProtect data = some hmac

/-- Whether there is memory, and what it holds. -/
structure Heap where
  allocates : Nat → Bool
  garbage : Nat → UInt8

def Heap.block (heap : Heap) (size : Nat) (bytes : List UInt8) : List UInt8 :=
  bytes ++ (List.range' bytes.length (size - bytes.length)).map heap.garbage

def slice (bytes : List UInt8) (offset len : Nat) : List UInt8 := (bytes.drop offset).take len

def ftsObjMembers : List Layout.Member := [Layout.word32, Layout.bytes 32, Layout.bytes 16]

def ftsObjSize : Nat := Layout.structSize ftsObjMembers

theorem ftsObjSize_eq : ftsObjSize = 52 := rfl

abbrev Files : Type := String → Option (List UInt8)

structure ReadOutcome where
  ret : Int
  accepted : Option (List UInt8)
  buf : List UInt8

def ReadOutcome.failed (ret : Int) : ReadOutcome := ⟨ret, none, []⟩

section

variable (crypto : Crypto) (heap : Heap)

def openObj (obj : List UInt8) (size : UInt32) (rCnt : Int) : ReadOutcome :=
  let dataLen := (get32 obj 0).toNat
  if size.toNat < ftsObjSize + dataLen then .failed (-1)
  else if !crypto.integrityVerify (slice obj 36 (dataLen + 16)) (slice obj 4 32) then .failed (-1)
  else
    match crypto.decrypt (slice obj 52 dataLen) (slice obj 36 16) with
    | none => ⟨-1, some (slice obj 36 (dataLen + 16)), []⟩
    | some data => ⟨rCnt, some (slice obj 36 (dataLen + 16)), data⟩

def fpFtsRead (file : Option (List UInt8)) (isNull : Bool) (size : UInt32) : ReadOutcome :=
  if isNull then .failed (-3)
  else if size.toNat < ftsObjSize then .failed (-3)
  else if !heap.allocates size.toNat then .failed (-2)
  else
    match file with
    | none => .failed (-1)
    | some content =>
      let read := content.take size.toNat
      openObj crypto (heap.block size.toNat read) size (int32 read.length)

/-- The comparisons with `size` are unsigned. -/
def fpTeeFileRead (file : Option (List UInt8)) (isNull : Bool) (size : UInt32) : ReadOutcome :=
  let outcome := fpFtsRead crypto heap file isNull size
  let ret : Int :=
    if uint32 outcome.ret = size.toNat then 0
    else if outcome.ret < 0 then -1
    else if uint32 outcome.ret < size.toNat then -2
    else -1
  { outcome with ret }

end

/-- An error, after which anything is in the file, or the first `count` bytes. -/
inductive WriteFile where
  | failed (left : Option (List UInt8))
  | stored (count : Nat)

section

variable (crypto : Crypto) (heap : Heap)

/-- The IV is not set before. -/
def sealObj (data : List UInt8) (size : UInt32) : Option (List UInt8) := do
  let (data', iv) ← crypto.encrypt data ((List.range' 36 16).map heap.garbage)
  let hmac ← crypto.integrityProtect (iv ++ data')
  some (le32 size ++ hmac ++ iv ++ data')

/-- The counter `wCnt` is converted to `size_t`. -/
def writtenBytes (size : UInt32) (wCnt : Int) : Int :=
  if ((ftsObjSize + size.toNat : Nat) : Int) ≠ wCnt % 18446744073709551616 then -1 else wCnt

def fpFtsWrite (write : WriteFile) (files : Files) (path : String) (buf : Option (List UInt8))
    (size : UInt32) : Int × Files :=
  match buf with
  | none => (-3, files)
  | some buf =>
    if !heap.allocates (ftsObjSize + size.toNat) then (-2, files)
    else
      match sealObj crypto heap (buf.take size.toNat) size with
      | none => (-1, files)
      | some obj =>
        match write with
        | .failed left => (-1, Function.update files path left)
        | .stored count =>
          (writtenBytes size (int32 (obj.take count).length),
            Function.update files path (some (obj.take count)))

def fpTeeFileWrite (write : WriteFile) (files : Files) (path : String) (buf : Option (List UInt8))
    (size : UInt32) : Int × Files :=
  let realWBytes := int32 (size.toNat + ftsObjSize)
  let next := fpFtsWrite crypto heap write files path buf size
  let ret : Int :=
    if next.1 = realWBytes then 0
    else if next.1 < 0 then -1
    else if next.1 < realWBytes then -2
    else -1
  (ret, next.2)

end

structure FileCalls where
  lseek : Bool
  close : Bool

def fpTeeGetFileSize (calls : FileCalls) (file : Option (List UInt8)) : Int × Option UInt32 :=
  match file with
  | none => (-2, none)
  | some content =>
    let ret := if calls.lseek then int32 content.length else -1
    if ret = -1 then (-1, none)
    else
      let size := UInt32.ofNat (uint32 ret).toNat
      if calls.close then (0, some size) else (-1, some size)

def fpTeeFileDelete (removeFile : Int) (files : Files) (path : String) : Int × Files :=
  (removeFile, if removeFile = 0 then Function.update files path none else files)

def fpTeeFileRename (frename : Int) (files : Files) (pathOld pathNew : String) : Int × Files :=
  (frename, if frename = 0 then
    Function.update (Function.update files pathOld none) pathNew (files pathOld) else files)

theorem Heap.block_full (heap : Heap) {size : Nat} {bytes : List UInt8} (h : bytes.length = size) :
    heap.block size bytes = bytes := by
  simp [Heap.block, h]

section

variable {crypto : Crypto} {heap : Heap}

theorem fpTeeFileRead_ret_zero {file : Option (List UInt8)} {isNull : Bool} {size : UInt32} :
    (fpTeeFileRead crypto heap file isNull size).ret = 0 ↔
      uint32 (fpFtsRead crypto heap file isNull size).ret = size.toNat := by
  simp only [fpTeeFileRead]
  split_ifs <;> simp_all

/-- The check has accepted the IV and the data, and the buffer has what the data decrypts to. -/
structure Opened (crypto : Crypto) (obj : List UInt8) (outcome : ReadOutcome) : Prop where
  accepted : outcome.accepted = some (slice obj 36 ((get32 obj 0).toNat + 16))
  verified :
    crypto.integrityVerify (slice obj 36 ((get32 obj 0).toNat + 16)) (slice obj 4 32) = true
  decrypted :
    crypto.decrypt (slice obj 52 (get32 obj 0).toNat) (slice obj 36 16) = some outcome.buf

theorem openObj_cases (crypto : Crypto) (obj : List UInt8) (size : UInt32) (rCnt : Int) :
    (openObj crypto obj size rCnt).ret = -1 ∧ (openObj crypto obj size rCnt).buf = [] ∨
    ftsObjSize + (get32 obj 0).toNat ≤ size.toNat ∧ (openObj crypto obj size rCnt).ret = rCnt ∧
      Opened crypto obj (openObj crypto obj size rCnt) := by
  by_cases hsize : size.toNat < ftsObjSize + (get32 obj 0).toNat
  · exact .inl (by simp [openObj, hsize, ReadOutcome.failed])
  cases hverify : crypto.integrityVerify (slice obj 36 ((get32 obj 0).toNat + 16))
      (slice obj 4 32) with
  | false => exact .inl (by simp [openObj, hsize, hverify, ReadOutcome.failed])
  | true =>
    cases hdecrypt : crypto.decrypt (slice obj 52 (get32 obj 0).toNat) (slice obj 36 16) with
    | none => exact .inl (by simp [openObj, hsize, hverify, hdecrypt])
    | some data =>
      have hopen : openObj crypto obj size rCnt =
          ⟨rCnt, some (slice obj 36 ((get32 obj 0).toNat + 16)), data⟩ := by
        simp [openObj, hsize, hverify, hdecrypt]
      rw [hopen]
      exact .inr ⟨by omega, rfl, rfl, hverify, hdecrypt⟩

theorem slice_length_le (bytes : List UInt8) (offset len : Nat) :
    (slice bytes offset len).length ≤ len := by
  simp [slice]

theorem openObj_buf_length (obj : List UInt8) (size : UInt32) (rCnt : Int) :
    (openObj crypto obj size rCnt).buf.length ≤ size.toNat - ftsObjSize := by
  rcases openObj_cases crypto obj size rCnt with ⟨-, hbuf⟩ | ⟨hsize, -, hopened⟩
  · simp [hbuf]
  · have hlen := crypto.decrypt_length hopened.decrypted
    have hslice := slice_length_le obj 52 (get32 obj 0).toNat
    omega

theorem fpTeeFileRead_buf_length (file : Option (List UInt8)) (isNull : Bool) (size : UInt32) :
    (fpTeeFileRead crypto heap file isNull size).buf.length ≤ size.toNat - ftsObjSize := by
  show (fpFtsRead crypto heap file isNull size).buf.length ≤ _
  unfold fpFtsRead
  split_ifs
  · exact Nat.zero_le _
  · exact Nat.zero_le _
  · exact Nat.zero_le _
  · cases file with
    | none => exact Nat.zero_le _
    | some content => exact openObj_buf_length _ _ _

end

/-- A read that returns 0 has opened the first `size` bytes. -/
def Checked (crypto : Crypto) (file : Option (List UInt8)) (size : UInt32)
    (outcome : ReadOutcome) : Prop :=
  outcome.ret = 0 → ∃ content, file = some content ∧ size.toNat ≤ content.length ∧
    Opened crypto (content.take size.toNat) outcome

def readError (heap : Heap) (isNull : Bool) (size : UInt32) : Int :=
  if isNull then -3 else if heap.allocates size.toNat then -1 else -2

section

variable {crypto : Crypto} {heap : Heap} {size : UInt32} {isNull : Bool}

theorem openObj_checked {content : List UInt8} {outcome : ReadOutcome}
    (h : outcome = openObj crypto (heap.block size.toNat (content.take size.toNat)) size
      (int32 (content.take size.toNat).length)) (hret : uint32 outcome.ret = size.toNat)
    (hsize : (size.toNat : Int) ≠ uint32 (-1)) :
    size.toNat ≤ content.length ∧ Opened crypto (content.take size.toNat) outcome := by
  have hlt := size.toNat_lt
  have hle : (content.take size.toNat).length ≤ size.toNat := List.length_take_le _ _
  rcases openObj_cases crypto (heap.block size.toNat (content.take size.toNat)) size
    (int32 (content.take size.toNat).length) with ⟨herror, -⟩ | ⟨-, hread, hopened⟩
  · rw [h, herror] at hret
    exact absurd hret.symm hsize
  · -- as many bytes were read as asked for, so nothing of the old heap is in the object
    have hcount : (content.take size.toNat).length = size.toNat := by
      rw [h, hread, uint32_int32 (by omega)] at hret
      omega
    rw [← h, heap.block_full hcount] at hopened
    rw [List.length_take] at hcount
    exact ⟨by omega, hopened⟩

theorem fpFtsRead_checked {file : Option (List UInt8)}
    (hret : uint32 (fpFtsRead crypto heap file isNull size).ret = size.toNat)
    (hsize : (size.toNat : Int) ≠ uint32 (readError heap isNull size)) :
    ∃ content, file = some content ∧ size.toNat ≤ content.length ∧
      Opened crypto (content.take size.toNat) (fpFtsRead crypto heap file isNull size) := by
  unfold readError at hsize
  unfold fpFtsRead at hret ⊢
  by_cases hnull : isNull = true
  · simp only [if_pos hnull] at hret hsize
    exact absurd hret.symm hsize
  simp only [if_neg hnull] at hret hsize ⊢
  by_cases hsmall : size.toNat < ftsObjSize
  · simp only [if_pos hsmall, ReadOutcome.failed, uint32] at hret
    rw [ftsObjSize_eq] at hsmall
    omega
  simp only [if_neg hsmall] at hret ⊢
  cases halloc : heap.allocates size.toNat with
  | false =>
    simp only [halloc] at hret hsize
    exact absurd hret.symm hsize
  | true =>
    simp only [halloc] at hret hsize ⊢
    cases file with
    | none => exact absurd hret.symm hsize
    | some content => exact ⟨content, rfl, openObj_checked rfl hret hsize⟩

theorem fpTeeFileRead_checked (hsize : (size.toNat : Int) ≠ uint32 (readError heap isNull size))
    (file : Option (List UInt8)) :
    Checked crypto file size (fpTeeFileRead crypto heap file isNull size) := by
  intro hret
  obtain ⟨content, hfile, hlen, hopened⟩ :=
    fpFtsRead_checked (fpTeeFileRead_ret_zero.mp hret) hsize
  exact ⟨content, hfile, hlen, hopened.accepted, hopened.verified, hopened.decrypted⟩

theorem allocates_of_ret_zero {file : Option (List UInt8)} (hsize : size.toNat < 2147483648)
    (h : (fpTeeFileRead crypto heap file false size).ret = 0) :
    heap.allocates size.toNat = true := by
  rw [fpTeeFileRead_ret_zero] at h
  by_contra halloc
  rw [Bool.not_eq_true] at halloc
  simp only [fpFtsRead, Bool.false_eq_true, if_false, halloc, Bool.not_false, if_true] at h
  split_ifs at h <;> simp only [ReadOutcome.failed, uint32] at h <;> omega

theorem fpTeeFileRead_checked_iff :
    (∀ file, Checked crypto file size (fpTeeFileRead crypto heap file isNull size)) ↔
      (size.toNat : Int) ≠ uint32 (readError heap isNull size) := by
  refine ⟨fun h hsize => ?_, fpTeeFileRead_checked⟩
  have hlarge : ¬size.toNat < ftsObjSize := by
    rw [ftsObjSize_eq]
    unfold readError uint32 at hsize
    split_ifs at hsize <;> omega
  have hret : (fpTeeFileRead crypto heap none isNull size).ret = 0 := by
    rw [fpTeeFileRead_ret_zero, hsize]
    unfold fpFtsRead readError
    cases isNull <;> cases heap.allocates size.toNat <;>
      simp [hlarge, ReadOutcome.failed]
  obtain ⟨content, hnone, -⟩ := h none hret
  cases hnone

end

structure SealedObj (crypto : Crypto) (data : List UInt8) where
  size : UInt32
  hmac : List UInt8
  iv : List UInt8
  cipher : List UInt8
  size_eq : size.toNat = data.length
  hmac_length : hmac.length = 32
  iv_length : iv.length = 16
  cipher_length : cipher.length = data.length
  verified : crypto.integrityVerify (iv ++ cipher) hmac = true
  decrypts : crypto.decrypt cipher iv = some data

namespace SealedObj

variable {crypto : Crypto} {data : List UInt8} (obj : SealedObj crypto data) {size : UInt32}

def bytes : List UInt8 := le32 obj.size ++ (obj.hmac ++ (obj.iv ++ obj.cipher))

theorem le32_length (x : UInt32) : (le32 x).length = 4 := rfl

theorem bytes_length : obj.bytes.length = data.length + ftsObjSize := by
  simp only [bytes, List.length_append, le32_length, obj.hmac_length, obj.iv_length,
    obj.cipher_length, ftsObjSize_eq]
  omega

theorem bytes_dataLen : (get32 obj.bytes 0).toNat = data.length := by
  rw [bytes, get32_le32_append, obj.size_eq]

theorem bytes_hmac : slice obj.bytes 4 32 = obj.hmac := by
  rw [bytes, slice, List.drop_left' (le32_length _), List.take_left' obj.hmac_length]

theorem bytes_drop_iv : obj.bytes.drop 36 = obj.iv ++ obj.cipher := by
  rw [bytes, ← List.append_assoc]
  apply List.drop_left'
  rw [List.length_append, le32_length, obj.hmac_length]

theorem bytes_iv : slice obj.bytes 36 16 = obj.iv := by
  rw [slice, bytes_drop_iv, List.take_left' obj.iv_length]

theorem bytes_protected : slice obj.bytes 36 (data.length + 16) = obj.iv ++ obj.cipher := by
  rw [slice, bytes_drop_iv]
  apply List.take_of_length_le
  rw [List.length_append, obj.iv_length, obj.cipher_length]
  omega

theorem bytes_cipher : slice obj.bytes 52 data.length = obj.cipher := by
  have hdrop : obj.bytes.drop 52 = (obj.bytes.drop 36).drop 16 := by rw [List.drop_drop]
  rw [slice, hdrop, bytes_drop_iv, List.drop_left' obj.iv_length]
  exact List.take_of_length_le (Nat.le_of_eq obj.cipher_length)

theorem openObj_eq (hsize : size.toNat = data.length + ftsObjSize) (rCnt : Int) :
    openObj crypto obj.bytes size rCnt = ⟨rCnt, some (obj.iv ++ obj.cipher), data⟩ := by
  have hfits : ¬size.toNat < ftsObjSize + data.length := by omega
  simp only [openObj, bytes_dataLen, bytes_protected, bytes_hmac, bytes_cipher, bytes_iv,
    obj.verified, obj.decrypts, if_neg hfits, Bool.not_true, Bool.false_eq_true, if_false]

theorem fpTeeFileRead_eq {heap : Heap} (hsize : size.toNat = data.length + ftsObjSize)
    (halloc : heap.allocates size.toNat = true) :
    fpTeeFileRead crypto heap (some obj.bytes) false size =
      ⟨0, some (obj.iv ++ obj.cipher), data⟩ := by
  have hlen : obj.bytes.length = size.toNat := by rw [obj.bytes_length, hsize]
  have hread : fpFtsRead crypto heap (some obj.bytes) false size =
      ⟨int32 size.toNat, some (obj.iv ++ obj.cipher), data⟩ := by
    have hlarge : ¬size.toNat < ftsObjSize := by omega
    have htake : obj.bytes.take size.toNat = obj.bytes :=
      List.take_of_length_le (Nat.le_of_eq hlen)
    simp only [fpFtsRead, halloc, if_neg hlarge, htake, hlen, heap.block_full hlen,
      obj.openObj_eq hsize, Bool.not_true, Bool.false_eq_true, if_false]
  have hret : uint32 (int32 size.toNat) = size.toNat := uint32_int32 size.toNat_lt
  simp only [fpTeeFileRead, hread, if_pos hret]

theorem fpTeeGetFileSize_eq (hlen : data.length + ftsObjSize < 2147483648) :
    fpTeeGetFileSize ⟨true, true⟩ (some obj.bytes) =
      (0, some (UInt32.ofNat (data.length + ftsObjSize))) := by
  have hret : int32 (obj.bytes.length : Int) = (data.length + ftsObjSize : Nat) := by
    rw [obj.bytes_length, int32_of_lt hlen]
  have hpos : ((data.length + ftsObjSize : Nat) : Int) ≠ -1 := by omega
  have hnat : (uint32 (data.length + ftsObjSize : Nat)).toNat = data.length + ftsObjSize := by
    unfold uint32
    omega
  simp only [fpTeeGetFileSize, if_true, hret, if_neg hpos, hnat]

end SealedObj

section

variable {crypto : Crypto} {heap : Heap} {data : List UInt8} {size : UInt32}

theorem sealObj_sealed {bytes : List UInt8} (hsize : size.toNat = data.length)
    (h : sealObj crypto heap data size = some bytes) :
    ∃ obj : SealedObj crypto data, obj.bytes = bytes := by
  simp only [sealObj, bind, Option.bind_eq_some_iff, Option.some.injEq] at h
  obtain ⟨⟨cipher, iv⟩, hencrypt, hmac, hprotect, rfl⟩ := h
  obtain ⟨hcipher, hiv⟩ := crypto.encrypt_length hencrypt
  exact ⟨{
    size, hmac, iv, cipher
    size_eq := hsize
    hmac_length := crypto.protect_length hprotect
    iv_length := by simpa using hiv
    cipher_length := hcipher
    verified := crypto.verify_iff.mpr hprotect
    decrypts := crypto.decrypt_encrypt hencrypt }, by simp [SealedObj.bytes]⟩

theorem writtenBytes_eq {wCnt result : Int} (h : writtenBytes size wCnt = result)
    (hres : 0 ≤ result) : wCnt = result := by
  unfold writtenBytes at h
  split_ifs at h <;> omega

theorem fpTeeFileWrite_sealed {write : WriteFile} {files : Files} {path : String}
    (hsize : size.toNat = data.length) (hlen : data.length + ftsObjSize < 2147483648)
    (h : (fpTeeFileWrite crypto heap write files path (some data) size).1 = 0) :
    ∃ obj : SealedObj crypto data,
      (fpTeeFileWrite crypto heap write files path (some data) size).2 path = some obj.bytes := by
  have hreal : int32 (size.toNat + ftsObjSize) = (data.length + ftsObjSize : Nat) := by
    rw [hsize]
    exact int32_of_lt hlen
  have hret : (fpFtsWrite crypto heap write files path (some data) size).1 =
      (data.length + ftsObjSize : Nat) := by
    simp only [fpTeeFileWrite, hreal] at h
    split_ifs at h
    assumption
  show ∃ obj : SealedObj crypto data,
    (fpFtsWrite crypto heap write files path (some data) size).2 path = some obj.bytes
  unfold fpFtsWrite at hret ⊢
  have htake : data.take size.toNat = data := List.take_of_length_le (Nat.le_of_eq hsize.symm)
  cases halloc : heap.allocates (ftsObjSize + size.toNat) with
  | false => simp [halloc] at hret; omega
  | true =>
    cases hseal : sealObj crypto heap data size with
    | none => simp [halloc, htake, hseal] at hret; omega
    | some bytes =>
      obtain ⟨obj, rfl⟩ := sealObj_sealed hsize hseal
      cases write with
      | failed left => simp [halloc, htake, hseal] at hret; omega
      | stored count =>
        simp only [halloc, htake, hseal, Bool.not_true, Bool.false_eq_true, if_false] at hret ⊢
        have hle : (obj.bytes.take count).length ≤ obj.bytes.length := List.length_take_le' _ _
        rw [obj.bytes_length] at hle
        rw [int32_of_lt (by omega)] at hret
        have hcount := writtenBytes_eq hret (by omega)
        have hall : obj.bytes.take count = obj.bytes := by
          apply (List.take_prefix count obj.bytes).eq_of_length
          rw [obj.bytes_length]
          omega
        exact ⟨obj, by rw [Function.update_self, hall]⟩

end

inductive FileOp where
  | write (heap : Heap) (write : WriteFile) (path : String) (buf : Option (List UInt8))
      (size : UInt32)
  | delete (removeFile : Int) (path : String)
  | rename (frename : Int) (pathOld pathNew : String)

def FileOp.paths : FileOp → List String
  | .write _ _ path _ _ => [path]
  | .delete _ path => [path]
  | .rename _ pathOld pathNew => [pathOld, pathNew]

def step (crypto : Crypto) (files : Files) : FileOp → List Int × Files
  | .write heap write path buf size =>
    let next := fpTeeFileWrite crypto heap write files path buf size
    ([next.1], next.2)
  | .delete removeFile path =>
    let next := fpTeeFileDelete removeFile files path
    ([next.1], next.2)
  | .rename frename pathOld pathNew =>
    let next := fpTeeFileRename frename files pathOld pathNew
    ([next.1], next.2)

section

variable {crypto : Crypto} {files : Files} {path other : String}

theorem fpFtsWrite_other {heap : Heap} {write : WriteFile} {buf : Option (List UInt8)}
    {size : UInt32} (hne : other ≠ path) :
    (fpFtsWrite crypto heap write files path buf size).2 other = files other := by
  unfold fpFtsWrite
  cases buf with
  | none => rfl
  | some buf =>
    dsimp only
    split
    · rfl
    · cases sealObj crypto heap (buf.take size.toNat) size with
      | none => rfl
      | some obj =>
        cases write with
        | failed left | stored count => exact Function.update_of_ne hne _ _

theorem step_other {op : FileOp} (hother : other ∉ op.paths) :
    (step crypto files op).2 other = files other := by
  cases op with
  | write heap write path buf size =>
    exact fpFtsWrite_other (by simpa [FileOp.paths] using hother)
  | delete removeFile path =>
    have hne : other ≠ path := by simpa [FileOp.paths] using hother
    simp only [step, fpTeeFileDelete]
    split
    · exact Function.update_of_ne hne _ _
    · rfl
  | rename frename pathOld pathNew =>
    have hne : other ≠ pathOld ∧ other ≠ pathNew := by simpa [FileOp.paths] using hother
    simp only [step, fpTeeFileRename]
    split
    · rw [Function.update_of_ne hne.2, Function.update_of_ne hne.1]
    · rfl

theorem run_other {ops : List FileOp}
    (hops : Meets (step crypto) (fun _ op => path ∉ op.paths) files ops) :
    (run (step crypto) files ops).2 path = files path :=
  run_invariant_meets (P := fun now : Files => now path = files path)
    (fun _ _ hsame hother => (step_other hother).trans hsame) rfl hops

end

/-- A read returns what a write stored exactly if `memory` holds, and 0 only for data that the check
accepted exactly if `asked` holds. It writes no more than the size asked for. -/
structure StoreSound (crypto : Crypto) (memory : Heap → Nat → Prop)
    (asked : Heap → Bool → UInt32 → Prop) : Prop where
  roundTrip : ∀ heap write files path data size ops, size.toNat = data.length →
    data.length + 52 < 2 ^ 31 →
    (fpTeeFileWrite crypto heap write files path (some data) size).1 = 0 →
    Meets (step crypto) (fun _ op => path ∉ op.paths)
      (fpTeeFileWrite crypto heap write files path (some data) size).2 ops →
    let file := (run (step crypto)
      (fpTeeFileWrite crypto heap write files path (some data) size).2 ops).2 path
    let reported := UInt32.ofNat (data.length + 52)
    reported.toNat = data.length + 52 ∧
    fpTeeGetFileSize ⟨true, true⟩ file = (0, some reported) ∧
    ∀ later : Heap, ((fpTeeFileRead crypto later file false reported).ret = 0 ∧
      (fpTeeFileRead crypto later file false reported).buf = data) ↔ memory later (data.length + 52)
  checked : ∀ heap isNull size,
    (∀ file, Checked crypto file size (fpTeeFileRead crypto heap file isNull size)) ↔
      asked heap isNull size
  bounded : ∀ heap file isNull size,
    (fpTeeFileRead crypto heap file isNull size).buf.length ≤ size.toNat - 52

/-- There has to be memory, and no error may convert to the size. -/
theorem fileStore_sound (crypto : Crypto) :
    StoreSound crypto (fun heap n => heap.allocates n = true)
      (fun heap isNull size => (size.toNat : Int) ≠ uint32 (readError heap isNull size)) where
  roundTrip := by
    intro heap write files path data size ops hsize hlen hwrite hops
    have hlen' : data.length + ftsObjSize < 2147483648 := hlen
    obtain ⟨obj, hobj⟩ := fpTeeFileWrite_sealed hsize hlen' hwrite
    have hreport : (UInt32.ofNat (data.length + 52)).toNat = data.length + 52 := by
      rw [UInt32.toNat_ofNat']
      omega
    rw [run_other hops, hobj]
    refine ⟨hreport, obj.fpTeeGetFileSize_eq hlen', ?_⟩
    refine fun later => ⟨fun hread => ?_, fun hmem => ?_⟩
    · rw [← hreport]
      exact allocates_of_ret_zero (by rw [hreport]; omega) hread.1
    · rw [obj.fpTeeFileRead_eq hreport (by rw [hreport]; exact hmem)]
      exact ⟨rfl, rfl⟩
  checked _ _ _ := fpTeeFileRead_checked_iff
  bounded _ file isNull size := fpTeeFileRead_buf_length file isNull size

def plainCrypto : Crypto where
  encrypt data iv := some (data, iv)
  decrypt data _ := some data
  integrityProtect _ := some (List.replicate 32 0)
  integrityVerify _ hmac := hmac == List.replicate 32 0
  encrypt_length h := by cases h; exact ⟨rfl, rfl⟩
  decrypt_length h := by cases h; rfl
  decrypt_encrypt h := by cases h; rfl
  protect_length h := by cases h; rfl
  verify_iff := beq_iff_eq.trans (eq_comm.trans Option.some_inj.symm)

def freshHeap : Heap := ⟨(· ≤ 0xA00000), fun _ => 0⟩
def fullHeap : Heap := ⟨fun _ => false, fun _ => 0⟩

theorem fileStore_not_sound : ((fpTeeFileRead plainCrypto freshHeap none false 4294967294).ret = 0 ∧
      (fpTeeFileRead plainCrypto freshHeap none false 4294967294).accepted = none) ∧
    ¬StoreSound plainCrypto (fun heap n => heap.allocates n = true) (fun _ _ _ => True) ∧
    ¬StoreSound plainCrypto (fun _ _ => True)
      (fun heap isNull size => (size.toNat : Int) ≠ uint32 (readError heap isNull size)) := by
  refine ⟨by decide +kernel, fun h => ?_, fun h => ?_⟩
  · have hsize := fpTeeFileRead_checked_iff.mp
      ((h.checked freshHeap false 4294967294).mpr trivial)
    exact absurd hsize (by decide +kernel)
  · have hread := (h.roundTrip freshHeap (.stored 53) (fun _ => none) "tpl" [7] 1 [] rfl
      (by decide) (by decide +kernel) trivial).2.2 fullHeap
    have hread := hread.mpr trivial
    exact absurd hread.1 (by decide +kernel)

end WikoPlatform.Qsee
