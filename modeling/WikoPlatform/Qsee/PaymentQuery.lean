import Mathlib.Data.List.GetD
import WikoPlatform.Lib.Words

/-! The payment query of the trusted application, `COEMUnwrapKeys_unwrap`, which does not clear its
buffers on the stack. -/

namespace WikoPlatform.Qsee

open Words

inductive TaQuery where
  | getEnrolledFids
  | getLastIdentifyId

/-- What `_process_cmd_fingerprint` makes of a response of `rspLen` bytes. -/
structure TaState where
  rspLen : Nat
  process : TaQuery → Buf rspLen → Buf rspLen

/-- The two buffers on the stack, the response of the last command, and the buffer of the caller. -/
structure Prior (rspLen : Nat) where
  tmpWrapBuf : Nat → UInt8
  ids : Nat → UInt8
  rsp : Buf rspLen
  unwrapped : Nat → UInt8

def maxMsgLen : Nat := 300
def maxNbrTemplates : Nat := 5
def maxDataLen : Nat := 512 * 1024

def memset {n : Nat} (buf : Buf n) : Buf n :=
  ⟨buf.bytes.map fun _ => 0, by rw [List.length_map, buf.size]⟩

def memscpy (dstSize : Nat) (src : Nat → UInt8) (srcSize : Nat) : List UInt8 :=
  (List.range (min dstSize srcSize)).map src

section

variable (ta : TaState)

def tzAppCmdHandler (cmdLen : Int) (query : TaQuery) (response : Buf ta.rspLen) : Buf ta.rspLen :=
  let cleared := memset response
  if 0 < cmdLen then
    if (maxDataLen : Int) < cmdLen then cleared else ta.process query cleared
  else cleared

def cmdNoPayloadLen : Int := 4

/-- `FidCnt` lies behind `Fids` in the response. -/
def getIdCount (rsp : Buf ta.rspLen) : UInt32 :=
  get32 (tzAppCmdHandler ta cmdNoPayloadLen .getEnrolledFids (memset rsp)).bytes 24

/-- The bytes to copy are never compared with the size of `ids`. -/
def fpSecIfaaGetIdList (rsp : Buf ta.rspLen) (ids : Nat → UInt8) : Nat × (Nat → UInt8) :=
  let qseeRsp := tzAppCmdHandler ta cmdNoPayloadLen .getEnrolledFids (memset rsp)
  let count := (getIdCount ta rsp * 4).toNat
  (count, fun i => if i < count then qseeRsp.bytes.getD (4 + i) 0 else ids i)

def fpSecIfaaGetLastId (rsp : Buf ta.rspLen) : UInt32 :=
  get32 (tzAppCmdHandler ta cmdNoPayloadLen .getLastIdentifyId (memset rsp)).bytes 4

end

/-- The bytes are written from the start of the caller's buffer on, and stored from the start of
`ids` on. -/
structure QueryOutcome where
  lenout : Nat
  written : List UInt8
  stored : Nat

def QueryOutcome.put (outcome : QueryOutcome) (copied : List UInt8) : QueryOutcome :=
  { outcome with
    lenout := copied.length
    written := copied ++ outcome.written.drop copied.length }

def wordBytes (word : String) : List UInt8 := word.toList.map fun c => UInt8.ofNat c.toNat

def tmpWrapBuf (message : List UInt8) (garbage : Nat → UInt8) (i : Nat) : UInt8 :=
  if i < min maxMsgLen message.length then message.getD i 0 else garbage i

/-- Neither word has a zero in it. -/
def startsWith (buf : Nat → UInt8) (word : String) : Bool :=
  (List.range 8).map buf == wordBytes word

def coemUnwrapKeysUnwrap (ta : TaState) (message : List UInt8) (unwrappedLen : Nat)
    (prior : Prior ta.rspLen) : QueryOutcome :=
  let tmp := tmpWrapBuf message prior.tmpWrapBuf
  let received : QueryOutcome := ⟨min maxMsgLen message.length, [], 0⟩
  let listed :=
    if startsWith tmp "fpidlist" then
      let (count, ids) := fpSecIfaaGetIdList ta prior.rsp prior.ids
      let copied := memscpy unwrappedLen ids ((getIdCount ta prior.rsp).toNat * 4)
      { received.put copied with stored := count }
    else received
  if startsWith tmp "fplastid" then
    let lastId := le32 (fpSecIfaaGetLastId ta prior.rsp)
    listed.put (memscpy unwrappedLen (lastId.getD · 0) 4)
  else listed

def output {rspLen : Nat} (prior : Prior rspLen) (outcome : QueryOutcome) : List UInt8 :=
  (List.range outcome.lenout).map fun i => outcome.written.getD i (prior.unwrapped i)

/-- Nothing is reported that was not written or has no room, no more ids are stored than fit, and
the answer does not depend on what was in memory. -/
structure QuerySafe (ta : TaState) (message : List UInt8) (unwrappedLen : Nat) : Prop where
  bounded : ∀ prior, (coemUnwrapKeysUnwrap ta message unwrappedLen prior).lenout ≤ unwrappedLen
  written : ∀ prior, (coemUnwrapKeysUnwrap ta message unwrappedLen prior).lenout ≤
    (coemUnwrapKeysUnwrap ta message unwrappedLen prior).written.length
  stored : ∀ prior,
    (coemUnwrapKeysUnwrap ta message unwrappedLen prior).stored ≤ 4 * maxNbrTemplates
  same : ∀ prior prior',
    output prior (coemUnwrapKeysUnwrap ta message unwrappedLen prior) =
      output prior' (coemUnwrapKeysUnwrap ta message unwrappedLen prior')

theorem memset_eq {n : Nat} (a b : Buf n) : memset a = memset b := by
  apply Buf.ext
  have hlen : a.bytes.length = b.bytes.length := by rw [a.size, b.size]
  simp only [memset, List.map_const', hlen]

@[simp] theorem memscpy_length (dstSize : Nat) (src : Nat → UInt8) (srcSize : Nat) :
    (memscpy dstSize src srcSize).length = min dstSize srcSize := by
  simp [memscpy]

theorem wordBytes_ne : wordBytes "fpidlist" ≠ wordBytes "fplastid" := by decide

variable {word : String} {message : List UInt8}

theorem startsWith_iff {buf : Nat → UInt8} :
    startsWith buf word = true ↔ (List.range 8).map buf = wordBytes word := by
  simp [startsWith]

theorem tmpWrapBuf_word (hlen : 8 ≤ message.length) (garbage : Nat → UInt8) :
    (List.range 8).map (tmpWrapBuf message garbage) = message.take 8 := by
  rw [← map_getD_range message hlen]
  apply List.map_congr_left
  intro i hi
  rw [List.mem_range] at hi
  exact if_pos (by unfold maxMsgLen; omega)

theorem startsWith_short (hlen : message.length < 8) (hword : (wordBytes word).getD 7 0 ≠ 0) :
    startsWith (tmpWrapBuf message fun _ => 0) word = false := by
  apply Bool.eq_false_iff.mpr
  intro hstarts
  rw [startsWith_iff] at hstarts
  rw [← hstarts] at hword
  apply hword
  show tmpWrapBuf message (fun _ => 0) 7 = 0
  exact if_neg (by omega)

section

variable {ta : TaState} {message : List UInt8} {unwrappedLen : Nat} {prior : Prior ta.rspLen}

theorem getIdCount_eq (ta : TaState) (a b : Buf ta.rspLen) : getIdCount ta a = getIdCount ta b := by
  rw [getIdCount, getIdCount, memset_eq a b]

theorem unwrap_fpidlist (h : startsWith (tmpWrapBuf message prior.tmpWrapBuf) "fpidlist" = true) :
    coemUnwrapKeysUnwrap ta message unwrappedLen prior =
      let (count, ids) := fpSecIfaaGetIdList ta prior.rsp prior.ids
      let copied := memscpy unwrappedLen ids ((getIdCount ta prior.rsp).toNat * 4)
      ⟨copied.length, copied, count⟩ := by
  have hother : startsWith (tmpWrapBuf message prior.tmpWrapBuf) "fplastid" = false := by
    apply Bool.eq_false_iff.mpr
    intro hlast
    exact wordBytes_ne ((startsWith_iff.mp h).symm.trans (startsWith_iff.mp hlast))
  simp [coemUnwrapKeysUnwrap, h, hother, QueryOutcome.put]

theorem unwrap_fplastid (h : startsWith (tmpWrapBuf message prior.tmpWrapBuf) "fplastid" = true) :
    coemUnwrapKeysUnwrap ta message unwrappedLen prior =
      let lastId := le32 (fpSecIfaaGetLastId ta prior.rsp)
      let copied := memscpy unwrappedLen (lastId.getD · 0) 4
      ⟨copied.length, copied, 0⟩ := by
  have hother : startsWith (tmpWrapBuf message prior.tmpWrapBuf) "fpidlist" = false := by
    apply Bool.eq_false_iff.mpr
    intro hlist
    exact wordBytes_ne ((startsWith_iff.mp hlist).symm.trans (startsWith_iff.mp h))
  simp [coemUnwrapKeysUnwrap, h, hother, QueryOutcome.put]

theorem unwrap_other (hlist : startsWith (tmpWrapBuf message prior.tmpWrapBuf) "fpidlist" = false)
    (hlast : startsWith (tmpWrapBuf message prior.tmpWrapBuf) "fplastid" = false) :
    coemUnwrapKeysUnwrap ta message unwrappedLen prior = ⟨min maxMsgLen message.length, [], 0⟩ := by
  simp [coemUnwrapKeysUnwrap, hlist, hlast]

theorem output_copied (copied : List UInt8) (stored : Nat) :
    output prior ⟨copied.length, copied, stored⟩ = copied := by
  apply List.ext_getElem
  · simp [output]
  · intro i h1 h2
    simp [output, List.getElem?_eq_getElem h2]

end

def enrolledCount (ta : TaState) : Nat := (getIdCount ta (Buf.ofList ta.rspLen [])).toNat

def storedBytes (ta : TaState) : Nat := enrolledCount ta * 4 % 4294967296

/-- The ids fit, and no more is copied than was stored. -/
def IdListFits (ta : TaState) (unwrappedLen : Nat) : Prop :=
  min unwrappedLen (enrolledCount ta * 4) ≤ storedBytes ta ∧ storedBytes ta ≤ 4 * maxNbrTemplates

section

variable {ta : TaState} {message : List UInt8} {unwrappedLen : Nat} {word : String}

theorem getIdCount_toNat (rsp : Buf ta.rspLen) : (getIdCount ta rsp).toNat = enrolledCount ta := by
  rw [enrolledCount, getIdCount_eq ta rsp]

theorem fpSecIfaaGetIdList_stored (rsp : Buf ta.rspLen) (ids : Nat → UInt8) :
    (fpSecIfaaGetIdList ta rsp ids).1 = storedBytes ta := by
  show (getIdCount ta rsp * 4).toNat = _
  rw [UInt32.toNat_mul, getIdCount_toNat]
  rfl

def idListCopied (ta : TaState) (unwrappedLen : Nat) (prior : Prior ta.rspLen) : List UInt8 :=
  memscpy unwrappedLen (fpSecIfaaGetIdList ta prior.rsp prior.ids).2 (enrolledCount ta * 4)

theorem unwrap_idListCopied {prior : Prior ta.rspLen}
    (h : startsWith (tmpWrapBuf message prior.tmpWrapBuf) "fpidlist" = true) :
    coemUnwrapKeysUnwrap ta message unwrappedLen prior =
      ⟨(idListCopied ta unwrappedLen prior).length, idListCopied ta unwrappedLen prior,
        storedBytes ta⟩ := by
  rw [unwrap_fpidlist h]
  simp only [idListCopied, fpSecIfaaGetIdList_stored, getIdCount_toNat]

theorem idListCopied_eq (hfits : IdListFits ta unwrappedLen) (prior prior' : Prior ta.rspLen) :
    idListCopied ta unwrappedLen prior = idListCopied ta unwrappedLen prior' := by
  apply List.map_congr_left
  intro i hi
  rw [List.mem_range] at hi
  have hstore : i < storedBytes ta := Nat.lt_of_lt_of_le hi hfits.1
  have hcount : ∀ rsp : Buf ta.rspLen, (getIdCount ta rsp * 4).toNat = storedBytes ta :=
    fun rsp => fpSecIfaaGetIdList_stored rsp fun _ => 0
  simp only [fpSecIfaaGetIdList, hcount, if_pos hstore, memset_eq prior.rsp prior'.rsp]

def Prior.ofStack (rspLen : Nat) (tmpWrapBuf ids : Nat → UInt8) : Prior rspLen :=
  ⟨tmpWrapBuf, ids, Buf.ofList rspLen [], fun _ => 0⟩

theorem idListCopied_leaks (tmp ids : Nat → UInt8)
    (h : storedBytes ta < min unwrappedLen (enrolledCount ta * 4)) :
    (idListCopied ta unwrappedLen (Prior.ofStack ta.rspLen tmp ids))[storedBytes ta]? =
      some (ids (storedBytes ta)) := by
  have hcount : (getIdCount ta (Buf.ofList ta.rspLen []) * 4).toNat = storedBytes ta :=
    fpSecIfaaGetIdList_stored _ fun _ => 0
  simp [idListCopied, memscpy, fpSecIfaaGetIdList, Prior.ofStack, hcount, h]

theorem querySafe_fpidlist_iff
    (h : ∀ garbage, startsWith (tmpWrapBuf message garbage) "fpidlist" = true) :
    QuerySafe ta message unwrappedLen ↔ IdListFits ta unwrappedLen := by
  constructor
  · intro hsafe
    constructor
    · by_contra hleak
      have hsame := hsafe.same (.ofStack _ (fun _ => 0) fun _ => 0)
        (.ofStack _ (fun _ => 0) fun _ => 1)
      rw [unwrap_idListCopied (h _), unwrap_idListCopied (h _), output_copied,
        output_copied] at hsame
      have hbyte := congrArg (·[storedBytes ta]?) hsame
      simp only [idListCopied_leaks _ _ (Nat.lt_of_not_le hleak)] at hbyte
      exact absurd hbyte (by decide)
    · have hstore := hsafe.stored (.ofStack _ (fun _ => 0) fun _ => 0)
      rw [unwrap_idListCopied (h _)] at hstore
      exact hstore
  · intro hfits
    constructor
    · intro prior
      rw [unwrap_idListCopied (h _)]
      simp [idListCopied]
    · intro prior
      rw [unwrap_idListCopied (h _)]
    · intro prior
      rw [unwrap_idListCopied (h _)]
      exact hfits.2
    · intro prior prior'
      rw [unwrap_idListCopied (h _), unwrap_idListCopied (h _), output_copied, output_copied]
      exact idListCopied_eq hfits prior prior'

theorem querySafe_fplastid
    (h : ∀ garbage, startsWith (tmpWrapBuf message garbage) "fplastid" = true) :
    QuerySafe ta message unwrappedLen := by
  constructor
  · intro prior
    rw [unwrap_fplastid (h _)]
    simp
  · intro prior
    rw [unwrap_fplastid (h _)]
  · intro prior
    rw [unwrap_fplastid (h _)]
    exact Nat.zero_le _
  · intro prior prior'
    rw [unwrap_fplastid (h _), unwrap_fplastid (h _), output_copied, output_copied]
    rw [fpSecIfaaGetLastId, fpSecIfaaGetLastId, memset_eq prior.rsp prior'.rsp]

theorem not_querySafe_other {garbage : Nat → UInt8}
    (hlist : startsWith (tmpWrapBuf message garbage) "fpidlist" = false)
    (hlast : startsWith (tmpWrapBuf message garbage) "fplastid" = false)
    (hmsg : message ≠ []) : ¬QuerySafe ta message unwrappedLen := by
  intro hsafe
  have hwritten := hsafe.written (.ofStack _ garbage fun _ => 0)
  have hlen := List.length_pos_of_ne_nil hmsg
  have hunwrap : coemUnwrapKeysUnwrap ta message unwrappedLen (.ofStack _ garbage fun _ => 0) =
      ⟨min maxMsgLen message.length, [], 0⟩ := unwrap_other hlist hlast
  rw [hunwrap, maxMsgLen] at hwritten
  simp only [List.length_nil] at hwritten
  omega

def wordOnStack (word : String) (i : Nat) : UInt8 := (wordBytes word).getD i 0

theorem startsWith_wordOnStack (hword : (wordBytes word).length = 8) (rspLen : Nat)
    (ids : Nat → UInt8) :
    startsWith (tmpWrapBuf [] (Prior.ofStack rspLen (wordOnStack word) ids).tmpWrapBuf) word =
      true := by
  rw [startsWith_iff]
  refine (map_getD_range (wordBytes word) (Nat.le_of_eq hword.symm)).trans ?_
  exact List.take_of_length_le (Nat.le_of_eq hword)

theorem unwrap_nil (prior : Prior ta.rspLen) : (coemUnwrapKeysUnwrap ta [] 0 prior).lenout = 0 ∧
    (coemUnwrapKeysUnwrap ta [] 0 prior).stored ≤ storedBytes ta := by
  cases hlist : startsWith (tmpWrapBuf [] prior.tmpWrapBuf) "fpidlist" with
  | true =>
    rw [unwrap_idListCopied hlist]
    exact ⟨by simp [idListCopied], Nat.le_refl _⟩
  | false =>
    cases hlast : startsWith (tmpWrapBuf [] prior.tmpWrapBuf) "fplastid" with
    | true =>
      rw [unwrap_fplastid hlast]
      exact ⟨by simp, Nat.zero_le _⟩
    | false =>
      rw [unwrap_other hlist hlast]
      exact ⟨Nat.min_zero _, Nat.zero_le _⟩

theorem querySafe_nil_iff :
    QuerySafe ta [] unwrappedLen ↔ unwrappedLen = 0 ∧ storedBytes ta ≤ 4 * maxNbrTemplates := by
  constructor
  · intro hsafe
    constructor
    · have hsame := hsafe.same (.ofStack _ (fun _ => 0) fun _ => 0)
        (.ofStack _ (wordOnStack "fplastid") fun _ => 0)
      have hcleared : coemUnwrapKeysUnwrap ta [] unwrappedLen
          (.ofStack _ (fun _ => 0) fun _ => 0) = ⟨min maxMsgLen 0, [], 0⟩ :=
        unwrap_other (startsWith_short (by decide) (by decide))
          (startsWith_short (by decide) (by decide))
      rw [hcleared, unwrap_fplastid (startsWith_wordOnStack (by decide) _ _)] at hsame
      have hlen := congrArg List.length hsame
      simp only [output, memscpy_length, List.length_map, List.length_range] at hlen
      omega
    · have hstore := hsafe.stored (.ofStack _ (wordOnStack "fpidlist") fun _ => 0)
      exact hstore
  · rintro ⟨rfl, hstore⟩
    have hnone : ∀ prior, output prior (coemUnwrapKeysUnwrap ta [] 0 prior) = [] := by
      intro prior
      rw [output, (unwrap_nil prior).1]
      rfl
    constructor
    · exact fun prior => Nat.le_of_eq (unwrap_nil prior).1
    · intro prior
      rw [(unwrap_nil prior).1]
      exact Nat.zero_le _
    · exact fun prior => Nat.le_trans (unwrap_nil prior).2 hstore
    · intro prior prior'
      rw [hnone, hnone]

theorem startsWith_eq_true (hword : (wordBytes word).length = 8) (h : wordBytes word <+: message)
    (garbage : Nat → UInt8) : startsWith (tmpWrapBuf message garbage) word = true := by
  have hlen := h.length_le
  rw [startsWith_iff, tmpWrapBuf_word (by omega), ← hword]
  exact (List.prefix_iff_eq_take.mp h).symm

theorem startsWith_eq_false (hlen : 8 ≤ message.length) (h : ¬wordBytes word <+: message)
    (garbage : Nat → UInt8) : startsWith (tmpWrapBuf message garbage) word = false := by
  apply Bool.eq_false_iff.mpr
  intro hstarts
  rw [startsWith_iff, tmpWrapBuf_word hlen] at hstarts
  exact h (hstarts ▸ List.take_prefix 8 message)

end

/-- Which queries leak nothing. -/
theorem querySafe_iff (ta : TaState) (message : List UInt8) (unwrappedLen : Nat) :
    QuerySafe ta message unwrappedLen ↔ wordBytes "fplastid" <+: message ∨
      wordBytes "fpidlist" <+: message ∧ IdListFits ta unwrappedLen ∨
      message = [] ∧ unwrappedLen = 0 ∧ storedBytes ta ≤ 4 * maxNbrTemplates := by
  by_cases hlast : wordBytes "fplastid" <+: message
  · exact ⟨fun _ => .inl hlast,
      fun _ => querySafe_fplastid (startsWith_eq_true (by decide) hlast)⟩
  by_cases hlist : wordBytes "fpidlist" <+: message
  · have hne : message ≠ [] := by
      rintro rfl
      exact absurd hlist (by decide)
    rw [querySafe_fpidlist_iff (startsWith_eq_true (by decide) hlist)]
    simp [hlast, hlist, hne]
  by_cases hnil : message = []
  · subst hnil
    rw [querySafe_nil_iff]
    simp [hlast, hlist]
  · -- a message that is too short for a word is not taken for one if the stack is clear
    have hnotSafe : ¬QuerySafe ta message unwrappedLen := by
      by_cases hlen : 8 ≤ message.length
      · exact not_querySafe_other (startsWith_eq_false hlen hlist fun _ => 0)
          (startsWith_eq_false hlen hlast _) hnil
      · exact not_querySafe_other (startsWith_short (by omega) (by decide))
          (startsWith_short (by omega) (by decide)) hnil
    simp [hnotSafe, hlast, hlist, hnil]

def reportingTa (count : UInt32) : TaState where
  rspLen := 28
  process _ _ := Buf.ofList 28 (List.replicate 24 0 ++ le32 count)

theorem querySafe_fails :
    (coemUnwrapKeysUnwrap (reportingTa 0) [112] 0 (.ofStack 28 (fun _ => 0) fun _ => 0)).lenout =
      1 ∧
    (coemUnwrapKeysUnwrap (reportingTa 6) (wordBytes "fpidlist") 64
      (.ofStack 28 (fun _ => 0) fun _ => 0)).stored = 24 ∧
    (let prior := Prior.ofStack 28 (fun _ => 0) fun _ => 77
     output prior (coemUnwrapKeysUnwrap (reportingTa 1073741824) (wordBytes "fpidlist") 4 prior) =
      [77, 77, 77, 77]) ∧
    (let prior := Prior.ofStack 28 (wordOnStack "fpidlist") fun _ => 0
     output prior (coemUnwrapKeysUnwrap (reportingTa 1) (wordBytes "fpid") 64 prior) =
      [0, 0, 0, 0]) ∧
    ¬QuerySafe (reportingTa 0) [112] 0 ∧
    ¬QuerySafe (reportingTa 6) (wordBytes "fpidlist") 64 ∧
    ¬QuerySafe (reportingTa 1073741824) (wordBytes "fpidlist") 4 := by
  refine ⟨by decide +kernel, by decide +kernel, by decide +kernel, by decide +kernel, fun h => ?_,
    fun h => ?_, fun h => ?_⟩
  · exact absurd (h.bounded (.ofStack 28 (fun _ => 0) fun _ => 0)) (by decide +kernel)
  · exact absurd (h.stored (.ofStack 28 (fun _ => 0) fun _ => 0)) (by decide +kernel)
  · exact absurd (h.same (.ofStack 28 (fun _ => 0) fun _ => 0)
      (.ofStack 28 (fun _ => 0) fun _ => 77)) (by decide +kernel)

end WikoPlatform.Qsee
