import WikoPlatform.Chipone.CommandBuffer
import WikoPlatform.Lib.Peek

/-! The response buffer of `fpTaCmdProcessor`: `getRsp` copies a response over the last one, and the
decoders read structures without asking how long the response was. -/

namespace WikoPlatform.Chipone

open Runs Layout Peek

def fingerMaxCount : Nat := 5
def versionBufferLen : Nat := 32
def algNameLen : Nat := 64
def word16 : Member := ⟨2, 2, by decide⟩
def words32 (n : Nat) : Member := ⟨4 * n, 4, word32.align_pos⟩

/-! ### The structures of the responses -/

def fpRspNoPayload : List Member := [word32]
def fpRspCaptureImg : List Member := [word32, word32, word32, word32, bytes 1]
def fpRspEnrollImg : List Member := [word32, word32, word32, word32, word32, word32]
def fpRspPreEnroll : List Member := [word32, word64]
def fpRspGetDatabaseId : List Member := [word32, word64]
def fpRspAuthenticate : List Member := [word32, word32, word32, word32, bytes 1]
def fpRspEndAuthenticate : List Member := [word32, word32, word32, word32, word32, word32]
def fpRspOnePar : List Member := [word32, word32]
def fpRspByteArray : List Member := [word32, word32, word32, bytes 0]
def fpRspCheckFingerPresent : List Member := [word32, word16]
def fpRspGetEnrolFids : List Member := [word32, words32 fingerMaxCount, word32]
def fpRspRelCoords : List Member := [word32, word32, word32, word32]
def fpRspGetImageQuality : List Member := [word32, word32, word32, word32]
def fpRspGetTemplateIds : List Member := [word32, word32, word32]
def fpRspGetSubRectCnt : List Member := [word32, word32]
def fpRspGetSubRect : List Member := [word32, words32 12]
def fpRspGetImageDimention : List Member := [word32, word32, word32]
def fpRspReadReg : List Member := [word32, word32]
def fpRspGetVersion : List Member :=
  [word32, bytes versionBufferLen, bytes versionBufferLen, bytes versionBufferLen]
def fpRspTeeInfo : List Member :=
  [word32, word32, word32, word32, word32, word32, bytes algNameLen]

def fpRspSize : Nat :=
  unionSize [fpRspNoPayload, fpRspCaptureImg, fpRspPreEnroll, fpRspAuthenticate, fpRspEnrollImg,
    fpRspCheckFingerPresent, fpRspGetEnrolFids, fpRspRelCoords, fpRspGetImageQuality,
    fpRspGetTemplateIds, fpRspGetSubRectCnt, fpRspGetSubRect, fpRspGetImageDimention,
    fpRspGetVersion, fpRspGetDatabaseId, fpRspReadReg, fpRspTeeInfo, fpRspByteArray, fpRspOnePar,
    [bytes (64 * 1024)]]

/-- A variable of the caller, an array of the caller with that much room, or the image file. -/
inductive RspOut where
  | value (n : Int)
  | copy (room : Nat) (bytes : List UInt8)
  | saved (bytes : List UInt8)
  deriving DecidableEq

/-- What a decoder returns, and what it hands out. -/
structure Processed where
  ret : Int
  out : List RspOut
  deriving DecidableEq

def RspOut.Fits : RspOut → Prop
  | .copy room bytes => bytes.length ≤ room
  | _ => True

instance RspOut.Fits.decidable (out : RspOut) : Decidable out.Fits := by
  unfold RspOut.Fits
  split <;> infer_instance

def Processed.Fits (processed : Processed) : Prop := ∀ out ∈ processed.out, out.Fits

instance Processed.Fits.decidable (processed : Processed) : Decidable processed.Fits :=
  inferInstanceAs (Decidable (∀ out ∈ processed.out, out.Fits))

def littleEndian (bytes : List UInt8) : Nat := bytes.foldr (fun b n => b.toNat + 256 * n) 0

def member (members : List Member) (i : Nat) : Prog (List UInt8) :=
  let place := (places members).getD i (0, 0)
  .read place.1 place.2 .done

def memberUInt (members : List Member) (i : Nat) : Prog Int := do
  return littleEndian (← member members i)

def memberInt (members : List Member) (i : Nat) : Prog Int := do
  let bytes ← member members i
  return (littleEndian bytes : Int).bmod (256 ^ bytes.length)

/-! ### The decoders -/

def processNoPayloadRsp : Prog Processed := return ⟨0, []⟩

def processOneParRsp : Prog Processed := do
  let par ← memberUInt fpRspOnePar 1
  return ⟨0, [.value par]⟩

/-- `*buff` points into the buffer, and is its offset here. -/
def processGetByteArrayRsp : Prog Processed := do
  let arrayLen ← memberUInt fpRspByteArray 2
  let remain ← memberUInt fpRspByteArray 1
  return ⟨0, [.value (offsetOf fpRspByteArray 3), .value arrayLen, .value remain]⟩

def imgBuf (imgWidth imgHeight : Int) : Prog (List UInt8) :=
  .read (offsetOf fpRspCaptureImg 4) (sizeT (int32 (imgWidth * imgHeight))) .done

/-- The first four bytes of the image are logged. -/
def processCaptureImgRsp (storeCapturedImg opened : Bool) : Prog Processed := do
  let captureResult ← memberInt fpRspCaptureImg 1
  if captureResult = 0 ∧ storeCapturedImg then
    let imgWidth ← memberInt fpRspCaptureImg 2
    let imgHeight ← memberInt fpRspCaptureImg 3
    let file ← if opened then do
        let img ← imgBuf imgWidth imgHeight
        pure [.value imgWidth, .value imgHeight, .saved img]
      else pure []
    let _ ← .read (offsetOf fpRspCaptureImg 4) 4 .done
    return ⟨captureResult, file⟩
  else return ⟨captureResult, []⟩

def processCaptureImgToolRsp (room : Nat) : Prog Processed := do
  let captureResult ← memberInt fpRspCaptureImg 1
  if captureResult = 0 then
    let imgWidth ← memberInt fpRspCaptureImg 2
    let imgHeight ← memberInt fpRspCaptureImg 3
    let img ← imgBuf imgWidth imgHeight
    return ⟨captureResult, [.value imgWidth, .value imgHeight, .copy room img]⟩
  else return ⟨captureResult, []⟩

inductive FingerPresentMode where
  | checkFingerDown | checkNavDown | checkFingerUp | other
  deriving DecidableEq

def captureFingerDownThreshold : Int := 6
def navFingerDownThreshold : Int := 1

def processCheckFingerPresentRsp (mode : FingerPresentMode) : Prog Processed := do
  let fpPresetSum ← memberInt fpRspCheckFingerPresent 1
  let ret := match mode with
    | .checkFingerDown => if fpPresetSum ≤ captureFingerDownThreshold then -eagain else 0
    | .checkNavDown => if fpPresetSum ≤ navFingerDownThreshold then -eagain else 0
    | .checkFingerUp => if 0 ≠ fpPresetSum then -eagain else 0
    | .other => -eio
  return ⟨ret, []⟩

def processEnrollImgRsp : Prog Processed := do
  let lastProgress ← memberInt fpRspEnrollImg 1
  let totalEnrollCnt ← memberInt fpRspEnrollImg 2
  let curEnrollCnt ← memberInt fpRspEnrollImg 3
  let enrollFailReason ← memberInt fpRspEnrollImg 4
  let fillPart ← memberInt fpRspEnrollImg 5
  return ⟨0, [.value lastProgress, .value totalEnrollCnt, .value curEnrollCnt,
    .value enrollFailReason, .value fillPart]⟩

/-- The response says how many bytes go into the token. -/
def processAuthenticateRsp : Prog Processed := do
  let matchResult ← memberInt fpRspAuthenticate 1
  let matchFid ← memberInt fpRspAuthenticate 2
  let hatSize ← memberUInt fpRspAuthenticate 3
  let hat ← .read (offsetOf fpRspAuthenticate 4) hatSize.toNat .done
  return ⟨0, [.value matchResult, .value matchFid, .copy hwAuthTokenSize hat]⟩

def processEndAuthenticateRsp : Prog Processed := do
  let updateFlag ← memberInt fpRspEndAuthenticate 1
  let matchScore ← memberInt fpRspEndAuthenticate 4
  let matchFid ← memberUInt fpRspEndAuthenticate 2
  let matchTpltLen ← memberUInt fpRspEndAuthenticate 3
  return ⟨0, [.value updateFlag, .value matchScore, .value matchFid, .value matchTpltLen]⟩

def processPreEnrollRsp : Prog Processed := do
  let challenge ← memberUInt fpRspPreEnroll 1
  return ⟨0, [.value challenge]⟩

def processGetAuthenticatorIdRsp : Prog Processed := do
  let tplDataBaseId ← memberUInt fpRspGetDatabaseId 1
  return ⟨0, [.value tplDataBaseId]⟩

/-- A capacity other than `FINGER_MAX_COUNT` is only logged. -/
def processGetEnrolledFidsRsp (iArrayCap : Int) : Prog Processed := do
  let fids ← member fpRspGetEnrolFids 1
  let fidCnt ← memberInt fpRspGetEnrolFids 2
  return ⟨0, [.copy (4 * iArrayCap).toNat fids, .value fidCnt]⟩

def processGetRelCoordsRsp : Prog Processed := do
  let res ← memberInt fpRspRelCoords 1
  let deltaX ← memberInt fpRspRelCoords 2
  let deltaY ← memberInt fpRspRelCoords 3
  return ⟨0, [.value res, .value deltaX, .value deltaY]⟩

def processGetFingerRectCntRsp : Prog Processed := do
  let count ← memberInt fpRspGetSubRectCnt 1
  return ⟨0, [.value count]⟩

def processGetImageQualityRsp : Prog Processed := do
  let area ← memberInt fpRspGetImageQuality 1
  let condition ← memberInt fpRspGetImageQuality 3
  let quality ← memberInt fpRspGetImageQuality 2
  return ⟨0, [.value area, .value condition, .value quality]⟩

def processReadRegRsp : Prog Processed := do
  let reg ← memberInt fpRspReadReg 1
  return ⟨0, [.value reg]⟩

def processGetFingerRectRsp (room : Nat) : Prog Processed := do
  let rect ← member fpRspGetSubRect 1
  return ⟨0, [.copy room rect]⟩

/-- `Ids` has one element, and 62 are copied. -/
def processGetTemplateIdsRsp (room : Nat) : Prog Processed := do
  let cntTemplate ← memberInt fpRspGetTemplateIds 1
  let ids ← .read (offsetOf fpRspGetTemplateIds 2) (62 * 4) .done
  return ⟨0, [.value cntTemplate, .copy room ids]⟩

def processGetImgFormatRsp : Prog Processed := do
  let width ← memberInt fpRspGetImageDimention 1
  let height ← memberInt fpRspGetImageDimention 2
  return ⟨0, [.value width, .value height]⟩

/-- The destination is given by its room. -/
def strcpy (string : List UInt8) : Option Nat → List RspOut
  | some room => [.copy room (string ++ [0])]
  | none => []

def processGetVersionRsp (taVer driverVer algoVer : Option Nat) : Prog Processed := do
  let taVersion ← .readString (offsetOf fpRspGetVersion 1) .done
  let driverVersion ← .readString (offsetOf fpRspGetVersion 2) .done
  let algoVersion ← .readString (offsetOf fpRspGetVersion 3) .done
  return ⟨0, strcpy taVersion taVer ++ strcpy driverVersion driverVer ++
    strcpy algoVersion algoVer⟩

def processGetTeeInfoRsp : Prog Processed := do
  let sensorRevision ← memberUInt fpRspTeeInfo 1
  let sensorHwId ← memberUInt fpRspTeeInfo 2
  let _ ← member fpRspTeeInfo 3
  let _ ← member fpRspTeeInfo 4
  let _ ← member fpRspTeeInfo 5
  let _ ← .readString (offsetOf fpRspTeeInfo 6) .done
  return ⟨0, [.value sensorRevision, .value sensorHwId]⟩

/-- A decoder with what its caller passes: the room of arrays in bytes, and null as none. -/
inductive RspDecoder where
  | noPayload | onePar | getByteArray
  | captureImg (storeCapturedImg opened : Bool)
  | captureImgTool (room : Nat)
  | checkFingerPresent (mode : FingerPresentMode)
  | enrollImg | authenticate | endAuthenticate | preEnroll | getAuthenticatorId
  | getEnrolledFids (iArrayCap : Int)
  | getRelCoords | getFingerRectCnt | getImageQuality | readReg
  | getFingerRect (room : Nat)
  | getTemplateIds (room : Nat)
  | getImgFormat
  | getVersion (taVer driverVer algoVer : Option Nat)
  | getTeeInfo
  deriving DecidableEq

def RspDecoder.process : RspDecoder → Prog Processed
  | .noPayload => processNoPayloadRsp
  | .onePar => processOneParRsp
  | .getByteArray => processGetByteArrayRsp
  | .captureImg storeCapturedImg opened => processCaptureImgRsp storeCapturedImg opened
  | .captureImgTool room => processCaptureImgToolRsp room
  | .checkFingerPresent mode => processCheckFingerPresentRsp mode
  | .enrollImg => processEnrollImgRsp
  | .authenticate => processAuthenticateRsp
  | .endAuthenticate => processEndAuthenticateRsp
  | .preEnroll => processPreEnrollRsp
  | .getAuthenticatorId => processGetAuthenticatorIdRsp
  | .getEnrolledFids iArrayCap => processGetEnrolledFidsRsp iArrayCap
  | .getRelCoords => processGetRelCoordsRsp
  | .getFingerRectCnt => processGetFingerRectCntRsp
  | .getImageQuality => processGetImageQualityRsp
  | .readReg => processReadRegRsp
  | .getFingerRect room => processGetFingerRectRsp room
  | .getTemplateIds room => processGetTemplateIdsRsp room
  | .getImgFormat => processGetImgFormatRsp
  | .getVersion taVer driverVer algoVer => processGetVersionRsp taVer driverVer algoVer
  | .getTeeInfo => processGetTeeInfoRsp

structure Rsp where
  rspLen : Int32
  bytes : List UInt8
  length_eq : bytes.length = rspLen.toInt.toNat

def Rsp.ofBytes (bytes : List UInt8) (h : bytes.length < 2 ^ 31) : Rsp where
  rspLen := Int32.ofNat bytes.length
  bytes
  length_eq := by
    rw [Int32.toInt_ofNat_of_lt h]
    exact (Int.toNat_natCast _).symm

def Rsp.memory (rsp : Rsp) : Memory := ⟨rsp.bytes.length, fun i => rsp.bytes.getD i 0⟩

structure RspProcessor where
  pRspBuffer : Option Memory
  mRealRspBufferLen : Int
  mRspLen : Int

structure RspReceived where
  ret : Int
  writes : List (Nat × Nat)
  processor : RspProcessor

namespace RspProcessor

/-- `fresh` is what a new block holds, if there is memory. -/
def alloc (p : RspProcessor) (fresh : Option (Nat → UInt8)) (iLen : Int) : Int × RspProcessor :=
  match fresh.filter fun _ => sizeT iLen < 2 ^ 63 with
  | some byte => (0, { p with pRspBuffer := some ⟨sizeT iLen, byte⟩, mRealRspBufferLen := iLen })
  | none => (-enomem, { p with pRspBuffer := none })

def checkAndAllocRspBuffer (p : RspProcessor) (fresh : Option (Nat → UInt8)) (iLen : Int) :
    Int × RspProcessor :=
  match p.pRspBuffer with
  | none => p.alloc fresh iLen
  | some _ => if p.mRealRspBufferLen < iLen then p.alloc fresh iLen else (0, p)

def new (fresh : Option (Nat → UInt8)) : RspProcessor :=
  (checkAndAllocRspBuffer ⟨none, 0, 0⟩ fresh fpRspSize).2

def memcpy (block : Memory) (rsp : Rsp) : Memory :=
  { block with
    byte := fun i => if i < sizeT rsp.rspLen.toInt then rsp.bytes.getD i 0 else block.byte i }

def getRsp (p : RspProcessor) (fresh : Option (Nat → UInt8)) (rsp : Rsp) : RspReceived :=
  match p.checkAndAllocRspBuffer fresh rsp.rspLen.toInt with
  | (ret, p) =>
    if ret ≠ 0 then ⟨-eio, [], p⟩
    else
      ⟨0, [(0, sizeT rsp.rspLen.toInt)],
        { p with pRspBuffer := p.pRspBuffer.map (memcpy · rsp), mRspLen := rsp.rspLen.toInt }⟩

/-- There is nothing at null. -/
def memory (p : RspProcessor) (behind : Memory) : Memory :=
  match p.pRspBuffer with
  | none => ⟨0, fun _ => 0⟩
  | some block => block.append behind

end RspProcessor

inductive RspExchange where
  | unsent
  | answered (rsp : Rsp) (fresh : Option (Nat → UInt8))

/-- What `getRsp` returns is not looked at. -/
def RspProcessor.step (p : RspProcessor) : RspExchange → List RspReceived × RspProcessor
  | .unsent => ([], p)
  | .answered rsp fresh => ([p.getRsp fresh rsp], (p.getRsp fresh rsp).processor)

/-- Earlier responses, and what lies behind the block. -/
structure RspHistory where
  start : Option (Nat → UInt8)
  exchanges : List RspExchange
  fresh : Option (Nat → UInt8)
  behind : Memory

namespace RspHistory

def processor (history : RspHistory) : RspProcessor :=
  (run RspProcessor.step (.new history.start) history.exchanges).2

def receive (history : RspHistory) (last : Rsp) : RspReceived :=
  history.processor.getRsp history.fresh last

def Stores (history : RspHistory) (last : Rsp) : Prop := (history.receive last).ret = 0

def decode (history : RspHistory) (last : Rsp) (decoder : RspDecoder) :
    Option Processed × List (Nat × Nat) :=
  decoder.process.exec ((history.receive last).processor.memory history.behind)

structure InBounds (history : RspHistory) (last : Rsp) (decoder : RspDecoder) : Prop where
  writes : ∀ block, (history.receive last).processor.pRspBuffer = some block →
    ∀ w ∈ (history.receive last).writes, w.1 + w.2 ≤ block.size
  reads : ∀ r ∈ (history.decode last decoder).2, (r.1 + r.2 : Nat) ≤ last.rspLen.toInt
  fits : ∀ processed, (history.decode last decoder).1 = some processed → processed.Fits

end RspHistory

/-- Whatever lies around, the result is the same and in bounds. -/
def RspDecoder.ResidueFree (decoder : RspDecoder) (last : Rsp) : Prop :=
  ∀ first second : RspHistory, first.Stores last → second.Stores last →
    (first.decode last decoder).1 = (second.decode last decoder).1 ∧ first.InBounds last decoder

/-- The response has all that is read, and the caller the room. -/
def Rsp.Covers (last : Rsp) (decoder : RspDecoder) : Prop :=
  0 ≤ last.rspLen.toInt ∧
    (decoder.process.exec last.memory).1.any (fun processed => processed.Fits) = true

instance (last : Rsp) (decoder : RspDecoder) : Decidable (last.Covers decoder) :=
  inferInstanceAs (Decidable (_ ∧ _))

def RspProcessor.Sized (p : RspProcessor) : Prop :=
  ∀ block, p.pRspBuffer = some block → p.mRealRspBufferLen = block.size

namespace RspProcessor

variable {p : RspProcessor} {iLen : Int}

theorem alloc_spec (p : RspProcessor) (fresh : Option (Nat → UInt8)) (hge : -2 ^ 31 ≤ iLen)
    (hlt : iLen < 2 ^ 31) : (p.alloc fresh iLen).2.Sized ∧ ((p.alloc fresh iLen).1 = 0 →
        ∃ block, (p.alloc fresh iLen).2.pRspBuffer = some block ∧ iLen ≤ block.size) := by
  unfold alloc
  cases hfresh : fresh.filter fun _ => sizeT iLen < 2 ^ 63 with
  | none => exact ⟨by rintro _ ⟨⟩, by simp [enomem]⟩
  | some byte =>
    have hmax : sizeT iLen < 2 ^ 63 := by simpa using (Option.filter_eq_some_iff.mp hfresh).2
    have hsize : (sizeT iLen : Int) = iLen := by
      unfold sizeT at hmax ⊢
      omega
    refine ⟨?_, fun _ => ⟨_, rfl, Int.le_of_eq hsize.symm⟩⟩
    rintro _ ⟨⟩
    exact hsize.symm

theorem checkAndAllocRspBuffer_spec (fresh : Option (Nat → UInt8)) (hp : p.Sized)
    (hge : -2 ^ 31 ≤ iLen) (hlt : iLen < 2 ^ 31) : (p.checkAndAllocRspBuffer fresh iLen).2.Sized ∧
      ((p.checkAndAllocRspBuffer fresh iLen).1 = 0 →
        ∃ block, (p.checkAndAllocRspBuffer fresh iLen).2.pRspBuffer = some block ∧
          iLen ≤ block.size) := by
  unfold checkAndAllocRspBuffer
  cases hbuf : p.pRspBuffer with
  | none => exact alloc_spec p fresh hge hlt
  | some old =>
    have hreal := hp old hbuf
    split_ifs with hgrow
    · exact alloc_spec p fresh hge hlt
    · exact ⟨hp, fun _ => ⟨old, hbuf, by omega⟩⟩

theorem new_sized (fresh : Option (Nat → UInt8)) : (new fresh).Sized := by
  refine (checkAndAllocRspBuffer_spec fresh ?_ (by decide) (by decide)).1
  rintro _ ⟨⟩

@[simp] theorem memcpy_size (block : Memory) (rsp : Rsp) : (memcpy block rsp).size = block.size :=
  rfl

theorem getRsp_spec (fresh : Option (Nat → UInt8)) (rsp : Rsp) (hp : p.Sized) :
    (p.getRsp fresh rsp).processor.Sized ∧ ((p.getRsp fresh rsp).ret = 0 →
        (p.getRsp fresh rsp).writes = [(0, sizeT rsp.rspLen.toInt)] ∧
        ∃ block : Memory, rsp.rspLen.toInt ≤ block.size ∧
          (p.getRsp fresh rsp).processor.pRspBuffer = some (memcpy block rsp)) := by
  obtain ⟨hsized, hspec⟩ :=
    checkAndAllocRspBuffer_spec fresh hp rsp.rspLen.le_toInt rsp.rspLen.toInt_lt
  unfold getRsp
  split
  next ret p' hcheck =>
    rw [hcheck] at hsized hspec
    split_ifs with hret
    · exact ⟨hsized, by simp [eio]⟩
    · obtain ⟨block, hbuf, hlen⟩ := hspec (by simpa using hret)
      simp only at hbuf
      refine ⟨?_, fun _ => ⟨rfl, block, hlen, by simp [hbuf]⟩⟩
      intro block' hblock'
      rw [hbuf] at hblock'
      obtain rfl := Option.some.inj hblock'
      exact hsized block hbuf

theorem step_sized (p : RspProcessor) (exchange : RspExchange) (hp : p.Sized) :
    (p.step exchange).2.Sized := by
  cases exchange with
  | unsent => exact hp
  | answered rsp fresh => exact (getRsp_spec fresh rsp hp).1

end RspProcessor

namespace RspHistory

variable {history : RspHistory} {last : Rsp} {decoder : RspDecoder}

theorem processor_sized (history : RspHistory) : history.processor.Sized :=
  run_invariant_state RspProcessor.step_sized (RspProcessor.new_sized history.start) _

theorem agree_of_stores (hpos : 0 ≤ last.rspLen.toInt) (h : history.Stores last) :
    Memory.Agree last.bytes.length last.memory
      ((history.receive last).processor.memory history.behind) := by
  obtain ⟨-, block, hlen, hbuf⟩ :=
    (RspProcessor.getRsp_spec history.fresh last history.processor_sized).2 h
  have hbytes := last.length_eq
  have hsize : (sizeT last.rspLen.toInt : Int) = last.rspLen.toInt :=
    CmdProcessor.sizeT_of_nonneg hpos last.rspLen.toInt_lt
  have hcopied : Memory.Agree last.bytes.length last.memory (RspProcessor.memcpy block last) := by
    refine ⟨Nat.le_refl _, ?_, fun i hi => ?_⟩
    · rw [RspProcessor.memcpy_size]
      omega
    · exact (if_pos (by omega)).symm
  have hmemory : (history.receive last).processor.memory history.behind =
      (RspProcessor.memcpy block last).append history.behind := by
    rw [RspProcessor.memory, receive, hbuf]
  rw [hmemory]
  exact hcopied.append history.behind

theorem decode_of_covers (hcovers : last.Covers decoder) (h : history.Stores last) :
    history.decode last decoder = decoder.process.exec last.memory := by
  obtain ⟨processed, hprocessed, -⟩ := (Option.any_eq_true _ _).mp hcovers.2
  have hinside := Prog.exec_inside decoder.process hprocessed
  exact (Prog.exec_congr (agree_of_stores hcovers.1 h) decoder.process hinside).symm

theorem inBounds_of_covers (hcovers : last.Covers decoder) (h : history.Stores last) :
    history.InBounds last decoder := by
  obtain ⟨processed, hprocessed, hfits⟩ := (Option.any_eq_true _ _).mp hcovers.2
  have hinside := Prog.exec_inside decoder.process hprocessed
  have hdecode := decode_of_covers hcovers h
  have hbytes := last.length_eq
  have hpos := hcovers.1
  refine ⟨fun block hblock w hw => ?_, fun r hr => ?_, fun processed' hprocessed' => ?_⟩
  · obtain ⟨hwrites, block', hlen, hbuf⟩ :=
      (RspProcessor.getRsp_spec history.fresh last history.processor_sized).2 h
    have hsize := CmdProcessor.sizeT_of_nonneg hpos last.rspLen.toInt_lt
    have hsame : RspProcessor.memcpy block' last = block :=
      Option.some.inj (hbuf.symm.trans hblock)
    have hw' : w = (0, sizeT last.rspLen.toInt) := by
      rw [receive, hwrites] at hw
      exact List.mem_singleton.mp hw
    subst hsame hw'
    simp only [RspProcessor.memcpy]
    omega
  · rw [hdecode] at hr
    have hread : r.1 + r.2 ≤ last.bytes.length := hinside r hr
    omega
  · rw [hdecode, hprocessed] at hprocessed'
    obtain rfl := Option.some.inj hprocessed'
    exact of_decide_eq_true hfits

def blank : RspHistory := ⟨some fun _ => 0, [], some fun _ => 0, ⟨0, fun _ => 0⟩⟩

theorem blank_check (iLen : Int) : blank.processor.checkAndAllocRspBuffer blank.fresh iLen =
    if (fpRspSize : Int) < iLen then blank.processor.alloc blank.fresh iLen
    else (0, blank.processor) := rfl

theorem blank_stores (last : Rsp) : blank.Stores last := by
  have hlt := last.rspLen.toInt_lt
  have hcheck : (blank.processor.checkAndAllocRspBuffer blank.fresh last.rspLen.toInt).1 = 0 := by
    rw [blank_check]
    split_ifs with hgrow
    · have hsize : sizeT last.rspLen.toInt < 2 ^ 63 := by
        unfold sizeT
        omega
      rw [RspProcessor.alloc, blank, Option.filter_some, if_pos (decide_eq_true hsize)]
    · rfl
  simp [Stores, receive, RspProcessor.getRsp, hcheck]

theorem nonneg_of_blank_inBounds (h : blank.InBounds last decoder) : 0 ≤ last.rspLen.toInt := by
  by_contra hneg
  have hge := last.rspLen.le_toInt
  have hmax : (fpRspSize : Int) = 65536 := by decide
  have hreceive : blank.receive last =
      ⟨0, [(0, sizeT last.rspLen.toInt)],
        { blank.processor with
          pRspBuffer := blank.processor.pRspBuffer.map (RspProcessor.memcpy · last)
          mRspLen := last.rspLen.toInt }⟩ := by
    rw [receive, RspProcessor.getRsp, blank_check, if_neg (by omega)]
    rfl
  have hwrite := h.writes (RspProcessor.memcpy ⟨sizeT fpRspSize, fun _ => 0⟩ last)
  rw [hreceive] at hwrite
  have hinside := hwrite rfl _ (List.mem_singleton_self _)
  rw [RspProcessor.memcpy_size] at hinside
  unfold sizeT at hinside
  simp only at hinside
  omega

theorem covers_of_blank_inBounds (h : blank.InBounds last decoder) : last.Covers decoder := by
  have hpos := nonneg_of_blank_inBounds h
  have hbytes := last.length_eq
  have hreads : ∀ r ∈ (blank.decode last decoder).2, r.1 + r.2 ≤ last.bytes.length := by
    intro r hr
    have := h.reads r hr
    omega
  have hsame : blank.decode last decoder = decoder.process.exec last.memory :=
    Prog.exec_congr (agree_of_stores hpos (blank_stores last)).symm decoder.process hreads
  rw [hsame] at hreads
  obtain ⟨processed, hprocessed⟩ := Prog.exec_isSome decoder.process hreads
  have hfits := h.fits processed (by rw [hsame, hprocessed])
  exact ⟨hpos, (Option.any_eq_true _ _).mpr ⟨processed, hprocessed, decide_eq_true hfits⟩⟩

end RspHistory

theorem RspDecoder.ResidueFree.covers {decoder : RspDecoder} {last : Rsp}
    (h : decoder.ResidueFree last) : last.Covers decoder := by
  have hblank := RspHistory.blank_stores last
  exact RspHistory.covers_of_blank_inBounds (h .blank .blank hblank hblank).2

def matchRsp : Rsp :=
  .ofBytes [17, 0, 0, 128, 1, 0, 0, 0, 7, 0, 0, 0, 1, 0, 0, 0, 42] (by decide)

def shortRsp : Rsp := .ofBytes [17, 0, 0, 128] (by decide)

def fidsRsp : Rsp :=
  .ofBytes [19, 0, 0, 128, 3, 0, 0, 0, 0, 0, 0, 0, 0, 0, 0, 0, 0, 0, 0, 0, 0, 0, 0, 0, 1, 0, 0, 0]
    (by decide)

example : matchRsp.Covers .authenticate ∧ fidsRsp.Covers (.getEnrolledFids 5) := by decide

def RspHistory.afterMatch : RspHistory := { blank with exchanges := [.answered matchRsp none] }

end WikoPlatform.Chipone
