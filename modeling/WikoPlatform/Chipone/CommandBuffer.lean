import WikoPlatform.Lib.Layout
import WikoPlatform.Lib.Runs
import WikoPlatform.Posix

/-! The command buffer of `fpTaCmdProcessor`, which only grows, and the encoders that write into it.
A write is the offset and the number of bytes. -/

namespace WikoPlatform.Chipone

open Runs Layout

inductive TciFpCmd where
  | init | deinit | setActiveGroup | preEnroll | remove | storeTemplate | waitFingerDown
  | checkFingerPresent | captureImage | startEnroll | enrollImg | finishEnroll | stop
  | beginAuthenticate | authenticate | endAuthenticate | getEnrolledFids | getRelCoords
  | getImageQuality | getTemplateIds | setProperty | getSubrectCount | getSubrect
  | getImageDimention | checkboardTest | getVersion | authorizeEnrol | getTemplateDbId | wakeup
  | getLastIdentifyId | getAuthenticatorVersion | readReg | getTeeInfo | inject | endEnroll
  | getTemplateSize | loadTemplate | waitFingerUp | setAuthTokenKey
  deriving DecidableEq

def taPathMax : Nat := 512
def injectDataLen : Nat := 160 * 160
def hwAuthTokenSize : Nat := 69

/-! ### The structures of the commands -/

def fpCmdNoPayload : List Member := [word32]
def fpCmdSetActiveGroup : List Member := [word32, word32, bytes taPathMax]
def fpCmdByteArray : List Member := [word32, word32, word32, bytes 1]
def fpCmdAuthorizeEnrol : List Member := [word32, word32, bytes 1]
def fpCmdGidFid : List Member := [word32, word32, word32]
def fpCmdOnePara : List Member := [word32, word32]
def fpCmdBeginAuth : List Member := [word32, word64]
def fpCmdAuthenticate : List Member := [word32, word64, word32, word32]
def fpCmdRelCoords : List Member := [word32, word32]
def fpCmdSetProperty : List Member := [word32, word32, word32]
def fpCmdGetSubRect : List Member := [word32, word32]
def fpCmdGetTemplateIds : List Member := [word32, word32]
def fpCmdInject : List Member := [word32, word32, word32, bytes injectDataLen]
def fpCmdArrayPara : List Member := [word32, word32, bytes 0]

def fpCmdSize : Nat :=
  unionSize [fpCmdNoPayload, fpCmdSetActiveGroup, fpCmdGidFid, fpCmdAuthenticate, fpCmdRelCoords,
    fpCmdSetProperty, fpCmdGetSubRect, fpCmdGetTemplateIds, fpCmdOnePara, fpCmdBeginAuth,
    fpCmdAuthorizeEnrol, fpCmdInject, fpCmdByteArray, fpCmdInject]

def header (members : List Member) (n : Nat) : List (Nat × Nat) := (places members).take n

def offsetOf (members : List Member) (i : Nat) : Nat := ((places members).getD i (0, 0)).1

/-- A command with the arguments of its encoder. -/
inductive Command where
  | beginAuth (cmd : TciFpCmd) (challenge : UInt64)
  | loadTemplate (fileLen dataLen : UInt64)
  | setActiveGroup (igid : Int) (path : List UInt8)
  | authorizeEnrol (cmd : TciFpCmd)
  | gidFid (cmd : TciFpCmd) (gid fid : Int)
  | authenticate (igid : Int) (forEnrollMatchImage : Bool)
  | injectload (len : Int32) (imgIdx : Int)
  | noPayload (cmd : TciFpCmd)
  | onePara (cmd : TciFpCmd) (para : Int)
  | arrayPara (cmd : TciFpCmd) (null : Bool) (arrayLen : UInt32)
  | relCoords (startFlag : Int)
  | setProperity (tag value : Int)
  | getFingerRect (idx : Int)
  | setAuthTokenKey (keySize : Int32)
  deriving DecidableEq

def sizeT (n : Int) : Nat := (n % 2 ^ 64).toNat

/-- `pCmdBuffer` is the size of its block and the command that was last constructed in it. -/
structure CmdProcessor where
  pCmdBuffer : Option Nat
  command : Option Command
  mRealCmdBufferLen : Int
  mCmdLen : Int
  deriving DecidableEq

namespace CmdProcessor

def checkAndAllocCmdBuffer (p : CmdProcessor) (available : Bool) (iLen : Int) :
    Int × CmdProcessor :=
  let alloc : Int × CmdProcessor :=
    if available then
      (0, { p with pCmdBuffer := some (sizeT iLen), command := none, mRealCmdBufferLen := iLen })
    else (-enomem, { p with pCmdBuffer := none, command := none })
  match p.pCmdBuffer with
  | none => alloc
  | some _ => if p.mRealCmdBufferLen < iLen then alloc else (0, p)

/-- The constructor does not look whether the memory was there. -/
def new (available : Bool) : CmdProcessor :=
  (checkAndAllocCmdBuffer ⟨none, none, 0, 0⟩ available fpCmdSize).2

end CmdProcessor

/-- What an encoder returns and writes. -/
structure Construction where
  ret : Int
  writes : List (Nat × Nat)
  processor : CmdProcessor
  deriving DecidableEq

namespace CmdProcessor

/-- Writes only where the buffer has `iLen` bytes. -/
def construct (p : CmdProcessor) (available : Bool) (command : Command) (iLen : Int)
    (writes : List (Nat × Nat)) (cmdLen : Int) : Construction :=
  match p.checkAndAllocCmdBuffer available iLen with
  | (ret, p) =>
    if ret = 0 then ⟨0, writes, { p with command := some command, mCmdLen := cmdLen }⟩
    else ⟨-enomem, [], p⟩

def constructMembers (p : CmdProcessor) (available : Bool) (command : Command)
    (members : List Member) : Construction :=
  p.construct available command (structSize members) (places members) (structSize members)

def constructBeginAuthCmd (p : CmdProcessor) (available : Bool) (cmd : TciFpCmd)
    (challenge : UInt64) : Construction :=
  p.constructMembers available (.beginAuth cmd challenge) fpCmdBeginAuth

/-- The length is stored before the buffer is asked for. -/
def constructLoadTemplateCmd (p : CmdProcessor) (available : Bool) (fileLen dataLen : UInt64) :
    Construction :=
  let cmdLen := int32 (structSize fpCmdByteArray + dataLen.toNat)
  { p with mCmdLen := cmdLen }.construct available (.loadTemplate fileLen dataLen) cmdLen
    (header fpCmdByteArray 3 ++ [(offsetOf fpCmdByteArray 3, dataLen.toNat)]) cmdLen

def constructSetActiveGroupCmd (p : CmdProcessor) (available : Bool) (igid : Int)
    (path : List UInt8) : Construction :=
  let cmdLen := structSize fpCmdSetActiveGroup
  let istrLen := int32 path.length
  { p with mCmdLen := cmdLen }.construct available (.setActiveGroup igid path) cmdLen
    (header fpCmdSetActiveGroup 3 ++
      [(offsetOf fpCmdSetActiveGroup 2, sizeT (min (taPathMax - 1) istrLen))]) cmdLen

def constructAuthorizeEnrolCmd (p : CmdProcessor) (available : Bool) (cmd : TciFpCmd) :
    Construction :=
  let cmdLen := structSize fpCmdAuthorizeEnrol + hwAuthTokenSize
  p.construct available (.authorizeEnrol cmd) cmdLen
    (header fpCmdAuthorizeEnrol 2 ++ [(offsetOf fpCmdAuthorizeEnrol 2, hwAuthTokenSize)]) cmdLen

def constructGidFidCmd (p : CmdProcessor) (available : Bool) (cmd : TciFpCmd) (gid fid : Int) :
    Construction :=
  p.constructMembers available (.gidFid cmd gid fid) fpCmdGidFid

def constructAuthenticateCmd (p : CmdProcessor) (available : Bool) (igid : Int)
    (forEnrollMatchImage : Bool) : Construction :=
  p.constructMembers available (.authenticate igid forEnrollMatchImage) fpCmdAuthenticate

/-- The array has a fixed size, whatever the number of bytes. -/
def constructInjectCmd (p : CmdProcessor) (available : Bool) (command : Command) (len : Int32) :
    Construction :=
  p.construct available command (structSize fpCmdInject)
    (header fpCmdInject 3 ++ [(offsetOf fpCmdInject 3, sizeT len.toInt)]) (structSize fpCmdInject)

def constructInjectloadCmd (p : CmdProcessor) (available : Bool) (len : Int32) (imgIdx : Int) :
    Construction :=
  p.constructInjectCmd available (.injectload len imgIdx) len

def constructSetAuthTokenKeyCmd (p : CmdProcessor) (available : Bool) (keySize : Int32) :
    Construction :=
  p.constructInjectCmd available (.setAuthTokenKey keySize) keySize

def constructNoPayloadCmd (p : CmdProcessor) (available : Bool) (cmd : TciFpCmd) : Construction :=
  p.constructMembers available (.noPayload cmd) fpCmdNoPayload

def constructOneParaCmd (p : CmdProcessor) (available : Bool) (cmd : TciFpCmd) (para : Int) :
    Construction :=
  p.constructMembers available (.onePara cmd para) fpCmdOnePara

/-- Asks for `sizeof(mCmdLen)` bytes, not for `mCmdLen`. -/
def constructArrayParaCmd (p : CmdProcessor) (available : Bool) (cmd : TciFpCmd) (null : Bool)
    (arrayLen : UInt32) : Construction :=
  if null ∨ arrayLen = 0 then ⟨-enomem, [], p⟩
  else
    let cmdLen := int32 (structSize fpCmdArrayPara + arrayLen.toNat)
    { p with mCmdLen := cmdLen }.construct available (.arrayPara cmd null arrayLen) word32.size
      (header fpCmdArrayPara 2 ++ [(offsetOf fpCmdArrayPara 2, arrayLen.toNat)]) cmdLen

def constructRelCoordsCmd (p : CmdProcessor) (available : Bool) (startFlag : Int) : Construction :=
  p.constructMembers available (.relCoords startFlag) fpCmdRelCoords

def constructSetProperityCmd (p : CmdProcessor) (available : Bool) (tag value : Int) :
    Construction :=
  p.constructMembers available (.setProperity tag value) fpCmdSetProperty

def constructGetFingerRectCmd (p : CmdProcessor) (available : Bool) (idx : Int) : Construction :=
  p.constructMembers available (.getFingerRect idx) fpCmdGetSubRect

end CmdProcessor

def Command.construct (p : CmdProcessor) (available : Bool) : Command → Construction
  | .beginAuth cmd challenge => p.constructBeginAuthCmd available cmd challenge
  | .loadTemplate fileLen dataLen => p.constructLoadTemplateCmd available fileLen dataLen
  | .setActiveGroup igid path => p.constructSetActiveGroupCmd available igid path
  | .authorizeEnrol cmd => p.constructAuthorizeEnrolCmd available cmd
  | .gidFid cmd gid fid => p.constructGidFidCmd available cmd gid fid
  | .authenticate igid forEnroll => p.constructAuthenticateCmd available igid forEnroll
  | .injectload len imgIdx => p.constructInjectloadCmd available len imgIdx
  | .noPayload cmd => p.constructNoPayloadCmd available cmd
  | .onePara cmd para => p.constructOneParaCmd available cmd para
  | .arrayPara cmd null arrayLen => p.constructArrayParaCmd available cmd null arrayLen
  | .relCoords startFlag => p.constructRelCoordsCmd available startFlag
  | .setProperity tag value => p.constructSetProperityCmd available tag value
  | .getFingerRect idx => p.constructGetFingerRectCmd available idx
  | .setAuthTokenKey keySize => p.constructSetAuthTokenKeyCmd available keySize

variable {p : CmdProcessor} {available : Bool} {command : Command}

theorem CmdProcessor.construct_command {iLen cmdLen : Int} {writes : List (Nat × Nat)}
    (h : (p.construct available command iLen writes cmdLen).ret = 0) :
    (p.construct available command iLen writes cmdLen).processor.command = some command := by
  unfold CmdProcessor.construct at h ⊢
  split at h
  next hcheck =>
    split_ifs at h with hret
    · simp [hret]
    · simp [enomem] at h

theorem Command.construct_command (h : (command.construct p available).ret = 0) :
    (command.construct p available).processor.command = some command := by
  cases command with
  | arrayPara cmd null arrayLen =>
    simp only [Command.construct, CmdProcessor.constructArrayParaCmd] at h ⊢
    split_ifs at h ⊢
    · simp [enomem] at h
    · exact CmdProcessor.construct_command h
  | _ => exact CmdProcessor.construct_command h

/-- After a 0 everything was written inside the buffer, and `sendCmd` passes no more than it. -/
structure Construction.Within (c : Construction) (size : Nat) : Prop where
  buffer : c.processor.pCmdBuffer = some size
  real : c.processor.mRealCmdBufferLen = size
  writes : ∀ w ∈ c.writes, w.1 + w.2 ≤ size
  cmdLen : c.processor.mCmdLen ≤ c.processor.mRealCmdBufferLen

/-- After a 0, every write is inside the buffer. -/
def Construction.InBounds (c : Construction) : Prop := c.ret = 0 → ∃ size, c.Within size

/-- The recorded length is that of the block. -/
def CmdProcessor.Sized (p : CmdProcessor) : Prop :=
  ∀ size, p.pCmdBuffer = some size → p.mRealCmdBufferLen = size ∧ size < 2 ^ 31

namespace CmdProcessor

variable {p : CmdProcessor} {available : Bool} {command : Command} {iLen cmdLen n : Int}
  {writes : List (Nat × Nat)} {members : List Member} {cmd : TciFpCmd}

theorem sizeT_of_nonneg (h : 0 ≤ n) (hlt : n < 2 ^ 31) : (sizeT n : Int) = n := by
  unfold sizeT
  omega

theorem checkAndAllocCmdBuffer_spec (available : Bool) (hp : p.Sized) (hpos : 0 ≤ iLen)
    (hlt : iLen < 2 ^ 31) : (p.checkAndAllocCmdBuffer available iLen).2.Sized ∧
      ((p.checkAndAllocCmdBuffer available iLen).1 = 0 →
        ∃ size, (p.checkAndAllocCmdBuffer available iLen).2.pCmdBuffer = some size ∧
          iLen ≤ size ∧ ∀ old, p.pCmdBuffer = some old → old ≤ size) := by
  have hsize := sizeT_of_nonneg hpos hlt
  unfold checkAndAllocCmdBuffer
  cases hbuf : p.pCmdBuffer with
  | none =>
    cases available with
    | false => exact ⟨by rintro _ ⟨⟩, by simp [enomem]⟩
    | true =>
      refine ⟨?_, fun _ => ⟨sizeT iLen, rfl, by omega, by simp⟩⟩
      rintro size ⟨⟩
      exact ⟨hsize.symm, by omega⟩
  | some old =>
    obtain ⟨hreal, hold⟩ := hp old hbuf
    simp only
    by_cases hgrow : p.mRealCmdBufferLen < iLen
    · rw [if_pos hgrow]
      cases available with
      | false => exact ⟨by rintro _ ⟨⟩, by simp [enomem]⟩
      | true =>
        refine ⟨?_, fun _ => ⟨sizeT iLen, rfl, by omega, ?_⟩⟩
        · rintro size ⟨⟩
          exact ⟨hsize.symm, by omega⟩
        · rintro _ ⟨⟩
          omega
    · rw [if_neg hgrow]
      refine ⟨hp, fun _ => ⟨old, hbuf, by omega, ?_⟩⟩
      rintro _ ⟨⟩
      exact Nat.le_refl _

theorem new_sized (available : Bool) : (new available).Sized := by
  cases available with
  | false => rintro _ ⟨⟩
  | true =>
    rintro size ⟨⟩
    decide

theorem construct_inBounds (hp : p.Sized) (hpos : 0 ≤ iLen) (hlt : iLen < 2 ^ 31)
    (hroom : ∀ size : Nat, iLen ≤ size → (∀ old, p.pCmdBuffer = some old → old ≤ size) →
      cmdLen ≤ size ∧ ∀ w ∈ writes, w.1 + w.2 ≤ size) :
    (p.construct available command iLen writes cmdLen).InBounds ∧
      (p.construct available command iLen writes cmdLen).processor.Sized := by
  obtain ⟨hsized, hspec⟩ := checkAndAllocCmdBuffer_spec available hp hpos hlt
  unfold construct
  split
  next ret p' hcheck =>
    rw [hcheck] at hsized hspec
    by_cases hret : ret = 0
    · obtain ⟨size, hbuf, hlen, hold⟩ := hspec hret
      obtain ⟨hcmd, hwrites⟩ := hroom size hlen hold
      have hreal : p'.mRealCmdBufferLen = size := (hsized size hbuf).1
      rw [if_pos hret]
      refine ⟨fun _ => ⟨size, hbuf, hreal, hwrites, ?_⟩, hsized⟩
      rw [← hreal] at hcmd
      exact hcmd
    · rw [if_neg hret]
      exact ⟨by simp [Construction.InBounds, enomem], hsized⟩

theorem constructMembers_inBounds (hp : p.Sized) (hlt : structSize members < 2 ^ 31) :
    (p.constructMembers available command members).InBounds ∧
      (p.constructMembers available command members).processor.Sized := by
  refine construct_inBounds hp (by omega) (by omega) fun size hlen _ => ⟨hlen, fun w hw => ?_⟩
  have := place_inside hw
  omega

theorem header_append_inside {n offset len size : Nat} (hsize : structSize members ≤ size)
    (hlen : offset + len ≤ size) : ∀ w ∈ header members n ++ [(offset, len)], w.1 + w.2 ≤ size := by
  intro w hw
  rcases List.mem_append.mp hw with hheader | hlast
  · exact Nat.le_trans (place_inside (List.mem_of_mem_take hheader)) hsize
  · rw [List.mem_singleton] at hlast
    subst hlast
    exact hlen

theorem constructLoadTemplateCmd_inBounds (hp : p.Sized) {fileLen dataLen : UInt64}
    (hfits : structSize fpCmdByteArray + dataLen.toNat < 2 ^ 31) :
    (p.constructLoadTemplateCmd available fileLen dataLen).InBounds ∧
      (p.constructLoadTemplateCmd available fileLen dataLen).processor.Sized := by
  have hcmd : int32 (structSize fpCmdByteArray + dataLen.toNat) =
      (structSize fpCmdByteArray + dataLen.toNat : Nat) :=
    int32_of_lt (by exact_mod_cast hfits)
  have hoffset : offsetOf fpCmdByteArray 3 ≤ structSize fpCmdByteArray := by decide
  unfold constructLoadTemplateCmd
  rw [hcmd]
  refine construct_inBounds hp (Int.natCast_nonneg _) (by exact_mod_cast hfits) ?_
  intro size hlen _
  exact ⟨hlen, header_append_inside (by omega) (by omega)⟩

theorem constructSetActiveGroupCmd_inBounds (hp : p.Sized) {igid : Int} {path : List UInt8}
    (hfits : path.length < 2 ^ 31) : (p.constructSetActiveGroupCmd available igid path).InBounds ∧
      (p.constructSetActiveGroupCmd available igid path).processor.Sized := by
  have hlen : int32 path.length = path.length := int32_of_lt (by omega)
  have hroom : offsetOf fpCmdSetActiveGroup 2 + taPathMax ≤ structSize fpCmdSetActiveGroup := by
    decide
  have hcut : sizeT (min (taPathMax - 1) path.length) ≤ taPathMax := by
    have hmax : (taPathMax : Int) = 512 := rfl
    unfold sizeT
    omega
  unfold constructSetActiveGroupCmd
  rw [hlen]
  refine construct_inBounds hp (by decide) (by decide) fun size hsize _ => ⟨hsize, ?_⟩
  exact header_append_inside (by omega) (by omega)

theorem constructAuthorizeEnrolCmd_inBounds (hp : p.Sized) :
    (p.constructAuthorizeEnrolCmd available cmd).InBounds ∧
      (p.constructAuthorizeEnrolCmd available cmd).processor.Sized := by
  have hoffset : offsetOf fpCmdAuthorizeEnrol 2 ≤ structSize fpCmdAuthorizeEnrol := by decide
  refine construct_inBounds hp (by decide) (by decide) fun size hsize _ => ⟨hsize, ?_⟩
  exact header_append_inside (by omega) (by omega)

theorem constructInjectCmd_inBounds (hp : p.Sized) {len : Int32} (hpos : 0 ≤ len.toInt)
    (hfits : len.toInt ≤ injectDataLen) : (p.constructInjectCmd available command len).InBounds ∧
      (p.constructInjectCmd available command len).processor.Sized := by
  have hroom : offsetOf fpCmdInject 3 + injectDataLen ≤ structSize fpCmdInject := by decide
  have hmax : injectDataLen < 2 ^ 31 := by decide
  have hlen : (sizeT len.toInt : Int) = len.toInt := sizeT_of_nonneg hpos (by omega)
  refine construct_inBounds hp (by decide) (by decide) fun size hsize _ => ⟨hsize, ?_⟩
  exact header_append_inside (by omega) (by omega)

theorem constructArrayParaCmd_inBounds (hp : p.Sized) {null : Bool} {arrayLen : UInt32} {old : Nat}
    (hbuf : p.pCmdBuffer = some old) (hfits : structSize fpCmdArrayPara + arrayLen.toNat ≤ old) :
    (p.constructArrayParaCmd available cmd null arrayLen).InBounds ∧
      (p.constructArrayParaCmd available cmd null arrayLen).processor.Sized := by
  have hoffset : offsetOf fpCmdArrayPara 2 ≤ structSize fpCmdArrayPara := by decide
  have hold := (hp old hbuf).2
  have hcmd : int32 (structSize fpCmdArrayPara + arrayLen.toNat) =
      (structSize fpCmdArrayPara + arrayLen.toNat : Nat) :=
    int32_of_lt (by omega)
  unfold constructArrayParaCmd
  split_ifs
  · exact ⟨by simp [Construction.InBounds, enomem], hp⟩
  · rw [hcmd]
    refine construct_inBounds hp (by decide) (by decide) fun size _ hgrown => ?_
    have hsize := hgrown old hbuf
    exact ⟨by omega, header_append_inside (by omega) (by omega)⟩

end CmdProcessor

/-- The length that comes with the command fits. -/
def Command.Fits (p : CmdProcessor) : Command → Prop
  | .loadTemplate _ dataLen => structSize fpCmdByteArray + dataLen.toNat < 2 ^ 31
  | .setActiveGroup _ path => path.length < 2 ^ 31
  | .injectload len _ | .setAuthTokenKey len => 0 ≤ len.toInt ∧ len.toInt ≤ injectDataLen
  | .arrayPara _ null arrayLen =>
    null = true ∨ arrayLen = 0 ∨
      p.pCmdBuffer.any (structSize fpCmdArrayPara + arrayLen.toNat ≤ ·) = true
  | _ => True

instance (p : CmdProcessor) (command : Command) : Decidable (command.Fits p) := by
  unfold Command.Fits
  split <;> infer_instance

theorem Command.construct_inBounds (hp : p.Sized) (available : Bool) (hfits : command.Fits p) :
    (command.construct p available).InBounds ∧ (command.construct p available).processor.Sized := by
  cases command with
  | loadTemplate fileLen dataLen => exact CmdProcessor.constructLoadTemplateCmd_inBounds hp hfits
  | setActiveGroup igid path => exact CmdProcessor.constructSetActiveGroupCmd_inBounds hp hfits
  | authorizeEnrol cmd => exact CmdProcessor.constructAuthorizeEnrolCmd_inBounds hp
  | injectload len imgIdx | setAuthTokenKey keySize =>
    exact CmdProcessor.constructInjectCmd_inBounds hp hfits.1 hfits.2
  | arrayPara cmd null arrayLen =>
    by_cases hrefuse : null = true ∨ arrayLen = 0
    · simp only [Command.construct, CmdProcessor.constructArrayParaCmd, if_pos hrefuse]
      exact ⟨by simp [Construction.InBounds, enomem], hp⟩
    · obtain hnull | hzero | hroom := hfits
      · exact absurd (.inl hnull) hrefuse
      · exact absurd (.inr hzero) hrefuse
      · obtain ⟨old, hbuf, hold⟩ := (Option.any_eq_true _ _).mp hroom
        exact CmdProcessor.constructArrayParaCmd_inBounds hp hbuf (of_decide_eq_true hold)
  | _ => exact CmdProcessor.constructMembers_inBounds hp (by decide)

def CmdProcessor.step (p : CmdProcessor) (call : Command × Bool) :
    List Construction × CmdProcessor :=
  let c := call.1.construct p call.2
  ([c], c.processor)

structure BoundsInvariant (trace : List Construction) (p : CmdProcessor) : Prop where
  inBounds : ∀ c ∈ trace, c.InBounds
  sized : p.Sized

theorem boundsInvariant_step (trace : List Construction) (p : CmdProcessor)
    (call : Command × Bool) (h : BoundsInvariant trace p) (hfits : call.1.Fits p) :
    BoundsInvariant (trace ++ (p.step call).1) (p.step call).2 := by
  obtain ⟨hbounds, hsized⟩ := Command.construct_inBounds h.sized call.2 hfits
  refine ⟨List.forall_mem_append.mpr ⟨h.inBounds, ?_⟩, hsized⟩
  rintro c hc
  obtain rfl := List.mem_singleton.mp hc
  exact hbounds

/-- Encoders stay inside the buffer where the lengths fit. -/
theorem constructRun_inBounds (available : Bool) (calls : List (Command × Bool))
    (h : Meets CmdProcessor.step (fun p call => call.1.Fits p) (.new available) calls) :
    ∀ c ∈ (run CmdProcessor.step (.new available) calls).1, c.InBounds := by
  have hstart : BoundsInvariant [] (.new available) :=
    ⟨List.forall_mem_nil _, CmdProcessor.new_sized available⟩
  have hend := run_invariant boundsInvariant_step hstart h
  exact hend.inBounds

def grownCalls : List (Command × Bool) :=
  [(.loadTemplate 30000 30000, false), (.setAuthTokenKey 25600, true),
    (.loadTemplate 30000 30000, true), (.arrayPara .inject false 30000, true)]

theorem grownCalls_inBounds :
    (run CmdProcessor.step (.new true) grownCalls).1.map Construction.ret = [-enomem, 0, 0, 0] ∧
      ∀ c ∈ (run CmdProcessor.step (.new true) grownCalls).1, c.InBounds :=
  ⟨by decide, constructRun_inBounds true grownCalls (by decide)⟩

theorem Construction.not_inBounds {c : Construction} {size : Nat} (w : Nat × Nat) (hret : c.ret = 0)
    (hbuf : c.processor.pCmdBuffer = some size) (hw : w ∈ c.writes) (hout : size < w.1 + w.2) :
    ¬c.InBounds := by
  intro h
  obtain ⟨size', hwithin⟩ := h hret
  have hsame := hwithin.buffer
  rw [hbuf] at hsame
  obtain rfl := Option.some.inj hsame
  exact absurd (hwithin.writes w hw) (by omega)

def Command.Overruns (command : Command) : Prop :=
  ¬∀ c ∈ (run CmdProcessor.step (.new true) [(command, true)]).1, c.InBounds

theorem Command.overruns (h : ¬(command.construct (.new true) true).InBounds) : command.Overruns :=
  fun hall => h (hall _ (List.mem_singleton_self _))

theorem overlongCommands_not_inBounds :
    (Command.injectload 25605 0).Overruns ∧ (Command.setAuthTokenKey (-1)).Overruns ∧
      (Command.arrayPara .inject false 25609).Overruns ∧
      (Command.loadTemplate 0 2147483648).Overruns := by
  refine ⟨Command.overruns ?_, Command.overruns ?_, Command.overruns ?_, Command.overruns ?_⟩
  · exact Construction.not_inBounds (12, 25605) rfl rfl (by decide) (by decide)
  · exact Construction.not_inBounds (12, 2 ^ 64 - 1) rfl rfl (by decide) (by decide)
  · exact Construction.not_inBounds (8, 25609) rfl rfl (by decide) (by decide)
  · exact Construction.not_inBounds (12, 2147483648) rfl rfl (by decide) (by decide)

end WikoPlatform.Chipone
