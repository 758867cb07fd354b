import WikoPlatform.Chipone.Message
import WikoPlatform.Chipone.TemplateFile

/-! `load_template` and `store_template` of `fpTaEntryProxy`, in the build that keeps the template
file itself: the file goes in chunks, and after each both sides count what remains. -/

namespace WikoPlatform.Chipone.TemplateTransfer

open Runs TemplateFile

/-- `MAX_LOAD_CHUNK` and `MAX_STORE_CHUNK`. Nothing depends on what they are. -/
structure ChunkLimit where
  size : Nat
  size_pos : 0 < size

variable {remaining i pathLen : Nat} {limit : ChunkLimit} {ta : StoreReplies} {rsp : Nat → LoadRsp}
  {content : List UInt8} {ops : SaveOps} {files : Files}

theorem ChunkLimit.sub_min_lt (limit : ChunkLimit) (h : ¬remaining = 0) :
    remaining - min remaining limit.size < remaining := by
  have := limit.size_pos
  omega

def fpErrorAlloc : Int := 504
def fpErrorComm : Int := 505

/-- What `send_cmd_no_payload` returns, the bytes of the array, and `remain_size`. -/
structure ByteArrayRsp where
  ret : Int
  array : List UInt8
  remainSize : UInt32

structure Stored where
  ret : Int
  blob : List UInt8
  asked : Nat
  deriving DecidableEq

def storeLoop (limit : ChunkLimit) (rsp : Nat → ByteArrayRsp) (i remaining : Nat)
    (blob : List UInt8) : Stored :=
  if remaining = 0 then ⟨0, blob, i⟩
  else
    let chunkSize := min remaining limit.size
    if (rsp i).ret ≠ 0 then ⟨(rsp i).ret, blob, i + 1⟩
    else if (rsp i).array.length ≠ chunkSize then ⟨-enoent, blob, i + 1⟩
    else if remaining - chunkSize ≠ (rsp i).remainSize.toNat then ⟨-fpErrorComm, blob, i + 1⟩
    else storeLoop limit rsp (i + 1) (remaining - chunkSize) (blob ++ (rsp i).array)
termination_by remaining
decreasing_by exact limit.sub_min_lt ‹_›

structure StoreReplies where
  sizeRet : Int
  size : UInt32
  malloc : Bool
  rsp : Nat → ByteArrayRsp

/-- No result where `fwrite` would read outside of the template, of a negative size. -/
structure StoreOutcome where
  ret : Option Int
  files : Files
  asked : Nat
  deriving DecidableEq

def save (pathLen : Nat) (content : List UInt8) (ops : SaveOps) (files : Files) :
    Option Int × Files :=
  let o := saveTpls2File pathLen content ops ⟨files, 6⟩
  (o.result, o.state.files)

def storeTemplate (limit : ChunkLimit) (pathLen : Nat) (ta : StoreReplies) (ops : SaveOps)
    (files : Files) : StoreOutcome :=
  if ta.sizeRet ≠ 0 then ⟨some (-enoent), files, 0⟩
  else if ta.size = 0 then ⟨some (-enoent), files, 0⟩
  else if !ta.malloc then ⟨some (-fpErrorAlloc), files, 0⟩
  else
    let stored := storeLoop limit ta.rsp 0 ta.size.toNat []
    if stored.ret ≠ 0 then ⟨some stored.ret, files, stored.asked⟩
    else if int32 ta.size.toNat < 0 then ⟨none, files, stored.asked⟩
    else
      let saved := save pathLen stored.blob ops files
      ⟨saved.1, saved.2, stored.asked⟩

structure LoadRsp where
  constructed : Bool
  ret : Int
  par : UInt32

/-- A chunk, how much remained to be sent after it, and how much the TA said remained. -/
structure Received where
  bytes : List UInt8
  remaining : Nat
  remainRsp : UInt32
  deriving DecidableEq

def countRet (remaining : Nat) (remainRsp : UInt32) : Int :=
  if remaining ≠ remainRsp.toNat then -enoent else 0

/-- Its `ret` is that of the last round. -/
def loadLoop (limit : ChunkLimit) (rsp : Nat → LoadRsp) (i remaining : Nat) (buff : List UInt8)
    (ret : Int) : Int × List Received :=
  if remaining = 0 then (ret, [])
  else
    let chunkSize := min remaining limit.size
    if !(rsp i).constructed then (-enoent, [])
    else if (rsp i).ret ≠ 0 then ((rsp i).ret, [])
    else
      let rest := loadLoop limit rsp (i + 1) (remaining - chunkSize) (buff.drop chunkSize)
        (countRet (remaining - chunkSize) (rsp i).par)
      (rest.1, ⟨buff.take chunkSize, remaining - chunkSize, (rsp i).par⟩ :: rest.2)
termination_by remaining
decreasing_by exact limit.sub_min_lt ‹_›

/-- What is in the memory if `fread` fails, which `read_file` does not return. -/
structure ReadOps where
  malloc : Bool
  fread : Bool
  memory : Nat → UInt8

def readBuffer (content : List UInt8) (ops : ReadOps) : Int × List UInt8 :=
  if content.isEmpty then (0, [])
  else if !ops.malloc then (-enomem, [])
  else (0, if ops.fread then content else (List.range content.length).map ops.memory)

def loadTemplate (limit : ChunkLimit) (rsp : Nat → LoadRsp) (ops : ReadOps) (files : Files) :
    Int × List Received :=
  let file := readBuffer ((readFile ⟨files, 4⟩).result.getD []) ops
  if file.1 ≠ 0 then (file.1, []) else loadLoop limit rsp 0 file.2.length file.2 0

def StoreReplies.sent (ta : StoreReplies) (asked : Nat) : List UInt8 :=
  (List.range asked).flatMap fun i => (ta.rsp i).array

/-- After a 0 the file holds what was sent, else what it held. -/
def StoreOutcome.Faithful (ta : StoreReplies) (files : Files) (o : StoreOutcome) : Prop :=
  (o.ret = some 0 →
    o.files.path = some (ta.sent o.asked) ∧ (ta.sent o.asked).length = ta.size.toNat) ∧
  (o.ret ≠ some 0 → o.files.path = files.path)

/-- After a 0 the TA has the file, and the right counts. -/
def LoadFaithful (files : Files) (o : Int × List Received) : Prop :=
  o.1 = 0 → o.2.flatMap (·.bytes) = files.template.getD [] ∧
    ∀ r ∈ o.2, r.remaining = r.remainRsp.toNat

instance StoreOutcome.decidableFaithful (ta : StoreReplies) (files : Files) :
    DecidablePred (StoreOutcome.Faithful ta files) :=
  fun o => inferInstanceAs (Decidable ((o.ret = some 0 → o.files.path = some (ta.sent o.asked) ∧
    (ta.sent o.asked).length = ta.size.toNat) ∧ (o.ret ≠ some 0 → o.files.path = files.path)))

instance decidableLoadFaithful (files : Files) : DecidablePred (LoadFaithful files) :=
  fun o => inferInstanceAs (Decidable (o.1 = 0 → o.2.flatMap (·.bytes) = files.template.getD [] ∧
    ∀ r ∈ o.2, r.remaining = r.remainRsp.toNat))

/-- What is left before each chunk. -/
def ChunkLimit.EachChunk (limit : ChunkLimit) (P : Nat → Nat → Prop) (i remaining : Nat) : Prop :=
  ∀ j, j * limit.size < remaining → P (i + j) (remaining - j * limit.size)

/-- How many chunks the bytes take. -/
def ChunkLimit.chunks (limit : ChunkLimit) (remaining : Nat) : Nat :=
  (remaining + limit.size - 1) / limit.size

section

variable {P : Nat → Nat → Prop}

theorem ChunkLimit.eachChunk_zero : limit.EachChunk P i 0 :=
  fun _ h => absurd h (Nat.not_lt_zero _)

theorem ChunkLimit.eachChunk_iff (h : ¬remaining = 0) : limit.EachChunk P i remaining ↔
      P i remaining ∧ limit.EachChunk P (i + 1) (remaining - min remaining limit.size) := by
  have hrest (j : Nat) : j * limit.size < remaining - min remaining limit.size ↔
      (j + 1) * limit.size < remaining := by
    rw [Nat.succ_mul]
    omega
  have hleft (j : Nat) : remaining - (j + 1) * limit.size =
      remaining - min remaining limit.size - j * limit.size := by
    rw [Nat.succ_mul]
    omega
  constructor
  · intro hall
    refine ⟨by simpa using hall 0 (by omega), fun j hj => ?_⟩
    have hnext := hall (j + 1) ((hrest j).mp hj)
    rwa [hleft, ← Nat.add_assoc, Nat.add_right_comm] at hnext
  · rintro ⟨hfirst, hall⟩ j hj
    cases j with
    | zero => simpa using hfirst
    | succ j =>
      have hnext := hall j ((hrest j).mpr hj)
      rwa [← hleft, Nat.add_right_comm, Nat.add_assoc] at hnext

theorem ChunkLimit.chunks_eq (limit : ChunkLimit) (h : ¬remaining = 0) :
    limit.chunks remaining = limit.chunks (remaining - min remaining limit.size) + 1 := by
  have hpos := limit.size_pos
  unfold chunks
  rw [← Nat.add_div_right _ hpos]
  by_cases hlast : remaining ≤ limit.size
  · rw [Nat.min_eq_left hlast, Nat.sub_self, Nat.zero_add]
    have hone (n : Nat) (hle : limit.size ≤ n) (hlt : n < limit.size + limit.size) :
        n / limit.size = 1 := Nat.div_eq_of_lt_le (by omega) (by omega)
    exact (hone _ (by omega) (by omega)).trans (hone _ (by omega) (by omega)).symm
  · rw [Nat.min_eq_right (by omega)]
    congr 1
    omega

end

/-- `store_template` takes the chunk. -/
def ByteArrayRsp.Right (limit : ChunkLimit) (r : ByteArrayRsp) (remaining : Nat) : Prop :=
  r.ret = 0 ∧ r.array.length = min remaining limit.size ∧
    remaining - min remaining limit.size = r.remainSize.toNat

/-- `load_template` goes on, or returns 0 after the last chunk. -/
def LoadRsp.Taken (limit : ChunkLimit) (r : LoadRsp) (remaining : Nat) : Prop :=
  r.constructed = true ∧ r.ret = 0 ∧ (remaining ≤ limit.size → r.par.toNat = 0)

def LoadRsp.Counts (limit : ChunkLimit) (r : LoadRsp) (remaining : Nat) : Prop :=
  remaining - min remaining limit.size = r.par.toNat

/-- `store_template` gets to the file with the template. -/
structure StoreReplies.Delivers (ta : StoreReplies) (limit : ChunkLimit) : Prop where
  sizeRet : ta.sizeRet = 0
  size : ta.size ≠ 0
  malloc : ta.malloc = true
  nonneg : 0 ≤ int32 ta.size.toNat
  chunks : limit.EachChunk (fun i => (ta.rsp i).Right limit) 0 ta.size.toNat

def StoreReplies.template (ta : StoreReplies) (limit : ChunkLimit) : List UInt8 :=
  ta.sent (limit.chunks ta.size.toNat)

/-- `saveTpls2File` gets to the end. -/
def Writes (pathLen : Nat) (ops : SaveOps) : Prop :=
  pathLen + ".bak".length < pathMax ∧ ops.fopen = true ∧ ops.fwrite = true

/-- The end of `saveTpls2File` leaves the content in the file. -/
def Replaces (content : List UInt8) (files : Files) (ops : SaveOps) : Prop :=
  if ops.rename then content.length ≤ ops.flushed
  else ops.remove = false ∧ files.path = some content

theorem StoreReplies.sent_succ (ta : StoreReplies) (n : Nat) :
    ta.sent (n + 1) = ta.sent n ++ (ta.rsp n).array := by
  simp [sent, List.range_succ]

theorem storeLoop_ret_iff {rsp : Nat → ByteArrayRsp} {blob : List UInt8} :
    (storeLoop limit rsp i remaining blob).ret = 0 ↔
      limit.EachChunk (fun i => (rsp i).Right limit) i remaining := by
  fun_induction storeLoop limit rsp i remaining blob with
  | case1 => exact iff_of_true rfl ChunkLimit.eachChunk_zero
  | case2 _ _ _ h hret =>
    rw [ChunkLimit.eachChunk_iff h]
    exact iff_of_false hret fun hright => hret hright.1.1
  | case3 _ _ _ h chunkSize _ hlength =>
    rw [ChunkLimit.eachChunk_iff h]
    exact iff_of_false (show -enoent ≠ 0 by decide) fun hright => hlength hright.1.2.1
  | case4 _ _ _ h chunkSize _ _ hcount =>
    rw [ChunkLimit.eachChunk_iff h]
    exact iff_of_false (show -fpErrorComm ≠ 0 by decide) fun hright => hcount hright.1.2.2
  | case5 _ _ _ h chunkSize hret hlength hcount ih =>
    rw [ChunkLimit.eachChunk_iff h, ih]
    exact (and_iff_right ⟨not_not.mp hret, not_not.mp hlength, not_not.mp hcount⟩).symm

theorem storeLoop_ok {blob : List UInt8} (hblob : blob = ta.sent i)
    (h : (storeLoop limit ta.rsp i remaining blob).ret = 0) :
    let stored := storeLoop limit ta.rsp i remaining blob
    stored.asked = i + limit.chunks remaining ∧ stored.blob = ta.sent stored.asked ∧
      stored.blob.length = blob.length + remaining := by
  fun_induction storeLoop limit ta.rsp i remaining blob with
  | case1 i =>
    have hchunks : limit.chunks 0 = 0 := Nat.div_eq_of_lt (by have := limit.size_pos; omega)
    exact ⟨by rw [hchunks]; rfl, hblob, rfl⟩
  | case2 _ _ _ _ hret => exact absurd h hret
  | case3 => exact absurd h (show -enoent ≠ 0 by decide)
  | case4 => exact absurd h (show -fpErrorComm ≠ 0 by decide)
  | case5 i remaining blob hremaining chunkSize _ hlength _ ih =>
    obtain ⟨hasked, hall, hsum⟩ := ih (by rw [hblob, ta.sent_succ]) h
    refine ⟨hasked.trans ?_, hall, hsum.trans ?_⟩
    · rw [limit.chunks_eq hremaining, Nat.add_assoc, Nat.add_comm 1]
    · rw [List.length_append]
      omega

theorem save_of_writes (hcontent : content ≠ []) (h : Writes pathLen ops) :
    (save pathLen content ops files).1 = some 0 ∧ (save pathLen content ops files).2.path =
      if ops.rename then some (content.take ops.flushed)
      else if ops.remove then none else files.path := by
  obtain ⟨hpath, hopen, hwrite⟩ := h
  have hwritten : ¬(content.isEmpty || !ops.fwrite) = true := by simp [hcontent, hwrite]
  unfold save saveTpls2File
  rw [if_neg (Nat.not_le.mpr hpath), if_neg (by simp [hopen])]
  simp only [if_neg hwritten, fileOp_bind, leave_living, true_and]
  cases ops.remove <;> cases ops.rename <;> rfl

theorem save_of_not_writes (h : ¬Writes pathLen ops) :
    (save pathLen content ops files).1 = some (-eio) ∧
      (save pathLen content ops files).2.path = files.path := by
  unfold save saveTpls2File
  split
  · exact ⟨rfl, rfl⟩
  next hpath =>
    split
    · exact ⟨rfl, rfl⟩
    next hopen =>
      have hwritten : (content.isEmpty || !ops.fwrite) = true := by
        by_contra hwritten
        exact h ⟨Nat.not_le.mp hpath, by simpa using hopen, by simp_all⟩
      simp only [if_pos hwritten, fileOp_bind, leave_living, and_self]

theorem storeTemplate_of_not_delivers (h : ¬ta.Delivers limit) :
    (storeTemplate limit pathLen ta ops files).ret ≠ some 0 ∧
      (storeTemplate limit pathLen ta ops files).files = files := by
  unfold storeTemplate
  split
  · exact ⟨by simp [enoent], rfl⟩
  split
  · exact ⟨by simp [enoent], rfl⟩
  split
  · exact ⟨by simp [fpErrorAlloc], rfl⟩
  next hret hsize hmalloc =>
    dsimp only
    split
    next hstore => exact ⟨fun h0 => hstore (Option.some.inj h0), rfl⟩
    next hstore =>
      split
      · exact ⟨fun h0 => Option.some_ne_none 0 h0.symm, rfl⟩
      next hnonneg =>
        refine absurd ⟨not_not.mp hret, hsize, by simpa using hmalloc, Int.not_lt.mp hnonneg, ?_⟩ h
        exact storeLoop_ret_iff.mp (not_not.mp hstore)

theorem storeTemplate_of_delivers (h : ta.Delivers limit) :
    let saved := save pathLen (ta.template limit) ops files
    storeTemplate limit pathLen ta ops files =
        ⟨saved.1, saved.2, limit.chunks ta.size.toNat⟩ ∧
      (ta.template limit).length = ta.size.toNat := by
  have hnone : ([] : List UInt8) = ta.sent 0 := rfl
  have hret : (storeLoop limit ta.rsp 0 ta.size.toNat []).ret = 0 :=
    storeLoop_ret_iff.mpr h.chunks
  obtain ⟨hasked, hblob, hlength⟩ := storeLoop_ok hnone hret
  rw [Nat.zero_add] at hasked
  rw [hasked] at hblob
  refine ⟨?_, ?_⟩
  · unfold storeTemplate
    rw [if_neg (not_not.mpr h.sizeRet), if_neg h.size, if_neg (by simp [h.malloc])]
    dsimp only
    rw [if_neg (not_not.mpr hret), if_neg (Int.not_lt.mpr h.nonneg), hasked, hblob]
    rfl
  · rw [StoreReplies.template, ← hblob, hlength, List.length_nil, Nat.zero_add]

theorem storeTemplate_faithful_iff : (storeTemplate limit pathLen ta ops files).Faithful ta files ↔
      (ta.Delivers limit → Writes pathLen ops → Replaces (ta.template limit) files ops) := by
  by_cases hdelivers : ta.Delivers limit
  swap
  · obtain ⟨hret, hfiles⟩ := storeTemplate_of_not_delivers hdelivers
    refine iff_of_true ⟨fun h0 => absurd h0 hret, fun _ => ?_⟩ fun h => absurd h hdelivers
    rw [hfiles]
  obtain ⟨heq, hlength⟩ := storeTemplate_of_delivers hdelivers
  rw [heq, StoreOutcome.Faithful]
  by_cases hwrites : Writes pathLen ops
  swap
  · obtain ⟨hret, hpath⟩ := save_of_not_writes hwrites
    refine iff_of_true ⟨fun h0 => absurd (hret.symm.trans h0) (by decide), fun _ => hpath⟩ ?_
    exact fun _ h => absurd h hwrites
  have hcontent : ta.template limit ≠ [] := by
    intro hnil
    rw [hnil] at hlength
    exact hdelivers.size (UInt32.toNat_inj.mp hlength.symm)
  obtain ⟨hret, hpath⟩ := save_of_writes hcontent hwrites
  have hfaithful : ((save pathLen (ta.template limit) ops files).2.path =
      some (ta.template limit)) ↔ Replaces (ta.template limit) files ops := by
    rw [hpath, Replaces]
    split
    · rw [Option.some.injEq]
      refine ⟨fun h => ?_, List.take_of_length_le⟩
      rw [← h]
      exact List.length_take_le _ _
    · cases ops.remove <;> simp
  rw [imp_iff_right hdelivers, imp_iff_right hwrites, ← hfaithful]
  exact ⟨fun h => (h.1 hret).1, fun h => ⟨fun _ => ⟨h, hlength⟩, fun h0 => absurd hret h0⟩⟩

theorem countRet_eq_zero_iff {remainRsp : UInt32} :
    countRet remaining remainRsp = 0 ↔ remaining = remainRsp.toNat := by
  unfold countRet
  split
  next h => exact iff_of_false (by decide) h
  next h => exact iff_of_true rfl (not_not.mp h)

theorem loadLoop_ret_iff {buff : List UInt8} {ret : Int} :
    (loadLoop limit rsp i remaining buff ret).1 = 0 ↔
      (remaining = 0 → ret = 0) ∧ limit.EachChunk (fun i => (rsp i).Taken limit) i remaining := by
  fun_induction loadLoop limit rsp i remaining buff ret with
  | case1 => exact ⟨fun h => ⟨fun _ => h, ChunkLimit.eachChunk_zero⟩, fun h => h.1 rfl⟩
  | case2 i remaining buff ret h hconstructed =>
    rw [ChunkLimit.eachChunk_iff h]
    refine iff_of_false (by decide) fun htaken => ?_
    simp [htaken.2.1.1] at hconstructed
  | case3 i remaining buff ret h _ hret =>
    rw [ChunkLimit.eachChunk_iff h]
    exact iff_of_false hret fun htaken => hret htaken.2.1.2.1
  | case4 i remaining buff ret h chunkSize hconstructed hret rest ih =>
    rw [ChunkLimit.eachChunk_iff h, ih, countRet_eq_zero_iff, ← and_assoc]
    refine and_congr_left fun _ => ?_
    have hsent : (rsp i).constructed = true ∧ (rsp i).ret = 0 := by simp_all
    constructor
    · exact fun hlast => ⟨fun h0 => absurd h0 h, hsent.1, hsent.2, fun hle => by omega⟩
    · intro htaken h0
      rw [htaken.2.2.2 (by omega), h0]

theorem loadLoop_received {buff : List UInt8} {ret : Int} (hbuff : buff.length = remaining)
    (h : (loadLoop limit rsp i remaining buff ret).1 = 0) :
    let received := (loadLoop limit rsp i remaining buff ret).2
    received.flatMap (·.bytes) = buff ∧ ((∀ r ∈ received, r.remaining = r.remainRsp.toNat) ↔
      limit.EachChunk (fun i => (rsp i).Counts limit) i remaining) := by
  fun_induction loadLoop limit rsp i remaining buff ret with
  | case1 =>
    exact ⟨(List.length_eq_zero_iff.mp hbuff).symm, iff_of_true (by simp) ChunkLimit.eachChunk_zero⟩
  | case2 => exact absurd h (by decide)
  | case3 _ _ _ _ _ _ hret => exact absurd h hret
  | case4 i remaining buff ret hremaining chunkSize _ _ rest ih =>
    obtain ⟨hbytes, hcounts⟩ := ih (by simp [hbuff]) h
    refine ⟨?_, ?_⟩
    · rw [List.flatMap_cons, hbytes, List.take_append_drop]
    · rw [ChunkLimit.eachChunk_iff hremaining, List.forall_mem_cons, hcounts]
      rfl

/-- What `read_file` hands over with its memory. -/
def ReadOps.buffer (content : List UInt8) (ops : ReadOps) : List UInt8 :=
  if ops.fread then content else (List.range content.length).map ops.memory

theorem readBuffer_of_malloc {ops : ReadOps} (h : ops.malloc = true) :
    readBuffer content ops = (0, ops.buffer content) := by
  unfold readBuffer ReadOps.buffer
  cases content with
  | nil => simp
  | cons => simp [h]

theorem loadTemplate_faithful_iff {ops : ReadOps} :
    let content := files.template.getD []
    LoadFaithful files (loadTemplate limit rsp ops files) ↔
      (ops.malloc = true → limit.EachChunk (fun i => (rsp i).Taken limit) 0 content.length →
        ops.buffer content = content ∧
          limit.EachChunk (fun i => (rsp i).Counts limit) 0 content.length) := by
  unfold loadTemplate
  rw [LoadFaithful, readFile_result files (Nat.le_refl 4), Option.getD_some]
  generalize files.template.getD [] = content
  dsimp only
  by_cases hmalloc : ops.malloc = true
  swap
  · refine iff_of_true ?_ fun h => absurd h hmalloc
    unfold readBuffer
    cases content with
    | nil =>
      intro
      simp only [List.isEmpty_nil, if_true, not_true_eq_false, if_false, ne_eq, List.length_nil]
      rw [loadLoop]
      simp
    | cons => simp [hmalloc, enomem]
  rw [imp_iff_right hmalloc, readBuffer_of_malloc hmalloc]
  have hlength : (ops.buffer content).length = content.length := by
    unfold ReadOps.buffer
    split <;> simp
  simp only [ne_eq, not_true_eq_false, if_false, hlength]
  have hret : (loadLoop limit rsp 0 content.length (ops.buffer content) 0).1 = 0 ↔
      limit.EachChunk (fun i => (rsp i).Taken limit) 0 content.length :=
    loadLoop_ret_iff.trans (and_iff_right fun _ => rfl)
  refine imp_congr_ctx hret fun htaken => ?_
  obtain ⟨hbytes, hcounts⟩ := loadLoop_received hlength (hret.mpr htaken)
  rw [hbytes, hcounts]

end WikoPlatform.Chipone.TemplateTransfer
