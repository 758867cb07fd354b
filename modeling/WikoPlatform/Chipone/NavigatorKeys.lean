import WikoPlatform.Chipone.CommandBuffer
import WikoPlatform.Chipone.SocketFraming

/-! `fpExtension::do_navigator_addkey_cmd`: a peer sends a number of keys and the keys, and is to
get a response. -/

namespace WikoPlatform.Chipone.NavigatorKeys

open Words SocketFraming

def socketRespOk : UInt32 := 12598534

inductive KeysEvent where
  | malloc (size : Nat)
  | gotoIdle
  | addKeys (keyArray : List UInt8) (keyCnt : Int)
  | resumeThread
  | response (code : UInt32)
  | socketFailed
  | free
  deriving DecidableEq

structure KeyCommand where
  sizeBits : Nat
  logd : Bool
  rounds : List Round
  stream : List UInt8
  memory : Bool
  fresh : Nat → UInt8
  daemonInstance : Bool
  implInstance : Option Int
  workerInstance : Bool

namespace KeyCommand

variable (k : KeyCommand)

def getCount : Moved := extensionSocketGet k.logd k.rounds ⟨[0, 0, 0, 0], k.stream⟩

def keyCnt : Int := int32 (get32 k.getCount.link.buffer 0).toNat

def keyArraySize : Nat := (4 * k.keyCnt % 2 ^ k.sizeBits).toNat

/-- `fp_malloc` never has half of the address space. -/
def allocates : Bool := k.memory && k.keyArraySize < 2 ^ (k.sizeBits - 1)

def getKeys : Moved :=
  extensionSocketGet k.logd k.getCount.rest
    ⟨(List.range k.keyArraySize).map k.fresh, k.getCount.link.stream⟩

def putResponse : Moved := extensionSocketPut k.logd k.getKeys.rest ⟨le32 socketRespOk, []⟩

def socketEvents (success : List KeysEvent) : Option Int → List KeysEvent
  | some 0 => success
  | some _ => [.socketFailed]
  | none => []

/-- From the second `extension_socket_get` on. -/
def handle : List KeysEvent :=
  (if k.daemonInstance then [.gotoIdle] else []) ++
    (if k.implInstance.isSome then [.addKeys k.getKeys.link.buffer k.keyCnt] else []) ++
    (if k.workerInstance then [.resumeThread] else []) ++
    socketEvents [.response socketRespOk] k.putResponse.ret

def freed (ret : Option Int) : List KeysEvent := if ret.isSome then [.free] else []

def doNavigatorAddkeyCmd : List KeysEvent × Option Int :=
  if k.getCount.ret ≠ some 0 then (socketEvents [] k.getCount.ret, k.getCount.ret)
  else if k.allocates = false then ([], some (-enomem))
  else if k.getKeys.ret ≠ some 0 then
    (.malloc k.keyArraySize :: (socketEvents [] k.getKeys.ret ++ freed k.getKeys.ret),
      k.getKeys.ret)
  else (.malloc k.keyArraySize :: (k.handle ++ freed k.putResponse.ret), k.putResponse.ret)

end KeyCommand

def KeysEvent.isMalloc : KeysEvent → Bool
  | .malloc _ => true
  | _ => false

def KeysEvent.code : KeysEvent → Option UInt32
  | .response code => some code
  | _ => none

namespace KeyCommand

/-- The stream begins with the count and the keys. -/
def Holds (k : KeyCommand) (keyArray : List UInt8) (keyCnt : Int) : Prop :=
  ∃ count more, count.length = 4 ∧ k.stream = count ++ (keyArray ++ more) ∧
    keyCnt = int32 (get32 count 0).toNat ∧ (keyArray.length : Int) = 4 * keyCnt

/-- The keys are passed on as sent, and the memory is freed once. -/
structure Sound (k : KeyCommand) : Prop where
  passed : ∀ keyArray keyCnt, .addKeys keyArray keyCnt ∈ k.doNavigatorAddkeyCmd.1 →
    k.Holds keyArray keyCnt
  once : k.doNavigatorAddkeyCmd.1.countP KeysEvent.isMalloc ≤ 1
  freed : k.doNavigatorAddkeyCmd.2 ≠ none →
    k.doNavigatorAddkeyCmd.1.count .free = k.doNavigatorAddkeyCmd.1.countP KeysEvent.isMalloc
  answered : k.doNavigatorAddkeyCmd.2 ≠ none → .socketFailed ∉ k.doNavigatorAddkeyCmd.1 →
    ∃ code, k.doNavigatorAddkeyCmd.1.filterMap KeysEvent.code = [code] ∧
      (code = socketRespOk → k.implInstance = some 0)

/-- There is memory, no size wraps around, and only accepted keys are answered. -/
def Fine (k : KeyCommand) : Prop :=
  k.getCount.ret = some 0 → k.allocates = true ∧
    (k.getKeys.ret = some 0 →
      (k.implInstance ≠ none → 0 ≤ k.keyCnt ∧ 4 * k.keyCnt < 2 ^ k.sizeBits) ∧
      (k.putResponse.ret = some 0 → k.implInstance = some 0))

section

variable {k : KeyCommand}

theorem holds_iff (hcount : k.getCount.ret = some 0) (hkeys : k.getKeys.ret = some 0) :
    k.Holds k.getKeys.link.buffer k.keyCnt ↔ 0 ≤ k.keyCnt ∧ 4 * k.keyCnt < 2 ^ k.sizeBits := by
  obtain ⟨hlen, hstream⟩ := get_transferred hcount
  obtain ⟨hlen', hstream'⟩ := get_transferred hkeys
  have hsize : k.getKeys.link.buffer.length = k.keyArraySize := by
    refine hlen'.trans ?_
    rw [List.length_map, List.length_range]
  have hexact : (k.keyArraySize : Int) = 4 * k.keyCnt ↔
      0 ≤ k.keyCnt ∧ 4 * k.keyCnt < 2 ^ k.sizeBits := by
    have hpos : (0 : Int) < 2 ^ k.sizeBits := Int.pow_pos (by decide)
    have hnonneg := Int.emod_nonneg (4 * k.keyCnt) (Int.ne_of_gt hpos)
    have hlt := Int.emod_lt_of_pos (4 * k.keyCnt) hpos
    rw [keyArraySize, Int.toNat_of_nonneg hnonneg]
    constructor
    · intro hsame
      omega
    · rintro ⟨hcnt, hfits⟩
      exact Int.emod_eq_of_lt (by omega) hfits
  rw [← hexact, ← hsize]
  constructor
  · rintro ⟨_, _, _, _, _, hfits⟩
    exact hfits
  · intro hfits
    refine ⟨k.getCount.link.buffer, k.getKeys.link.stream, hlen, ?_, rfl, hfits⟩
    have hkeyBytes : k.getCount.link.stream = k.getKeys.link.buffer ++ k.getKeys.link.stream :=
      hstream'
    rw [← hkeyBytes]
    exact hstream

end

section

variable {k : KeyCommand} {ret : Option Int} {event : KeysEvent}

theorem socketEvents_failed (h : ret ≠ some 0) (success : List KeysEvent) :
    socketEvents success ret = if ret = none then [] else [.socketFailed] := by
  unfold socketEvents
  split
  · exact absurd rfl h
  · rfl
  · rfl

theorem run_count (h : k.getCount.ret ≠ some 0) : k.doNavigatorAddkeyCmd =
      (if k.getCount.ret = none then [] else [.socketFailed], k.getCount.ret) := by
  rw [doNavigatorAddkeyCmd, if_pos h, socketEvents_failed h]

theorem run_unallocated (h : k.getCount.ret = some 0) (hmemory : k.allocates = false) :
    k.doNavigatorAddkeyCmd = ([], some (-enomem)) := by
  rw [doNavigatorAddkeyCmd, if_neg (not_not.mpr h), if_pos hmemory]

theorem run_keys (h : k.getCount.ret = some 0) (hmemory : k.allocates = true)
    (hkeys : k.getKeys.ret ≠ some 0) : k.doNavigatorAddkeyCmd = (.malloc k.keyArraySize ::
      if k.getKeys.ret = none then [] else [.socketFailed, .free], k.getKeys.ret) := by
  rw [doNavigatorAddkeyCmd, if_neg (not_not.mpr h), if_neg (by simp [hmemory]), if_pos hkeys,
    socketEvents_failed hkeys]
  cases k.getKeys.ret <;> rfl

theorem run_handled (h : k.getCount.ret = some 0) (hmemory : k.allocates = true)
    (hkeys : k.getKeys.ret = some 0) : k.doNavigatorAddkeyCmd =
      (.malloc k.keyArraySize :: (k.handle ++ freed k.putResponse.ret), k.putResponse.ret) := by
  rw [doNavigatorAddkeyCmd, if_neg (not_not.mpr h), if_neg (by simp [hmemory]),
    if_neg (not_not.mpr hkeys)]

theorem mem_socketEvents {success : List KeysEvent} (h : event ∈ socketEvents success ret) :
    event ∈ success ∨ event = .socketFailed := by
  unfold socketEvents at h
  split at h
  · exact .inl h
  · exact .inr (List.mem_singleton.mp h)
  · simp at h

theorem mem_handle (h : event ∈ k.handle) :
    event = .gotoIdle ∨ k.implInstance ≠ none ∧ event = .addKeys k.getKeys.link.buffer k.keyCnt ∨
      event = .resumeThread ∨ event = .response socketRespOk ∨ event = .socketFailed := by
  simp only [handle, List.mem_append] at h
  rcases h with ((h | h) | h) | h
  · split at h <;> simp_all
  · split at h <;> simp_all [Option.isSome_iff_ne_none]
  · split at h <;> simp_all
  · have := mem_socketEvents h
    simp_all

theorem handle_codes (k : KeyCommand) : k.handle.filterMap KeysEvent.code =
    (socketEvents [.response socketRespOk] k.putResponse.ret).filterMap KeysEvent.code := by
  simp only [handle, List.filterMap_append]
  cases k.daemonInstance <;> cases k.implInstance <;> cases k.workerInstance <;> rfl

theorem array_freed (k : KeyCommand) : k.doNavigatorAddkeyCmd.1.countP KeysEvent.isMalloc ≤ 1 ∧
      (k.doNavigatorAddkeyCmd.2 ≠ none → k.doNavigatorAddkeyCmd.1.count .free =
        k.doNavigatorAddkeyCmd.1.countP KeysEvent.isMalloc) := by
  by_cases hcount : k.getCount.ret = some 0
  · cases hmemory : k.allocates with
    | false =>
      rw [run_unallocated hcount hmemory]
      exact ⟨Nat.zero_le 1, fun _ => rfl⟩
    | true =>
      by_cases hkeys : k.getKeys.ret = some 0
      · have hmallocs : k.handle.countP KeysEvent.isMalloc = 0 :=
          List.countP_eq_zero.mpr fun event hmem => by
            rcases mem_handle hmem with rfl | ⟨-, rfl⟩ | rfl | rfl | rfl <;>
              simp [KeysEvent.isMalloc]
        have hfrees : k.handle.count .free = 0 :=
          List.count_eq_zero.mpr fun hmem => by simpa using mem_handle hmem
        rw [run_handled hcount hmemory hkeys, List.countP_cons, List.count_cons, List.countP_append,
          List.count_append, hmallocs, hfrees]
        cases k.putResponse.ret with
        | none => exact ⟨Nat.le_refl 1, fun h => absurd rfl h⟩
        | some code => exact ⟨Nat.le_refl 1, fun _ => rfl⟩
      · rw [run_keys hcount hmemory hkeys]
        split
        · exact ⟨Nat.le_refl 1, fun h => absurd ‹_› h⟩
        · exact ⟨Nat.le_refl 1, fun _ => rfl⟩
  · rw [run_count hcount]
    split
    all_goals exact ⟨Nat.zero_le 1, fun _ => rfl⟩

theorem sound_iff_passed_answered (k : KeyCommand) :
    k.Sound ↔ (∀ keyArray keyCnt, .addKeys keyArray keyCnt ∈ k.doNavigatorAddkeyCmd.1 →
        k.Holds keyArray keyCnt) ∧
      (k.doNavigatorAddkeyCmd.2 ≠ none → .socketFailed ∉ k.doNavigatorAddkeyCmd.1 →
        ∃ code, k.doNavigatorAddkeyCmd.1.filterMap KeysEvent.code = [code] ∧
          (code = socketRespOk → k.implInstance = some 0)) :=
  ⟨fun h => ⟨h.passed, h.answered⟩,
    fun h => ⟨h.1, (array_freed k).1, (array_freed k).2, h.2⟩⟩

theorem sound_count (h : k.getCount.ret ≠ some 0) : k.Sound := by
  rw [sound_iff_passed_answered, run_count h]
  by_cases hwaits : k.getCount.ret = none
  · simp [hwaits]
  · simp [hwaits]

theorem not_sound_unallocated (h : k.getCount.ret = some 0) (hmemory : k.allocates = false) :
    ¬k.Sound := by
  rw [sound_iff_passed_answered, run_unallocated h hmemory]
  simp

theorem sound_keys (h : k.getCount.ret = some 0) (hmemory : k.allocates = true)
    (hkeys : k.getKeys.ret ≠ some 0) : k.Sound := by
  rw [sound_iff_passed_answered, run_keys h hmemory hkeys]
  by_cases hwaits : k.getKeys.ret = none
  · simp [hwaits]
  · simp [hwaits]

theorem sound_handled_iff (h : k.getCount.ret = some 0) (hmemory : k.allocates = true)
    (hkeys : k.getKeys.ret = some 0) :
    k.Sound ↔ (k.implInstance ≠ none → k.Holds k.getKeys.link.buffer k.keyCnt) ∧
      (k.putResponse.ret = some 0 → k.implInstance = some 0) := by
  rw [sound_iff_passed_answered, run_handled h hmemory hkeys]
  refine and_congr ⟨fun hpass himpl => ?_, fun hholds keyArray keyCnt hmem => ?_⟩ ?_
  · refine hpass _ _ (List.mem_cons_of_mem _ (List.mem_append_left _ ?_))
    simp [handle, Option.isSome_iff_ne_none.mpr himpl]
  · rw [List.mem_cons, List.mem_append] at hmem
    rcases hmem with hmem | hmem | hmem
    · simp at hmem
    · obtain hmem | ⟨himpl, hmem⟩ | hmem | hmem | hmem := mem_handle hmem
      · simp at hmem
      · obtain ⟨hkeyArray, hkeyCnt⟩ := KeysEvent.addKeys.inj hmem
        rw [hkeyArray, hkeyCnt]
        exact hholds himpl
      all_goals simp at hmem
    · unfold freed at hmem
      split at hmem <;> simp at hmem
  · cases hret : k.putResponse.ret with
    | none => simp
    | some code =>
      by_cases hzero : code = 0
      · subst hzero
        have hcodes : (KeysEvent.malloc k.keyArraySize :: (k.handle ++ freed (some 0))).filterMap
            KeysEvent.code = [socketRespOk] := by
          rw [List.filterMap_cons_none rfl, List.filterMap_append, handle_codes, hret]
          rfl
        have hfail : .socketFailed ∉ KeysEvent.malloc k.keyArraySize ::
            (k.handle ++ freed (some 0)) := by
          simp [handle, hret, socketEvents, freed]
        simp [hcodes, hfail]
      · have hfail : .socketFailed ∈ KeysEvent.malloc k.keyArraySize ::
            (k.handle ++ freed (some code)) := by
          refine List.mem_cons_of_mem _ (List.mem_append_left _ (List.mem_append_right _ ?_))
          rw [hret, socketEvents_failed (by simpa using hzero)]
          simp
        simp [hfail, hzero]

end

/-- OK is sent whatever becomes of the keys, and nothing without memory. -/
theorem navigatorKeys_iff (k : KeyCommand) : k.Sound ↔ k.Fine := by
  unfold Fine
  by_cases hcount : k.getCount.ret = some 0
  · cases hmemory : k.allocates with
    | false => exact iff_of_false (not_sound_unallocated hcount hmemory) (by simp [hcount])
    | true =>
      simp only [hcount, forall_const, true_and]
      by_cases hkeys : k.getKeys.ret = some 0
      · rw [sound_handled_iff hcount hmemory hkeys, holds_iff hcount hkeys]
        simp only [hkeys, forall_const]
      · exact iff_of_true (sound_keys hcount hmemory hkeys) fun h => absurd h hkeys
  · exact iff_of_true (sound_count hcount) fun h => absurd h hcount

theorem not_navigatorKeys_unallocated :
    ¬Sound ⟨64, false, [⟨false, none, false, none, true, .count 4⟩], [1, 0, 0, 0], false,
      fun _ => 0, true, some 0, true⟩ :=
  not_sound_unallocated (by decide +kernel) (by decide +kernel)

end KeyCommand

end WikoPlatform.Chipone.NavigatorKeys
