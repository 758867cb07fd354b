import WikoPlatform.Chipone.ResponseBuffer
import WikoPlatform.Chipone.TaProxy

/-! `fpTacImpl::enumerate`, which has room for 20 fingers, while a response of the TA has 5 and a
number that the TA chooses. -/

namespace WikoPlatform.Chipone

def fpConfigMaxEnrollSlots : Nat := 20

/-- The response with room for `FINGER_MAX_COUNT` ids. -/
structure EnrolFids where
  fids : List Int
  fidCnt : Int
  length_eq : fids.length = fingerMaxCount

inductive EnumerateEvent where
  | unsetCount
  | beyond (i : Nat)
  | notify (msg : FingerprintMsg)
  deriving DecidableEq

def EnumerateEvent.isNotify : EnumerateEvent → Bool
  | .notify _ => true
  | _ => false

structure Enumeration where
  proxy : TaProxy
  exchange : Exchange
  rsp : EnrolFids
  activeGid : Int
  stopStatus : Nat → Bool
  /-- What is in the place of `fid_cnt` before it is written. -/
  stackCnt : Int
  /-- What is in the place of `fid_array` before it is written, and behind it. -/
  stack : Nat → Int

namespace Enumeration

def fetched (e : Enumeration) : Bool :=
  (TaProxy.getEnrolledFids e.exchange e.proxy).result = some 0

/-- `memcpy` writes as many ids as the response has. -/
def fidArray (e : Enumeration) (i : Nat) : Int :=
  if e.fetched then e.rsp.fids.getD i (e.stack i) else e.stack i

def fidCnt (e : Enumeration) : Int := if e.fetched then e.rsp.fidCnt else e.stackCnt

def round (e : Enumeration) (i : Nat) : List EnumerateEvent :=
  (if i < fpConfigMaxEnrollSlots then [] else [.beyond i]) ++
    [.notify (.enumerating e.activeGid (e.fidArray i) (e.fidCnt - 1 - i))]

def rounds (e : Enumeration) : Nat → Nat → List EnumerateEvent × Int
  | 0, _ => ([], 0)
  | n + 1, i =>
    if e.stopStatus i then ([], -fpErrorUserCancel)
    else
      let rest := e.rounds n (i + 1)
      (e.round i ++ rest.1, rest.2)

def enumerate (e : Enumeration) : List EnumerateEvent × Int :=
  let all := e.rounds e.fidCnt.toNat 0
  ((if e.fetched then [] else [.unsetCount]) ++ all.1, all.2)

def enrolled (e : Enumeration) : List Int := e.rsp.fids.take e.rsp.fidCnt.toNat

def messages (e : Enumeration) : List EnumerateEvent :=
  (List.range e.enrolled.length).map fun i => .notify
    (.enumerating e.activeGid (e.enrolled.getD i 0) (e.enrolled.length - 1 - i))

def Unstopped (e : Enumeration) : Prop := ∀ i : Nat, i < e.fidCnt → e.stopStatus i = false

/-- All that is read was written, and every finger is notified. -/
structure Sound (e : Enumeration) : Prop where
  safe : ∀ event ∈ e.enumerate.1, event.isNotify = true
  complete : e.Unstopped → e.enumerate.2 ≠ 0 ∧ e.enumerate.1 = [] ∨ e.enumerate.1 = e.messages

section

variable {e : Enumeration} {n i : Nat}

theorem rounds_unstopped (h : ∀ j, i ≤ j → j < i + n → e.stopStatus j = false) :
    e.rounds n i = ((List.range' i n).flatMap e.round, 0) := by
  induction n generalizing i with
  | zero => rfl
  | succ n ih =>
    have hgoes : ¬e.stopStatus i = true := by simp [h i (Nat.le_refl i) (by omega)]
    rw [rounds, if_neg hgoes, ih fun j hi hj => h j (by omega) (by omega)]
    rfl

theorem round_safe_iff (i : Nat) :
    (∀ event ∈ e.round i, event.isNotify = true) ↔ i < fpConfigMaxEnrollSlots := by
  unfold round
  split <;> simp [EnumerateEvent.isNotify, *]

theorem rounds_safe_iff (hi : i ≤ fpConfigMaxEnrollSlots) :
    (∀ event ∈ (e.rounds n i).1, event.isNotify = true) ↔ (fpConfigMaxEnrollSlots < i + n →
        ∃ j, i ≤ j ∧ j ≤ fpConfigMaxEnrollSlots ∧ e.stopStatus j = true) := by
  induction n generalizing i with
  | zero =>
    refine iff_of_true (by simp [rounds]) fun h => ?_
    omega
  | succ n ih =>
    rw [rounds]
    by_cases hstop : e.stopStatus i = true
    · rw [if_pos hstop]
      exact iff_of_true (by simp) fun _ => ⟨i, Nat.le_refl i, hi, hstop⟩
    · rw [if_neg hstop]
      simp only [List.forall_mem_append, round_safe_iff]
      by_cases hlast : i < fpConfigMaxEnrollSlots
      · have hsame : i + 1 + n = i + (n + 1) := by omega
        rw [and_iff_right hlast, ih hlast, hsame]
        refine imp_congr_right fun _ => exists_congr fun j => and_congr_left fun h => ?_
        have hne : i ≠ j := fun hij => hstop (hij ▸ h.2)
        omega
      · refine iff_of_false (fun h => hlast h.1) fun h => ?_
        obtain ⟨j, hj, hle, hset⟩ := h (by omega)
        have hij : i = j := by omega
        exact hstop (hij ▸ hset)

theorem length_flatMap_round (n : Nat) : n ≤ ((List.range n).flatMap e.round).length := by
  have hround : ∀ i, 1 ≤ (e.round i).length := fun i => by simp [round]
  induction n with
  | zero => exact Nat.zero_le _
  | succ n ih =>
    have := hround n
    rw [List.range_succ, List.flatMap_append, List.length_append, List.flatMap_singleton]
    omega

theorem length_enrolled : e.enrolled.length = min e.rsp.fidCnt.toNat fingerMaxCount := by
  rw [enrolled, List.length_take, e.rsp.length_eq]

theorem flatMap_round_eq (hfetch : e.fetched = true) (hcnt : e.rsp.fidCnt ≤ fingerMaxCount) :
    (List.range e.rsp.fidCnt.toNat).flatMap e.round = e.messages := by
  have hlength : e.enrolled.length = e.rsp.fidCnt.toNat := by
    rw [length_enrolled]
    omega
  rw [messages, hlength, List.map_eq_flatMap]
  refine List.flatMap_congr fun i hi => ?_
  have hlt := List.mem_range.mp hi
  have hfive : i < e.rsp.fids.length := by
    rw [e.rsp.length_eq]
    omega
  have hslot : i < fpConfigMaxEnrollSlots := by
    rw [fpConfigMaxEnrollSlots]
    rw [e.rsp.length_eq, fingerMaxCount] at hfive
    omega
  have hid : e.fidArray i = e.enrolled.getD i 0 := by
    rw [fidArray, if_pos hfetch, enrolled, List.getD_eq_getElem?_getD, List.getD_eq_getElem?_getD,
      List.getElem?_take_of_lt hlt, List.getElem?_eq_getElem hfive]
    rfl
  have hremaining : e.fidCnt - 1 - i = (e.rsp.fidCnt.toNat : Int) - 1 - i := by
    rw [fidCnt, if_pos hfetch]
    omega
  rw [round, if_pos hslot, List.nil_append, hid, hremaining]

theorem enumerate_of_fetched (h : e.fetched = true) :
    e.enumerate = e.rounds e.rsp.fidCnt.toNat 0 := by
  rw [enumerate, fidCnt, if_pos h, if_pos h]
  rfl

theorem safe_iff (h : e.fetched = true) : (∀ event ∈ e.enumerate.1, event.isNotify = true) ↔
      (fpConfigMaxEnrollSlots < e.rsp.fidCnt →
        ∃ j ≤ fpConfigMaxEnrollSlots, e.stopStatus j = true) := by
  rw [enumerate_of_fetched h, rounds_safe_iff (Nat.zero_le _)]
  have hcnt : fpConfigMaxEnrollSlots < 0 + e.rsp.fidCnt.toNat ↔
      (fpConfigMaxEnrollSlots : Int) < e.rsp.fidCnt := by omega
  rw [hcnt]
  exact imp_congr_right fun _ => exists_congr fun j => and_iff_right (Nat.zero_le j)

theorem complete_iff (h : e.fetched = true) (hunstop : e.Unstopped) :
    (e.enumerate.2 ≠ 0 ∧ e.enumerate.1 = [] ∨ e.enumerate.1 = e.messages) ↔
      e.rsp.fidCnt ≤ fingerMaxCount := by
  have hcnt : e.fidCnt = e.rsp.fidCnt := by rw [fidCnt, if_pos h]
  have hall : e.rounds e.fidCnt.toNat 0 = _ := rounds_unstopped fun j _ hj => hunstop j (by omega)
  rw [← List.range_eq_range', hcnt, ← enumerate_of_fetched h] at hall
  rw [hall]
  dsimp only
  constructor
  · rintro (⟨herror, -⟩ | hmsgs)
    · exact absurd rfl herror
    · -- there are no more messages than ids in the response
      have hle := length_flatMap_round (e := e) e.rsp.fidCnt.toNat
      rw [hmsgs, messages, List.length_map, List.length_range, length_enrolled] at hle
      omega
  · intro hfew
    exact .inr (flatMap_round_eq h hfew)

end

/-- The TA's number has to be there and small enough, unless stopped. -/
theorem enumerationSound_iff (e : Enumeration) : e.Sound ↔ e.fetched = true ∧
      (fpConfigMaxEnrollSlots < e.rsp.fidCnt →
        ∃ j ≤ fpConfigMaxEnrollSlots, e.stopStatus j = true) ∧
      ((∀ i : Nat, i < e.rsp.fidCnt → e.stopStatus i = false) → e.rsp.fidCnt ≤ fingerMaxCount) := by
  cases hfetch : e.fetched with
  | false =>
    refine iff_of_false (fun h => ?_) (by simp)
    have hunset := h.safe .unsetCount (by simp [enumerate, hfetch])
    exact absurd hunset (by simp [EnumerateEvent.isNotify])
  | true =>
    have hunstop : e.Unstopped ↔ ∀ i : Nat, i < e.rsp.fidCnt → e.stopStatus i = false := by
      rw [Unstopped, fidCnt, if_pos hfetch]
    rw [and_iff_right rfl, ← hunstop]
    constructor
    · intro h
      exact ⟨(safe_iff hfetch).mp h.safe,
        fun hall => (complete_iff hfetch hall).mp (h.complete hall)⟩
    · rintro ⟨hstops, hfew⟩
      exact ⟨(safe_iff hfetch).mpr hstops,
        fun hall => (complete_iff hfetch hall).mpr (hfew hall)⟩

theorem not_enumerationSound_uninitilized :
    ¬Sound ⟨⟨false, ⟨none, none, 0, 0⟩⟩, ⟨true, true, 0, 0, 0⟩, ⟨[0, 0, 0, 0, 0], 0, rfl⟩, 0,
      fun _ => false, 1, fun _ => 0⟩ := by
  intro h
  exact absurd (h.safe .unsetCount (by decide +kernel)) (by decide)

end Enumeration

end WikoPlatform.Chipone
