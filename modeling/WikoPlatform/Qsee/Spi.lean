import WikoPlatform.Lib.Act

/-! The SPI port of the sensor: a transfer opens a port that is closed, and closes it after an error
that a new try may mend. -/

namespace WikoPlatform.Qsee.Spi

open Runs Act

inductive QseeCall where
  | spiOpen (ret : Int)
  | spiFullDuplex (txBytes rxBytes : Int) (ret : Int)
  | spiClose (ret : Int)
  deriving DecidableEq

abbrev Port (α : Type) : Type := Act Int QseeCall α

def fpsensorSpiInit (openRet : Int) : Port Int := do
  emit (.spiOpen openRet)
  if openRet ≠ 0 then return openRet
  else
    modify fun _ => 1
    return openRet

def fpsensorSpiClkDisable (closeRet : Int) : Port Int := do
  if (← get) = 0 then return 0
  else
    emit (.spiClose closeRet)
    if closeRet ≠ 0 then return closeRet
    else
      modify fun _ => 0
      return closeRet

/-- What the calls of one try return. -/
structure Attempt where
  openRet : Int
  duplexRet : Int
  closeRet : Int
  deriving DecidableEq

def enableSpi (openRet : Int) : Port Int := do
  if (← get) = 0 then
    emit (.spiOpen openRet)
    if openRet ≠ 0 then return openRet
    else
      modify fun _ => 1
      return 0
  else return 0

/-- `again` comes after an error that may be mended. -/
def spiPass (txBytes rxBytes : Int) (a : Attempt) (again : Port Int) : Port Int := do
  let opened ← enableSpi a.openRet
  if opened ≠ 0 then return opened
  else
    emit (.spiFullDuplex txBytes rxBytes a.duplexRet)
    if a.duplexRet = -1 then
      let _ ← fpsensorSpiClkDisable a.closeRet
      again
    else return a.duplexRet

def spiRetry (txBytes rxBytes : Int) (attempt : Nat → Attempt) : Nat → Port Int
  | 0 => spiPass txBytes rxBytes (attempt 0) (return -1)
  | left + 1 =>
    spiPass txBytes rxBytes (attempt (left + 1)) (spiRetry txBytes rxBytes attempt left)

def fpsensorSpiWriteread (txBytes rxBytes : Int) (attempt : Nat → Attempt) : Port Int :=
  spiRetry txBytes rxBytes attempt 3

def fpsensorSpiWritereadFifo (txLen sendLen : Int) (attempt : Nat → Attempt) : Port Int :=
  fpsensorSpiWriteread txLen sendLen attempt

def fpsensorSpiWritereadDma (sendLen : Int) (attempt : Nat → Attempt) : Port Int :=
  fpsensorSpiWriteread sendLen sendLen attempt

inductive Request where
  | spiInit (openRet : Int)
  | writereadFifo (txLen sendLen : Int) (attempt : Nat → Attempt)
  | writereadDma (sendLen : Int) (attempt : Nat → Attempt)
  | clkDisable (closeRet : Int)

def Request.perform : Request → Port Int
  | .spiInit openRet => fpsensorSpiInit openRet
  | .writereadFifo txLen sendLen attempt => fpsensorSpiWritereadFifo txLen sendLen attempt
  | .writereadDma sendLen attempt => fpsensorSpiWritereadDma sendLen attempt
  | .clkDisable closeRet => fpsensorSpiClkDisable closeRet

def spiStep (spiClkEnabled : Int) (r : Request) : List QseeCall × Int :=
  ((r.perform spiClkEnabled).trace, (r.perform spiClkEnabled).state)

def QseeCall.isTransfer : QseeCall → Bool
  | .spiFullDuplex .. => true
  | _ => false

def balance (calls : List QseeCall) : Int :=
  calls.count (.spiOpen 0) - calls.count (.spiClose 0)

def transfers (calls : List QseeCall) : Nat := calls.countP QseeCall.isTransfer

structure SpiSound (requests : List Request) : Prop where
  balanced : ∀ n, balance (run spiStep 0 (requests.take n)).1 = (run spiStep 0 (requests.take n)).2
  opened : Justified (fun before call => call.isTransfer = true → 0 < balance before)
    (run spiStep 0 requests).1
  few : Meets spiStep (fun spiClkEnabled r => transfers (spiStep spiClkEnabled r).1 ≤ 4) 0 requests

/-- The port is not opened by `fpsensor_spi_init` when it is open. -/
def OpensOnce (spiClkEnabled : Int) : Request → Prop
  | .spiInit openRet => openRet = 0 → spiClkEnabled = 0
  | _ => True

/-- The port has been opened `surplus` times more than the flag says, and was open at every
transfer. -/
structure Flagged (surplus : Nat) (trace : List QseeCall) (spiClkEnabled : Int) : Prop where
  flag : spiClkEnabled = 0 ∨ spiClkEnabled = 1
  surplus : balance trace = spiClkEnabled + surplus
  opened : Justified (fun before call => call.isTransfer = true → 0 < balance before) trace

@[simp] theorem balance_nil : balance [] = 0 := rfl

theorem balance_append (calls rest : List QseeCall) :
    balance (calls ++ rest) = balance calls + balance rest := by
  simp only [balance, List.count_append]
  omega

theorem balance_open_zero : balance [.spiOpen 0] = 1 := rfl

theorem balance_close_zero : balance [.spiClose 0] = -1 := rfl

variable {ret : Int}

theorem balance_open (h : ret ≠ 0) : balance [.spiOpen ret] = 0 := by
  simp [balance, h]

theorem balance_close (h : ret ≠ 0) : balance [.spiClose ret] = 0 := by
  simp [balance, h]

theorem balance_transfer (txBytes rxBytes ret : Int) :
    balance [.spiFullDuplex txBytes rxBytes ret] = 0 := rfl

section

variable {surplus : Nat} {trace : List QseeCall} {spiClkEnabled : Int}

theorem Flagged.right_iff (h : Flagged surplus trace spiClkEnabled) :
    balance trace = spiClkEnabled ↔ surplus = 0 := by
  rw [h.surplus]
  omega

theorem Flagged.call (h : Flagged surplus trace spiClkEnabled) {call : QseeCall}
    (hcall : call.isTransfer = false) {enabled : Int} (hflag : enabled = 0 ∨ enabled = 1)
    {surplus' : Nat} (hsurplus : spiClkEnabled + surplus + balance [call] = enabled + surplus') :
    Flagged surplus' (trace ++ [call]) enabled where
  flag := hflag
  surplus := by rw [balance_append, h.surplus, hsurplus]
  opened := h.opened.snoc (by simp [hcall])

theorem Flagged.transfer (h : Flagged surplus trace 1) (txBytes rxBytes ret : Int) :
    Flagged surplus (trace ++ [.spiFullDuplex txBytes rxBytes ret]) 1 where
  flag := h.flag
  surplus := by rw [balance_append, h.surplus, balance_transfer, Int.add_zero]
  opened := h.opened.snoc fun _ => by rw [h.surplus]; omega

theorem clkDisable_keeps (closeRet : Int) :
    Keeps (Flagged surplus) (fpsensorSpiClkDisable closeRet) := by
  intro trace spiClkEnabled h
  simp only [fpsensorSpiClkDisable, get_bind]
  by_cases hclosed : spiClkEnabled = 0
  · rw [if_pos hclosed]
    simpa using h
  · rw [if_neg hclosed]
    by_cases hclose : closeRet = 0
    · simp only [hclose, ne_eq, not_true_eq_false, if_false, emit_bind, modify_bind, pure_apply]
      refine h.call rfl (.inl rfl) ?_
      rw [h.flag.resolve_left hclosed, balance_close_zero]
      omega
    · simp only [ne_eq, hclose, not_false_eq_true, if_true, emit_bind, pure_apply]
      refine h.call rfl h.flag ?_
      rw [balance_close hclose, Int.add_zero]

theorem enableSpi_spec (h : Flagged surplus trace spiClkEnabled) (openRet : Int) :
    ∃ opened, (enableSpi openRet spiClkEnabled).result = some opened ∧
      Flagged surplus (trace ++ (enableSpi openRet spiClkEnabled).trace)
        (enableSpi openRet spiClkEnabled).state ∧
      (opened = 0 → (enableSpi openRet spiClkEnabled).state = 1) := by
  simp only [enableSpi, get_bind]
  by_cases hclosed : spiClkEnabled = 0
  · rw [if_pos hclosed]
    by_cases hopen : openRet = 0
    · simp only [hopen, ne_eq, not_true_eq_false, if_false, emit_bind, modify_bind, pure_apply]
      refine ⟨0, rfl, h.call rfl (.inr rfl) ?_, fun _ => trivial⟩
      rw [balance_open_zero]
      omega
    · simp only [ne_eq, hopen, not_false_eq_true, if_true, emit_bind, pure_apply]
      refine ⟨openRet, rfl, h.call rfl h.flag ?_, fun hzero => absurd hzero hopen⟩
      rw [balance_open hopen, Int.add_zero]
  · rw [if_neg hclosed]
    refine ⟨0, rfl, by simpa using h, fun _ => h.flag.resolve_left hclosed⟩

theorem spiPass_keeps (txBytes rxBytes : Int) {a : Attempt} {again : Port Int}
    (hagain : Keeps (Flagged surplus) again) :
    Keeps (Flagged surplus) (spiPass txBytes rxBytes a again) := by
  intro trace spiClkEnabled h
  obtain ⟨opened, hres, hflagged, hopened⟩ := enableSpi_spec h a.openRet
  unfold spiPass
  rw [bind_some hres]
  by_cases hzero : opened = 0
  · -- the port is open now, and the transfer leaves the flag as it is
    rw [hopened hzero] at hflagged ⊢
    have hrest : Keeps (Flagged surplus) (if a.duplexRet = -1 then
        (do let _ ← fpsensorSpiClkDisable a.closeRet; again) else pure a.duplexRet) :=
      .ite (.bind (clkDisable_keeps a.closeRet) fun _ => hagain) (.pure a.duplexRet)
    have hdone := hrest _ _ (hflagged.transfer txBytes rxBytes a.duplexRet)
    rw [List.append_assoc, List.append_assoc, List.singleton_append] at hdone
    simpa only [hzero, ne_eq, not_true_eq_false, if_false, emit_bind] using hdone
  · simpa [hzero] using hflagged

theorem spiRetry_keeps {txBytes rxBytes : Int} {attempt : Nat → Attempt} {left : Nat} :
    Keeps (Flagged surplus) (spiRetry txBytes rxBytes attempt left) := by
  induction left with
  | zero => exact spiPass_keeps txBytes rxBytes (.pure (-1))
  | succ left ih => exact spiPass_keeps txBytes rxBytes ih

theorem spiInit_flagged (h : Flagged surplus trace spiClkEnabled) (openRet : Int) :
    ∃ surplus', Flagged surplus' (trace ++ (spiStep spiClkEnabled (.spiInit openRet)).1)
        (spiStep spiClkEnabled (.spiInit openRet)).2 ∧
      (surplus' = 0 ↔ surplus = 0 ∧ OpensOnce spiClkEnabled (.spiInit openRet)) := by
  simp only [spiStep, Request.perform, fpsensorSpiInit, emit_bind, OpensOnce]
  by_cases hopen : openRet = 0
  · simp only [hopen, ne_eq, not_true_eq_false, if_false, modify_bind, pure_apply, forall_const]
    rcases h.flag with hflag | hflag
    · refine ⟨surplus, h.call rfl (.inr rfl) ?_, (and_iff_left hflag).symm⟩
      rw [balance_open_zero]
      omega
    · refine ⟨surplus + 1, h.call rfl (.inr rfl) ?_, by simp [hflag]⟩
      rw [balance_open_zero]
      omega
  · simp only [ne_eq, hopen, not_false_eq_true, if_true, pure_apply]
    refine ⟨surplus, h.call rfl h.flag ?_, by simp⟩
    rw [balance_open hopen, Int.add_zero]

theorem perform_flagged (h : Flagged surplus trace spiClkEnabled) (r : Request) :
    ∃ surplus', Flagged surplus' (trace ++ (spiStep spiClkEnabled r).1)
        (spiStep spiClkEnabled r).2 ∧ (surplus' = 0 ↔ surplus = 0 ∧ OpensOnce spiClkEnabled r) := by
  have hkept : Keeps (Flagged surplus) r.perform → OpensOnce spiClkEnabled r →
      ∃ surplus', Flagged surplus' (trace ++ (spiStep spiClkEnabled r).1)
          (spiStep spiClkEnabled r).2 ∧
        (surplus' = 0 ↔ surplus = 0 ∧ OpensOnce spiClkEnabled r) :=
    fun hkeeps honce => ⟨surplus, hkeeps _ _ h, (and_iff_left honce).symm⟩
  cases r with
  | spiInit openRet => exact spiInit_flagged h openRet
  | writereadFifo txLen sendLen attempt | writereadDma sendLen attempt =>
    exact hkept spiRetry_keeps trivial
  | clkDisable closeRet => exact hkept (clkDisable_keeps closeRet) trivial

end

section

variable {α β : Type} {m n : Nat} {x : Port α}

def Few (n : Nat) (x : Port α) : Prop := ∀ spiClkEnabled, transfers (x spiClkEnabled).trace ≤ n

theorem Few.pure (a : α) : Few 0 (Pure.pure a : Port α) := fun _ => Nat.le_refl 0

theorem Few.bind {f : α → Port β} (hx : Few m x) (hf : ∀ a, Few n (f a)) :
    Few (m + n) (x >>= f) := by
  intro spiClkEnabled
  cases hr : (x spiClkEnabled).result with
  | none =>
    rw [bind_none hr]
    exact Nat.le_trans (hx spiClkEnabled) (Nat.le_add_right m n)
  | some a =>
    rw [bind_some hr, transfers, List.countP_append]
    exact Nat.add_le_add (hx spiClkEnabled) (hf a _)

theorem Few.mono (hx : Few m x) (h : m ≤ n) : Few n x :=
  fun spiClkEnabled => Nat.le_trans (hx spiClkEnabled) h

theorem enableSpi_few (openRet : Int) : Few 0 (enableSpi openRet) := by
  intro spiClkEnabled
  simp only [enableSpi, get_bind]
  split_ifs <;> exact Nat.le_refl 0

theorem clkDisable_few (closeRet : Int) : Few 0 (fpsensorSpiClkDisable closeRet) := by
  intro spiClkEnabled
  simp only [fpsensorSpiClkDisable, get_bind]
  split_ifs <;> exact Nat.le_refl 0

theorem spiPass_few (txBytes rxBytes : Int) {a : Attempt} {again : Port Int} (h : Few n again) :
    Few (n + 1) (spiPass txBytes rxBytes a again) := by
  have hduplex : Few 1 (emit (.spiFullDuplex txBytes rxBytes a.duplexRet) : Port Unit) :=
    fun _ => Nat.le_refl 1
  have hrest : Few n (if a.duplexRet = -1 then
      (do let _ ← fpsensorSpiClkDisable a.closeRet; again) else pure a.duplexRet) := by
    split
    · exact ((clkDisable_few a.closeRet).bind fun _ => h).mono (by omega)
    · exact (Few.pure _).mono (Nat.zero_le n)
  refine ((enableSpi_few a.openRet).bind fun opened => ?_).mono (Nat.le_of_eq (Nat.zero_add _))
  split
  · exact (Few.pure _).mono (Nat.zero_le _)
  · exact (hduplex.bind fun _ => hrest).mono (by omega)

theorem spiRetry_few {txBytes rxBytes : Int} {attempt : Nat → Attempt} (left : Nat) :
    Few (left + 1) (spiRetry txBytes rxBytes attempt left) := by
  induction left with
  | zero => exact spiPass_few txBytes rxBytes (Few.pure _)
  | succ left ih => exact spiPass_few txBytes rxBytes ih

theorem perform_few (r : Request) : Few 4 r.perform := by
  cases r with
  | spiInit openRet =>
    intro spiClkEnabled
    simp only [Request.perform, fpsensorSpiInit, emit_bind]
    split_ifs <;> exact Nat.zero_le 4
  | writereadFifo | writereadDma => exact spiRetry_few 3
  | clkDisable closeRet => exact (clkDisable_few closeRet).mono (Nat.zero_le 4)

end

def Kept (trace : List QseeCall) (spiClkEnabled : Int) : Prop :=
  ∃ surplus, Flagged surplus trace spiClkEnabled

theorem kept_step (trace : List QseeCall) (spiClkEnabled : Int) (r : Request)
    (h : Kept trace spiClkEnabled) :
    Kept (trace ++ (spiStep spiClkEnabled r).1) (spiStep spiClkEnabled r).2 ∧
      (balance (trace ++ (spiStep spiClkEnabled r).1) = (spiStep spiClkEnabled r).2 ↔
        balance trace = spiClkEnabled ∧ OpensOnce spiClkEnabled r) := by
  obtain ⟨surplus, h⟩ := h
  obtain ⟨surplus', h', hiff⟩ := perform_flagged h r
  refine ⟨⟨surplus', h'⟩, ?_⟩
  rw [h.right_iff, h'.right_iff, hiff]

/-- The flag is right exactly if an open port is not opened. -/
theorem spiSound_iff (requests : List Request) :
    SpiSound requests ↔ Meets spiStep OpensOnce 0 requests := by
  have hstart : Kept [] 0 := ⟨0, .inl rfl, rfl, .nil⟩
  have hiff : ∀ requests, balance (run spiStep 0 requests).1 = (run spiStep 0 requests).2 ↔
      Meets spiStep OpensOnce 0 requests := by
    intro requests
    have hrun := run_iff_and_meets (P := fun trace enabled => balance trace = enabled)
      kept_step requests hstart
    have hnone : balance [] = 0 := rfl
    rwa [and_iff_right hnone] at hrun
  refine ⟨fun h => ?_, fun h => ⟨fun n => (hiff _).mpr (h.take n), ?_, ?_⟩⟩
  · have hlast := h.balanced requests.length
    rw [List.take_length] at hlast
    exact (hiff requests).mp hlast
  · have hkept : Kept ([] ++ (run spiStep 0 requests).1) (run spiStep 0 requests).2 :=
      run_invariant_all (fun trace enabled r hinv => (kept_step trace enabled r hinv).1) hstart
    obtain ⟨surplus, hflagged⟩ := hkept
    exact hflagged.opened
  · exact (meets_true 0 requests).mono fun spiClkEnabled r _ => perform_few r spiClkEnabled

theorem not_spiSound_twice : ¬SpiSound [.spiInit 0, .spiInit 0] := by
  intro h
  exact absurd (h.balanced 2) (by decide)

end WikoPlatform.Qsee.Spi
