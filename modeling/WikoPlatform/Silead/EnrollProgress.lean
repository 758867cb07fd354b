import Mathlib.Algebra.Group.Int.Defs
import Mathlib.Data.List.Forall2
import Mathlib.Order.Basic
import WikoPlatform.Chipone.Message
import WikoPlatform.Lib.Runs

/-! The samples that the Silead HAL reports as missing during an enrolment.  It guesses their number
from the first percentage, and from then on counts reports. -/

namespace WikoPlatform.Silead

open Runs
open Chipone (FingerprintMsg)

inductive EnrollResult where
  | success
  | detectFingerOk
  | notSupport
  | enrollError
  | enrollFail
  | currEnrFail
  | checkImgFail
  | currImgBad
  | checkError
  | lowCoverage
  | lowQuality
  | sameArea
  | other
  deriving DecidableEq

def EnrollResult.acquiredInfo : EnrollResult → Int
  | .currImgBad | .checkImgFail | .lowQuality => 2
  | .lowCoverage => 1
  | .checkError => 6
  | .sameArea => 7
  | _ => 5

/-- What the HAL remembers of an enrolment. -/
structure Progress where
  lastPercent : Int
  step : Int

/-- A message, or the division that ends the process. -/
inductive Sent where
  | message (msg : FingerprintMsg)
  | dividedByZero
  deriving DecidableEq

structure EnrollReport where
  index : Int
  percent : Int
  result : EnrollResult
  userid : Int

def samples (percent : Int) : Int := if percent = 6 then 15 else Int.tdiv 100 percent

def advance (p : Progress) (percent : Int) : Progress :=
  let lastPercent := if p.lastPercent ≥ percent then 0 else p.lastPercent
  let step := if lastPercent = 0 then samples percent else p.step
  ⟨percent, if percent > lastPercent then if step > 0 then step - 1 else step else step⟩

def divides (p : Progress) (percent : Int) : Bool :=
  (p.lastPercent ≥ percent || p.lastPercent = 0) && percent == 0

def enrollCredentialRSP (p : Progress) (r : EnrollReport) : List Sent × Progress :=
  match r.result with
  | .success =>
    if divides p r.percent then ([.dividedByZero], p)
    else
      let next := advance p r.percent
      ([.message (.enrolling r.userid (r.index + 1) next.step)], next)
  | .detectFingerOk => ([.message (.acquired 0)], p)
  | .notSupport | .enrollError | .enrollFail | .currEnrFail => ([.message (.error 5)], p)
  | .checkImgFail | .currImgBad | .checkError | .lowCoverage | .lowQuality | .sameArea =>
    ([.message (.acquired r.result.acquiredInfo)], p)
  | .other => ([], p)

/-- `fingerprint_enroll` leaves `mStep` as it is. -/
def enrolled (p : Progress) : Progress := { p with lastPercent := 0 }

def Sent.remaining : Sent → Option Int
  | .message (.enrolling _ _ samplesRemaining) => some samplesRemaining
  | _ => none

def remainings (trace : List Sent) : List Int := trace.filterMap Sent.remaining

def percents (reports : List EnrollReport) : List Int :=
  (reports.filter (·.result = .success)).map EnrollReport.percent

/-- No division by zero; the missing samples never go up; and they are 0 in the report of 100
percent only. -/
structure ProgressSound (percents : List Int) (trace : List Sent) : Prop where
  divided : .dividedByZero ∉ trace
  descending : (remainings trace).Pairwise (· ≥ ·)
  zero : List.Forall₂ (fun percent remaining => remaining = 0 ↔ percent = 100) percents
    (remainings trace)

def countdown (k n : Nat) : List Int := (List.range n).map fun i => ((k - i : Nat) : Int)

theorem countdown_zero (k : Nat) : countdown k 0 = [] := rfl

theorem countdown_succ (k n : Nat) : countdown k (n + 1) = (k : Int) :: countdown (k - 1) n := by
  simp only [countdown, List.range_succ_eq_map, List.map_cons, List.map_map, Nat.sub_zero]
  congr 1
  apply List.map_congr_left
  intro i _
  simp only [Function.comp_apply, Nat.succ_eq_add_one]
  omega

variable {k : Nat} {p : Progress} {r : EnrollReport} {reports : List EnrollReport} {first : Int}
  {rest : List Int}

theorem countdown_descending {n : Nat} : (countdown k n).Pairwise (· ≥ ·) := by
  refine List.Pairwise.map _ ?_ List.pairwise_lt_range
  intro i j hij
  omega

theorem other_report (h : r.result ≠ .success) :
    (enrollCredentialRSP p r).2 = p ∧ .dividedByZero ∉ (enrollCredentialRSP p r).1 ∧
      remainings (enrollCredentialRSP p r).1 = [] := by
  unfold enrollCredentialRSP
  cases hres : r.result with
  | success => exact absurd hres h
  | _ => exact ⟨rfl, by simp, rfl⟩

theorem later_report (h : r.result = .success) (hlast : 0 < p.lastPercent)
    (hpercent : p.lastPercent < r.percent) (hstep : p.step = k) : enrollCredentialRSP p r =
      ([.message (.enrolling r.userid (r.index + 1) (k - 1 : Nat))],
        ⟨r.percent, ((k - 1 : Nat) : Int)⟩) := by
  have hdivides : divides p r.percent = false := by
    simp [divides]
    omega
  have hadvance : advance p r.percent = ⟨r.percent, ((k - 1 : Nat) : Int)⟩ := by
    have h1 : ¬p.lastPercent ≥ r.percent := by omega
    have h2 : ¬p.lastPercent = 0 := by omega
    simp only [advance, if_neg h1, if_neg h2, if_pos hpercent, hstep]
    congr 1
    split <;> omega
  simp [enrollCredentialRSP, h, hdivides, hadvance]

theorem percents_cons (r : EnrollReport) (reports : List EnrollReport) : percents (r :: reports) =
      if r.result = .success then r.percent :: percents reports else percents reports := by
  unfold percents
  by_cases hr : r.result = .success
  · simp [hr]
  · simp [hr]

theorem remainings_append (trace rest : List Sent) :
    remainings (trace ++ rest) = remainings trace ++ remainings rest := List.filterMap_append

theorem run_other (p : Progress) (reports : List EnrollReport) (h : r.result ≠ .success) :
    (.dividedByZero ∈ (run enrollCredentialRSP p (r :: reports)).1 ↔
      .dividedByZero ∈ (run enrollCredentialRSP p reports).1) ∧
    remainings (run enrollCredentialRSP p (r :: reports)).1 =
      remainings (run enrollCredentialRSP p reports).1 := by
  obtain ⟨hstate, hdivided, hnone⟩ := other_report (p := p) h
  simp [run, hstate, hdivided, hnone, remainings_append]

theorem run_success {next : Progress} (reports : List EnrollReport) {fid remaining : Int}
    (h : enrollCredentialRSP p r = ([.message (.enrolling r.userid fid remaining)], next)) :
    (.dividedByZero ∈ (run enrollCredentialRSP p (r :: reports)).1 ↔
      .dividedByZero ∈ (run enrollCredentialRSP next reports).1) ∧
    remainings (run enrollCredentialRSP p (r :: reports)).1 =
      remaining :: remainings (run enrollCredentialRSP next reports).1 := by
  simp [run, h, remainings, Sent.remaining]

theorem run_later (hlast : 0 < p.lastPercent) (hstep : p.step = k)
    (hincreasing : (p.lastPercent :: percents reports).Pairwise (· < ·)) :
    .dividedByZero ∉ (run enrollCredentialRSP p reports).1 ∧
    remainings (run enrollCredentialRSP p reports).1 =
      countdown (k - 1) (percents reports).length := by
  induction reports generalizing p k with
  | nil => exact ⟨by simp [run], rfl⟩
  | cons r reports ih =>
    rw [percents_cons] at hincreasing ⊢
    by_cases hr : r.result = .success
    · rw [if_pos hr] at hincreasing ⊢
      obtain ⟨hall, hrest⟩ := List.pairwise_cons.mp hincreasing
      have hpercent := hall r.percent List.mem_cons_self
      obtain ⟨hdivided, hremaining⟩ := run_success reports
        (later_report hr hlast hpercent hstep)
      have hpositive : 0 < r.percent := by omega
      obtain ⟨hnone, hcount⟩ := ih (p := ⟨r.percent, ((k - 1 : Nat) : Int)⟩) hpositive rfl hrest
      rw [hdivided, hremaining, hcount, List.length_cons, countdown_succ]
      exact ⟨hnone, rfl⟩
    · rw [if_neg hr] at hincreasing ⊢
      obtain ⟨hdivided, hremaining⟩ := run_other p reports hr
      rw [hdivided, hremaining]
      exact ih hlast hstep hincreasing

theorem samples_pos {percent : Int} (h : 0 < percent) (hle : percent ≤ 100) :
    0 < samples percent := by
  unfold samples
  split
  · decide
  · rw [Int.tdiv_eq_ediv_of_nonneg (by decide)]
    exact (Int.le_ediv_iff_mul_le h).mpr (by omega)

theorem first_report (h : r.result = .success) (hlast : p.lastPercent = 0)
    (hpercent : 0 < r.percent) (hle : r.percent ≤ 100) : enrollCredentialRSP p r =
      ([.message (.enrolling r.userid (r.index + 1) (samples r.percent - 1))],
        ⟨r.percent, samples r.percent - 1⟩) := by
  have hsamples := samples_pos hpercent hle
  have hdivides : divides p r.percent = false := by
    simp [divides]
    omega
  have hadvance : advance p r.percent = ⟨r.percent, samples r.percent - 1⟩ := by
    simp [advance, hlast, hpercent, hsamples]
  simp [enrollCredentialRSP, h, hdivides, hadvance]

theorem run_none (h : percents reports = []) :
    .dividedByZero ∉ (run enrollCredentialRSP p reports).1 ∧
    remainings (run enrollCredentialRSP p reports).1 = [] := by
  induction reports with
  | nil => exact ⟨by simp [run], rfl⟩
  | cons r reports ih =>
    rw [percents_cons] at h
    by_cases hr : r.result = .success
    · simp [hr] at h
    · rw [if_neg hr] at h
      obtain ⟨hdivided, hremaining⟩ := run_other p reports hr
      rw [hdivided, hremaining]
      exact ih h

theorem run_leading (p : Progress) (h : percents reports = first :: rest) :
    ∃ r later, r.result = .success ∧ r.percent = first ∧ percents later = rest ∧
      (.dividedByZero ∈ (run enrollCredentialRSP p reports).1 ↔
        .dividedByZero ∈ (run enrollCredentialRSP p (r :: later)).1) ∧
      remainings (run enrollCredentialRSP p reports).1 =
        remainings (run enrollCredentialRSP p (r :: later)).1 := by
  induction reports with
  | nil => simp [percents] at h
  | cons r reports ih =>
    rw [percents_cons] at h
    by_cases hr : r.result = .success
    · rw [if_pos hr] at h
      obtain ⟨hfirst, hrest⟩ := List.cons.inj h
      exact ⟨r, reports, hr, hfirst, hrest, Iff.rfl, rfl⟩
    · rw [if_neg hr] at h
      obtain ⟨hdivided, hremaining⟩ := run_other p reports hr
      rw [hdivided, hremaining]
      exact ih h

theorem run_first (hlast : p.lastPercent = 0) (hpercents : percents reports = first :: rest)
    (hpos : 0 < first) (hle : first ≤ 100) (hincreasing : (first :: rest).Pairwise (· < ·)) :
    .dividedByZero ∉ (run enrollCredentialRSP p reports).1 ∧
    remainings (run enrollCredentialRSP p reports).1 =
      countdown ((samples first).toNat - 1) (rest.length + 1) := by
  obtain ⟨r, later, hr, rfl, rfl, hdivided, hremaining⟩ := run_leading p hpercents
  obtain ⟨hdivided', hremaining'⟩ := run_success later
    (first_report hr hlast hpos hle)
  have hsamples := samples_pos hpos hle
  have hstep : samples r.percent - 1 = (((samples r.percent).toNat - 1 : Nat) : Int) := by omega
  obtain ⟨hnone, hcount⟩ := run_later (p := ⟨r.percent, samples r.percent - 1⟩) hpos hstep
    hincreasing
  rw [hdivided, hdivided', hremaining, hremaining', hcount, countdown_succ]
  exact ⟨hnone, by rw [hstep]⟩

theorem run_zero (hlast : p.lastPercent = 0) (hpercents : percents reports = 0 :: rest) :
    .dividedByZero ∈ (run enrollCredentialRSP p reports).1 := by
  obtain ⟨r, later, hr, hpercent, -, hdivided, -⟩ := run_leading p hpercents
  rw [hdivided]
  simp [run, enrollCredentialRSP, hr, divides, hlast, hpercent]

theorem countdown_zero_iff (hincreasing : (first :: rest).Pairwise (· < ·))
    (hle : ∀ q ∈ first :: rest, q ≤ 100) :
    List.Forall₂ (fun percent remaining => remaining = 0 ↔ percent = 100) (first :: rest)
        (countdown k (rest.length + 1)) ↔
      if 100 ∈ first :: rest then rest.length = k else rest.length < k := by
  induction rest generalizing first k with
  | nil =>
    rw [List.length_nil, countdown_succ, countdown_zero, List.forall₂_cons,
      and_iff_left List.Forall₂.nil]
    by_cases hlast : first = 100
    · rw [if_pos (List.mem_singleton.mpr hlast.symm)]
      omega
    · rw [if_neg fun hmem => hlast (List.mem_singleton.mp hmem).symm]
      omega
  | cons second rest ih =>
    obtain ⟨hall, hrest⟩ := List.pairwise_cons.mp hincreasing
    have hsecond := hall second List.mem_cons_self
    have hle' : ∀ q ∈ second :: rest, q ≤ 100 := fun q hq => hle q (List.mem_cons_of_mem _ hq)
    have hne : first ≠ 100 := by
      have := hle' second List.mem_cons_self
      omega
    rw [List.length_cons, countdown_succ, List.forall₂_cons, ih hrest hle']
    by_cases hmem : 100 ∈ second :: rest
    · rw [if_pos hmem, if_pos (List.mem_cons_of_mem _ hmem)]
      omega
    · rw [if_neg hmem, if_neg (by simpa [Ne.symm hne] using hmem)]
      omega

/-- The guess from the first percentage has to be right. -/
theorem enrollProgress_sound_iff (p : Progress) (reports : List EnrollReport)
    (hincreasing : (percents reports).Pairwise (· < ·))
    (hbounds : ∀ q ∈ percents reports, 0 ≤ q ∧ q ≤ 100) :
    ProgressSound (percents reports) (run enrollCredentialRSP (enrolled p) reports).1 ↔
      ∀ first rest, percents reports = first :: rest → first ≠ 0 ∧
        if 100 ∈ percents reports then ((percents reports).length : Int) = samples first
        else ((percents reports).length : Int) < samples first := by
  rcases hpercents : percents reports with _ | ⟨first, rest⟩
  · obtain ⟨hdivided, hremaining⟩ := run_none hpercents
    refine iff_of_true ⟨hdivided, ?_, ?_⟩ (by simp)
    · simp [hremaining]
    · simp [hremaining]
  · rw [hpercents] at hincreasing hbounds
    have hfirst := hbounds first List.mem_cons_self
    by_cases hzero : first = 0
    · subst hzero
      refine iff_of_false (fun hsound => hsound.divided (run_zero rfl hpercents)) ?_
      intro h
      exact (h 0 rest rfl).1 rfl
    · have hpos : 0 < first := by omega
      obtain ⟨hdivided, hremaining⟩ := run_first (p := enrolled p) rfl hpercents hpos hfirst.2
        hincreasing
      have hsamples := samples_pos hpos hfirst.2
      have hmeets := countdown_zero_iff (k := (samples first).toNat - 1) hincreasing
        (fun q hq => (hbounds q hq).2)
      rw [← hremaining] at hmeets
      constructor
      · intro hsound first' rest' heq
        obtain ⟨rfl, rfl⟩ := List.cons.inj heq
        refine ⟨hzero, ?_⟩
        have hlength := hmeets.mp hsound.zero
        rw [List.length_cons]
        split
        · rw [if_pos ‹_›] at hlength
          omega
        · rw [if_neg ‹_›] at hlength
          omega
      · intro h
        obtain ⟨-, hlength⟩ := h first rest rfl
        refine ⟨hdivided, hremaining ▸ countdown_descending, hmeets.mpr ?_⟩
        rw [List.length_cons] at hlength
        split
        · rw [if_pos ‹_›] at hlength
          omega
        · rw [if_neg ‹_›] at hlength
          omega

def reported (percent : Int) : EnrollReport := ⟨0, percent, .success, 0⟩

theorem enrollProgress_sound_quarters : ProgressSound [25, 50, 75, 100]
      (run enrollCredentialRSP (enrolled ⟨100, 0⟩) ([25, 50, 75, 100].map reported)).1 :=
  (enrollProgress_sound_iff ⟨100, 0⟩ ([25, 50, 75, 100].map reported) (by decide) (by decide)).mpr
    fun first rest h => by
      obtain ⟨rfl, -⟩ := List.cons.inj h
      decide

theorem enrollProgress_not_sound :
    remainings (run enrollCredentialRSP (enrolled ⟨0, 0⟩) ([50, 60, 100].map reported)).1 =
      [1, 0, 0] ∧
    remainings (run enrollCredentialRSP (enrolled ⟨0, 0⟩) ([10, 100].map reported)).1 = [9, 8] ∧
    (run enrollCredentialRSP (enrolled ⟨0, 0⟩) [reported 0]).1 = [.dividedByZero] ∧
    ¬∀ (p : Progress) (reports : List EnrollReport), (percents reports).Pairwise (· < ·) →
      (∀ q ∈ percents reports, 0 ≤ q ∧ q ≤ 100) →
      ProgressSound (percents reports) (run enrollCredentialRSP (enrolled p) reports).1 := by
  refine ⟨by decide, by decide, by decide, ?_⟩
  intro h
  have hsound := h ⟨0, 0⟩ [reported 0] (by decide) (by decide)
  exact hsound.divided (by decide)

end WikoPlatform.Silead
