import WikoPlatform.Fingerprint.Statistics

/-! Results that come when the application of a client is gone. The client stays the current one
with no receiver, and a mismatch that locks it out calls the receiver without a look. -/

namespace WikoPlatform.Fingerprint

open Runs Act

/-- The result of an authentication ends the system. -/
def System.resultCrashes (y : System) (event : Event) : Bool :=
  match y.delivers event, y.service.currentClient with
  | some (.authenticated ..), some c => c.kind.isAuthentication && (y.step event).2.crashed
  | _, _ => false

def LateResultsSafe (y : System) (events : List Event) : Prop :=
  Meets System.step (fun y event => y.resultCrashes event = false) y events

def HasCounters (_ : ClientMonitor) (stats : Option StatsKey) : Prop := stats.isSome = true

section

variable {y : System} {event : Event} {w : World}

theorem step_hasCounters (h : Fits HasCounters y.service) :
    Fits HasCounters (y.step event).2.service :=
  step_fits (fun _ _ _ hstats => hstats)
    (fun _ _ _ _ _ _ _ _ _ _ _ _ _ _ => ⟨fun _ _ _ => rfl, fun _ _ => rfl⟩) h

theorem resultCrashes_eq_false_iff (h : Fits HasCounters y.service) :
    y.resultCrashes event = false ↔ y.Heard event := by
  constructor
  · intro hsafe message c hmsg hcur hkind hlocks hrecv
    obtain ⟨key, hkey⟩ := Option.isSome_iff_exists.mp (h c (.inl hcur) hkind)
    obtain ⟨w, -, -, hcrash⟩ := step_of_delivers hmsg
    cases message with
    | authenticated origin fingerId groupId =>
      obtain ⟨rfl, hlock⟩ := locks_iff.mp hlocks
      obtain ⟨-, hres⟩ :=
        authenticated_deaf (w := w) hcur hkind hkey hlock hrecv origin groupId
      simp [System.resultCrashes, hmsg, hcur, hkind, hcrash, hres] at hsafe
    | acquired | enrollResult | error | removed => cases hlocks
  · intro hheard
    unfold System.resultCrashes
    split
    · next origin fingerId groupId c hmsg hcur =>
      cases hkind : c.kind.isAuthentication with
      | false => rfl
      | true =>
        obtain ⟨key, hkey⟩ := Option.isSome_iff_exists.mp (h c (.inl hcur) hkind)
        obtain ⟨w, -, -, hcrash⟩ := step_of_delivers hmsg
        obtain ⟨s₂, hcount⟩ := authenticated_counted hcur hkind hkey
          (hheard _ c hmsg hcur hkind)
        rw [hcrash, hcount.result]
        rfl
    · rfl

end

/-- Only a lockout with no receiver ends the service. -/
theorem lateResultsSafe_iff (daemon : Bool) (halDeviceId currentUserId : Int)
    (fingerprints : List (Int × Int)) (events : List Event) :
    LateResultsSafe (.start daemon halDeviceId currentUserId fingerprints) events ↔
      Meets System.step System.Heard (.start daemon halDeviceId currentUserId fingerprints)
        events := by
  have hstart : Fits HasCounters
      (System.start daemon halDeviceId currentUserId fingerprints).service := by
    rintro c (hc | hc) <;> cases hc
  have hstep : ∀ (y : System) event, Fits HasCounters y.service →
      (y.resultCrashes event = false ↔ y.Heard event) := fun _ _ => resultCrashes_eq_false_iff
  exact meets_congr_of_inv hstep (fun _ _ h _ => step_hasCounters h) hstart events

def mismatch : List Event := [.message (.authenticated 0 0 0), .looper plainWorld]

theorem not_lateResultsSafe_fifth :
    ¬LateResultsSafe (.start true 1 0 []) ([authenticateEvent 1, .looper plainWorld] ++
      (List.replicate 4 mismatch).flatten ++ [.clientDied 0] ++ mismatch) := by
  unfold LateResultsSafe
  decide +kernel

end WikoPlatform.Fingerprint
