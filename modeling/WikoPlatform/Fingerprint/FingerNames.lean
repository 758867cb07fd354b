import WikoPlatform.Fingerprint.Records

/-! The names of the fingers. `getUniqueName` tries names by number until one is free. -/

namespace WikoPlatform.Fingerprint

open Runs Act

/-- The loop of `getUniqueName`, with the number of its guesses. -/
inductive Guesses (template : NameTemplate) (fingerprints : List StoredFingerprint) :
    Nat → Nat → String → Prop
  | found {guess : Nat} (h : isUnique (template.format guess) fingerprints = some true) :
      Guesses template fingerprints guess 1 (template.format guess)
  | next {guess tries : Nat} {name : String}
      (h : isUnique (template.format guess) fingerprints = some false)
      (hrest : Guesses template fingerprints (guess + 1) tries name) :
      Guesses template fingerprints guess (tries + 1) name

/-- A free name is found soon. -/
def Nameable (template : NameTemplate) (fingerprints : List StoredFingerprint) : Prop :=
  ∃ tries name, tries ≤ fingerprints.length + 1 ∧ Guesses template fingerprints 1 tries name ∧
    getUniqueName template fingerprints = some name ∧ ∀ fp ∈ fingerprints, fp.name ≠ some name

inductive NameCall where
  | addFingerprint (userId fingerId groupId : Int)
  | removeFingerprint (userId fingerId : Int)
  | renameFingerprint (userId fingerId : Int) (name : String)

def NameCall.perform (template : NameTemplate) : NameCall → Keeper Unit
  | .addFingerprint userId fingerId groupId =>
    Fingerprint.addFingerprint template userId fingerId groupId
  | .removeFingerprint userId fingerId => Fingerprint.removeFingerprint userId fingerId
  | .renameFingerprint userId fingerId name =>
    Fingerprint.renameFingerprint userId fingerId (some name)

def nameStep (template : NameTemplate) (r : Records) (call : NameCall) : List Write × Records :=
  ((call.perform template r).trace, (call.perform template r).state)

def Records.Named (r : Records) : Prop := ∀ userId, ∀ fp ∈ r.fingerprints userId, fp.name ≠ none

def NamesFresh (template : NameTemplate) (r : Records) (call : NameCall) : Prop :=
  (call.perform template r).result = some () ∧
    match call with
    | .addFingerprint userId fingerId groupId =>
      ∃ name, (call.perform template r).state.fingerprints userId =
          r.fingerprints userId ++ [⟨some name, groupId, fingerId, 0⟩] ∧
        ∀ fp ∈ r.fingerprints userId, fp.name ≠ some name
    | _ => True

section

variable {template : NameTemplate} {fingerprints : List StoredFingerprint} {name : String}
  {r : Records}

theorem guesses_of_guessName {guesses guess : Nat}
    (h : guessName template fingerprints guesses guess = some name) :
    ∃ tries ≤ guesses, Guesses template fingerprints guess tries name := by
  induction guesses generalizing guess with
  | zero => cases h
  | succ guesses ih =>
    simp only [guessName] at h
    split at h
    · cases h
    · next hunique =>
      obtain rfl := Option.some.inj h
      exact ⟨1, Nat.le_add_left 1 guesses, .found hunique⟩
    · next htaken =>
      obtain ⟨tries, hle, hrest⟩ := ih h
      exact ⟨tries + 1, Nat.add_le_add_right hle 1, .next htaken hrest⟩

theorem nameable_of_named (h : ∀ fp ∈ fingerprints, fp.name ≠ none) :
    Nameable template fingerprints := by
  have hfound : getUniqueName template fingerprints ≠ none := getUniqueName_ne_none h
  obtain ⟨name, hname⟩ := Option.ne_none_iff_exists'.mp hfound
  obtain ⟨tries, hle, hguesses⟩ := guesses_of_guessName hname
  exact ⟨tries, name, hle, hguesses, hname, getUniqueName_fresh hname⟩

theorem named_setFingerprints (h : r.Named) {userId : Int}
    (hnew : ∀ fp ∈ fingerprints, fp.name ≠ none) :
    (setFingerprints userId fingerprints r).state.Named := by
  intro other
  show ∀ fp ∈ Function.update r.fingerprints userId fingerprints other, fp.name ≠ none
  by_cases hother : other = userId
  · rw [hother, Function.update_self]
    exact hnew
  · rw [Function.update_of_ne hother]
    exact h other

theorem addFingerprint_fresh (h : r.Named) (userId fingerId groupId : Int) :
    NamesFresh template r (.addFingerprint userId fingerId groupId) ∧
      ((NameCall.addFingerprint userId fingerId groupId).perform template r).state.Named := by
  have hnameable : Nameable template (r.fingerprints userId) := nameable_of_named (h userId)
  obtain ⟨-, name, -, -, hname, hfree⟩ := hnameable
  have hadded : (NameCall.addFingerprint userId fingerId groupId).perform template r =
      setFingerprints userId (r.fingerprints userId ++ [⟨some name, groupId, fingerId, 0⟩]) r := by
    simp only [NameCall.perform, addFingerprint, get_bind, hname]
  unfold NamesFresh
  rw [hadded]
  refine ⟨⟨rfl, name, Function.update_self .., hfree⟩, named_setFingerprints h ?_⟩
  exact List.forall_mem_append.mpr ⟨h userId, List.forall_mem_singleton.mpr (by simp)⟩

theorem removeFingerprint_named (h : r.Named) (userId fingerId : Int) :
    (removeFingerprint userId fingerId r).state.Named := by
  simp only [removeFingerprint, get_bind]
  split
  · exact named_setFingerprints h fun fp hfp => h userId fp (List.mem_of_mem_eraseP hfp)
  · exact h

theorem renameFingerprint_named (h : r.Named) (userId fingerId : Int) (name : String) :
    (renameFingerprint userId fingerId (some name) r).state.Named := by
  simp only [renameFingerprint, get_bind]
  split
  · exact named_setFingerprints h (forall_replaceFirst (fun _ _ => by simp) (h userId))
  · exact h

theorem perform_fresh (h : r.Named) (call : NameCall) :
    NamesFresh template r call ∧ (call.perform template r).state.Named := by
  cases call with
  | addFingerprint userId fingerId groupId => exact addFingerprint_fresh h userId fingerId groupId
  | removeFingerprint userId fingerId =>
    have hends := removeFingerprint_completes userId fingerId r
    exact ⟨⟨hends.1, trivial⟩, removeFingerprint_named h userId fingerId⟩
  | renameFingerprint userId fingerId name =>
    have hends : Completes userId id id r (renameFingerprint userId fingerId (some name) r) :=
      renameFingerprint_completes (some name) r
    exact ⟨⟨hends.1, trivial⟩, renameFingerprint_named h userId fingerId name⟩

end

/-- Without `null` names every new finger gets a free name. -/
theorem fingerNames_fresh (template : NameTemplate) (r : Records) (hnamed : r.Named)
    (calls : List NameCall) : (∀ userId, Nameable template (r.fingerprints userId)) ∧
      Meets (nameStep template) (NamesFresh template) r calls := by
  refine ⟨fun userId => nameable_of_named (hnamed userId), ?_⟩
  have hfresh : ∀ (r : Records) call, r.Named → True → NamesFresh template r call :=
    fun r call h _ => (perform_fresh h call).1
  have hkeeps : ∀ (r : Records) call, r.Named → True → (nameStep template r call).2.Named :=
    fun r call h _ => (perform_fresh h call).2
  exact (meets_true r calls).imp_of_inv hfresh hkeeps hnamed

def swappedRecords : Records where
  fingerprints _ :=
    [⟨some "Finger 2", 0, 7, 0⟩, ⟨some "Finger 1", 0, 8, 0⟩]
  apeFpDatas _ := []

theorem fingerNames_fresh_swapped :
    swappedRecords.Named ∧ Nameable fingerTemplate (swappedRecords.fingerprints 0) ∧
      Meets (nameStep fingerTemplate) (NamesFresh fingerTemplate) swappedRecords
        [.addFingerprint 0 9 0, .renameFingerprint 0 7 "Finger 4", .addFingerprint 0 10 0] := by
  have hnamed : swappedRecords.Named := by
    intro userId fp hfp
    simp only [swappedRecords, List.mem_cons, List.not_mem_nil, or_false] at hfp
    rcases hfp with rfl | rfl
    · simp
    · simp
  exact ⟨hnamed, (fingerNames_fresh _ _ hnamed []).1 0, (fingerNames_fresh _ _ hnamed _).2⟩

end WikoPlatform.Fingerprint
