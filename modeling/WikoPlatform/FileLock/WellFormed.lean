import WikoPlatform.FileLock.Check

/-! The shape of a file-lock record: a number has its hash in the code and in the token, a pattern
in the pattern and in the token. -/

namespace WikoPlatform.FileLock

open Runs

structure FlPassword.WellFormed (p : FlPassword) : Prop where
  number : p.currentPasswordType = numberPasswordType → p.code = p.token ∧ p.patternPassword = ""
  pattern : p.currentPasswordType = patternPasswordType →
    p.code = "" ∧ p.patternPassword = p.token

/-- The fields that stand for the credential. -/
structure Secret where
  code : String
  token : String
  patternPassword : String
  passwordLength : Int
  currentPasswordType : Int
  deriving DecidableEq

def FlPassword.secret (p : FlPassword) : Secret :=
  ⟨p.code, p.token, p.patternPassword, p.passwordLength, p.currentPasswordType⟩

def PasswordEvent.asksNew : PasswordEvent → Bool
  | .call (.changePasswordQuestion ..) => true
  | _ => false

def KeepsShape (md5 : String → String) (u : UserState) (event : PasswordEvent) : Prop :=
  (∀ p ∈ (passwordStep md5 u event).2.stored, p.WellFormed) ∧
    (event.asksNew = true →
      (passwordStep md5 u event).2.stored.map FlPassword.secret = u.stored.map FlPassword.secret)

/-- A new question is not accepted for a pattern. -/
def AsksNumbers (md5 : String → String) (u : UserState) : PasswordEvent → Prop
  | .call (.changePasswordQuestion question answer) =>
    (changePasswordQuestion md5 question answer u.stored).isSome = true →
      ∀ p, u.stored.head? = some p → p.currentPasswordType = patternPasswordType → p.token = ""
  | _ => True

structure FlPassword.Shaped (p : FlPassword) : Prop extends p.WellFormed where
  type : p.currentPasswordType = numberPasswordType ∨ p.currentPasswordType = patternPasswordType

structure UserState.Shaped (u : UserState) : Prop where
  stored : ∀ p ∈ u.stored, p.Shaped
  file : ∀ p ∈ u.file, p.Shaped

section

variable {md5 : String → String} {p p' : FlPassword} {passwords passwords' : List FlPassword}
  {reply : String} {u : UserState} {record : String → String → String → FlPassword}
  {value answer : Option String} {question : Int}

theorem FlPassword.Shaped.congr (h : p.Shaped) (hsecret : p'.secret = p.secret) : p'.Shaped := by
  obtain ⟨hcode, htoken, hpat, -, htype⟩ := Secret.mk.inj hsecret
  refine ⟨⟨?_, ?_⟩, ?_⟩
  · rw [htype, hcode, htoken, hpat]
    exact h.number
  · rw [htype, hcode, htoken, hpat]
    exact h.pattern
  · rw [htype]
    exact h.type

theorem number_ne_pattern : numberPasswordType ≠ patternPasswordType := by decide

theorem numberRecord_shaped (value question answer : String) :
    (numberRecord md5 value question answer).Shaped where
  number _ := ⟨rfl, rfl⟩
  pattern h := absurd h number_ne_pattern
  type := .inl rfl

theorem patternRecord_shaped (value question answer : String) :
    (patternRecord md5 value question answer).Shaped where
  number h := absurd h.symm number_ne_pattern
  pattern _ := ⟨rfl, rfl⟩
  type := .inr rfl

theorem setPassword_shaped
    (hrecord : ∀ value question answer, (record value question answer).Shaped)
    (h : ∀ p ∈ passwords, p.Shaped)
    (hset : setPassword md5 record value question answer passwords = some (reply, passwords')) :
    ∀ p ∈ passwords', p.Shaped := by
  obtain ⟨value', -, hset⟩ := Option.bind_eq_some_iff.mp hset
  obtain ⟨answer', -, hset⟩ := Option.bind_eq_some_iff.mp hset
  split_ifs at hset
  obtain ⟨-, rfl⟩ := Prod.mk.inj (Option.some.inj hset)
  exact List.forall_mem_cons.mpr ⟨hrecord _ _ _, fun p hp => h p (List.mem_of_mem_tail hp)⟩

theorem changePassword_shaped
    (hrecord : ∀ value question answer, (record value question answer).Shaped)
    (h : ∀ p ∈ passwords, p.Shaped)
    (hchange : changePassword md5 record value passwords = some (reply, passwords')) :
    ∀ p ∈ passwords', p.Shaped := by
  obtain ⟨value', -, hchange⟩ := Option.bind_eq_some_iff.mp hchange
  cases passwords with
  | nil => cases hchange
  | cons old rest =>
    obtain ⟨-, rfl⟩ := Prod.mk.inj (Option.some.inj hchange)
    exact List.forall_mem_cons.mpr ⟨hrecord _ _ _, (List.forall_mem_cons.mp h).2⟩

theorem changePasswordQuestion_eq_some
    (h : changePasswordQuestion md5 question answer passwords = some (reply, passwords')) :
    ∃ old rest new, passwords = old :: rest ∧ passwords' = new :: rest ∧
      new.secret = ⟨old.token, old.token, old.patternPassword, old.passwordLength,
        old.currentPasswordType⟩ := by
  obtain ⟨answer', -, h⟩ := Option.bind_eq_some_iff.mp h
  split_ifs at h
  cases passwords with
  | nil => cases h
  | cons old rest =>
    obtain ⟨-, rfl⟩ := Prod.mk.inj (Option.some.inj h)
    exact ⟨old, rest, _, rfl, rfl, rfl⟩

theorem FlPassword.Shaped.code_eq_token_iff (h : p.Shaped) :
    p.code = p.token ↔ (p.currentPasswordType = patternPasswordType → p.token = "") := by
  rcases h.type with hnum | hpat
  · refine iff_of_true (h.number hnum).1 fun htype => ?_
    exact absurd (hnum.symm.trans htype) number_ne_pattern
  · rw [(h.pattern hpat).1, eq_comm]
    exact ⟨fun htoken _ => htoken, fun htoken => htoken hpat⟩

theorem question_secret_iff (h : ∀ p ∈ passwords, p.Shaped)
    (hchange : changePasswordQuestion md5 question answer passwords = some (reply, passwords')) :
    passwords'.map FlPassword.secret = passwords.map FlPassword.secret ↔
      ∀ p, passwords.head? = some p → p.currentPasswordType = patternPasswordType →
        p.token = "" := by
  obtain ⟨old, rest, new, rfl, rfl, hsecret⟩ := changePasswordQuestion_eq_some hchange
  have hold := (h old List.mem_cons_self).code_eq_token_iff
  simp only [List.map_cons, List.cons.injEq, and_true, List.head?_cons, Option.some.injEq,
    forall_eq', ← hold, hsecret]
  simp only [FlPassword.secret, Secret.mk.injEq, and_true]
  exact eq_comm

theorem update_shaped {call : PasswordCall} (h : ∀ p ∈ passwords, p.Shaped)
    (hupdate : call.update md5 passwords = some (reply, passwords'))
    (hquestion : (PasswordEvent.call call).asksNew = true →
      passwords'.map FlPassword.secret = passwords.map FlPassword.secret) :
    ∀ p ∈ passwords', p.Shaped := by
  cases call with
  | setNumberPassword => exact setPassword_shaped numberRecord_shaped h hupdate
  | setPatternPassword => exact setPassword_shaped patternRecord_shaped h hupdate
  | changeNumberPassword => exact changePassword_shaped numberRecord_shaped h hupdate
  | changePatternPassword => exact changePassword_shaped patternRecord_shaped h hupdate
  | changePasswordQuestion =>
    intro p' hp'
    obtain ⟨p, hp, heq⟩ := List.mem_map.mp (hquestion rfl ▸ List.mem_map_of_mem hp')
    exact (h p hp).congr heq.symm
  | getFlPasswordData => cases hupdate

theorem stored_call (md5 : String → String) (u : UserState) (call : PasswordCall) :
    (u.call md5 call).2.stored = ((call.update md5 u.stored).map Prod.snd).getD u.stored ∧
      (u.call md5 call).2.file = u.file := by
  unfold UserState.call
  cases call.update md5 u.stored with
  | some result => exact ⟨rfl, rfl⟩
  | none => cases call <;> exact ⟨rfl, rfl⟩

theorem doWriteState_shaped (h : u.Shaped) : u.doWriteState.Shaped := by
  refine ⟨u.stored_doWriteState ▸ h.stored, ?_⟩
  unfold UserState.doWriteState
  split
  · exact h.file
  · exact h.stored

theorem step_shaped (h : u.Shaped) {event : PasswordEvent} (hsecret : event.asksNew = true →
      (passwordStep md5 u event).2.stored.map FlPassword.secret =
        u.stored.map FlPassword.secret) : (passwordStep md5 u event).2.Shaped := by
  cases event with
  | call call =>
    obtain ⟨hstore, hfile⟩ := stored_call md5 u call
    simp only [passwordStep, hstore] at hsecret ⊢
    refine ⟨?_, hfile ▸ h.file⟩
    rw [hstore]
    cases hupdate : call.update md5 u.stored with
    | none => exact h.stored
    | some result =>
      rw [hupdate] at hsecret
      exact update_shaped h.stored hupdate hsecret
  | doWriteState => exact doWriteState_shaped h
  | restart => exact ⟨h.file, h.file⟩

theorem keepsShape_iff_secret (h : u.Shaped) (event : PasswordEvent) :
    KeepsShape md5 u event ↔ (event.asksNew = true →
      (passwordStep md5 u event).2.stored.map FlPassword.secret = u.stored.map FlPassword.secret) :=
  ⟨fun hkeeps => hkeeps.2, fun hsecret =>
    ⟨fun p hp => ((step_shaped h hsecret).stored p hp).toWellFormed, hsecret⟩⟩

theorem keepsShape_iff (h : u.Shaped) (event : PasswordEvent) :
    KeepsShape md5 u event ↔ AsksNumbers md5 u event := by
  rw [keepsShape_iff_secret h]
  unfold AsksNumbers
  split
  · next question answer =>
    simp only [PasswordEvent.asksNew, forall_const, passwordStep, stored_call, PasswordCall.update]
    cases hchange : changePasswordQuestion md5 question answer u.stored with
    | none => simp
    | some result => simpa using question_secret_iff h.stored hchange
  · next hother =>
    refine iff_of_true (fun hasks => ?_) trivial
    unfold PasswordEvent.asksNew at hasks
    split at hasks
    · exact absurd rfl (hother _ _)
    · cases hasks

end

def WellKept (md5 : String → String) (events : List PasswordEvent) : Prop :=
  Meets (passwordStep md5) (KeepsShape md5) ⟨[], none, 0⟩ events

/-- A new question spoils the record of a pattern. -/
theorem wellKept_iff (md5 : String → String) (events : List PasswordEvent) :
    WellKept md5 events ↔ Meets (passwordStep md5) (AsksNumbers md5) ⟨[], none, 0⟩ events := by
  have hstart : UserState.Shaped ⟨[], none, 0⟩ := ⟨List.forall_mem_nil _, List.forall_mem_nil _⟩
  have hiff : ∀ (u : UserState) event, u.Shaped →
      (KeepsShape md5 u event ↔ AsksNumbers md5 u event) := fun _ event h => keepsShape_iff h event
  exact meets_congr_of_inv hiff (fun _ _ h hkeeps => step_shaped h hkeeps.2) hstart events

theorem not_wellKept_pattern :
    ¬WellKept markHash [.call (.setPatternPassword (some "row=1") 2 (some "cat")),
      .call (.changePasswordQuestion 1 (some "dog"))] := by
  intro h
  have hsecret := h.2.1.2 rfl
  exact absurd hsecret (by decide +kernel)

end WikoPlatform.FileLock
