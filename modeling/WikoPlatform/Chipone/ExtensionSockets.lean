import WikoPlatform.Lib.Ledger
import WikoPlatform.Lib.Runs

/-! The descriptors of `extension_worker`: its listening socket, and for each connection the command
socket, the pair for the data, and the wrapper around the first of the pair. -/

namespace WikoPlatform.Chipone

open Runs Ledger

structure ExtensionSocket where
  fd : Option Nat
  cancelPipeFd : Option (Nat × Nat)
  deriving DecidableEq

def ExtensionSocket.fds (sock : ExtensionSocket) : List Nat :=
  sock.fd.toList ++ sock.cancelPipeFd.elim [] fun pipe => [pipe.1, pipe.2]

def createExtensionSocket (memory : Bool) : Option ExtensionSocket :=
  if memory then some ⟨none, none⟩ else none

def removeExtensionSocket (sock : Option ExtensionSocket) : List (Event Nat) :=
  closed (sock.elim [] ExtensionSocket.fds)

structure CreateOutcome where
  memory : Bool
  socket : Option Nat
  configured : Bool
  pipe : Option (Nat × Nat)

def extensionSocketCreate (o : CreateOutcome) : List (Event Nat) × Option ExtensionSocket :=
  match createExtensionSocket o.memory, o.socket with
  | none, _ | some _, none => ([], none)
  | some _, some fd =>
    match o.configured, o.pipe with
    | true, some (r, w) => (got [fd, r, w], some ⟨some fd, some (r, w)⟩)
    | _, _ => (got [fd] ++ removeExtensionSocket (some ⟨some fd, none⟩), none)

structure AcceptOutcome where
  memory : Bool
  client : Option Nat
  pipe : Option (Nat × Nat)

def extensionSocketAccept (o : AcceptOutcome) : List (Event Nat) × Option ExtensionSocket :=
  match createExtensionSocket o.memory, o.client with
  | none, _ | some _, none => ([], none)
  | some _, some fd =>
    match o.pipe with
    | some (r, w) => (got [fd, r, w], some ⟨some fd, some (r, w)⟩)
    | none => (got [fd] ++ removeExtensionSocket (some ⟨some fd, none⟩), none)

structure WrapOutcome where
  memory : Bool
  pipe : Option (Nat × Nat)
  configured : Bool

/-- Takes the descriptor when nothing can fail any more. -/
def extensionSocketFromSockfd (sockFd : Nat) (o : WrapOutcome) :
    List (Event Nat) × Option ExtensionSocket :=
  match createExtensionSocket o.memory, o.pipe with
  | none, _ | some _, none => ([], none)
  | some _, some (r, w) =>
    if o.configured then (got [r, w], some ⟨some sockFd, some (r, w)⟩)
    else (got [r, w] ++ removeExtensionSocket (some ⟨none, some (r, w)⟩), none)

/-- What one pass meets, in the order of the source. -/
structure ExtensionPass where
  exitBefore : Bool
  polled : Bool
  exitAfter : Bool
  accept : AcceptOutcome
  pair : Option (Nat × Nat)
  wrap : WrapOutcome
  sent : Bool
  cancelled : Bool

inductive ExtensionPhase where
  | created (theSocket : ExtensionSocket)
  | fresh
  | exited
  deriving DecidableEq

inductive ExtensionInput where
  | create (o : CreateOutcome)
  | pass (p : ExtensionPass)

/-- The pair has a value only from this pass. -/
def retry1 (theSocket : ExtensionSocket) (cmdSocket dataSocket : Option ExtensionSocket)
    (fdPair : Option (Nat × Nat)) : List (Event Nat) × ExtensionPhase :=
  (removeExtensionSocket cmdSocket ++ removeExtensionSocket dataSocket ++
      [.closed (fdPair.map Prod.fst), .closed (fdPair.map Prod.snd), .over theSocket.fds],
    .created theSocket)

/-- `err`, which does not close the pair. -/
def errExit (theSocket cmdSocket dataSocket : Option ExtensionSocket) :
    List (Event Nat) × ExtensionPhase :=
  (removeExtensionSocket cmdSocket ++ removeExtensionSocket dataSocket ++
      removeExtensionSocket theSocket ++ [.over []],
    .exited)

def prepend (events : List (Event Nat)) (rest : List (Event Nat) × ExtensionPhase) :
    List (Event Nat) × ExtensionPhase :=
  (events ++ rest.1, rest.2)

def serve (theSocket cmdSocket : ExtensionSocket) (pair : Nat × Nat) (p : ExtensionPass) :
    List (Event Nat) × ExtensionPhase :=
  let (wrapped, dataSocket) := extensionSocketFromSockfd pair.1 p.wrap
  prepend wrapped <|
    match dataSocket with
    | none => retry1 theSocket (some cmdSocket) none (some pair)
    | some dataSocket =>
      if p.sent = false then
        prepend (closed [pair.1]) (retry1 theSocket (some cmdSocket) (some dataSocket) (some pair))
      else if p.cancelled then errExit (some theSocket) (some cmdSocket) (some dataSocket)
      else retry1 theSocket (some cmdSocket) (some dataSocket) (some pair)

def connect (theSocket : ExtensionSocket) (p : ExtensionPass) : List (Event Nat) × ExtensionPhase :=
  let (accepted, cmdSocket) := extensionSocketAccept p.accept
  prepend accepted <|
    match cmdSocket with
    | none => retry1 theSocket none none none
    | some cmdSocket =>
      match p.pair with
      | none => retry1 theSocket (some cmdSocket) none none
      | some pair => prepend (got [pair.1, pair.2]) (serve theSocket cmdSocket pair p)

def extensionPass (theSocket : ExtensionSocket) (p : ExtensionPass) :
    List (Event Nat) × ExtensionPhase :=
  if p.exitBefore then errExit (some theSocket) none none
  else if p.polled = false then retry1 theSocket none none none
  else if p.exitAfter then errExit (some theSocket) none none
  else connect theSocket p

def listen (o : CreateOutcome) : List (Event Nat) × ExtensionPhase :=
  match extensionSocketCreate o with
  | (created, some theSocket) => (created, .created theSocket)
  | (created, none) => prepend created (errExit none none none)

def extensionStep : ExtensionPhase → ExtensionInput → List (Event Nat) × ExtensionPhase
  | .fresh, .create o => listen o
  | .created theSocket, .pass p => extensionPass theSocket p
  | phase, _ => ([], phase)

def ExtensionPass.Unwrapped (p : ExtensionPass) : Prop :=
  (extensionSocketAccept p.accept).2.isSome = true ∧
    p.pair.any (fun pair => (extensionSocketFromSockfd pair.1 p.wrap).2.isNone) = true

instance (p : ExtensionPass) : Decidable p.Unwrapped := inferInstanceAs (Decidable (_ ∧ _))

/-- Otherwise the pair is closed twice, or never. -/
def ExtensionPass.Settled (p : ExtensionPass) : Prop :=
  p.exitBefore = true ∨ p.polled = true ∧ (p.exitAfter = true ∨ p.Unwrapped)

instance (p : ExtensionPass) : Decidable p.Settled :=
  inferInstanceAs (Decidable (_ ∨ _ ∧ (_ ∨ _)))

def ExtensionSettled : ExtensionPhase → ExtensionInput → Prop
  | .created _, .pass p => p.Settled
  | _, _ => True

instance (phase : ExtensionPhase) (i : ExtensionInput) : Decidable (ExtensionSettled phase i) := by
  unfold ExtensionSettled
  split <;> infer_instance

/-- A call that makes a socket has it hold what it obtained and `given`; one that fails has closed
what it obtained. -/
inductive Makes (given : List Nat) : List (Event Nat) × Option ExtensionSocket → Prop where
  | made (fds : List Nat) (sock : ExtensionSocket) (h : sock.fds = given ++ fds) :
    Makes given (got fds, some sock)
  | failed (fds : List Nat) : Makes given (got fds ++ closed fds, none)

theorem makes_create : (o : CreateOutcome) → Makes [] (extensionSocketCreate o)
  | ⟨false, _, _, _⟩ => .failed []
  | ⟨true, none, _, _⟩ => .failed []
  | ⟨true, some fd, false, _⟩ => .failed [fd]
  | ⟨true, some fd, true, none⟩ => .failed [fd]
  | ⟨true, some fd, true, some (r, w)⟩ => .made [fd, r, w] _ rfl

theorem makes_accept : (o : AcceptOutcome) → Makes [] (extensionSocketAccept o)
  | ⟨false, _, _⟩ => .failed []
  | ⟨true, none, _⟩ => .failed []
  | ⟨true, some fd, none⟩ => .failed [fd]
  | ⟨true, some fd, some (r, w)⟩ => .made [fd, r, w] _ rfl

theorem makes_fromSockfd (sockFd : Nat) :
    (o : WrapOutcome) → Makes [sockFd] (extensionSocketFromSockfd sockFd o)
  | ⟨false, _, _⟩ => .failed []
  | ⟨true, none, _⟩ => .failed []
  | ⟨true, some (r, w), false⟩ => .failed [r, w]
  | ⟨true, some (r, w), true⟩ => .made [r, w] _ rfl

section

variable {held pipe : List Nat} {cmd data : ExtensionSocket}

theorem errExit_settles (theSocket : Option ExtensionSocket)
    (hnodup : (theSocket.elim [] ExtensionSocket.fds).Nodup) :
    Holds Event.Sound (theSocket.elim [] ExtensionSocket.fds).reverse
      (errExit theSocket none none).1 := by
  obtain ⟨hsound, hleft⟩ := closed_settles hnodup fun d _ => List.not_mem_nil
  rw [List.append_nil] at hsound hleft
  change Holds Event.Sound _ (closed (theSocket.elim [] ExtensionSocket.fds) ++ [Event.over []])
  rw [holds_append, hleft]
  exact ⟨hsound, List.forall_mem_nil _, trivial⟩

variable {theSocket : ExtensionSocket} {cmdSocket dataSocket : Option ExtensionSocket}
  {pair : Nat × Nat}

theorem retry1_unpaired : ¬Holds Event.Sound held (retry1 theSocket cmdSocket dataSocket none).1 :=
  not_sound_of_none (by simp [retry1])

theorem ledger_retry1 (fdPair : Option (Nat × Nat)) :
    ledger held (retry1 theSocket cmdSocket dataSocket fdPair).1 =
      held.filter (· ∉ cmdSocket.elim [] ExtensionSocket.fds ++
        (dataSocket.elim [] ExtensionSocket.fds ++
          fdPair.elim [] fun pair => [pair.1, pair.2])) := by
  have hlast : ∀ held : List Nat, ledger held [.closed (fdPair.map Prod.fst),
      .closed (fdPair.map Prod.snd), .over theSocket.fds] =
        held.filter (· ∉ fdPair.elim [] fun pair => [pair.1, pair.2]) := by
    intro held
    cases fdPair with
    | none => simp [ledger, book]
    | some pair => simp [ledger, book, List.filter_filter, Bool.and_comm]
  change ledger held (closed _ ++ closed _ ++ _) = _
  rw [ledger_append, ledger_append, ledger_closed, ledger_closed, hlast, List.filter_filter,
    List.filter_filter]
  refine List.filter_congr fun d _ => ?_
  simp only [List.mem_append, not_or, Bool.decide_and]
  ac_rfl

def closedByRetry1 (cmdSocket dataSocket : Option ExtensionSocket) (fdPair : Option (Nat × Nat)) :
    List Nat :=
  cmdSocket.elim [] ExtensionSocket.fds ++
    (dataSocket.elim [] ExtensionSocket.fds ++ fdPair.elim [] fun pair => [pair.1, pair.2])

theorem ledger_retry1_of_mem {obtained : List Nat} {fdPair : Option (Nat × Nat)}
    (hin : ∀ d ∈ obtained, d ∈ closedByRetry1 cmdSocket dataSocket fdPair)
    (hout : ∀ d ∈ closedByRetry1 cmdSocket dataSocket fdPair, d ∉ held) :
    ledger (obtained ++ held) (retry1 theSocket cmdSocket dataSocket fdPair).1 = held := by
  have hobtain : obtained.filter (· ∉ closedByRetry1 cmdSocket dataSocket fdPair) = [] :=
    List.filter_eq_nil_iff.mpr fun d hd => by simpa using hin d hd
  rw [ledger_retry1]
  change (obtained ++ held).filter (· ∉ closedByRetry1 cmdSocket dataSocket fdPair) = held
  rw [List.filter_append, hobtain]
  exact List.filter_eq_self.mpr fun d hd => by simpa using fun hmem => hout d hmem hd

theorem retry1_unwrapped (hnodup : (cmd.fds ++ [pair.1, pair.2]).Nodup)
    (hnew : ∀ d ∈ cmd.fds ++ [pair.1, pair.2], d ∉ theSocket.fds.reverse) :
    Holds Event.Sound ((cmd.fds ++ [pair.1, pair.2]).reverse ++ theSocket.fds.reverse)
      (retry1 theSocket (some cmd) none (some pair)).1 := by
  have hall : (retry1 theSocket (some cmd) none (some pair)).1 =
      closed (cmd.fds ++ [pair.1, pair.2]) ++ [Event.over theSocket.fds] := by
    simp [retry1, removeExtensionSocket, closed]
  obtain ⟨hsound, hleft⟩ := closed_settles hnodup hnew
  rw [hall, holds_append, hleft]
  exact ⟨hsound, fun d hd => List.mem_reverse.mp hd, trivial⟩

theorem retry1_wrapped (hdata : pair.1 ∈ data.fds) :
    ¬Holds Event.Sound held (retry1 theSocket (some cmd) (some data) (some pair)).1 := by
  intro h
  change Holds Event.Sound held (closed cmd.fds ++ closed data.fds ++ _) at h
  rw [holds_append, ledger_append, ledger_closed] at h
  obtain ⟨-, ⟨x, hx, hname⟩, -⟩ := h
  obtain rfl : pair.1 = x := Option.some.inj hname
  simp [hdata] at hx

theorem errExit_leaks {d : Nat} (hd : d ∈ held)
    (hout : d ∉ cmd.fds ++ (data.fds ++ theSocket.fds)) :
    ¬Holds Event.Sound held (errExit (some theSocket) (some cmd) (some data)).1 := by
  intro h
  change Holds Event.Sound held
    (closed cmd.fds ++ closed data.fds ++ closed theSocket.fds ++ [Event.over []]) at h
  rw [holds_append, ledger_append, ledger_append, ledger_closed, ledger_closed,
    ledger_closed] at h
  have hleft := h.2.1 d
  simp only [List.mem_append, not_or] at hout
  simp [hd, hout] at hleft

theorem holds_prepend {P : List Nat → Event Nat → Prop} (events : List (Event Nat))
    (rest : List (Event Nat) × ExtensionPhase) : Holds P held (prepend events rest).1 ↔
      Holds P held events ∧ Holds P (ledger held events) rest.1 := holds_append _ _

theorem ledger_prepend (events : List (Event Nat)) (rest : List (Event Nat) × ExtensionPhase) :
    ledger held (prepend events rest).1 = ledger (ledger held events) rest.1 := ledger_append _ _ _

theorem closedByRetry1_wrapped (hdata : data.fds = [pair.1] ++ pipe)
    (hnew : ∀ d ∈ cmd.fds ++ [pair.1, pair.2], d ∉ theSocket.fds.reverse)
    (hpipe : ∀ d ∈ pipe, d ∉ theSocket.fds.reverse) :
    (∀ d ∈ pipe.reverse ++ (cmd.fds ++ [pair.1, pair.2]).reverse,
      d ∈ closedByRetry1 (some cmd) (some data) (some pair)) ∧
    ∀ d ∈ closedByRetry1 (some cmd) (some data) (some pair), d ∉ theSocket.fds.reverse := by
  simp only [closedByRetry1, Option.elim_some, hdata]
  constructor
  · intro d hd
    simpa [or_comm, or_left_comm, or_assoc] using hd
  · intro d hd hbase
    simp only [List.mem_append] at hd
    rcases hd with hcmd | (hfirst | hmem) | hpaired
    · exact hnew d (by simp [hcmd]) hbase
    · exact hnew d (by simp [List.mem_singleton.mp hfirst]) hbase
    · exact hpipe d hmem hbase
    · exact hnew d (List.mem_append_right _ hpaired) hbase

theorem second_notMem (hdata : data.fds = [pair.1] ++ pipe)
    (hnodup : (cmd.fds ++ [pair.1, pair.2]).Nodup) (hbase : pair.2 ∉ theSocket.fds.reverse)
    (hpipe : pair.2 ∉ pipe) : pair.2 ∉ cmd.fds ++ (data.fds ++ theSocket.fds) := by
  obtain ⟨-, hdifferent, hcmd⟩ := List.nodup_append.mp hnodup
  simp only [hdata, List.mem_append, List.mem_cons, List.not_mem_nil, or_false, not_or]
  refine ⟨fun h => hcmd pair.2 h pair.2 (by simp) rfl, ⟨?_, hpipe⟩, by simpa using hbase⟩
  exact fun h => by simp [h] at hdifferent

/-- The closes are sound exactly if `settled`. -/
def Leaves (theSocket : ExtensionSocket) (held : List Nat) (settled : Prop)
    (next : List (Event Nat) × ExtensionPhase) : Prop :=
  (Holds Event.Sound held next.1 ↔ settled) ∧
    (next.2 ≠ .exited →
      next.2 = .created theSocket ∧ ledger held next.1 = theSocket.fds.reverse)

theorem serve_spec (hnodup : (cmd.fds ++ [pair.1, pair.2]).Nodup)
    (hnew : ∀ d ∈ cmd.fds ++ [pair.1, pair.2], d ∉ theSocket.fds.reverse) (p : ExtensionPass)
    (hfresh : Holds Event.Fresh ((cmd.fds ++ [pair.1, pair.2]).reverse ++ theSocket.fds.reverse)
      (serve theSocket cmd pair p).1) :
    Leaves theSocket ((cmd.fds ++ [pair.1, pair.2]).reverse ++ theSocket.fds.reverse)
      ((extensionSocketFromSockfd pair.1 p.wrap).2.isNone = true) (serve theSocket cmd pair p) := by
  have hmakes := makes_fromSockfd pair.1 p.wrap
  unfold Leaves
  unfold serve at hfresh ⊢
  generalize extensionSocketFromSockfd pair.1 p.wrap = wrapped at hmakes hfresh ⊢
  cases hmakes with
  | failed pipe =>
    simp only [holds_prepend, ledger_prepend] at hfresh ⊢
    obtain ⟨hsound, hleft⟩ := got_closed_settles ((holds_append _ _).mp hfresh.1).1
    rw [hleft]
    refine ⟨iff_of_true ⟨hsound, retry1_unwrapped hnodup hnew⟩ rfl, fun _ => ⟨rfl, ?_⟩⟩
    refine ledger_retry1_of_mem (fun d hd => ?_) (fun d hd => hnew d ?_)
    · simpa [closedByRetry1, or_comm, or_left_comm, or_assoc] using hd
    · simpa [closedByRetry1] using hd
  | made pipe data hdata =>
    have hwrap : pair.1 ∈ data.fds := by simp [hdata]
    obtain ⟨-, hpipe⟩ := holds_fresh_got.mp ((holds_prepend _ _).mp hfresh).1
    have hsecond : pair.2 ∉ cmd.fds ++ (data.fds ++ theSocket.fds) :=
      second_notMem hdata hnodup (hnew pair.2 (by simp)) fun h => hpipe pair.2 h (by simp)
    obtain ⟨hclose, hkept⟩ := closedByRetry1_wrapped hdata hnew
      fun d hd hbase => hpipe d hd (List.mem_append_right _ hbase)
    simp only [holds_prepend, ledger_prepend, ledger_got]
    rw [← List.append_assoc]
    split_ifs with hsent hcancelled
    · refine ⟨iff_of_false (fun h => retry1_wrapped hwrap h.2.2) (by simp), fun _ => ⟨rfl, ?_⟩⟩
      have hbase : theSocket.fds.reverse.filter (· ∉ [pair.1]) = theSocket.fds.reverse :=
        List.filter_eq_self.mpr fun d hd => by
          simpa using fun h : d = pair.1 => hnew pair.1 (by simp) (h ▸ hd)
      rw [ledger_prepend, ledger_closed, List.filter_append, hbase]
      exact ledger_retry1_of_mem (fun d hd => hclose d (List.mem_of_mem_filter hd)) hkept
    · refine ⟨iff_of_false (fun h => ?_) (by simp), fun h => absurd rfl h⟩
      exact errExit_leaks (by simp) hsecond h.2
    · refine ⟨iff_of_false (fun h => retry1_wrapped hwrap h.2) (by simp), fun _ => ⟨rfl, ?_⟩⟩
      exact ledger_retry1_of_mem hclose hkept

theorem ledger_retry1_unpaired (theSocket : ExtensionSocket) (cmd : Option ExtensionSocket)
    (hnew : ∀ d ∈ cmd.elim [] ExtensionSocket.fds, d ∉ theSocket.fds.reverse) :
    ledger ((cmd.elim [] ExtensionSocket.fds).reverse ++ theSocket.fds.reverse)
      (retry1 theSocket cmd none none).1 = theSocket.fds.reverse :=
  ledger_retry1_of_mem (by simp [closedByRetry1]) (by simpa [closedByRetry1] using hnew)

theorem connect_spec (p : ExtensionPass)
    (hfresh : Holds Event.Fresh theSocket.fds.reverse (connect theSocket p).1) :
    Leaves theSocket theSocket.fds.reverse p.Unwrapped (connect theSocket p) := by
  have hmakes := makes_accept p.accept
  unfold Leaves ExtensionPass.Unwrapped
  unfold connect at hfresh ⊢
  generalize extensionSocketAccept p.accept = accepted at hmakes hfresh ⊢
  cases hmakes with
  | failed fds =>
    simp only [holds_prepend, ledger_prepend] at hfresh ⊢
    obtain ⟨-, hleft⟩ := got_closed_settles ((holds_append _ _).mp hfresh.1).1
    have hretry := ledger_retry1_unpaired theSocket none (by simp)
    rw [hleft]
    exact ⟨iff_of_false (fun h => retry1_unpaired h.2) (by simp), fun _ => ⟨rfl, hretry⟩⟩
  | made fds cmd hfds =>
    subst hfds
    obtain ⟨hgot, hrest⟩ := (holds_prepend _ _).mp hfresh
    obtain ⟨hcmd, hnew⟩ := holds_fresh_got.mp hgot
    simp only [holds_prepend, ledger_prepend, ledger_got] at hrest ⊢
    cases hpair : p.pair with
    | none =>
      have hretry := ledger_retry1_unpaired theSocket (some cmd) hnew
      exact ⟨iff_of_false (fun h => retry1_unpaired h.2) (by simp), fun _ => ⟨rfl, hretry⟩⟩
    | some pair =>
      rw [hpair] at hrest
      obtain ⟨hpairGot, hserve⟩ := (holds_prepend _ _).mp hrest
      obtain ⟨hpairNodup, hpairNew⟩ := holds_fresh_got.mp hpairGot
      have hheld : ledger (cmd.fds.reverse ++ theSocket.fds.reverse) (got [pair.1, pair.2]) =
          (cmd.fds ++ [pair.1, pair.2]).reverse ++ theSocket.fds.reverse := by
        simp [ledger_got]
      have hnodup : (cmd.fds ++ [pair.1, pair.2]).Nodup := by
        refine List.nodup_append.mpr ⟨hcmd, hpairNodup, fun x hx y hy heq => ?_⟩
        exact hpairNew y hy (by simp [← heq, hx])
      have hboth : ∀ d ∈ cmd.fds ++ [pair.1, pair.2], d ∉ theSocket.fds.reverse := by
        intro d hd hbase
        rcases List.mem_append.mp hd with hmem | hmem
        · exact hnew d hmem hbase
        · exact hpairNew d hmem (List.mem_append_right _ hbase)
      rw [hheld] at hserve
      obtain ⟨hsound, hleft⟩ := serve_spec hnodup hboth p hserve
      simp only [holds_prepend, ledger_prepend, hheld, Option.isSome_some, true_and,
        Option.any_some]
      refine ⟨Iff.trans ?_ hsound, hleft⟩
      exact ⟨fun h => h.2.2, fun h => ⟨holds_sound_got _ _, holds_sound_got _ _, h⟩⟩

theorem extensionPass_spec (hnodup : theSocket.fds.Nodup) (p : ExtensionPass)
    (hfresh : Holds Event.Fresh theSocket.fds.reverse (extensionPass theSocket p).1) :
    Leaves theSocket theSocket.fds.reverse p.Settled (extensionPass theSocket p) := by
  have hexit : Holds Event.Sound theSocket.fds.reverse (errExit (some theSocket) none none).1 :=
    errExit_settles (some theSocket) hnodup
  unfold Leaves ExtensionPass.Settled
  unfold extensionPass at hfresh ⊢
  cases hbefore : p.exitBefore with
  | true => exact ⟨iff_of_true hexit (.inl rfl), fun h => absurd rfl h⟩
  | false =>
    cases hpoll : p.polled with
    | false =>
      have hretry := ledger_retry1_unpaired theSocket none (by simp)
      exact ⟨iff_of_false retry1_unpaired (by simp), fun _ => ⟨rfl, hretry⟩⟩
    | true =>
      cases hafter : p.exitAfter with
      | true => exact ⟨iff_of_true hexit (.inr ⟨rfl, .inl rfl⟩), fun h => absurd rfl h⟩
      | false =>
        rw [hbefore, hpoll, hafter] at hfresh
        obtain ⟨hsound, hleft⟩ := connect_spec p hfresh
        refine ⟨hsound.trans ?_, hleft⟩
        simp

end

def ExtensionPhase.Owns : ExtensionPhase → List Nat → Prop
  | .fresh, held => held = []
  | .created theSocket, held => theSocket.fds.Nodup ∧ held = theSocket.fds.reverse
  | .exited, _ => True

theorem listen_spec (o : CreateOutcome) (hfresh : Holds Event.Fresh [] (listen o).1) :
    Holds Event.Sound [] (listen o).1 ∧ (listen o).2.Owns (ledger [] (listen o).1) := by
  have hmakes := makes_create o
  unfold listen at hfresh ⊢
  generalize extensionSocketCreate o = created at hmakes hfresh ⊢
  cases hmakes with
  | failed fds =>
    obtain ⟨hsound, hleft⟩ :=
      got_closed_settles ((holds_append _ _).mp ((holds_prepend _ _).mp hfresh).1).1
    simp only [holds_prepend, hleft]
    exact ⟨⟨hsound, errExit_settles none List.nodup_nil⟩, trivial⟩
  | made fds sock hfds =>
    subst hfds
    obtain ⟨hnodup, -⟩ := holds_fresh_got.mp hfresh
    exact ⟨holds_sound_got _ _, hnodup, by simp [ledger_got]⟩

variable {phase : ExtensionPhase} {held : List Nat}

theorem extensionStep_spec (howns : phase.Owns held) (i : ExtensionInput)
    (hfresh : Holds Event.Fresh held (extensionStep phase i).1) :
    (Holds Event.Sound held (extensionStep phase i).1 ↔ ExtensionSettled phase i) ∧
      (extensionStep phase i).2.Owns (ledger held (extensionStep phase i).1) := by
  cases phase with
  | fresh =>
    cases i with
    | pass p => exact ⟨Iff.rfl, howns⟩
    | create o =>
      subst howns
      obtain ⟨hsound, hnext⟩ := listen_spec o hfresh
      exact ⟨iff_of_true hsound trivial, hnext⟩
  | exited =>
    cases i with
    | pass p | create o => exact ⟨Iff.rfl, trivial⟩
  | created theSocket =>
    cases i with
    | create o => exact ⟨Iff.rfl, howns⟩
    | pass p =>
      obtain ⟨hnodup, rfl⟩ := howns
      obtain ⟨hsound, hleft⟩ := extensionPass_spec hnodup p hfresh
      refine ⟨hsound, ?_⟩
      by_cases hexited : (extensionStep (.created theSocket) (.pass p)).2 = .exited
      · rw [hexited]
        trivial
      · obtain ⟨hphase, hledger⟩ := hleft hexited
        change (extensionPass theSocket p).2.Owns (ledger _ (extensionPass theSocket p).1)
        rw [hphase, hledger]
        exact ⟨hnodup, rfl⟩

theorem extension_sound_iff (inputs : List ExtensionInput) (howns : phase.Owns held)
    (hfresh : Holds Event.Fresh held (run extensionStep phase inputs).1) :
    Holds Event.Sound held (run extensionStep phase inputs).1 ↔
      Meets extensionStep ExtensionSettled phase inputs := by
  induction inputs generalizing phase held with
  | nil => exact Iff.rfl
  | cons i inputs ih =>
    obtain ⟨hfirst, hrest⟩ := (holds_append _ _).mp hfresh
    obtain ⟨hsound, hnext⟩ := extensionStep_spec howns i hfirst
    rw [run, holds_append, hsound, ih hnext hrest, Meets]

/-- Descriptors are closed once exactly if passes are settled. -/
theorem extension_accounted_iff (inputs : List ExtensionInput)
    (hkernel : Holds Event.Fresh [] (run extensionStep .fresh inputs).1) :
    Holds Event.Sound [] (run extensionStep .fresh inputs).1 ↔
      Meets extensionStep ExtensionSettled .fresh inputs :=
  extension_sound_iff inputs rfl hkernel

def connectedPass (wrap : WrapOutcome) (sent cancelled : Bool) : ExtensionInput :=
  .pass ⟨false, true, false, ⟨true, some 7, some (8, 9)⟩, some (10, 11), wrap, sent, cancelled⟩

def exitPass : ExtensionInput :=
  .pass ⟨true, true, false, ⟨true, none, none⟩, none, ⟨true, none, true⟩, true, false⟩

def pollErrorPass : ExtensionInput :=
  .pass ⟨false, false, false, ⟨true, none, none⟩, none, ⟨true, none, true⟩, true, false⟩

def listening : ExtensionInput := .create ⟨true, some 4, true, some (5, 6)⟩

theorem extension_accounted_unwrapped : Holds Event.Sound [] (run extensionStep .fresh
        [listening, connectedPass ⟨true, some (12, 13), false⟩ true false, exitPass]).1 :=
  (extension_accounted_iff _ (by decide)).mpr (by decide)

theorem extension_not_accounted : (∀ inputs ∈ [[listening, pollErrorPass],
        [listening, connectedPass ⟨true, some (12, 13), true⟩ true false],
        [listening, connectedPass ⟨true, some (12, 13), true⟩ false false],
        [listening, connectedPass ⟨true, some (12, 13), true⟩ true true]],
      Holds Event.Fresh [] (run extensionStep .fresh inputs).1 ∧
        ¬Holds Event.Sound [] (run extensionStep .fresh inputs).1) ∧
    (run extensionStep .fresh [listening, pollErrorPass]).1 =
      got [4, 5, 6] ++ [.closed none, .closed none, .over [4, 5, 6]] ∧ (run extensionStep .fresh
        [listening, connectedPass ⟨true, some (12, 13), true⟩ true false]).1 =
      got [4, 5, 6, 7, 8, 9, 10, 11, 12, 13] ++ closed [7, 8, 9, 10, 12, 13, 10, 11] ++
        [.over [4, 5, 6]] := by
  decide

end WikoPlatform.Chipone
