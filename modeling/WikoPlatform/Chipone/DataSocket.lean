import WikoPlatform.Chipone.Worker

/-! The data socket of an extension connection. `extension_worker` removes it before it sets
`data_socket` to null; the worker reads `data_socket` without `socket_lock` and goes on using it. -/

namespace WikoPlatform.Chipone

open Runs

/-- They notify nothing, so for the HAL each is a task like `finger_detect_function`. -/
inductive ExtensionWork where
  | captureImage
  | fingerDetect
  deriving DecidableEq

inductive ExtensionCommand where
  | work (work : ExtensionWork)
  -- The commands that submit no task.
  | tac
  -- `FP_SERVICE_CONTROL_CMD_MISC_CONTROL_AGING_TEST`.
  | agingTest (value : Bool)

inductive WriteResult where
  | count (n : Nat)
  | again
  | error
  deriving DecidableEq

/-- An answer of the trusted application, the captured image, or the result of
`poll_extension_socket` or `write`. -/
structure LinkAnswer where
  answer : Answer
  captureResult : Int := 0
  imageLength : UInt32 := 0
  polled : Bool := true
  wrote : WriteResult := .error

/-- The lengths put, in one list for each read of `data_socket`. -/
def ExtensionWork.puts (a : LinkAnswer) : ExtensionWork → List (List Nat)
  | .captureImage =>
    [4] :: [4] ::
      if a.captureResult = 0 then
        [if a.imageLength = 0 then [4] else [4, a.imageLength.toNat]]
      else []
  | .fingerDetect => [[4], [4]]

def reportAuthResultPuts : List (List Nat) := [[4], [8]]

inductive PutPoint where
  | load
  | poll (sock : Option Nat)
  | write (sock : Option Nat)
  deriving DecidableEq

structure Putting where
  point : PutPoint
  left : List (List Nat)

inductive LinkOutput where
  | removed (sock : Nat)
  -- The worker reads fields of the socket to poll or to write.
  | used (sock : Option Nat)
  deriving DecidableEq

namespace Putting

def begin : List (List Nat) → Option Putting
  | [] => none
  | left => some ⟨.load, left⟩

def advance (sock : Option Nat) (n : Nat) : List (List Nat) → Option Putting
  | (length :: lengths) :: rest =>
    if n < length then some ⟨.poll sock, ((length - n) :: lengths) :: rest⟩
    else if lengths = [] then begin rest
    else some ⟨.poll sock, lengths :: rest⟩
  | _ => none

/-- A failed put ends the task's puts. -/
def step (dataSocket : Option Nat) (a : LinkAnswer) (p : Putting) :
    List LinkOutput × Option Putting :=
  match p.point with
  | .load => ([], some ⟨.poll dataSocket, p.left⟩)
  | .poll sock => ([.used sock], if a.polled then some ⟨.write sock, p.left⟩ else none)
  | .write sock =>
    ([.used sock],
      match a.wrote with
      | .again => some ⟨.poll sock, p.left⟩
      | .error | .count 0 => none
      | .count n => advance sock n p.left)

def inHand (p : Putting) : Option (Option Nat) :=
  match p.point with
  | .load => none
  | .poll sock | .write sock => some sock

end Putting

/-- Where `extension_worker` stands. -/
inductive LinkPoint where
  | accepting
  | serving
  -- The sockets are removed, and `data_socket` is not yet null.
  | clearing
  | exited
  deriving DecidableEq

/-- `works` says which of the tasks came from the extension, and `commanding` that the call in the
HAL is one of `socket_handler`. -/
structure Link where
  hal : Hal
  works : Nat → Option ExtensionWork
  reporting : Bool
  point : LinkPoint
  commanding : Bool
  dataSocket : Option Nat
  nextSocket : Nat
  putting : Option Putting

inductive LinkEvent where
  | enter (call : Call)
  | client
  | worker (a : LinkAnswer)
  | connect
  | command (c : ExtensionCommand)
  | remove
  | clear (exits : Bool)

namespace Link

def start (hal : Hal) : Link where
  hal := hal
  works _ := none
  reporting := false
  point := .accepting
  commanding := false
  dataSocket := none
  nextSocket := 0
  putting := none

/-- Every `FINGERPRINT_AUTHENTICATED` is reported. -/
def reports (outputs : List Output) : Bool :=
  outputs.any fun
    | .notify _ (.authenticated _ _) => true
    | _ => false

def puts (s : Link) (a : LinkAnswer) (outputs : List Output) : List (List Nat) :=
  match s.hal.worker with
  | .running op (.fingerDetect false) => (s.works op).elim [] (ExtensionWork.puts a)
  | _ => if s.reporting && reports outputs then reportAuthResultPuts else []

def workerStep (cfg : FpConfig) (s : Link) (a : LinkAnswer) : List LinkOutput × Link :=
  match s.putting with
  | some p => ((p.step s.dataSocket a).1, { s with putting := (p.step s.dataSocket a).2 })
  | none =>
    let (outputs, hal) := s.hal.workerStep cfg a.answer
    ([], { s with hal := hal, putting := Putting.begin (s.puts a outputs) })

def handle (cfg : FpConfig) (s : Link) : ExtensionCommand → Link
  | .work work =>
    { s with
      hal := (s.hal.step cfg (.enter .fingerDetect)).2
      works := fun op => if op = s.hal.nextOp then some work else s.works op
      commanding := true }
  | .tac => { s with hal := (s.hal.step cfg (.enter .tac)).2, commanding := true }
  | .agingTest value => { s with reporting := value }

def step (cfg : FpConfig) (s : Link) : LinkEvent → List LinkOutput × Link
  | .enter call => ([], { s with hal := (s.hal.step cfg (.enter call)).2 })
  | .client =>
    let hal := (s.hal.step cfg .client).2
    ([], { s with hal := hal, commanding := s.commanding && hal.call.isSome })
  | .worker a => s.workerStep cfg a
  | .connect =>
    if s.point = .accepting then
      ([], { s with
        point := .serving
        dataSocket := some s.nextSocket
        nextSocket := s.nextSocket + 1 })
    else ([], s)
  | .command c =>
    if s.point = .serving ∧ s.commanding = false ∧ s.hal.call = none then ([], s.handle cfg c)
    else ([], s)
  | .remove =>
    if s.point = .serving ∧ s.commanding = false then
      (s.dataSocket.toList.map .removed, { s with point := .clearing })
    else ([], s)
  | .clear exits =>
    if s.point = .clearing then
      ([], { s with dataSocket := none, point := if exits then .exited else .accepting })
    else ([], s)

def inHand (s : Link) : Option (Option Nat) := s.putting.bind Putting.inHand

def loads (s : Link) : Bool := s.putting.any fun p => p.point = .load

end Link

/-- The socket is there and was not removed before. -/
def LiveSocket (before : List LinkOutput) (sock : Option Nat) : Prop :=
  ∃ k, sock = some k ∧ .removed k ∉ before

/-- A socket that is used is a live one. -/
def LiveUse (before : List LinkOutput) : LinkOutput → Prop
  | .used sock => LiveSocket before sock
  | .removed _ => True

/-- `data_socket` is read in a connection, and no socket in hand is removed. -/
def Timed (s : Link) : LinkEvent → Prop
  | .worker _ => s.loads = true → s.point = .serving
  | .remove => s.point = .serving ∧ s.commanding = false → s.inHand = none
  | _ => True

instance (s : Link) (event : LinkEvent) : Decidable (Timed s event) := by
  unfold Timed
  split <;> infer_instance

structure LinkInvariant (trace : List LinkOutput) (s : Link) : Prop where
  numbered : ∀ k, .removed k ∈ trace ∨ s.dataSocket = some k ∨ s.inHand = some (some k) →
    k < s.nextSocket
  others : ∀ k < s.nextSocket, s.dataSocket ≠ some k → .removed k ∈ trace
  serving : s.point = .serving → ∃ k, s.dataSocket = some k ∧ .removed k ∉ trace
  clearing : s.point = .clearing → ∃ k, s.dataSocket = some k ∧ .removed k ∈ trace
  accepting : s.point = .accepting ∨ s.point = .exited → s.dataSocket = none

/-- All uses were of live sockets, and the one in hand is live. -/
def Live (trace : List LinkOutput) (s : Link) : Prop :=
  Justified LiveUse trace ∧ ∀ sock, s.inHand = some sock → LiveSocket trace sock

section

variable {cfg : FpConfig} {trace : List LinkOutput} {s s' : Link} {sock : Option Nat} {p : Putting}

theorem LinkInvariant.live_iff (h : LinkInvariant trace s) :
    LiveSocket trace s.dataSocket ↔ s.point = .serving := by
  cases hpoint : s.point with
  | serving =>
    obtain ⟨k, hsock, hlive⟩ := h.serving hpoint
    exact iff_of_true ⟨k, hsock, hlive⟩ rfl
  | clearing =>
    obtain ⟨k, hsock, hremove⟩ := h.clearing hpoint
    refine iff_of_false ?_ (by simp)
    rintro ⟨k', hsock', hlive⟩
    obtain rfl : k = k' := Option.some.inj (hsock.symm.trans hsock')
    exact hlive hremove
  | accepting =>
    refine iff_of_false ?_ (by simp)
    rintro ⟨k, hsock, -⟩
    rw [h.accepting (.inl hpoint)] at hsock
    cases hsock
  | exited =>
    refine iff_of_false ?_ (by simp)
    rintro ⟨k, hsock, -⟩
    rw [h.accepting (.inr hpoint)] at hsock
    cases hsock

theorem LinkInvariant.congr (h : LinkInvariant trace s) {out : List LinkOutput}
    (hout : ∀ k, .removed k ∉ out) (hpoint : s'.point = s.point)
    (hsock : s'.dataSocket = s.dataSocket) (hnext : s'.nextSocket = s.nextSocket)
    (hhand : s'.inHand = none ∨ s'.inHand = s.inHand ∨ s'.inHand = some s.dataSocket) :
    LinkInvariant (trace ++ out) s' := by
  have hremove : ∀ k, LinkOutput.removed k ∈ trace ++ out ↔ .removed k ∈ trace := by
    simp [hout]
  refine ⟨?_, ?_, ?_, ?_, ?_⟩
  · intro k
    rw [hremove, hsock, hnext]
    rintro (hmem | hcur | hinHand)
    · exact h.numbered k (.inl hmem)
    · exact h.numbered k (.inr (.inl hcur))
    · rcases hhand with hhand | hhand | hhand
      · rw [hhand] at hinHand
        cases hinHand
      · exact h.numbered k (.inr (.inr (hhand ▸ hinHand)))
      · rw [hhand] at hinHand
        exact h.numbered k (.inr (.inl (Option.some.inj hinHand)))
  · simpa only [hremove, hsock, hnext] using h.others
  · simpa only [hremove, hsock, hpoint] using h.serving
  · simpa only [hremove, hsock, hpoint] using h.clearing
  · simpa only [hsock, hpoint] using h.accepting

theorem live_of_inHand_eq (hhand : s'.inHand = s.inHand) : Live trace s' ↔ Live trace s := by
  unfold Live
  rw [hhand]

theorem liveSocket_used {used : Option Nat} :
    LiveSocket (trace ++ [LinkOutput.used used]) sock ↔ LiveSocket trace sock := by
  simp [LiveSocket]

theorem Putting.inHand_eq_none_iff (p : Putting) : p.inHand = none ↔ p.point = .load := by
  unfold Putting.inHand
  split <;> simp [*]

theorem begin_inHand {left : List (List Nat)} :
    (Putting.begin left).bind Putting.inHand = none := by
  cases left with
  | nil | cons lengths rest => rfl

theorem Putting.step_load (h : p.inHand = none) (dataSocket : Option Nat) (a : LinkAnswer) :
    p.step dataSocket a = ([], some ⟨.poll dataSocket, p.left⟩) := by
  rw [Putting.step, p.inHand_eq_none_iff.mp h]

theorem Putting.step_used (hsock : p.inHand = some sock) (dataSocket : Option Nat)
    (a : LinkAnswer) : (p.step dataSocket a).1 = [.used sock] ∧
      ((p.step dataSocket a).2.bind Putting.inHand = none ∨
        (p.step dataSocket a).2.bind Putting.inHand = some sock) := by
  unfold Putting.inHand at hsock
  unfold Putting.step
  cases hpoint : p.point with
  | load =>
    rw [hpoint] at hsock
    cases hsock
  | poll sock' =>
    rw [hpoint] at hsock
    obtain rfl := Option.some.inj hsock
    refine ⟨rfl, ?_⟩
    split_ifs
    · exact .inr rfl
    · exact .inl rfl
  | write sock' =>
    rw [hpoint] at hsock
    obtain rfl := Option.some.inj hsock
    refine ⟨rfl, ?_⟩
    dsimp only
    split
    · exact .inr rfl
    · exact .inl rfl
    · exact .inl rfl
    · unfold Putting.advance
      split
      · split_ifs
        · exact .inr rfl
        · exact .inl begin_inHand
        · exact .inr rfl
      · exact .inl rfl

theorem workerStep_live (h : LinkInvariant trace s) (a : LinkAnswer) :
    LinkInvariant (trace ++ (s.workerStep cfg a).1) (s.workerStep cfg a).2 ∧
      (Live (trace ++ (s.workerStep cfg a).1) (s.workerStep cfg a).2 ↔
        Live trace s ∧ (s.loads = true → s.point = .serving)) := by
  unfold Link.workerStep
  cases hputting : s.putting with
  | none =>
    have hhand : s.inHand = none := by rw [Link.inHand, hputting]; rfl
    have hloads : s.loads = false := by rw [Link.loads, hputting]; rfl
    refine ⟨h.congr (by simp) rfl rfl rfl (.inl begin_inHand), ?_⟩
    rw [live_of_inHand_eq (hhand ▸ begin_inHand), hloads]
    simp
  | some p =>
    cases hinHand : p.inHand with
    | none =>
      have hhand : s.inHand = none := by rw [Link.inHand, hputting]; exact hinHand
      have hloads : s.loads = true := by
        simp [Link.loads, hputting, p.inHand_eq_none_iff.mp hinHand]
      simp only [Putting.step_load hinHand]
      refine ⟨h.congr (by simp) rfl rfl rfl (.inr (.inr rfl)), ?_⟩
      have hafter : ({ s with putting := some ⟨.poll s.dataSocket, p.left⟩ } : Link).inHand =
          some s.dataSocket := rfl
      unfold Live
      rw [← h.live_iff, hafter, hhand]
      simp [hloads]
    | some sock =>
      have hhand : s.inHand = some sock := by rw [Link.inHand, hputting]; exact hinHand
      have hloads : s.loads = false := by
        simp [Link.loads, hputting, ← p.inHand_eq_none_iff, hinHand]
      obtain ⟨hout, hnext⟩ := Putting.step_used hinHand s.dataSocket a
      have hnext' : ({ s with putting := (p.step s.dataSocket a).2 } : Link).inHand = none ∨
          ({ s with putting := (p.step s.dataSocket a).2 } : Link).inHand = some sock := hnext
      simp only [hout]
      refine ⟨h.congr (by simp) rfl rfl rfl ?_, ?_⟩
      · exact hnext'.imp_right fun hn => .inl (hn.trans hhand.symm)
      unfold Live
      rw [Justified.snoc_iff, hhand, hloads]
      simp only [LiveUse, liveSocket_used]
      rcases hnext' with hn | hn
      · simp [hn]
      · simp [hn]

theorem justified_worker_iff (cfg : FpConfig) (trace : List LinkOutput) (s : Link)
    (a : LinkAnswer) : Justified LiveUse (trace ++ (s.workerStep cfg a).1) ↔ Live trace s := by
  cases hhand : s.inHand with
  | none =>
    have hout : (s.workerStep cfg a).1 = [] := by
      unfold Link.workerStep
      cases hputting : s.putting with
      | none => rfl
      | some p =>
        rw [Link.inHand, hputting] at hhand
        exact congrArg Prod.fst (Putting.step_load hhand s.dataSocket a)
    simp [hout, Live, hhand]
  | some sock =>
    obtain ⟨p, hputting, hinHand⟩ := Option.bind_eq_some_iff.mp hhand
    have hout : (s.workerStep cfg a).1 = [.used sock] := by
      rw [Link.workerStep, hputting]
      exact (Putting.step_used hinHand s.dataSocket a).1
    simp [hout, Live, hhand, Justified.snoc_iff, LiveUse]

theorem remove_live (h : LinkInvariant trace s) (hserve : s.point = .serving) :
    LinkInvariant (trace ++ s.dataSocket.toList.map .removed) { s with point := .clearing } ∧
      (Live (trace ++ s.dataSocket.toList.map .removed) { s with point := .clearing } ↔
        Live trace s ∧ s.inHand = none) := by
  obtain ⟨k, hsock, -⟩ := h.serving hserve
  have hout : s.dataSocket.toList.map LinkOutput.removed = [.removed k] := by
    rw [hsock]
    rfl
  rw [hout]
  refine ⟨⟨?_, ?_, by rintro ⟨⟩, ?_, by rintro (⟨⟨⟩⟩ | ⟨⟨⟩⟩)⟩, ?_⟩
  · rintro j (hmem | hcur | hinHand)
    · rcases List.mem_append.mp hmem with hold | hnew
      · exact h.numbered j (.inl hold)
      · rw [List.mem_singleton, LinkOutput.removed.injEq] at hnew
        exact h.numbered j (.inr (.inl (hnew ▸ hsock)))
    · exact h.numbered j (.inr (.inl hcur))
    · exact h.numbered j (.inr (.inr hinHand))
  · exact fun j hj hne => List.mem_append_left _ (h.others j hj hne)
  · exact fun _ => ⟨k, hsock, by simp⟩
  · have hhand : ({ s with point := .clearing } : Link).inHand = s.inHand := rfl
    unfold Live
    rw [Justified.snoc_iff, hhand]
    constructor
    · rintro ⟨⟨hjust, -⟩, hall⟩
      refine ⟨⟨hjust, fun sock hin => ?_⟩, ?_⟩
      · obtain ⟨j, rfl, hj⟩ := hall sock hin
        exact ⟨j, rfl, fun hmem => hj (List.mem_append_left _ hmem)⟩
      -- a live socket in hand would be the one that is removed
      · cases hin : s.inHand with
        | none => rfl
        | some sock =>
          obtain ⟨j, rfl, hj⟩ := hall sock hin
          simp only [List.mem_append, List.mem_singleton, LinkOutput.removed.injEq, not_or] at hj
          refine absurd (h.others j (h.numbered j (.inr (.inr hin))) ?_) hj.1
          rw [hsock]
          exact fun heq => hj.2 (Option.some.inj heq).symm
    · rintro ⟨⟨hjust, -⟩, hnone⟩
      refine ⟨⟨hjust, trivial⟩, ?_⟩
      rw [hnone]
      rintro sock ⟨⟩

theorem LinkInvariant.connect (h : LinkInvariant trace s) (haccept : s.point = .accepting) :
    LinkInvariant trace { s with
      point := .serving
      dataSocket := some s.nextSocket
      nextSocket := s.nextSocket + 1 } := by
  have hnone := h.accepting (.inl haccept)
  refine ⟨?_, ?_, ?_, by rintro ⟨⟩, by rintro (⟨⟨⟩⟩ | ⟨⟨⟩⟩)⟩
  · rintro k (hmem | hcur | hinHand)
    · exact Nat.lt_succ_of_lt (h.numbered k (.inl hmem))
    · rw [← Option.some.inj hcur]
      exact Nat.lt_succ_self _
    · exact Nat.lt_succ_of_lt (h.numbered k (.inr (.inr hinHand)))
  · intro k hk hne
    have hother : k ≠ s.nextSocket := fun heq => hne (by rw [heq])
    refine h.others k ?_ (by rw [hnone]; simp)
    dsimp only at hk
    omega
  · refine fun _ => ⟨s.nextSocket, rfl, fun hmem => ?_⟩
    exact Nat.lt_irrefl _ (h.numbered _ (.inl hmem))

theorem LinkInvariant.clear (h : LinkInvariant trace s) (hclearing : s.point = .clearing)
    (exits : Bool) :
    LinkInvariant trace { s with
      dataSocket := none
      point := if exits then .exited else .accepting } := by
  obtain ⟨k, hsock, hremove⟩ := h.clearing hclearing
  refine ⟨?_, ?_, ?_, ?_, fun _ => rfl⟩
  · rintro j (hmem | ⟨⟨⟩⟩ | hinHand)
    · exact h.numbered j (.inl hmem)
    · exact h.numbered j (.inr (.inr hinHand))
  · intro j hj _
    by_cases hcur : s.dataSocket = some j
    · obtain rfl : k = j := Option.some.inj (hsock.symm.trans hcur)
      exact hremove
    · exact h.others j hj hcur
  all_goals
    cases exits with
    | true | false => rintro ⟨⟩

end

theorem linkStep_live (cfg : FpConfig) (trace : List LinkOutput) (s : Link) (event : LinkEvent)
    (h : LinkInvariant trace s) :
    LinkInvariant (trace ++ (s.step cfg event).1) (s.step cfg event).2 ∧
      (Live (trace ++ (s.step cfg event).1) (s.step cfg event).2 ↔
        Live trace s ∧ Timed s event) := by
  -- all events but the worker's and the removal put nothing out and leave what is in hand
  have hquiet : ∀ s' : Link, LinkInvariant trace s' → s'.inHand = s.inHand →
      LinkInvariant (trace ++ []) s' ∧ (Live (trace ++ []) s' ↔ Live trace s ∧ True) := by
    intro s' hinv hhand
    rw [List.append_nil, live_of_inHand_eq hhand, and_true]
    exact ⟨hinv, Iff.rfl⟩
  have hsame : ∀ s' : Link, s'.point = s.point → s'.dataSocket = s.dataSocket →
      s'.nextSocket = s.nextSocket → s'.putting = s.putting →
        LinkInvariant (trace ++ []) s' ∧ (Live (trace ++ []) s' ↔ Live trace s ∧ True) := by
    intro s' hpoint hsock hnext hputting
    have hhand : s'.inHand = s.inHand := by rw [Link.inHand, Link.inHand, hputting]
    have hinv : LinkInvariant (trace ++ []) s' :=
      h.congr (by simp) hpoint hsock hnext (.inr (.inl hhand))
    exact hquiet s' (List.append_nil trace ▸ hinv) hhand
  cases event with
  | enter call | client => exact hsame _ rfl rfl rfl rfl
  | worker a => exact workerStep_live h a
  | connect =>
    simp only [Link.step]
    split_ifs with haccept
    · exact hquiet _ (h.connect haccept) rfl
    · exact hquiet _ h rfl
  | command c =>
    simp only [Link.step]
    split_ifs
    · cases c <;> exact hsame _ rfl rfl rfl rfl
    · exact hquiet _ h rfl
  | remove =>
    simp only [Link.step, Timed]
    split_ifs with hserve
    · obtain ⟨hinv, hlive⟩ := remove_live h hserve.1
      exact ⟨hinv, by simpa [hserve] using hlive⟩
    · simpa [hserve] using h
  | clear exits =>
    by_cases hclearing : s.point = .clearing
    · rw [Link.step, if_pos hclearing]
      exact hquiet _ (h.clear hclearing exits) rfl
    · rw [Link.step, if_neg hclearing]
      exact hquiet _ h rfl

theorem linkInvariant_start (hal : Hal) : LinkInvariant [] (Link.start hal) where
  numbered := by rintro k (⟨⟨⟩⟩ | ⟨⟨⟩⟩ | ⟨⟨⟩⟩)
  others := by rintro k ⟨⟩
  serving := by rintro ⟨⟩
  clearing := by rintro ⟨⟩
  accepting := fun _ => rfl

/-- Live sockets only, exactly in a timed run. -/
theorem worker_uses_live_iff (cfg : FpConfig) (hal : Hal) (events : List LinkEvent)
    (a : LinkAnswer) :
    Justified LiveUse (run (Link.step cfg) (.start hal) (events ++ [.worker a])).1 ↔
      Meets (Link.step cfg) Timed (.start hal) events := by
  have hstart : Live [] (Link.start hal) := ⟨Justified.nil, by rintro sock ⟨⟩⟩
  have hlive := run_iff_and_meets (linkStep_live cfg) events (linkInvariant_start hal)
  rw [List.nil_append, and_iff_right hstart] at hlive
  have htrace : (run (Link.step cfg) (.start hal) (events ++ [LinkEvent.worker a])).1 =
      (run (Link.step cfg) (.start hal) events).1 ++
        ((run (Link.step cfg) (.start hal) events).2.workerStep cfg a).1 := by
    simp only [run_append, run, List.append_nil, Link.step]
  rw [htrace, justified_worker_iff, hlive]

def sensorWorks : LinkEvent := .worker { answer := { ret := 0 } }

def detection : List LinkEvent :=
  [.connect, .command (.work .fingerDetect), .client, .client, .client, .client, .client,
    sensorWorks, .client, sensorWorks, sensorWorks]

def hangsUpInPut : List LinkEvent := detection ++ [sensorWorks, sensorWorks, .remove]

def hangsUpBefore : List LinkEvent := detection ++ [.remove, .clear false, sensorWorks]

def afterHangUp (events : List LinkEvent) : List LinkOutput :=
  (run (Link.step plainConfig) (.start (.start false false 0 0 0 0)) (events ++ [sensorWorks])).1

theorem worker_uses_removed :
    (afterHangUp hangsUpInPut = [.used (some 0), .removed 0, .used (some 0)] ∧
      ¬Justified LiveUse (afterHangUp hangsUpInPut)) ∧
    afterHangUp hangsUpBefore = [.removed 0, .used none] ∧
      ¬Justified LiveUse (afterHangUp hangsUpBefore) := by
  have hput : afterHangUp hangsUpInPut = [.used (some 0), .removed 0, .used (some 0)] := by
    decide +kernel
  have hbefore : afterHangUp hangsUpBefore = [.removed 0, .used none] := by
    decide +kernel
  refine ⟨⟨hput, fun h => ?_⟩, hbefore, fun h => ?_⟩
  · obtain ⟨k, hsock, hlive⟩ := h [.used (some 0), .removed 0] (.used (some 0)) [] hput
    obtain rfl := Option.some.inj hsock
    simp at hlive
  · obtain ⟨k, hsock, -⟩ := h [.removed 0] (.used none) [] hbefore
    cases hsock

theorem link_simulates_hal (cfg : FpConfig) (s : Link) (events : List LinkEvent) :
    ∃ moves, (run (Link.step cfg) s events).2.hal = (run (Hal.step cfg) s.hal moves).2 := by
  refine run_simulates (fun s event => ?_) s events
  cases event with
  | enter call => exact ⟨[.enter call], rfl⟩
  | client => exact ⟨[.client], rfl⟩
  | worker a =>
    simp only [Link.step, Link.workerStep]
    split
    · exact ⟨[], rfl⟩
    · exact ⟨[.worker a.answer], rfl⟩
  | connect | remove | clear exits =>
    simp only [Link.step]
    split_ifs <;> exact ⟨[], rfl⟩
  | command c =>
    simp only [Link.step]
    split_ifs
    · cases c with
      | work work => exact ⟨[.enter .fingerDetect], rfl⟩
      | tac => exact ⟨[.enter .tac], rfl⟩
      | agingTest value => exact ⟨[], rfl⟩
    · exact ⟨[], rfl⟩

end WikoPlatform.Chipone
