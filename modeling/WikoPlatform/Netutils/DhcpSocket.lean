import WikoPlatform.Netutils.DhcpClient

/-! The raw socket of `dhcp_init_ifc`, which not all of its returns close. -/

namespace WikoPlatform.Netutils

open Runs Words

/-- A socket that was opened has been closed exactly once. -/
def ClosedOnce (r : List Action × Loop) : Prop :=
  ∀ exit, r.2 = .returned exit → exit ≠ .undefined → Action.openRawSocket true ∈ r.1 →
    r.1.count .close = 1

/-- The pass has no return that keeps the socket open. -/
def Closing : Loop → Event → Prop
  | .polling c, .timeout => ¬(timeoutMax ≤ c.timeout ∧ c.info.type = dhcpOffer.toUInt32)
  | .polling _, .pollError errno => errno = .eagain ∨ errno = .eintr
  | .polling _, .readError errno => ¬(errno = .enetdown ∨ errno = .enxio)
  | .polling _, .packet _ _ => True
  | .returned _, _ => True

def Setup.Opens (setup : Setup) : Prop :=
  setup.hwaddr.isSome = true ∧ setup.hasIfindex = true ∧ setup.opened = true

namespace Client

inductive Settles (c : Client) (event : Event) (actions : List Action) : Loop → Prop where
  | goesOn {c' : Client} (hcount : actions.count .close = 0)
      (hclose : Closing (.polling c) event) : Settles c event actions (.polling c')
  | closes {exit : Exit} (hcount : exit = .undefined ∨ actions.count .close = 1)
      (hclose : Closing (.polling c) event) : Settles c event actions (.returned exit)
  | leaks {exit : Exit} (hexit : exit ≠ .undefined) (hcount : actions.count .close = 0)
      (hclose : ¬Closing (.polling c) event) : Settles c event actions (.returned exit)

theorem transmit_polling (c : Client) : ∃ c', c.transmit.2 = .polling c' ∧
    c.transmit.1.count .close = 0 := by
  unfold transmit
  cases c.state with
  | selecting | requesting => exact ⟨_, rfl, rfl⟩

theorem onTimeout_settles (c : Client) : Settles c .timeout c.onTimeout.1 c.onTimeout.2 := by
  unfold onTimeout
  split_ifs with hmax htype
  · exact .leaks (by decide) rfl (not_not.mpr ⟨hmax, htype⟩)
  · exact .closes (.inr rfl) fun h => htype h.2
  · obtain ⟨c', hloop, hcount⟩ := transmit_polling c.backOff
    rw [hloop]
    exact .goesOn hcount fun h => hmax h.1

theorem onValidReply_settles {c : Client} {before : Client} {stale datagram} {reply r} :
    Settles before (.packet stale datagram) (.received reply r true :: c.onValidReply.1)
      c.onValidReply.2 := by
  unfold onValidReply
  cases c.state with
  | selecting =>
    simp only
    split_ifs with htype
    · obtain ⟨c', hloop, hcount⟩ := transmit_polling c.accept
      exact .goesOn (by rw [List.count_cons]; rfl) trivial
    · exact .goesOn rfl trivial
  | requesting =>
    simp only
    split_ifs with hack hnak
    · exact .closes (.inr rfl) trivial
    · exact .closes (.inr rfl) trivial
    · exact .goesOn rfl trivial

theorem pass_settles (c : Client) (event : Event) :
    Settles c event (c.pass event).1 (c.pass event).2 := by
  cases event with
  | timeout => exact c.onTimeout_settles
  | pollError errno =>
    simp only [pass]
    split_ifs with hretry
    · exact .goesOn rfl hretry
    · exact .leaks (by decide) rfl hretry
  | readError errno =>
    simp only [pass]
    split_ifs with hdown
    · exact .leaks (by decide) rfl (not_not.mpr hdown)
    · exact .goesOn rfl hdown
  | packet stale datagram =>
    simp only [pass]
    cases receivePacket stale datagram with
    | rejected => exact .goesOn rfl trivial
    | copied size dhcp =>
      simp only
      cases c.reply.memcpy dhcp size with
      | none => exact .closes (.inl rfl) trivial
      | some reply =>
        simp only [onReply]
        split_ifs
        · exact onValidReply_settles
        · exact .goesOn rfl trivial

end Client

def SocketOpen (trace : List Action) : Loop → Prop
  | .polling _ => trace.count .close = 0
  | .returned _ => True

def SocketClosed (trace : List Action) : Loop → Prop
  | .polling _ => True
  | .returned exit => exit = .undefined ∨ trace.count .close = 1

theorem socketClosed_iff (trace : List Action) (loop : Loop) : SocketClosed trace loop ↔
    ∀ exit, loop = .returned exit → exit ≠ .undefined → trace.count .close = 1 := by
  cases loop with
  | polling c => simp [SocketClosed]
  | returned exit =>
    simp only [SocketClosed, Loop.returned.injEq, forall_eq', or_iff_not_imp_left, ne_eq]

theorem clientStep_socket (trace : List Action) (loop : Loop) (event : Event)
    (hopen : SocketOpen trace loop) :
    SocketOpen (trace ++ (clientStep loop event).1) (clientStep loop event).2 ∧
      (SocketClosed (trace ++ (clientStep loop event).1) (clientStep loop event).2 ↔
        SocketClosed trace loop ∧ Closing loop event) := by
  cases loop with
  | returned exit => simp [clientStep, SocketOpen, SocketClosed, Closing]
  | polling c =>
    have hsettles := c.pass_settles event
    simp only [clientStep]
    generalize c.pass event = r at hsettles
    obtain ⟨actions, loop⟩ := r
    have hcounts : (trace ++ .poll c.timeout :: actions).count .close = actions.count .close := by
      rw [List.count_append, hopen, Nat.zero_add]
      rfl
    simp only [SocketOpen, SocketClosed, true_and]
    cases hsettles with
    | goesOn hcount hclose | closes hcount hclose =>
      simp only [hcounts, hcount, hclose, and_self]
    | leaks hexit hcount hclose =>
      simp [hcounts, hexit, hcount, hclose]

theorem Client.transmit_not_opens {c : Client} (opened : Bool) :
    Action.openRawSocket opened ∉ c.transmit.1 := by
  unfold Client.transmit
  cases c.state with
  | selecting | requesting => simp [sendMessage]

theorem clientStep_not_opens (loop : Loop) (event : Event) (opened : Bool) :
    Action.openRawSocket opened ∉ (clientStep loop event).1 := by
  cases loop with
  | returned exit => simp [clientStep]
  | polling c =>
    have hpasses := c.pass_passes event
    simp only [clientStep]
    generalize c.pass event = r at hpasses
    obtain ⟨actions, loop⟩ := r
    simp only [List.mem_cons, reduceCtorEq, false_or]
    cases hpasses with
    | resent => exact Client.transmit_not_opens opened
    | offer => simpa using Client.transmit_not_opens opened
    | _ => simp

theorem run_not_opens {trace : List Action} (h : Action.openRawSocket true ∉ trace) (loop : Loop)
    (events : List Event) :
    Action.openRawSocket true ∉ trace ++ (run clientStep loop events).1 := by
  have hstep : ∀ trace loop event, Action.openRawSocket true ∉ trace →
      Action.openRawSocket true ∉ trace ++ (clientStep loop event).1 := by
    intro trace loop event htrace
    rw [List.mem_append, not_or]
    exact ⟨htrace, clientStep_not_opens loop event true⟩
  exact run_invariant_all hstep h

variable {setup : Setup}

theorem dhcpInitIfc_opens (h : setup.Opens) : ∃ c actions,
    dhcpInitIfc setup = (.openRawSocket true :: actions, .polling c) ∧
      actions.count .close = 0 := by
  obtain ⟨hhwaddr, hindex, hopened⟩ := h
  obtain ⟨hwaddr, hhwaddr⟩ := Option.isSome_iff_exists.mp hhwaddr
  simp only [dhcpInitIfc, hhwaddr, hindex, hopened, if_true]
  generalize Client.mk .. = c
  obtain ⟨c', hloop, hcount⟩ := c.transmit_polling
  exact ⟨c', c.transmit.1, by rw [hloop], hcount⟩

theorem dhcpInitIfc_not_opens (h : ¬setup.Opens) :
    Action.openRawSocket true ∉ (dhcpInitIfc setup).1 := by
  unfold dhcpInitIfc
  cases hhwaddr : setup.hwaddr with
  | none => simp
  | some hwaddr =>
    split_ifs with hindex
    · have hopened : setup.opened = false := by
        by_contra hopened
        exact h ⟨by rw [hhwaddr]; rfl, hindex, by simpa using hopened⟩
      rw [hopened, List.mem_cons, not_or]
      exact ⟨by simp, Client.transmit_not_opens true⟩
    · simp

/-- Closed once exactly if every pass is closing. -/
theorem closedOnce_iff (setup : Setup) (events : List Event) : ClosedOnce (clientRun setup events) ↔
      (setup.Opens → Meets clientStep Closing (dhcpInitIfc setup).2 events) := by
  by_cases hopens : setup.Opens
  · obtain ⟨c, actions, hinit, hcount⟩ := dhcpInitIfc_opens hopens
    have hopen : SocketOpen (.openRawSocket true :: actions) (.polling c) := by
      show List.count _ (_ :: _) = 0
      rw [List.count_cons, hcount]
      rfl
    have hiff := run_iff_and_meets clientStep_socket events hopen
    have hmem : Action.openRawSocket true ∈ (Action.openRawSocket true :: actions) ++
        (run clientStep (.polling c) events).1 := by simp
    have hstart : SocketClosed (.openRawSocket true :: actions) (.polling c) := trivial
    rw [and_iff_right hstart, socketClosed_iff] at hiff
    rw [clientRun, hinit, imp_iff_right hopens, ← hiff]
    exact ⟨fun h exit hexit hdefined => h exit hexit hdefined hmem,
      fun h exit hexit hdefined _ => h exit hexit hdefined⟩
  · have hnot := run_not_opens (dhcpInitIfc_not_opens hopens) (dhcpInitIfc setup).2 events
    refine iff_of_true ?_ fun h => absurd h hopens
    intro exit _ _ hopened
    exact absurd hopened hnot

def openingSetup : Setup where
  xid := 7
  hwaddr := some (Buf.ofList 6 [2, 0, 0, 0, 0, 1])
  hasIfindex := true
  opened := true
  discoverMsg := .zero
  requestMsg := .zero
  reply := .zero
  info := .zero

theorem not_closedOnce_netDown : ¬ClosedOnce (clientRun openingSetup [.readError .enetdown]) := by
  intro h
  have hcount := h .netDown rfl (by decide) (by decide +kernel)
  revert hcount
  decide +kernel

end WikoPlatform.Netutils
