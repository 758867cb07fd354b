import WikoPlatform.Netutils.DhcpExchange
import WikoPlatform.Netutils.Framing

/-! Where the lease of `dhcp_init_ifc` comes from. The client decodes every reply into its lease
record before it asks whether the reply is valid, so a stray packet reaches the next request. -/

namespace WikoPlatform.Netutils

open Words Runs

def requestedIp (msg : DhcpMsg) : UInt32 := get32 msg.options.bytes 15

def serverId (msg : DhcpMsg) : UInt32 := get32 msg.options.bytes 21

def acceptedLeases (trace : List Action) : List DhcpInfo :=
  trace.filterMap fun
    | .received reply r true => some (decodeDhcpMsg reply r)
    | _ => none

theorem acceptedLeases_append (a b : List Action) :
    acceptedLeases (a ++ b) = acceptedLeases a ++ acceptedLeases b := List.filterMap_append

/-- The lease was decoded from one accepted reply. -/
def LeaseAccepted (before : List Action) : Action → Prop
  | .send msg _ => messageType msg = dhcpRequest → ∃ info ∈ acceptedLeases before,
      requestedIp msg = info.ipaddr ∧ serverId msg = info.serveraddr
  | .configure info => info ∈ acceptedLeases before
  | _ => True

instance (before : List Action) (a : Action) : Decidable (LeaseAccepted before a) := by
  unfold LeaseAccepted
  split <;> infer_instance

/-- The reply is an answer, says what is known, or is no early offer. -/
def Harmless (c : Client) : Option (DhcpMsg × Nat) → Prop
  | none => True
  | some (reply, r) => isValidReply c.awaiting reply r = true ∨ decodeDhcpMsg reply r = c.info ∨
      c.state = .selecting ∧ (decodeDhcpMsg reply r).type ≠ dhcpOffer.toUInt32

instance (c : Client) (received : Option (DhcpMsg × Nat)) : Decidable (Harmless c received) := by
  unfold Harmless
  split <;> infer_instance

def HarmlessStep : Loop → Event → Prop
  | .polling c, event => Harmless c (c.receivedReply event)
  | .returned _, _ => True

instance (loop : Loop) (event : Event) : Decidable (HarmlessStep loop event) := by
  unfold HarmlessStep
  split <;> infer_instance

/-- It holds no offer before the request, and what an accepted reply said from then on. -/
structure LeaseRecord (trace : List Action) (c : Client) : Prop where
  order : Justified LeaseAccepted trace
  selecting : c.state = .selecting → c.info.type ≠ dhcpOffer.toUInt32
  requesting : c.state = .requesting → c.info ∈ acceptedLeases trace

def LeaseInvariant (trace : List Action) : Loop → Prop
  | .polling c => LeaseRecord trace c
  | .returned _ => Justified LeaseAccepted trace

section

variable {trace actions : List Action} {c : Client}

theorem LeaseRecord.snoc (h : LeaseRecord trace c) {a : Action} (ha : LeaseAccepted trace a) :
    LeaseRecord (trace ++ [a]) c where
  order := h.order.snoc ha
  selecting := h.selecting
  requesting hstate := by
    rw [acceptedLeases_append]
    exact List.mem_append_left _ (h.requesting hstate)

theorem LeaseRecord.learn (h : LeaseRecord trace c) {reply : DhcpMsg} {r : Nat} {valid : Bool}
    (hselect : c.state = .selecting → (decodeDhcpMsg reply r).type ≠ dhcpOffer.toUInt32)
    (hrequesting : c.state = .requesting → valid = true ∨ decodeDhcpMsg reply r = c.info) :
    LeaseRecord (trace ++ [Action.received reply r valid]) (c.learn reply r) where
  order := h.order.snoc trivial
  selecting := hselect
  requesting hstate := by
    rw [acceptedLeases_append]
    rcases hrequesting hstate with rfl | hsame
    · exact List.mem_append_right _ (List.mem_singleton.mpr rfl)
    · rw [Client.learn, hsame]
      exact List.mem_append_left _ (h.requesting hstate)

theorem LeaseRecord.transmit (h : LeaseRecord trace c) :
    LeaseInvariant (trace ++ c.transmit.1) c.transmit.2 := by
  cases hstate : c.state with
  | selecting =>
    obtain ⟨datagram, heq⟩ := c.transmit_selecting hstate
    rw [heq]
    exact (⟨h.order, h.selecting, h.requesting⟩ :
      LeaseRecord trace { c with discoverMsg := c.discover }).snoc
        fun hreq => absurd hreq c.discover_not_request
  | requesting =>
    obtain ⟨datagram, heq⟩ := c.transmit_requesting hstate
    rw [heq]
    exact (⟨h.order, h.selecting, h.requesting⟩ :
      LeaseRecord trace { c with requestMsg := c.request }).snoc
        fun _ => ⟨c.info, h.requesting hstate, get32_of_bytes rfl rfl rfl rfl,
          get32_of_bytes rfl rfl rfl rfl⟩

theorem LeaseRecord.backOff (h : LeaseRecord trace c) : LeaseRecord trace c.backOff :=
  ⟨h.order, h.selecting, h.requesting⟩

theorem LeaseRecord.accept (h : LeaseRecord trace c) (reply : DhcpMsg) (r : Nat) :
    LeaseRecord (trace ++ [Action.received reply r true]) (c.learn reply r).accept where
  order := h.order.snoc trivial
  selecting := by rintro ⟨⟩
  requesting _ := by
    rw [acceptedLeases_append]
    exact List.mem_append_right _ (List.mem_singleton.mpr rfl)

theorem LeaseRecord.passes (h : LeaseRecord trace c) {event : Event} {loop : Loop}
    (hpasses : c.Passes event actions loop) (hharmless : HarmlessStep (.polling c) event) :
    LeaseInvariant (trace ++ actions) loop := by
  cases hpasses with
  | ignored =>
    rw [List.append_nil]
    exact h
  | failed _ =>
    rw [List.append_nil]
    exact h.order
  | timedOut hmax htype => exact h.order.snoc trivial
  | offered hmax htype =>
    refine h.order.snoc (h.requesting ?_)
    -- In the other state the record holds no offer.
    cases hstate : c.state with
    | selecting => exact absurd htype (h.selecting hstate)
    | requesting => rfl
  | resent hmax => exact h.backOff.transmit
  | invalid hreceived hanswers =>
    rw [HarmlessStep, hreceived, Harmless, isValidReply_iff] at hharmless
    rcases hharmless with hvalid | hsame | ⟨hselect, htype⟩
    · exact absurd hvalid hanswers
    · refine h.learn ?_ fun _ => .inr hsame
      rw [hsame]
      exact h.selecting
    · refine h.learn (fun _ => htype) ?_
      rw [hselect]
      simp
  | unused hreceived hanswers htype => exact h.learn htype fun _ => .inl rfl
  | offer hreceived hanswers hstate htype =>
    rw [List.append_cons]
    exact (h.accept _ _).transmit
  | @acked _ reply r hreceived hanswers hstate htype =>
    have hclose := (h.accept reply r).snoc (a := .close) trivial
    rw [List.append_cons, List.append_cons]
    exact hclose.order.snoc (hclose.requesting rfl)
  | @denied _ reply r hreceived hanswers hstate htype =>
    rw [List.append_cons]
    exact ((h.accept reply r).snoc (a := .close) trivial).order

end

theorem leaseInvariant_step (trace : List Action) (loop : Loop) (event : Event)
    (h : LeaseInvariant trace loop) (hharmless : HarmlessStep loop event) :
    LeaseInvariant (trace ++ (clientStep loop event).1) (clientStep loop event).2 := by
  cases loop with
  | polling c =>
    have hpoll : LeaseRecord (trace ++ [Action.poll c.timeout]) c := LeaseRecord.snoc h trivial
    simp only [clientStep]
    rw [List.append_cons]
    exact hpoll.passes (c.pass_passes event) hharmless
  | returned exit => simpa [clientStep] using h

theorem leaseInvariant_start (setup : Setup) :
    LeaseInvariant (dhcpInitIfc setup).1 (dhcpInitIfc setup).2 := by
  unfold dhcpInitIfc
  cases setup.hwaddr with
  | none => exact Justified.nil
  | some hwaddr =>
    simp only
    split_ifs
    · rw [← List.singleton_append]
      apply LeaseRecord.transmit
      exact ⟨Justified.nil.snoc trivial, fun _ => (by decide : (0 : UInt32) ≠ dhcpOffer.toUInt32),
        by simp⟩
    · exact Justified.nil

/-- Every lease used is of an accepted reply. -/
theorem clientRun_leaseAccepted (setup : Setup) (events : List Event)
    (h : Meets clientStep HarmlessStep (dhcpInitIfc setup).2 events) :
    Justified LeaseAccepted (clientRun setup events).1 := by
  have hinv : LeaseInvariant (clientRun setup events).1 (clientRun setup events).2 :=
    run_invariant leaseInvariant_step (leaseInvariant_start setup) h
  cases hloop : (clientRun setup events).2 with
  | polling c =>
    rw [hloop] at hinv
    exact hinv.order
  | returned exit =>
    rw [hloop] at hinv
    exact hinv

def lanHwaddr : Buf 6 := Buf.ofList 6 [2, 0, 0, 0, 0, 1]

def lanSetup : Setup where
  xid := 4096
  hwaddr := some lanHwaddr
  hasIfindex := true
  opened := true
  discoverMsg := .zero
  requestMsg := .zero
  reply := .zero
  info := .zero

def serverMsg (xid ipaddr : UInt32) (type : UInt8) (server : UInt32) : DhcpMsg :=
  { (initDhcpMsg type lanHwaddr xid).1 with
    op := opBootreply
    yiaddr := ipaddr
    options := Buf.ofList 1024 ((initDhcpMsg type lanHwaddr xid).2 ++ [optServerId, 4] ++
      le32 server ++ [optEnd]) }

def serverPacket (msg : DhcpMsg) : Event :=
  .packet (Buf.ofList sizeofPacket [])
    (sentDatagram msg (show 250 ≤ sizeofDhcpMsg by decide) 1 inaddrBroadcast portBootpServer)

def leaseEvents : List Event :=
  [serverPacket (serverMsg 4096 7 dhcpOffer 1), .timeout, serverPacket (serverMsg 4097 7 dhcpAck 1)]

theorem leaseEvents_leaseAccepted : (clientRun lanSetup leaseEvents).2 matches .returned .acked ∧
      Justified LeaseAccepted (clientRun lanSetup leaseEvents).1 :=
  ⟨by decide +kernel, clientRun_leaseAccepted _ _ (by decide +kernel)⟩

def strayEvents : List Event :=
  [serverPacket (serverMsg 4096 7 dhcpOffer 1), serverPacket (serverMsg 0 9 dhcpOffer 2), .timeout]

theorem strayEvents_not_leaseAccepted :
    ¬Justified LeaseAccepted (clientRun lanSetup strayEvents).1 := by
  have hlen : 8 < (clientRun lanSetup strayEvents).1.length := by decide +kernel
  have hreq : ¬LeaseAccepted ((clientRun lanSetup strayEvents).1.take 8)
      ((clientRun lanSetup strayEvents).1.getD 8 .close) := by decide +kernel
  generalize (clientRun lanSetup strayEvents).1 = trace at hlen hreq ⊢
  exact fun h => hreq (h.getD hlen .close)

end WikoPlatform.Netutils
