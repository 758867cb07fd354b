import Mathlib.Tactic.IntervalCases
import WikoPlatform.Netutils.DhcpClient

/-! The order of the messages of `dhcp_init_ifc` and its bounds. -/

namespace WikoPlatform.Netutils

open Words Runs

def messageType (msg : DhcpMsg) : UInt8 := msg.options.bytes.getD 6 0

theorem dumpDhcpMsg_of_empty {msg : DhcpMsg} (hsname : msg.sname = Buf.ofList 64 [])
    (hfile : msg.file = Buf.ofList 128 []) (len : Nat) : dumpDhcpMsg msg len = msg := by
  unfold dumpDhcpMsg
  split_ifs
  · rfl
  · rw [hsname, hfile, show dumpString (Buf.ofList 64 []) = Buf.ofList 64 [] by decide +kernel,
      show dumpString (Buf.ofList 128 []) = Buf.ofList 128 [] by decide +kernel, ← hsname, ← hfile]

namespace Client

variable (c : Client)

def discover : DhcpMsg := (initDhcpDiscoverMsg c.hwaddr c.xid).1

def request : DhcpMsg :=
  (initDhcpRequestMsg c.hwaddr c.xid c.info.ipaddr c.info.serveraddr).1

@[simp] theorem discover_xid : c.discover.xid = c.xid := rfl

@[simp] theorem request_xid : c.request.xid = c.xid := rfl

theorem discover_messageType : messageType c.discover = dhcpDiscover := rfl

theorem request_messageType : messageType c.request = dhcpRequest := rfl

theorem discover_not_request : messageType c.discover ≠ dhcpRequest := by
  rw [discover_messageType]
  decide

theorem request_not_discover : messageType c.request ≠ dhcpDiscover := by
  rw [request_messageType]
  decide

theorem transmit_selecting (h : c.state = .selecting) : ∃ datagram,
    c.transmit = ([.send c.discover datagram], .polling { c with discoverMsg := c.discover }) := by
  have hdump : ∀ size, dumpDhcpMsg (initDhcpDiscoverMsg c.hwaddr c.xid).1 size = c.discover :=
    fun size => dumpDhcpMsg_of_empty rfl rfl size
  simp only [transmit, h, sendMessage, hdump]
  exact ⟨_, rfl⟩

theorem transmit_requesting (h : c.state = .requesting) : ∃ datagram,
    c.transmit = ([.send c.request datagram], .polling { c with requestMsg := c.request }) := by
  have hdump : ∀ size, dumpDhcpMsg
      (initDhcpRequestMsg c.hwaddr c.xid c.info.ipaddr c.info.serveraddr).1 size = c.request :=
    fun size => dumpDhcpMsg_of_empty rfl rfl size
  simp only [transmit, h, sendMessage, hdump]
  exact ⟨_, rfl⟩

end Client

/-- A message of that type was sent, and a valid reply came. -/
def Answered (type answer : UInt8) (trace : List Action) : Prop :=
  ∃ earlier later msg datagram reply r, trace = earlier ++ .received reply r true :: later ∧
    .send msg datagram ∈ earlier ∧ messageType msg = type ∧ Answers msg reply r ∧
    (decodeDhcpMsg reply r).type = answer.toUInt32

variable {trace : List Action}

theorem Answered.append {type answer : UInt8} (h : Answered type answer trace)
    (more : List Action) : Answered type answer (trace ++ more) := by
  obtain ⟨earlier, later, msg, datagram, reply, r, rfl, hrest⟩ := h
  exact ⟨earlier, later ++ more, msg, datagram, reply, r, by simp, hrest⟩

/-- The last reply has type `answer` and answers a request. -/
def EndsOn (answer : UInt8) (trace : List Action) : Prop :=
  ∃ earlier msg datagram reply r rest, trace = earlier ++ .received reply r true :: rest ∧
    (∀ reply r valid, .received reply r valid ∉ rest) ∧
    .send msg datagram ∈ earlier ∧ messageType msg = dhcpRequest ∧ Answers msg reply r ∧
    (decodeDhcpMsg reply r).type = answer.toUInt32

/-- Timeouts are one of four, and requests follow an answered discover. -/
def InOrder (xid : UInt32) (before : List Action) : Action → Prop
  | .poll timeout => timeout ∈ [4000, 8000, 16000, 32000]
  | .send msg _ => (messageType msg = dhcpDiscover → msg.xid = xid) ∧
      (messageType msg = dhcpRequest →
        msg.xid = xid + 1 ∧ Answered dhcpDiscover dhcpOffer before)
  | _ => True

def Action.sends (type : UInt8) : Action → Bool
  | .send msg _ => messageType msg = type
  | _ => false

def sentCount (type : UInt8) (trace : List Action) : Nat := trace.countP (Action.sends type)

@[simp] theorem sentCount_append (type : UInt8) (a b : List Action) :
    sentCount type (a ++ b) = sentCount type a + sentCount type b := List.countP_append

/-- What holds after `k` retries. -/
structure Stage (xid : UInt32) (trace : List Action) (c : Client) (k : Nat) : Prop where
  order : Justified (InOrder xid) trace
  retries : k < 4
  timeout : c.timeout = timeoutInitial * 2 ^ k
  selecting : c.state = .selecting → c.xid = xid ∧ sentCount dhcpDiscover trace = k + 1 ∧
    sentCount dhcpRequest trace = 0 ∧ messageType c.discoverMsg = dhcpDiscover ∧
    ∃ datagram, .send c.discoverMsg datagram ∈ trace
  requesting : c.state = .requesting → c.xid = xid + 1 ∧ sentCount dhcpDiscover trace ≤ 4 ∧
    sentCount dhcpRequest trace = k + 1 ∧ messageType c.requestMsg = dhcpRequest ∧
    Answered dhcpDiscover dhcpOffer trace ∧ ∃ datagram, .send c.requestMsg datagram ∈ trace

structure Ended (xid : UInt32) (trace : List Action) (exit : Exit) : Prop where
  order : Justified (InOrder xid) trace
  discovers : sentCount dhcpDiscover trace ≤ 4
  requests : sentCount dhcpRequest trace ≤ 4
  acked : exit = .acked → EndsOn dhcpAck trace
  denied : exit = .denied → EndsOn dhcpNak trace

def Exchange (xid : UInt32) (trace : List Action) : Loop → Prop
  | .polling c => ∃ k, Stage xid trace c k
  | .returned exit => Ended xid trace exit

def Action.quiet : Action → Bool
  | .send _ _ => false
  | .poll _ => false
  | _ => true

section

variable {xid : UInt32} {trace actions : List Action} {c : Client} {k r : Nat} {reply : DhcpMsg}

theorem order_append_quiet (h : Justified (InOrder xid) trace)
    (hquiet : ∀ a ∈ actions, a.quiet = true) : Justified (InOrder xid) (trace ++ actions) := by
  induction actions generalizing trace with
  | nil => simpa using h
  | cons a actions ih =>
    have ha : InOrder xid trace a := by
      have hq := hquiet a (by simp)
      cases a with
      | send msg datagram | poll timeout => cases hq
      | _ => trivial
    rw [List.append_cons]
    exact ih (h.snoc ha) fun b hb => hquiet b (by simp [hb])

theorem sentCount_quiet (type : UInt8) (hquiet : ∀ a ∈ actions, a.quiet = true) :
    sentCount type actions = 0 := by
  rw [sentCount, List.countP_eq_zero]
  intro a ha hsends
  cases a with
  | send msg datagram => cases hquiet _ ha
  | _ => cases hsends

section

variable (h : Stage xid trace c k)
include h

theorem Stage.append (horder : Justified (InOrder xid) (trace ++ actions))
    (hcount : ∀ type, sentCount type actions = 0) : Stage xid (trace ++ actions) c k where
  order := horder
  retries := h.retries
  timeout := h.timeout
  selecting := by
    intro hstate
    obtain ⟨hxid, hdiscovers, hreqs, htype, datagram, hsent⟩ := h.selecting hstate
    exact ⟨hxid, by simp [hcount, hdiscovers], by simp [hcount, hreqs], htype, datagram,
      List.mem_append_left _ hsent⟩
  requesting := by
    intro hstate
    obtain ⟨hxid, hdiscovers, hreqs, htype, hoffer, datagram, hsent⟩ := h.requesting hstate
    exact ⟨hxid, by simpa [hcount] using hdiscovers, by simp [hcount, hreqs], htype,
      hoffer.append _, datagram, List.mem_append_left _ hsent⟩

theorem Stage.append_quiet (hquiet : ∀ a ∈ actions, a.quiet = true) :
    Stage xid (trace ++ actions) c k :=
  h.append (order_append_quiet h.order hquiet) fun type => sentCount_quiet type hquiet

theorem Stage.poll : Stage xid (trace ++ [Action.poll c.timeout]) c k := by
  refine h.append (h.order.snoc ?_) fun type => rfl
  have hk := h.retries
  simp only [InOrder, h.timeout, timeoutInitial]
  interval_cases k <;> decide

theorem Stage.learn (reply : DhcpMsg) (r : Nat) : Stage xid trace (c.learn reply r) k :=
  ⟨h.order, h.retries, h.timeout, h.selecting, h.requesting⟩

theorem Stage.counts : sentCount dhcpDiscover trace ≤ 4 ∧ sentCount dhcpRequest trace ≤ 4 := by
  have hk := h.retries
  cases hstate : c.state with
  | selecting =>
    obtain ⟨-, hdiscovers, hreqs, -⟩ := h.selecting hstate
    omega
  | requesting =>
    obtain ⟨-, hdiscovers, hreqs, -⟩ := h.requesting hstate
    omega

theorem Stage.ended {exit : Exit} (hquiet : ∀ a ∈ actions, a.quiet = true)
    (hacked : exit = .acked → EndsOn dhcpAck (trace ++ actions))
    (hdenied : exit = .denied → EndsOn dhcpNak (trace ++ actions)) :
    Ended xid (trace ++ actions) exit where
  order := order_append_quiet h.order hquiet
  discovers := (h.append_quiet hquiet).counts.1
  requests := (h.append_quiet hquiet).counts.2
  acked := hacked
  denied := hdenied

theorem Stage.resend (hmax : c.timeout < timeoutMax) :
    Exchange xid (trace ++ c.backOff.transmit.1) c.backOff.transmit.2 := by
  have hk : k + 1 < 4 := by
    have hk := h.retries
    rw [h.timeout, timeoutInitial, timeoutMax] at hmax
    interval_cases k <;> omega
  have htimeout : c.backOff.timeout = timeoutInitial * 2 ^ (k + 1) := by
    rw [Client.backOff, h.timeout, pow_succ, Nat.mul_assoc]
  cases hstate : c.state with
  | selecting =>
    obtain ⟨hxid, hdiscovers, hreqs, -⟩ := h.selecting hstate
    obtain ⟨datagram, heq⟩ := c.backOff.transmit_selecting hstate
    rw [heq]
    refine ⟨k + 1, h.order.snoc ?_, hk, htimeout, ?_, ?_⟩
    · exact ⟨fun _ => hxid, fun hreq => absurd hreq (Client.discover_not_request _)⟩
    · exact fun _ => ⟨hxid, by rw [sentCount_append, hdiscovers]; rfl,
        by rw [sentCount_append, hreqs]; rfl, Client.discover_messageType _, datagram, by simp⟩
    · exact fun hrequesting => by
        rw [show c.state = .requesting from hrequesting] at hstate
        cases hstate
  | requesting =>
    obtain ⟨hxid, hdiscovers, hreqs, -, hoffer, -⟩ := h.requesting hstate
    obtain ⟨datagram, heq⟩ := c.backOff.transmit_requesting hstate
    rw [heq]
    refine ⟨k + 1, h.order.snoc ?_, hk, htimeout, ?_, ?_⟩
    · exact ⟨fun hdiscover => absurd hdiscover (Client.request_not_discover _),
        fun _ => ⟨hxid, hoffer⟩⟩
    · exact fun hselect => by
        rw [show c.state = .selecting from hselect] at hstate
        cases hstate
    · exact fun _ => ⟨hxid, by rw [sentCount_append]; exact hdiscovers,
        by rw [sentCount_append, hreqs]; rfl, Client.request_messageType _, hoffer.append _,
        datagram, by simp⟩

theorem Stage.accept (hstate : c.state = .selecting)
    (hoffer : Answered dhcpDiscover dhcpOffer trace) :
    Exchange xid (trace ++ c.accept.transmit.1) c.accept.transmit.2 := by
  have hk := h.retries
  obtain ⟨hxid, hdiscovers, hreqs, -⟩ := h.selecting hstate
  obtain ⟨datagram, heq⟩ := Client.transmit_requesting c.accept rfl
  have hnext : c.accept.xid = xid + 1 := by rw [← hxid]; rfl
  rw [heq]
  refine ⟨0, h.order.snoc ?_, by decide, rfl, by rintro ⟨⟩, ?_⟩
  · exact ⟨fun hdiscover => absurd hdiscover (Client.request_not_discover _),
      fun _ => ⟨hnext, hoffer⟩⟩
  · exact fun _ => ⟨hnext, by rw [sentCount_append, hdiscovers]; exact hk,
      by rw [sentCount_append, hreqs]; rfl, Client.request_messageType _, hoffer.append _,
      datagram, by simp⟩

theorem Stage.answered (hstate : c.state = .selecting) (hanswers : Answers c.awaiting reply r)
    (htype : (decodeDhcpMsg reply r).type = dhcpOffer.toUInt32) :
    Answered dhcpDiscover dhcpOffer (trace ++ [Action.received reply r true]) := by
  obtain ⟨-, -, -, hdiscover, datagram, hsent⟩ := h.selecting hstate
  rw [Client.awaiting, hstate] at hanswers
  exact ⟨trace, [], c.discoverMsg, datagram, reply, r, rfl, hsent, hdiscover, hanswers, htype⟩

theorem Stage.endsOn (hstate : c.state = .requesting) (hanswers : Answers c.awaiting reply r)
    {answer : UInt8} (htype : (decodeDhcpMsg reply r).type = answer.toUInt32) {rest : List Action}
    (hrest : ∀ reply r valid, .received reply r valid ∉ rest) :
    EndsOn answer (trace ++ Action.received reply r true :: rest) := by
  obtain ⟨-, -, -, hreq, -, datagram, hsent⟩ := h.requesting hstate
  rw [Client.awaiting, hstate] at hanswers
  exact ⟨trace, c.requestMsg, datagram, reply, r, rest, rfl, hrest, hsent, hreq, hanswers,
    htype⟩

theorem Stage.passes {event : Event} {loop : Loop} (hpasses : c.Passes event actions loop) :
    Exchange xid (trace ++ actions) loop := by
  cases hpasses with
  | ignored => exact ⟨k, by simpa using h⟩
  | failed hexit =>
    refine h.ended (by simp) ?_ ?_
    all_goals
      rintro rfl
      simp at hexit
  | timedOut | offered => exact h.ended (by simp [Action.quiet]) (by simp) (by simp)
  | resent hmax => exact h.resend hmax
  | invalid | unused => exact ⟨k, (h.append_quiet (by simp [Action.quiet])).learn _ _⟩
  | @offer _ reply r _ hanswers hstate htype =>
    have hquiet : ∀ a ∈ [Action.received reply r true], a.quiet = true := by simp [Action.quiet]
    rw [List.append_cons]
    exact ((h.append_quiet hquiet).learn reply r).accept hstate (h.answered hstate hanswers htype)
  | acked _ hanswers hstate htype =>
    exact h.ended (by simp [Action.quiet]) (fun _ => h.endsOn hstate hanswers htype (by simp))
      (by simp)
  | denied _ hanswers hstate htype =>
    exact h.ended (by simp [Action.quiet]) (by simp) fun _ =>
      h.endsOn hstate hanswers htype (by simp)

end

end

theorem exchange_step (xid : UInt32) (trace : List Action) (loop : Loop) (event : Event)
    (h : Exchange xid trace loop) :
    Exchange xid (trace ++ (clientStep loop event).1) (clientStep loop event).2 := by
  cases loop with
  | polling c =>
    obtain ⟨k, hstage⟩ := h
    simp only [clientStep]
    rw [List.append_cons]
    exact hstage.poll.passes (c.pass_passes event)
  | returned exit => simpa [clientStep] using h

theorem exchange_start (setup : Setup) :
    Exchange setup.xid (dhcpInitIfc setup).1 (dhcpInitIfc setup).2 := by
  have hfatal : Ended setup.xid [] .fatal :=
    ⟨Justified.nil, by decide, by decide, by simp, by simp⟩
  unfold dhcpInitIfc
  cases setup.hwaddr with
  | none => exact hfatal
  | some hwaddr =>
    simp only
    split_ifs
    · obtain ⟨datagram, heq⟩ := Client.transmit_selecting
        ⟨hwaddr, .selecting, timeoutInitial, setup.xid, setup.discoverMsg, setup.requestMsg,
          setup.reply, { setup.info with type := 0 }⟩ rfl
      rw [heq]
      refine ⟨0, ?_, by decide, rfl, ?_, by simp⟩
      · have hopen : Justified (InOrder setup.xid) [.openRawSocket setup.opened] :=
          Justified.nil.snoc trivial
        exact hopen.snoc
          ⟨fun _ => rfl, fun hreq => absurd hreq (Client.discover_not_request _)⟩
      · exact fun _ => ⟨rfl, rfl, rfl, Client.discover_messageType _, datagram, by simp⟩
    · exact hfatal

structure ExchangeOrder (trace : List Action) (loop : Loop) : Prop where
  offerFirst : ∀ before msg datagram after, trace = before ++ .send msg datagram :: after →
    messageType msg = dhcpRequest → Answered dhcpDiscover dhcpOffer before
  nextXid : ∀ discover request datagram datagram', .send discover datagram ∈ trace →
    messageType discover = dhcpDiscover → .send request datagram' ∈ trace →
    messageType request = dhcpRequest → request.xid = discover.xid + 1
  acked : loop = .returned .acked → EndsOn dhcpAck trace
  denied : loop = .returned .denied → EndsOn dhcpNak trace
  discovers : sentCount dhcpDiscover trace ≤ 4
  requests : sentCount dhcpRequest trace ≤ 4
  timeouts : ∀ timeout, .poll timeout ∈ trace → timeout ∈ [4000, 8000, 16000, 32000]

theorem inOrder_of_mem {xid : UInt32} (h : Justified (InOrder xid) trace) {a : Action}
    (ha : a ∈ trace) : ∃ before, InOrder xid before a := by
  obtain ⟨before, after, rfl⟩ := List.append_of_mem ha
  exact ⟨before, h before a after rfl⟩

theorem clientRun_exchangeOrder (setup : Setup) (events : List Event) :
    ExchangeOrder (clientRun setup events).1 (clientRun setup events).2 := by
  have h : Exchange setup.xid (clientRun setup events).1 (clientRun setup events).2 :=
    run_invariant_all (exchange_step setup.xid) (exchange_start setup)
  generalize (clientRun setup events).1 = trace at h ⊢
  generalize (clientRun setup events).2 = loop at h ⊢
  have horder : Justified (InOrder setup.xid) trace := by
    cases loop with
    | polling c => exact h.choose_spec.order
    | returned exit => exact h.order
  have hcounts : sentCount dhcpDiscover trace ≤ 4 ∧ sentCount dhcpRequest trace ≤ 4 := by
    cases loop with
    | polling c => exact h.choose_spec.counts
    | returned exit => exact ⟨h.discovers, h.requests⟩
  refine ⟨?_, ?_, ?_, ?_, hcounts.1, hcounts.2, ?_⟩
  · intro before msg datagram after htrace hreq
    exact ((horder before _ after htrace).2 hreq).2
  · intro discover request datagram datagram' hsent hdiscover hsent' hreq
    obtain ⟨_, hfirst⟩ := inOrder_of_mem horder hsent
    obtain ⟨_, hsecond⟩ := inOrder_of_mem horder hsent'
    rw [(hsecond.2 hreq).1, hfirst.1 hdiscover]
  · rintro rfl
    exact h.acked rfl
  · rintro rfl
    exact h.denied rfl
  · intro timeout hpoll
    obtain ⟨_, htimeout⟩ := inOrder_of_mem horder hpoll
    exact htimeout

end WikoPlatform.Netutils
