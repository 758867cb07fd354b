import WikoPlatform.Lib.Runs

/-! `dhcpv6_start` and `dhcpv6_stop`. The flag of the router advertisement, which decides on the
service, is read for `wlan0` and kept in one variable for all interfaces. A service is its kind and
its interface. -/

namespace WikoPlatform.Netutils

open Runs

inductive GetRaRet where
  | err
  | oSet
  | mSet
  | defVal
  deriving DecidableEq

inductive RaRead where
  | openFailed
  | readFailed
  | empty
  | byte (ch : Char)

def flagOf (ch : Char) : Option GetRaRet :=
  if ch = '2' then some .mSet
  else if ch = '1' then some .oSet
  else if ch = '4' then some .defVal
  else none

/-- A read without a byte leaves in `ch` what was there. -/
def readRaFlag : List RaRead → Char → GetRaRet
  | [], _ => .err
  | .openFailed :: rest, ch => readRaFlag rest ch
  | .readFailed :: rest, ch => readRaFlag rest ch
  | .empty :: rest, ch => (flagOf ch).getD (readRaFlag rest ch)
  | .byte ch :: rest, _ => (flagOf ch).getD (readRaFlag rest ch)

def getMbitFromRA (attempts : Nat → RaRead) (ch : Char) (maxwait : Int) : GetRaRet :=
  readRaFlag ((List.range (max maxwait 1).toNat).map attempts) ch

inductive ServiceKind where
  | stateful
  | stateless
  deriving DecidableEq

def GetRaRet.service : GetRaRet → Option ServiceKind
  | .mSet => some .stateful
  | .oSet => some .stateless
  | .err | .defVal => none

def ServiceKind.flag : ServiceKind → GetRaRet
  | .stateful => .mSet
  | .stateless => .oSet

/-- Whether the daemon runs and has a result in time, and what stands in its pid file, with none for
a file that cannot be opened. -/
structure StartOutcome where
  attempts : Nat → RaRead
  ch : Char
  running : Bool
  result : Bool
  pidFile : Option (Option UInt32)

inductive Dhcpv6Call (Iface : Type*) where
  | start (interface : Iface) (o : StartOutcome)
  | stop (interface : Iface) (stopped : Bool)

/-- A start or stop that is over, with the service that it gave to `ctl.start` or `ctl.stop`. -/
inductive Dhcpv6Record (Iface : Type*) where
  | start (interface : Iface) (raFlag : GetRaRet) (ctl : Option ServiceKind) (ret : Int)
  | stop (interface : Iface) (ctl : Option ServiceKind) (ret : Int)
  deriving DecidableEq

variable {Iface : Type*}

def StartOutcome.ret (o : StartOutcome) : Int :=
  if o.running = false then -1
  else if o.result = false then -1
  else
    match o.pidFile with
    | none => -1
    | some pid => if pid.getD 0 = 0 then -1 else 0

def dhcpv6Start (interface : Iface) (o : StartOutcome) : Dhcpv6Record Iface × GetRaRet :=
  let raFlag := getMbitFromRA o.attempts o.ch 10
  match raFlag.service with
  | some kind => (.start interface raFlag (some kind) o.ret, raFlag)
  | none => (.start interface raFlag none (-1), raFlag)

def dhcpv6Stop (raFlag : GetRaRet) (interface : Iface) (stopped : Bool) : Dhcpv6Record Iface :=
  match raFlag.service with
  | some kind => .stop interface (some kind) (if stopped then 0 else -1)
  | none => .stop interface none 0

def dhcpv6Step (raFlag : GetRaRet) : Dhcpv6Call Iface → List (Dhcpv6Record Iface) × GetRaRet
  | .start interface o => ([(dhcpv6Start interface o).1], (dhcpv6Start interface o).2)
  | .stop interface stopped => ([dhcpv6Stop raFlag interface stopped], raFlag)

/-- The flag of the last start on any interface. -/
def lastFlag (records : List (Dhcpv6Record Iface)) : GetRaRet :=
  records.foldl
    (fun flag record =>
      match record with
      | .start _ raFlag _ _ => raFlag
      | .stop _ _ _ => flag)
    .err

section

variable [DecidableEq Iface]

def lastStarted (records : List (Dhcpv6Record Iface)) (interface : Iface) : Option ServiceKind :=
  records.foldl
    (fun kind record =>
      match record with
      | .start interface' _ ctl ret => if interface' = interface ∧ ret = 0 then ctl else kind
      | .stop _ _ _ => kind)
    none

/-- A stop stops the kind that was started on its interface. -/
def StopMatches (before : List (Dhcpv6Record Iface)) : Dhcpv6Record Iface → Prop
  | .stop interface ctl _ => ∀ kind, lastStarted before interface = some kind → ctl = some kind
  | .start _ _ _ _ => True

/-- No start since then, anywhere, read another flag. -/
def FlagKept (before : List (Dhcpv6Record Iface)) : Dhcpv6Record Iface → Prop
  | .stop interface _ _ =>
    ∀ kind, lastStarted before interface = some kind → lastFlag before = kind.flag
  | .start _ _ _ _ => True

end

theorem GetRaRet.service_eq_some_iff (flag : GetRaRet) (kind : ServiceKind) :
    flag.service = some kind ↔ flag = kind.flag := by
  cases flag <;> cases kind <;> decide

def StopsByFlag (before : List (Dhcpv6Record Iface)) : Dhcpv6Record Iface → Prop
  | .stop _ ctl _ => ctl = (lastFlag before).service
  | .start _ _ _ _ => True

theorem dhcpv6Stop_eq (raFlag : GetRaRet) (interface : Iface) (stopped : Bool) :
    ∃ ret, dhcpv6Stop raFlag interface stopped = .stop interface raFlag.service ret := by
  unfold dhcpv6Stop
  split
  case h_1 kind hkind => exact ⟨_, by rw [hkind]⟩
  case h_2 hnone => exact ⟨_, by rw [hnone]⟩

theorem stopsByFlag_step (trace : List (Dhcpv6Record Iface)) (raFlag : GetRaRet)
    (call : Dhcpv6Call Iface) (h : Justified StopsByFlag trace ∧ raFlag = lastFlag trace) :
    Justified StopsByFlag (trace ++ (dhcpv6Step raFlag call).1) ∧
      (dhcpv6Step raFlag call).2 = lastFlag (trace ++ (dhcpv6Step raFlag call).1) := by
  obtain ⟨hjust, hflag⟩ := h
  cases call with
  | start interface o =>
    simp only [dhcpv6Step, dhcpv6Start]
    split <;> exact ⟨hjust.snoc trivial, by simp [lastFlag]⟩
  | stop interface stopped =>
    obtain ⟨ret, hrecord⟩ := dhcpv6Stop_eq raFlag interface stopped
    simp only [dhcpv6Step]
    rw [hrecord]
    exact ⟨hjust.snoc (by rw [StopsByFlag, ← hflag]), by simpa [lastFlag] using hflag⟩

/-- Stops match exactly as long as the flag is kept. -/
theorem dhcpv6Stop_matches_iff [DecidableEq Iface] (calls : List (Dhcpv6Call Iface)) :
    Justified StopMatches (run dhcpv6Step .err calls).1 ↔
      Justified FlagKept (run dhcpv6Step .err calls).1 := by
  have hflag : Justified StopsByFlag (run dhcpv6Step .err calls).1 :=
    (run_invariant_all stopsByFlag_step ⟨.nil, rfl⟩).1
  refine forall_congr' fun before => forall_congr' fun record => forall_congr' fun after =>
    forall_congr' fun htrace => ?_
  cases record with
  | start interface raFlag ctl ret => exact Iff.rfl
  | stop interface ctl ret =>
    have hctl : ctl = (lastFlag before).service := hflag before _ after htrace
    refine forall_congr' fun kind => forall_congr' fun _ => ?_
    rw [hctl, GetRaRet.service_eq_some_iff]

def startReading (ch : Char) (running : Bool) : StartOutcome where
  attempts _ := .byte ch
  ch := ch
  running := running
  result := true
  pidFile := some (some 42)

def otherStartFails : List (Dhcpv6Call String) :=
  [.start "wlan0" (startReading '2' true), .start "p2p0" (startReading '1' false),
    .stop "wlan0" true]

def routerGone : List (Dhcpv6Call String) :=
  [.start "wlan0" (startReading '2' true), .start "wlan0" (startReading '0' true),
    .stop "wlan0" true]

theorem dhcpv6Stop_not_matches : ¬Justified StopMatches (run dhcpv6Step .err otherStartFails).1 ∧
      ¬Justified StopMatches (run dhcpv6Step .err routerGone).1 := by
  have hother : (run dhcpv6Step .err otherStartFails).1 =
      [.start "wlan0" .mSet (some .stateful) 0, .start "p2p0" .oSet (some .stateless) (-1),
        .stop "wlan0" (some .stateless) 0] := by
    decide +kernel
  have hgone : (run dhcpv6Step .err routerGone).1 =
      [.start "wlan0" .mSet (some .stateful) 0, .start "wlan0" .err none (-1),
        .stop "wlan0" none 0] := by
    decide +kernel
  constructor
  · intro h
    have hstop := h [_, _] _ [] hother .stateful (by decide +kernel)
    cases hstop
  · intro h
    have hstop := h [_, _] _ [] hgone .stateful (by decide +kernel)
    cases hstop

end WikoPlatform.Netutils
