import WikoPlatform.Lib.Act

/-! The control socket of `ifc_utils.c`. The lock of `ifc_init` can be taken again by its holder,
but there is one socket, and every `ifc_close` closes it. -/

namespace WikoPlatform.Netutils

open Runs Act

/-- `none` is -1. The locks are the levels of `ifc_sock_mutex`, from the innermost out: whether the
`ifc_init` of the level returned 0. -/
structure ControlLine where
  ifcCtlSock : Option Nat
  ifcCtlSock6 : Option Nat
  held : List Bool
  held6 : Nat
  deriving DecidableEq

namespace ControlLine

def within (l : ControlLine) : Bool := l.held.any id

def init (l : ControlLine) (socket : Option Nat) : ControlLine :=
  let sock := l.ifcCtlSock.or socket
  { l with ifcCtlSock := sock, held := sock.isSome :: l.held }

def close (l : ControlLine) : ControlLine := { l with ifcCtlSock := none, held := l.held.tail }

def init6 (l : ControlLine) (socket : Option Nat) : ControlLine :=
  { l with ifcCtlSock6 := l.ifcCtlSock6.or socket, held6 := l.held6 + 1 }

def close6 (l : ControlLine) : ControlLine := { l with ifcCtlSock6 := none, held6 := l.held6 - 1 }

end ControlLine

/-- What it returns, the address or the flags that it leaves in its argument, and `errno`. -/
structure IoctlAnswer where
  ret : Int
  value : UInt32
  errno : Int

structure Ioctl where
  fd : Option Nat
  within : Bool
  deriving DecidableEq

structure Control where
  line : ControlLine
  answers : Nat → IoctlAnswer
  asked : Nat

/-- For IPv4, for IPv6 and for a socket of the call's own, and the `errno`. No call asks again after
one was refused. -/
structure Sockets where
  socket : Option Nat
  socket6 : Option Nat
  ownSocket : Option Nat
  errno : Int

abbrev Ifc (α : Type) : Type := Act Control Ioctl α

def ioctl (fd : Option Nat) : Ifc IoctlAnswer := do
  let s ← get
  emit ⟨fd, s.line.within⟩
  modify fun s => { s with asked := s.asked + 1 }
  -- `EBADF`
  pure (if fd.isNone then ⟨-1, 0, 9⟩ else s.answers s.asked)

def ctlIoctl : Ifc IoctlAnswer := do ioctl (← get).line.ifcCtlSock

def ifcInit (env : Sockets) : Ifc Int := do
  modify fun s => { s with line := s.line.init env.socket }
  pure (if (← get).line.ifcCtlSock.isNone then -1 else 0)

def ifcClose : Ifc Unit := modify fun s => { s with line := s.line.close }

def ifcInit6 (env : Sockets) : Ifc Int := do
  modify fun s => { s with line := s.line.init6 env.socket6 }
  pure (if (← get).line.ifcCtlSock6.isNone then -1 else 0)

def ifcClose6 : Ifc Unit := modify fun s => { s with line := s.line.close6 }

def ioctlOk : Ifc Int := do pure (if (← ctlIoctl).ret < 0 then -1 else 0)

def ioctlRet : Ifc Int := do pure (← ctlIoctl).ret

def ifcGetHwaddr : Ifc Int := ioctlOk
def ifcGetIfindex : Ifc Int := ioctlOk
def ifcSetAddr : Ifc Int := ioctlRet
def ifcSetHwaddr : Ifc Int := ioctlRet
def ifcSetMask : Ifc Int := ioctlRet
def ifcIsUp : Ifc Int := ioctlOk

def ifcSetFlags : Ifc Int := do
  if (← ctlIoctl).ret < 0 then pure (-1) else pure (← ctlIoctl).ret

def ifcUp : Ifc Int := ifcSetFlags
def ifcDown : Ifc Int := ifcSetFlags

def ifcSetPrefixLength (prefixLength : Int) : Ifc Int := do
  if prefixLength > 32 ∨ prefixLength < 0 then pure (-1) else ioctlRet

/-- Returns the address as well, 0 after a failure. -/
def ifcGetAddr (addr : Bool) : Ifc (Int × UInt32) := do
  if addr then
    let a ← ctlIoctl
    pure (a.ret, if a.ret < 0 then 0 else a.value)
  else pure (0, 0)

def getInfoValue (wanted : Bool) : Ifc UInt32 := do
  if wanted then
    let a ← ctlIoctl
    pure (if a.ret < 0 then 0 else a.value)
  else pure 0

def ifcGetInfo (addr prefixLength flags : Bool) : Ifc (UInt32 × UInt32 × UInt32) := do
  let addr ← getInfoValue addr
  let mask ← getInfoValue prefixLength
  let flags ← getInfoValue flags
  pure (addr, mask, flags)

/-- Clears addresses until there is none or it fails. -/
def clearAddrs : Nat → Ifc Unit
  | 0 => pure ()
  | rounds + 1 => do
    let (ret, addr) ← ifcGetAddr true
    if ret < 0 then pure ()
    else if addr = 0 then pure ()
    else
      let _ ← ifcSetAddr
      clearAddrs rounds

def ifcClearIpv4Addresses (env : Sockets) : Ifc Unit := do
  let _ ← ifcInit env
  clearAddrs 255
  ifcClose

/-- `ifc_clear_ipv6_addresses` works over netlink. -/
def ifcClearAddresses (env : Sockets) : Ifc Unit := ifcClearIpv4Addresses env

def eexist : Int := 17

def ifcActOnIpv4Route (env : Sockets) : Ifc Int := do
  let _ ← ifcInit env
  if (← get).line.ifcCtlSock.isNone then
    ifcClose
    pure (-env.errno)
  else
    let a ← ctlIoctl
    ifcClose
    pure (if a.ret < 0 then if a.errno = eexist then 0 else -a.errno else a.ret)

def ifcCreateDefaultRoute (env : Sockets) : Ifc Int := ifcActOnIpv4Route env

def ifcEnable (env : Sockets) : Ifc Int := do
  let _ ← ifcInit env
  let result ← ifcUp
  ifcClose
  pure result

def ifcDisable (env : Sockets) : Ifc Int := do
  let _ ← ifcInit env
  let result ← ifcDown
  let _ ← ifcSetAddr
  clearAddrs 255
  ifcClose
  pure result

def ifcAllmc (env : Sockets) : Ifc Int := do
  let _ ← ifcInit env
  let result ← ifcSetFlags
  ifcClose
  pure result

def ifcRemoveDefaultRoute (env : Sockets) : Ifc Int := do
  let _ ← ifcInit env
  let result ← ioctlRet
  ifcClose
  pure result

def resetIpv4 (env : Sockets) (ignoreInterfaceAddress : Bool) : Ifc Int := do
  let _ ← ifcInit env
  let _ ← ifcGetInfo (!ignoreInterfaceAddress) false false
  let result ← ioctlRet
  ifcClose
  pure result

def resetIpv6 (env : Sockets) : Ifc Int := do
  let _ ← ifcInit6 env
  let success ← ioctl (← get).line.ifcCtlSock6
  ifcClose6
  pure success.ret

def ifcResetConnections (env : Sockets) (ipv4 ignoreInterfaceAddress ipv6 : Bool) : Ifc Int := do
  let result ← (if ipv4 then resetIpv4 env ignoreInterfaceAddress else pure 0)
  let success ← (if ipv6 then resetIpv6 env else pure 0)
  pure (if ipv6 ∧ result = 0 then success else result)

def configureFailed : Ifc Int := do
  ifcClose
  pure (-1)

/-- The prefix length is an `int`. -/
def ifcConfigure (env : Sockets) (prefixLength : Int) : Ifc Int := do
  let _ ← ifcInit env
  if (← ifcUp) ≠ 0 then configureFailed
  else if (← ifcSetAddr) ≠ 0 then configureFailed
  else if (← ifcSetPrefixLength prefixLength) ≠ 0 then configureFailed
  else if (← ifcCreateDefaultRoute env) ≠ 0 then configureFailed
  else
    ifcClose
    pure 0

def ownSocketIoctl (env : Sockets) : Ifc Int := do
  if env.ownSocket.isNone then pure (-1) else pure (← ioctl env.ownSocket).ret

inductive IfcCall where
  | getHwaddr | getIfindex | up | down | setAddr | setHwaddr | setMask | isUp
  | setPrefixLength (prefixLength : Int)
  | getAddr (addr : Bool)
  | getInfo (addr prefixLength flags : Bool)
  | clearIpv4Addresses | clearAddresses
  | actOnIpv4Route | createDefaultRoute | removeDefaultRoute
  | enable | disable | enableAllmc | disableAllmc
  | resetConnections (ipv4 ignoreInterfaceAddress ipv6 : Bool)
  | configure (prefixLength : Int)
  | setTxqState | ccmniMdCfg

def IfcCall.perform (env : Sockets) : IfcCall → Ifc Unit
  | .getHwaddr => do let _ ← ifcGetHwaddr
  | .getIfindex => do let _ ← ifcGetIfindex
  | .up => do let _ ← ifcUp
  | .down => do let _ ← ifcDown
  | .setAddr => do let _ ← ifcSetAddr
  | .setHwaddr => do let _ ← ifcSetHwaddr
  | .setMask => do let _ ← ifcSetMask
  | .isUp => do let _ ← ifcIsUp
  | .setPrefixLength prefixLength => do let _ ← ifcSetPrefixLength prefixLength
  | .getAddr addr => do let _ ← ifcGetAddr addr
  | .getInfo addr prefixLength flags => do let _ ← ifcGetInfo addr prefixLength flags
  | .clearIpv4Addresses => ifcClearIpv4Addresses env
  | .clearAddresses => ifcClearAddresses env
  | .actOnIpv4Route => do let _ ← ifcActOnIpv4Route env
  | .createDefaultRoute => do let _ ← ifcCreateDefaultRoute env
  | .removeDefaultRoute => do let _ ← ifcRemoveDefaultRoute env
  | .enable => do let _ ← ifcEnable env
  | .disable => do let _ ← ifcDisable env
  | .enableAllmc | .disableAllmc => do let _ ← ifcAllmc env
  | .resetConnections ipv4 ignoreInterfaceAddress ipv6 => do
    let _ ← ifcResetConnections env ipv4 ignoreInterfaceAddress ipv6
  | .configure prefixLength => do let _ ← ifcConfigure env prefixLength
  | .setTxqState | .ccmniMdCfg => do let _ ← ownSocketIoctl env

inductive IfcEvent where
  | init (env : Sockets)
  | close
  | call (env : Sockets) (c : IfcCall)

def IfcEvent.perform : IfcEvent → Ifc Unit
  | .init env => do let _ ← ifcInit env
  | .close => ifcClose
  | .call env c => c.perform env

def Control.step (s : Control) (e : IfcEvent) : List Ioctl × Control :=
  ((e.perform s).trace, (e.perform s).state)

def Control.start (answers : Nat → IoctlAnswer) : Control := ⟨⟨none, none, [], 0⟩, answers, 0⟩

/-- An ioctl under the lock is on a socket. -/
def Ioctl.Open (o : Ioctl) : Prop := o.within = true → o.fd.isSome

instance Ioctl.decidableOpen : DecidablePred Ioctl.Open :=
  fun o => inferInstanceAs (Decidable (o.within = true → o.fd.isSome))

def ControlLine.here (l : ControlLine) : Ioctl := ⟨l.ifcCtlSock, l.within⟩

def Uses {α : Type} (here : Ioctl) (l : ControlLine) (x : Ifc α) (l' : ControlLine) : Prop :=
  ∀ s : Control, s.line = l → (∃ a, (x s).result = some a) ∧ (x s).state.line = l' ∧
    ∀ o ∈ (x s).trace, o = here ∨ o.Open

def Asks {α : Type} (here : Ioctl) (l : ControlLine) (x : Ifc α) (l' : ControlLine) : Prop :=
  Uses here l x l' ∧ ∀ s : Control, s.line = l → here ∈ (x s).trace

/-- All ioctls are on an open socket exactly if `C`. -/
def Checks {α : Type} (C : Prop) (l : ControlLine) (x : Ifc α) (l' : ControlLine) : Prop :=
  ∀ s : Control, s.line = l → (∃ a, (x s).result = some a) ∧ (x s).state.line = l' ∧
    ((∀ o ∈ (x s).trace, o.Open) ↔ C)

variable {α β : Type} {here : Ioctl} {l l₁ l₂ : ControlLine} {x y : Ifc α} {f : α → Ifc β}
  {C C' : Prop} {prefixLength addr flags : Bool}

namespace Uses

theorem pure (here : Ioctl) (l : ControlLine) (a : α) : Uses here l (Pure.pure a) l :=
  fun _ hs => ⟨⟨a, rfl⟩, hs, by simp⟩

theorem bind (hx : Uses here l x l₁) (hf : ∀ a, Uses here l₁ (f a) l₂) :
    Uses here l (x >>= f) l₂ := by
  intro s hs
  obtain ⟨⟨a, ha⟩, hline, htrace⟩ := hx s hs
  obtain ⟨hres, hline', htrace'⟩ := hf a _ hline
  rw [bind_some ha]
  exact ⟨hres, hline', List.forall_mem_append.mpr ⟨htrace, htrace'⟩⟩

theorem get_bind {f : Control → Ifc β} (h : ∀ s : Control, s.line = l → Uses here l (f s) l₂) :
    Uses here l (Act.get >>= f) l₂ :=
  fun s hs => h s hs s hs

theorem modify {g : Control → Control} (h : ∀ s : Control, s.line = l → (g s).line = l₁) :
    Uses here l (Act.modify g) l₁ :=
  fun s hs => ⟨⟨(), rfl⟩, h s hs, by simp⟩

theorem ite {p : Prop} [Decidable p] (hx : p → Uses here l x l₁) (hy : ¬p → Uses here l y l₁) :
    Uses here l (if p then x else y) l₁ := by
  split
  · exact hx ‹_›
  · exact hy ‹_›

theorem of_open (h : Uses here l x l₁) (hopen : here.Open) {here' : Ioctl} : Uses here' l x l₁ := by
  intro s hs
  obtain ⟨hres, hline, htrace⟩ := h s hs
  refine ⟨hres, hline, fun o ho => ?_⟩
  rcases htrace o ho with rfl | hopen'
  · exact .inr hopen
  · exact .inr hopen'

theorem checks_true (h : ∀ here, Uses here l x l₁) : Checks True l x l₁ := by
  intro s hs
  obtain ⟨hres, hline, htrace⟩ := h ⟨some 0, false⟩ s hs
  refine ⟨hres, hline, iff_true_intro fun o ho => ?_⟩
  rcases htrace o ho with rfl | hopen
  · exact fun h => absurd h Bool.false_ne_true
  · exact hopen

end Uses

namespace Asks

theorem bind (hx : Asks here l x l₁) (hf : ∀ a, Uses here l₁ (f a) l₂) : Asks here l (x >>= f) l₂ :=
  ⟨hx.1.bind hf, fun s hs => mem_trace_bind_left (hx.2 s hs)⟩

theorem after (hx : Uses here l x l₁) (hf : ∀ a, Asks here l₁ (f a) l₂) :
    Asks here l (x >>= f) l₂ := by
  refine ⟨hx.bind fun a => (hf a).1, fun s hs => ?_⟩
  obtain ⟨⟨a, ha⟩, hline, -⟩ := hx s hs
  rw [bind_some ha]
  exact List.mem_append_right _ ((hf a).2 _ hline)

theorem get_bind {f : Control → Ifc β} (h : ∀ s : Control, s.line = l → Asks here l (f s) l₂) :
    Asks here l (Act.get >>= f) l₂ :=
  ⟨.get_bind fun s hs => (h s hs).1, fun s hs => (h s hs).2 s hs⟩

theorem checks (h : Asks here l x l₁) : Checks here.Open l x l₁ := by
  intro s hs
  obtain ⟨hres, hline, htrace⟩ := h.1 s hs
  refine ⟨hres, hline, fun hall => hall here (h.2 s hs), fun hopen o ho => ?_⟩
  rcases htrace o ho with rfl | hopen'
  · exact hopen
  · exact hopen'

end Asks

namespace Checks

theorem pure (l : ControlLine) (a : α) : Checks True l (Pure.pure a) l :=
  Uses.checks_true fun here => Uses.pure here l a

theorem bind (hx : Checks C l x l₁) (hf : ∀ a, Checks C' l₁ (f a) l₂) :
    Checks (C ∧ C') l (x >>= f) l₂ := by
  intro s hs
  obtain ⟨⟨a, ha⟩, hline, hiff⟩ := hx s hs
  obtain ⟨hres, hline', hiff'⟩ := hf a _ hline
  rw [bind_some ha]
  exact ⟨hres, hline', List.forall_mem_append.trans (and_congr hiff hiff')⟩

theorem discard (hx : Checks C l x l₁) : Checks C l (x >>= fun _ => Pure.pure ()) l₁ := by
  have h := hx.bind fun _ => pure l₁ ()
  rwa [and_true] at h

theorem congr (hx : Checks C l x l₁) (h : C ↔ C') : Checks C' l x l₁ :=
  propext h ▸ hx

theorem imp {b : Bool} {a : α} (hx : Checks C l x l₁) :
    Checks (b = true → C) l (if b then x else Pure.pure a) (if b then l₁ else l) := by
  cases b with
  | false => exact (pure l a).congr (by simp)
  | true => exact hx.congr (by simp)

end Checks

theorem ioctl_asks {fd : Option Nat} (l : ControlLine) : Asks ⟨fd, l.within⟩ l (ioctl fd) l := by
  constructor
  · rintro s rfl
    exact ⟨⟨_, rfl⟩, rfl, List.forall_mem_singleton.mpr (.inl rfl)⟩
  · rintro s rfl
    exact List.mem_singleton_self _

theorem ctlIoctl_asks (l : ControlLine) : Asks l.here l ctlIoctl l := by
  constructor
  · refine .get_bind fun s hs => ?_
    rw [hs]
    exact (ioctl_asks l).1
  · rintro s rfl
    exact (ioctl_asks _).2 s rfl

theorem ioctlRet_asks (l : ControlLine) : Asks l.here l ioctlRet l :=
  (ctlIoctl_asks l).bind fun _ => .pure _ _ _

theorem ifcSetFlags_asks (l : ControlLine) : Asks l.here l ifcSetFlags l := by
  refine (ctlIoctl_asks l).bind fun _ => .ite (fun _ => .pure _ _ _) fun _ => ?_
  exact (ioctlRet_asks l).1

theorem ifcSetPrefixLength_uses {prefixLength : Int} :
    Uses l.here l (ifcSetPrefixLength prefixLength) l :=
  .ite (fun _ => .pure _ _ _) fun _ => (ioctlRet_asks l).1

theorem ifcGetAddr_asks (l : ControlLine) : Asks l.here l (ifcGetAddr true) l :=
  (ctlIoctl_asks l).bind fun _ => .pure _ _ _

theorem getInfoValue_asks (l : ControlLine) : Asks l.here l (getInfoValue true) l :=
  (ctlIoctl_asks l).bind fun _ => .pure _ _ _

theorem getInfoValue_uses (l : ControlLine) (wanted : Bool) :
    Uses l.here l (getInfoValue wanted) l :=
  .ite (fun _ => (getInfoValue_asks l).1) fun _ => .pure _ _ _

theorem ifcGetInfo_uses : Uses l.here l (ifcGetInfo addr prefixLength flags) l :=
  (getInfoValue_uses l addr).bind fun _ => (getInfoValue_uses l prefixLength).bind fun _ =>
    (getInfoValue_uses l flags).bind fun _ => .pure _ _ _

theorem ifcGetInfo_asks (l : ControlLine) (h : addr ∨ prefixLength ∨ flags) :
    Asks l.here l (ifcGetInfo addr prefixLength flags) l := by
  rcases h with rfl | rfl | rfl
  · exact (getInfoValue_asks l).bind fun _ => (getInfoValue_uses l prefixLength).bind fun _ =>
      (getInfoValue_uses l flags).bind fun _ => .pure _ _ _
  · exact .after (getInfoValue_uses l addr) fun _ => (getInfoValue_asks l).bind fun _ =>
      (getInfoValue_uses l flags).bind fun _ => .pure _ _ _
  · exact .after (getInfoValue_uses l addr) fun _ =>
      .after (getInfoValue_uses l prefixLength) fun _ =>
        (getInfoValue_asks l).bind fun _ => .pure _ _ _

theorem clearAddrs_uses (l : ControlLine) (rounds : Nat) : Uses l.here l (clearAddrs rounds) l := by
  induction rounds with
  | zero => exact .pure _ _ _
  | succ rounds ih =>
    refine (ifcGetAddr_asks l).1.bind fun _ => .ite (fun _ => .pure _ _ _) fun _ => ?_
    exact .ite (fun _ => .pure _ _ _) fun _ => (ioctlRet_asks l).1.bind fun _ => ih

theorem clearAddrs_asks (rounds : Nat) : Asks l.here l (clearAddrs (rounds + 1)) l := by
  refine (ifcGetAddr_asks l).bind fun _ => .ite (fun _ => .pure _ _ _) fun _ => ?_
  exact .ite (fun _ => .pure _ _ _) fun _ =>
    (ioctlRet_asks l).1.bind fun _ => clearAddrs_uses l rounds

theorem ifcInit_uses (here : Ioctl) (l : ControlLine) (env : Sockets) :
    Uses here l (ifcInit env) (l.init env.socket) :=
  (Uses.modify fun _ hs => congrArg (·.init env.socket) hs).bind fun _ =>
    Uses.get_bind fun _ _ => Uses.pure _ _ _

theorem ifcClose_uses (here : Ioctl) (l : ControlLine) : Uses here l ifcClose l.close :=
  .modify fun _ hs => congrArg ControlLine.close hs

/-- After a session that opened and closed the socket. -/
def ControlLine.closed (l : ControlLine) : ControlLine := { l with ifcCtlSock := none }

theorem session_asks (l : ControlLine) (env : Sockets)
    (h : ∀ l, Asks l.here l x l) :
    Asks (l.init env.socket).here l (do
      let _ ← ifcInit env
      let result ← x
      ifcClose
      Pure.pure result) l.closed :=
  .after (ifcInit_uses _ l env) fun _ => (h _).bind fun _ =>
    (ifcClose_uses _ _).bind fun _ => .pure _ _ _

theorem ifcDisable_asks (l : ControlLine) (env : Sockets) :
    Asks (l.init env.socket).here l (ifcDisable env) l.closed :=
  .after (ifcInit_uses _ l env) fun _ => (ifcSetFlags_asks _).bind fun _ =>
    (ioctlRet_asks _).1.bind fun _ => (clearAddrs_uses _ 255).bind fun _ =>
      (ifcClose_uses _ _).bind fun _ => .pure _ _ _

theorem ifcActOnIpv4Route_uses (here : Ioctl) (l : ControlLine) (env : Sockets) :
    Uses here l (ifcActOnIpv4Route env) l.closed := by
  refine (ifcInit_uses here l env).bind fun _ => .get_bind fun s hs => ?_
  refine .ite (fun _ => (ifcClose_uses _ _).bind fun _ => .pure _ _ _) fun hsock => ?_
  have hopen : (l.init env.socket).here.Open := fun _ => by
    rw [hs] at hsock
    simpa [ControlLine.here, Option.isSome_iff_ne_none] using hsock
  exact ((ctlIoctl_asks _).1.of_open hopen).bind fun _ =>
    (ifcClose_uses _ _).bind fun _ => .pure _ _ _

theorem configureFailed_uses (here : Ioctl) (l : ControlLine) :
    Uses here l configureFailed l.close :=
  (ifcClose_uses here l).bind fun _ => .pure _ _ _

theorem ifcConfigure_asks (l : ControlLine) (env : Sockets) (prefixLength : Int) :
    Asks (l.init env.socket).here l (ifcConfigure env prefixLength) l.closed := by
  have hfail := configureFailed_uses (l.init env.socket).here (l.init env.socket)
  refine .after (ifcInit_uses _ l env) fun _ => (ifcSetFlags_asks _).bind fun _ => ?_
  refine .ite (fun _ => hfail) fun _ => (ioctlRet_asks _).1.bind fun _ => ?_
  refine .ite (fun _ => hfail) fun _ => (ifcSetPrefixLength_uses).bind fun _ => ?_
  refine .ite (fun _ => hfail) fun _ => (ifcActOnIpv4Route_uses _ _ env).bind fun _ => ?_
  refine .ite (fun _ => configureFailed_uses _ _) fun _ => ?_
  exact (ifcClose_uses _ _).bind fun _ => .pure _ _ _

theorem resetIpv4_asks (l : ControlLine) (env : Sockets) (ignoreInterfaceAddress : Bool) :
    Asks (l.init env.socket).here l (resetIpv4 env ignoreInterfaceAddress) l.closed :=
  .after (ifcInit_uses _ l env) fun _ => .after ifcGetInfo_uses fun _ =>
    (ioctlRet_asks _).bind fun _ => (ifcClose_uses _ _).bind fun _ => .pure _ _ _

def ControlLine.closed6 (l : ControlLine) : ControlLine := { l with ifcCtlSock6 := none }

theorem resetIpv6_asks (l : ControlLine) (env : Sockets) :
    Asks ⟨l.ifcCtlSock6.or env.socket6, l.within⟩ l (resetIpv6 env) l.closed6 := by
  have hinit here : Uses here l (ifcInit6 env) (l.init6 env.socket6) :=
    (Uses.modify fun _ hs => congrArg (·.init6 env.socket6) hs).bind fun _ =>
      Uses.get_bind fun _ _ => Uses.pure _ _ _
  refine .after (hinit _) fun _ => .get_bind fun s hs => ?_
  rw [hs]
  refine (ioctl_asks (l.init6 env.socket6)).bind fun _ => ?_
  exact (Uses.modify fun _ hs => congrArg ControlLine.close6 hs).bind fun _ => Uses.pure _ _ _

theorem ownSocketIoctl_uses (here : Ioctl) (l : ControlLine) (env : Sockets) :
    Uses here l (ownSocketIoctl env) l := by
  refine .ite (fun _ => .pure _ _ _) fun hsock => ?_
  have hopen : Ioctl.Open ⟨env.ownSocket, l.within⟩ := fun _ => by
    simpa [Option.isSome_iff_ne_none] using hsock
  exact ((ioctl_asks l).1.of_open hopen).bind fun _ => .pure _ _ _

def ControlLine.Usable (l : ControlLine) : Prop := l.within = true → l.ifcCtlSock.isSome

def ControlLine.Reopened (l : ControlLine) (socket : Option Nat) : Prop :=
  l.within = true → (l.ifcCtlSock.or socket).isSome

theorem open_init_iff (l : ControlLine) (socket : Option Nat) :
    (l.init socket).here.Open ↔ l.Reopened socket := by
  unfold Ioctl.Open ControlLine.Reopened ControlLine.here ControlLine.within ControlLine.init
  cases l.ifcCtlSock.or socket <;> simp

/-- A call that needs the socket finds it open, or opens it. -/
def IfcCall.Served (env : Sockets) (l : ControlLine) : IfcCall → Prop
  | .getHwaddr | .getIfindex | .up | .down | .setAddr | .setHwaddr | .setMask | .isUp => l.Usable
  | .setPrefixLength prefixLength => 0 ≤ prefixLength ∧ prefixLength ≤ 32 → l.Usable
  | .getAddr addr => addr = true → l.Usable
  | .getInfo addr prefixLength flags => addr ∨ prefixLength ∨ flags → l.Usable
  | .clearIpv4Addresses | .clearAddresses | .removeDefaultRoute | .enable | .disable
  | .enableAllmc | .disableAllmc | .configure _ => l.Reopened env.socket
  | .resetConnections ipv4 _ ipv6 => (ipv4 = true → l.Reopened env.socket) ∧
    (ipv6 = true → l.within = true → (l.ifcCtlSock6.or env.socket6).isSome)
  | .actOnIpv4Route | .createDefaultRoute | .setTxqState | .ccmniMdCfg => True

def IfcCall.after (l : ControlLine) : IfcCall → ControlLine
  | .getHwaddr | .getIfindex | .up | .down | .setAddr | .setHwaddr | .setMask | .isUp
  | .setPrefixLength _ | .getAddr _ | .getInfo .. | .setTxqState | .ccmniMdCfg => l
  | .clearIpv4Addresses | .clearAddresses | .removeDefaultRoute | .enable | .disable
  | .enableAllmc | .disableAllmc | .configure _ | .actOnIpv4Route | .createDefaultRoute => l.closed
  | .resetConnections ipv4 _ ipv6 =>
    let l := if ipv4 then l.closed else l
    if ipv6 then l.closed6 else l

theorem ifcSetPrefixLength_checks (l : ControlLine) (prefixLength : Int) :
    Checks (0 ≤ prefixLength ∧ prefixLength ≤ 32 → l.Usable) l
      (ifcSetPrefixLength prefixLength) l := by
  unfold ifcSetPrefixLength
  by_cases hout : prefixLength > 32 ∨ prefixLength < 0
  · rw [if_pos hout]
    exact (Checks.pure l _).congr (iff_of_true trivial fun _ => by omega)
  · rw [if_neg hout]
    exact (ioctlRet_asks l).checks.congr ⟨fun h _ => h, fun h => h (by omega)⟩

theorem ifcGetInfo_checks (l : ControlLine) (addr prefixLength flags : Bool) :
    Checks (addr ∨ prefixLength ∨ flags → l.Usable) l (ifcGetInfo addr prefixLength flags) l := by
  by_cases h : addr ∨ prefixLength ∨ flags
  · exact (ifcGetInfo_asks l h).checks.congr ⟨fun h _ => h, fun hc => hc h⟩
  · obtain ⟨rfl, rfl, rfl⟩ : addr = false ∧ prefixLength = false ∧ flags = false := by simpa using h
    exact (Checks.pure l (0, 0, 0)).congr (by simp)

theorem ifcResetConnections_checks (l : ControlLine) (env : Sockets)
    (ipv4 ignoreInterfaceAddress ipv6 : Bool) :
    Checks (IfcCall.Served env l (.resetConnections ipv4 ignoreInterfaceAddress ipv6)) l
      (ifcResetConnections env ipv4 ignoreInterfaceAddress ipv6)
      (IfcCall.after l (.resetConnections ipv4 ignoreInterfaceAddress ipv6)) := by
  have h4 := ((resetIpv4_asks l env ignoreInterfaceAddress).checks.congr
    (open_init_iff l env.socket)).imp (b := ipv4) (a := 0)
  have h6 l := (resetIpv6_asks l env).checks.imp (b := ipv6) (a := 0)
  refine Checks.congr (h4.bind fun _ => (h6 _).bind fun _ => Checks.pure _ _) ?_
  rw [and_true]
  -- The IPv4 part changes nothing that the IPv6 part looks at.
  cases ipv4 <;> exact Iff.rfl

theorem IfcCall.checks (env : Sockets) (l : ControlLine) (c : IfcCall) :
    Checks (c.Served env l) l (c.perform env) (c.after l) := by
  have hsession {x : Ifc Int} (h : ∀ l, Asks l.here l x l) :=
    ((session_asks l env h).checks.congr (open_init_iff l env.socket)).discard
  cases c with
  | getHwaddr | getIfindex | isUp => 
    exact ((ctlIoctl_asks l).bind fun _ => .pure _ _ _).checks.discard
  | setAddr | setHwaddr | setMask => exact (ioctlRet_asks l).checks.discard
  | up | down => exact (ifcSetFlags_asks l).checks.discard
  | setPrefixLength prefixLength => exact (ifcSetPrefixLength_checks l prefixLength).discard
  | getAddr addr =>
    cases addr with
    | false => exact (Checks.pure l ()).congr (by simp [Served])
    | true => exact ((ifcGetAddr_asks l).checks.congr ⟨fun h _ => h, fun h => h rfl⟩).discard
  | getInfo addr prefixLength flags =>
    exact (ifcGetInfo_checks l addr prefixLength flags).discard
  | clearIpv4Addresses | clearAddresses =>
    have hclear : Asks (l.init env.socket).here l (ifcClearIpv4Addresses env) l.closed :=
      .after (ifcInit_uses _ l env) fun _ => (clearAddrs_asks 254).bind fun _ => ifcClose_uses _ _
    exact hclear.checks.congr (open_init_iff l env.socket)
  | actOnIpv4Route | createDefaultRoute =>
    exact (Uses.checks_true fun here => ifcActOnIpv4Route_uses here l env).discard
  | removeDefaultRoute => exact hsession ioctlRet_asks
  | enable | enableAllmc | disableAllmc => exact hsession ifcSetFlags_asks
  | disable => exact ((ifcDisable_asks l env).checks.congr (open_init_iff l env.socket)).discard
  | resetConnections ipv4 ignoreInterfaceAddress ipv6 =>
    exact (ifcResetConnections_checks l env ipv4 ignoreInterfaceAddress ipv6).discard
  | configure prefixLength =>
    exact ((ifcConfigure_asks l env prefixLength).checks.congr
      (open_init_iff l env.socket)).discard
  | setTxqState | ccmniMdCfg =>
    exact (Uses.checks_true fun here => ownSocketIoctl_uses here l env).discard

def Control.Served (s : Control) : IfcEvent → Prop
  | .init _ | .close => True
  | .call env c => c.Served env s.line

theorem step_open_iff (s : Control) (e : IfcEvent) : (∀ o ∈ (s.step e).1, o.Open) ↔ s.Served e := by
  cases e with
  | init env =>
    exact ((Uses.checks_true fun here => ifcInit_uses here s.line env).discard s rfl).2.2
  | close => simp [Control.step, IfcEvent.perform, ifcClose, Control.Served]
  | call env c => exact (c.checks env s.line s rfl).2.2

def ControlLine.depth (l : ControlLine) : Nat × Nat := (l.held.length, l.held6)

theorem depth_after (c : IfcCall) : (c.after l).depth = l.depth := by
  cases c with
  | resetConnections ipv4 ignoreInterfaceAddress ipv6 => cases ipv4 <;> cases ipv6 <;> rfl
  | _ => rfl

/-- Ioctls are on an open socket exactly if calls are served. -/
theorem ioctls_open_iff (answers : Nat → IoctlAnswer) (events : List IfcEvent) :
    ((∀ o ∈ (run Control.step (Control.start answers) events).1, o.Open) ↔
      Meets Control.step Control.Served (Control.start answers) events) ∧
    ∀ env c, let s := (run Control.step (Control.start answers) events).2
      (s.step (.call env c)).2.line.depth = s.line.depth := by
  refine ⟨forall_run_iff_meets step_open_iff _ events, fun env c => ?_⟩
  obtain ⟨-, hline, -⟩ := c.checks env _ _ rfl
  exact (congrArg ControlLine.depth hline).trans (depth_after c)

def allOpen : Sockets := ⟨some 3, some 4, some 5, 0⟩

theorem nested_not_open :
    let ioctls := (run Control.step (Control.start fun _ => ⟨0, 0, 0⟩)
      [.init allOpen, .call allOpen .enable, .call allOpen .getHwaddr, .close]).1
    ioctls = [⟨some 3, true⟩, ⟨some 3, true⟩, ⟨none, true⟩] ∧ ¬∀ o ∈ ioctls, o.Open := by
  decide +kernel

end WikoPlatform.Netutils
