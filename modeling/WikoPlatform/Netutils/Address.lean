import WikoPlatform.Netutils.DhcpDecode
import WikoPlatform.Posix

/-! `ifc_act_on_address`: the netlink request for an address of an interface. The broadcast address
is computed by a shift of the signed number 1, and written over the address in place. -/

namespace WikoPlatform.Netutils

open Words

def htonl (x : UInt32) : UInt32 := ntohl x

def prefixLengthToIpv4Netmask (prefixLength : Int) : UInt32 :=
  if prefixLength ≤ 0 ∨ 32 < prefixLength then 0
  else htonl (~~~0 <<< UInt32.ofNat (32 - prefixLength).toNat)

/-- What the C standard leaves undefined. -/
inductive Undefined where
  | shift
  | overflow
  deriving DecidableEq

def checkInt (n : Int) : Except Undefined Int :=
  if -2 ^ 31 ≤ n ∧ n < 2 ^ 31 then .ok n else .error .overflow

def shiftLeftInt (a n : Int) : Except Undefined Int :=
  if n < 0 ∨ 32 ≤ n then .error .shift else checkInt (a * 2 ^ n.toNat)

/-- `(1 << (32 - prefixlen)) - 1`. -/
def hostBits (prefixlen : Int) : Except Undefined Int := do
  let n ← checkInt (32 - prefixlen)
  let bit ← shiftLeftInt 1 n
  checkInt (bit - 1)

def rtmNewaddr : UInt16 := 20
def rtmDeladdr : UInt16 := 21
def ifaLocal : UInt16 := 2
def ifaBroadcast : UInt16 := 4
def afInet : UInt8 := 2
def afInet6 : UInt8 := 10

def nlmFlags : UInt16 := 5

def align4 (n : Nat) : Nat := (n + 3) / 4 * 4

/-- The netlink message that is sent. -/
structure Request where
  type : UInt16
  pid : UInt32
  family : UInt8
  prefixlen : UInt8
  index : UInt32
  attrs : List UInt8

namespace Request

def headerSize : Nat := 24

def nlmsgLen (req : Request) : Nat := headerSize + req.attrs.length

def rta (type : UInt16) (data : List UInt8) : List UInt8 :=
  le16 (UInt16.ofNat (4 + data.length)) ++ (le16 type ++ data)

def add (req : Request) (type : UInt16) (data : List UInt8) : Request :=
  { req with attrs := req.attrs ++
      (List.replicate (align4 req.attrs.length - req.attrs.length) 0 ++ rta type data) }

def toBytes (req : Request) : List UInt8 :=
  (le32 (UInt32.ofNat req.nlmsgLen) ++ le16 req.type ++ le16 nlmFlags ++ le32 0 ++ le32 req.pid ++
    [req.family, req.prefixlen, 0, 0] ++ le32 req.index) ++ req.attrs

def attributes (attrs : List UInt8) : List (UInt16 × List UInt8) :=
  let rtaLen := (get16 attrs 0).toNat
  if 4 ≤ rtaLen ∧ rtaLen ≤ attrs.length then
    (get16 attrs 2, (attrs.take rtaLen).drop 4) :: attributes (attrs.drop (align4 rtaLen))
  else []
termination_by attrs.length
decreasing_by
  rw [List.length_drop, align4]
  omega

def attr (sent : List UInt8) (type : UInt16) : Option (List UInt8) :=
  ((attributes (sent.drop headerSize)).find? (·.1 = type)).map (·.2)

end Request

inductive SockAddr where
  | inet (addr : UInt32)
  | inet6 (addr : Buf 16)
  | other

/-- Errors are the numbers that a call returns. `ack` is the `error` field of the acknowledgement,
if that is well formed. -/
structure Host where
  ifindex : Except Int UInt32
  address : Except Int SockAddr
  pid : UInt32
  socket : Except Int Unit
  send : Except Int Unit
  recv : Except Int (Option Int)

def emptyRequest (action : UInt16) (family : UInt8) (prefixlen : Int) (ifindex pid : UInt32) :
    Request where
  type := action
  pid := pid
  family := family
  prefixlen := UInt8.ofInt prefixlen
  index := ifindex
  attrs := []

/-- `IFA_LOCAL` gets a copy before it is changed in place. -/
def addInet (req : Request) (action : UInt16) (addr : UInt32) (prefixlen : Int) :
    Except Undefined Request := do
  let req := req.add ifaLocal (le32 addr)
  if action = rtmNewaddr then
    let bits ← hostBits prefixlen
    let addr := addr ||| htonl (UInt32.ofInt bits)
    return req.add ifaBroadcast (le32 addr)
  else return req

def transact (host : Host) (req : Request) : Option (List UInt8) × Int :=
  match host.socket with
  | .error errno => (none, -errno)
  | .ok () =>
    match host.send with
    | .error errno => (some req.toBytes, -errno)
    | .ok () =>
      match host.recv with
      | .error errno => (some req.toBytes, -errno)
      | .ok none => (some req.toBytes, -einval)
      | .ok (some error) => (some req.toBytes, error)

def ifcActOnAddress (action : UInt16) (prefixlen : Int) (host : Host) :
    Except Undefined (Option (List UInt8) × Int) :=
  match host.ifindex with
  | .error errno => .ok (none, -errno)
  | .ok ifindex =>
    match host.address with
    | .error ret => .ok (none, ret)
    | .ok .other => .ok (none, -eafnosupport)
    | .ok (.inet6 addr) =>
      .ok (transact host
        ((emptyRequest action afInet6 prefixlen ifindex host.pid).add ifaLocal addr.bytes))
    | .ok (.inet addr) => do
      let req ← addInet (emptyRequest action afInet prefixlen ifindex host.pid) action addr
        prefixlen
      return transact host req

def ifcAddAddress (prefixlen : Int) (host : Host) :
    Except Undefined (Option (List UInt8) × Int) :=
  ifcActOnAddress rtmNewaddr prefixlen host

def ifcDelAddress (prefixlen : Int) (host : Host) :
    Except Undefined (Option (List UInt8) × Int) :=
  ifcActOnAddress rtmDeladdr prefixlen host

namespace Request

theorem toBytes_drop (req : Request) : req.toBytes.drop headerSize = req.attrs :=
  List.drop_left' rfl

theorem rta_length (type : UInt16) (data : List UInt8) :
    (rta type data).length = 4 + data.length := by
  simp only [rta, le16, List.length_append, List.length_cons, List.length_nil]
  omega

theorem attributes_rta (type : UInt16) {data : List UInt8} (hwords : data.length % 4 = 0)
    (hsize : data.length < 65532) (rest : List UInt8) :
    attributes (rta type data ++ rest) = (type, data) :: attributes rest := by
  have hlen : (get16 (rta type data ++ rest) 0).toNat = 4 + data.length := by
    have heq : get16 (rta type data ++ rest) 0 = UInt16.ofNat (4 + data.length) :=
      get16_of_bytes rfl rfl
    rw [heq, UInt16.toNat_ofNat', Nat.mod_eq_of_lt (by omega)]
  have htype : get16 (rta type data ++ rest) 2 = type := get16_of_bytes rfl rfl
  have hlength := rta_length type data
  rw [attributes]
  simp only [hlen, htype]
  rw [if_pos ⟨by omega, by rw [List.length_append]; omega⟩, align4,
    show (4 + data.length + 3) / 4 * 4 = 4 + data.length by omega, List.drop_left' hlength,
    List.take_left' hlength]
  rfl

theorem attributes_nil : attributes [] = [] := by
  rw [attributes]
  exact if_neg (by decide)

variable {req : Request}

theorem add_attrs (h : req.attrs.length % 4 = 0) (type : UInt16) (data : List UInt8) :
    (req.add type data).attrs = req.attrs ++ rta type data := by
  have hpad : align4 req.attrs.length - req.attrs.length = 0 := by
    rw [align4]
    omega
  rw [add]
  simp only [hpad, List.replicate_zero, List.nil_append]

theorem attributes_words (type : UInt16) (x : UInt32) (rest : List UInt8) :
    attributes (rta type (le32 x) ++ rest) = (type, le32 x) :: attributes rest := by
  apply attributes_rta
  · simp [le32]
  · simp [le32]

theorem attributes_add_add (hempty : req.attrs = []) (type type' : UInt16) (x y : UInt32) :
    attributes ((req.add type (le32 x)).add type' (le32 y)).attrs =
      [(type, le32 x), (type', le32 y)] := by
  have hfirst : (req.add type (le32 x)).attrs = rta type (le32 x) := by
    rw [add_attrs (by rw [hempty]; rfl), hempty, List.nil_append]
  have halign : (req.add type (le32 x)).attrs.length % 4 = 0 := by
    rw [hfirst, rta_length]
    simp [le32]
  rw [add_attrs halign, hfirst, ← List.append_nil (rta type' _), attributes_words,
    attributes_words, attributes_nil]

end Request

/-- The address and its broadcast address are the attributes. -/
def BroadcastRight (addr : UInt32) (prefixlen : Int) (host : Host) : Prop :=
  ∃ sent ret, ifcAddAddress prefixlen host = .ok (some sent, ret) ∧
    Request.attr sent ifaLocal = some (le32 addr) ∧
    Request.attr sent ifaBroadcast =
      some (le32 (addr ||| ~~~prefixLengthToIpv4Netmask prefixlen))

theorem htonl_hostBits : ∀ p : Fin 33, 2 ≤ p.val →
    htonl (UInt32.ofInt (2 ^ (32 - p.val) - 1)) = ~~~prefixLengthToIpv4Netmask p.val := by
  decide +kernel

theorem hostBits_eq : ∀ p : Fin 33, 2 ≤ p.val → hostBits p.val = .ok (2 ^ (32 - p.val) - 1) := by
  decide +kernel

theorem hostBits_undefined {p : Fin 33} (h : p.val < 2) :
    ∃ fault, hostBits p.val = .error fault := by
  have hcases : p.val = 0 ∨ p.val = 1 := by omega
  rcases hcases with hp | hp
  · exact ⟨.shift, by rw [hp]; rfl⟩
  · exact ⟨.overflow, by rw [hp]; rfl⟩

def readyHost (addr ifindex pid : UInt32) (send : Except Int Unit)
    (recv : Except Int (Option Int)) : Host where
  ifindex := .ok ifindex
  address := .ok (.inet addr)
  pid := pid
  socket := .ok ()
  send := send
  recv := recv

section

variable (addr ifindex pid : UInt32) (send : Except Int Unit) (recv : Except Int (Option Int))

theorem ifcAddAddress_eq (prefixlen : Int) :
    ifcAddAddress prefixlen (readyHost addr ifindex pid send recv) =
      (hostBits prefixlen).map fun bits => transact (readyHost addr ifindex pid send recv)
        (((emptyRequest rtmNewaddr afInet prefixlen ifindex pid).add ifaLocal (le32 addr)).add
          ifaBroadcast (le32 (addr ||| htonl (UInt32.ofInt bits)))) := by
  simp only [ifcAddAddress, ifcActOnAddress, readyHost, addInet, if_true]
  cases hostBits prefixlen with
  | error fault | ok bits => rfl

theorem transact_sends (req : Request) :
    ∃ ret, transact (readyHost addr ifindex pid send recv) req = (some req.toBytes, ret) := by
  rcases send with errno | ⟨⟩
  · exact ⟨_, rfl⟩
  · rcases recv with errno | (_ | error)
    all_goals exact ⟨_, rfl⟩

/-- One bit of prefix, or none, is too little for the shift. -/
theorem broadcastRight_iff (p : Fin 33) :
    BroadcastRight addr p.val (readyHost addr ifindex pid send recv) ↔ 2 ≤ p.val := by
  unfold BroadcastRight
  rw [ifcAddAddress_eq]
  constructor
  · rintro ⟨sent, ret, hok, -⟩
    by_contra hshort
    obtain ⟨fault, hfault⟩ := hostBits_undefined (p := p) (by omega)
    rw [hfault] at hok
    cases hok
  · intro hp
    rw [hostBits_eq p hp]
    obtain ⟨ret, hsent⟩ := transact_sends addr ifindex pid send recv
      (((emptyRequest rtmNewaddr afInet p.val ifindex pid).add ifaLocal (le32 addr)).add
        ifaBroadcast (le32 (addr ||| htonl (UInt32.ofInt (2 ^ (32 - p.val) - 1)))))
    have hempty : (emptyRequest rtmNewaddr afInet p.val ifindex pid).attrs = [] := rfl
    have hattrs := Request.attributes_add_add hempty ifaLocal ifaBroadcast addr
      (addr ||| htonl (UInt32.ofInt (2 ^ (32 - p.val) - 1)))
    refine ⟨_, ret, congrArg Except.ok hsent, ?_, ?_⟩
    · rw [Request.attr, Request.toBytes_drop, hattrs]
      rfl
    · rw [Request.attr, Request.toBytes_drop, hattrs, htonl_hostBits p hp]
      rfl

end

theorem broadcast_undefined :
    ifcAddAddress 0 (readyHost 0x0100000a 3 1 (.ok ()) (.ok (some 0))) = .error .shift ∧
      ifcAddAddress 1 (readyHost 0x0100000a 3 1 (.ok ()) (.ok (some 0))) = .error .overflow :=
  ⟨rfl, rfl⟩

end WikoPlatform.Netutils
