import WikoPlatform.Lib.Act
import WikoPlatform.Lib.LastWrite
import WikoPlatform.Netutils.DhcpDecode

/-! `decode_dhcp_msg` with the bytes of the message that it reads, and what it decodes from a list
of options. -/

namespace WikoPlatform.Netutils

open Words Runs

/-- A line that `dump_dhcp_msg` logs; a text is a C string without its zero. -/
inductive LogLine where
  | title
  | invalidLength (len : Nat)
  | op (name : String) (op htype hlen hops : UInt8)
  | xid (xid : UInt32) (secs flags : UInt16) (optlen : Nat)
  | address (name : String) (addr : UInt32)
  | text (name : String) (text : List UInt8)
  | option (opt : UInt8) (optsz : Nat) (text : List UInt8) (name : String)
  deriving DecidableEq

/-- It reads and writes bytes of the message, stores bytes into `buf`, takes up an option with its
number of data bytes, and logs. -/
inductive Access where
  | read (offset count : Nat)
  | write (offset : Nat)
  | store (offset count : Nat)
  | visit (offset optlen : Nat)
  | log (line : LogLine)
  deriving DecidableEq

def sizeofBuf : Nat := 2048

namespace Access

/-- The access is inside the message or `buf`. -/
def InBounds (len : Nat) : Access → Prop
  | .read offset count => offset + count ≤ len
  | .write offset => 44 ≤ offset ∧ offset < dhcpMsgFixedSize
  | .store offset count => offset + count ≤ sizeofBuf
  | .visit _ _ => True
  | .log _ => True

instance decidableInBounds (len : Nat) (a : Access) : Decidable (a.InBounds len) := by
  unfold InBounds
  split <;> infer_instance

def visited : Access → Option (Nat × Nat)
  | .visit offset optlen => some (offset, optlen)
  | _ => none

end Access

abbrev Within (limit : Nat) {α : Type} (x : Act DhcpMsg Access α) (msg : DhcpMsg)
    (visits : List (Nat × Nat)) (after : DhcpMsg) (a : α) : Prop :=
  Act.Gives (Access.InBounds limit) Access.visited x msg visits after a

structure Field where
  offset : Nat
  size : Nat
  get : DhcpMsg → Buf size

namespace Field

def chaddr : Field := ⟨28, 16, DhcpMsg.chaddr⟩
def options : Field := ⟨dhcpMsgFixedSize, 1024, DhcpMsg.options⟩

def byte (field : Field) (i : Nat) : Act DhcpMsg Access UInt8 := do
  Act.emit (.read (field.offset + i) 1)
  let msg ← Act.get
  return (field.get msg).bytes.getD i 0

def word (field : Field) (i : Nat) : Act DhcpMsg Access UInt32 := do
  Act.emit (.read (field.offset + i) 4)
  let msg ← Act.get
  return get32 (field.get msg).bytes i

variable {field : Field} {i limit : Nat} (msg : DhcpMsg)

theorem byte_gives (h : field.offset + i + 1 ≤ limit) :
    Within limit (field.byte i) msg [] msg ((field.get msg).bytes.getD i 0) :=
  .seq (.emit h rfl) (.get_bind (.pure _ msg))

theorem word_gives (h : field.offset + i + 4 ≤ limit) :
    Within limit (field.word i) msg [] msg (get32 (field.get msg).bytes i) :=
  .seq (.emit h rfl) (.get_bind (.pure _ msg))

end Field

namespace Traced

def decodeOption (opt : UInt8) (optlen x : Nat) (info : DhcpInfo) :
    Act DhcpMsg Access DhcpInfo :=
  if opt = optSubnetMask then
    if 4 ≤ optlen then do
      let mask ← Field.options.word x
      return { info with prefixLength := UInt32.ofNat (ipv4NetmaskToPrefixLength mask) }
    else return info
  else if opt = optGateway then
    if 4 ≤ optlen then do
      let gateway ← Field.options.word x
      return { info with gateway := gateway }
    else return info
  else if opt = optDns then
    if 4 ≤ optlen then do
      let dns1 ← Field.options.word x
      if 8 ≤ optlen then do
        let dns2 ← Field.options.word (x + 4)
        return { info with dns1 := dns1, dns2 := dns2 }
      else return { info with dns1 := dns1 }
    else return info
  else if opt = optLeaseTime then
    if 4 ≤ optlen then do
      let lease ← Field.options.word x
      return { info with lease := ntohl lease }
    else return info
  else if opt = optServerId then
    if 4 ≤ optlen then do
      let serveraddr ← Field.options.word x
      return { info with serveraddr := serveraddr }
    else return info
  else if opt = optMessageType then do
    -- no test of `optlen` here
    let type ← Field.options.byte x
    return { info with type := type.toUInt32 }
  else return info

def decodeOptions (x len : Nat) (info : DhcpInfo) : Act DhcpMsg Access DhcpInfo :=
  if len ≤ 2 then pure info
  else do
    let opt ← Field.options.byte x
    if opt = optPad then decodeOptions (x + 1) (len - 1) info
    else if opt = optEnd then pure info
    else do
      let optlen ← Field.options.byte (x + 1)
      if len - 2 < optlen.toNat then pure info
      else do
        Act.emit (.visit x optlen.toNat)
        let info ← decodeOption opt optlen.toNat (x + 2) info
        decodeOptions (x + 2 + optlen.toNat) (len - 2 - optlen.toNat) info
termination_by len

def hasCookie (x : Nat) : List UInt8 → Act DhcpMsg Access Bool
  | [] => pure true
  | c :: cookie => do
    let b ← Field.options.byte x
    if b = c then hasCookie (x + 1) cookie else pure false

def decodeDhcpMsg (len : Nat) : Act DhcpMsg Access (Int × DhcpInfo) :=
  if len < dhcpMsgFixedSize + 4 then pure (-1, .zero)
  else do
    let cookie ← hasCookie 0 [optCookie1, optCookie2, optCookie3, optCookie4]
    if cookie then do
      let info ← decodeOptions 4 (len - (dhcpMsgFixedSize + 4)) .zero
      Act.emit (.read 16 4)
      let msg ← Act.get
      return (0, { info with ipaddr := msg.yiaddr })
    else return (-1, .zero)

end Traced

/-- The options that the loop takes up: offset and length. -/
def walk (options : List UInt8) (x len : Nat) : List (Nat × Nat) :=
  if len ≤ 2 then []
  else
    let opt := options.getD x 0
    if opt = optPad then walk options (x + 1) (len - 1)
    else if opt = optEnd then []
    else
      let optlen := (options.getD (x + 1) 0).toNat
      if len - 2 < optlen then []
      else (x, optlen) :: walk options (x + 2 + optlen) (len - 2 - optlen)
termination_by len

def optCookie : List UInt8 := [optCookie1, optCookie2, optCookie3, optCookie4]

def DhcpMsg.HasCookie (msg : DhcpMsg) : Prop := msg.options.bytes.take 4 = optCookie

instance decidableHasCookie (msg : DhcpMsg) : Decidable msg.HasCookie :=
  inferInstanceAs (Decidable (msg.options.bytes.take 4 = optCookie))

section

variable (msg : DhcpMsg) {limit i optlen x len : Nat}

theorem optionByte_gives (h : dhcpMsgFixedSize + i + 1 ≤ limit) :
    Within limit (Field.options.byte i) msg [] msg (msg.options.bytes.getD i 0) :=
  Field.byte_gives msg h

theorem optionWord_gives (h : dhcpMsgFixedSize + i + 4 ≤ limit) :
    Within limit (Field.options.word i) msg [] msg (get32 msg.options.bytes i) :=
  Field.word_gives msg h

theorem wordOption_gives {info : DhcpInfo} (f : UInt32 → DhcpInfo)
    (hdata : dhcpMsgFixedSize + x + optlen ≤ limit) : Within limit
      (if 4 ≤ optlen then Field.options.word x >>= fun w => pure (f w) else pure info) msg [] msg
      (if 4 ≤ optlen then f (get32 msg.options.bytes x) else info) := by
  refine .ite (fun h4 => ?_) fun _ => .pure _ msg
  exact (optionWord_gives msg (by omega)).seq (.pure _ msg)

theorem dnsOption_gives (info : DhcpInfo) (hdata : dhcpMsgFixedSize + x + optlen ≤ limit) :
    Within limit (Traced.decodeOption optDns optlen x info) msg [] msg
      (decodeOption msg.options.bytes optDns optlen x info) := by
  by_cases h4 : 4 ≤ optlen
  · have hfirst := optionWord_gives msg (show dhcpMsgFixedSize + x + 4 ≤ limit by omega)
    by_cases h8 : 8 ≤ optlen
    · have hsecond := optionWord_gives msg
        (show dhcpMsgFixedSize + (x + 4) + 4 ≤ limit by omega)
      simp +decide only [Traced.decodeOption, decodeOption, if_true, if_false, h4, h8]
      exact hfirst.seq (hsecond.seq (.pure _ msg))
    · simp +decide only [Traced.decodeOption, decodeOption, if_true, if_false, h4, h8]
      exact hfirst.seq (.pure _ msg)
  · have h8 : ¬8 ≤ optlen := by omega
    simp +decide only [Traced.decodeOption, decodeOption, if_true, if_false, h4, h8]
    exact .pure _ msg

theorem decodeOption_gives {opt : UInt8} (info : DhcpInfo)
    (hdata : dhcpMsgFixedSize + x + optlen ≤ limit) (hfirst : dhcpMsgFixedSize + x + 1 ≤ limit) :
    Within limit (Traced.decodeOption opt optlen x info) msg [] msg
      (decodeOption msg.options.bytes opt optlen x info) := by
  by_cases hdns : opt = optDns
  · subst hdns
    exact dnsOption_gives msg info hdata
  unfold Traced.decodeOption decodeOption
  rw [if_neg hdns, if_neg hdns]
  refine .ite (fun _ => wordOption_gives msg _ hdata) fun _ => ?_
  refine .ite (fun _ => wordOption_gives msg _ hdata) fun _ => ?_
  refine .ite (fun _ => wordOption_gives msg _ hdata) fun _ => ?_
  refine .ite (fun _ => wordOption_gives msg _ hdata) fun _ => ?_
  refine .ite (fun _ => ?_) fun _ => .pure _ msg
  exact (optionByte_gives msg hfirst).seq (.pure _ msg)

theorem decodeOptions_gives (info : DhcpInfo) (h : dhcpMsgFixedSize + x + len ≤ limit) :
    Within limit (Traced.decodeOptions x len info) msg
      (walk msg.options.bytes x len) msg (decodeOptions msg.options.bytes x len info) := by
  induction len using Nat.strong_induction_on generalizing x info with
  | _ len ih =>
    rw [Traced.decodeOptions, decodeOptions, walk]
    refine .ite_picked (fun _ => .pure _ msg) fun hlong => ?_
    refine (optionByte_gives msg (by omega)).seq ?_
    refine .ite_picked (fun _ => ih _ (by omega) _ (by omega)) fun _ => ?_
    refine .ite_picked (fun _ => .pure _ msg) fun _ => ?_
    refine (optionByte_gives msg (by omega)).seq ?_
    refine .ite_picked (fun _ => .pure _ msg) fun hover => ?_
    let optlen := (msg.options.bytes.getD (x + 1) 0).toNat
    have hvisit : Within limit (Act.emit (Access.visit x optlen)) msg [(x, optlen)] msg () :=
      .emit_picked trivial rfl
    refine hvisit.bind (.seq (decodeOption_gives msg info ?_ ?_) (ih _ ?_ _ ?_)) <;> omega

theorem drop_eq_getD_cons {bytes : List UInt8} (h : x < bytes.length) :
    bytes.drop x = bytes.getD x 0 :: bytes.drop (x + 1) := by
  rw [List.drop_eq_getElem_cons h, List.getD_eq_getElem?_getD, List.getElem?_eq_getElem h,
    Option.getD_some]

theorem hasCookie_gives (cookie : List UInt8) (hsize : x + cookie.length ≤ 1024)
    (h : dhcpMsgFixedSize + x + cookie.length ≤ limit) :
    Within limit (Traced.hasCookie x cookie) msg [] msg
      (decide ((msg.options.bytes.drop x).take cookie.length = cookie)) := by
  induction cookie generalizing x with
  | nil => exact .pure _ msg
  | cons c cookie ih =>
    rw [List.length_cons] at hsize h
    have hdrop := drop_eq_getD_cons (show x < msg.options.bytes.length by
      rw [msg.options.size]
      omega)
    rw [List.length_cons, hdrop, List.take_succ_cons]
    refine (optionByte_gives msg (by omega)).seq ?_
    by_cases hc : msg.options.bytes.getD x 0 = c
    · rw [if_pos hc]
      have hiff : decide (msg.options.bytes.getD x 0 ::
          (msg.options.bytes.drop (x + 1)).take cookie.length = c :: cookie) =
          decide ((msg.options.bytes.drop (x + 1)).take cookie.length = cookie) := by
        rw [hc, decide_eq_decide, List.cons_inj_right]
      rw [hiff]
      exact ih (by omega) (by omega)
    · rw [if_neg hc, decide_eq_false fun heq => hc (List.cons.inj heq).1]
      exact .pure _ msg

theorem decodeDhcpMsg_short (h : len < dhcpMsgFixedSize + 4) : decodeDhcpMsg msg len = .zero :=
  if_pos h

theorem decodeDhcpMsg_of_not_hasCookie (h : ¬msg.HasCookie) : decodeDhcpMsg msg len = .zero := by
  unfold decodeDhcpMsg
  split_ifs with hshort hcookie
  · rfl
  · rfl
  · exact absurd (not_not.mp hcookie) h

theorem decodeDhcpMsg_of_hasCookie (hlen : dhcpMsgFixedSize + 4 ≤ len) (h : msg.HasCookie) :
    decodeDhcpMsg msg len =
      { decodeOptions msg.options.bytes 4 (len - (dhcpMsgFixedSize + 4)) .zero with
        ipaddr := msg.yiaddr } := by
  rw [decodeDhcpMsg, if_neg (by omega)]
  exact if_neg (not_not.mpr h)

def decodeVisits (len : Nat) : List (Nat × Nat) :=
  if msg.HasCookie then walk msg.options.bytes 4 (len - (dhcpMsgFixedSize + 4)) else []

def decodeCode (len : Nat) : Int := if dhcpMsgFixedSize + 4 ≤ len ∧ msg.HasCookie then 0 else -1

theorem decodeDhcpMsg_gives (len : Nat) :
    Within len (Traced.decodeDhcpMsg len) msg (decodeVisits msg len) msg
      (decodeCode msg len, decodeDhcpMsg msg len) := by
  unfold Traced.decodeDhcpMsg decodeVisits decodeCode
  by_cases hshort : len < dhcpMsgFixedSize + 4
  · have hwalk : walk msg.options.bytes 4 (len - (dhcpMsgFixedSize + 4)) = [] := by
      rw [walk, if_pos (by omega)]
    rw [if_pos hshort, decodeDhcpMsg_short msg hshort, hwalk, ite_self,
      if_neg fun h => absurd h.1 (by omega)]
    exact .pure _ msg
  · rw [if_neg hshort]
    have hfirst : Within len (Traced.hasCookie 0 optCookie) msg [] msg
        (decide msg.HasCookie) :=
      hasCookie_gives msg optCookie (by decide) (show dhcpMsgFixedSize + 0 + 4 ≤ len by omega)
    refine hfirst.seq ?_
    by_cases hcookie : msg.HasCookie
    · rw [decodeDhcpMsg_of_hasCookie msg (by omega) hcookie, if_pos hcookie,
        if_pos (c := _ ∧ _) ⟨by omega, hcookie⟩, if_pos (decide_eq_true hcookie)]
      have hloop : Within len (Traced.decodeOptions 4 (len - (dhcpMsgFixedSize + 4)) .zero) msg _
          msg _ := decodeOptions_gives msg .zero (by omega)
      have hread : Access.InBounds len (.read 16 4) :=
        show 16 + 4 ≤ len by rw [dhcpMsgFixedSize] at hshort; omega
      rw [← List.append_nil (walk _ _ _)]
      exact hloop.bind (.seq (.emit hread rfl) (.get_bind (.pure _ msg)))
    · rw [decodeDhcpMsg_of_not_hasCookie msg hcookie, if_neg hcookie,
        if_neg (c := _ ∧ _) fun h => hcookie h.2, if_neg (by simpa using hcookie)]
      exact .pure _ msg

end

/-- An option with data. -/
structure DhcpOption where
  code : UInt8
  data : List UInt8
  not_pad : code ≠ optPad
  not_end : code ≠ optEnd
  data_pos : 1 ≤ data.length
  data_le : data.length ≤ 255

inductive Item where
  | pad
  | option (o : DhcpOption)

namespace Item

def bytes : Item → List UInt8
  | .pad => [optPad]
  | .option o => o.code :: UInt8.ofNat o.data.length :: o.data

def dataOf (code : UInt8) (need : Nat) : Item → Option (List UInt8)
  | .pad => none
  | .option o => if o.code = code ∧ need ≤ o.data.length then some o.data else none

def decode (info : DhcpInfo) : Item → DhcpInfo
  | .pad => info
  | .option o => decodeOption o.data o.code o.data.length 0 info

end Item

def encode (items : List Item) : List UInt8 := items.flatMap Item.bytes

/-- The end option, or nothing. -/
def Ending (ending : List UInt8) : Prop := ending = [] ∨ ∃ rest, ending = optEnd :: rest

def lastData (code : UInt8) (need : Nat) (items : List Item) : Option (List UInt8) :=
  LastWrite.last (Item.dataOf code need) items

def typeOf (data : List UInt8) : UInt32 := (data.getD 0 0).toUInt32
def prefixLengthOf (data : List UInt8) : UInt32 :=
  UInt32.ofNat (ipv4NetmaskToPrefixLength (get32 data 0))

def described (yiaddr : UInt32) (items : List Item) : DhcpInfo where
  type := ((lastData optMessageType 1 items).map typeOf).getD 0
  ipaddr := yiaddr
  gateway := ((lastData optGateway 4 items).map (get32 · 0)).getD 0
  prefixLength := ((lastData optSubnetMask 4 items).map prefixLengthOf).getD 0
  dns1 := ((lastData optDns 4 items).map (get32 · 0)).getD 0
  dns2 := ((lastData optDns 8 items).map (get32 · 4)).getD 0
  serveraddr := ((lastData optServerId 4 items).map (get32 · 0)).getD 0
  lease := ((lastData optLeaseTime 4 items).map fun data => ntohl (get32 data 0)).getD 0

theorem Item.decode_eq (info : DhcpInfo) (item : Item) : item.decode info =
    { type := ((item.dataOf optMessageType 1).map typeOf).getD info.type
      ipaddr := info.ipaddr
      gateway := ((item.dataOf optGateway 4).map (get32 · 0)).getD info.gateway
      prefixLength := ((item.dataOf optSubnetMask 4).map prefixLengthOf).getD info.prefixLength
      dns1 := ((item.dataOf optDns 4).map (get32 · 0)).getD info.dns1
      dns2 := ((item.dataOf optDns 8).map (get32 · 4)).getD info.dns2
      serveraddr := ((item.dataOf optServerId 4).map (get32 · 0)).getD info.serveraddr
      lease :=
        ((item.dataOf optLeaseTime 4).map fun data => ntohl (get32 data 0)).getD info.lease } := by
  cases item with
  | pad => rfl
  | option o =>
    obtain ⟨code, data, hpad, hend, hpos, hle⟩ := o
    by_cases hknown : code ∈ [optSubnetMask, optGateway, optDns, optLeaseTime, optServerId,
        optMessageType]
    · simp only [List.mem_cons, List.not_mem_nil, or_false] at hknown
      rcases hknown with rfl | rfl | rfl | rfl | rfl | rfl
      all_goals
        simp +decide only [decode, decodeOption, dataOf, if_true, if_false, true_and, false_and,
          hpos, Option.map_none, Option.getD_none]
      all_goals first
        | rfl
        | split_ifs <;> rfl
    · simp only [List.mem_cons, List.not_mem_nil, or_false, not_or] at hknown
      simp only [decode, decodeOption, dataOf, hknown, if_false, false_and, Option.map_none,
        Option.getD_none]

section Window

variable {bytes window : List UInt8} {x len : Nat}

theorem window_getD (h : (bytes.drop x).take len = window) {i : Nat} (hi : i < window.length) :
    bytes.getD (x + i) 0 = window.getD i 0 := by
  have hlen : i < len := by
    rw [← h, List.length_take] at hi
    omega
  rw [← h, List.getD_eq_getElem?_getD, List.getD_eq_getElem?_getD, List.getElem?_take_of_lt hlen,
    List.getElem?_drop]

theorem window_drop (h : (bytes.drop x).take len = window) (k : Nat) :
    (bytes.drop (x + k)).take (len - k) = window.drop k := by
  rw [← h, List.drop_take, List.drop_drop]

theorem window_length (h : (bytes.drop x).take len = window) (hin : x + len ≤ bytes.length) :
    window.length = len := by
  rw [← h, List.length_take, List.length_drop]
  omega

end Window

variable {data options ending : List UInt8} {x len : Nat} {items : List Item}

theorem get32_eq_of_getD {bytes : List UInt8} {n : Nat}
    (h : ∀ i < n, bytes.getD (x + i) 0 = data.getD i 0) {i : Nat} (hi : i + 4 ≤ n) :
    get32 bytes (x + i) = get32 data i := by
  rw [get32, get32, h i (by omega), Nat.add_assoc, h (i + 1) (by omega), Nat.add_assoc,
    h (i + 2) (by omega), Nat.add_assoc, h (i + 3) (by omega)]

theorem decodeOption_data {opt : UInt8} (info : DhcpInfo)
    (h : ∀ i < data.length, options.getD (x + i) 0 = data.getD i 0) (hpos : 1 ≤ data.length) :
    decodeOption options opt data.length x info = decodeOption data opt data.length 0 info := by
  have hword (h4 : 4 ≤ data.length) : get32 options x = get32 data 0 :=
    get32_eq_of_getD h h4
  have hsecond (h8 : 8 ≤ data.length) : get32 options (x + 4) = get32 data (0 + 4) :=
    get32_eq_of_getD h h8
  have hbyte : options.getD x 0 = data.getD 0 0 := h 0 hpos
  unfold decodeOption
  rw [hbyte]
  -- how much else is read depends on the length alone
  by_cases h4 : 4 ≤ data.length
  · rw [hword h4]
    by_cases h8 : 8 ≤ data.length
    · rw [hsecond h8]
    · simp only [if_neg h8]
  · have h8 : ¬8 ≤ data.length := by omega
    simp only [if_neg h4, if_neg h8]

theorem foldl_decode_of_short (h : (encode items).length ≤ 2) (info : DhcpInfo) :
    items.foldl Item.decode info = info := by
  induction items with
  | nil => rfl
  | cons item items ih =>
    rw [encode, List.flatMap_cons, List.length_append] at h
    cases item with
    | pad => exact ih (Nat.le_of_add_left_le h)
    | option o =>
      have := o.data_pos
      simp only [Item.bytes, List.length_cons] at h
      omega

theorem window_option {rest : List UInt8} {o : DhcpOption}
    (h : (options.drop x).take len = (Item.option o).bytes ++ rest) :
    options.getD x 0 = o.code ∧ (options.getD (x + 1) 0).toNat = o.data.length ∧
      (∀ i < o.data.length, options.getD (x + 2 + i) 0 = o.data.getD i 0) ∧
      (options.drop (x + 2 + o.data.length)).take (len - 2 - o.data.length) = rest := by
  refine ⟨window_getD h (i := 0) (by simp [Item.bytes]), ?_, fun i hi => ?_, ?_⟩
  · have hle := o.data_le
    rw [window_getD h (by simp [Item.bytes])]
    show (UInt8.ofNat o.data.length).toNat = _
    rw [UInt8.toNat_ofNat']
    omega
  · rw [window_getD (window_drop h 2) (by simp [Item.bytes]; omega)]
    show (o.data ++ _).getD i 0 = _
    rw [List.getD_append _ _ _ _ hi]
  · rw [Nat.add_assoc, Nat.sub_sub, window_drop h (2 + o.data.length)]
    exact List.drop_left' (by simp only [Item.bytes, List.length_cons]; omega)

theorem decodeOptions_ending (hending : Ending ending) (hin : x + len ≤ options.length)
    (h : (options.drop x).take len = ending) (info : DhcpInfo) :
    decodeOptions options x len info = info := by
  rw [decodeOptions]
  split_ifs with hshort
  · rfl
  · rcases hending with rfl | ⟨rest, rfl⟩
    · have hnone := window_length h hin
      rw [List.length_nil] at hnone
      omega
    · have hend : options.getD x 0 = optEnd := window_getD h (i := 0) (by simp)
      simp only [hend]
      rfl

theorem decodeOptions_items (hending : Ending ending) (hin : x + len ≤ options.length)
    (h : (options.drop x).take len = encode items ++ ending) (info : DhcpInfo) :
    decodeOptions options x len info = items.foldl Item.decode info := by
  induction items generalizing x len info with
  | nil => exact decodeOptions_ending hending hin h info
  | cons item items ih =>
    have hlength := window_length h hin
    by_cases hshort : len ≤ 2
    · rw [List.length_append] at hlength
      rw [decodeOptions, if_pos hshort, foldl_decode_of_short (by omega)]
    rw [encode, List.flatMap_cons, List.append_assoc] at h hlength
    rw [decodeOptions, if_neg hshort]
    cases item with
    | pad =>
      have hpad : options.getD x 0 = optPad := window_getD h (i := 0) (by simp [Item.bytes])
      rw [if_pos hpad]
      exact ih (by omega) (window_drop h 1) info
    | option o =>
      obtain ⟨hcode, hoptlen, hdata, hrest⟩ := window_option h
      simp only [Item.bytes, List.length_append, List.length_cons] at hlength
      simp only [hcode, hoptlen]
      rw [if_neg o.not_pad, if_neg o.not_end, if_neg (by omega),
        decodeOption_data info hdata o.data_pos]
      exact ih (by omega) hrest _

theorem field_eq_lastData {τ : Type} {field : DhcpInfo → τ} {code : UInt8} {need : Nat}
    {value : List UInt8 → τ} (h : ∀ info item, field (Item.decode info item) =
      ((item.dataOf code need).map value).getD (field info)) (info : DhcpInfo) (items : List Item) :
    field (items.foldl Item.decode info) =
      ((lastData code need items).map value).getD (field info) := by
  rw [LastWrite.foldl_eq_last h, LastWrite.last_map]
  rfl

theorem foldl_decode_eq_described (yiaddr : UInt32) (items : List Item) :
    { items.foldl Item.decode .zero with ipaddr := yiaddr } = described yiaddr items := by
  have h := Item.decode_eq
  simp only [described, DhcpInfo.mk.injEq, true_and]
  exact ⟨field_eq_lastData (fun info item => congrArg DhcpInfo.type (h info item)) .zero items,
    field_eq_lastData (fun info item => congrArg DhcpInfo.gateway (h info item)) .zero items,
    field_eq_lastData (fun info item => congrArg DhcpInfo.prefixLength (h info item)) .zero items,
    field_eq_lastData (fun info item => congrArg DhcpInfo.dns1 (h info item)) .zero items,
    field_eq_lastData (fun info item => congrArg DhcpInfo.dns2 (h info item)) .zero items,
    field_eq_lastData (fun info item => congrArg DhcpInfo.serveraddr (h info item)) .zero items,
    field_eq_lastData (fun info item => congrArg DhcpInfo.lease (h info item)) .zero items⟩

/-- Each field is what the last option for it says. -/
theorem decode_exact_and_bounded (msg : DhcpMsg) {len : Nat} (hlen : len ≤ sizeofDhcpMsg) :
    (∀ a ∈ (Traced.decodeDhcpMsg len msg).trace, a.InBounds len) ∧
      (Traced.decodeDhcpMsg len msg).result = some (decodeCode msg len, decodeDhcpMsg msg len) ∧
      ∀ items ending, Ending ending →
        msg.options.bytes.take (len - dhcpMsgFixedSize) = optCookie ++ (encode items ++ ending) →
        (Traced.decodeDhcpMsg len msg).result = some (0, described msg.yiaddr items) := by
  have hgives := decodeDhcpMsg_gives msg len
  refine ⟨hgives.good, hgives.result, fun items ending hending hoptions => ?_⟩
  have hfour : 4 ≤ len - dhcpMsgFixedSize := by
    have := congrArg List.length hoptions
    simp [optCookie] at this
    omega
  have hcookie : msg.HasCookie := by
    have := congrArg (List.take 4) hoptions
    rwa [List.take_take, Nat.min_eq_left hfour] at this
  have hrest : (msg.options.bytes.drop 4).take (len - (dhcpMsgFixedSize + 4)) =
      encode items ++ ending := by
    have := congrArg (List.drop 4) hoptions
    rwa [List.drop_take, Nat.sub_sub] at this
  have hin : 4 + (len - (dhcpMsgFixedSize + 4)) ≤ msg.options.bytes.length := by
    rw [msg.options.size]
    rw [sizeofDhcpMsg] at hlen
    rw [dhcpMsgFixedSize] at hfour ⊢
    omega
  rw [hgives.result, decodeCode, if_pos ⟨by omega, hcookie⟩,
    decodeDhcpMsg_of_hasCookie msg (by omega) hcookie, decodeOptions_items hending hin hrest,
    ← foldl_decode_eq_described]

def gatewayItems : List Item :=
  [.option ⟨optMessageType, [2], by decide, by decide, by decide, by decide⟩, .pad,
    .option ⟨optGateway, [10, 0, 0, 1], by decide, by decide, by decide, by decide⟩,
    .option ⟨optDns, [8, 8, 8, 8], by decide, by decide, by decide, by decide⟩,
    .option ⟨optGateway, [10, 0, 0, 2, 9], by decide, by decide, by decide, by decide⟩, .pad]

def gatewayReply : DhcpMsg :=
  { DhcpMsg.zero with
    options := Buf.ofList 1024 (optCookie ++ (encode gatewayItems ++ [optEnd, 3, 4])) }

theorem decode_gatewayReply : 267 ≤ sizeofDhcpMsg ∧ (Traced.decodeDhcpMsg 267 gatewayReply).result =
      some (0, described gatewayReply.yiaddr gatewayItems) :=
  ⟨by decide, (decode_exact_and_bounded gatewayReply (by decide)).2.2 gatewayItems [optEnd, 3, 4]
    (.inr ⟨[3, 4], rfl⟩) (by decide +kernel)⟩

end WikoPlatform.Netutils
