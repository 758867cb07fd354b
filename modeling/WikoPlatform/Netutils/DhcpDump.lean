import WikoPlatform.Lib.CString
import WikoPlatform.Netutils.DhcpOptions

/-! `dump_dhcp_msg` with its accesses. It walks over the options like `decode_dhcp_msg` and writes
to its buffer and the two strings, the first of which `is_valid_reply` may read. -/

namespace WikoPlatform.Netutils

open CString Words Runs

def optDomainName : UInt8 := 15
def optMessage : UInt8 := 56

def dhcpTypeToName (type : UInt8) : String :=
  if type = dhcpDiscover then "discover"
  else if type = dhcpOffer then "offer"
  else if type = dhcpRequest then "request"
  else if type = 4 then "decline"
  else if type = dhcpAck then "ack"
  else if type = dhcpNak then "nak"
  else if type = 7 then "release"
  else if type = 8 then "inform"
  else "???"

/-- A field of the message that is written as well. -/
structure TextField extends Field where
  set : DhcpMsg → Buf size → DhcpMsg
  get_set : ∀ msg b, get (set msg b) = b
  set_set : ∀ msg b c, set (set msg b) c = set msg c
  set_get : ∀ msg, set msg (get msg) = msg
  size_pos : 0 < size
  start : 44 ≤ offset
  stop : offset + size ≤ dhcpMsgFixedSize

namespace TextField

def sname : TextField where
  offset := 44
  size := 64
  get := DhcpMsg.sname
  set msg b := { msg with sname := b }
  get_set _ _ := rfl
  set_set _ _ _ := rfl
  set_get _ := rfl
  size_pos := by decide
  start := by decide
  stop := by decide

def file : TextField where
  offset := 108
  size := 128
  get := DhcpMsg.file
  set msg b := { msg with file := b }
  get_set _ _ := rfl
  set_set _ _ _ := rfl
  set_get _ := rfl
  size_pos := by decide
  start := by decide
  stop := by decide

end TextField

def hexDigit (n : Nat) : UInt8 := UInt8.ofNat (if n < 10 then 48 + n else 87 + n)

def hexText (b : UInt8) : List UInt8 := [32, hexDigit (b.toNat / 16), hexDigit (b.toNat % 16), 32]

namespace Traced

def snprintf (buf : Buf sizeofBuf) (cp : Nat) (text : List UInt8) :
    Act DhcpMsg Access (Buf sizeofBuf) :=
  if sizeofBuf - cp = 0 then pure buf
  else do
    let out := text.take (sizeofBuf - cp - 1) ++ [0]
    Act.emit (.store cp out.length)
    return buf.put cp out

/-- Each byte takes four characters of `buf`. -/
def hex2str (field : Field) (start : Nat) : Nat → Nat → Buf sizeofBuf →
    Act DhcpMsg Access (Buf sizeofBuf)
  | 0, _, buf => pure buf
  | len + 1, cp, buf => do
    let b ← field.byte start
    let buf ← snprintf buf cp (hexText b)
    hex2str field (start + 1) len (cp + 4) buf

def putByte (field : TextField) (n : Nat) (x : UInt8) : Act DhcpMsg Access Unit := do
  Act.emit (.write (field.offset + n))
  Act.modify fun msg => field.set msg ((field.get msg).setByte n x)

def dotUnprintable (field : TextField) (n : Nat) : Act DhcpMsg Access Unit :=
  if n < field.size then do
    let x ← field.toField.byte n
    if x < 32 ∨ 127 < x then
      if x = 0 then pure ()
      else do
        putByte field n 46
        dotUnprintable field (n + 1)
    else dotUnprintable field (n + 1)
  else pure ()
termination_by field.size - n

def dumpString (field : TextField) : Act DhcpMsg Access Unit := do
  dotUnprintable field 0
  putByte field (field.size - 1) 0

def logString (name : String) (field : TextField) : Act DhcpMsg Access Unit := do
  let msg ← Act.get
  Act.emit (.read field.offset ((cString (field.get msg).bytes).length + 1))
  Act.emit (.log (.text name (cString (field.get msg).bytes)))

def textSize (optsz : Nat) : Nat := if optsz < sizeofBuf - 1 then optsz else sizeofBuf - 1

def optionText (opt : UInt8) (x optsz : Nat) (buf : Buf sizeofBuf) :
    Act DhcpMsg Access (Buf sizeofBuf) :=
  if opt = optDomainName ∨ opt = optMessage then do
    Act.emit (.read (dhcpMsgFixedSize + (x + 2)) (textSize optsz))
    let msg ← Act.get
    Act.emit (.store 0 (textSize optsz))
    Act.emit (.store (textSize optsz) 1)
    return buf.put 0 ((msg.options.bytes.drop (x + 2)).take (textSize optsz) ++ [0])
  else hex2str Field.options (x + 2) optsz 0 buf

def optionName (opt : UInt8) (x : Nat) : Act DhcpMsg Access String :=
  if opt = optMessageType then do
    let type ← Field.options.byte (x + 2)
    return dhcpTypeToName type
  else return ""

def dumpOptions (x len : Nat) (buf : Buf sizeofBuf) : Act DhcpMsg Access Unit :=
  if len ≤ 2 then pure ()
  else do
    let opt ← Field.options.byte x
    if opt = 0 then dumpOptions (x + 1) (len - 1) buf
    else if opt = optEnd then pure ()
    else do
      let optsz ← Field.options.byte (x + 1)
      if len - 2 < optsz.toNat then pure ()
      else do
        Act.emit (.visit x optsz.toNat)
        let buf ← optionText opt x optsz.toNat buf
        let name ← optionName opt x
        Act.emit (.log (.option opt optsz.toNat (cString buf.bytes) name))
        dumpOptions (x + optsz.toNat + 2) (len - 2 - optsz.toNat) buf
termination_by len

def opName (op : UInt8) : String :=
  if op = opBootrequest then "BOOTREQUEST" else if op = opBootreply then "BOOTREPLY" else "????"

def dumpHeader (len : Nat) : Act DhcpMsg Access Unit := do
  Act.emit (.read 0 28)
  let msg ← Act.get
  Act.emit (.log (.op (opName msg.op) msg.op msg.htype msg.hlen msg.hops))
  Act.emit (.log (.xid (ntohl msg.xid) (ntohs msg.secs) (ntohs msg.flags) len))
  Act.emit (.log (.address "ciaddr" msg.ciaddr))
  Act.emit (.log (.address "yiaddr" msg.yiaddr))
  Act.emit (.log (.address "siaddr" msg.siaddr))
  Act.emit (.log (.address "giaddr" msg.giaddr))

def dumpChaddr (buf : Buf sizeofBuf) : Act DhcpMsg Access (Buf sizeofBuf) := do
  let msg ← Act.get
  let c := if 16 < msg.hlen.toNat then 16 else msg.hlen.toNat
  let buf ← hex2str Field.chaddr 0 c 0 buf
  Act.emit (.log (.text "chaddr" (cString buf.bytes)))
  return buf

def dumpDhcpMsg (len : Nat) (buf : Buf sizeofBuf) : Act DhcpMsg Access Unit := do
  Act.emit (.log .title)
  if len < dhcpMsgFixedSize then Act.emit (.log (.invalidLength len))
  else do
    dumpHeader (len - dhcpMsgFixedSize)
    let buf ← dumpChaddr buf
    dumpString .sname
    dumpString .file
    logString "sname" .sname
    logString "file" .file
    if len - dhcpMsgFixedSize < 4 then pure ()
    else dumpOptions 4 (len - dhcpMsgFixedSize - 4) buf

end Traced

section

variable {limit len x : Nat} (msg : DhcpMsg) {opt : UInt8}

theorem snprintf_gives (buf : Buf sizeofBuf) (cp : Nat) (text : List UInt8) : ∃ buf',
    Within limit (Traced.snprintf buf cp text) msg [] msg buf' := by
  unfold Traced.snprintf
  split_ifs with hroom
  · exact ⟨buf, .pure _ msg⟩
  · have hstore : Access.InBounds limit
        (.store cp (text.take (sizeofBuf - cp - 1) ++ [0]).length) := by
      simp only [Access.InBounds, List.length_append, List.length_take, List.length_singleton]
      omega
    exact ⟨_, .seq (.emit hstore rfl) (.pure _ msg)⟩

theorem hex2str_gives (field : Field) {start : Nat} (h : field.offset + start + len ≤ limit)
    (cp : Nat) (buf : Buf sizeofBuf) : ∃ buf',
    Within limit (Traced.hex2str field start len cp buf) msg [] msg buf' := by
  induction len generalizing start cp buf with
  | zero => exact ⟨buf, .pure _ msg⟩
  | succ len ih =>
    have hbyte : Within limit (field.byte start) msg [] msg _ := Field.byte_gives msg (by omega)
    obtain ⟨buf₁, hprint⟩ : ∃ buf₁, Within limit (Traced.snprintf buf cp
        (hexText ((field.get msg).bytes.getD start 0))) msg [] msg buf₁ :=
      snprintf_gives msg buf cp _
    have hnext : field.offset + (start + 1) + len ≤ limit := by omega
    obtain ⟨buf₂, hrest⟩ := ih hnext (cp + 4) buf₁
    exact ⟨buf₂, hbyte.seq (hprint.seq hrest)⟩

theorem textSize_le (optsz : Nat) :
    Traced.textSize optsz ≤ optsz ∧ Traced.textSize optsz + 1 ≤ sizeofBuf := by
  unfold Traced.textSize sizeofBuf
  split_ifs <;> omega

theorem optionText_gives {optsz : Nat} (h : dhcpMsgFixedSize + (x + 2) + optsz ≤ limit)
    (buf : Buf sizeofBuf) : ∃ buf',
    Within limit (Traced.optionText opt x optsz buf) msg [] msg buf' := by
  unfold Traced.optionText
  split_ifs with htext
  · obtain ⟨hle, hfits⟩ := textSize_le optsz
    have hread : Access.InBounds limit
        (.read (dhcpMsgFixedSize + (x + 2)) (Traced.textSize optsz)) :=
      show _ + Traced.textSize optsz ≤ limit by omega
    have hcopy : Access.InBounds limit (.store 0 (Traced.textSize optsz)) :=
      show 0 + Traced.textSize optsz ≤ sizeofBuf by omega
    have hzero : Access.InBounds limit (.store (Traced.textSize optsz) 1) := hfits
    exact ⟨_, .seq (.emit hread rfl)
      (.get_bind (.seq (.emit hcopy rfl) (.seq (.emit hzero rfl) (.pure _ msg))))⟩
  · exact hex2str_gives msg Field.options h 0 buf

theorem optionName_gives (h : dhcpMsgFixedSize + (x + 2) + 1 ≤ limit) :
    ∃ name, Within limit (Traced.optionName opt x) msg [] msg name := by
  unfold Traced.optionName
  split_ifs with htype
  · exact ⟨_, (optionByte_gives msg h).seq (.pure _ msg)⟩
  · exact ⟨_, .pure _ msg⟩

theorem dumpOptions_gives (h : dhcpMsgFixedSize + x + len ≤ limit) (buf : Buf sizeofBuf) :
    Within limit (Traced.dumpOptions x len buf) msg (walk msg.options.bytes x len) msg () := by
  induction len using Nat.strong_induction_on generalizing x buf with
  | _ len ih =>
    rw [Traced.dumpOptions, walk]
    have hite {p : Prop} [Decidable p] {x y : Act DhcpMsg Access Unit} {out out' : List (Nat × Nat)}
        (hx : p → Within limit x msg out msg ()) (hy : ¬p → Within limit y msg out' msg ()) :
        Within limit (if p then x else y) msg (if p then out else out') msg () :=
      .ite_picked hx hy
    refine hite (fun _ => .pure _ msg) fun hlong => ?_
    refine (optionByte_gives msg (by omega)).seq ?_
    refine hite (fun _ => ih _ (by omega) (by omega) buf) fun _ => ?_
    refine hite (fun _ => .pure _ msg) fun _ => ?_
    refine (optionByte_gives msg (by omega)).seq ?_
    refine hite (fun _ => .pure _ msg) fun hover => ?_
    let optlen := (msg.options.bytes.getD (x + 1) 0).toNat
    have hvisit : Within limit (Act.emit (Access.visit x optlen)) msg [(x, optlen)] msg () :=
      .emit_picked trivial rfl
    obtain ⟨buf', htext⟩ : ∃ buf', Within limit (Traced.optionText _ x optlen buf) msg [] msg
        buf' := optionText_gives msg (by omega) buf
    have hnamed : dhcpMsgFixedSize + (x + 2) + 1 ≤ limit := by omega
    obtain ⟨name, hname⟩ := optionName_gives msg hnamed
    refine hvisit.bind (htext.seq (hname.seq (.seq (.emit trivial rfl) ?_)))
    rw [Nat.add_right_comm]
    exact ih _ (by omega) (by omega) buf'

end

def dottedFrom (n : Nat) (s : List UInt8) : List UInt8 := s.take n ++ dotUnprintable (s.drop n)

section

variable {s : List UInt8} {n : Nat}

theorem dottedFrom_length (n : Nat) (s : List UInt8) : (dottedFrom n s).length = s.length := by
  rw [dottedFrom, List.length_append, dotUnprintable_length, List.length_take, List.length_drop]
  omega

theorem dottedFrom_of_le (h : s.length ≤ n) : dottedFrom n s = s := by
  rw [dottedFrom, List.drop_eq_nil_of_le h, List.take_of_length_le h]
  exact List.append_nil s

theorem dottedFrom_zero (h : n < s.length) (hx : s.getD n 0 = 0) : dottedFrom n s = s := by
  rw [dottedFrom, drop_eq_getD_cons h, hx]
  show s.take n ++ 0 :: s.drop (n + 1) = s
  rw [← hx, ← drop_eq_getD_cons h, List.take_append_drop]

theorem take_succ_getD (h : n < s.length) : s.take (n + 1) = s.take n ++ [s.getD n 0] := by
  rw [List.take_succ_eq_append_getElem h, List.getD_eq_getElem?_getD, List.getElem?_eq_getElem h,
    Option.getD_some]

theorem dottedFrom_printable (h : n < s.length) (hx : ¬(s.getD n 0 < 32 ∨ 127 < s.getD n 0)) :
    dottedFrom n s = dottedFrom (n + 1) s := by
  rw [dottedFrom, dottedFrom, drop_eq_getD_cons h, dotUnprintable, if_neg hx, take_succ_getD h,
    List.append_assoc]
  rfl

theorem dottedFrom_dot (h : n < s.length) (hx : s.getD n 0 < 32 ∨ 127 < s.getD n 0)
    (hne : s.getD n 0 ≠ 0) : dottedFrom n s = dottedFrom (n + 1) (s.set n 46) := by
  have hlength : n < (s.set n 46).length := by rwa [List.length_set]
  have hbyte : (s.set n 46).getD n 0 = 46 := by
    rw [List.getD_eq_getElem?_getD, List.getElem?_set_self h, Option.getD_some]
  rw [dottedFrom, dottedFrom, drop_eq_getD_cons h, dotUnprintable, if_pos hx, if_neg hne,
    take_succ_getD hlength, hbyte, List.take_set_of_le (Nat.le_refl n),
    List.drop_set_of_lt (Nat.lt_succ_self n), List.append_assoc]
  rfl

end

section

variable {limit n : Nat} (field : TextField) (msg : DhcpMsg)

theorem putByte_gives (hn : n < field.size) (x : UInt8) :
    Within limit (Traced.putByte field n x) msg []
      (field.set msg ((field.get msg).setByte n x)) () := by
  have hstart := field.start
  have hstop := field.stop
  have hwrite : Access.InBounds limit (.write (field.offset + n)) :=
    show 44 ≤ field.offset + n ∧ field.offset + n < dhcpMsgFixedSize by omega
  exact .seq (.emit hwrite rfl) (.modify _ msg)

def dotted (n : Nat) : DhcpMsg :=
  field.set msg
    ⟨dottedFrom n (field.get msg).bytes, by rw [dottedFrom_length, (field.get msg).size]⟩

theorem dotted_of_eq (h : dottedFrom n (field.get msg).bytes = (field.get msg).bytes) :
    dotted field msg n = msg := by
  have hbuf : (⟨dottedFrom n (field.get msg).bytes, by rw [h, (field.get msg).size]⟩ :
      Buf field.size) = field.get msg := Buf.ext h
  rw [dotted, hbuf, field.set_get]

theorem dotUnprintable_gives (hlimit : dhcpMsgFixedSize ≤ limit) (n : Nat) :
    Within limit (Traced.dotUnprintable field n) msg [] (dotted field msg n) () := by
  have hstop := field.stop
  have hsize := (field.get msg).size
  induction hleft : field.size - n generalizing n msg with
  | zero =>
    rw [Traced.dotUnprintable, if_neg (by omega), dotted_of_eq]
    · exact .pure _ msg
    · exact dottedFrom_of_le (by omega)
  | succ left ih =>
    have hn : n < field.size := by omega
    have hin : n < (field.get msg).bytes.length := by omega
    rw [Traced.dotUnprintable, if_pos hn]
    have hbyte : Within limit (field.toField.byte n) msg [] msg _ := Field.byte_gives msg (by omega)
    refine hbyte.seq ?_
    by_cases hx : (field.get msg).bytes.getD n 0 < 32 ∨ 127 < (field.get msg).bytes.getD n 0
    · rw [if_pos hx]
      by_cases hzero : (field.get msg).bytes.getD n 0 = 0
      · rw [if_pos hzero, dotted_of_eq]
        · exact .pure _ msg
        · exact dottedFrom_zero hin hzero
      · rw [if_neg hzero]
        have hrest := ih (field.set msg ((field.get msg).setByte n 46)) (n + 1)
          (Buf.size _) (by omega)
        have heq : dotted field (field.set msg ((field.get msg).setByte n 46)) (n + 1) =
            dotted field msg n := by
          simp only [dotted, field.get_set, field.set_set]
          congr 2
          exact (dottedFrom_dot hin hx hzero).symm
        rw [heq] at hrest
        exact (putByte_gives field msg hn 46).seq hrest
    · rw [if_neg hx]
      have heq : dotted field msg (n + 1) = dotted field msg n := by
        simp only [dotted]
        congr 2
        exact (dottedFrom_printable hin hx).symm
      rw [← heq]
      exact ih msg (n + 1) hsize (by omega)

theorem dumpString_gives (hlimit : dhcpMsgFixedSize ≤ limit) :
    Within limit (Traced.dumpString field) msg [] (field.set msg (dumpString (field.get msg)))
      () := by
  have hpos := field.size_pos
  have hlast : Within limit (Traced.putByte field (field.size - 1) 0) (dotted field msg 0) [] _
      () := putByte_gives field (dotted field msg 0) (by omega) 0
  have heq : field.set (dotted field msg 0) ((field.get (dotted field msg 0)).setByte
      (field.size - 1) 0) = field.set msg (dumpString (field.get msg)) := by
    simp only [dotted, field.get_set, field.set_set]
    rfl
  rw [heq] at hlast
  exact (dotUnprintable_gives field msg hlimit 0).seq hlast

theorem cString_dumpString_lt (hn : 0 < n) (b : Buf n) :
    (cString (dumpString b).bytes).length < n := by
  have hsize := (dumpString b).size
  rw [length_cString_lt_iff (by omega), List.take_of_length_le (by omega)]
  have hlast : n - 1 < (dotUnprintable b.bytes).length := by
    rw [dotUnprintable_length, b.size]
    omega
  exact List.mem_set hlast 0

theorem logString_gives (name : String) (hlimit : dhcpMsgFixedSize ≤ limit)
    (h : (cString (field.get msg).bytes).length < field.size) :
    Within limit (Traced.logString name field) msg [] msg () := by
  have hstop := field.stop
  have hread : Access.InBounds limit
      (.read field.offset ((cString (field.get msg).bytes).length + 1)) :=
    show field.offset + _ ≤ limit by omega
  exact .get_bind (.seq (.emit hread rfl) (.emit trivial rfl))

end

section

variable (msg : DhcpMsg) {limit : Nat}

theorem dumpHeader_gives (hlimit : dhcpMsgFixedSize ≤ limit) (len : Nat) :
    Within limit (Traced.dumpHeader len) msg [] msg () := by
  have hread : Access.InBounds limit (.read 0 28) :=
    show 0 + 28 ≤ limit by rw [dhcpMsgFixedSize] at hlimit; omega
  have hlog : ∀ line, Within limit (Act.emit (Access.log line)) msg [] msg () :=
    fun line => .emit trivial rfl
  exact .seq (.emit hread rfl) (.get_bind (.seq (hlog _) (.seq (hlog _) (.seq (hlog _)
    (.seq (hlog _) (.seq (hlog _) (hlog _)))))))

theorem dumpChaddr_gives (hlimit : dhcpMsgFixedSize ≤ limit) (buf : Buf sizeofBuf) : ∃ buf',
    Within limit (Traced.dumpChaddr buf) msg [] msg buf' := by
  have hc : (if 16 < msg.hlen.toNat then 16 else msg.hlen.toNat) ≤ 16 := by
    split_ifs <;> omega
  have hin : Field.chaddr.offset + 0 + (if 16 < msg.hlen.toNat then 16 else msg.hlen.toNat) ≤
      limit := by
    rw [dhcpMsgFixedSize] at hlimit
    change 28 + 0 + _ ≤ limit
    omega
  obtain ⟨buf', hhex⟩ := hex2str_gives msg Field.chaddr hin 0 buf
  exact ⟨buf', .get_bind (hhex.seq (.seq (.emit trivial rfl) (.pure _ msg)))⟩

theorem dumpDhcpMsg_gives (len : Nat) (buf : Buf sizeofBuf) :
    Within len (Traced.dumpDhcpMsg len buf) msg
      (walk msg.options.bytes 4 (len - (dhcpMsgFixedSize + 4))) (dumpDhcpMsg msg len) () := by
  have htitle : Within len (Act.emit (Access.log .title)) msg [] msg () := .emit trivial rfl
  refine htitle.seq ?_
  by_cases hshort : len < dhcpMsgFixedSize
  · rw [if_pos hshort, dumpDhcpMsg, if_pos hshort, walk, if_pos (by omega)]
    exact .emit trivial rfl
  rw [if_neg hshort, dumpDhcpMsg, if_neg hshort]
  have hlen : dhcpMsgFixedSize ≤ len := by omega
  obtain ⟨buf', hchaddr⟩ := dumpChaddr_gives msg hlen buf
  have hsname := dumpString_gives .sname msg hlen
  have hfile := dumpString_gives .file (TextField.sname.set msg (dumpString msg.sname)) hlen
  generalize hdumped : ({ msg with sname := dumpString msg.sname, file := dumpString msg.file } :
    DhcpMsg) = dumped
  have hlogSname : Within len (Traced.logString "sname" .sname) dumped [] dumped () := by
    refine logString_gives .sname dumped "sname" hlen ?_
    rw [← hdumped]
    exact cString_dumpString_lt (by decide) _
  have hlogFile : Within len (Traced.logString "file" .file) dumped [] dumped () := by
    refine logString_gives .file dumped "file" hlen ?_
    rw [← hdumped]
    exact cString_dumpString_lt (by decide) _
  have hrest : Within len (if len - dhcpMsgFixedSize < 4 then pure ()
        else Traced.dumpOptions 4 (len - dhcpMsgFixedSize - 4) buf') dumped
      (walk msg.options.bytes 4 (len - (dhcpMsgFixedSize + 4))) dumped () := by
    split_ifs with hfew
    · rw [walk, if_pos (by omega)]
      exact .pure _ dumped
    · rw [← Nat.sub_sub, show msg.options.bytes = dumped.options.bytes by rw [← hdumped]]
      exact dumpOptions_gives dumped (by omega) buf'
  subst hdumped
  exact (dumpHeader_gives msg hlen _).seq (hchaddr.seq (hsname.seq (hfile.seq
    (hlogSname.seq (hlogFile.seq hrest)))))

end

section

variable (msg reply : DhcpMsg) (len sz : Nat)

theorem dumpDhcpMsg_eq : ∃ sname file,
    dumpDhcpMsg msg len = { msg with sname := sname, file := file } := by
  unfold dumpDhcpMsg
  split_ifs
  · exact ⟨msg.sname, msg.file, rfl⟩
  · exact ⟨_, _, rfl⟩

theorem decodeDhcpMsg_dump (len' : Nat) :
    decodeDhcpMsg (dumpDhcpMsg msg len') len = decodeDhcpMsg msg len := by
  obtain ⟨sname, file, heq⟩ := dumpDhcpMsg_eq msg len'
  rw [heq]
  rfl

theorem decodeCode_dump (len' : Nat) :
    decodeCode (dumpDhcpMsg msg len') len = decodeCode msg len := by
  obtain ⟨sname, file, heq⟩ := dumpDhcpMsg_eq msg len'
  rw [heq]
  rfl

theorem fromChaddr_take_dump {n : Nat} (hn : n ≤ 16) :
    (dumpDhcpMsg msg len).fromChaddr.take n = msg.fromChaddr.take n := by
  obtain ⟨sname, file, heq⟩ := dumpDhcpMsg_eq msg len
  have hsize := msg.chaddr.size
  rw [heq, DhcpMsg.fromChaddr, DhcpMsg.fromChaddr,
    List.take_append_of_le_length (by simp [hsize, hn]),
    List.take_append_of_le_length (by simp [hsize, hn])]

theorem isValidReply_dump_reply (h : msg.hlen.toNat ≤ 16) :
    isValidReply msg (dumpDhcpMsg reply len) sz = isValidReply msg reply sz := by
  have htake := fromChaddr_take_dump reply len h
  obtain ⟨sname, file, heq⟩ := dumpDhcpMsg_eq reply len
  rw [heq] at htake ⊢
  unfold isValidReply
  rw [htake]

theorem isValidReply_dump_msg (h : msg.hlen.toNat ≤ 16) :
    isValidReply (dumpDhcpMsg msg len) reply sz = isValidReply msg reply sz := by
  have htake := fromChaddr_take_dump msg len h
  obtain ⟨sname, file, heq⟩ := dumpDhcpMsg_eq msg len
  rw [heq] at htake ⊢
  unfold isValidReply
  rw [htake]

end

/-- A dump first, and then the other functions on what it leaves. -/
structure Undisturbed (msg : DhcpMsg) (buf : Buf sizeofBuf) (len : Nat) : Prop where
  returns : (Traced.dumpDhcpMsg len buf msg).result = some ()
  visits : (Traced.dumpDhcpMsg len buf msg).trace.filterMap Access.visited =
    (Traced.decodeDhcpMsg len msg).trace.filterMap Access.visited
  inBounds : ∀ a ∈ (Traced.dumpDhcpMsg len buf msg).trace, a.InBounds len
  decoded : (Traced.decodeDhcpMsg len (Traced.dumpDhcpMsg len buf msg).state).result =
    (Traced.decodeDhcpMsg len msg).result

theorem undisturbed {msg : DhcpMsg} (hcookie : msg.HasCookie) (buf : Buf sizeofBuf) (len : Nat) :
    Undisturbed msg buf len := by
  have hdump := dumpDhcpMsg_gives msg len buf
  have hdecode := decodeDhcpMsg_gives msg len
  refine ⟨hdump.result, ?_, hdump.good, ?_⟩
  · rw [hdump.picked, hdecode.picked, decodeVisits, if_pos hcookie]
  · rw [hdump.state, (decodeDhcpMsg_gives _ len).result, hdecode.result, decodeCode_dump,
      decodeDhcpMsg_dump]

/-- `is_valid_reply` gives the same answer after a dump. -/
def SameVerdict (hlen : UInt8) (msg : DhcpMsg) (buf : Buf sizeofBuf) (len : Nat) : Prop :=
  ∀ other sz,
    (other.hlen = hlen → isValidReply other (Traced.dumpDhcpMsg len buf msg).state sz =
      isValidReply other msg sz) ∧
    (msg.hlen = hlen → isValidReply (Traced.dumpDhcpMsg len buf msg).state other sz =
      isValidReply msg other sz)

theorem sameVerdict {hlen : UInt8} (h : hlen.toNat ≤ 16) (msg : DhcpMsg) (buf : Buf sizeofBuf)
    (len : Nat) : SameVerdict hlen msg buf len := by
  intro other sz
  rw [(dumpDhcpMsg_gives msg len buf).state]
  refine ⟨?_, ?_⟩
  · rintro rfl
    exact isValidReply_dump_reply other msg len sz h
  · rintro rfl
    exact isValidReply_dump_msg msg other len sz h

def unprintableReply : DhcpMsg :=
  { DhcpMsg.zero with
    op := opBootreply
    sname := Buf.ofList 64 [1]
    options := Buf.ofList 1024 optCookie }

end WikoPlatform.Netutils
