import WikoPlatform.Fingerprint.Records
import WikoPlatform.Lib.TextLines
import WikoPlatform.Posix

/-! The file of `FingerprintsUserState`, which `doWriteState` writes through an XML serializer, and
from which `get_fp_list_from_xml` of the HAL picks the ids without a parser. -/

namespace WikoPlatform.Chipone.XmlFingers

open CString TextLines Fingerprint

/-! ### The reader -/

def fidTag : List UInt8 := ascii "fingerId="

def userListFileMaxLine : Nat := 1024

def quote : UInt8 := 34

def minus : UInt8 := 45

/-- `undefined` is an `int` that overflows, or a character that is logged as a string. -/
inductive FidResult where
  | found (fid : Int)
  | invalid
  | undefined
  deriving DecidableEq

/-- The variables of `get_fid_from_line`. -/
structure Scan where
  charIdx : Nat
  firstQuoteFound : Bool
  sign : Bool
  foundFid : Nat

def Scan.next (s : Scan) : Except FidResult Scan :=
  if s.charIdx + 1 > 15 then .error .invalid else .ok { s with charIdx := s.charIdx + 1 }

def Scan.closingQuote (s : Scan) : FidResult :=
  -- `LOGE(FPTAG "fid string too short:%s",*id_str)` passes the first character, not the string.
  if s.charIdx ≤ 2 then .undefined
  else .found (if s.sign then -Int.ofNat s.foundFid else Int.ofNat s.foundFid)

def Scan.digit (s : Scan) (num : Nat) : Except FidResult Scan :=
  if s.foundFid * 10 + num < 2 ^ 31 then { s with foundFid := s.foundFid * 10 + num }.next
  else .error .undefined

def Scan.read (s : Scan) (curChar : UInt8) : Except FidResult Scan :=
  if curChar = quote then
    if s.firstQuoteFound then .error s.closingQuote else { s with firstQuoteFound := true }.next
  else if curChar = minus then
    if s.charIdx = 1 then { s with sign := true }.next else .error .invalid
  else if 48 ≤ curChar.toNat ∧ curChar.toNat ≤ 57 then s.digit (curChar.toNat - 48)
  else .error .invalid

def Scan.run (s : Scan) : List UInt8 → FidResult
  | [] => .invalid
  | curChar :: strParse =>
    match s.read curChar with
    | .error result => result
    | .ok s => s.run strParse

def getFidFromLine (idStr : List UInt8) : FidResult :=
  Scan.run ⟨0, false, false, 0⟩ (idStr.drop fidTag.length)

structure Reader where
  fpArray : Nat → Int
  realFidCnt : Nat

def Reader.store (r : Reader) (fid : Int) : Reader :=
  ⟨Function.update r.fpArray r.realFidCnt fid, r.realFidCnt + 1⟩

def readLines (fpArraySize : Int) (r : Reader) : List (List UInt8) → Option Reader
  | [] => some r
  | lineBuf :: rest =>
    match strstr fidTag (cString lineBuf) with
    | none => readLines fpArraySize r rest
    | some fidStr =>
      match getFidFromLine fidStr with
      | .found fid =>
        if (r.store fid).realFidCnt ≥ fpArraySize then some (r.store fid)
        else readLines fpArraySize (r.store fid) rest
      | .invalid => some r
      | .undefined => none

structure Listing where
  result : Int
  fpArray : Nat → Int
  fpArraySize : Int

/-- `xmlFile` is `none` if the file cannot be opened. -/
def getFpListFromXml (xmlFile : Option (List UInt8)) (fpArray : Nat → Int) (fpArraySize : Int) :
    Option Listing :=
  if fpArraySize ≤ 0 then some ⟨-einval, fpArray, fpArraySize⟩
  else
    match xmlFile with
    | none => some ⟨-enoent, fpArray, fpArraySize⟩
    | some text =>
      -- The `result` that the loop sets to `-EINVAL` is declared in the loop, and is not this one.
      (readLines fpArraySize ⟨fpArray, 0⟩ (lines (userListFileMaxLine - 1) text)).map fun r =>
        ⟨0, r.fpArray, r.realFidCnt⟩

/-! ### The writer -/

/-- The line has no id. -/
def Plain (line : List UInt8) : Prop := ¬fidTag <:+: line

structure Serializer where
  /-- What stands at the end of a line, before the newline. -/
  lineEnd : List UInt8
  lineEnd_return : ∀ b ∈ lineEnd, b = 13
  declaration : List UInt8
  declaration_line : newline ∉ declaration
  declaration_plain : Plain (declaration ++ (lineEnd ++ [newline]))
  /-- The number of spaces before a tag at that depth. -/
  indent : Nat → Nat
  /-- The value of an attribute with its quotes.  A string that is no XML throws. -/
  quoted : String → Option (List UInt8)
  quoted_number : ∀ n : Int, quoted n.repr = some (quote :: ascii n.repr ++ [quote])
  quoted_line : ∀ {value text}, quoted value = some text → newline ∉ text

namespace Serializer

variable (w : Serializer)

def spaces (depth : Nat) : List UInt8 := List.replicate (w.indent depth) 32

def writeAttribute (name : String) (value : String) : Option (List UInt8) :=
  (w.quoted value).map (ascii (" " ++ name ++ "=") ++ ·)

def element (fp : StoredFingerprint) : Option (List UInt8) := do
  let fingerId ← w.writeAttribute "fingerId" fp.fingerId.repr
  let name ← fp.name
  let name ← w.writeAttribute "name" name
  let groupId ← w.writeAttribute "groupId" fp.groupId.repr
  let deviceId ← w.writeAttribute "deviceId" fp.deviceId.repr
  some (w.spaces 1 ++ ascii "<fingerprint" ++ fingerId ++ name ++ groupId ++ deviceId ++
    ascii " />")

def openingLines (elements : List (List UInt8)) : List (List UInt8) :=
  if elements = [] then [w.declaration]
  else w.declaration :: (w.spaces 0 ++ ascii "<fingerprints>") :: elements

def lastLine (elements : List (List UInt8)) : List UInt8 :=
  w.spaces 0 ++ if elements = [] then ascii "<fingerprints />" else ascii "</fingerprints>"

def doWriteState (fingerprints : List StoredFingerprint) : Option (List UInt8) := do
  let elements ← fingerprints.mapM w.element
  some ((w.lineEnd ++ [newline]).intercalate (w.openingLines elements ++ [w.lastLine elements]))

end Serializer

/-- A file that was written, with 32-bit ids and lines that the reader has room for. -/
structure WrittenFile where
  serializer : Serializer
  fingerprints : List StoredFingerprint
  bytes : List UInt8
  written : serializer.doWriteState fingerprints = some bytes
  ranged : ∀ fp ∈ fingerprints, -2 ^ 31 ≤ fp.fingerId ∧ fp.fingerId < 2 ^ 31
  short : ∀ elements, fingerprints.mapM serializer.element = some elements →
    ∀ line ∈ serializer.openingLines elements ++ [serializer.lastLine elements],
      (line ++ serializer.lineEnd).length < 1023

def WrittenFile.fids (f : WrittenFile) : List Int := f.fingerprints.map StoredFingerprint.fingerId

def Listing.fids (l : Listing) : List Int := (List.range l.fpArraySize.toNat).map l.fpArray

/-- The caller gets the ids of the file or an error, and only the array changes. -/
def Agrees (f : WrittenFile) (n : Nat) : Prop :=
  ∀ fpArray, ∃ l, getFpListFromXml (some f.bytes) fpArray n = some l ∧
    (if f.fids.length ≤ n then l.result = 0 ∧ l.fids = f.fids else l.result < 0) ∧
    ∀ i, n ≤ i → l.fpArray i = fpArray i

/-- One digit alone is refused. -/
def Readable (fid : Int) : Prop := ¬(0 ≤ fid ∧ fid ≤ 9) ∧ fid ≠ -2 ^ 31

instance decidableReadable (fid : Int) : Decidable (Readable fid) :=
  inferInstanceAs (Decidable (_ ∧ _))

/-! ### One id -/

variable {c : Char} {n i : Nat} {s : Scan} {r : Reader} {text : List UInt8} {fpArray : Nat → Int}
  {l : Listing} {elements : List (List UInt8)}

theorem isDigit_bounds (h : c.isDigit = true) : 48 ≤ c.toNat ∧ c.toNat ≤ 57 := by
  simp only [Char.isDigit, ge_iff_le, Bool.and_eq_true, decide_eq_true_eq] at h
  exact h

theorem toNat_toUInt8 (h : c.toNat ≤ 57) : c.toUInt8.toNat = c.toNat := by
  change c.val.toUInt8.toNat = c.val.toNat
  exact Nat.mod_eq_of_lt (Nat.lt_of_le_of_lt h (by decide))

theorem ascii_ofNat_repr (n : Nat) :
    ascii (Int.ofNat n).repr = (Nat.toDigits 10 n).map Char.toUInt8 :=
  congrArg (List.map Char.toUInt8) Nat.toList_repr

theorem ascii_negSucc_repr (n : Nat) :
    ascii (Int.negSucc n).repr = minus :: (Nat.toDigits 10 (n + 1)).map Char.toUInt8 := by
  have hlist : (Int.negSucc n).repr.toList = '-' :: Nat.toDigits 10 (n + 1) := by
    change ("-" ++ (n + 1).repr).toList = _
    rw [String.toList_append, Nat.toList_repr]
    rfl
  rw [ascii, hlist]
  rfl

theorem digit_of_mem (h : c ∈ Nat.toDigits 10 n) : c.isDigit = true :=
  Nat.isDigit_of_mem_toDigits (by decide) (by decide) h

theorem minus_le_of_mem_repr {n : Int} {b : UInt8} (h : b ∈ ascii n.repr) : 45 ≤ b.toNat := by
  have hdigits : ∀ {m : Nat}, b ∈ (Nat.toDigits 10 m).map Char.toUInt8 → 45 ≤ b.toNat := by
    intro m hmem
    obtain ⟨c, hc, rfl⟩ := List.mem_map.mp hmem
    obtain ⟨hlow, hhigh⟩ := isDigit_bounds (digit_of_mem hc)
    rw [toNat_toUInt8 hhigh]
    omega
  cases n with
  | ofNat n =>
    rw [ascii_ofNat_repr] at h
    exact hdigits h
  | negSucc n =>
    rw [ascii_negSucc_repr, List.mem_cons] at h
    rcases h with rfl | h
    · decide
    · exact hdigits h

theorem le_ofDigitChars (digits : List Char) (n : Nat) : n ≤ Nat.ofDigitChars 10 digits n := by
  induction digits generalizing n with
  | nil => exact Nat.le_refl n
  | cons c digits ih =>
    rw [Nat.ofDigitChars_cons]
    refine Nat.le_trans ?_ (ih _)
    omega

theorem Scan.read_digit (s : Scan) (h : c.isDigit = true) :
    s.read c.toUInt8 = s.digit (c.toNat - 48) := by
  obtain ⟨hlow, hhigh⟩ := isDigit_bounds h
  have hnat := toNat_toUInt8 hhigh
  have hne : ∀ b : UInt8, b.toNat < 48 → c.toUInt8 ≠ b := by
    rintro b hb rfl
    omega
  rw [Scan.read, if_neg (hne quote (by decide)), if_neg (hne minus (by decide)), hnat,
    if_pos ⟨hlow, hhigh⟩]

theorem Scan.run_digits {digits : List Char} (hdigits : ∀ c ∈ digits, c.isDigit = true)
    (hroom : s.charIdx + digits.length ≤ 15)
    (hfits : Nat.ofDigitChars 10 digits s.foundFid < 2 ^ 31) (rest : List UInt8) :
    s.run (digits.map Char.toUInt8 ++ rest) =
      Scan.run { s with
        charIdx := s.charIdx + digits.length
        foundFid := Nat.ofDigitChars 10 digits s.foundFid } rest := by
  induction digits generalizing s with
  | nil => rfl
  | cons c digits ih =>
    rw [List.length_cons] at hroom
    have hvalue : s.foundFid * 10 + (c.toNat - 48) < 2 ^ 31 := by
      have hle := le_ofDigitChars digits (10 * s.foundFid + (c.toNat - '0'.toNat))
      rw [Nat.mul_comm]
      exact Nat.lt_of_le_of_lt hle hfits
    have hread : s.read c.toUInt8 = .ok { s with
        charIdx := s.charIdx + 1
        foundFid := s.foundFid * 10 + (c.toNat - 48) } := by
      rw [Scan.read_digit s (hdigits c List.mem_cons_self), Scan.digit, if_pos hvalue, Scan.next,
        if_neg (by dsimp only; omega)]
    rw [List.map_cons, List.cons_append, Scan.run, hread]
    dsimp only
    rw [ih (fun d hd => hdigits d (List.mem_cons_of_mem c hd)) (by dsimp only; omega)
      (by rw [Nat.mul_comm]; exact hfits)]
    congr 2
    · dsimp only
      rw [List.length_cons]
      omega
    · rw [Nat.mul_comm]
      rfl

theorem Scan.run_number (hquote : s.firstQuoteFound = true) (hzero : s.foundFid = 0)
    (hidx : s.charIdx ≤ 2) (hn : n < 2 ^ 31) (rest : List UInt8) :
    s.run ((Nat.toDigits 10 n).map Char.toUInt8 ++ quote :: rest) =
      Scan.closingQuote { s with
        charIdx := s.charIdx + (Nat.toDigits 10 n).length
        foundFid := n } := by
  have hlength : (Nat.toDigits 10 n).length ≤ 10 := by
    rw [Nat.length_toDigits_le_iff (by decide) (by decide)]
    exact Nat.lt_trans hn (by decide)
  have hvalue : Nat.ofDigitChars 10 (Nat.toDigits 10 n) s.foundFid = n := by
    rw [hzero, Nat.ofDigitChars_ten_toDigits]
  rw [Scan.run_digits (fun _ => digit_of_mem) (by omega) (by rw [hvalue]; exact hn), hvalue]
  simp [Scan.run, Scan.read, hquote]

def written (fid : Int) : FidResult := if Readable fid then .found fid else .undefined

theorem written_of_digit (hn : n < 10) : written (Int.ofNat n) = .undefined := by
  rw [written, if_neg]
  rintro ⟨hlong, -⟩
  exact hlong ⟨Int.natCast_nonneg n, Int.ofNat_le.mpr (Nat.le_of_lt_succ hn)⟩

theorem run_written_ofNat (hn : n < 2 ^ 31) (rest : List UInt8) :
    Scan.run ⟨1, true, false, 0⟩ (ascii (Int.ofNat n).repr ++ quote :: rest) =
      written (Int.ofNat n) := by
  have hone := @Nat.length_toDigits_le_iff 10 n 1 (by decide) (by decide)
  rw [ascii_ofNat_repr, Scan.run_number rfl rfl (by decide) hn, Scan.closingQuote]
  dsimp only
  by_cases hshort : n < 10
  · rw [written_of_digit hshort, if_pos (by omega)]
  · have hreadable : Readable (Int.ofNat n) := by
      rw [Readable, Int.ofNat_eq_natCast]
      omega
    rw [written, if_pos hreadable, if_neg (by omega)]
    rfl

theorem run_written_negSucc (hn : n < 2 ^ 31) (rest : List UInt8) :
    Scan.run ⟨1, true, false, 0⟩ (ascii (Int.negSucc n).repr ++ quote :: rest) =
      written (Int.negSucc n) := by
  by_cases hlowest : n = 2147483647
  · subst hlowest
    rfl
  have hreadable : Readable (Int.negSucc n) := by
    rw [Readable]
    omega
  have hpos := @Nat.length_toDigits_pos 10 (n + 1)
  rw [ascii_negSucc_repr, written, if_pos hreadable]
  change Scan.run ⟨2, true, true, 0⟩ (_ ++ quote :: rest) = _
  rw [Scan.run_number rfl rfl (by decide) (by omega), Scan.closingQuote,
    if_neg (by dsimp only; omega)]
  rfl

theorem run_written {fid : Int} (hlow : -2 ^ 31 ≤ fid) (hhigh : fid < 2 ^ 31) (rest : List UInt8) :
    Scan.run ⟨0, false, false, 0⟩ (quote :: ascii fid.repr ++ quote :: rest) = written fid := by
  cases fid with
  | ofNat n =>
    rw [Int.ofNat_eq_natCast] at hhigh
    exact run_written_ofNat (by omega) rest
  | negSucc n =>
    exact run_written_negSucc (by omega) rest

/-! ### The lines of the file -/

theorem readLines_append {plain : List (List UInt8)} (h : ∀ line ∈ plain, Plain line) (size : Int)
    (r : Reader) (rest : List (List UInt8)) :
    readLines size r (plain ++ rest) = readLines size r rest := by
  induction plain with
  | nil => rfl
  | cons line plain ih =>
    have hnone : strstr fidTag (cString line) = none := by
      refine strstr_eq_none fun hwithin => h line List.mem_cons_self (hwithin.trans ?_)
      exact (List.takeWhile_prefix _).isInfix
    rw [List.cons_append, readLines, hnone]
    exact ih fun line hline => h line (List.mem_cons_of_mem _ hline)

section

variable {w : Serializer} {fp : StoredFingerprint} {element : List UInt8} {b : UInt8}
  {fps : List StoredFingerprint} {elements : List (List UInt8)}

theorem writeAttribute_line {name value : String} {text : List UInt8}
    (hname : newline ∉ ascii (" " ++ name ++ "=")) (h : w.writeAttribute name value = some text) :
    newline ∉ text := by
  obtain ⟨quoted, hquoted, rfl⟩ := Option.map_eq_some_iff.mp h
  rw [List.mem_append, not_or]
  exact ⟨hname, w.quoted_line hquoted⟩

theorem space_of_mem {depth : Nat} (h : b ∈ w.spaces depth) : b = 32 :=
  List.eq_of_mem_replicate h

theorem element_eq (h : w.element fp = some element) : newline ∉ element ∧ ∃ rest, element =
      w.spaces 1 ++ (ascii "<fingerprint " ++ fidTag ++
        (quote :: ascii fp.fingerId.repr ++ quote :: rest)) := by
  simp only [Serializer.element, Option.bind_eq_bind, Option.bind_eq_some_iff] at h
  obtain ⟨fingerId, hfid, name, -, nameText, hname, groupId, hgroup, deviceId, hdev, h⟩ := h
  obtain rfl := Option.some.inj h
  constructor
  · have hspaces : newline ∉ w.spaces 1 := fun hmem => absurd (space_of_mem hmem) (by decide)
    simp only [List.mem_append, not_or]
    exact ⟨⟨⟨⟨⟨⟨hspaces, by decide⟩, writeAttribute_line (by decide) hfid⟩,
      writeAttribute_line (by decide) hname⟩, writeAttribute_line (by decide) hgroup⟩,
      writeAttribute_line (by decide) hdev⟩, by decide⟩
  · rw [Serializer.writeAttribute, w.quoted_number] at hfid
    obtain rfl := Option.some.inj hfid
    refine ⟨nameText ++ groupId ++ deviceId ++ ascii " />", ?_⟩
    have hopen : ascii "<fingerprint" ++ ascii (" " ++ "fingerId" ++ "=") =
        ascii "<fingerprint " ++ fidTag := rfl
    rw [← hopen]
    simp

theorem strstr_element (h : w.element fp = some element) (more : List UInt8) :
    ∃ rest, strstr fidTag (cString (element ++ more)) =
      some (fidTag ++ (quote :: ascii fp.fingerId.repr ++ quote :: rest)) := by
  obtain ⟨-, rest, rfl⟩ := element_eq h
  have hspaces : ∀ b ∈ w.spaces 1, b = 32 := fun b => space_of_mem
  have hzero : 0 ∉ w.spaces 1 ++ (ascii "<fingerprint " ++ fidTag ++
      (quote :: ascii fp.fingerId.repr ++ [quote])) := by
    simp only [List.mem_append, List.mem_cons, not_or]
    refine ⟨fun hmem => absurd (hspaces 0 hmem) (by decide), ⟨by decide, by decide⟩,
      ⟨by decide, fun hmem => absurd (minus_le_of_mem_repr hmem) (by decide)⟩, by decide⟩
  refine ⟨cString (rest ++ more), ?_⟩
  have hstr : cString (w.spaces 1 ++ (ascii "<fingerprint " ++ fidTag ++
      (quote :: ascii fp.fingerId.repr ++ quote :: rest)) ++ more) =
      w.spaces 1 ++ (ascii "<fingerprint " ++ fidTag ++
        (quote :: ascii fp.fingerId.repr ++ quote :: cString (rest ++ more))) := by
    have hcut := cString_append hzero (rest ++ more)
    simpa using hcut
  rw [hstr, strstr_append (by decide) fun b hb => hspaces b hb ▸ by decide]
  rfl

theorem readLines_element (h : w.element fp = some element)
    (hrange : -2 ^ 31 ≤ fp.fingerId ∧ fp.fingerId < 2 ^ 31) (more : List UInt8) (size : Int)
    (r : Reader) (rest : List (List UInt8)) : readLines size r ((element ++ more) :: rest) =
      if Readable fp.fingerId then
        if (r.store fp.fingerId).realFidCnt ≥ size then some (r.store fp.fingerId)
        else readLines size (r.store fp.fingerId) rest else none := by
  obtain ⟨tail, hfound⟩ := strstr_element h more
  have hfid : getFidFromLine (fidTag ++ (quote :: ascii fp.fingerId.repr ++ quote :: tail)) =
      written fp.fingerId := by
    exact run_written hrange.1 hrange.2 tail
  rw [readLines, hfound]
  dsimp only
  rw [hfid, written]
  by_cases hreadable : Readable fp.fingerId
  · rw [if_pos hreadable, if_pos hreadable]
  · rw [if_neg hreadable, if_neg hreadable]

theorem forall₂_elements (h : fps.mapM w.element = some elements) :
    List.Forall₂ (fun fp element => w.element fp = some element) fps elements := by
  induction fps generalizing elements with
  | nil =>
    obtain rfl := Option.some.inj h
    exact .nil
  | cons fp fps ih =>
    simp only [List.mapM_cons, Option.bind_eq_bind, Option.bind_eq_some_iff] at h
    obtain ⟨element, helem, rest, hrest, helems⟩ := h
    obtain rfl := Option.some.inj helems
    exact .cons helem (ih hrest)

theorem exists_of_mem_elements
    (h : List.Forall₂ (fun fp element => w.element fp = some element) fps elements)
    (hmem : element ∈ elements) : ∃ fp ∈ fps, w.element fp = some element := by
  induction h with
  | nil => exact absurd hmem List.not_mem_nil
  | @cons fp _ fps _ helem _ ih =>
    rcases List.mem_cons.mp hmem with rfl | hmem
    · exact ⟨fp, List.mem_cons_self, helem⟩
    · obtain ⟨fp, hfp, helem⟩ := ih hmem
      exact ⟨fp, List.mem_cons_of_mem _ hfp, helem⟩

theorem lineEnd_notMem (hb : b ≠ 13) : b ∉ w.lineEnd :=
  fun hmem => hb (w.lineEnd_return b hmem)

theorem plain_tag {tag rest : List UInt8} (h : 61 ∉ tag) (hrest : 61 ∉ rest) :
    Plain (w.spaces 0 ++ tag ++ rest) := by
  refine not_infix_of_notMem (b := 61) (by decide) ?_
  simp only [List.mem_append, not_or]
  exact ⟨⟨fun hmem => absurd (space_of_mem hmem) (by decide), h⟩, hrest⟩

theorem lastLine_plain (elements : List (List UInt8)) : Plain (w.lastLine elements) := by
  rw [← List.append_nil (w.lastLine elements)]
  unfold Serializer.lastLine
  split <;> exact plain_tag (by decide) (by simp)

theorem openingLines_line (h : ∀ e ∈ elements, newline ∉ e) :
    ∀ line ∈ w.openingLines elements, newline ∉ line ++ w.lineEnd := by
  have hend : newline ∉ w.lineEnd := lineEnd_notMem (by decide)
  have htag : newline ∉ w.spaces 0 ++ ascii "<fingerprints>" := by
    rw [List.mem_append, not_or]
    exact ⟨fun hmem => absurd (space_of_mem hmem) (by decide), by decide⟩
  have hlines : ∀ line ∈ w.openingLines elements, newline ∉ line := by
    unfold Serializer.openingLines
    split
    · simpa using w.declaration_line
    · exact List.forall_mem_cons.mpr ⟨w.declaration_line, List.forall_mem_cons.mpr ⟨htag, h⟩⟩
  intro line hmem
  rw [List.mem_append, not_or]
  exact ⟨hlines line hmem, hend⟩

end

/-! ### The array -/

def Reader.fids (r : Reader) : List Int := (List.range r.realFidCnt).map r.fpArray

theorem Reader.fids_store (r : Reader) (fid : Int) : (r.store fid).fids = r.fids ++ [fid] := by
  have hbelow : ∀ i ∈ List.range r.realFidCnt,
      Function.update r.fpArray r.realFidCnt fid i = r.fpArray i := fun i hi =>
    Function.update_of_ne (Nat.ne_of_lt (List.mem_range.mp hi)) ..
  rw [Reader.fids, Reader.store, List.range_succ, List.map_append, List.map_congr_left hbelow,
    List.map_singleton]
  dsimp only
  rw [Function.update_self]
  rfl

theorem Reader.fids_foldl (r : Reader) (fids : List Int) :
    (fids.foldl Reader.store r).fids = r.fids ++ fids := by
  induction fids generalizing r with
  | nil => simp
  | cons fid fids ih =>
    rw [List.foldl_cons, ih, Reader.fids_store, List.append_assoc]
    rfl

theorem readLines_beyond {r' : Reader} {text : List (List UInt8)} (hroom : r.realFidCnt < n)
    (h : readLines n r text = some r') (hi : n ≤ i) : r'.fpArray i = r.fpArray i := by
  induction text generalizing r with
  | nil =>
    obtain rfl := Option.some.inj h
    rfl
  | cons line rest ih =>
    have hstore : ∀ fid, (r.store fid).fpArray i = r.fpArray i := fun fid =>
      Function.update_of_ne (by omega) ..
    rw [readLines] at h
    split at h
    · exact ih hroom h
    · split at h
      · split at h
        · rw [← Option.some.inj h, hstore]
        · rw [ih (by omega) h, hstore]
      · rw [← Option.some.inj h]
      · cases h

theorem getFpListFromXml_result (hn : 0 < n) (h : getFpListFromXml (some text) fpArray n = some l) :
    l.result = 0 := by
  rw [getFpListFromXml, if_neg (by omega)] at h
  obtain ⟨r, -, rfl⟩ := Option.map_eq_some_iff.mp h
  rfl

theorem getFpListFromXml_beyond (h : getFpListFromXml (some text) fpArray n = some l) (hi : n ≤ i) :
    l.fpArray i = fpArray i := by
  by_cases hn : n = 0
  · rw [getFpListFromXml, if_pos (by omega)] at h
    rw [← Option.some.inj h]
  · rw [getFpListFromXml, if_neg (by omega)] at h
    obtain ⟨r, hr, rfl⟩ := Option.map_eq_some_iff.mp h
    exact readLines_beyond (Nat.pos_of_ne_zero hn) hr hi

/-! ### The whole file -/

theorem readLines_elements {w : Serializer} {fps : List StoredFingerprint}
    {after : List (List UInt8)} (more : List UInt8)
    (helems : List.Forall₂ (fun fp element => w.element fp = some element) fps elements)
    (hrange : ∀ fp ∈ fps, -2 ^ 31 ≤ fp.fingerId ∧ fp.fingerId < 2 ^ 31)
    (hplain : ∀ line ∈ after, Plain line) (hroom : r.realFidCnt < n)
    (hfits : r.realFidCnt + fps.length ≤ n) : readLines n r (elements.map (· ++ more) ++ after) =
      if ∀ fp ∈ fps, Readable fp.fingerId then
        some ((fps.map StoredFingerprint.fingerId).foldl Reader.store r) else none := by
  induction helems generalizing r with
  | nil =>
    have hread := readLines_append hplain n r []
    rw [List.append_nil] at hread
    rw [List.map_nil, List.nil_append, hread]
    rfl
  | @cons fp element fps elements helem helems ih =>
    rw [List.map_cons, List.cons_append, readLines_element helem (hrange fp List.mem_cons_self)]
    rw [List.length_cons] at hfits
    simp only [List.forall_mem_cons]
    by_cases hreadable : Readable fp.fingerId
    · simp only [hreadable, if_true, true_and]
      by_cases hfull : (r.store fp.fingerId).realFidCnt ≥ (n : Int)
      · -- The array is full, so this was the last element.
        have hlast : fps = [] := by
          have hcount : (r.store fp.fingerId).realFidCnt = r.realFidCnt + 1 := rfl
          exact List.eq_nil_of_length_eq_zero (by omega)
        subst hlast
        rw [if_pos hfull]
        rfl
      · have hcount : (r.store fp.fingerId).realFidCnt = r.realFidCnt + 1 := rfl
        rw [if_neg hfull, ih (fun fp hfp => hrange fp (List.mem_cons_of_mem _ hfp)) (by omega)
          (by omega)]
        rfl
    · rw [if_neg hreadable, if_neg fun h => hreadable h.1]

theorem readLines_document (f : WrittenFile)
    (hmapM : f.fingerprints.mapM f.serializer.element = some elements) (hn : 0 < n)
    (hfits : f.fids.length ≤ n) (fpArray : Nat → Int) :
    readLines n ⟨fpArray, 0⟩ (lines (userListFileMaxLine - 1)
        ((f.serializer.lineEnd ++ [newline]).intercalate
          (f.serializer.openingLines elements ++ [f.serializer.lastLine elements]))) =
      if ∀ fp ∈ f.fingerprints, Readable fp.fingerId then
        some (f.fids.foldl Reader.store ⟨fpArray, 0⟩) else none := by
  have helems := forall₂_elements hmapM
  have hline : ∀ e ∈ elements, newline ∉ e := fun e he => by
    obtain ⟨fp, -, helem⟩ := exists_of_mem_elements helems he
    exact (element_eq helem).1
  have hcount : 0 + f.fingerprints.length ≤ n := by simpa [WrittenFile.fids] using hfits
  have hshort := f.short elements hmapM
  have hlast : newline ∉ f.serializer.lastLine elements := by
    rw [Serializer.lastLine, List.mem_append, not_or]
    exact ⟨fun hmem => absurd (space_of_mem hmem) (by decide), by split <;> decide⟩
  have hroom := hshort (f.serializer.lastLine elements) (by simp)
  rw [List.length_append] at hroom
  rw [show userListFileMaxLine - 1 = 1023 from rfl, lines_intercalate (openingLines_line hline)
    (fun line hmem => hshort line (List.mem_append_left _ hmem)) hlast
    (Nat.lt_of_le_of_lt (Nat.le_add_right _ _) hroom)
    (by unfold Serializer.lastLine; split <;> simp [ascii])]
  have hplain : ∀ line ∈ [f.serializer.lastLine elements], Plain line := by
    simpa using lastLine_plain elements
  have hread := readLines_elements (f.serializer.lineEnd ++ [newline]) helems f.ranged hplain
    (r := ⟨fpArray, 0⟩) hn hcount
  rw [WrittenFile.fids, ← hread]
  unfold Serializer.openingLines
  split
  · next hnil =>
    subst hnil
    exact readLines_append (List.forall_mem_singleton.mpr f.serializer.declaration_plain) n _ _
  · have hend : 61 ∉ f.serializer.lineEnd ++ [newline] := by
      rw [List.mem_append, not_or]
      exact ⟨lineEnd_notMem (by decide), by decide⟩
    exact readLines_append (List.forall_mem_cons.mpr ⟨f.serializer.declaration_plain,
      List.forall_mem_singleton.mpr (plain_tag (by decide) hend)⟩) n _ _

theorem getFpListFromXml_written (f : WrittenFile) (hn : 0 < n) (hfits : f.fids.length ≤ n)
    (fpArray : Nat → Int) : getFpListFromXml (some f.bytes) fpArray n =
      if ∀ fp ∈ f.fingerprints, Readable fp.fingerId then
        some ⟨0, (f.fids.foldl Reader.store ⟨fpArray, 0⟩).fpArray,
          (f.fids.foldl Reader.store ⟨fpArray, 0⟩).realFidCnt⟩ else none := by
  obtain ⟨elements, hmapM, hbytes⟩ := Option.bind_eq_some_iff.mp f.written
  have hread := readLines_document f hmapM hn hfits fpArray
  rw [getFpListFromXml, if_neg (by omega), ← Option.some.inj hbytes, hread]
  split <;> rfl

theorem agrees_iff_of_pos (f : WrittenFile) (hn : 0 < n) :
    Agrees f n ↔ f.fids.length ≤ n ∧ ∀ fid ∈ f.fids, Readable fid := by
  rw [show (∀ fid ∈ f.fids, Readable fid) ↔ _ from List.forall_mem_map]
  constructor
  · intro h
    obtain ⟨l, hl, hres, -⟩ := h fun _ => 0
    by_cases hfits : f.fids.length ≤ n
    · refine ⟨hfits, ?_⟩
      by_contra hreadable
      rw [getFpListFromXml_written f hn hfits, if_neg hreadable] at hl
      exact absurd hl (by simp)
    · rw [if_neg hfits, getFpListFromXml_result hn hl] at hres
      exact absurd hres (by decide)
  · rintro ⟨hfits, hreadable⟩ fpArray
    have hread := getFpListFromXml_written f hn hfits fpArray
    rw [if_pos hreadable] at hread
    refine ⟨_, hread, ?_, fun i hi => getFpListFromXml_beyond hread hi⟩
    rw [if_pos hfits]
    exact ⟨rfl, Reader.fids_foldl ⟨fpArray, 0⟩ f.fids⟩

theorem xmlFingers_iff (f : WrittenFile) (n : Nat) : Agrees f n ↔
      if n = 0 then f.fids ≠ [] else f.fids.length ≤ n ∧ ∀ fid ∈ f.fids, Readable fid := by
  by_cases hn : n = 0
  · subst hn
    constructor
    · intro h hnil
      obtain ⟨l, hl, hres, -⟩ := h fun _ => 0
      rw [hnil] at hres
      rw [← Option.some.inj hl] at hres
      exact absurd hres.1 (by decide)
    · intro hsome fpArray
      have hmany : ¬f.fids.length ≤ 0 := by simpa using hsome
      refine ⟨_, rfl, ?_, fun i _ => rfl⟩
      rw [if_neg hmany]
      exact (by decide : -einval < 0)
  · rw [if_neg hn]
    exact agrees_iff_of_pos f (Nat.pos_of_ne_zero hn)

/-! ### A file with two fingers -/

def sampleSerializer : Serializer where
  declaration := ascii "<?xml version='1.0' encoding='utf-8' standalone='yes' ?>"
  declaration_plain := by unfold Plain; decide +kernel
  lineEnd := [13]
  lineEnd_return := fun _ => List.mem_singleton.mp
  declaration_line := by decide +kernel
  indent := fun depth => 2 * depth
  quoted := fun value =>
    if newline ∈ ascii value then none else some (quote :: ascii value ++ [quote])
  quoted_number := fun n =>
    if_neg fun hmem => absurd (minus_le_of_mem_repr hmem) (by decide)
  quoted_line := by
    intro value text h
    by_cases hmem : newline ∈ ascii value
    · simp [hmem] at h
    · rw [if_neg hmem] at h
      rw [← Option.some.inj h, List.mem_append, List.mem_cons, not_or, not_or]
      exact ⟨⟨by decide, hmem⟩, by decide⟩

def samplePrints : List StoredFingerprint :=
  [⟨some "Finger 1", 0, 1234567, 0⟩, ⟨some "Finger 2", 0, -7654321, 0⟩]

def twoFingers : WrittenFile where
  serializer := sampleSerializer
  fingerprints := samplePrints
  bytes := (sampleSerializer.doWriteState samplePrints).getD []
  written := by decide +kernel
  ranged := by decide +kernel
  short := by
    have hlength : ∀ line ∈ sampleSerializer.openingLines
          ((samplePrints.mapM sampleSerializer.element).getD []) ++
        [sampleSerializer.lastLine ((samplePrints.mapM sampleSerializer.element).getD [])],
        (line ++ sampleSerializer.lineEnd).length < 1023 := by
      decide +kernel
    intro elements helems
    rwa [helems] at hlength

theorem not_agrees_twoFingers : ¬Agrees twoFingers 1 := by
  intro h
  obtain ⟨l, hl, hres, -⟩ := h fun _ => 0
  rw [if_neg (by decide), getFpListFromXml_result Nat.one_pos hl] at hres
  exact absurd hres (by decide)

end WikoPlatform.Chipone.XmlFingers
