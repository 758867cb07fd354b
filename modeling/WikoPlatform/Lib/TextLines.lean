import Mathlib.Data.List.Infix
import WikoPlatform.Lib.CString

/-! Texts that are read line by line with `fgets` and searched with `strstr`. -/

namespace TextLines

def newline : UInt8 := 10

def ascii (s : String) : List UInt8 := s.toList.map Char.toUInt8

/-- What `fgets` takes: up to a newline, and at most `room` bytes. -/
def takeLine : Nat → List UInt8 → List UInt8
  | 0, _ => []
  | _, [] => []
  | room + 1, b :: text => if b = newline then [b] else b :: takeLine room text

theorem takeLine_ne_nil {room : Nat} {text : List UInt8} (hroom : 0 < room) (htext : text ≠ []) :
    takeLine room text ≠ [] := by
  obtain ⟨room, rfl⟩ := Nat.exists_eq_add_one.mpr hroom
  cases text with
  | nil => exact absurd rfl htext
  | cons b text =>
    rw [takeLine]
    split <;> simp

/-- One `fgets` after the other until the end of the text. -/
def lines (room : Nat) (text : List UInt8) : List (List UInt8) :=
  if 0 < room ∧ text ≠ [] then
    takeLine room text :: lines room (text.drop (takeLine room text).length)
  else []
termination_by text.length
decreasing_by
  rename_i h
  have hline := List.length_pos_iff.mpr (takeLine_ne_nil h.1 h.2)
  have htext := List.length_pos_iff.mpr h.2
  rw [List.length_drop]
  omega

/-- The text from the first place on where `needle` stands. -/
def strstr (needle : List UInt8) : List UInt8 → Option (List UInt8)
  | [] => if needle = [] then some [] else none
  | b :: text => if needle.isPrefixOf (b :: text) then some (b :: text) else strstr needle text

section

variable {room : Nat} {text line rest needle : List UInt8}

theorem takeLine_append (h : newline ∉ line) (hlength : line.length < room) (rest : List UInt8) :
    takeLine room (line ++ newline :: rest) = line ++ [newline] := by
  induction line generalizing room with
  | nil =>
    obtain ⟨room, rfl⟩ := Nat.exists_eq_add_one.mpr hlength
    rfl
  | cons b line ih =>
    obtain ⟨room, rfl⟩ := Nat.exists_eq_add_one.mpr (Nat.zero_lt_of_lt hlength)
    rw [List.mem_cons, not_or] at h
    rw [List.cons_append, takeLine, if_neg (Ne.symm h.1),
      ih h.2 (Nat.lt_of_succ_lt_succ hlength), List.cons_append]

theorem takeLine_eq (h : newline ∉ line) (hlength : line.length < room) :
    takeLine room line = line := by
  induction line generalizing room with
  | nil => cases room <;> rfl
  | cons b line ih =>
    obtain ⟨room, rfl⟩ := Nat.exists_eq_add_one.mpr (Nat.zero_lt_of_lt hlength)
    rw [List.mem_cons, not_or] at h
    rw [takeLine, if_neg (Ne.symm h.1), ih h.2 (Nat.lt_of_succ_lt_succ hlength)]

theorem lines_eq (hroom : 0 < room) (htext : text ≠ []) : lines room text =
      takeLine room text :: lines room (text.drop (takeLine room text).length) := by
  rw [lines, if_pos ⟨hroom, htext⟩]

theorem lines_append (h : newline ∉ line) (hlength : line.length < room) (rest : List UInt8) :
    lines room (line ++ newline :: rest) = (line ++ [newline]) :: lines room rest := by
  rw [lines_eq (Nat.zero_lt_of_lt hlength) (by simp), takeLine_append h hlength]
  have hdrop : (line ++ newline :: rest).drop (line ++ [newline]).length = rest := by
    rw [List.append_cons line newline rest]
    exact List.drop_left
  rw [hdrop]

theorem lines_intercalate {lineEnd last : List UInt8} {texts : List (List UInt8)}
    (hline : ∀ text ∈ texts, newline ∉ text ++ lineEnd)
    (hshort : ∀ text ∈ texts, (text ++ lineEnd).length < room) (hlast : newline ∉ last)
    (hroom : last.length < room) (hne : last ≠ []) :
    lines room ((lineEnd ++ [newline]).intercalate (texts ++ [last])) =
      texts.map (· ++ (lineEnd ++ [newline])) ++ [last] := by
  induction texts with
  | nil =>
    rw [List.nil_append, List.intercalate_singleton, lines_eq (Nat.zero_lt_of_lt hroom) hne,
      takeLine_eq hlast hroom, lines, if_neg (by simp)]
    rfl
  | cons text texts ih =>
    have hrest := ih (fun t ht => hline t (List.mem_cons_of_mem _ ht))
      fun t ht => hshort t (List.mem_cons_of_mem _ ht)
    have hread := lines_append (hline text List.mem_cons_self) (hshort text List.mem_cons_self)
      ((lineEnd ++ [newline]).intercalate (texts ++ [last]))
    rw [List.cons_append, List.intercalate_cons_of_ne_nil (by simp)]
    rw [hrest] at hread
    simpa using hread

theorem strstr_eq_none (h : ¬needle <:+: text) : strstr needle text = none := by
  induction text with
  | nil =>
    refine if_neg ?_
    rintro rfl
    exact h ⟨[], [], rfl⟩
  | cons b text ih =>
    have hhere : ¬needle.isPrefixOf (b :: text) = true := by
      rw [ List.isPrefixOf_iff_prefix]
      exact fun hstarts => h hstarts.isInfix
    rw [strstr, if_neg hhere]
    exact ih fun hwithin => h (hwithin.trans (List.suffix_cons b text).isInfix)

theorem strstr_append (hneedle : needle ≠ []) (h : ∀ b ∈ line, b ∉ needle) :
    strstr needle (line ++ text) = strstr needle text := by
  induction line with
  | nil => rfl
  | cons b line ih =>
    obtain ⟨c, needle, rfl⟩ := List.exists_cons_of_ne_nil hneedle
    have hb : c ≠ b := fun hcb => h b List.mem_cons_self (hcb ▸ List.mem_cons_self)
    rw [List.cons_append, strstr, if_neg (by simp [List.isPrefixOf, hb])]
    exact ih fun d hd => h d (List.mem_cons_of_mem b hd)

theorem not_infix_of_notMem {b : UInt8} (hneedle : b ∈ needle) (h : b ∉ text) : ¬needle <:+: text :=
  fun hwithin => h (hwithin.subset hneedle)

end

end TextLines
