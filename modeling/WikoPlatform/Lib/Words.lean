import Mathlib.Data.List.Basic
import Mathlib.Data.Nat.ModEq
import Mathlib.Data.UInt

/-! Words in memory: the little-endian bytes of fixed-width integers, and the sum of the 16-bit
words of a byte string. -/

namespace Words

/-- The 16-bit word that two bytes hold, the low byte first. -/
def word (lo hi : UInt8) : Nat := lo.toNat + 256 * hi.toNat

theorem word_lt (lo hi : UInt8) : word lo hi < 65536 := by
  have := lo.toNat_lt
  have := hi.toNat_lt
  unfold word
  omega

/-- Byte `k` of `n`, counted from the low end. -/
def byte (n k : Nat) : UInt8 := UInt8.ofNat (n / 256 ^ k)

theorem byte_toNat (n k : Nat) : (byte n k).toNat = n / 256 ^ k % 256 := by
  simp [byte]

def le16 (x : UInt16) : List UInt8 := [byte x.toNat 0, byte x.toNat 1]

def le32 (x : UInt32) : List UInt8 :=
  [byte x.toNat 0, byte x.toNat 1, byte x.toNat 2, byte x.toNat 3]

def get16 (bytes : List UInt8) (i : Nat) : UInt16 :=
  UInt16.ofNat (word (bytes.getD i 0) (bytes.getD (i + 1) 0))

def get32 (bytes : List UInt8) (i : Nat) : UInt32 :=
  UInt32.ofNat (word (bytes.getD i 0) (bytes.getD (i + 1) 0) +
    65536 * word (bytes.getD (i + 2) 0) (bytes.getD (i + 3) 0))

variable {bytes : List UInt8} {i n d a b j : Nat} {x : UInt8}

theorem get16_of_bytes {x : UInt16} (h0 : bytes.getD i 0 = byte x.toNat 0)
    (h1 : bytes.getD (i + 1) 0 = byte x.toNat 1) : get16 bytes i = x := by
  have hx := x.toNat_lt
  apply UInt16.toNat_inj.mp
  rw [get16, h0, h1, UInt16.toNat_ofNat', word, byte_toNat, byte_toNat]
  omega

theorem get32_of_bytes {x : UInt32} (h0 : bytes.getD i 0 = byte x.toNat 0)
    (h1 : bytes.getD (i + 1) 0 = byte x.toNat 1) (h2 : bytes.getD (i + 2) 0 = byte x.toNat 2)
    (h3 : bytes.getD (i + 3) 0 = byte x.toNat 3) : get32 bytes i = x := by
  have hx := x.toNat_lt
  apply UInt32.toNat_inj.mp
  rw [get32, h0, h1, h2, h3, UInt32.toNat_ofNat', word, word, byte_toNat, byte_toNat, byte_toNat,
    byte_toNat]
  omega

theorem get32_le32_append (x : UInt32) (rest : List UInt8) : get32 (le32 x ++ rest) 0 = x :=
  get32_of_bytes rfl rfl rfl rfl

theorem getD_append_right (front rest : List UInt8) (i : Nat) :
    (front ++ rest).getD (front.length + i) 0 = rest.getD i 0 := by
  rw [List.getD_eq_getElem?_getD, List.getElem?_append_right (Nat.le_add_right _ _),
    Nat.add_sub_cancel_left, ← List.getD_eq_getElem?_getD]

theorem get32_append_right (front rest : List UInt8) (i : Nat) :
    get32 (front ++ rest) (front.length + i) = get32 rest i := by
  simp only [get32, Nat.add_assoc, getD_append_right]

@[simp] theorem length_le16 (x : UInt16) : (le16 x).length = 2 := rfl

@[simp] theorem length_le32 (x : UInt32) : (le32 x).length = 4 := rfl

theorem get32_field (front : List UInt8) (x : UInt32) (rest : List UInt8) :
    get32 (front ++ (le32 x ++ rest)) front.length = x :=
  (get32_append_right front (le32 x ++ rest) 0).trans (get32_le32_append x rest)

theorem length_flatMap_le32 (ws : List UInt32) : (ws.flatMap le32).length = 4 * ws.length := by
  induction ws with
  | nil => rfl
  | cons w ws ih =>
    rw [List.flatMap_cons, List.length_append, ih, List.length_cons]
    show 4 + 4 * ws.length = _
    omega

theorem get32_flatMap_le32 {ws : List UInt32} (h : i < ws.length) :
    get32 (ws.flatMap le32) (4 * i) = ws[i] := by
  induction ws generalizing i with
  | nil => simp at h
  | cons w ws ih =>
    rw [List.flatMap_cons]
    cases i with
    | zero => exact get32_le32_append w _
    | succ i =>
      have hnext : 4 * (i + 1) = (le32 w).length + 4 * i := Nat.mul_succ 4 i ▸ Nat.add_comm _ _
      exact ih (Nat.lt_of_succ_lt_succ h)

theorem byte_get16 (bytes : List UInt8) (i : Nat) :
    le16 (get16 bytes i) = [bytes.getD i 0, bytes.getD (i + 1) 0] := by
  have h0 := (bytes.getD i 0).toNat_lt
  have h1 := (bytes.getD (i + 1) 0).toNat_lt
  simp only [le16, get16, UInt16.toNat_ofNat', List.cons.injEq, and_true, ← UInt8.toNat_inj,
    byte_toNat, word]
  omega

theorem byte_get32 (bytes : List UInt8) (i : Nat) :
    le32 (get32 bytes i) = [bytes.getD i 0, bytes.getD (i + 1) 0, bytes.getD (i + 2) 0,
      bytes.getD (i + 3) 0] := by
  have h0 := (bytes.getD i 0).toNat_lt
  have h1 := (bytes.getD (i + 1) 0).toNat_lt
  have h2 := (bytes.getD (i + 2) 0).toNat_lt
  have h3 := (bytes.getD (i + 3) 0).toNat_lt
  simp only [le32, get32, UInt32.toNat_ofNat', List.cons.injEq, and_true, ← UInt8.toNat_inj,
    byte_toNat, word]
  omega

theorem flatMap_le32_get32 (h : bytes.length = 4 * n) :
    ((List.range n).map fun i => get32 bytes (4 * i)).flatMap le32 = bytes := by
  induction n generalizing bytes with
  | zero => exact (List.length_eq_zero_iff.mp h).symm
  | succ n ih =>
    obtain ⟨a, b, c, d, rest, rfl⟩ : ∃ a b c d rest, bytes = [a, b, c, d] ++ rest := by
      rcases bytes with _ | ⟨a, _ | ⟨b, _ | ⟨c, _ | ⟨d, rest⟩⟩⟩⟩
      · simp at h
      · simp at h; omega
      · simp at h; omega
      · simp at h; omega
      · exact ⟨a, b, c, d, rest, rfl⟩
    have hrest : rest.length = 4 * n := by
      simp at h
      omega
    have hnext : ∀ i, get32 ([a, b, c, d] ++ rest) (4 * (i + 1)) = get32 rest (4 * i) := by
      intro i
      rw [Nat.mul_succ, Nat.add_comm]
      exact get32_append_right [a, b, c, d] rest (4 * i)
    rw [List.range_succ_eq_map, List.map_cons, List.map_map, List.flatMap_cons, byte_get32]
    simp only [Function.comp_def, Nat.succ_eq_add_one, hnext, ih hrest]
    rfl

theorem map_getD_range (bytes : List UInt8) (h : n ≤ bytes.length) :
    (List.range n).map (bytes.getD · 0) = bytes.take n := by
  apply List.ext_getElem
  · simp [h]
  · intro i h1 h2
    simp only [List.length_take] at h2
    simp [List.getD_eq_getElem?_getD, List.getElem?_eq_getElem (show i < bytes.length by omega)]

/-- An array of `n` bytes. -/
structure Buf (n : Nat) where
  bytes : List UInt8
  size : bytes.length = n
  deriving DecidableEq

/-- The first `n` bytes of a list, with zeros past its end. -/
def Buf.ofList (n : Nat) (bytes : List UInt8) : Buf n :=
  ⟨(bytes ++ List.replicate n 0).take n, by simp⟩

/-- `src` is written from index `i` on, as far as it reaches. -/
def Buf.put {n : Nat} (a : Buf n) (i : Nat) (src : List UInt8) : Buf n :=
  Buf.ofList n (a.bytes.take i ++ src ++ a.bytes.drop (i + src.length))

def Buf.setByte {n : Nat} (a : Buf n) (i : Nat) (x : UInt8) : Buf n :=
  ⟨a.bytes.set i x, by rw [List.length_set, a.size]⟩

@[ext] theorem Buf.ext {a b : Buf n} (h : a.bytes = b.bytes) : a = b := by
  cases a; cases b; simpa using h

theorem Buf.ofList_bytes (h : n ≤ bytes.length) : (Buf.ofList n bytes).bytes = bytes.take n := by
  show (bytes ++ List.replicate n 0).take n = bytes.take n
  rw [List.take_append_of_le_length h]

theorem Buf.put_zero_bytes {a : Buf n} {src : List UInt8} (h : src.length ≤ n) :
    (a.put 0 src).bytes = src ++ a.bytes.drop src.length := by
  have hlen : (src ++ a.bytes.drop src.length).length = n := by
    rw [List.length_append, List.length_drop, a.size, Nat.add_sub_cancel' h]
  rw [Buf.put, List.take_zero, List.nil_append, Nat.zero_add, ofList_bytes (Nat.le_of_eq hlen.symm),
    List.take_of_length_le (Nat.le_of_eq hlen)]

/-- The sum of the 16-bit words; an odd last byte counts alone. -/
def wordSum : List UInt8 → Nat
  | [] => 0
  | [last] => last.toNat
  | lo :: hi :: rest => word lo hi + wordSum rest

theorem wordSum_append {front : List UInt8} (rest : List UInt8) (h : front.length % 2 = 0) :
    wordSum (front ++ rest) = wordSum front + wordSum rest := by
  induction front using wordSum.induct with
  | case1 => simp [wordSum]
  | case2 last => simp at h
  | case3 lo hi front ih =>
    simp only [List.cons_append, wordSum]
    rw [ih (by simp at h; omega)]
    omega

theorem wordSum_le (bytes : List UInt8) : wordSum bytes ≤ 65535 * ((bytes.length + 1) / 2) := by
  induction bytes using wordSum.induct with
  | case1 => simp [wordSum]
  | case2 last =>
    have := last.toNat_lt
    simp [wordSum]
    omega
  | case3 lo hi rest ih =>
    have := word_lt lo hi
    simp only [wordSum, List.length_cons]
    omega

def Apart (d a b : Nat) : Prop := a = b + d ∨ b = a + d

theorem Apart.add_left (h : Apart d a b) (c : Nat) : Apart d (c + a) (c + b) := by
  unfold Apart at *
  omega

theorem Apart.mod_ne {m : Nat} (h : Apart d a b) (hd : d % m ≠ 0) : a % m ≠ b % m := by
  intro heq
  have hself : ∀ c, (c + d) % m = c % m → d % m = 0 := fun c hc => by
    have := Nat.ModEq.add_left_cancel' c (show c + d ≡ c + 0 [MOD m] from hc)
    rwa [Nat.ModEq] at this
  rcases h with rfl | rfl
  · exact hd (hself b heq)
  · exact hd (hself a heq.symm)

theorem wordSum_set (hi : i < bytes.length) (h : Apart d x.toNat (bytes.getD i 0).toNat) :
    Apart (d * 256 ^ (i % 2)) (wordSum (bytes.set i x)) (wordSum bytes) := by
  induction bytes using wordSum.induct generalizing i with
  | case1 => simp at hi
  | case2 last =>
    obtain rfl : i = 0 := by simpa using hi
    simpa [wordSum] using h
  | case3 lo hi' rest ih =>
    match i with
    | 0 =>
      have h : Apart d x.toNat lo.toNat := h
      simp only [List.set_cons_zero, wordSum, word, Nat.zero_mod, Nat.pow_zero, Nat.mul_one]
      unfold Apart at *
      omega
    | 1 =>
      have h : Apart d x.toNat hi'.toNat := h
      simp only [List.set_cons_succ, List.set_cons_zero, wordSum, word, Nat.reduceMod, Nat.pow_one]
      unfold Apart at *
      omega
    | i + 2 =>
      rw [Nat.add_mod_right]
      exact (ih (by simpa using hi) h).add_left (word lo hi')

theorem get16_set_of_ne (x : UInt8) (h : j ≠ i) (h' : j ≠ i + 1) :
    get16 (bytes.set j x) i = get16 bytes i := by
  simp only [get16, List.getD_eq_getElem?_getD, List.getElem?_set_ne h, List.getElem?_set_ne h']

theorem get16_set (hj : j < bytes.length) (h : Apart d x.toNat (bytes.getD j 0).toNat)
    (hin : j = i ∨ j = i + 1) :
    Apart (d * 256 ^ (j - i)) (get16 (bytes.set j x) i).toNat (get16 bytes i).toNat := by
  have hself : (bytes.set j x).getD j 0 = x := by
    rw [List.getD_eq_getElem?_getD, List.getElem?_set_self hj, Option.getD_some]
  have hother : ∀ k, j ≠ k → (bytes.set j x).getD k 0 = bytes.getD k 0 := by
    intro k hk
    rw [List.getD_eq_getElem?_getD, List.getElem?_set_ne hk, List.getD_eq_getElem?_getD]
  have hword : ∀ l : List UInt8, (get16 l i).toNat = word (l.getD i 0) (l.getD (i + 1) 0) := by
    intro l
    rw [get16, UInt16.toNat_ofNat', Nat.mod_eq_of_lt (word_lt _ _)]
  rw [hword, hword, word, word]
  unfold Apart at *
  rcases hin with rfl | rfl
  · rw [hself, hother (j + 1) (by omega), Nat.sub_self]
    omega
  · rw [hself, hother i (by omega), Nat.add_sub_cancel_left]
    omega

theorem wordSum_le16 (x : UInt16) : wordSum (le16 x) = x.toNat := by
  have := x.toNat_lt
  simp only [wordSum, le16, word, byte_toNat]
  omega

end Words
