import WikoPlatform.Lib.CString
import WikoPlatform.Lib.Words
import WikoPlatform.Posix
import Mathlib.Data.List.GetD

/-! `recursive_create_path`, which copies the path into one array, and from there one ancestor after
the other into a second one for `mkdir`. -/

namespace WikoPlatform.Chipone.CreatePath

open CString Words

def slash : UInt8 := 47

def eexist : Nat := 17

inductive PathArray where
  | tmpPath | createDirPath
  deriving DecidableEq

inductive MkdirResult where
  | ok
  | failed (errno : Nat) (positive : 0 < errno)

def MkdirResult.error : MkdirResult → Option Nat
  | .ok => none
  | .failed errno _ => if errno ≠ eexist then some errno else none

inductive Call where
  | write (array : PathArray) (count : Nat)
  | mkdir (path : List UInt8) (result : MkdirResult)

def Call.Fits : Call → Prop
  | .write _ count => count ≤ pathMax
  | .mkdir .. => True

/-- What `mkdir` and `access` find. -/
structure FileSystem where
  existed : List UInt8 → Bool
  access : List UInt8 → Bool
  root : existed [slash] = true
  accessed : ∀ path, access path = true → existed path = true

def snprintf (array : Buf pathMax) (s : List UInt8) : Buf pathMax :=
  array.put 0 (s.take (pathMax - 1) ++ [0])

/-- What the string leaves is filled up with zeros. -/
def strncpy (array : Buf pathMax) (src : List UInt8) (n : Nat) : Buf pathMax :=
  array.put 0 (padded n ((cString src).take n))

def findNextSlash (tmpPath : List UInt8) (pathLen startIdx : Nat) : Option Nat :=
  (List.range' (startIdx + 1) (pathLen - (startIdx + 1))).find? fun i => tmpPath.getD i 0 = slash

variable {tmpPath tmp path : List UInt8} {pathLen i start : Nat}

theorem findNextSlash_lt {startIdx : Nat} (h : findNextSlash tmpPath pathLen startIdx = some i) :
    startIdx < i ∧ i < pathLen := by
  have hmem := List.mem_of_find?_eq_some h
  rw [List.mem_range'_1] at hmem
  omega

def left (pathLen : Nat) (secondSlash : Option Nat) : Nat := secondSlash.elim 0 (pathLen - ·)

theorem left_findNextSlash {second : Nat} (h : second < pathLen) (tmpPath : List UInt8) :
    left pathLen (findNextSlash tmpPath pathLen second) < left pathLen (some second) := by
  have hleft : left pathLen (some second) = pathLen - second := rfl
  cases hnext : findNextSlash tmpPath pathLen second with
  | none =>
    show 0 < _
    omega
  | some next =>
    have := findNextSlash_lt hnext
    show pathLen - next < _
    omega

/-- The loop, after `made` calls of `mkdir`. -/
def createDirs (mkdir : Nat → MkdirResult) (tmpPath : List UInt8) (pathLen made : Nat)
    (createDirPath : Buf pathMax) (secondSlash : Option Nat) : List Call × Int :=
  match secondSlash with
  | none => ([], 0)
  | some second =>
    if 0 < second ∧ second < pathLen then
      let createDirPath := strncpy createDirPath tmpPath second
      let calls := [.write .createDirPath second, .mkdir (cString createDirPath.bytes) (mkdir made)]
      match (mkdir made).error with
      | some errno => (calls, -errno)
      | none =>
        let rest := createDirs mkdir tmpPath pathLen (made + 1) createDirPath
          (findNextSlash tmpPath pathLen second)
        (calls ++ rest.1, rest.2)
    else ([], 0)
termination_by left pathLen secondSlash
decreasing_by exact left_findNextSlash ‹0 < second ∧ second < pathLen›.2 tmpPath

/-- The arrays hold anything at first. -/
def recursiveCreatePath (fs : FileSystem) (mkdir : Nat → MkdirResult) (tmpPath : Buf pathMax)
    (inputPath : Option (List UInt8)) : List Call × Int :=
  match inputPath with
  | none => ([], -einval)
  | some inputPath =>
    if fs.access inputPath then ([], 0)
    else
      let s := if inputPath.getLast? ≠ some slash then inputPath ++ [slash] else inputPath
      let tmpPath := (snprintf tmpPath s).bytes
      let pathLen := (cString tmpPath).length
      let rest := createDirs mkdir tmpPath pathLen 0 (Buf.ofList pathMax [])
        (findNextSlash tmpPath pathLen 0)
      (.write .tmpPath (min s.length (pathMax - 1) + 1) :: .write .createDirPath pathMax :: rest.1,
        rest.2)

/-- A path that the arrays have room for. -/
structure PathString where
  bytes : List UInt8
  nonempty : bytes ≠ []
  terminated : 0 ∉ bytes
  short : bytes.length < pathMax - 1

def slashesAfter (path : List UInt8) (start : Nat) : List Nat :=
  (List.range' (start + 1) (path.length - (start + 1))).filter fun i => path.getD i 0 = slash

def ancestors (path : List UInt8) : List (List UInt8) := (slashesAfter path 0).map path.take

def withoutSlash (path : List UInt8) : List UInt8 :=
  if path.getLast? = some slash then path.dropLast else path

def Call.made : Call → Option (List UInt8 × MkdirResult)
  | .write .. => none
  | .mkdir path result => some (path, result)

/-- `mkdir` was called for every ancestor, and each is there. -/
structure Covers (path : List UInt8) (calls : List (List UInt8 × MkdirResult)) : Prop where
  done : ∀ call ∈ calls, call.2.error = none
  paths : calls.map Prod.fst =
    if path.getLast? = some slash then ancestors path else ancestors path ++ [path]
  increasing : calls.Pairwise fun a b => a.1.length < b.1.length
  last : (calls.map Prod.fst).getLast? = some (withoutSlash path)

section

variable {tmp tmpPath : List UInt8} {array : Buf pathMax} {first second : Nat}

theorem cString_snprintf (hzero : 0 ∉ tmp) (hshort : tmp.length < pathMax) :
    cString (snprintf array tmp).bytes = tmp := by
  have htake : tmp.take (pathMax - 1) = tmp := List.take_of_length_le (by omega)
  rw [snprintf, htake, Buf.put_zero_bytes (by rw [List.length_append]; exact hshort),
    List.append_assoc]
  exact (cString_append_zero tmp _).trans (cString_eq_self hzero)

def Zeroed (array : Buf pathMax) (first : Nat) : Prop :=
  array.bytes.drop first = List.replicate (pathMax - first) 0

theorem Zeroed.mono (h : Zeroed array first) (hle : first ≤ second) : Zeroed array second := by
  unfold Zeroed at h ⊢
  rw [← Nat.add_sub_cancel' hle, ← List.drop_drop, h, List.drop_replicate]
  congr 1
  omega

theorem zeroed_of_padded {s : List UInt8} (h : array.bytes = padded pathMax s)
    (hlen : s.length = first) : Zeroed array first := by
  rw [Zeroed, h, padded, ← hlen, List.drop_left]

theorem zeroed_memset : Zeroed (Buf.ofList pathMax []) 0 := by
  show (List.take pathMax ([] ++ List.replicate pathMax 0)).drop 0 = _
  rw [List.nil_append, List.take_replicate, Nat.min_self, List.drop_zero, Nat.sub_zero]

theorem strncpy_bytes (h : Zeroed array first) (hsrc : cString tmpPath = tmp)
    (hfirst : first ≤ second) (hsecond : second ≤ tmp.length) (hshort : second ≤ pathMax) :
    (strncpy array tmpPath second).bytes = padded pathMax (tmp.take second) := by
  have hlen : (tmp.take second).length = second := List.length_take_of_le hsecond
  have hpad : padded second (tmp.take second) = tmp.take second := by
    rw [padded, hlen, Nat.sub_self, List.replicate_zero, List.append_nil]
  rw [strncpy, hsrc, hpad, Buf.put_zero_bytes (hlen.symm ▸ hshort), hlen, h.mono hfirst, padded,
    hlen]

end

theorem getD_cString {bytes : List UInt8} (h : i < (cString bytes).length) :
    bytes.getD i 0 = (cString bytes).getD i 0 := by
  obtain ⟨rest, hrest⟩ : ∃ rest, cString bytes ++ rest = bytes := List.takeWhile_prefix _
  conv_lhs => rw [← hrest]
  exact List.getD_append _ _ _ _ h

theorem findNextSlash_eq (hsrc : cString tmpPath = tmp) (start : Nat) :
    findNextSlash tmpPath tmp.length start = (slashesAfter tmp start).head? := by
  rw [findNextSlash, ← List.head?_filter]
  congr 1
  refine List.filter_congr fun i hi => ?_
  rw [List.mem_range'_1] at hi
  subst hsrc
  rw [getD_cString (by omega)]

theorem range'_filter_lt {len : Nat} (h : start ≤ i) (hi : i < len) :
    (List.range' (start + 1) (len - (start + 1))).filter (i < ·) =
      List.range' (i + 1) (len - (i + 1)) := by
  have hsplit : List.range' (start + 1) (len - (start + 1)) =
      List.range' (start + 1) (i - start) ++ List.range' (i + 1) (len - (i + 1)) := by
    have hmiddle : start + 1 + (i - start) = i + 1 := by omega
    rw [← hmiddle, List.range'_append_1]
    congr 1
    omega
  rw [hsplit, List.filter_append, List.filter_eq_nil_iff.mpr, List.filter_eq_self.mpr,
    List.nil_append]
  all_goals
    intro j hj
    rw [List.mem_range'_1] at hj
    simp only [decide_eq_true_eq]
    omega

theorem lt_of_mem_slashesAfter (h : i ∈ slashesAfter path start) : start < i ∧ i < path.length := by
  have := List.mem_range'_1.mp (List.mem_of_mem_filter h)
  omega

theorem pairwise_slashesAfter (path : List UInt8) (start : Nat) :
    (slashesAfter path start).Pairwise (· < ·) :=
  (List.pairwise_lt_range' 1).filter _

theorem slashesAfter_tail {rest : List Nat} (h : slashesAfter path start = i :: rest) :
    rest = slashesAfter path i := by
  have hsort : (i :: rest).Pairwise (· < ·) := h ▸ pairwise_slashesAfter path start
  have hmem : i ∈ slashesAfter path start := h ▸ List.mem_cons_self
  obtain ⟨hstart, hlen⟩ := lt_of_mem_slashesAfter hmem
  have hrest : rest = (i :: rest).filter (i < ·) := by
    rw [List.filter_cons_of_neg (by simp)]
    exact (List.filter_eq_self.mpr fun j hj => by
      simpa using (List.pairwise_cons.mp hsort).1 j hj).symm
  rw [hrest, ← h, slashesAfter, List.filter_comm, range'_filter_lt (Nat.le_of_lt hstart) hlen,
    slashesAfter]

structure Creates (tmp : List UInt8) (first : Nat) (out : List Call × Int) : Prop where
  fits : ∀ call ∈ out.1, call.Fits
  done : out.2 = 0 → ∀ call ∈ out.1.filterMap Call.made, call.2.error = none
  paths : out.2 = 0 →
    (out.1.filterMap Call.made).map Prod.fst = (slashesAfter tmp first).map tmp.take

theorem MkdirResult.error_pos {result : MkdirResult} {errno : Nat} (h : result.error = some errno) :
    0 < errno := by
  cases result with
  | ok => simp [error] at h
  | failed errno' positive =>
    rw [error] at h
    split at h
    · exact Option.some.inj h ▸ positive
    · simp at h

theorem createDirs_creates (mkdir : Nat → MkdirResult) (hzero : 0 ∉ tmp)
    (hshort : tmp.length < pathMax) (hsrc : cString tmpPath = tmp) {first : Nat} (made : Nat)
    {array : Buf pathMax} (hzeroed : Zeroed array first) :
    Creates tmp first (createDirs mkdir tmpPath tmp.length made array
      (findNextSlash tmpPath tmp.length first)) := by
  induction hslashes : slashesAfter tmp first generalizing first made array with
  | nil =>
    rw [findNextSlash_eq hsrc, hslashes, List.head?_nil, createDirs]
    exact ⟨by simp, by simp, by simp [hslashes]⟩
  | cons second rest ih =>
    have hmem : second ∈ slashesAfter tmp first := hslashes ▸ List.mem_cons_self
    obtain ⟨hfirst, hsecond⟩ := lt_of_mem_slashesAfter hmem
    have hbytes :=
      strncpy_bytes hzeroed hsrc (Nat.le_of_lt hfirst) (Nat.le_of_lt hsecond) (by omega)
    have hpath : cString (strncpy array tmpPath second).bytes = tmp.take second := by
      rw [hbytes, cString_padded fun h => hzero (List.mem_of_mem_take h)]
    rw [findNextSlash_eq hsrc, hslashes, List.head?_cons, createDirs, if_pos ⟨by omega, hsecond⟩]
    cases herror : (mkdir made).error with
    | some errno =>
      have hpos := MkdirResult.error_pos herror
      have hfail : -(errno : Int) ≠ 0 := by omega
      exact ⟨by simp [Call.Fits]; omega, fun h => absurd h hfail, fun h => absurd h hfail⟩
    | none =>
      have hrest := slashesAfter_tail hslashes
      have hnext : Zeroed (strncpy array tmpPath second) second :=
        zeroed_of_padded hbytes (List.length_take_of_le (Nat.le_of_lt hsecond))
      have hcreates := ih (made + 1) hnext hrest.symm
      have hmade : ∀ calls, ([Call.write .createDirPath second,
          Call.mkdir (cString (strncpy array tmpPath second).bytes) (mkdir made)] ++
            calls).filterMap Call.made = (tmp.take second, mkdir made) ::
              calls.filterMap Call.made :=
        fun calls => by rw [hpath]; rfl
      refine ⟨?_, fun h => ?_, fun h => ?_⟩
      · simpa [Call.Fits, show second ≤ pathMax by omega] using hcreates.fits
      · rw [hmade]
        exact List.forall_mem_cons.mpr ⟨herror, hcreates.done h⟩
      · rw [hmade, List.map_cons, hcreates.paths h, hslashes, hrest, List.map_cons]

section

variable {path dir : List UInt8}

theorem append_slash_eq (path : List UInt8) :
    (if path.getLast? ≠ some slash then path ++ [slash] else path) =
      withoutSlash path ++ [slash] := by
  unfold withoutSlash
  by_cases hlast : path.getLast? = some slash
  · rw [if_neg (not_not.mpr hlast), if_pos hlast, List.dropLast_append_getLast? slash hlast]
  · rw [if_pos hlast, if_neg hlast]

theorem slashesAfter_append_slash (hdir : dir ≠ []) :
    slashesAfter (dir ++ [slash]) 0 = slashesAfter dir 0 ++ [dir.length] := by
  have hpos := List.length_pos_iff.mpr hdir
  have hrange : List.range' 1 ((dir ++ [slash]).length - 1) =
      List.range' 1 (dir.length - 1) ++ [dir.length] := by
    rw [List.length_append, List.length_singleton, Nat.add_sub_cancel]
    conv_lhs => rw [← Nat.sub_add_cancel hpos]
    rw [List.range'_1_concat, Nat.add_sub_cancel' hpos]
  rw [slashesAfter, hrange, List.filter_append, slashesAfter]
  congr 1
  · refine List.filter_congr fun i hi => ?_
    rw [List.mem_range'_1] at hi
    rw [List.getD_append _ _ _ _ (by omega)]
  · simp

theorem ancestors_append_slash (hdir : dir ≠ []) :
    ancestors (dir ++ [slash]) = ancestors dir ++ [dir] := by
  rw [ancestors, slashesAfter_append_slash hdir, List.map_append, List.map_singleton,
    List.take_left]
  congr 1
  refine List.map_congr_left fun i hi => ?_
  rw [List.take_append_of_le_length (Nat.le_of_lt (lt_of_mem_slashesAfter hi).2)]

theorem withoutSlash_append_slash (path : List UInt8) (hlast : path.getLast? = some slash) :
    withoutSlash path ++ [slash] = path := by
  rw [← append_slash_eq, if_neg (not_not.mpr hlast)]

theorem withoutSlash_isPrefix (path : List UInt8) : withoutSlash path <+: path := by
  unfold withoutSlash
  split
  · exact List.dropLast_prefix path
  · exact List.prefix_rfl

theorem eq_root_of_withoutSlash (hpath : path ≠ []) (h : withoutSlash path = []) :
    path = [slash] := by
  by_cases hlast : path.getLast? = some slash
  · rw [← withoutSlash_append_slash path hlast, h, List.nil_append]
  · rw [withoutSlash, if_neg hlast] at h
    exact absurd h hpath

theorem covers_of_creates {out : List Call × Int} (hdir : withoutSlash path ≠ [])
    (h : Creates (withoutSlash path ++ [slash]) 0 out) (hret : out.2 = 0) :
    Covers path (out.1.filterMap Call.made) := by
  have hpaths : (out.1.filterMap Call.made).map Prod.fst =
      ancestors (withoutSlash path) ++ [withoutSlash path] := by
    rw [h.paths hret, ← ancestors_append_slash hdir, ancestors]
  refine ⟨h.done hret, ?_, ?_, ?_⟩
  · by_cases hlast : path.getLast? = some slash
    · rw [if_pos hlast, hpaths, ← ancestors_append_slash hdir, withoutSlash_append_slash path hlast]
    · rw [if_neg hlast, hpaths, withoutSlash, if_neg hlast]
  · have hlengths : ((out.1.filterMap Call.made).map Prod.fst).Pairwise
        fun a b => a.length < b.length := by
      rw [h.paths hret, List.pairwise_map]
      refine (pairwise_slashesAfter _ 0).imp_of_mem fun hi hj hlt => ?_
      rw [List.length_take_of_le (Nat.le_of_lt (lt_of_mem_slashesAfter hi).2),
        List.length_take_of_le (Nat.le_of_lt (lt_of_mem_slashesAfter hj).2)]
      exact hlt
    rwa [List.pairwise_map] at hlengths
  · rw [hpaths, List.getLast?_concat]

end

/-- A success has made every directory on the way. -/
theorem recursiveCreatePath_covers (fs : FileSystem) (mkdir : Nat → MkdirResult)
    (tmpPath : Buf pathMax) (path : PathString) :
    (∀ call ∈ (recursiveCreatePath fs mkdir tmpPath (some path.bytes)).1, call.Fits) ∧
      ((recursiveCreatePath fs mkdir tmpPath (some path.bytes)).2 = 0 →
        fs.existed path.bytes = true ∨ Covers path.bytes
          ((recursiveCreatePath fs mkdir tmpPath (some path.bytes)).1.filterMap Call.made)) := by
  simp only [recursiveCreatePath, append_slash_eq]
  by_cases haccess : fs.access path.bytes = true
  · rw [if_pos haccess]
    exact ⟨by simp, fun _ => .inl (fs.accessed _ haccess)⟩
  rw [if_neg haccess]
  have hsub : withoutSlash path.bytes <+: path.bytes := withoutSlash_isPrefix path.bytes
  have hzero : 0 ∉ withoutSlash path.bytes ++ [slash] := by
    rw [List.mem_append, not_or]
    exact ⟨fun h => path.terminated (hsub.subset h), by decide⟩
  have hshort : (withoutSlash path.bytes ++ [slash]).length < pathMax := by
    have hle := hsub.length_le
    have hlt := path.short
    rw [List.length_append, List.length_singleton]
    omega
  have hsrc : cString (snprintf tmpPath (withoutSlash path.bytes ++ [slash])).bytes = _ :=
    cString_snprintf hzero hshort
  have hcreates := createDirs_creates mkdir hzero hshort hsrc 0 zeroed_memset
  rw [hsrc]
  refine ⟨?_, fun hret => ?_⟩
  · simpa [Call.Fits, pathMax] using hcreates.fits
  · by_cases hdir : withoutSlash path.bytes = []
    · -- only the root is left, which exists
      rw [eq_root_of_withoutSlash path.nonempty hdir]
      exact .inl fs.root
    · have hcovers := covers_of_creates hdir hcreates hret
      exact .inr hcovers

end WikoPlatform.Chipone.CreatePath
