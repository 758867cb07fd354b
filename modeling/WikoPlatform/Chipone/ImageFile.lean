import WikoPlatform.Chipone.CommandBuffer
import WikoPlatform.Lib.Words

/-! Images in files: `save_bmp` writes a bitmap of eight bits a pixel, and `read_bmp_data` reads one
that is to be injected. -/

namespace WikoPlatform.Chipone.ImageFile

open Words

def int? (n : Int) : Option Int := if -2 ^ 31 ≤ n ∧ n < 2 ^ 31 then some n else none

def dword (n : Int) : UInt32 := UInt32.ofNat (n % 2 ^ 32).toNat

def bitmapFileHeader (bfSize bfOffBits : UInt32) : List UInt8 :=
  le16 0x4D42 ++ le32 bfSize ++ le16 0 ++ le16 0 ++ le32 bfOffBits

def bitmapInfoHeader (biWidth biHeight : UInt32) (biBitCount : UInt16) : List UInt8 :=
  le32 40 ++ le32 biWidth ++ le32 biHeight ++ le16 1 ++ le16 biBitCount ++ le32 0 ++ le32 0 ++
    le32 0 ++ le32 0 ++ le32 0 ++ le32 0

def pallette : List UInt8 :=
  (List.range 256).flatMap fun i => [UInt8.ofNat i, UInt8.ofNat i, UInt8.ofNat i, 0]

def bmpFile (dwDIBSize width height : UInt32) (pixels : List UInt8) : List UInt8 :=
  bitmapFileHeader dwDIBSize 1078 ++ bitmapInfoHeader width height 8 ++ pallette ++ pixels

/-- What is returned, and the file. `opened`: `fopen` succeeds. -/
def saveBmp (opened : Bool) (imgBuffer : List UInt8) (width height : Int) :
    Option (Int × Option (List UInt8)) := do
  let bits ← int? (width * 8)
  let bits ← int? (bits + 31)
  let row ← int? (bits.tdiv 32 * 4)
  let dwBmBitsSize ← int? (row * height)
  let dwDIBSize := dword (14 + 40 + 1024 + dwBmBitsSize)
  if opened then
    let count ← int? (width * height)
    return (0, some (bmpFile dwDIBSize (dword width) (dword height) (imgBuffer.take (sizeT count))))
  else return (-1, none)

structure BmpData where
  len : Int
  width : Int
  height : Int
  imgBuffer : List UInt8

/-- An access to the image buffer is the offset and the number of bytes. -/
structure BmpRead where
  ret : Int
  data : BmpData
  accesses : List (Nat × Nat)

def readBmpData (file : Option (List UInt8)) (data : BmpData) : Option BmpRead :=
  match file with
  | none => some ⟨-2, data, []⟩
  | some file => do
    let len ← int? (int32 file.length - 1078)
    let data := { data with len }
    if len < 0 ∨ data.imgBuffer.length < len then return ⟨-22, data, []⟩
    else
      let data := { data with
        width := int32 (get32 file 18).toNat
        height := int32 (get32 file 22).toNat
        imgBuffer := (file.drop 1078).take len.toNat ++ data.imgBuffer.drop len.toNat }
      -- the message has the first four bytes
      return ⟨0, data, [(0, len.toNat), (0, 4)]⟩

/-- Pixels of a width and a height that are `int`s. -/
structure Image where
  width : Nat
  height : Nat
  pixels : List UInt8
  width_pos : 1 ≤ width
  height_pos : 1 ≤ height
  width_lt : width < 2 ^ 31
  height_lt : height < 2 ^ 31
  size : pixels.length = width * height

def rowStride (file : List UInt8) : Nat :=
  ((get32 file 18).toNat * (get16 file 28).toNat + 31) / 32 * 4

/-- The header has the length of the file and of its rows. -/
structure Declared (file : List UInt8) : Prop where
  size : (get32 file 2).toNat = file.length
  rows : (get32 file 10).toNat + rowStride file * (get32 file 22).toNat = file.length

structure ReadsBack (img : Image) (bufferLen : Nat) (read : BmpRead) : Prop where
  within : ∀ access ∈ read.accesses, access.1 + access.2 ≤ bufferLen
  ret : img.pixels.length ≤ bufferLen → read.ret = 0
  width : img.pixels.length ≤ bufferLen → read.data.width = img.width
  height : img.pixels.length ≤ bufferLen → read.data.height = img.height
  len : img.pixels.length ≤ bufferLen → read.data.len = img.pixels.length
  pixels : img.pixels.length ≤ bufferLen →
    read.data.imgBuffer.take img.pixels.length = img.pixels

/-- The file is well formed and reads back as the image. -/
def RoundTrips (img : Image) : Prop :=
  ∃ file, saveBmp true img.pixels img.width img.height = some (0, some file) ∧ Declared file ∧
    ∀ data : BmpData, data.imgBuffer.length < 2 ^ 31 →
      ∃ read, readBmpData (some file) data = some read ∧
        ReadsBack img data.imgBuffer.length read

def stride (width : Nat) : Nat := (width * 8 + 31) / 32 * 4

theorem le_stride (width : Nat) : width ≤ stride width := by
  unfold stride
  omega

theorem stride_eq_iff (width : Nat) : stride width = width ↔ 4 ∣ width := by
  unfold stride
  omega

theorem length_pallette : pallette.length = 1024 := by
  have hfour : ∀ n, ((List.range n).flatMap fun i =>
      [UInt8.ofNat i, UInt8.ofNat i, UInt8.ofNat i, 0]).length = 4 * n := by
    intro n
    induction n with
    | zero => rfl
    | succ n ih =>
      rw [List.range_succ, List.flatMap_append, List.length_append, ih]
      rfl
  exact hfour 256

section

variable (size width height : UInt32) (pixels : List UInt8)

theorem length_headers : (bitmapFileHeader size 1078 ++ bitmapInfoHeader width height 8 ++
    pallette).length = 1078 := by
  simp only [bitmapFileHeader, bitmapInfoHeader, List.length_append, length_le16, length_le32,
    length_pallette]

theorem length_bmpFile : (bmpFile size width height pixels).length = 1078 + pixels.length := by
  rw [bmpFile, List.length_append, length_headers]

theorem drop_bmpFile : (bmpFile size width height pixels).drop 1078 = pixels := by
  rw [bmpFile, ← length_headers size width height, List.drop_left]

theorem get32_bmpFile_size : get32 (bmpFile size width height pixels) 2 = size := by
  exact get32_field (le16 0x4D42) _ _

theorem get32_bmpFile_offset : get32 (bmpFile size width height pixels) 10 = 1078 := by
  have hfield := get32_field (le16 0x4D42 ++ le32 size ++ le16 0 ++ le16 0) 1078
    (bitmapInfoHeader width height 8 ++ pallette ++ pixels)
  simpa only [bmpFile, bitmapFileHeader, List.append_assoc, List.length_append, length_le16,
    length_le32] using hfield

theorem get32_bmpFile_width : get32 (bmpFile size width height pixels) 18 = width := by
  exact get32_field (bitmapFileHeader size 1078 ++ le32 40) _ _

theorem get32_bmpFile_height : get32 (bmpFile size width height pixels) 22 = height := by
  exact get32_field (bitmapFileHeader size 1078 ++ le32 40 ++ le32 width) _ _

end

theorem dword_toNat {n : Nat} (h : n < 2 ^ 32) : (dword n).toNat = n := by
  rw [dword, UInt32.toNat_ofNat']
  omega

theorem int?_eq_some_iff {n m : Int} : int? n = some m ↔ (-2 ^ 31 ≤ n ∧ n < 2 ^ 31) ∧ m = n := by
  unfold int?
  split
  · rw [Option.some.injEq, and_iff_right ‹_›, eq_comm]
  · exact iff_of_false (by simp) fun h => absurd h.1 ‹_›

section

variable (img : Image)

def fileOf : List UInt8 :=
  bmpFile (dword (1078 + stride img.width * img.height : Nat)) (dword img.width) (dword img.height)
    img.pixels

/-- The sizes that are computed do not overflow. -/
def Writable : Prop := img.width * 8 + 31 < 2 ^ 31 ∧ stride img.width * img.height < 2 ^ 31

theorem area_le : img.pixels.length ≤ stride img.width * img.height := by
  rw [img.size]
  exact Nat.mul_le_mul_right _ (le_stride img.width)

theorem cast_stride : ((img.width : Int) * 8 + 31).tdiv 32 * 4 = stride img.width := by
  unfold stride
  rw [Int.tdiv_eq_ediv_of_nonneg (by omega)]
  omega

theorem cast_area : (img.width : Int) * img.height = img.pixels.length := by
  rw [img.size, Int.natCast_mul]

theorem saved_eq (h : Writable img) :
    bmpFile (dword (14 + 40 + 1024 + ((img.width : Int) * 8 + 31).tdiv 32 * 4 * img.height))
      (dword img.width) (dword img.height) (img.pixels.take (sizeT (img.width * img.height))) =
        fileOf img := by
  have hall : img.pixels.take (sizeT img.pixels.length) = img.pixels := by
    have := area_le img
    have := h.2
    refine List.take_of_length_le ?_
    unfold sizeT
    omega
  rw [cast_stride, cast_area, hall]
  rfl

theorem saveBmp_eq_some_iff {file : List UInt8} :
    saveBmp true img.pixels img.width img.height = some (0, some file) ↔
      Writable img ∧ file = fileOf img := by
  simp only [saveBmp, bind, Option.bind_eq_some_iff, int?_eq_some_iff, if_true, pure,
    Option.some.injEq, Prod.mk.injEq, true_and]
  constructor
  · rintro ⟨-, ⟨-, rfl⟩, -, ⟨⟨-, hwidth⟩, rfl⟩, -, ⟨-, rfl⟩, -, ⟨⟨-, hbits⟩, rfl⟩, -, ⟨-, rfl⟩, rfl⟩
    rw [cast_stride] at hbits
    have hwritable : Writable img := ⟨by omega, by omega⟩
    exact ⟨hwritable, saved_eq img hwritable⟩
  · rintro ⟨hwritable, rfl⟩
    have hle := area_le img
    obtain ⟨hwidth, hbits⟩ := hwritable
    have hrow : stride img.width < 2 ^ 31 := by
      unfold stride
      omega
    refine ⟨_, ⟨by omega, rfl⟩, _, ⟨by omega, rfl⟩, _, ⟨?_, rfl⟩, _, ⟨?_, rfl⟩, _, ⟨?_, rfl⟩,
      saved_eq img ⟨hwidth, hbits⟩⟩
    · rw [cast_stride]
      omega
    · rw [cast_stride]
      omega
    · rw [cast_area]
      omega

theorem declared_iff (h : Writable img) : Declared (fileOf img) ↔ 4 ∣ img.width := by
  have hheight := img.height_pos
  have hbits := h.2
  have hwidth := img.width_lt
  have hlt := img.height_lt
  have hsize : (get32 (fileOf img) 2).toNat = 1078 + stride img.width * img.height := by
    rw [fileOf, get32_bmpFile_size, dword_toNat (by omega)]
  have hrows : (get32 (fileOf img) 10).toNat + rowStride (fileOf img) *
      (get32 (fileOf img) 22).toNat = 1078 + stride img.width * img.height := by
    rw [rowStride, fileOf, get32_bmpFile_offset, get32_bmpFile_width,
      get32_bmpFile_height, dword_toNat (by omega), dword_toNat (by omega)]
    rfl
  have hlen : (fileOf img).length = 1078 + img.width * img.height := by
    rw [fileOf, length_bmpFile, img.size]
  have hiff : 1078 + stride img.width * img.height = 1078 + img.width * img.height ↔
      4 ∣ img.width := by
    rw [← stride_eq_iff, Nat.add_left_cancel_iff, Nat.mul_left_inj (by omega)]
  refine ⟨fun hdeclare => hiff.mp ?_, fun hdvd => ⟨?_, ?_⟩⟩
  · rw [← hsize, ← hlen]
    exact hdeclare.size
  · rw [hsize, hlen]
    exact hiff.mpr hdvd
  · rw [hrows, hlen]
    exact hiff.mpr hdvd

theorem readBmpData_eq_some (h : img.pixels.length + 1078 < 2 ^ 31) (data : BmpData) :
    ∃ read, readBmpData (some (fileOf img)) data = some read ∧
      (4 ≤ img.pixels.length → ReadsBack img data.imgBuffer.length read) := by
  have hwidth := img.width_lt
  have hheight := img.height_lt
  have hlen : int? (int32 (fileOf img).length - 1078) = some (img.pixels.length : Int) := by
    rw [fileOf, length_bmpFile, int32_of_lt (by omega), int?_eq_some_iff]
    omega
  simp only [readBmpData, hlen, bind, Option.bind_some, pure]
  by_cases hroom : img.pixels.length ≤ data.imgBuffer.length
  · rw [if_neg (by omega)]
    refine ⟨_, rfl, fun hfour => ⟨?_, fun _ => rfl, fun _ => ?_, fun _ => ?_, fun _ => rfl,
      fun _ => ?_⟩⟩
    · simp only [Int.toNat_natCast, List.forall_mem_cons, List.not_mem_nil, false_implies,
        implies_true, and_true]
      omega
    · rw [fileOf, get32_bmpFile_width, dword_toNat (by omega), int32_of_lt hwidth]
    · rw [fileOf, get32_bmpFile_height, dword_toNat (by omega), int32_of_lt hheight]
    · simp only [Int.toNat_natCast, fileOf, drop_bmpFile, List.take_length, List.take_left]
  · rw [if_pos (by omega)]
    exact ⟨_, rfl, fun _ => ⟨by simp, fun hle => absurd hle hroom, fun hle => absurd hle hroom,
      fun hle => absurd hle hroom, fun hle => absurd hle hroom, fun hle => absurd hle hroom⟩⟩

theorem readBmpData_eq_none (hlt : img.pixels.length < 2 ^ 31)
    (h : ¬img.pixels.length + 1078 < 2 ^ 31) (data : BmpData) :
    readBmpData (some (fileOf img)) data = none := by
  have hwraps : int32 (fileOf img).length = (1078 + img.pixels.length : Int) - 2 ^ 32 := by
    rw [fileOf, length_bmpFile, int32, Int.bmod_eq_iff (by decide)]
    omega
  have hnone : int? (int32 (fileOf img).length - 1078) = none := by
    rw [int?, if_neg (by omega)]
  simp only [readBmpData, hnone, bind, Option.bind_none]

theorem four_le_of_dvd (h : 4 ∣ img.width) : 4 ≤ img.pixels.length := by
  have hwidth : 4 ≤ img.width := Nat.le_of_dvd img.width_pos h
  rw [img.size]
  exact Nat.le_trans hwidth (Nat.le_mul_of_pos_right _ img.height_pos)

end

/-- Rows are not filled up, so the width has to be a multiple of 4. -/
theorem roundTrips_iff (img : Image) :
    RoundTrips img ↔ 4 ∣ img.width ∧ img.width * 8 + 31 < 2 ^ 31 ∧
      img.width * img.height + 1078 < 2 ^ 31 := by
  rw [← img.size]
  constructor
  · rintro ⟨file, hsaved, hdeclare, hread⟩
    obtain ⟨hwritable, rfl⟩ := (saveBmp_eq_some_iff img).mp hsaved
    refine ⟨(declared_iff img hwritable).mp hdeclare, hwritable.1, ?_⟩
    by_contra hlong
    obtain ⟨read, hsome, -⟩ := hread ⟨0, 0, 0, []⟩ (by simp)
    have harea := area_le img
    rw [readBmpData_eq_none img (Nat.lt_of_le_of_lt harea hwritable.2) hlong] at hsome
    exact absurd hsome (by simp)
  · rintro ⟨hdvd, hwidth, hsize⟩
    have hwritable : Writable img := by
      refine ⟨hwidth, ?_⟩
      rw [(stride_eq_iff img.width).mpr hdvd, ← img.size]
      omega
    refine ⟨fileOf img, (saveBmp_eq_some_iff img).mpr ⟨hwritable, rfl⟩,
      (declared_iff img hwritable).mpr hdvd, fun data _ => ?_⟩
    obtain ⟨read, hread, hback⟩ := readBmpData_eq_some img hsize data
    exact ⟨read, hread, hback (four_le_of_dvd img hdvd)⟩

theorem not_roundTrips_pixel :
    ¬RoundTrips ⟨1, 1, [7], by decide, by decide, by decide, by decide, by decide⟩ := by
  rintro ⟨file, hsaved, hdeclare, -⟩
  obtain ⟨hwritable, rfl⟩ := (saveBmp_eq_some_iff _).mp hsaved
  exact absurd ((declared_iff _ hwritable).mp hdeclare) (by decide)

end WikoPlatform.Chipone.ImageFile
