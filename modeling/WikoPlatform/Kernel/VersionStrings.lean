import WikoPlatform.Lib.CString
import WikoPlatform.Lib.Runs
import WikoPlatform.Lib.Words

/-! The name of the chip and the version of its library in `fp_drv.c`, which the MTK drivers fill
with `strcpy` from the buffers of their ioctls, and which sysfs shows. -/

namespace WikoPlatform.Kernel.FpDrv

open Runs CString
open Words (Buf)

structure Source where
  bytes : List UInt8
  beyond : List UInt8
  deriving DecidableEq

def Source.read (src : Source) : List UInt8 := cString (src.bytes ++ src.beyond) ++ [0]

def Source.literal (text : String) : Source := ⟨text.toList.map Char.toUInt8 ++ [0], []⟩

structure ChipString where
  array : Buf 64
  exist : Bool

structure State where
  name : ChipString
  info : ChipString

inductive Output where
  /-- `strcpy` into an array of 64 bytes. -/
  | copied (src : Source)
  /-- `sprintf(buf, "%s", ..)` into the page of sysfs. -/
  | shown (src : Source)
  | returned (retval : Int)
  deriving DecidableEq

/-- `memset` and `strcpy`. -/
def ChipString.fill (src : Source) : ChipString := ⟨Buf.ofList 64 src.read, true⟩

def ChipString.full (s : ChipString) : Option Source → Int × List Output × ChipString
  | none => (-1, [], s)
  | some src => if s.exist then (-1, [], s) else (0, [.copied src], .fill src)

def fullFpChipName (s : State) (name : Option Source) : Int × List Output × State :=
  ((s.name.full name).1, (s.name.full name).2.1, { s with name := (s.name.full name).2.2 })

def fullFpChipInfo (s : State) (info : Option Source) : Int × List Output × State :=
  ((s.info.full info).1, (s.info.full info).2.1, { s with info := (s.info.full info).2.2 })

/-- `info_show` and `all_info_show`. -/
def ChipString.shown (s : ChipString) (beyond : List UInt8) : List Output :=
  if s.exist then [.shown ⟨s.array.bytes, beyond⟩] else [.shown (.literal "unknow")]

def infoShow (s : State) (beyond : List UInt8) : List Output := s.name.shown beyond

def allInfoShow (s : State) (beyond : List UInt8) : List Output := s.info.shown beyond

inductive Driver where
  | goodix
  | chipone
  | silead

def Driver.name : Driver → String
  | .goodix => "goodix_fp"
  | .chipone => "chipone_fp"
  | .silead => "silead_fp"

def efault : Int := 14

/-- No driver looks at the result of `full`. -/
def stringIoctl (s : State) (full : Option Source → Int × List Output × State) (fault : Int) :
    Option Source → List Output × State
  | none => ([.returned fault], s)
  | some src => ((full (some src)).2.1 ++ [.returned 0], (full (some src)).2.2)

def gfReleaseVersion (s : State) (user : Option (Buf 512)) (beyond : List UInt8) :
    List Output × State :=
  stringIoctl s (fullFpChipInfo s) 0 (user.map fun buf => ⟨buf.bytes, beyond⟩)

def fpsensorSetDevInfo (s : State) (user : Option (Buf 64)) (beyond : List UInt8) :
    List Output × State :=
  stringIoctl s (fullFpChipName s) (-efault) (user.map fun buf => ⟨buf.bytes, beyond⟩)

def fpsensorReleaseVersion (s : State) (user : Option (Buf 64)) (beyond : List UInt8) :
    List Output × State :=
  stringIoctl s (fullFpChipInfo s) (-efault) (user.map fun buf => ⟨buf.bytes, beyond⟩)

/-- `SPI_HW_SET_APP_VER` ends the string in its last byte. -/
def spiSetAppVer (s : State) (user : Option (Buf 64)) (beyond : List UInt8) :
    List Output × State :=
  stringIoctl s (fullFpChipInfo s) 0 (user.map fun buf => ⟨buf.bytes.set 63 0, beyond⟩)

/-- The ioctls come with what `copy_from_user` brings; `beyond` is what lies behind the array that
is read. -/
inductive Event where
  | probe (driver : Driver)
  | gfReleaseVersion (user : Option (Buf 512)) (beyond : List UInt8)
  | fpsensorSetDevInfo (user : Option (Buf 64)) (beyond : List UInt8)
  | fpsensorReleaseVersion (user : Option (Buf 64)) (beyond : List UInt8)
  | spiSetAppVer (user : Option (Buf 64)) (beyond : List UInt8)
  | infoShow (beyond : List UInt8)
  | allInfoShow (beyond : List UInt8)

def step (s : State) : Event → List Output × State
  | .probe driver => (fullFpChipName s (some (.literal driver.name))).2
  | .gfReleaseVersion user beyond => FpDrv.gfReleaseVersion s user beyond
  | .fpsensorSetDevInfo user beyond => FpDrv.fpsensorSetDevInfo s user beyond
  | .fpsensorReleaseVersion user beyond => FpDrv.fpsensorReleaseVersion s user beyond
  | .spiSetAppVer user beyond => FpDrv.spiSetAppVer s user beyond
  | .infoShow beyond => (FpDrv.infoShow s beyond, s)
  | .allInfoShow beyond => (FpDrv.allInfoShow s beyond, s)

def start : State := ⟨⟨Buf.ofList 64 [], false⟩, ⟨Buf.ofList 64 [], false⟩⟩

/-- A copy stays in its 64 bytes, and what is shown ends there. -/
def Output.Safe : Output → Prop
  | .copied src => src.read.length ≤ src.bytes.length ∧ src.read.length ≤ 64
  | .shown src => src.read.length ≤ src.bytes.length
  | .returned _ => True

/-- The first strings that are accepted end in 64 bytes. -/
def Event.Ends (s : State) : Event → Prop
  | .gfReleaseVersion (some buf) _ => s.info.exist = false → 0 ∈ buf.bytes.take 64
  | .fpsensorSetDevInfo (some buf) _ => s.name.exist = false → 0 ∈ buf.bytes
  | .fpsensorReleaseVersion (some buf) _ => s.info.exist = false → 0 ∈ buf.bytes
  | _ => True

variable {src : Source} {s : ChipString}

theorem Source.length_read_le_iff {n : Nat} (hn : n ≤ src.bytes.length) :
    src.read.length ≤ n ↔ 0 ∈ src.bytes.take n := by
  have hle : n ≤ (src.bytes ++ src.beyond).length := by
    rw [List.length_append]
    omega
  rw [Source.read, List.length_append, List.length_singleton, Nat.succ_le_iff,
    length_cString_lt_iff hle, List.take_append_of_le_length hn]

theorem copied_safe_iff (src : Source) : (Output.copied src).Safe ↔ 0 ∈ src.bytes.take 64 := by
  show _ ∧ _ ↔ _
  rw [← Nat.le_min, Source.length_read_le_iff (Nat.min_le_left _ _), ← List.take_take,
    List.take_of_length_le (List.length_take_le' _ _)]

theorem shown_safe_iff (src : Source) : (Output.shown src).Safe ↔ 0 ∈ src.bytes := by
  show _ ≤ _ ↔ _
  rw [Source.length_read_le_iff (Nat.le_refl _), List.take_length]

/-- There is a zero in the array once it is filled. -/
def ChipString.Terminated (s : ChipString) : Prop := s.exist = true → 0 ∈ s.array.bytes

structure State.Terminated (s : State) : Prop where
  name : s.name.Terminated
  info : s.info.Terminated

theorem fill_terminated (h : 0 ∈ src.bytes.take 64) : (ChipString.fill src).Terminated := by
  intro _
  have hlength : src.read.length ≤ 64 := ((copied_safe_iff src).mpr h).2
  have hend : 0 ∈ src.read := by simp [Source.read]
  show 0 ∈ (src.read ++ List.replicate 64 0).take 64
  rw [List.take_append, List.take_of_length_le hlength]
  exact List.mem_append_left _ hend

theorem full_safe_iff (s : ChipString) :
    (∀ o ∈ (s.full (some src)).2.1, o.Safe) ↔ (s.exist = false → 0 ∈ src.bytes.take 64) := by
  cases hexist : s.exist with
  | true => simp [ChipString.full, hexist]
  | false => simp [ChipString.full, hexist, copied_safe_iff]

theorem full_terminated (hs : s.Terminated) (h : s.exist = false → 0 ∈ src.bytes.take 64) :
    (s.full (some src)).2.2.Terminated := by
  cases hexist : s.exist with
  | true => simpa [ChipString.full, hexist] using hs
  | false =>
    simp only [ChipString.full, hexist, Bool.false_eq_true, if_false]
    exact fill_terminated (h hexist)

theorem literal_ends {text : String} (h : text.toList.length < 64) :
    0 ∈ (Source.literal text).bytes.take 64 := by
  rw [Source.literal, List.take_of_length_le (by simp; omega)]
  simp

theorem shown_safe (hs : s.Terminated) (beyond : List UInt8) : ∀ o ∈ s.shown beyond, o.Safe := by
  intro o ho
  cases hexist : s.exist with
  | true =>
    simp only [ChipString.shown, hexist, if_true, List.mem_singleton] at ho
    rw [ho, shown_safe_iff]
    exact hs hexist
  | false =>
    simp only [ChipString.shown, hexist, Bool.false_eq_true, if_false, List.mem_singleton] at ho
    rw [ho, shown_safe_iff]
    simp [Source.literal]

theorem driver_name_ends (driver : Driver) : 0 ∈ (Source.literal driver.name).bytes.take 64 := by
  apply literal_ends
  cases driver <;> decide

theorem take_bytes (buf : Buf 64) : buf.bytes.take 64 = buf.bytes :=
  List.take_of_length_le (Nat.le_of_eq buf.size)

theorem set_ends (buf : Buf 64) : 0 ∈ (buf.bytes.set 63 0).take 64 := by
  rw [List.take_of_length_le (by rw [List.length_set, buf.size])]
  have hlast : 63 < buf.bytes.length := by
    rw [buf.size]
    decide
  exact List.mem_set hlast 0

theorem ioctl_safe_iff {out : List Output} {retval : Int} :
    (∀ o ∈ out ++ [Output.returned retval], o.Safe) ↔ ∀ o ∈ out, o.Safe := by
  simp [Output.Safe, or_imp, forall_and]

theorem step_safe_iff {s : State} (hs : s.Terminated) (e : Event) :
    (∀ o ∈ (step s e).1, o.Safe) ↔ e.Ends s := by
  cases e with
  | probe driver =>
    exact iff_of_true ((full_safe_iff s.name).mpr fun _ => driver_name_ends driver) trivial
  | gfReleaseVersion user beyond =>
    cases user with
    | none => simp [step, gfReleaseVersion, stringIoctl, Output.Safe, Event.Ends]
    | some buf => exact ioctl_safe_iff.trans (full_safe_iff s.info)
  | fpsensorSetDevInfo user beyond =>
    cases user with
    | none => simp [step, fpsensorSetDevInfo, stringIoctl, Output.Safe, Event.Ends]
    | some buf =>
      refine ioctl_safe_iff.trans ((full_safe_iff s.name).trans ?_)
      rw [take_bytes]
      rfl
  | fpsensorReleaseVersion user beyond =>
    cases user with
    | none => simp [step, fpsensorReleaseVersion, stringIoctl, Output.Safe, Event.Ends]
    | some buf =>
      refine ioctl_safe_iff.trans ((full_safe_iff s.info).trans ?_)
      rw [take_bytes]
      rfl
  | spiSetAppVer user beyond =>
    cases user with
    | none => simp [step, spiSetAppVer, stringIoctl, Output.Safe, Event.Ends]
    | some buf =>
      refine iff_of_true (ioctl_safe_iff.mpr ?_) trivial
      exact (full_safe_iff s.info).mpr fun _ => set_ends buf
  | infoShow beyond => exact iff_of_true (shown_safe hs.name beyond) trivial
  | allInfoShow beyond => exact iff_of_true (shown_safe hs.info beyond) trivial

theorem step_terminated {s : State} (hs : s.Terminated) {e : Event} (hends : e.Ends s) :
    (step s e).2.Terminated := by
  cases e with
  | probe driver =>
    exact ⟨full_terminated hs.name fun _ => driver_name_ends driver, hs.info⟩
  | gfReleaseVersion user beyond =>
    cases user with
    | none => exact hs
    | some buf => exact ⟨hs.name, full_terminated hs.info hends⟩
  | fpsensorSetDevInfo user beyond =>
    cases user with
    | none => exact hs
    | some buf =>
      refine ⟨full_terminated hs.name fun hexist => ?_, hs.info⟩
      rw [take_bytes]
      exact hends hexist
  | fpsensorReleaseVersion user beyond =>
    cases user with
    | none => exact hs
    | some buf =>
      refine ⟨hs.name, full_terminated hs.info fun hexist => ?_⟩
      rw [take_bytes]
      exact hends hexist
  | spiSetAppVer user beyond =>
    cases user with
    | none => exact hs
    | some buf => exact ⟨hs.name, full_terminated hs.info fun _ => set_ends buf⟩
  | infoShow beyond | allInfoShow beyond => exact hs

theorem start_terminated : start.Terminated := ⟨fun h => by simp [start] at h, fun h => by
  simp [start] at h⟩

theorem versionStrings_safe_iff (events : List Event) :
    (∀ o ∈ (run step start events).1, o.Safe) ↔ Meets step Event.Ends start events :=
  forall_run_iff_meets_of_inv (fun s e (hs : s.Terminated) => step_safe_iff hs e)
    (fun s _ (hs : s.Terminated) hends => step_terminated hs hends) start_terminated events

def endless (n : Nat) : Buf n := ⟨List.replicate n 65, List.length_replicate⟩

theorem versionStrings_not_safe : (∃ src, .copied src ∈ (run step start [.probe .chipone,
        .fpsensorReleaseVersion (some (endless 64)) [66, 0]]).1 ∧
      src.bytes.length = 64 ∧ src.read.length = 66) ∧
    (∃ src, .shown src ∈ (run step start [.probe .chipone,
        .fpsensorReleaseVersion (some (endless 64)) [66, 0], .allInfoShow [67, 0]]).1 ∧
      src.bytes.length = 64 ∧ src.read.length = 66) ∧
    (∃ src, .copied src ∈ (run step start [.probe .goodix,
        .gfReleaseVersion (some (endless 512)) [0]]).1 ∧
      src.bytes.length = 512 ∧ src.read.length = 513) ∧
    (∃ src, .copied src ∈ (run step start [.fpsensorSetDevInfo (some (endless 64)) [0]]).1 ∧
      src.bytes.length = 64 ∧ src.read.length = 65) ∧
    ¬∀ events, ∀ o ∈ (run step start events).1, o.Safe := by
  have hchipone : Output.copied ⟨List.replicate 64 65, [66, 0]⟩ ∈ (run step start [.probe .chipone,
      .fpsensorReleaseVersion (some (endless 64)) [66, 0]]).1 := by decide +kernel
  refine ⟨⟨_, hchipone, by decide +kernel⟩, ⟨⟨List.replicate 64 65, [67, 0]⟩, by decide +kernel⟩,
    ⟨⟨List.replicate 512 65, [0]⟩, by decide +kernel⟩,
    ⟨⟨List.replicate 64 65, [0]⟩, by decide +kernel⟩, ?_⟩
  intro h
  have hsafe := h _ _ hchipone
  rw [copied_safe_iff] at hsafe
  exact absurd hsafe (by decide +kernel)

end WikoPlatform.Kernel.FpDrv
