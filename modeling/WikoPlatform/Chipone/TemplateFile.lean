import WikoPlatform.Chipone.ResponseBuffer
import WikoPlatform.Lib.Act

/-! The template file of `fpTaEntryProxy`, in the build that keeps it itself: `saveTpls2File` writes
a second file and puts it in the place of the first. The process may be killed before any operation.
-/

namespace WikoPlatform.Chipone.TemplateFile

open Runs Act

structure Files where
  path : Option (List UInt8)
  bak : Option (List UInt8)
  deriving DecidableEq

/-- A process, and how many more operations it comes to before it is killed. -/
structure Process where
  files : Files
  left : Nat

abbrev Proc (α : Type) : Type := Act Process Empty α

def alive : Proc Unit := do
  if (← get).left = 0 then throw else modify fun s => { s with left := s.left - 1 }

def fileOp (op : Files → Files) : Proc Unit := do
  alive
  modify fun s => { s with files := op s.files }

def look {α : Type} (view : Files → α) : Proc α := do
  alive
  pure (view (← get).files)

def leave (ret : Int) : Proc Int := do
  alive
  pure ret

section

variable {β : Type} (files : Files) (left : Nat)

@[simp] theorem fileOp_bind (op : Files → Files) (f : Unit → Proc β) :
    (fileOp op >>= f) ⟨files, left + 1⟩ = f () ⟨op files, left⟩ :=
  rfl

@[simp] theorem leave_living (ret : Int) :
    leave ret ⟨files, left + 1⟩ = ⟨[], ⟨files, left⟩, some ret⟩ :=
  rfl

end

def renameBak (f : Files) : Files := ⟨f.bak, none⟩

def openFile : Proc Unit := do
  if (← look (·.path)).isSome then pure ()
  else if (← look (·.bak)).isSome then fileOp renameBak
  else fileOp fun f => { f with path := some [] }

/-- Returns the bytes that it read. -/
def readFile : Proc (List UInt8) := do
  openFile
  look fun f => f.path.getD []

/-- `fwrite` and `fclose` may have put only a part of the content on the disk, and `fclose` does not
say so. -/
structure SaveOps where
  fopen : Bool
  fwrite : Bool
  written : Nat
  flushed : Nat
  remove : Bool
  rename : Bool

def saveTpls2File (pathLen : Nat) (content : List UInt8) (ops : SaveOps) : Proc Int := do
  if pathLen + ".bak".length ≥ pathMax then leave (-eio)
  else if !ops.fopen then leave (-eio)
  else
    fileOp fun f => { f with bak := some [] }
    fileOp fun f => { f with bak := some (content.take ops.written) }
    fileOp fun f => { f with bak := some (content.take ops.flushed) }
    -- `fwrite` of no bytes returns 0, not 1
    if content.isEmpty || !ops.fwrite then leave (-eio)
    else
      fileOp fun f => if ops.remove then { f with path := none } else f
      fileOp fun f => if ops.rename then renameBak f else f
      leave 0

/-- The content of the last call that returned 0, and those of the calls that were interrupted
since. -/
structure Templates where
  files : Files
  running : Bool
  returned : List UInt8
  interrupted : List (List UInt8)

inductive Event where
  | start (life : Nat)
  | save (content : List UInt8) (ops : SaveOps) (life : Nat)
  | kill

def Templates.saved (w : Templates) (content : List UInt8) (o : Outcome Process Empty Int) :
    Templates :=
  match o.result with
  | none => { w with files := o.state.files, running := false,
                     interrupted := w.interrupted ++ [content] }
  | some ret =>
    if ret = 0 then { w with files := o.state.files, returned := content, interrupted := [] }
    else { w with files := o.state.files }

def Templates.step (pathLen : Nat) (w : Templates) : Event → List Empty × Templates
  | .start life =>
    let o := readFile ⟨w.files, life⟩
    ([], { w with files := o.state.files, running := o.result.isSome })
  | .save content ops life =>
    ([], if w.running then w.saved content (saveTpls2File pathLen content ops ⟨w.files, life⟩)
         else w)
  | .kill => ([], { w with running := false })

def Templates.begin (content : List UInt8) (bak : Option (List UInt8)) : Templates :=
  ⟨⟨some content, bak⟩, false, content, []⟩

/-- Saved last, or by a call that was interrupted since. -/
def Templates.Acceptable (w : Templates) (content : List UInt8) : Prop :=
  content = w.returned ∨ content ∈ w.interrupted

instance Templates.decidableAcceptable (w : Templates) : DecidablePred w.Acceptable :=
  fun c => inferInstanceAs (Decidable (c = w.returned ∨ c ∈ w.interrupted))

/-- There is a file when a save begins, short writes are noticed, and `remove` and `rename` do not
both fail. -/
def Templates.Careful (w : Templates) : Event → Prop
  | .save content ops _ => w.running = true → w.files.path.isSome ∧
    (ops.fwrite = true → content.length ≤ ops.flushed) ∧ (ops.remove = true ∨ ops.rename = true)
  | .start _ | .kill => True

instance Templates.decidableCareful (w : Templates) (event : Event) :
    Decidable (w.Careful event) := by
  unfold Templates.Careful
  split <;> infer_instance

def Files.template (f : Files) : Option (List UInt8) := f.path.or f.bak

def FilesEnd {α : Type} (P : Files → Prop) (x : Proc α) (Q : α → Files → Prop)
    (D : Files → Prop) : Prop :=
  Ends (fun s => P s.files) x (fun a s => Q a s.files) (fun s => D s.files)

namespace FilesEnd

variable {α β : Type} {P D R : Files → Prop} {Q : α → Files → Prop} {S : β → Files → Prop}
  {x y : Proc α} {f : α → Proc β}

theorem pure {a : α} (h : ∀ f, P f → Q a f) : FilesEnd P (Pure.pure a) Q D :=
  Ends.pure fun _ hs => h _ hs

theorem bind (hx : FilesEnd P x Q D) (hf : ∀ a, FilesEnd (Q a) (f a) S D) :
    FilesEnd P (x >>= f) S D :=
  Ends.bind hx hf

theorem ite {p : Prop} [Decidable p] (hx : p → FilesEnd P x Q D) (hy : ¬p → FilesEnd P y Q D) :
    FilesEnd P (if p then x else y) Q D :=
  Ends.ite hx hy

theorem alive (h : ∀ f, P f → D f) : FilesEnd P alive (fun _ => P) D :=
  .get_bind fun _ hs => .ite
    (fun _ => .throw fun _ hs' => hs' ▸ h _ hs)
    fun _ => .modify fun _ hs' => hs' ▸ hs

theorem fileOp {op : Files → Files} (h : ∀ f, P f → D f) (hop : ∀ f, P f → R (op f)) :
    FilesEnd P (fileOp op) (fun _ => R) D :=
  (alive h).bind fun _ => .modify fun _ hs => hop _ hs

theorem look {view : Files → α} (h : ∀ f, P f → D f) (hview : ∀ f, P f → Q (view f) f) :
    FilesEnd P (look view) Q D :=
  (alive h).bind fun _ => .get_bind fun _ hs => .pure fun _ hs' => by
    subst hs'
    exact hview _ hs

theorem leave {ret : Int} {Q : Int → Files → Prop} (h : ∀ f, P f → D f)
    (hret : ∀ f, P f → Q ret f) : FilesEnd P (leave ret) Q D :=
  (alive h).bind fun _ => pure hret

end FilesEnd

theorem openFile_ends (c : List UInt8) :
    FilesEnd (·.template = some c) openFile (fun _ f => f.path = some c) (·.template = some c) := by
  have hpath {f : Files} (hf : f.template = some c) (h : f.path.isSome) : f.path = some c := by
    rwa [Files.template, Option.or_of_isSome h] at hf
  have hbak {f : Files} (hf : f.template = some c) (h : ¬f.path.isSome) : f.bak = some c := by
    rwa [Files.template, Option.or_of_isNone (by simpa using h)] at hf
  refine .bind (Q := fun p f => f.template = some c ∧ p = f.path) ?_ fun p => ?_
  · exact .look (fun _ h => h) fun _ h => ⟨h, rfl⟩
  refine .ite (fun hp => .pure ?_) fun hp => ?_
  · rintro f ⟨hf, rfl⟩
    exact hpath hf hp
  refine .bind (Q := fun b f => (f.template = some c ∧ f.bak = some c) ∧ b = f.bak) ?_
    fun b => ?_
  · refine .look (fun _ h => h.1) ?_
    rintro f ⟨hf, rfl⟩
    exact ⟨⟨hf, hbak hf hp⟩, rfl⟩
  refine .ite (fun _ => ?_) fun hb => ?_
  · exact .fileOp (fun _ h => h.1.1) fun _ h => h.1.2
  · refine .fileOp (fun _ h => h.1.1) ?_
    rintro f ⟨⟨-, hf⟩, rfl⟩
    simp [hf] at hb

theorem readFile_ends (c : List UInt8) :
    FilesEnd (·.template = some c) readFile (fun a f => a = c ∧ f.template = some c)
      (·.template = some c) := by
  have hfound {f : Files} (hf : f.path = some c) : f.template = some c := by
    rw [Files.template, hf, Option.some_or]
  refine (openFile_ends c).bind fun _ => .look (fun _ => hfound) fun f hf => ?_
  exact ⟨by rw [hf, Option.getD_some], hfound hf⟩

theorem readFile_result (f : Files) {life : Nat} (hlife : 4 ≤ life) :
    (readFile ⟨f, life⟩).result = some (f.template.getD []) := by
  obtain ⟨life, rfl⟩ := Nat.exists_eq_add_of_le' hlife
  obtain ⟨path, bak⟩ := f
  cases path <;> cases bak <;> rfl

variable {content c : List UInt8} {ops : SaveOps} {pathLen : Nat} {w : Templates}

theorem replace_ends (hplace : ops.remove = true ∨ ops.rename = true) :
    FilesEnd (fun f => f.path = some c ∧ f.bak = some content)
      (do
        fileOp fun f => if ops.remove then { f with path := none } else f
        fileOp fun f => if ops.rename then renameBak f else f
        leave 0)
      (fun ret f => f.template = if ret = 0 then some content else some c)
      (fun f => f.template = some c ∨ f.template = some content) := by
  refine .bind (Q := fun _ f => f.path = (if ops.remove then none else some c) ∧
    f.bak = some content) (.fileOp ?_ ?_) fun _ => ?_
  · rintro f ⟨hpath, -⟩
    exact .inl (by rw [Files.template, hpath, Option.some_or])
  · rintro f ⟨hpath, hbak⟩
    cases ops.remove with
    | false => exact ⟨hpath, hbak⟩
    | true => exact ⟨rfl, hbak⟩
  refine .bind (.fileOp ?_ ?_)
    fun _ => .leave (fun _ => .inr) fun _ hf => hf
  · rintro f ⟨hpath, hbak⟩
    cases hremove : ops.remove with
    | false => exact .inl (by simp [Files.template, hpath, hremove])
    | true => exact .inr (by simp [Files.template, hpath, hremove, hbak])
  · rintro f ⟨hpath, hbak⟩
    cases hrename : ops.rename with
    | false =>
      have hremove : ops.remove = true := by simpa [hrename] using hplace
      simp [Files.template, hpath, hremove, hbak]
    | true => simp [Files.template, renameBak, hbak]

theorem saveTpls2File_ends (hflush : ops.fwrite = true → content.length ≤ ops.flushed)
    (hplace : ops.remove = true ∨ ops.rename = true) :
    FilesEnd (·.path = some c) (saveTpls2File pathLen content ops)
      (fun ret f => f.template = if ret = 0 then some content else some c)
      (fun f => f.template = some c ∨ f.template = some content) := by
  have hfound (f : Files) (hf : f.path = some c) : f.template = some c := by
    rw [Files.template, hf, Option.some_or]
  have hkill (f : Files) (hf : f.path = some c) :
      f.template = some c ∨ f.template = some content :=
    .inl (hfound f hf)
  refine .ite (fun _ => .leave hkill hfound) fun _ => ?_
  refine .ite (fun _ => .leave hkill hfound) fun _ => ?_
  refine .bind (Q := fun _ f => f.path = some c)
    (.fileOp hkill fun _ hf => hf) fun _ => ?_
  refine .bind (Q := fun _ f => f.path = some c)
    (.fileOp hkill fun _ hf => hf) fun _ => ?_
  refine .bind (Q := fun _ f => f.path = some c ∧ f.bak = some (content.take ops.flushed))
    (.fileOp hkill fun _ hf => ⟨hf, rfl⟩) fun _ => ?_
  refine .ite (fun _ => ?_) fun hwritten => ?_
  · exact .leave (fun _ hf => hkill _ hf.1) fun _ hf => hfound _ hf.1
  · have hwrite : ops.fwrite = true := by simp_all
    rw [List.take_of_length_le (hflush hwrite)]
    exact replace_ends hplace

def Templates.Kept (w : Templates) : Prop := ∃ c, w.files.template = some c ∧ w.Acceptable c

theorem saved_kept {o : Outcome Process Empty Int} (hok : w.Acceptable c)
    (hret : ∀ ret, o.result = some ret →
      o.state.files.template = if ret = 0 then some content else some c) (hkill : o.result = none →
      o.state.files.template = some c ∨ o.state.files.template = some content) :
    (w.saved content o).Kept := by
  unfold Templates.saved
  split
  next hr =>
    rcases hkill hr with h | h
    · exact ⟨c, h, hok.imp_right (List.mem_append_left _)⟩
    · exact ⟨content, h, .inr (List.mem_append_right _ (List.mem_singleton_self _))⟩
  next ret hr =>
    have h := hret ret hr
    by_cases h0 : ret = 0
    · rw [if_pos h0] at h ⊢
      exact ⟨content, h, .inl rfl⟩
    · rw [if_neg h0] at h ⊢
      exact ⟨c, h, hok⟩

theorem step_kept {e : Event} (h : w.Kept) (he : w.Careful e) : (w.step pathLen e).2.Kept := by
  obtain ⟨c, hc, hok⟩ := h
  cases e with
  | start life =>
    obtain ⟨hread, hkill⟩ := readFile_ends c ⟨w.files, life⟩ hc
    refine ⟨c, ?_, hok⟩
    cases hr : (readFile ⟨w.files, life⟩).result with
    | none => exact hkill hr
    | some a => exact (hread a hr).2
  | kill => exact ⟨c, hc, hok⟩
  | save content ops life =>
    change Templates.Kept (if w.running = true then _ else w)
    by_cases hrun : w.running = true
    · obtain ⟨hpath, hflush, hplace⟩ := he hrun
      have hpath' : w.files.path = some c := by
        rwa [Files.template, Option.or_of_isSome hpath] at hc
      rw [if_pos hrun]
      obtain ⟨hret, hkill⟩ := saveTpls2File_ends hflush hplace ⟨w.files, life⟩ hpath'
      exact saved_kept hok hret hkill
    · rw [if_neg hrun]
      exact ⟨c, hc, hok⟩

/-- `read_file` returns what was saved last, or a later content. -/
theorem readFile_acceptable {pathLen : Nat} {content : List UInt8} {bak : Option (List UInt8)}
    {events : List Event}
    (h : Meets (Templates.step pathLen) Templates.Careful (Templates.begin content bak) events)
    {life : Nat} (hlife : 4 ≤ life) :
    let w := (run (Templates.step pathLen) (Templates.begin content bak) events).2
    ∃ c, (readFile ⟨w.files, life⟩).result = some c ∧ w.Acceptable c := by
  intro w
  have hkept : w.Kept :=
    run_invariant_meets (fun _ _ => step_kept) ⟨content, rfl, .inl rfl⟩ h
  obtain ⟨c, hc, hok⟩ := hkept
  refine ⟨c, ?_, hok⟩
  rw [readFile_result w.files hlife, hc, Option.getD_some]

def allDone : SaveOps := ⟨true, true, 2, 2, true, true⟩

theorem readFile_acceptable_killed :
    let events : List Event := [.start 9, .save [1, 2] allDone 4]
    Meets (Templates.step 20) Templates.Careful (Templates.begin [0] none) events ∧
      let w := (run (Templates.step 20) (Templates.begin [0] none) events).2
      w.files = ⟨none, some [1, 2]⟩ ∧
        ∃ c, (readFile ⟨w.files, 9⟩).result = some c ∧ w.Acceptable c :=
  ⟨by decide +kernel, by decide +kernel, readFile_acceptable (by decide +kernel) (by decide)⟩

theorem readFile_not_acceptable :
    let after := fun events => (run (Templates.step 20) (Templates.begin [0] none) events).2
    let flushed : Templates := after [.start 9, .save [1, 2] { allDone with flushed := 1 } 9]
    let renamed : Templates := after [.start 9, .save [1, 2] { allDone with rename := false } 9,
      .save [3, 4] allDone 1]
    let removed : Templates :=
      after [.start 9, .save [1, 2] { allDone with remove := false, rename := false } 9]
    ((readFile ⟨flushed.files, 9⟩).result = some [1] ∧ ¬flushed.Acceptable [1]) ∧
    ((readFile ⟨renamed.files, 9⟩).result = some [] ∧ ¬renamed.Acceptable []) ∧
    ((readFile ⟨removed.files, 9⟩).result = some [0] ∧ ¬removed.Acceptable [0]) := by
  decide +kernel

end WikoPlatform.Chipone.TemplateFile
