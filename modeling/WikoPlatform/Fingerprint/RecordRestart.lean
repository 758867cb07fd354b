import WikoPlatform.Fingerprint.RecordWriter

/-! The file of `ApeFpDatasUserState` over restarts. The writer goes through an `AtomicFile`; the
reader opens the file itself. -/

namespace WikoPlatform.Fingerprint.RecordRestart

open Runs RecordWriter

def parseNat (digits : List Char) : Option Nat :=
  if digits ≠ [] ∧ digits.all Char.isDigit then some (Nat.ofDigitChars 10 digits 0) else none

def parseInteger (s : String) : Option Int :=
  match s.toList with
  | [] => none
  | c :: digits =>
    if c = '-' then (parseNat digits).map fun n => -Int.ofNat n
    else if c = '+' then (parseNat digits).map Int.ofNat
    else (parseNat (c :: digits)).map Int.ofNat

def parseInt (e : Element) (name : String) : Option Int := (e.lookup name).bind parseInteger

def parseElement (e : Element) : Option ApeFpData := do
  let fingerId ← parseInt e "fingerId"
  let contactPhotoId ← parseInt e "contactPhotoId"
  let contactId ← parseInt e "contactId"
  let allowUnlockApp ← parseInt e "allowUnlockApp"
  some {
    fingerId
    package := ⟨e.lookup "appName", e.lookup "packageName", e.lookup "className",
      e.lookup "category", e.lookup "action", e.lookup "data"⟩
    contacts := ⟨e.lookup "phoneName", e.lookup "phoneNumber", contactPhotoId, contactId⟩
    allowUnlockApp }

def parse (document : Document) : Option (List ApeFpData) := document.mapM parseElement

theorem parseNat_toDigits (n : Nat) : parseNat (Nat.toDigits 10 n) = some n := by
  have hdigits : (Nat.toDigits 10 n).all Char.isDigit :=
    List.all_eq_true.mpr fun c hc => Nat.isDigit_of_mem_toDigits (by decide) (by decide) hc
  rw [parseNat, if_pos ⟨Nat.toDigits_ne_nil, hdigits⟩,
    Nat.ofDigitChars_toDigits (by decide) (by decide)]

theorem parseInteger_natRepr (n : Nat) : parseInteger n.repr = some (Int.ofNat n) := by
  have hparse := parseNat_toDigits n
  rw [parseInteger, Nat.toList_repr]
  cases hdigits : Nat.toDigits 10 n with
  | nil => exact absurd hdigits Nat.toDigits_ne_nil
  | cons c digits =>
    have hc : c.isDigit := Nat.isDigit_of_mem_toDigits (by decide) (by decide)
      (hdigits ▸ List.mem_cons_self)
    have hminus : c ≠ '-' := by
      rintro rfl
      exact absurd hc (by decide)
    have hplus : c ≠ '+' := by
      rintro rfl
      exact absurd hc (by decide)
    rw [hdigits] at hparse
    simp [hminus, hplus, hparse]

theorem parseInteger_repr (n : Int) : parseInteger n.repr = some n := by
  cases n with
  | ofNat n => exact parseInteger_natRepr n
  | negSucc n =>
    have hlist : (Int.negSucc n).repr.toList = '-' :: Nat.toDigits 10 (n + 1) := by
      change ("-" ++ (n + 1).repr).toList = _
      rw [String.toList_append, Nat.toList_repr]
      rfl
    rw [parseInteger, hlist]
    change (parseNat (Nat.toDigits 10 (n + 1))).map (fun n => -Int.ofNat n) = _
    rw [parseNat_toDigits]
    rfl

variable {serializer : Serializer}

theorem text_eq_some {value : Option String} {text : String}
    (h : serializer.text value = some text) : value = some text :=
  (Option.filter_eq_some_iff.mp h).1

theorem parseElement_element {fp : ApeFpData} {e : Element} (h : serializer.element fp = some e) :
    parseElement e = some fp := by
  simp only [Serializer.element, Option.bind_eq_bind, Option.bind_eq_some_iff] at h
  obtain ⟨appName, happ, packageName, hpackage, className, hclass, category, hcategory, action,
    haction, data, hdata, phoneName, hphone, phoneNumber, hnum, he⟩ := h
  obtain rfl := Option.some.inj he
  obtain ⟨fingerId, ⟨_, _, _, _, _, _⟩, ⟨_, _, _, _⟩, allowUnlockApp⟩ := fp
  obtain rfl := text_eq_some happ
  obtain rfl := text_eq_some hpackage
  obtain rfl := text_eq_some hclass
  obtain rfl := text_eq_some hcategory
  obtain rfl := text_eq_some haction
  obtain rfl := text_eq_some hdata
  obtain rfl := text_eq_some hphone
  obtain rfl := text_eq_some hnum
  simp [parseElement, parseInt, List.lookup_cons, parseInteger_repr]

theorem parse_document {apeFpDatas : List ApeFpData} {document : Document}
    (h : serializer.document apeFpDatas = some document) : parse document = some apeFpDatas := by
  induction apeFpDatas generalizing document with
  | nil =>
    obtain rfl := Option.some.inj h
    rfl
  | cons fp apeFpDatas ih =>
    simp only [Serializer.document, List.mapM_cons, Option.bind_eq_bind,
      Option.bind_eq_some_iff] at h
    obtain ⟨e, he, rest, hrest, hdoc⟩ := h
    obtain rfl := Option.some.inj hdoc
    have hparse := ih hrest
    rw [parse] at hparse ⊢
    rw [List.mapM_cons, parseElement_element he, hparse]
    rfl

inductive Content where
  | whole (document : Document)
  | cut
  deriving DecidableEq

/-- The file and its backup. -/
structure AtomicFile where
  base : Option Content
  backup : Option Content
  deriving DecidableEq

namespace AtomicFile

def startWrite (f : AtomicFile) : AtomicFile :=
  match f.base with
  | some content => ⟨none, f.backup.or (some content)⟩
  | none => f

def finishWrite (f : AtomicFile) : AtomicFile := { f with backup := none }

def failWrite (f : AtomicFile) : AtomicFile := ⟨f.backup, none⟩

def list (f : AtomicFile) : Option (List ApeFpData) :=
  match f.base with
  | none => some []
  | some (.whole document) => parse document
  | some .cut => none

/-- It does not look for a backup. -/
def readState (f : AtomicFile) (partly : Option (List ApeFpData)) : Option (List ApeFpData) :=
  if f.base = some .cut then partly else f.list

end AtomicFile

/-- It has its copy of the list, the old file is out of the way, the new file is there, and it is
complete. -/
inductive Stage where
  | copied
  | renamed
  | created
  | filled
  deriving DecidableEq

structure Store where
  memory : List ApeFpData
  scheduled : Nat
  writing : Option (List ApeFpData × Stage)
  file : AtomicFile
  crashed : Bool

inductive Event where
  | call (c : RecordCall)
  | write
  | restart (partly : Option (List ApeFpData))

namespace Store

def call (s : Store) (c : RecordCall) : Store :=
  let o := c.call s.memory
  { s with
    memory := o.state.apeFpDatas 0
    scheduled := s.scheduled + o.trace.length
    crashed := o.result.isNone }

def write (serializer : Serializer) (s : Store) : Store :=
  match s.writing with
  | none =>
    if s.scheduled = 0 then s
    else { s with scheduled := s.scheduled - 1, writing := some (s.memory, .copied) }
  | some (copy, .copied) =>
    { s with writing := some (copy, .renamed), file := s.file.startWrite }
  | some (copy, .renamed) =>
    { s with writing := some (copy, .created), file := { s.file with base := some .cut } }
  | some (copy, .created) =>
    match serializer.document copy with
    | some document =>
      { s with writing := some (copy, .filled)
               file := { s.file with base := some (.whole document) } }
    | none => { s with writing := none, file := s.file.failWrite, crashed := true }
  | some (_, .filled) => { s with writing := none, file := s.file.finishWrite }

def restart (s : Store) (partly : Option (List ApeFpData)) : Store :=
  let list := s.file.readState partly
  ⟨list.getD [], 0, none, s.file, list.isNone⟩

def next (serializer : Serializer) (s : Store) : Event → Store
  | .call c => if s.crashed then s else s.call c
  | .write => if s.crashed then s else s.write serializer
  | .restart partly => s.restart partly

end Store

/-- The lists that were in memory since the last completed write began, and since the present one
did. -/
structure Watched where
  store : Store
  recent : List (List ApeFpData)
  fresh : List (List ApeFpData)

structure Reread where
  list : Option (List ApeFpData)
  recent : List (List ApeFpData)
  /-- The list before the restart, if the writer had nothing left to do. -/
  settled : Option (List ApeFpData)
  deriving DecidableEq

/-- The list was in memory since the last completed write. -/
def Reread.Survived (o : Reread) : Prop :=
  ∃ list ∈ o.recent, o.list = some list ∧ ∀ memory ∈ o.settled, list = memory

instance Reread.decidableSurvived : DecidablePred Reread.Survived :=
  fun o => inferInstanceAs (Decidable
    (∃ list ∈ o.recent, o.list = some list ∧ ∀ memory ∈ o.settled, list = memory))

namespace Watched

def start : Watched := ⟨⟨[], 0, none, ⟨none, none⟩, false⟩, [[]], [[]]⟩

def settled (w : Watched) : Option (List ApeFpData) :=
  if w.store.scheduled = 0 ∧ w.store.writing = none then some w.store.memory else none

def step (serializer : Serializer) (w : Watched) (e : Event) : List Reread × Watched :=
  let store := w.store.next serializer e
  match e with
  | .call _ => ([], ⟨store, w.recent ++ [store.memory], w.fresh ++ [store.memory]⟩)
  | .write =>
    match w.store.writing with
    | none => ([], ⟨store, w.recent, [w.store.memory]⟩)
    | some (_, .filled) => ([], ⟨store, w.fresh, w.fresh⟩)
    | some _ => ([], ⟨store, w.recent, w.fresh⟩)
  | .restart partly =>
    ([⟨w.store.file.readState partly, w.recent, w.settled⟩],
      ⟨store, [store.memory], [store.memory]⟩)

def stage (w : Watched) : Option Stage := w.store.writing.map (·.2)

/-- No string is `null`, and no restart finds half a file. -/
def Spared (w : Watched) : Event → Prop
  | .call c => none ∉ c.strings
  | .write => True
  | .restart _ => w.stage ≠ some .renamed ∧ w.stage ≠ some .created

instance decidableSpared (w : Watched) : DecidablePred w.Spared
  | .call c => inferInstanceAs (Decidable (none ∉ c.strings))
  | .write => inferInstanceAs (Decidable True)
  | .restart _ => inferInstanceAs (Decidable (w.stage ≠ some .renamed ∧ w.stage ≠ some .created))

end Watched

theorem readState_of_list {f : AtomicFile} {list : List ApeFpData} (h : f.list = some list)
    (partly : Option (List ApeFpData)) : f.readState partly = some list := by
  have hbase : f.base ≠ some .cut := by
    intro hcut
    rw [AtomicFile.list, hcut] at h
    cases h
  rw [AtomicFile.readState, if_neg hbase, h]

theorem takes_of_nonNull {values : List (Option String)} (h : none ∉ values) :
    allStrings.Takes values := by
  intro value hvalue
  cases value with
  | none => exact absurd hvalue h
  | some text => rfl

variable {w : Watched} {e : Event} {c : RecordCall} {copy : List ApeFpData}
  {partly : Option (List ApeFpData)}

theorem throws_of_nonNull (h : none ∉ c.strings) : c.throws = false := by
  refine Bool.eq_false_iff.mpr fun hthrows => h ?_
  cases c with
  | addApeFpData | removeApeFpData | updatePrivLockValue => cases hthrows
  | updateQBPackageInfo fingerId info =>
    have hnull : info.packageName = none := Option.isNone_iff_eq_none.mp hthrows
    simp [RecordCall.strings, PackageInfo.strings, hnull]
  | updateQBContactsInfo fingerId info =>
    have hnull : info.phoneNumber = none := Option.isNone_iff_eq_none.mp hthrows
    simp [RecordCall.strings, ContactsInfo.strings, hnull]

def Writable (list : List ApeFpData) : Prop := ∀ fp ∈ list, allStrings.Writable fp

theorem call_spec {s : Store} (h : Writable s.memory) (hc : none ∉ c.strings) :
    (s.call c).crashed = false ∧ Writable (s.call c).memory ∧
      ((s.call c).scheduled = 0 → s.scheduled = 0 ∧ (s.call c).memory = s.memory) := by
  unfold Store.call
  cases hfound : c.found s.memory with
  | false =>
    rw [RecordCall.call_not_found hfound]
    exact ⟨rfl, h, fun h0 => ⟨h0, rfl⟩⟩
  | true =>
    rw [RecordCall.call_found hfound (throws_of_nonNull hc)]
    refine ⟨rfl, ?_, fun h0 => absurd h0 (Nat.succ_ne_zero _)⟩
    have hchanged := (RecordCall.changed_writable_iff h hfound).mpr (takes_of_nonNull hc)
    simpa [Writable] using hchanged

structure Inv (w : Watched) : Prop where
  alive : w.store.crashed = false
  writable : ∀ list ∈ w.recent, Writable list
  memory : w.store.memory ∈ w.recent
  idle : w.store.writing = none → ∃ list ∈ w.recent, w.store.file.list = some list ∧
    (w.store.scheduled = 0 → list = w.store.memory)
  busy : ∀ copy stage, w.store.writing = some (copy, stage) →
    (w.store.memory ∈ w.fresh ∧ copy ∈ w.fresh ∧ w.fresh ⊆ w.recent) ∧
    (w.store.scheduled = 0 → copy = w.store.memory) ∧
    (stage = .copied → ∃ list ∈ w.recent, w.store.file.list = some list) ∧
    (stage = .filled → w.store.file.list = some copy)

theorem start_inv : Inv Watched.start where
  alive := rfl
  writable := by
    intro list hlist
    rw [List.mem_singleton.mp hlist]
    exact List.forall_mem_nil _
  memory := List.mem_singleton_self _
  idle _ := ⟨[], List.mem_singleton_self _, rfl, fun _ => rfl⟩
  busy _ _ h := by cases h

theorem call_inv (h : Inv w) (hc : none ∉ c.strings) : Inv (w.step allStrings (.call c)).2 := by
  obtain ⟨halive, hwritable, hscheduled⟩ := call_spec (h.writable _ h.memory) hc
  have hnext : w.store.next allStrings (.call c) = w.store.call c :=
    if_neg (Bool.eq_false_iff.mp h.alive)
  rw [Watched.step, hnext]
  exact
    { alive := halive
      writable := List.forall_mem_append.mpr ⟨h.writable, List.forall_mem_singleton.mpr hwritable⟩
      memory := List.mem_append_right _ (List.mem_singleton_self _)
      idle := by
        intro hwriting
        obtain ⟨list, hmem, hlist, hsettle⟩ := h.idle hwriting
        refine ⟨list, List.mem_append_left _ hmem, hlist, fun h0 => ?_⟩
        obtain ⟨h0', hsame⟩ := hscheduled h0
        exact (hsettle h0').trans hsame.symm
      busy := by
        intro copy stage hwriting
        obtain ⟨⟨-, hcopy, hsubset⟩, hsettle, hcopied, hfill⟩ := h.busy copy stage hwriting
        refine ⟨⟨List.mem_append_right _ (List.mem_singleton_self _), List.mem_append_left _ hcopy,
          List.append_subset.mpr ⟨?_, ?_⟩⟩, fun h0 => ?_, fun hstage => ?_, hfill⟩
        · exact fun list hlist => List.mem_append_left _ (hsubset hlist)
        · exact List.subset_append_right _ _
        · obtain ⟨h0', hsame⟩ := hscheduled h0
          exact (hsettle h0').trans hsame.symm
        · obtain ⟨list, hmem, hlist⟩ := hcopied hstage
          exact ⟨list, List.mem_append_left _ hmem, hlist⟩ }

theorem begin_inv (h : Inv w) (hwriting : w.store.writing = none) :
    Inv ⟨w.store.write allStrings, w.recent, [w.store.memory]⟩ := by
  obtain ⟨list, hmem, hlist, hsettle⟩ := h.idle hwriting
  unfold Store.write
  rw [hwriting]
  dsimp only
  split
  · exact ⟨h.alive, h.writable, h.memory, fun _ => ⟨list, hmem, hlist, hsettle⟩,
      fun _ _ hbusy => by rw [hwriting] at hbusy; cases hbusy⟩
  · refine ⟨h.alive, h.writable, h.memory, fun hidle => (nomatch hidle), ?_⟩
    rintro _ _ ⟨⟩
    refine ⟨⟨List.mem_singleton_self _, List.mem_singleton_self _, ?_⟩, fun _ => rfl,
      fun _ => ⟨list, hmem, hlist⟩, fun hstage => nomatch hstage⟩
    exact List.cons_subset.mpr ⟨h.memory, List.nil_subset _⟩

theorem go_on_inv (h : Inv w) {stage stage' : Stage}
    (hwriting : w.store.writing = some (copy, stage)) {file : AtomicFile}
    (hstage' : stage' ≠ .copied) (hfile : stage' = .filled → file.list = some copy) :
    Inv ⟨{ w.store with writing := some (copy, stage'), file }, w.recent, w.fresh⟩ := by
  obtain ⟨hfresh, hsettle, -, -⟩ := h.busy copy stage hwriting
  refine ⟨h.alive, h.writable, h.memory, fun hidle => (nomatch hidle), ?_⟩
  rintro _ _ ⟨⟩
  exact ⟨hfresh, hsettle, fun hcopied => absurd hcopied hstage', hfile⟩

theorem finish_inv (h : Inv w) (hwriting : w.store.writing = some (copy, .filled)) :
    Inv ⟨{ w.store with writing := none, file := w.store.file.finishWrite }, w.fresh, w.fresh⟩ := by
  obtain ⟨⟨hmemory, hcopy, hsubset⟩, hsettle, -, hfill⟩ := h.busy copy _ hwriting
  refine ⟨h.alive, fun list hlist => h.writable list (hsubset hlist), hmemory, fun _ => ?_,
    fun _ _ hbusy => nomatch hbusy⟩
  exact ⟨copy, hcopy, hfill rfl, hsettle⟩

theorem write_inv (h : Inv w) : Inv (w.step allStrings .write).2 := by
  have hnext : w.store.next allStrings .write = w.store.write allStrings :=
    if_neg (Bool.eq_false_iff.mp h.alive)
  unfold Watched.step
  rw [hnext]
  cases hwriting : w.store.writing with
  | none => exact begin_inv h hwriting
  | some run =>
    obtain ⟨copy, stage⟩ := run
    unfold Store.write
    rw [hwriting]
    cases stage with
    | copied | renamed => exact go_on_inv h hwriting (by decide) (fun hstage => nomatch hstage)
    | created =>
      obtain ⟨⟨-, hcopy, hsubset⟩, -⟩ := h.busy copy _ hwriting
      obtain ⟨document, hdoc⟩ := Option.isSome_iff_exists.mp
        ((allStrings.document_isSome_iff copy).mpr (h.writable copy (hsubset hcopy)))
      dsimp only
      rw [hdoc]
      exact go_on_inv h hwriting (by decide) fun _ => parse_document hdoc
    | filled => exact finish_inv h hwriting

theorem spared_list (h : Inv w) (hspare : w.Spared (.restart partly)) :
    ∃ list ∈ w.recent, w.store.file.list = some list ∧ ∀ memory ∈ w.settled, list = memory := by
  cases hwriting : w.store.writing with
  | none =>
    obtain ⟨list, hmem, hlist, hsettle⟩ := h.idle hwriting
    refine ⟨list, hmem, hlist, fun memory hmemory => ?_⟩
    rw [Watched.settled] at hmemory
    split at hmemory
    next h0 => exact (hsettle h0.1).trans (Option.mem_some_iff.mp hmemory)
    next => cases hmemory
  | some run =>
    obtain ⟨copy, stage⟩ := run
    have hstage : w.stage = some stage := by rw [Watched.stage, hwriting, Option.map_some]
    have hunsettle : w.settled = none := if_neg fun h0 => by
      rw [hwriting] at h0
      cases h0.2
    obtain ⟨⟨-, hcopy, hsubset⟩, -, hcopied, hfill⟩ := h.busy copy stage hwriting
    rw [hunsettle]
    cases stage with
    | copied =>
      obtain ⟨list, hmem, hlist⟩ := hcopied rfl
      exact ⟨list, hmem, hlist, fun _ hnone => nomatch hnone⟩
    | renamed => exact absurd hstage hspare.1
    | created => exact absurd hstage hspare.2
    | filled => exact ⟨copy, hsubset hcopy, hfill rfl, fun _ hnone => nomatch hnone⟩

theorem restart_inv {list : List ApeFpData} (hlist : w.store.file.list = some list)
    (hwritable : Writable list) : Inv (w.step allStrings (.restart partly)).2 := by
  have hnext : w.store.next allStrings (.restart partly) =
      ⟨list, 0, none, w.store.file, false⟩ := by
    rw [Store.next, Store.restart, readState_of_list hlist]
    rfl
  rw [Watched.step, hnext]
  refine ⟨rfl, List.forall_mem_singleton.mpr hwritable, List.mem_singleton_self _, fun _ => ?_,
    fun _ _ hbusy => nomatch hbusy⟩
  exact ⟨list, List.mem_singleton_self _, hlist, fun _ => rfl⟩

theorem step_inv (h : Inv w) (hspare : w.Spared e) : Inv (w.step allStrings e).2 := by
  cases e with
  | call c => exact call_inv h hspare
  | write => exact write_inv h
  | restart partly =>
    obtain ⟨list, hmem, hlist, -⟩ := spared_list h hspare
    exact restart_inv hlist (h.writable list hmem)

theorem step_survived (h : Inv w) (hspare : w.Spared e) :
    ∀ o ∈ (w.step allStrings e).1, o.Survived := by
  cases e with
  | call c => exact List.forall_mem_nil _
  | write =>
    unfold Watched.step
    dsimp only
    split <;> exact List.forall_mem_nil _
  | restart partly =>
    obtain ⟨list, hmem, hlist, hsettle⟩ := spared_list h hspare
    refine List.forall_mem_singleton.mpr ⟨list, hmem, readState_of_list hlist partly, hsettle⟩

/-- A restart reads what was in memory lately. -/
theorem restarts_survived {events : List Event}
    (h : Meets (Watched.step allStrings) Watched.Spared Watched.start events) :
    ∀ o ∈ (run (Watched.step allStrings) Watched.start events).1, o.Survived := by
  have hstep (trace : List Reread) (w : Watched) (e : Event)
      (hinv : (∀ o ∈ trace, o.Survived) ∧ Inv w) (hspare : w.Spared e) :
      (∀ o ∈ trace ++ (w.step allStrings e).1, o.Survived) ∧ Inv (w.step allStrings e).2 :=
    ⟨List.forall_mem_append.mpr ⟨hinv.1, step_survived hinv.2 hspare⟩, step_inv hinv.2 hspare⟩
  exact (run_invariant hstep ⟨List.forall_mem_nil _, start_inv⟩ h).1

theorem restarts_survived_between :
    let events : List Event := [.call (.addApeFpData 1), .write, .write, .write, .write, .write,
      .call (.addApeFpData 2), .restart none, .call (.removeApeFpData 1), .write, .write, .write,
      .write, .restart none]
    let rereads := (run (Watched.step allStrings) Watched.start events).1
    Meets (Watched.step allStrings) Watched.Spared Watched.start events ∧
      rereads.map (·.list) = [some [⟨1, .empty, .empty, 0⟩], some []] ∧
      ∀ o ∈ rereads, o.Survived := by
  intro events rereads
  have hspare : Meets (Watched.step allStrings) Watched.Spared Watched.start events := by
    decide +kernel
  exact ⟨hspare, by decide +kernel, restarts_survived hspare⟩

theorem restarts_not_survived :
    let first : List Event := [.call (.addApeFpData 1), .write, .write, .write, .write, .write,
      .call (.addApeFpData 2), .write, .write]
    let rereads := fun events => (run (Watched.step allStrings) Watched.start events).1
    (rereads (first ++ [Event.restart none])).map (·.list) = [some []] ∧
    (rereads (first ++ [Event.write, .restart none])).map (·.list) = [none] ∧
    (¬∀ o ∈ rereads (first ++ [Event.restart none]), o.Survived) ∧
    ¬∀ o ∈ rereads (first ++ [Event.write, .restart none]), o.Survived := by
  decide +kernel

end WikoPlatform.Fingerprint.RecordRestart
