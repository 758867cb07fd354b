import WikoPlatform.Lib.Act

/-! The features of the sensor in `/system/etc/fingerprint_config.xml`. `parse` takes from the
preferences what has been changed since the first boot. -/

namespace WikoPlatform.FileLock.FingerConfig

open Runs Act

structure FpItem where
  id : String
  value : String
  deriving DecidableEq

inductive ParserEvent where
  | startDocument
  | startTag (name : String) (id value : Option String)
  | endTag
  | text
  | endDocument
  deriving DecidableEq

/-- The loop of `readXml`; a null list after an exception. -/
def readEvents : Nat → ParserEvent → List (Option ParserEvent) → List FpItem →
    Option (Option (List FpItem))
  | 0, _, _, _ => none
  | fuel + 1, eventType, rest, list =>
    let advance (list : List FpItem) :=
      match rest with
      | [] => readEvents fuel .endDocument [] list
      | none :: _ => some none
      | some event :: rest => readEvents fuel event rest list
    match eventType with
    | .endDocument => some (some list)
    | .startTag name id value =>
      if name = "fingerprint" then
        match id, value with
        | some id, some value => advance (list ++ [⟨id, value⟩])
        -- `continue` goes back to the same event
        | _, _ => readEvents fuel eventType rest list
      else advance list
    | _ => advance list

/-- What the calls on the file give. -/
structure Reading where
  /-- `FileReader` found the file. -/
  opened : Bool
  /-- So did `FileInputStream`. -/
  streamOpened : Bool
  inputSet : Bool
  events : List (Option ParserEvent)
  /-- `is.close` succeeded in `readXml`. -/
  closed : Bool
  /-- So did `is.close` in `parse`. -/
  closedAgain : Bool

def readXml (fuel : Nat) (reading : Reading) : Option (Option (List FpItem)) :=
  if reading.inputSet = false then some none
  else
    match readEvents fuel .startDocument reading.events [] with
    | some (some list) => some (if reading.closed then some list else none)
    | result => result

/-- The preferences, and the editor that is not committed yet. -/
structure Store where
  mSharedPreferences : String → Option String
  mEditor : List (String × String)
  needCommit : Bool

structure Config where
  mList : Option (List FpItem)
  store : Store

abbrev Parse (α : Type) : Type := Act Config Empty α

def changeStore (f : Store → Store) : Parse Unit := modify fun s => { s with store := f s.store }

def Store.editorCommit (store : Store) : Store :=
  { store with
    mSharedPreferences := store.mEditor.foldl
      (fun prefs edit => Function.update prefs edit.1 (some edit.2)) store.mSharedPreferences
    mEditor := [] }

def newStore : Parse Unit :=
  changeStore fun store => { store with mEditor := [], needCommit := false }

def isFristBoot : Parse Bool := do
  if (← get).store.mSharedPreferences "fristboot" = none then
    changeStore fun store =>
      { store with mEditor := store.mEditor ++ [("fristboot", "!frist")] }.editorCommit
    return true
  else return false

def put (id value : String) : Parse Unit :=
  changeStore fun store =>
    { store with mEditor := store.mEditor ++ [(id, value)], needCommit := true }

def storeGet (id : String) : Parse (Option String) := do
  return (← get).store.mSharedPreferences id

def commit : Parse Unit := do
  if (← get).store.needCommit then
    changeStore fun store => { store.editorCommit with needCommit := false }

def putAll : List FpItem → Parse Unit
  | [] => pure ()
  | item :: rest => do
    put item.id item.value
    putAll rest

/-- The value of the item is the stored one, if there is one. -/
def adopt (item : FpItem) : Parse FpItem := do
  match ← storeGet item.id with
  | some newValue =>
    if newValue ≠ item.value ∧ newValue ≠ "" then return { item with value := newValue }
    else return item
  | none =>
    put item.id item.value
    commit
    return item

def adoptAll : List FpItem → List FpItem → Parse Unit
  | _, [] => pure ()
  | done, item :: rest => do
    let item ← adopt item
    modify fun s => { s with mList := some (done ++ item :: rest) }
    adoptAll (done ++ [item]) rest

def restore (items : List FpItem) : Parse Unit := do
  newStore
  if ← isFristBoot then
    putAll items
    commit
  else adoptAll [] items

def parseList (list : Option (List FpItem)) (closedAgain : Bool) : Parse Unit := do
  modify fun s => { s with mList := list }
  if closedAgain = false then return ()
  else
    match (← get).mList with
    | none => throw
    | some items => restore items

def parse (fuel : Nat) (reading : Reading) (s : Config) : Option (Outcome Config Empty Unit) :=
  if reading.opened = false ∨ reading.streamOpened = false then some ⟨[], s, some ()⟩
  else (readXml fuel reading).map fun list => parseList list reading.closedAgain s

def getValueFromId (id : Option String) : Parse (Option String) := do
  match (← get).mList with
  | none => throw
  | some items => return (items.find? fun item => some item.id = id).map FpItem.value

/-- `parse` ends, and no value that is asked for throws. -/
def Usable (reading : Reading) (s : Config) : Prop :=
  ∃ fuel out, parse fuel reading s = some out ∧ out.result ≠ none ∧
    ∀ id, (getValueFromId id out.state).result ≠ none

def ParserEvent.Complete : ParserEvent → Prop
  | .startTag name id value => name = "fingerprint" → id ≠ none ∧ value ≠ none
  | _ => True

/-- The document ends with no exception, and its tags are complete. -/
def WellRead : List (Option ParserEvent) → Prop
  | [] => True
  | none :: _ => False
  | some .endDocument :: _ => True
  | some event :: rest => event.Complete ∧ WellRead rest

def ParserEvent.items : ParserEvent → List FpItem
  | .startTag name (some id) (some value) => if name = "fingerprint" then [⟨id, value⟩] else []
  | _ => []

def documentItems : List (Option ParserEvent) → List FpItem
  | [] | none :: _ | some .endDocument :: _ => []
  | some event :: rest => event.items ++ documentItems rest

section

variable {event : ParserEvent} {rest : List (Option ParserEvent)} {list : List FpItem}

theorem readEvents_incomplete (h : ¬event.Complete) (fuel : Nat) :
    readEvents fuel event rest list = none := by
  induction fuel with
  | zero => rfl
  | succ fuel ih =>
    cases event with
    | startDocument | endTag | text | endDocument => exact absurd trivial h
    | startTag name id value =>
      obtain ⟨hname, hmissing⟩ := Classical.not_imp.mp h
      cases id with
      | none => simpa only [readEvents, hname, if_true] using ih
      | some id =>
        cases value with
        | none => simpa only [readEvents, hname, if_true] using ih
        | some value => exact absurd ⟨Option.some_ne_none id, Option.some_ne_none value⟩ hmissing

theorem readEvents_complete (h : event.Complete) (hgoes : event ≠ .endDocument) (fuel : Nat) :
    readEvents (fuel + 1) event rest list =
      match rest with
      | [] => readEvents fuel .endDocument [] (list ++ event.items)
      | none :: _ => some none
      | some event' :: rest => readEvents fuel event' rest (list ++ event.items) := by
  match event, h, hgoes with
  | .startDocument, _, _ | .endTag, _, _ | .text, _, _ =>
    simp only [readEvents, ParserEvent.items, List.append_nil]
  | .startTag name id value, h, _ =>
    by_cases hname : name = "fingerprint"
    · obtain ⟨id, rfl⟩ := Option.ne_none_iff_exists'.mp (h hname).1
      obtain ⟨value, rfl⟩ := Option.ne_none_iff_exists'.mp (h hname).2
      simp only [readEvents, ParserEvent.items, hname, if_true]
    · cases id <;> cases value <;>
        simp only [readEvents, ParserEvent.items, hname, if_false, List.append_nil]

theorem wellRead_cons_iff (hgoes : event ≠ .endDocument) :
    WellRead (some event :: rest) ↔ event.Complete ∧ WellRead rest := by
  cases event with
  | endDocument => exact absurd rfl hgoes
  | startDocument | startTag | endTag | text => rfl

def Lists (event : ParserEvent) (rest : List (Option ParserEvent)) (list : List FpItem) : Prop :=
  ∃ fuel list', readEvents fuel event rest list = some (some list')

theorem documentItems_cons (hgoes : event ≠ .endDocument) :
    documentItems (some event :: rest) = event.items ++ documentItems rest := by
  cases event with
  | endDocument => exact absurd rfl hgoes
  | startDocument | startTag | endTag | text => rfl

theorem readEvents_wellRead (h : WellRead (some event :: rest)) :
    ∃ fuel, readEvents fuel event rest list =
      some (some (list ++ documentItems (some event :: rest))) := by
  induction rest generalizing event list with
  | nil =>
    by_cases hend : event = .endDocument
    · exact ⟨1, by simp [hend, readEvents, documentItems]⟩
    · refine ⟨2, ?_⟩
      rw [readEvents_complete ((wellRead_cons_iff hend).mp h).1 hend, documentItems_cons hend]
      simp [readEvents, documentItems]
  | cons next rest ih =>
    by_cases hend : event = .endDocument
    · exact ⟨1, by simp [hend, readEvents, documentItems]⟩
    · obtain ⟨hcomplete, hrest⟩ := (wellRead_cons_iff hend).mp h
      cases next with
      | none => exact absurd hrest id
      | some event' =>
        obtain ⟨fuel, hread⟩ := @ih event' (list ++ event.items) hrest
        refine ⟨fuel + 1, ?_⟩
        rw [readEvents_complete hcomplete hend, documentItems_cons hend, ← List.append_assoc]
        exact hread

theorem wellRead_of_readEvents {fuel : Nat} {list' : List FpItem}
    (h : readEvents fuel event rest list = some (some list')) : WellRead (some event :: rest) := by
  induction fuel generalizing event rest list with
  | zero => cases h
  | succ fuel ih =>
    by_cases hend : event = .endDocument
    · rw [hend]
      trivial
    by_cases hcomplete : event.Complete
    · rw [readEvents_complete hcomplete hend] at h
      refine (wellRead_cons_iff hend).mpr ⟨hcomplete, ?_⟩
      match rest, h with
      | [], _ => trivial
      | some _ :: _, h => exact ih h
    · rw [readEvents_incomplete hcomplete] at h
      cases h

theorem lists_iff : Lists event rest list ↔ WellRead (some event :: rest) := by
  refine ⟨fun ⟨_, _, h⟩ => wellRead_of_readEvents h, fun h => ?_⟩
  obtain ⟨fuel, hread⟩ := readEvents_wellRead h
  exact ⟨fuel, _, hread⟩

end

def Config.Listed (s : Config) : Prop := s.mList ≠ none

def Safe {α : Type} (x : Parse α) : Prop :=
  Ends Config.Listed x (fun _ => Config.Listed) fun _ => False

section

variable {α β : Type}

theorem Safe.pure (a : α) : Safe (Pure.pure a) := Ends.pure fun _ h => h

theorem Safe.bind {x : Parse α} {f : α → Parse β} (hx : Safe x) (hf : ∀ a, Safe (f a)) :
    Safe (x >>= f) :=
  Ends.bind hx hf

theorem Safe.get_bind {f : Config → Parse β} (h : ∀ s, Safe (f s)) : Safe (get >>= f) :=
  fun s hs => h s s hs

theorem changeStore_safe (f : Store → Store) : Safe (changeStore f) := Ends.modify fun _ h => h

theorem isFristBoot_safe : Safe isFristBoot := by
  refine .get_bind fun s => ?_
  split
  · exact (changeStore_safe _).bind fun _ => .pure true
  · exact .pure false

theorem commit_safe : Safe commit := by
  refine .get_bind fun s => ?_
  split
  · exact changeStore_safe _
  · exact .pure ()

theorem putAll_safe (items : List FpItem) : Safe (putAll items) := by
  induction items with
  | nil => exact .pure ()
  | cons item rest ih => exact (changeStore_safe _).bind fun _ => ih

theorem adopt_safe (item : FpItem) : Safe (adopt item) := by
  have hget : Safe (storeGet item.id) := .get_bind fun _ => .pure _
  refine hget.bind fun stored => ?_
  cases stored with
  | none => exact (changeStore_safe _).bind fun _ => commit_safe.bind fun _ => .pure item
  | some newValue =>
    dsimp only
    split
    · exact .pure _
    · exact .pure item

theorem adoptAll_safe (done items : List FpItem) : Safe (adoptAll done items) := by
  induction items generalizing done with
  | nil => exact .pure ()
  | cons item rest ih =>
    refine (adopt_safe item).bind fun item => ?_
    have hset : Safe (modify fun s => { s with mList := some (done ++ item :: rest) }) :=
      Ends.modify fun _ _ => Option.some_ne_none _
    exact hset.bind fun _ => ih _

theorem restore_safe (items : List FpItem) : Safe (restore items) := by
  refine (changeStore_safe _).bind fun _ => isFristBoot_safe.bind fun first => ?_
  split
  · exact (putAll_safe items).bind fun _ => commit_safe
  · exact adoptAll_safe [] items

end

theorem parseList_listed_iff (list : Option (List FpItem)) (closedAgain : Bool) (s : Config) :
    (parseList list closedAgain s).result ≠ none ∧ (parseList list closedAgain s).state.Listed ↔
      list ≠ none := by
  cases list with
  | none => cases closedAgain <;> simp [parseList, Config.Listed]
  | some items =>
    refine iff_of_true ?_ (Option.some_ne_none items)
    have hlisted : Config.Listed { s with mList := some items } := Option.some_ne_none items
    cases closedAgain with
    | false => exact ⟨Option.some_ne_none (), hlisted⟩
    | true =>
      obtain ⟨hres, hthrown⟩ := restore_safe items _ hlisted
      have hnot : (restore items { s with mList := some items }).result ≠ none := hthrown
      obtain ⟨a, ha⟩ := Option.ne_none_iff_exists'.mp hnot
      exact ⟨hnot, hres a ha⟩

theorem getValueFromId_result_iff (s : Config) :
    (∀ id, (getValueFromId id s).result ≠ none) ↔ s.Listed := by
  unfold Config.Listed getValueFromId
  simp only [get_bind]
  cases s.mList with
  | none | some items => simp

theorem readXml_eq_some_iff (fuel : Nat) (reading : Reading) (list : List FpItem) :
    readXml fuel reading = some (some list) ↔ reading.inputSet = true ∧
      readEvents fuel .startDocument reading.events [] = some (some list) ∧
        reading.closed = true := by
  unfold readXml
  cases reading.inputSet with
  | false => simp
  | true =>
    match readEvents fuel .startDocument reading.events [] with
    | none | some none => simp
    | some (some read) => cases reading.closed <;> simp

theorem readXml_some_iff (reading : Reading) :
    (∃ fuel list, readXml fuel reading = some (some list)) ↔
      reading.inputSet = true ∧ WellRead reading.events ∧ reading.closed = true := by
  have hlists : Lists .startDocument reading.events [] ↔ WellRead reading.events := by
    rw [lists_iff]
    exact and_iff_right trivial
  simp only [readXml_eq_some_iff, exists_and_left, exists_and_right, ← hlists, Lists]

/-- Usable exactly if the file is not there, or well read. -/
theorem configUsable_iff (reading : Reading) (items : List FpItem) (store : Store) :
    Usable reading ⟨some items, store⟩ ↔ (reading.opened = true → reading.streamOpened = true →
        reading.inputSet = true ∧ WellRead reading.events ∧ reading.closed = true) := by
  rw [← readXml_some_iff]
  unfold Usable
  simp only [getValueFromId_result_iff]
  by_cases hclose : reading.opened = false ∨ reading.streamOpened = false
  · refine iff_of_true ⟨0, _, if_pos hclose, Option.some_ne_none (), Option.some_ne_none items⟩ ?_
    intro hopen hstream
    simp [hopen, hstream] at hclose
  · have hparse : ∀ fuel, parse fuel reading ⟨some items, store⟩ = (readXml fuel reading).map
        fun list => parseList list reading.closedAgain ⟨some items, store⟩ :=
      fun fuel => if_neg hclose
    simp only [not_or, Bool.not_eq_false] at hclose
    simp only [hparse, Option.map_eq_some_iff, hclose, forall_const]
    constructor
    · rintro ⟨fuel, _, ⟨list, hread, rfl⟩, hlisted⟩
      obtain ⟨list, rfl⟩ := Option.ne_none_iff_exists'.mp ((parseList_listed_iff _ _ _).mp hlisted)
      exact ⟨fuel, list, hread⟩
    · rintro ⟨fuel, list, hread⟩
      exact ⟨fuel, _, ⟨some list, hread, rfl⟩,
        (parseList_listed_iff _ _ _).mpr (Option.some_ne_none list)⟩

theorem not_configUsable_incomplete :
    ¬Usable ⟨true, true, true, [some (.startTag "fingerprint" (some "vib times") none)], true, true⟩
      ⟨some [], ⟨fun _ => none, [], false⟩⟩ := by
  rintro ⟨fuel, out, hparse, -⟩
  have hstuck : ∀ fuel, readEvents fuel (.startTag "fingerprint" (some "vib times") none) [] [] =
      none := readEvents_incomplete fun h => (h rfl).2 rfl
  have hnever : ∀ fuel, readEvents fuel .startDocument
      [some (.startTag "fingerprint" (some "vib times") none)] [] = none := by
    intro fuel
    cases fuel with
    | zero => rfl
    | succ fuel => exact hstuck fuel
  simp [parse, readXml, hnever] at hparse

def Reading.whole (events : List (Option ParserEvent)) : Reading :=
  ⟨true, true, true, events, true, true⟩

/-- The value in the preferences, unless it is empty. -/
def kept (prefs : String → Option String) (item : FpItem) : FpItem :=
  match prefs item.id with
  | some value => if value = "" then item else { item with value }
  | none => item

/-- What an item is to be after `parse`. -/
def settled (prefs : String → Option String) (item : FpItem) : FpItem :=
  if prefs "fristboot" = none then item else kept prefs item

section

variable {prefs : String → Option String} {items : List FpItem} {item : FpItem}

def set (f : Option String → String → String) (prefs : String → Option String) (item : FpItem) :
    String → Option String :=
  Function.update prefs item.id (some (f (prefs item.id) item.value))

def settledPrefs (prefs : String → Option String) (items : List FpItem) : String → Option String :=
  if prefs "fristboot" = none then
    items.foldl (set fun _ value => value) (Function.update prefs "fristboot" (some "!frist"))
  else items.foldl (set Option.getD) prefs

theorem foldl_set_of_notMem {f : Option String → String → String} {key : String}
    (h : key ∉ items.map FpItem.id) : items.foldl (set f) prefs key = prefs key := by
  induction items generalizing prefs with
  | nil => rfl
  | cons item rest ih =>
    rw [List.map_cons, List.mem_cons, not_or] at h
    exact (ih h.2).trans (Function.update_of_ne h.1 _ _)

theorem foldl_set {f : Option String → String → String} (hids : (items.map FpItem.id).Nodup)
    (h : item ∈ items) :
    items.foldl (set f) prefs item.id = some (f (prefs item.id) item.value) := by
  induction items generalizing prefs with
  | nil => exact absurd h List.not_mem_nil
  | cons first rest ih =>
    rw [List.map_cons, List.nodup_cons] at hids
    rcases List.mem_cons.mp h with rfl | hrest
    · exact (foldl_set_of_notMem hids.1).trans (Function.update_self _ _ _)
    · have hne : item.id ≠ first.id := fun heq => hids.1 (heq ▸ List.mem_map_of_mem hrest)
      rw [List.foldl_cons, ih hids.2 hrest, set, Function.update_of_ne hne]

theorem set_getD_of_some (h : prefs item.id ≠ none) : set Option.getD prefs item = prefs := by
  obtain ⟨value, hvalue⟩ := Option.ne_none_iff_exists'.mp h
  rw [set, hvalue, Option.getD_some, ← hvalue, Function.update_eq_self]

theorem foldl_set_getD (h : ∀ item ∈ items, prefs item.id ≠ none) :
    items.foldl (set Option.getD) prefs = prefs := by
  induction items with
  | nil => rfl
  | cons item rest ih =>
    rw [List.foldl_cons, set_getD_of_some (h item (.head _))]
    exact ih fun other hother => h other (.tail _ hother)

theorem settledPrefs_of_mem (hids : (items.map FpItem.id).Nodup) (h : item ∈ items) :
    settledPrefs prefs items item.id = some (if prefs "fristboot" = none then item.value
      else (prefs item.id).getD item.value) := by
  unfold settledPrefs
  split <;> rw [foldl_set hids h]

theorem settledPrefs_fristboot (hids : (items.map FpItem.id).Nodup) :
    settledPrefs prefs items "fristboot" ≠ none := by
  by_cases h : "fristboot" ∈ items.map FpItem.id
  · obtain ⟨item, hitem, hid⟩ := List.mem_map.mp h
    rw [← hid, settledPrefs_of_mem hids hitem]
    exact Option.some_ne_none _
  · unfold settledPrefs
    split
    · simp [foldl_set_of_notMem h]
    · rwa [foldl_set_of_notMem h]

theorem adopt_eq (item : FpItem) (list : Option (List FpItem)) :
    adopt item ⟨list, ⟨prefs, [], false⟩⟩ =
      ⟨[], ⟨list, ⟨set Option.getD prefs item, [], false⟩⟩, some (kept prefs item)⟩ := by
  have hget : storeGet item.id ⟨list, ⟨prefs, [], false⟩⟩ =
      ⟨[], ⟨list, ⟨prefs, [], false⟩⟩, some (prefs item.id)⟩ := rfl
  rw [adopt, bind_of_silent hget]
  cases hp : prefs item.id with
  | none => simp only [kept, set, hp]; rfl
  | some value =>
    rw [set_getD_of_some (by simp [hp]), kept, hp]
    by_cases hempty : value = ""
    · simp [hempty]
    · by_cases hsame : value = item.value <;> simp [hempty, hsame]

theorem adoptAll_eq (done items : List FpItem) (hids : (items.map FpItem.id).Nodup) :
    adoptAll done items ⟨some (done ++ items), ⟨prefs, [], false⟩⟩ =
      ⟨[], ⟨some (done ++ items.map (kept prefs)),
        ⟨items.foldl (set Option.getD) prefs, [], false⟩⟩, some ()⟩ := by
  induction items generalizing done prefs with
  | nil => rfl
  | cons item rest ih =>
    rw [List.map_cons, List.nodup_cons] at hids
    have hrest : rest.map (kept (set Option.getD prefs item)) = rest.map (kept prefs) := by
      refine List.map_congr_left fun other hother => ?_
      have hne : other.id ≠ item.id := fun heq => hids.1 (heq ▸ List.mem_map_of_mem hother)
      rw [kept, set, Function.update_of_ne hne, kept]
    have hnext := @ih (set Option.getD prefs item) (done ++ [kept prefs item]) hids.2
    rw [adoptAll, bind_of_silent (adopt_eq item _), modify_bind]
    simpa [hrest] using hnext

theorem putAll_eq (items : List FpItem) (s : Config) :
    putAll items s = ⟨[], { s with store := { s.store with
      mEditor := s.store.mEditor ++ items.map fun item => (item.id, item.value)
      needCommit := s.store.needCommit || !items.isEmpty } }, some ()⟩ := by
  induction items generalizing s with
  | nil => simp [putAll]
  | cons item rest ih =>
    rw [putAll]
    refine (ih _).trans ?_
    simp [put, changeStore]

theorem restore_eq (hids : (items.map FpItem.id).Nodup) (store : Store) :
    restore items ⟨some items, store⟩ = ⟨[], ⟨some (items.map (settled store.mSharedPreferences)),
      ⟨settledPrefs store.mSharedPreferences items, [], false⟩⟩, some ()⟩ := by
  let fresh : Store := ⟨store.mSharedPreferences, [], false⟩
  have hnew : newStore ⟨some items, store⟩ = ⟨[], ⟨some items, fresh⟩, some ()⟩ := rfl
  rw [restore, bind_of_silent hnew]
  by_cases hfirst : store.mSharedPreferences "fristboot" = none
  · have hboot : isFristBoot ⟨some items, fresh⟩ = ⟨[], ⟨some items, ⟨Function.update
        store.mSharedPreferences "fristboot" (some "!frist"), [], false⟩⟩, some true⟩ := by
      simp [isFristBoot, hfirst, changeStore, Store.editorCommit, fresh]
    rw [bind_of_silent hboot, if_pos rfl, bind_of_silent (putAll_eq items _)]
    have hsame : settled store.mSharedPreferences = id := funext fun item => if_pos hfirst
    rw [hsame, List.map_id, settledPrefs, if_pos hfirst]
    cases items with
    | nil => rfl
    | cons item rest => simp [commit, changeStore, Store.editorCommit, List.foldl_map, set]; rfl
  · have hboot : isFristBoot ⟨some items, fresh⟩ = ⟨[], ⟨some items, fresh⟩, some false⟩ := by
      simp [isFristBoot, hfirst, fresh]
    have hsame : settled store.mSharedPreferences = kept store.mSharedPreferences :=
      funext fun item => if_neg hfirst
    rw [bind_of_silent hboot, hsame, settledPrefs, if_neg hfirst]
    exact adoptAll_eq [] items hids

theorem parse_eq {fuel : Nat} {events : List (Option ParserEvent)}
    (hread : readEvents fuel .startDocument events [] = some (some items))
    (hids : (items.map FpItem.id).Nodup) (s : Config) : parse fuel (.whole events) s = some
      ⟨[], ⟨some (items.map (settled s.store.mSharedPreferences)),
        ⟨settledPrefs s.store.mSharedPreferences items, [], false⟩⟩, some ()⟩ := by
  have hxml : readXml fuel (.whole events) = some (some items) :=
    (readXml_eq_some_iff ..).mpr ⟨rfl, hread, rfl⟩
  rw [parse, if_neg (by simp [Reading.whole]), hxml, Option.map_some]
  exact congrArg some (restore_eq hids s.store)

theorem settled_settledPrefs (hids : (items.map FpItem.id).Nodup) (h : item ∈ items) :
    settled (settledPrefs prefs items) item = settled prefs item := by
  unfold settled
  rw [if_neg (settledPrefs_fristboot hids), kept, settledPrefs_of_mem hids h]
  by_cases hfirst : prefs "fristboot" = none
  · rw [if_pos hfirst, if_pos hfirst]
    exact ite_self item
  · rw [if_neg hfirst, if_neg hfirst, kept]
    cases prefs item.id with
    | none => exact ite_self item
    | some value => rfl

theorem settledPrefs_settledPrefs (hids : (items.map FpItem.id).Nodup) :
    settledPrefs (settledPrefs prefs items) items = settledPrefs prefs items := by
  rw [settledPrefs, if_neg (settledPrefs_fristboot hids)]
  refine foldl_set_getD fun item hitem => ?_
  rw [settledPrefs_of_mem hids hitem]
  exact Option.some_ne_none _

theorem settled_id : (settled prefs item).id = item.id := by
  unfold settled kept
  split
  · rfl
  · split
    · split <;> rfl
    · rfl

theorem getValueFromId_settled (hids : (items.map FpItem.id).Nodup) (h : item ∈ items)
    (store : Store) :
    (getValueFromId (some item.id) ⟨some (items.map (settled prefs)), store⟩).result =
      some (some (settled prefs item).value) := by
  change some (((items.map _).find? fun other : FpItem => some other.id = some item.id).map _) = _
  induction items with
  | nil => exact absurd h List.not_mem_nil
  | cons first rest ih =>
    rw [List.map_cons, List.nodup_cons] at hids
    rcases List.mem_cons.mp h with rfl | hrest
    · simp [settled_id]
    · have hne : first.id ≠ item.id := fun heq => hids.1 (heq ▸ List.mem_map_of_mem hrest)
      rw [List.map_cons, List.find?_cons_of_neg (by simpa [settled_id] using hne)]
      exact ih hids.2 hrest

end

/-- A second `parse` changes nothing. -/
theorem settings_stable (events : List (Option ParserEvent)) (hread : WellRead events)
    (hids : ((documentItems events).map FpItem.id).Nodup) (s : Config) :
    ∃ fuel out, parse fuel (.whole events) s = some out ∧ out.result = some () ∧
      (∀ item ∈ documentItems events, (getValueFromId (some item.id) out.state).result =
        some (some (settled s.store.mSharedPreferences item).value)) ∧
      parse fuel (.whole events) out.state = some out := by
  have hall : WellRead (some .startDocument :: events) := ⟨trivial, hread⟩
  obtain ⟨fuel, hlist⟩ : ∃ fuel, readEvents fuel .startDocument events [] =
      some (some (documentItems events)) := readEvents_wellRead hall
  refine ⟨fuel, _, parse_eq hlist hids s, rfl, ?_, (parse_eq hlist hids _).trans ?_⟩
  · exact fun item hitem => getValueFromId_settled hids hitem _
  · dsimp only
    rw [settledPrefs_settledPrefs hids,
      List.map_congr_left fun item hitem => settled_settledPrefs hids hitem]

def changedEvents : List (Option ParserEvent) :=
  [some (.startTag "fingerprint" (some "vib times") (some "1"))]

theorem settings_stable_changed :
    ∃ fuel out, parse fuel (.whole changedEvents) ⟨none, ⟨fun _ => some "2", [], false⟩⟩ =
        some out ∧ out.result = some () ∧ (∀ item ∈ documentItems changedEvents,
        (getValueFromId (some item.id) out.state).result = some (some "2")) ∧
      parse fuel (.whole changedEvents) out.state = some out :=
  settings_stable changedEvents (by simp [changedEvents, WellRead, ParserEvent.Complete])
    (by decide) ⟨none, ⟨fun _ => some "2", [], false⟩⟩

end WikoPlatform.FileLock.FingerConfig
