import WikoPlatform.Lib.Sweep
import WikoPlatform.Lib.TwoRuns

/-! The applications that listen to the keys of the sensor. `onReport` walks the list of listeners
by index and removes those that are gone while it walks. -/

namespace WikoPlatform.Fingerprint

open Runs Sweep

/-- A listener; `key` is its package, and a callback is a binder object, none for `null`. -/
structure AppClientCbWrapper where
  key : Option String
  cb : Option Nat
  event : Int
  type : Int
  deriving DecidableEq

def AppClientCbWrapper.hasKey (packageName : Option String) (client : AppClientCbWrapper) : Bool :=
  client.key.isSome && client.key == packageName

def registerFpService (packageName : Option String) (cb : Option Nat) (event type : Int)
    (mAppClientList : List AppClientCbWrapper) : List AppClientCbWrapper :=
  if mAppClientList.any (·.hasKey packageName) then mAppClientList
  else mAppClientList ++ [⟨packageName, cb, event, type⟩]

def unregisterFpService (packageName : Option String) (mAppClientList : List AppClientCbWrapper) :
    List AppClientCbWrapper :=
  (walk (fun _ _ => ()) (·.hasKey packageName) 0 () mAppClientList).2

structure Report where
  event : Int
  called : List AppClientCbWrapper
  left : List AppClientCbWrapper
  found : Bool
  deriving DecidableEq

section

variable (throws : AppClientCbWrapper → Bool)

def AppClientCbWrapper.isCalled (client : AppClientCbWrapper) : Bool :=
  client.key.isSome && client.cb.isSome

def reportTo (acc : List AppClientCbWrapper × Bool) (client : AppClientCbWrapper) :
    List AppClientCbWrapper × Bool :=
  if client.isCalled then (acc.1 ++ [client], acc.2 || !throws client) else acc

def isGone (client : AppClientCbWrapper) : Bool := client.isCalled && throws client

def onReport (event : Int) (mAppClientList : List AppClientCbWrapper) : Report :=
  let ((called, found), left) :=
    walk (reportTo throws) (isGone throws) 0 ([], false) mAppClientList
  { event, called, left, found }

end

/-- A call with a package name and a callback that are not `null`. -/
inductive ListenerCall where
  | register (packageName : String) (cb : Nat) (event type : Int)
  | unregister (packageName : String)
  | report (event : Int) (throws : AppClientCbWrapper → Bool)

def listenerStep (clients : List AppClientCbWrapper) :
    ListenerCall → List Report × List AppClientCbWrapper
  | .register packageName cb event type =>
    ([], registerFpService (some packageName) (some cb) event type clients)
  | .unregister packageName => ([], unregisterFpService (some packageName) clients)
  | .report event throws =>
    ([onReport throws event clients], (onReport throws event clients).left)

/-- Every listener is called, and those that threw go. -/
def registryStep (clients : List AppClientCbWrapper) :
    ListenerCall → List Report × List AppClientCbWrapper
  | .register packageName cb event type =>
    ([], if some packageName ∈ clients.map AppClientCbWrapper.key then clients
      else clients ++ [⟨some packageName, some cb, event, type⟩])
  | .unregister packageName => ([], clients.filter fun client => client.key ≠ some packageName)
  | .report event throws =>
    let left := clients.filter fun client => !throws client
    ([{ event, called := clients, left, found := clients.any fun client => !throws client }], left)

/-- Every report reaches those it should, and at no time is a package listed twice. -/
structure HeardByAll (calls : List ListenerCall) : Prop where
  reports : (run listenerStep [] calls).1 = (run registryStep [] calls).1
  distinct : ∀ n, ((run listenerStep [] (calls.take n)).2.map AppClientCbWrapper.key).Nodup

def OnlyLastThrows (clients : List AppClientCbWrapper) : ListenerCall → Prop
  | .report _ throws => ∀ client ∈ clients.dropLast, throws client = false
  | _ => True

/-- The listeners can be called, and have keys of their own. -/
structure Listed (clients : List AppClientCbWrapper) : Prop where
  called : ∀ client ∈ clients, client.isCalled = true
  distinct : (clients.map AppClientCbWrapper.key).Nodup

variable {clients left : List AppClientCbWrapper}

theorem Listed.nil : Listed [] := ⟨List.forall_mem_nil _, List.nodup_nil⟩

theorem Listed.sublist (h : Listed clients) (hleft : left.Sublist clients) : Listed left where
  called client hclient := h.called client (hleft.subset hclient)
  distinct := h.distinct.sublist (hleft.map _)

theorem hasKey_some (client : AppClientCbWrapper) (packageName : String) :
    client.hasKey (some packageName) = decide (client.key = some packageName) := by
  cases hkey : client.key with
  | none => simp [AppClientCbWrapper.hasKey, hkey]
  | some key => simp [AppClientCbWrapper.hasKey, hkey, beq_eq_decide]

theorem register_eq (packageName : String) (cb : Option Nat) (event type : Int) :
    registerFpService (some packageName) cb event type clients =
      if some packageName ∈ clients.map AppClientCbWrapper.key then clients
      else clients ++ [⟨some packageName, cb, event, type⟩] := by
  have hany : clients.any (·.hasKey (some packageName)) = true ↔
      some packageName ∈ clients.map AppClientCbWrapper.key := by
    simp [hasKey_some]
  simp only [registerFpService, hany]

theorem register_listed (h : Listed clients) (packageName : String) (cb : Nat) (event type : Int) :
    Listed (registerFpService (some packageName) (some cb) event type clients) := by
  rw [register_eq]
  split
  · exact h
  · next hnew =>
    refine ⟨?_, ?_⟩
    · rw [List.forall_mem_append]
      exact ⟨h.called, by simp [AppClientCbWrapper.isCalled]⟩
    · rw [List.map_append]
      refine List.nodup_append.mpr ⟨h.distinct, List.pairwise_singleton _ _, ?_⟩
      rintro key hkey _ hlast rfl
      obtain rfl : key = some packageName := List.mem_singleton.mp hlast
      exact hnew hkey

theorem unregister_eq (h : Listed clients) (packageName : String) :
    unregisterFpService (some packageName) clients =
      clients.filter fun client => client.key ≠ some packageName := by
  have hkeys : clients.Pairwise fun x y => x.key ≠ y.key := List.pairwise_map.mp h.distinct
  have hone : clients.Pairwise fun x y =>
      x.hasKey (some packageName) = true → y.hasKey (some packageName) = false := by
    refine hkeys.imp fun {x y} hne => ?_
    simp only [hasKey_some, decide_eq_true_eq, decide_eq_false_iff_not]
    rintro hx hy
    exact hne (hx.trans hy.symm)
  rw [unregisterFpService, walk_eq, left_eq_filter hone]
  simp [hasKey_some]

variable (throws : AppClientCbWrapper → Bool)

theorem foldl_reportTo (h : ∀ client ∈ clients, client.isCalled = true)
    (acc : List AppClientCbWrapper × Bool) :
    clients.foldl (reportTo throws) acc =
      (acc.1 ++ clients, acc.2 || clients.any fun client => !throws client) := by
  induction clients generalizing acc with
  | nil => simp
  | cons client clients ih =>
    rw [List.forall_mem_cons] at h
    rw [List.foldl_cons, ih h.2, reportTo, if_pos h.1, List.any_cons, ← List.append_cons,
      Bool.or_assoc]

theorem onReport_eq (h : Listed clients) (event : Int) :
    onReport throws event clients =
      { event, called := met (isGone throws) clients, left := Sweep.left (isGone throws) clients,
        found := (met (isGone throws) clients).any fun client => !throws client } := by
  have hwalk : walk (reportTo throws) (isGone throws) 0 ([], false) clients =
      ((met (isGone throws) clients).foldl (reportTo throws) ([], false),
        Sweep.left (isGone throws) clients) := walk_eq _ _ _
  have hcall : ∀ client ∈ met (isGone throws) clients, client.isCalled = true :=
    fun client hclient => h.called client ((met_sublist clients).subset hclient)
  rw [foldl_reportTo throws hcall, List.nil_append, Bool.false_or] at hwalk
  rw [onReport, hwalk]

theorem isGone_eq (h : Listed clients) {client : AppClientCbWrapper} (hclient : client ∈ clients) :
    isGone throws client = throws client := by
  rw [isGone, h.called client hclient, Bool.true_and]

theorem met_isGone_iff (h : Listed clients) : met (isGone throws) clients = clients ↔
      ∀ client ∈ clients.dropLast, throws client = false := by
  rw [met_eq_iff]
  refine forall₂_congr fun client hclient => ?_
  rw [isGone_eq throws h ((List.dropLast_sublist clients).subset hclient)]

theorem report_eq_iff (h : Listed clients) (event : Int) :
    onReport throws event clients =
        { event, called := clients, left := clients.filter fun client => !throws client,
          found := clients.any fun client => !throws client } ↔
      ∀ client ∈ clients.dropLast, throws client = false := by
  rw [onReport_eq throws h, ← met_isGone_iff throws h]
  constructor
  · intro heq
    exact congrArg Report.called heq
  · intro hmet
    have honce := pairwise_of_dropLast ((met_eq_iff clients).mp hmet)
    have hleft : clients.filter (!isGone throws ·) = clients.filter (!throws ·) :=
      List.filter_congr fun client hclient => by rw [isGone_eq throws h hclient]
    rw [hmet, left_eq_filter honce, hleft]

def SameList (clients spec : List AppClientCbWrapper) : Prop := clients = spec ∧ Listed clients

theorem listenerStep_listed (h : Listed clients) (call : ListenerCall) :
    Listed (listenerStep clients call).2 := by
  cases call with
  | register packageName cb event type => exact register_listed h packageName cb event type
  | unregister packageName =>
    refine h.sublist ?_
    simp only [listenerStep, unregister_eq h]
    exact List.filter_sublist
  | report event throws =>
    refine h.sublist ?_
    simp only [listenerStep, onReport_eq throws h]
    exact left_sublist clients

theorem listenerStep_reports_iff (h : Listed clients) (call : ListenerCall) :
    (listenerStep clients call).1 = (registryStep clients call).1 ↔
      OnlyLastThrows clients call := by
  cases call with
  | register | unregister => exact iff_of_true rfl trivial
  | report event throws =>
    rw [OnlyLastThrows, ← report_eq_iff throws h event]
    exact List.singleton_inj

theorem listenerStep_left (h : Listed clients) {call : ListenerCall}
    (hlast : OnlyLastThrows clients call) :
    (listenerStep clients call).2 = (registryStep clients call).2 := by
  cases call with
  | register packageName cb event type => exact register_eq packageName (some cb) event type
  | unregister packageName => exact unregister_eq h packageName
  | report event throws => exact congrArg Report.left ((report_eq_iff throws h event).mpr hlast)

/-- All are called exactly if none but the last throws. -/
theorem heardByAll_iff (calls : List ListenerCall) :
    HeardByAll calls ↔ Meets listenerStep OnlyLastThrows [] calls := by
  have hlist : ∀ calls, Listed (run listenerStep [] calls).2 := fun calls =>
    run_invariant_state (P := Listed) (fun _ call h => listenerStep_listed h call) .nil calls
  have hstep : ∀ clients spec call, SameList clients spec →
      ((listenerStep clients call).1 = (registryStep spec call).1 ↔
        OnlyLastThrows clients call) := by
    rintro clients _ call ⟨rfl, h⟩
    exact listenerStep_reports_iff h call
  have hkeeps : ∀ clients spec call, SameList clients spec → OnlyLastThrows clients call →
      SameList (listenerStep clients call).2 (registryStep spec call).2 := by
    rintro clients _ call ⟨rfl, h⟩ hlast
    exact ⟨listenerStep_left h hlast, listenerStep_listed h call⟩
  have hreports : (run listenerStep [] calls).1 = (run registryStep [] calls).1 ↔
      Meets listenerStep OnlyLastThrows [] calls :=
    run_eq_iff_meets (fun _ _ call => by cases call <;> rfl) hstep hkeeps ⟨rfl, Listed.nil⟩ calls
  exact ⟨fun h => hreports.mp h.reports,
    fun h => ⟨hreports.mpr h, fun n => (hlist (calls.take n)).distinct⟩⟩

theorem not_heardByAll_two : ¬HeardByAll [.register "first" 1 0 0, .register "second" 2 0 0,
      .report 4 fun client => client.cb == some 1] := by
  intro h
  exact absurd h.reports (by decide +kernel)

end WikoPlatform.Fingerprint
