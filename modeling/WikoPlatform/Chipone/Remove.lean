import WikoPlatform.Chipone.Message

/-! `fpTacImpl::delete_fid`, one call or notification at a time. -/

namespace WikoPlatform.Chipone

/-- The next call or notification of `delete_fid`. -/
inductive RemovePoint where
  | getEnrolledFids
  -- The loop over all fingers, with those still to remove.
  | removeEach (ids : List Int)
  | notifyEach (id : Int) (rest : List Int)
  | removeOne (ids : List Int)
  | reportOne (size : Nat)
  -- The call with finger 0 that clears the database.
  | clear
  | failed
  | succeeded
  | returned
  deriving DecidableEq

structure RemoveTask where
  gid : Int
  fid : Int
  reportRmResult : Bool
  point : RemovePoint
  deriving DecidableEq

namespace RemoveTask

def start (gid fid : Int) (reportRmResult : Bool) : RemoveTask :=
  ⟨gid, fid, reportRmResult, .getEnrolledFids⟩

def goto (t : RemoveTask) (point : RemovePoint) : RemoveTask := { t with point := point }

def step (answer : Answer) (t : RemoveTask) : Option FingerprintMsg × RemoveTask :=
  match t.point with
  | .getEnrolledFids =>
    (none, if answer.ret ≠ 0 then t.goto .failed
      else if t.fid = 0 then t.goto (.removeEach answer.fids)
      else t.goto (.removeOne answer.fids))
  | .removeEach [] => (none, t.goto .clear)
  | .removeEach (id :: rest) =>
    (none, if answer.ret ≠ 0 then t.goto .failed else t.goto (.notifyEach id rest))
  | .notifyEach id rest => (some (.removed t.gid id), t.goto (.removeEach rest))
  | .removeOne ids =>
    -- A finger that is not enrolled is not removed, and no failure.
    (none, if t.fid ∈ ids ∧ answer.ret ≠ 0 then t.goto .failed else t.goto (.reportOne ids.length))
  | .reportOne size =>
    (if t.reportRmResult then some (.removed t.gid t.fid) else none,
      if size = 1 then t.goto .clear else t.goto .succeeded)
  | .clear => (none, t.goto .succeeded)
  | .failed =>
    (if t.reportRmResult then some (.error errorUnableToRemove) else none, t.goto .returned)
  | .succeeded => (if t.reportRmResult then some (.removed t.gid 0) else none, t.goto .returned)
  | .returned => (none, t)

theorem step_gid_fid (answer : Answer) (t : RemoveTask) :
    (t.step answer).2.gid = t.gid ∧ (t.step answer).2.fid = t.fid := by
  unfold step
  split
  case h_1 | h_3 | h_5 | h_6 =>
    split_ifs <;> exact ⟨rfl, rfl⟩
  all_goals exact ⟨rfl, rfl⟩

theorem step_not_result (answer : Answer) (t : RemoveTask) {msg : FingerprintMsg}
    (h : (t.step answer).1 = some msg) : msg.isResult = false := by
  unfold step at h
  split at h
  case h_4 =>
    obtain rfl := Option.some.inj h
    rfl
  case h_6 | h_8 | h_9 =>
    split at h
    · obtain rfl := Option.some.inj h
      rfl
    · cases h
  all_goals cases h

end RemoveTask

end WikoPlatform.Chipone
