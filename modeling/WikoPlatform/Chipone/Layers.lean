import WikoPlatform.Chipone.CancelPipe
import WikoPlatform.Chipone.DataSocket
import WikoPlatform.Chipone.EnrolToken

/-! The HAL below the cancel pipe, the extension and the enrolment tokens takes steps of its own. -/

namespace WikoPlatform.Chipone

open Runs

theorem pausing_of_moves {cfg : FpConfig} {s hal : Hal} (h : Pausing s)
    (hmoves : ∃ moves, hal = (run (Hal.step cfg) s moves).2) : Pausing hal := by
  obtain ⟨moves, rfl⟩ := hmoves
  exact run_invariant_state (pausing_step cfg) h moves

/-- No task goes on while a call has the worker paused. -/
theorem layers_pausing {Token : Type} (cfg : FpConfig) (resumed stop : Bool) (msessionId : Nat)
    (mgid mfid mtimeout : Int) (mhat : Token) (polls : List PollEvent) (links : List LinkEvent)
    (tokens : List (TokenEvent Token)) :
    Pausing (run (PolledHal.step cfg) (.start resumed stop msessionId mgid mfid mtimeout)
      polls).2.hal ∧
    Pausing (run (Link.step cfg) (.start (.start resumed stop msessionId mgid mfid mtimeout))
      links).2.hal ∧
    Pausing (run (TokenHal.step cfg) (.start mhat resumed stop msessionId mgid mfid mtimeout)
      tokens).2.hal := by
  have hstart : Pausing (.start resumed stop msessionId mgid mfid mtimeout) := pausing_start
  refine ⟨?_, ?_, ?_⟩
  · exact pausing_of_moves hstart (run_simulates (polledHal_step_hal cfg) _ polls)
  · exact pausing_of_moves hstart (link_simulates_hal cfg _ links)
  · exact pausing_of_moves hstart (run_simulates (tokenHal_step_hal cfg) _ tokens)

end WikoPlatform.Chipone
