import Headway.Proofs.FollowGap
import Headway.Proofs.Mpc.Calls

-- What is asked of the solver is the gap that is reported, and it stays in bounds whatever the history of the lead is.
namespace Headway.Mpc
open Scalar
variable {σ : Type} [Solver σ ℝ]

theorem gapFor_within (mpc : Mpc σ ℝ) (input : MpcInput ℝ) : FollowGap.Within (mpc.gapFor input) := by
  unfold gapFor chooseGap
  split
  · exact FollowGap.within_of_clamped _
  · exact FollowGap.choose_within _ _ _ _

def watched {α : Type} (mpc : Mpc σ α) : Mpc (Recorder σ α) α := { mpc with solver := .start mpc.solver }

def Run.asked {α : Type} (run : Run (Recorder σ α) α) : List α := (solves run.mpc.solver.calls).map (·.gap)

def Run.reported {α : Type} (run : Run σ α) : List α := (run.past.map fun cycle => cycle.2.gap).reverse

theorem Run.step_gaps {run : Run (Recorder σ ℝ) ℝ} (step : Step ℝ)
    (before : run.asked = run.reported ∧ ∀ gap ∈ run.reported, FollowGap.Within gap) :
    (run.step step).asked = (run.step step).reported ∧
      ∀ gap ∈ (run.step step).reported, FollowGap.Within gap := by
  cases step with
  | reseed speed accel => exact before
  | adopt params => exact before
  | cycle input =>
    obtain ⟨agree,bounded⟩ := before
    have reports : (run.step (.cycle input)).reported = run.reported ++ [run.mpc.gapFor input] := by
      simp [reported,step,update_exact]
    rw [reports]
    constructor
    · have asks : (run.step (.cycle input)).asked = run.asked ++ [run.mpc.gapFor input] := by
        unfold asked
        exact (congrArg (List.map (·.gap)) (update_solves run.mpc input)).trans List.map_append
      rw [asks,agree]
    · intro gap member
      rcases List.mem_append.mp member with earlier | last
      · exact bounded gap earlier
      · rw [List.mem_singleton.mp last]
        exact gapFor_within run.mpc input

theorem gaps_within (mpc : Mpc σ ℝ) (steps : List (Step ℝ)) :
    let alone := (⟨mpc,[]⟩ : Run σ ℝ).through steps
    let recorded := (⟨mpc.watched,[]⟩ : Run (Recorder σ ℝ) ℝ).through steps
    recorded.seen Recorder.solver = alone ∧ recorded.asked = alone.reported ∧
      ∀ gap ∈ alone.reported, FollowGap.Within gap := by
  intro alone recorded
  have same : recorded.seen Recorder.solver = alone := (Run.through_seen Recorder.simulates ⟨mpc.watched,[]⟩ steps).symm
  refine ⟨same,?_⟩
  rw [← same]
  exact Run.through_keeps (fun run => run.asked = run.reported ∧ ∀ gap ∈ run.reported, FollowGap.Within gap)
    ⟨rfl,fun _ member => absurd member List.not_mem_nil⟩ (fun _ step => Run.step_gaps step) steps

end Headway.Mpc
