import Headway.Proofs.Exact
import Headway.Solver.Kinematic

-- The rolled out course as a chain of steps, in exact arithmetic. Any function may stand for the exponential by which the
-- lead's acceleration decays: a step is taken as one under some acceleration of the lead, whichever it is.
namespace Headway
open Scalar

noncomputable abbrev exactWith (growth : ℝ → ℝ) : Scalar ℝ := { (inferInstance : Scalar ℝ) with exp := growth }

example : exactWith Real.exp = (inferInstance : Scalar ℝ) := rfl

namespace Kinematic

-- The ego moves on under the acceleration asked for, or is stopped within the step; its position is that of the
-- acceleration asked for either way.
inductive Step (weights : Weights ℝ) (gap : ℝ) (now : Instant ℝ) : Instant ℝ → Prop where
  | moving (leadAccel : ℝ) (onward : 0 ≤ now.egoSpeed + nextAccel weights gap now * courseStep) :
    Step weights gap now {
      egoPosition := now.egoPosition +
        (now.egoSpeed * courseStep + 0.5 * nextAccel weights gap now * courseStep * courseStep)
      egoSpeed := now.egoSpeed + nextAccel weights gap now * courseStep
      egoAccel := nextAccel weights gap now
      leadPosition := now.leadPosition + (now.leadSpeed * courseStep + 0.5 * leadAccel * courseStep * courseStep)
      leadSpeed := max (now.leadSpeed + leadAccel * courseStep) 0 }
  | stopping (leadAccel : ℝ) (short : now.egoSpeed + nextAccel weights gap now * courseStep < 0) :
    Step weights gap now {
      egoPosition := now.egoPosition +
        (now.egoSpeed * courseStep + 0.5 * nextAccel weights gap now * courseStep * courseStep)
      egoSpeed := 0
      egoAccel := max (nextAccel weights gap now) 0
      leadPosition := now.leadPosition + (now.leadSpeed * courseStep + 0.5 * leadAccel * courseStep * courseStep)
      leadSpeed := max (now.leadSpeed + leadAccel * courseStep) 0 }

section Rolled
variable (growth : ℝ → ℝ) (weights : Weights ℝ) (problem : Problem ℝ)

theorem advance_step (k : ℕ) (now : Instant ℝ) :
    Step weights problem.gap now (@advance ℝ (exactWith growth) weights problem k now) := by
  have unfolded : @advance ℝ (exactWith growth) weights problem k now =
      let leadAccel := problem.leadAccel * growth (-problem.leadDecay * (k * courseStep) * (k * courseStep) / 2.0)
      let accel := nextAccel weights problem.gap now
      let speed := now.egoSpeed + accel * courseStep
      ⟨now.egoPosition + (now.egoSpeed * courseStep + 0.5 * accel * courseStep * courseStep),
        if speed < 0.0 then 0.0 else speed,if speed < 0.0 then greater accel 0.0 else accel,
        now.leadPosition + (now.leadSpeed * courseStep + 0.5 * leadAccel * courseStep * courseStep),
        greater (now.leadSpeed + leadAccel * courseStep) 0.0⟩ := rfl
  rw [unfolded]
  dsimp only
  rw [greater_max,greater_max,zero_exact]
  split
  · rename_i short
    exact .stopping _ short
  · rename_i onward
    exact .moving _ (not_lt.mp onward)

theorem rollout_starts (more k : ℕ) (now : Instant ℝ) :
    ∃ rest, @rollout ℝ (exactWith growth) weights problem more k now = now :: rest := by
  cases more with
  | zero => exact ⟨[],rfl⟩
  | succ more => exact ⟨_,rfl⟩

theorem rollout_length (more k : ℕ) (now : Instant ℝ) :
    (@rollout ℝ (exactWith growth) weights problem more k now).length = more + 1 := by
  induction more generalizing k now with
  | zero => rfl
  | succ more ih => simp [rollout,ih]

theorem rollout_steps (more k : ℕ) (now : Instant ℝ) :
    (@rollout ℝ (exactWith growth) weights problem more k now).IsChain (Step weights problem.gap) := by
  induction more generalizing k now with
  | zero => exact List.isChain_singleton now
  | succ more ih =>
    have steps := ih (k + 1) (@advance ℝ (exactWith growth) weights problem k now)
    obtain ⟨rest,starts⟩ :=
      rollout_starts growth weights problem more (k + 1) (@advance ℝ (exactWith growth) weights problem k now)
    unfold rollout
    rw [starts] at steps ⊢
    exact List.isChain_cons_cons.mpr ⟨advance_step growth weights problem k now,steps⟩

end Rolled

noncomputable def launched (seed : Instant ℝ) : Instant ℝ :=
  { seed with egoSpeed := max seed.egoSpeed 0, leadSpeed := max seed.leadSpeed 0 }

structure Rolled (weights : Weights ℝ) (problem : Problem ℝ) (points : List (Instant ℝ)) : Prop where
  length : points.length = courseLength
  start : points.head? = some (launched problem.seed)
  steps : points.IsChain (Step weights problem.gap)

noncomputable def told (weights : Weights ℝ) (problem : Problem ℝ) (points : List (Instant ℝ)) : Trajectory ℝ :=
  .ofInstants points (points.dropLast.map (stageCost weights problem.gap)).sum

theorem courseOf_rolled (growth : ℝ → ℝ) (weights : Weights ℝ) (problem : Problem ℝ) :
    ∃ points, Rolled weights problem points ∧ @courseOf ℝ (exactWith growth) weights problem = told weights problem points := by
  have lifted : ({ problem.seed with
      egoSpeed := greater problem.seed.egoSpeed 0.0, leadSpeed := greater problem.seed.leadSpeed 0.0 } : Instant ℝ) =
      launched problem.seed := by
    rw [greater_max,greater_max,zero_exact]
    rfl
  refine ⟨@rollout ℝ (exactWith growth) weights problem (courseLength - 1) 0 (launched problem.seed),⟨?_,?_,?_⟩,?_⟩
  · exact rollout_length growth weights problem (courseLength - 1) 0 (launched problem.seed)
  · obtain ⟨rest,starts⟩ := rollout_starts growth weights problem (courseLength - 1) 0 (launched problem.seed)
    rw [starts,List.head?_cons]
  · exact rollout_steps growth weights problem (courseLength - 1) 0 (launched problem.seed)
  · unfold told
    rw [← lifted,List.sum_eq_foldl,List.foldl_map,← zero_exact]
    rfl

theorem solve_rolled (growth : ℝ → ℝ) (solver : Kinematic ℝ) (problem : Problem ℝ) :
    letI := exactWith growth
    ∃ points, Rolled solver.weights problem points ∧ Solver.solve problem solver =
      (⟨.ok ⟨told solver.weights problem points,courseLength - 1⟩,solver.solveTime⟩,solver) := by
  obtain ⟨points,rolled,course⟩ := courseOf_rolled growth solver.weights problem
  refine ⟨points,rolled,?_⟩
  rw [← course]
  rfl

end Kinematic
end Headway
