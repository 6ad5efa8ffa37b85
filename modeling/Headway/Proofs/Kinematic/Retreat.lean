import Headway.Proofs.Kinematic.Course

-- Where a simulated ego goes back. Its speed is stopped at rest, but its position is taken on under the acceleration asked
-- for, as if it were not: a step in which it is stopped early enough takes it back.
namespace Headway
open Scalar

theorem clamp_negative {low high : ℝ} (below : low < 0) (above : 0 ≤ high) (x : ℝ) : clamp low high x < 0 ↔ x < 0 := by
  rw [clamp_exact,min_lt_iff,max_lt_iff]
  constructor
  · rintro (short | ⟨negative,_⟩)
    · exact absurd short above.not_gt
    · exact negative
  · intro negative
    exact .inr ⟨negative,below⟩

namespace Kinematic

-- The speed that the acceleration asked for leads to, with nothing to stop the ego at rest.
noncomputable def speedAsked (weights : Weights ℝ) (gap : ℝ) (now : Instant ℝ) : ℝ :=
  now.egoSpeed + nextAccel weights gap now * courseStep

section Steps
variable {weights : Weights ℝ} {problem : Problem ℝ} {gap low : ℝ} {now next : Instant ℝ}

theorem Step.position (step : Step weights gap now next) :
    next.egoPosition = now.egoPosition + (now.egoSpeed + speedAsked weights gap now) * (courseStep / 2) := by
  unfold speedAsked
  cases step with
  | moving _ _ | stopping _ _ =>
    dsimp only
    rw [half_exact]
    ring

theorem Step.onward_exact (step : Step weights gap now next) :
    now.egoPosition ≤ next.egoPosition ↔ 0 ≤ now.egoSpeed + speedAsked weights gap now := by
  rw [step.position,le_add_iff_nonneg_right,mul_nonneg_iff_left_nonneg_of_pos (half_pos step_pos)]

theorem Step.back_exact (step : Step weights gap now next) :
    next.egoPosition < now.egoPosition ↔ now.egoSpeed + speedAsked weights gap now < 0 := by
  rw [← not_le,step.onward_exact,not_le]

theorem Step.back_rests (step : Step weights gap now next) (forward : 0 ≤ now.egoSpeed)
    (back : next.egoPosition < now.egoPosition) : next.egoSpeed = 0 ∧ next.egoAccel = 0 := by
  have negative : now.egoSpeed + speedAsked weights gap now < 0 := step.back_exact.mp back
  cases step with
  | moving _ onward => exact absurd (add_nonneg forward onward) negative.not_ge
  | stopping _ short =>
    have braked : nextAccel weights gap now * courseStep < 0 := by linarith
    exact ⟨rfl,max_eq_right (neg_of_mul_neg_left braked step_pos.le).le⟩

theorem Step.back_at_most (step : Step weights gap now next) (forward : 0 ≤ now.egoSpeed)
    (least : low ≤ nextAccel weights gap now) : now.egoPosition - next.egoPosition ≤ 0.02 * -low := by
  rw [step.position]
  unfold speedAsked courseStep
  linarith

theorem nextAccel_negative (still : now.egoAccel = 0) : nextAccel weights gap now < 0 ↔
    demand weights (now.leadPosition - now.egoPosition) now.egoSpeed now.leadSpeed gap < 0 := by
  unfold nextAccel
  dsimp only
  rw [still,zero_add,sub_zero,clamp_negative (neg_neg_of_pos jerk_pos) jerk_pos.le,clamp_negative braking_neg pull_pos.le]

theorem Step.back_from_rest (step : Step weights gap now next) (stands : now.egoSpeed = 0) (still : now.egoAccel = 0) :
    next.egoPosition < now.egoPosition ↔
      demand weights (now.leadPosition - now.egoPosition) now.egoSpeed now.leadSpeed gap < 0 := by
  rw [← nextAccel_negative still,step.back_exact]
  unfold speedAsked
  rw [stands,zero_add,zero_add]
  exact ⟨fun back => neg_of_mul_neg_left back step_pos.le,fun back => mul_neg_of_neg_of_pos back step_pos⟩

structure Backing (weights : Weights ℝ) (problem : Problem ℝ) (now next : Instant ℝ) : Prop where
  exact : next.egoPosition < now.egoPosition ↔ now.egoSpeed + speedAsked weights problem.gap now < 0
  rests : next.egoPosition < now.egoPosition → next.egoSpeed = 0 ∧ next.egoAccel = 0
  atMost : now.egoPosition - next.egoPosition ≤ 0.02 * max 3.5 (-problem.seed.egoAccel)
  fromRest : now.egoSpeed = 0 → now.egoAccel = 0 →
    (next.egoPosition < now.egoPosition ↔
      demand weights (now.leadPosition - now.egoPosition) now.egoSpeed now.leadSpeed problem.gap < 0)

theorem Step.backing (step : Step weights problem.gap now next)
    (within : Within (min problem.seed.egoAccel hardestBraking) (max problem.seed.egoAccel strongestPull) now) :
    Backing weights problem now next := by
  have least : min problem.seed.egoAccel hardestBraking ≤ nextAccel weights problem.gap now :=
    (nextAccel_between weights problem.gap (min_le_right _ _) (le_max_right _ _) within.least within.most).1
  have lowest : -min problem.seed.egoAccel hardestBraking = max 3.5 (-problem.seed.egoAccel) := by
    unfold hardestBraking
    rw [← max_neg_neg,neg_neg,max_comm]
  refine ⟨step.back_exact,step.back_rests within.ego,?_,step.back_from_rest⟩
  rw [← lowest]
  exact step.back_at_most within.ego least

theorem Rolled.onward_exact {points : List (Instant ℝ)} (rolled : Rolled weights problem points) :
    (points.map (·.egoPosition)).Pairwise (· ≤ ·) ↔
      ∀ i < 20, ∀ now, points[i]? = some now → 0 ≤ now.egoSpeed + speedAsked weights problem.gap now := by
  rw [← List.isChain_iff_pairwise]
  apply rolled.neighbours_exact (·.egoPosition)
  intro now _ next step
  exact step.onward_exact

end Steps

-- The ego of a course goes back in just the steps whose mean speed, the ego not being stopped, is negative.
theorem solve_backing (growth : ℝ → ℝ) (solver : Kinematic ℝ) (problem : Problem ℝ) :
    letI := exactWith growth
    ∃ course, Solver.solve problem solver = (⟨.ok ⟨course,20⟩,solver.solveTime⟩,solver) ∧
      (∀ xs ∈ course.sequences, xs.length = 21) ∧
      (course.egoPosition.Pairwise (· ≤ ·) ↔
        ∀ i < 20, ∀ now, course.instant? i = some now →
          0 ≤ now.egoSpeed + speedAsked solver.weights problem.gap now) ∧
      ∀ i now next, course.instant? i = some now → course.instant? (i + 1) = some next →
        Backing solver.weights problem now next := by
  obtain ⟨points,rolled,solved⟩ := solve_rolled growth solver problem
  have point (i : ℕ) : (told solver.weights problem points).instant? i = points[i]? :=
    Trajectory.ofInstants_instant? points _ i
  refine ⟨told solver.weights problem points,solved,rolled.whole,?_,?_⟩
  · simp only [point]
    exact rolled.onward_exact
  · intro i now next here there
    obtain ⟨_,rfl⟩ := List.getElem?_eq_some_iff.mp ((point i).symm.trans here)
    obtain ⟨later,rfl⟩ := List.getElem?_eq_some_iff.mp ((point (i + 1)).symm.trans there)
    exact (List.isChain_iff_getElem.mp rolled.steps i later).backing (rolled.within _ (List.getElem_mem _))

noncomputable def tooClose : Problem ℝ := ⟨⟨0,0,0,2.0,0⟩,0,1.5,1.8⟩

theorem too_close_asked : nextAccel (.standard : Weights ℝ) tooClose.gap (launched tooClose.seed) = -0.11 := by
  have demanded : demand (.standard : Weights ℝ) (2.0 - 0) (max 0 0) (max 0 0) 1.8 = -0.11 := by
    unfold demand Weights.standard stopDistance
    norm_num
  unfold nextAccel launched tooClose
  dsimp only
  rw [demanded,clamp_exact,clamp_exact]
  unfold hardestBraking strongestPull jerkLimit courseStep
  norm_num

theorem too_close_backs : ∃ course, Solver.solve tooClose (start : Kinematic ℝ) = (⟨.ok ⟨course,20⟩,1e-6⟩,start) ∧
    course.egoPosition[0]? = some 0 ∧ course.egoPosition[1]? = some (-0.0022 : ℝ) ∧
    ¬ course.egoPosition.Pairwise (· ≤ ·) := by
  obtain ⟨points,rolled,solved⟩ := solve_rolled Real.exp start tooClose
  refine ⟨_,solved,?_⟩
  rcases points with _ | ⟨first,_ | ⟨second,rest⟩⟩
  · cases rolled.length
  · cases rolled.length
  · obtain rfl : first = launched tooClose.seed := Option.some.inj rolled.start
    have position := (List.isChain_cons_cons.mp rolled.steps).1.position
    have back : second.egoPosition = -0.0022 := by
      rw [position]
      unfold speedAsked
      change 0 + (max 0 0 + (max 0 0 + nextAccel .standard tooClose.gap (launched tooClose.seed) * courseStep)) *
        (courseStep / 2) = (-0.0022 : ℝ)
      rw [too_close_asked]
      unfold courseStep
      norm_num
    refine ⟨rfl,congrArg some back,?_⟩
    intro onward
    have kept : (0 : ℝ) ≤ second.egoPosition := (List.pairwise_cons.mp onward).1 _ (.head _)
    rw [back] at kept
    norm_num at kept

end Kinematic
end Headway
