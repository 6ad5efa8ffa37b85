import Headway.Proofs.Kinematic.Retreat

-- How fast a simulated acceleration changes. The change asked for is limited, but an ego that is stopped within a step
-- lets go of whatever it was braking with at once.
namespace Headway.Kinematic
open Scalar

section Steps
variable {weights : Weights ℝ} {problem : Problem ℝ} {now next : Instant ℝ}

theorem jerk_exact : (jerkLimit * courseStep : ℝ) = 1 := by
  unfold jerkLimit courseStep
  norm_num

theorem nextAccel_near (weights : Weights ℝ) (gap : ℝ) (now : Instant ℝ) :
    |nextAccel weights gap now - now.egoAccel| ≤ 1 := by
  unfold nextAccel
  dsimp only
  rw [add_sub_cancel_left,jerk_exact,abs_le]
  exact clamp_between (by norm_num) _

theorem Step.accel_cases {gap : ℝ} (step : Step weights gap now next) (forward : 0 ≤ now.egoSpeed) :
    (0 ≤ speedAsked weights gap now ∧ next.egoAccel = nextAccel weights gap now) ∨
      (speedAsked weights gap now < 0 ∧ nextAccel weights gap now < 0 ∧ next.egoSpeed = 0 ∧ next.egoAccel = 0) := by
  cases step with
  | moving _ onward => exact .inl ⟨onward,rfl⟩
  | stopping _ short =>
    have braked : nextAccel weights gap now * courseStep < 0 := by linarith
    have braking : nextAccel weights gap now < 0 := neg_of_mul_neg_left braked step_pos.le
    exact .inr ⟨short,braking,rfl,max_eq_right braking.le⟩

theorem Step.smooth_exact {gap : ℝ} (step : Step weights gap now next) (forward : 0 ≤ now.egoSpeed) :
    |next.egoAccel - now.egoAccel| ≤ 1 ↔ 0 ≤ speedAsked weights gap now ∨ -1 ≤ now.egoAccel := by
  have near := nextAccel_near weights gap now
  rcases step.accel_cases forward with ⟨onward,asked⟩ | ⟨short,braking,_,released⟩
  · rw [asked]
    exact iff_of_true near (.inl onward)
  · have below : now.egoAccel < 1 := by linarith [(abs_le.mp near).1]
    rw [released,zero_sub,abs_neg,abs_le]
    constructor
    · rintro ⟨gentle,_⟩
      exact .inr gentle
    · rintro (onward | gentle)
      · exact absurd short onward.not_gt
      · exact ⟨gentle,below.le⟩

structure Jerking (weights : Weights ℝ) (problem : Problem ℝ) (now next : Instant ℝ) : Prop where
  exact : |next.egoAccel - now.egoAccel| ≤ 1 ↔ 0 ≤ speedAsked weights problem.gap now ∨ -1 ≤ now.egoAccel
  released : 1 < |next.egoAccel - now.egoAccel| → next.egoSpeed = 0 ∧ next.egoAccel = 0
  atMost : |next.egoAccel - now.egoAccel| ≤ max 3.5 (-problem.seed.egoAccel)

theorem Step.jerking (step : Step weights problem.gap now next)
    (within : Within (min problem.seed.egoAccel hardestBraking) (max problem.seed.egoAccel strongestPull) now) :
    Jerking weights problem now next := by
  have near := nextAccel_near weights problem.gap now
  have hardest : -now.egoAccel ≤ max 3.5 (-problem.seed.egoAccel) := by
    rw [le_max_iff]
    rcases min_le_iff.mp within.least with seeded | limited
    · exact .inr (neg_le_neg seeded)
    · unfold hardestBraking at limited
      exact .inl (by linarith)
  have one : (1 : ℝ) ≤ max 3.5 (-problem.seed.egoAccel) := le_max_of_le_left (by norm_num)
  refine ⟨step.smooth_exact within.ego,?_,?_⟩
  · intro sharp
    rcases step.accel_cases within.ego with ⟨_,asked⟩ | ⟨_,_,stopped,released⟩
    · rw [asked] at sharp
      exact absurd near sharp.not_ge
    · exact ⟨stopped,released⟩
  · rcases step.accel_cases within.ego with ⟨_,asked⟩ | ⟨_,braking,_,released⟩
    · rw [asked]
      exact near.trans one
    · rw [released,zero_sub,abs_neg,abs_le]
      constructor <;> linarith [(abs_le.mp near).1]

end Steps

-- The acceleration of a course changes by at most one at a time, but for the steps in which the ego is stopped while it
-- brakes with more than that.
theorem solve_jerking (growth : ℝ → ℝ) (solver : Kinematic ℝ) (problem : Problem ℝ) :
    letI := exactWith growth
    ∃ course, Solver.solve problem solver = (⟨.ok ⟨course,20⟩,solver.solveTime⟩,solver) ∧
      (∀ xs ∈ course.sequences, xs.length = 21) ∧
      (course.egoAccel.IsChain (fun before after => |after - before| ≤ 1) ↔
        ∀ i < 20, ∀ now, course.instant? i = some now →
          0 ≤ speedAsked solver.weights problem.gap now ∨ -1 ≤ now.egoAccel) ∧
      ∀ i now next, course.instant? i = some now → course.instant? (i + 1) = some next →
        Jerking solver.weights problem now next := by
  obtain ⟨points,rolled,solved⟩ := solve_rolled growth solver problem
  refine ⟨told solver.weights problem points,solved,rolled.whole,?_,?_⟩
  · have point (i : ℕ) : (told solver.weights problem points).instant? i = points[i]? :=
      Trajectory.ofInstants_instant? points _ i
    simp only [point]
    apply rolled.neighbours_exact (·.egoAccel)
    intro now member next step
    exact step.smooth_exact (rolled.within now member).ego
  · intro i now next here there
    obtain ⟨member,step⟩ := rolled.step_at here there
    exact step.jerking (rolled.within now member)

noncomputable def nearlyStopped : Problem ℝ := ⟨⟨0,0.3,-3.0,5.0,0⟩,0,1.5,1.8⟩

theorem nearly_stopped_asked :
    nextAccel (.standard : Weights ℝ) nearlyStopped.gap (launched nearlyStopped.seed) = -2.0 := by
  have demanded : demand (.standard : Weights ℝ) (5.0 - 0) (max 0.3 0) (max 0 0) 1.8 = -0.1547 := by
    unfold demand Weights.standard stopDistance
    norm_num
  unfold nextAccel launched nearlyStopped
  dsimp only
  rw [demanded,clamp_exact,clamp_exact]
  unfold hardestBraking strongestPull jerkLimit courseStep
  norm_num

theorem stop_jerks : ∃ course, Solver.solve nearlyStopped (start : Kinematic ℝ) = (⟨.ok ⟨course,20⟩,1e-6⟩,start) ∧
    course.egoAccel[0]? = some (-3.0 : ℝ) ∧ course.egoAccel[1]? = some 0 ∧
    ¬ course.egoAccel.IsChain fun before after => |after - before| ≤ 1 := by
  obtain ⟨points,rolled,solved⟩ := solve_rolled Real.exp start nearlyStopped
  refine ⟨_,solved,?_⟩
  rcases points with _ | ⟨first,_ | ⟨second,rest⟩⟩
  · cases rolled.length
  · cases rolled.length
  · obtain rfl : first = launched nearlyStopped.seed := Option.some.inj rolled.start
    have step := (List.isChain_cons_cons.mp rolled.steps).1
    have released : second.egoAccel = 0 := by
      rcases step.accel_cases (le_max_right _ _) with ⟨onward,_⟩ | ⟨_,_,_,released⟩
      · have asked : speedAsked .standard nearlyStopped.gap (launched nearlyStopped.seed) = -0.1 := by
          unfold speedAsked
          rw [nearly_stopped_asked]
          unfold launched nearlyStopped courseStep
          norm_num
        change 0 ≤ speedAsked .standard nearlyStopped.gap (launched nearlyStopped.seed) at onward
        rw [asked] at onward
        norm_num at onward
      · exact released
    refine ⟨rfl,congrArg some released,?_⟩
    intro smooth
    have kept : |second.egoAccel - (-3.0)| ≤ 1 := (List.isChain_cons_cons.mp smooth).1
    rw [released] at kept
    norm_num [abs_le] at kept

end Headway.Kinematic
