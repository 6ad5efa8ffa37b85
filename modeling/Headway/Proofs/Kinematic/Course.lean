import Headway.Proofs.Kinematic.Rollout
import Headway.Proofs.Double.Monotone
import Headway.Proofs.Mpc.Course

-- What every rolled out course is like, by an invariant that each of its steps keeps: whole, neither car reversing in
-- speed, and with an acceleration between the one it starts at and the two limits. A seed that is not finite is refused.
namespace Headway
open Scalar Decimal

structure Weights.Nonneg (weights : Weights ℝ) : Prop where
  timeToCollision : 0 ≤ weights.timeToCollision
  distance : 0 ≤ weights.distance
  accel : 0 ≤ weights.accel
  jerk : 0 ≤ weights.jerk

namespace Kinematic

theorem step_pos : (0 : ℝ) < courseStep := by
  unfold courseStep
  norm_num

theorem braking_neg : (hardestBraking : ℝ) < 0 := by
  unfold hardestBraking
  norm_num

theorem pull_pos : (0 : ℝ) < strongestPull := by
  unfold strongestPull
  norm_num

theorem jerk_pos : (0 : ℝ) < jerkLimit * courseStep := by
  unfold jerkLimit
  exact mul_pos (by norm_num) step_pos

section Steps
variable {weights : Weights ℝ} {problem : Problem ℝ} {gap low high : ℝ} {now next : Instant ℝ}

theorem nextAccel_between (weights : Weights ℝ) (gap : ℝ) (lowest : low ≤ hardestBraking) (highest : strongestPull ≤ high)
    (least : low ≤ now.egoAccel) (most : now.egoAccel ≤ high) :
    low ≤ nextAccel weights gap now ∧ nextAccel weights gap now ≤ high := by
  obtain ⟨above,below⟩ := clamp_between (braking_neg.trans pull_pos).le
    (demand weights (now.leadPosition - now.egoPosition) now.egoSpeed now.leadSpeed gap)
  unfold nextAccel
  dsimp only
  generalize clamp hardestBraking strongestPull
    (demand weights (now.leadPosition - now.egoPosition) now.egoSpeed now.leadSpeed gap) = wanted at *
  obtain ⟨down,up⟩ := clamp_toward jerk_pos.le now.egoAccel wanted
  exact ⟨(le_min least (lowest.trans above)).trans down,up.trans (max_le most (below.trans highest))⟩

structure Within (low high : ℝ) (point : Instant ℝ) : Prop where
  ego : 0 ≤ point.egoSpeed
  lead : 0 ≤ point.leadSpeed
  least : low ≤ point.egoAccel
  most : point.egoAccel ≤ high

theorem Step.within (step : Step weights gap now next) (lowest : low ≤ hardestBraking) (highest : strongestPull ≤ high)
    (within : Within low high now) : Within low high next := by
  obtain ⟨least,most⟩ := nextAccel_between weights gap lowest highest within.least within.most
  cases step with
  | moving leadAccel onward => exact ⟨onward,le_max_right _ _,least,most⟩
  | stopping leadAccel short =>
    exact ⟨le_rfl,le_max_right _ _,le_max_of_le_left least,max_le most (pull_pos.le.trans highest)⟩

theorem Rolled.within {points : List (Instant ℝ)} (rolled : Rolled weights problem points) :
    ∀ point ∈ points, Within (min problem.seed.egoAccel hardestBraking) (max problem.seed.egoAccel strongestPull) point := by
  refine List.IsChain.induction (Within _ _) points rolled.steps ?_ ?_
  · intro now next step within
    exact step.within (min_le_right _ _) (le_max_right _ _) within
  · intro some
    have first : points.head some = launched problem.seed := by
      rw [← Option.some_inj,← List.head?_eq_some_head some]
      exact rolled.start
    rw [first]
    exact ⟨le_max_right _ _,le_max_right _ _,min_le_left _ _,le_max_left _ _⟩

theorem weighed_nonneg {weight : ℝ} (nonneg : 0 ≤ weight) (x : ℝ) : 0 ≤ weight * x * x := by
  rw [mul_assoc]
  exact mul_nonneg nonneg (mul_self_nonneg x)

theorem stageCost_nonneg (nonneg : weights.Nonneg) (gap : ℝ) (now : Instant ℝ) : 0 ≤ stageCost weights gap now := by
  apply mul_nonneg step_pos.le
  have closing := weighed_nonneg nonneg.timeToCollision
  have error := weighed_nonneg nonneg.distance
  have accel := weighed_nonneg nonneg.accel
  have jerk := weighed_nonneg nonneg.jerk
  exact add_nonneg (add_nonneg (add_nonneg (error _) (closing _)) (accel _)) (jerk _)

end Steps
end Kinematic

structure Trajectory.Simulated (seed : Instant ℝ) (course : Trajectory ℝ) : Prop where
  whole : ∀ xs ∈ course.sequences, xs.length = 21
  start : course.instant? 0 =
    some { seed with egoSpeed := max seed.egoSpeed 0, leadSpeed := max seed.leadSpeed 0 }
  egoForward : ∀ speed ∈ course.egoSpeed, 0 ≤ speed
  leadForward : ∀ speed ∈ course.leadSpeed, 0 ≤ speed
  bounded : ∀ accel ∈ course.egoAccel, min seed.egoAccel (-3.5) ≤ accel ∧ accel ≤ max seed.egoAccel 2.0
  cost : 0 ≤ course.cost

def Problem.numbers {α : Type} (problem : Problem α) : List α :=
  [problem.seed.egoPosition,problem.seed.egoSpeed,problem.seed.egoAccel,problem.seed.leadPosition,problem.seed.leadSpeed,
    problem.leadAccel,problem.leadDecay,problem.gap]

theorem Trajectory.ofInstants_instant? {α : Type} (points : List (Instant α)) (cost : α) (i : ℕ) :
    (Trajectory.ofInstants points cost).instant? i = points[i]? := by
  cases point : points[i]? <;> simp [instant?,ofInstants,point]

namespace Kinematic

section Told
variable {weights : Weights ℝ} {problem : Problem ℝ} {points : List (Instant ℝ)}

theorem Rolled.whole (rolled : Rolled weights problem points) :
    ∀ xs ∈ (told weights problem points).sequences, xs.length = 21 := by
  simp [Trajectory.sequences,told,Trajectory.ofInstants,rolled.length,courseLength]

-- A relation of neighbouring points that a step has just where something is true of its first one.
theorem Rolled.neighbours_exact (rolled : Rolled weights problem points) (field : Instant ℝ → ℝ) {related : ℝ → ℝ → Prop}
    {holds : Instant ℝ → Prop} (exact : ∀ now ∈ points, ∀ next, Step weights problem.gap now next →
      (related (field now) (field next) ↔ holds now)) :
    (points.map field).IsChain related ↔ ∀ i < 20, ∀ now, points[i]? = some now → holds now := by
  have size : points.length = 21 := rolled.length
  have steps := List.isChain_iff_getElem.mp rolled.steps
  rw [List.isChain_map,List.isChain_iff_getElem]
  constructor
  · intro chained i early now there
    obtain ⟨_,rfl⟩ := List.getElem?_eq_some_iff.mp there
    exact (exact _ (List.getElem_mem _) _ (steps i (by omega))).mp (chained i (by omega))
  · intro held i early
    exact (exact _ (List.getElem_mem _) _ (steps i early)).mpr (held i (by omega) _ (List.getElem?_eq_getElem (by omega)))

theorem Rolled.step_at (rolled : Rolled weights problem points) {i : ℕ} {now next : Instant ℝ}
    (here : (told weights problem points).instant? i = some now)
    (there : (told weights problem points).instant? (i + 1) = some next) :
    now ∈ points ∧ Step weights problem.gap now next := by
  unfold told at here there
  rw [Trajectory.ofInstants_instant?] at here there
  obtain ⟨_,rfl⟩ := List.getElem?_eq_some_iff.mp here
  obtain ⟨later,rfl⟩ := List.getElem?_eq_some_iff.mp there
  exact ⟨List.getElem_mem _,List.isChain_iff_getElem.mp rolled.steps i later⟩

theorem Rolled.simulated (rolled : Rolled weights problem points) (nonneg : weights.Nonneg) :
    (told weights problem points).Simulated problem.seed := by
  have within := rolled.within
  refine ⟨rolled.whole,?_,?_,?_,?_,?_⟩
  · unfold told
    rw [Trajectory.ofInstants_instant?,← List.head?_eq_getElem?]
    exact rolled.start
  · intro speed member
    obtain ⟨point,listed,rfl⟩ := List.mem_map.mp member
    exact (within point listed).ego
  · intro speed member
    obtain ⟨point,listed,rfl⟩ := List.mem_map.mp member
    exact (within point listed).lead
  · intro accel member
    obtain ⟨point,listed,rfl⟩ := List.mem_map.mp member
    exact ⟨(within point listed).least,(within point listed).most⟩
  · apply List.sum_nonneg
    intro cost member
    obtain ⟨point,_,rfl⟩ := List.mem_map.mp member
    exact stageCost_nonneg nonneg problem.gap point

end Told

theorem solve_refuses {α : Type} [Scalar α] (solver : Kinematic α) {problem : Problem α} {x : α}
    (member : x ∈ problem.numbers) (endless : isFinite x = false) :
    Solver.solve problem solver = (⟨.error (.notFinite problem),solver.solveTime⟩,solver) := by
  have refused : seedFinite problem = false := List.all_eq_false.mpr ⟨x,member,by simp [endless]⟩
  change (solver.answer problem,solver) = _
  unfold answer
  rw [refused]
  rfl

theorem notFinite_message (problem : Problem Float) : ∃ seed,
    (SolverFault.notFinite problem).message = (SolverFault.failed ("non-finite seed: " ++ seed)).message := by
  have whole : "The solver failed: non-finite seed: " = "The solver failed: " ++ "non-finite seed: " := rfl
  refine ⟨s!"{SolverFault.instantText problem.seed}, " ++ s!"a_lead = {Layout.plain.text problem.leadAccel}, "
    ++ s!"tau = {Layout.plain.text problem.leadDecay}, tr = {Layout.plain.text problem.gap}",?_⟩
  unfold SolverFault.message
  dsimp only [toString]
  generalize SolverFault.instantText problem.seed = seed
  generalize Layout.plain.text problem.leadAccel = accel
  generalize Layout.plain.text problem.leadDecay = decay
  rw [whole]
  simp only [String.append_assoc]

theorem solve_simulates :
    (∀ (growth : ℝ → ℝ) (solver : Kinematic ℝ) (problem : Problem ℝ), solver.weights.Nonneg →
      letI := exactWith growth
      ∃ course, Solver.solve problem solver = (⟨.ok ⟨course,20⟩,solver.solveTime⟩,solver) ∧
        course.Simulated problem.seed) ∧
    ∀ (solver : Kinematic Float) (problem : Problem Float),
      (∃ x ∈ problem.numbers, x.isNaN = true ∨ x.isInf = true) →
      Solver.solve problem solver = (⟨.error (.notFinite problem),solver.solveTime⟩,solver) ∧
        ∃ seed, (SolverFault.notFinite problem).message = (SolverFault.failed ("non-finite seed: " ++ seed)).message := by
  constructor
  · intro growth solver problem nonneg
    obtain ⟨points,rolled,solved⟩ := solve_rolled growth solver problem
    exact ⟨told solver.weights problem points,solved,rolled.simulated nonneg⟩
  · rintro solver problem ⟨x,member,special⟩
    exact ⟨solve_refuses solver member (Double.not_finite_of_special special),notFinite_message problem⟩

noncomputable def collision : Problem ℝ := ⟨⟨0,3.0,0,5.0,0⟩,-2.0,1.5,1.8⟩

def unread : Problem Float := ⟨⟨0.0,0.0 / 0.0,0.0,50.0,10.0⟩,0.0,1.5,1.8⟩

theorem collision_simulates :
    (start : Kinematic ℝ).weights.Nonneg ∧
    (∃ course, Solver.solve collision (start : Kinematic ℝ) = (⟨.ok ⟨course,20⟩,1e-6⟩,start) ∧
      course.Simulated collision.seed) ∧
    (∃ x ∈ unread.numbers, x.isNaN = true ∨ x.isInf = true) ∧
    Solver.solve unread (start : Kinematic Float) = (⟨.error (.notFinite unread),1e-6⟩,start) := by
  have nonneg : (start : Kinematic ℝ).weights.Nonneg := by
    unfold start Weights.standard
    constructor <;> norm_num
  have special : ∃ x ∈ unread.numbers, x.isNaN = true ∨ x.isInf = true :=
    ⟨0.0 / 0.0,.tail _ (.head _),.inl (by decide +kernel)⟩
  exact ⟨nonneg,solve_simulates.1 Real.exp start collision nonneg,special,(solve_simulates.2 start unread special).1⟩

end Kinematic
end Headway
