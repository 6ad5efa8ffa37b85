import Headway.Proofs.Planner.BadReading
import Headway.Proofs.Planner.Disengagement

-- What accepted parameters may hold. Each numeric test lets finite numbers through and nothing else, but for one: the
-- speed to pull away at has a lower bound only, and may be endless.
namespace Headway
open Scalar Double

namespace Params

structure Accepted {α : Type} [Scalar α] (params : Params α) : Prop where
  positive : ∀ field ∈ params.positives, 0.0 < field.2 ∧ isFinite field.2 = true
  finite : isFinite params.limitOffset = true ∧ isFinite params.startAccel = true
  standing : 0.0 ≤ params.startSpeed
  gap : ∀ gap ∈ params.mpc.followingGap, 0.0 < gap ∧ gap ≤ 10.0

theorem check_exact {α : Type} [Scalar α] (params : Params α) : params.check = .ok () ↔ params.Accepted := by
  have positive : (∀ field ∈ params.positives, 0.0 < field.2 ∧ isFinite field.2 = true) ↔
      params.positives.find? (fun field => !(0.0 < field.2 && isFinite field.2)) = none := by
    simp
  constructor
  · intro passed
    unfold check at passed
    split at passed
    · cases passed
    · rename_i none
      split at passed
      · cases passed
      · rename_i finite
        split at passed
        · cases passed
        · rename_i standing
          refine ⟨positive.mpr none,by simpa using finite,by simpa using standing,?_⟩
          intro gap chosen
          rw [Option.mem_def.mp chosen] at passed
          dsimp only at passed
          split at passed
          · assumption
          · cases passed
  · intro accepted
    obtain ⟨all,⟨offset,accel⟩,standing,gap⟩ := accepted
    unfold check
    rw [positive.mp all,offset,accel]
    simp only [Bool.and_self,Bool.not_true,Bool.false_eq_true,if_false,standing,decide_true]
    cases chosen : params.mpc.followingGap with
    | none => rfl
    | some seconds => exact if_pos (gap seconds chosen)

def numbers {α : Type} [Scalar α] (params : Params α) : List α :=
  params.positives.map (·.2) ++ [params.limitOffset,params.startAccel] ++ params.mpc.followingGap.toList ++
    [params.startSpeed]

theorem Accepted.numbers_finite {params : Params Float} (accepted : params.Accepted) :
    (∀ x ∈ params.numbers, x.isFinite = true) ↔ params.startSpeed.isFinite = true := by
  constructor
  · intro finite
    exact finite _ (List.mem_append_right _ (List.mem_singleton_self _))
  · intro standing x member
    simp only [numbers,List.mem_append,List.mem_map,List.mem_cons,List.not_mem_nil,or_false,Option.mem_toList] at member
    rcases member with ((⟨field,there,rfl⟩ | rfl | rfl) | chosen) | rfl
    · exact (accepted.positive field there).2
    · exact accepted.finite.1
    · exact accepted.finite.2
    · obtain ⟨low,high⟩ := accepted.gap x chosen
      exact finite_of_between (Ordered.le_of_lt low) high (by decide) (by decide)
    · exact standing

theorem Accepted.standing_cases {params : Params Float} (accepted : params.Accepted) :
    params.startSpeed.isFinite = true ∨ Endless .positive params.startSpeed := by
  rcases number_cases (Ordered.numbers_of_le accepted.standing).2 with finite | ⟨s,endless⟩
  · exact .inl finite
  · cases s with
    | positive => exact .inr endless
    | negative => exact absurd (not_finite (bottom_of_le endless accepted.standing)) (by decide)

end Params

-- Sizes at which nothing on the way from one cycle to the next overflows.
def Moderate (x : Float) : Prop := -1e300 ≤ x ∧ x ≤ 1e300

theorem Moderate.finite {x : Float} (moderate : Moderate x) : x.isFinite = true :=
  finite_of_between moderate.1 moderate.2 (by decide +kernel) (by decide +kernel)

namespace Recurrence
variable {seed : Recurrence Float}

theorem add_nothing {x y : Float} (finite : x.isFinite = true) (low : 0.0 ≤ y) (high : y ≤ 0.0) : x ≤ x + y ∧ x + y ≤ x := by
  have same : Nearest (value x) (x + 0.0) := by
    have sum := nearest_add finite (show (0.0 : Float).isFinite = true by decide)
    rwa [show value 0.0 = 0 from rfl,add_zero] at sum
  have own : Nearest (value x) x := nearest_self finite
  exact ⟨Ordered.le_trans (own.le same le_rfl) (add_mono_second finite low),
    Ordered.le_trans (add_mono_second finite high) (same.le own le_rfl)⟩

-- Nothing is added to an acceleration that is to be kept, whichever zero comes out.
theorem advance_accel_steady (finite : seed.accel.isFinite = true) :
    seed.accel ≤ (seed.advance seed.accel).accel ∧ (seed.advance seed.accel).accel ≤ seed.accel := by
  obtain ⟨high,low⟩ := same_sub finite
  have scale : share.isFinite = true := by decide
  have none := zero_times scale
  rw [advance_accel,mul_swap]
  apply add_nothing finite
  · exact Ordered.le_trans none.2 (mul_mono scale (by decide) low)
  · exact Ordered.le_trans (mul_mono scale (by decide) high) none.1

theorem advance_speed_finite (speed : Moderate seed.speed) (accel : Moderate seed.accel) :
    (seed.advance seed.accel).speed.isFinite = true := by
  obtain ⟨low,high⟩ := advance_accel_steady accel.finite
  have steady : Moderate (seed.advance seed.accel).accel := ⟨Ordered.le_trans accel.1 low,Ordered.le_trans high accel.2⟩
  have least : (-1e300 + -1e300 : Float) ≤ (seed.advance seed.accel).accel + seed.accel :=
    Ordered.le_trans (add_mono_first (by decide +kernel) steady.1) (add_mono_second steady.finite accel.1)
  have most : (seed.advance seed.accel).accel + seed.accel ≤ (1e300 + 1e300 : Float) :=
    Ordered.le_trans (add_mono_second steady.finite accel.2) (add_mono_first (by decide +kernel) steady.2)
  have gained {x y : Float} (le : x ≤ y) : 0.05 * x / 2.0 ≤ 0.05 * y / 2.0 := by
    rw [mul_swap 0.05 x,mul_swap 0.05 y]
    exact div_mono (by decide) (by decide) (mul_mono (by decide) (by decide) le)
  rw [advance_speed]
  apply SpeedSmoother.sum_finite speed.1 speed.2 (gained least) (gained most) speed.finite
  · decide +kernel
  · decide +kernel
  · decide +kernel
  · decide +kernel

end Recurrence

namespace Planner
variable {σ : Type} [Solver σ Float]

structure FiniteMotion (plan : Plan Float) (handed : Recurrence Float) : Prop where
  start : plan.startSpeed.isFinite = true ∧ plan.startAccel.isFinite = true
  target : plan.targetSpeed.isFinite = true ∧ plan.targetAccel.isFinite = true
  handed : handed.speed.isFinite = true ∧ handed.accel.isFinite = true

theorem Rests.finite_exact {seed : Recurrence Float} {plan : Plan Float} {handed : Recurrence Float}
    (rests : Rests seed plan handed) (accel : Moderate seed.accel)
    (speed : seed.speed.isFinite = true → Moderate seed.speed) :
    FiniteMotion plan handed ↔ seed.speed.isFinite = true := by
  obtain ⟨_,⟨start,startAccel⟩,⟨target,targetAccel⟩,rfl⟩ := rests
  constructor
  · intro finite
    rw [← start]
    exact finite.start.1
  · intro finite
    obtain ⟨low,high⟩ := Recurrence.advance_accel_steady accel.finite
    refine ⟨?_,?_,?_⟩
    · rw [start,startAccel]
      exact ⟨finite,accel.finite⟩
    · rw [target,targetAccel]
      exact ⟨finite,accel.finite⟩
    · exact ⟨Recurrence.advance_speed_finite (speed finite) accel,finite_of_between low high accel.finite accel.finite⟩

theorem eased_moderate {accel : Float} (moderate : Moderate accel) : Moderate (lesser accel 0.0) :=
  ⟨Ordered.le_lesser moderate.1 (by decide +kernel),
    Ordered.le_trans (Ordered.lesser_le_right (by decide)) (by decide +kernel : (0.0 : Float) ≤ 1e300)⟩

-- With the controller off the plan is finite whatever was accepted, except that a cycle that pulls away starts at the
-- speed that acceptance does not bound.
theorem accepted_rests_finite {planner : Planner σ Float} (passed : planner.params.check = .ok ())
    {input : PlannerInput Float} (released : input.control.engaged = false)
    (ego : Moderate input.ego.speed ∧ Moderate input.ego.accel)
    (away : input.control = .starting → Moderate planner.params.startAccel ∧
      (planner.params.startSpeed.isFinite = true → Moderate planner.params.startSpeed)) :
    ((∀ x ∈ planner.params.numbers, x.isFinite = true) ↔ planner.params.startSpeed.isFinite = true) ∧
      (planner.params.startSpeed.isFinite = true ∨ Endless .positive planner.params.startSpeed) ∧
      (FiniteMotion (planner.update input).2.1 (planner.update input).1.recurrence ↔
        (input.control = .starting → planner.params.startSpeed.isFinite = true)) := by
  have accepted := planner.params.check_exact.mp passed
  have rests := planner.update_rests released
  refine ⟨accepted.numbers_finite,accepted.standing_cases,?_⟩
  unfold disabledSeed at rests
  split at rests
  · rename_i starting
    obtain ⟨accel,speed⟩ := away starting
    rw [rests.finite_exact accel speed]
    simp [starting]
  · rename_i off
    rw [rests.finite_exact (eased_moderate ego.2) fun _ => ego.1]
    exact iff_of_true ego.1.finite fun starting => absurd starting off

def endless : Params Float := { Params.standard with startSpeed := 1.0 / 0.0 }

def launching : PlannerInput Float := { openRoad 0.0 with control := .starting }

theorem endless_start_planned :
    start endless (⟨[],0.001⟩ : Scripted Float) ⟨[],0.001⟩ = .ok (fresh endless ⟨[],0.001⟩ ⟨[],0.001⟩) ∧
      launching.control.engaged = false ∧ Moderate launching.ego.speed ∧ Moderate launching.ego.accel ∧
      ((fresh endless (⟨[],0.001⟩ : Scripted Float) ⟨[],0.001⟩).update launching).2.1.startSpeed.isFinite = false ∧
      ((fresh endless (⟨[],0.001⟩ : Scripted Float) ⟨[],0.001⟩).update launching).1.recurrence.speed.isFinite = false :=
  ⟨start_exact.mpr ⟨rfl,rfl⟩,rfl,by unfold Moderate; decide +kernel,by unfold Moderate; decide +kernel,by decide +kernel,
    by decide +kernel⟩

theorem standard_rests_finite :
    (scripted [] []).params.check = .ok () ∧ launching.control.engaged = false ∧
      (Moderate launching.ego.speed ∧ Moderate launching.ego.accel) ∧
      (launching.control = .starting → Moderate (scripted [] []).params.startAccel ∧
        ((scripted [] []).params.startSpeed.isFinite = true → Moderate (scripted [] []).params.startSpeed)) ∧
      FiniteMotion ((scripted [] []).update launching).2.1 ((scripted [] []).update launching).1.recurrence := by
  have passed : (scripted [] []).params.check = .ok () := rfl
  have ego : Moderate launching.ego.speed ∧ Moderate launching.ego.accel := by
    unfold Moderate
    decide +kernel
  have away : launching.control = .starting → Moderate (scripted [] []).params.startAccel ∧
      ((scripted [] []).params.startSpeed.isFinite = true → Moderate (scripted [] []).params.startSpeed) := by
    unfold Moderate
    decide +kernel
  obtain ⟨_,_,finite⟩ := accepted_rests_finite passed rfl ego away
  exact ⟨passed,rfl,ego,away,finite.mpr fun _ => by decide⟩

end Planner
end Headway
