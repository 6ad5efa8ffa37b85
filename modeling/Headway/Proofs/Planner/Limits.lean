import Headway.Proofs.AccelLimits
import Headway.Proofs.Planner.Cycle

-- The limits that a cruise profile is made within, from the curves to the smoother.
namespace Headway
open Scalar AccelLimits Ordered

namespace Planner

theorem narrowedLimits_coherent (params : Params Float) (input : PlannerInput Float)
    (targets : SpeedTargets Float) {cruise : AccelLimits Float} (number : cruise.max.isNaN = false) :
    (narrowedLimits params input targets cruise).Coherent ↔
      targets.turnInRange = false ∨
        turnRequiredDecel input.ego.speed targets.curve targets.turnDistance ≤
          (narrowedLimits params input targets cruise).max := by
  unfold narrowedLimits
  dsimp only
  generalize (turnAngles params input).1 = angle
  generalize (turnAngles params input).2 = laterAngle
  have turned := inTurn_number number input.ego.speed angle laterAngle
    ⟨params.steerRatio,params.wheelbase,params.brakeFactor⟩
  have coherent := inTurn_coherent number input.ego.speed angle laterAngle
    ⟨params.steerRatio,params.wheelbase,params.brakeFactor⟩
  generalize cruise.inTurn _ _ _ _ = inTurn at turned coherent ⊢
  have forced : (if input.forceDecel then inTurn.forceDecel else inTurn).Coherent := by
    split
    · exact forceDecel_coherent turned
    · exact coherent
  generalize (if input.forceDecel then inTurn.forceDecel else inTurn) = before at forced ⊢
  cases near : targets.turnInRange with
  | false => simpa using forced
  | true =>
    simp only [if_true,Bool.true_eq_false,false_or]
    exact requireDecel_coherent forced (turnRequiredDecel_number _ _ _)

theorem narrowedLimits_braking (params : Params Float) (input : PlannerInput Float)
    (targets : SpeedTargets Float) {cruise : AccelLimits Float} (braking : cruise.min ≤ 0.0) :
    (narrowedLimits params input targets cruise).min ≤ 0.0 := by
  unfold narrowedLimits
  dsimp only
  generalize (turnAngles params input).1 = angle
  generalize (turnAngles params input).2 = laterAngle
  have turned : (cruise.inTurn input.ego.speed angle laterAngle
      ⟨params.steerRatio,params.wheelbase,params.brakeFactor⟩).min ≤ 0.0 :=
    le_trans (capped_min_le (numbers_of_le braking).1) braking
  generalize cruise.inTurn _ _ _ _ = inTurn at turned ⊢
  have forced : (if input.forceDecel then inTurn.forceDecel else inTurn).min ≤ 0.0 := by
    split
    · exact le_trans (capped_min_le (numbers_of_le turned).1) turned
    · exact turned
  generalize (if input.forceDecel then inTurn.forceDecel else inTurn) = before at forced ⊢
  split
  · exact requireDecel_min_le forced (turnRequiredDecel_nonpos _ _ _)
  · exact forced

def limitsOf {σ : Type} (planner : Planner σ Float) (input : PlannerInput Float)
    (targets : SpeedTargets Float) : AccelLimits Float :=
  match planner.limitDecel? input targets with
  | some decel => .pinned decel
  | none => narrowedLimits planner.params input targets
      (.cruise input.ego.speed (leadPullsAway input) planner.params.mode)

theorem limitsOf_coherent {σ : Type} (planner : Planner σ Float) (input : PlannerInput Float)
    (targets : SpeedTargets Float) (real : input.ego.speed.isNaN = false) :
    (planner.limitsOf input targets).Coherent ↔
      planner.SlowsForLimit input targets ∨ targets.turnInRange = false ∨
        turnRequiredDecel input.ego.speed targets.curve targets.turnDistance ≤
          (planner.limitsOf input targets).max := by
  by_cases slows : planner.SlowsForLimit input targets
  · have pinned : planner.limitsOf input targets =
        .pinned (limitAheadDecel input.ego.speed targets.limitAhead targets.aheadDistance) := by
      rw [limitsOf,limitDecel?_some slows]
    rw [pinned]
    exact iff_of_true (pinned_coherent (limitAheadDecel_number _ _ _)) (.inl slows)
  · have narrowed : planner.limitsOf input targets = narrowedLimits planner.params input targets
        (.cruise input.ego.speed (leadPullsAway input) planner.params.mode) := by
      rw [limitsOf,limitDecel?_none slows]
    rw [narrowed,or_iff_right slows]
    exact narrowedLimits_coherent _ _ _ (cruise_number real _ _)

theorem limitsOf_smoothable {σ : Type} (planner : Planner σ Float) (input : PlannerInput Float)
    (targets : SpeedTargets Float) (finite : input.ego.speed.isFinite = true) :
    Smoothable (planner.limitsOf input targets) (.forMode input.ego.speed planner.params.mode
      (.cruise input.ego.speed (leadPullsAway input) planner.params.mode)) := by
  have cruise := cruise_between (Double.number_of_finite finite) (leadPullsAway input) planner.params.mode
  have jerk := forMode_between finite planner.params.mode cruise.1 cruise.2
  refine ⟨?_,jerk.1,jerk.2⟩
  unfold limitsOf
  cases decel : planner.limitDecel? input targets with
  | none => exact narrowedLimits_braking _ _ _ (le_trans cruise.1.2 (by decide))
  | some pinned =>
    unfold limitDecel? at decel
    split at decel
    · cases decel
      exact (limitAheadDecel_between _ _ _).2
    · cases decel

theorem enabledProfile_made {σ : Type} (planner : Planner σ Float) (input : PlannerInput Float)
    (targets : SpeedTargets Float) :
    let profile := planner.enabledProfile input targets
    let jerk := .forMode input.ego.speed planner.params.mode
      (.cruise input.ego.speed (leadPullsAway input) planner.params.mode)
    let next := smoothSpeed ⟨profile.seed.speed,profile.seed.accel⟩ targets.setpoint
      (planner.limitsOf input targets) jerk courseStep
    profile.accelLimits = some (planner.limitsOf input targets) ∧ profile.jerkLimits = some jerk ∧
      profile.speed = greater next.speed 0.0 ∧ profile.accel = next.accel := by
  unfold enabledProfile limitsOf
  cases planner.limitDecel? input targets with
  | none => exact ⟨rfl,rfl,rfl,rfl⟩
  | some decel => exact ⟨rfl,rfl,rfl,rfl⟩

end Planner

-- Limits that a cycle both reports and makes its cruise profile within, starting from the published seed.
structure MadeWithin (plan : Plan Float) (report : PlannerReport Float) (limits : AccelLimits Float) : Prop where
  reported : report.accelLimits = some limits
  smoothed : ∃ jerk, report.jerkLimits = some jerk ∧ ∃ next,
    next = smoothSpeed ⟨plan.startSpeed,plan.startAccel⟩ report.targets.setpoint limits jerk courseStep ∧
    plan.cruiseSpeed = greater next.speed 0.0 ∧ plan.cruiseAccel = next.accel

section Cycle
variable {σ : Type} [Solver σ Float]

theorem update_madeWithin (planner : Planner σ Float) (input : PlannerInput Float)
    (engaged : input.control.engaged = true) :
    MadeWithin (planner.update input).2.1 (planner.update input).2.2
      (planner.limitsOf input (planner.update input).2.2.targets) := by
  have profile := planner.profileOf_engaged engaged
  obtain ⟨limits,jerk,speed,accel⟩ := planner.enabledProfile_made input (Planner.targetsOf planner.params input)
  rw [← profile] at limits jerk speed accel
  exact ⟨limits,_,jerk,_,rfl,speed,accel⟩

-- The limits of a cycle cross exactly where a turn ahead requires less braking than the upper end,
-- brought down by that turn or another, already prescribes.
theorem update_limits_coherent (planner : Planner σ Float) (input : PlannerInput Float)
    (engaged : input.control.engaged = true) (real : input.ego.speed.isNaN = false) :
    ∃ limits, MadeWithin (planner.update input).2.1 (planner.update input).2.2 limits ∧
      (limits.min ≤ limits.max ↔
        planner.SlowsForLimit input (planner.update input).2.2.targets ∨
        (planner.update input).2.2.targets.turnInRange = false ∨
        turnRequiredDecel input.ego.speed (planner.update input).2.2.targets.curve
          (planner.update input).2.2.targets.turnDistance ≤ limits.max) :=
  ⟨planner.limitsOf input (planner.update input).2.2.targets,update_madeWithin planner input engaged,
    planner.limitsOf_coherent input (planner.update input).2.2.targets real⟩

end Cycle

def forcedTurn : PlannerInput Float :=
  { Planner.openRoad 20.0 with
    map := some { RoadMap.blank with curvatureKnown := true, curvature := 0.005, turnDistance := 200.0 }
    forceDecel := true }

theorem limits_cross_in_forced_turn :
    Planner.start Params.standard (⟨[],0.001⟩ : Scripted Float) ⟨[],0.001⟩ = .ok (Planner.scripted [] []) ∧
      forcedTurn.control.engaged = true ∧
      ((Planner.scripted [] []).update forcedTurn).2.2.accelLimits.any
        (fun limits => limits.max < limits.min) = true :=
  ⟨Planner.scripted_start [] [],rfl,by decide +kernel⟩

theorem limits_of_forced_turn :
    forcedTurn.control.engaged = true ∧ forcedTurn.ego.speed.isNaN = false ∧
      ∃ limits, MadeWithin ((Planner.scripted [] []).update forcedTurn).2.1
          ((Planner.scripted [] []).update forcedTurn).2.2 limits ∧
        (limits.min ≤ limits.max ↔
          (Planner.scripted [] []).SlowsForLimit forcedTurn
            ((Planner.scripted [] []).update forcedTurn).2.2.targets ∨
          ((Planner.scripted [] []).update forcedTurn).2.2.targets.turnInRange = false ∨
          turnRequiredDecel forcedTurn.ego.speed
            ((Planner.scripted [] []).update forcedTurn).2.2.targets.curve
            ((Planner.scripted [] []).update forcedTurn).2.2.targets.turnDistance ≤ limits.max) :=
  ⟨rfl,by decide,update_limits_coherent (Planner.scripted [] []) forcedTurn rfl (by decide)⟩

end Headway
