import Headway.Proofs.AccelLimits.Anticipation
import Headway.Proofs.Planner.Acceptance
import Headway.Proofs.Planner.Disengagement
import Headway.Proofs.Planner.Smoothing
import Headway.Proofs.SpeedSmoother.Limits
import Headway.Proofs.SpeedTargets.Ramp

-- What bounds the acceleration of an engaged cycle, in exact arithmetic. No step takes a cap away again, unless a limit
-- ahead takes over.
namespace Headway
open Scalar

namespace Planner

section Limits
variable {σ α : Type} [Scalar α]

def geometryOf (params : Params α) : TurnGeometry α := ⟨params.steerRatio,params.wheelbase,params.brakeFactor⟩

theorem narrowedLimits_max (params : Params α) (input : PlannerInput α) (targets : SpeedTargets α)
    (cruise : AccelLimits α) :
    let turned := lesser (lesser cruise.max
        (AccelLimits.turnBudget input.ego.speed (turnAngles params input).1 (geometryOf params)))
      (AccelLimits.turnBudget input.ego.speed (turnAngles params input).2 (geometryOf params))
    (narrowedLimits params input targets cruise).max = if input.forceDecel then lesser turned (-0.2) else turned := by
  unfold narrowedLimits
  cases targets.turnInRange <;> cases input.forceDecel <;> rfl

theorem enabledProfile_narrowed {planner : Planner σ α} {input : PlannerInput α} {targets : SpeedTargets α}
    (passes : ¬ planner.SlowsForLimit input targets) :
    (planner.enabledProfile input targets).accelLimits =
      some (narrowedLimits planner.params input targets
        (.cruise input.ego.speed (leadPullsAway input) planner.params.mode)) := by
  unfold enabledProfile
  rw [limitDecel?_none passes]

theorem enabledProfile_pinnedLimits {planner : Planner σ α} {input : PlannerInput α} {targets : SpeedTargets α}
    (slows : planner.SlowsForLimit input targets) :
    (planner.enabledProfile input targets).accelLimits =
      some (.pinned (limitAheadDecel input.ego.speed targets.limitAhead targets.aheadDistance)) := by
  unfold enabledProfile
  rw [limitDecel?_some slows]

end Limits

theorem lateral_exact (egoSpeed angle : ℝ) (geometry : TurnGeometry ℝ) : AccelLimits.lateral egoSpeed angle geometry =
    egoSpeed ^ 2 * |angle| * (3.14159265358979323846 / 180) / (geometry.steerRatio * geometry.wheelbase) := by
  have turn : (180.0 : ℝ) = 180 := by norm_num
  unfold AccelLimits.lateral AccelLimits.radiansPerDegree
  rw [turn,pow_two]
  rfl

section Cycle
variable {σ : Type}

-- A cycle that no limit ahead takes over: all its caps at once, and a start from the acceleration carried to it.
structure Capped (planner : Planner σ ℝ) (input : PlannerInput ℝ) (plan : Plan ℝ) (limits : AccelLimits ℝ) : Prop where
  curve : limits.max ≤ (AccelLimits.cruise input.ego.speed (leadPullsAway input) planner.params.mode).max
  angle : limits.max ≤ AccelLimits.total.read input.ego.speed * planner.params.brakeFactor -
    AccelLimits.lateral input.ego.speed (turnAngles planner.params input).1 (geometryOf planner.params)
  laterAngle : limits.max ≤ AccelLimits.total.read input.ego.speed * planner.params.brakeFactor -
    AccelLimits.lateral input.ego.speed (turnAngles planner.params input).2 (geometryOf planner.params)
  lateral : ∀ angle, AccelLimits.lateral input.ego.speed angle (geometryOf planner.params) =
    input.ego.speed ^ 2 * |angle| * (3.14159265358979323846 / 180) / (planner.params.steerRatio * planner.params.wheelbase)
  forced : input.forceDecel = true → limits.max ≤ -0.2
  start : plan.startAccel = planner.recurrence.accel

theorem narrowedLimits_capped (planner : Planner σ ℝ) (input : PlannerInput ℝ) (targets : SpeedTargets ℝ) {plan : Plan ℝ}
    (start : plan.startAccel = planner.recurrence.accel) :
    planner.Capped input plan (narrowedLimits planner.params input targets
      (.cruise input.ego.speed (leadPullsAway input) planner.params.mode)) := by
  have exact_max := narrowedLimits_max planner.params input targets
    (.cruise input.ego.speed (leadPullsAway input) planner.params.mode)
  dsimp only at exact_max
  generalize narrowedLimits planner.params input targets _ = limits at exact_max ⊢
  rw [lesser_min,lesser_min,lesser_min] at exact_max
  have below : limits.max ≤ min (min (AccelLimits.cruise input.ego.speed (leadPullsAway input) planner.params.mode).max
      (AccelLimits.turnBudget input.ego.speed (turnAngles planner.params input).1 (geometryOf planner.params)))
      (AccelLimits.turnBudget input.ego.speed (turnAngles planner.params input).2 (geometryOf planner.params)) := by
    rw [exact_max]
    split
    · exact min_le_left _ _
    · exact le_rfl
  obtain ⟨first,second⟩ := le_min_iff.mp below
  obtain ⟨curve,angle⟩ := le_min_iff.mp first
  refine ⟨curve,angle,second,fun _ => lateral_exact _ _ _,?_,start⟩
  intro forced
  rw [exact_max,if_pos forced]
  exact min_le_right _ _

-- Accepted parameters leave a lateral acceleration to divide by.
theorem accepted_divides {params : Params ℝ} (passed : params.check = .ok ()) : 0 < params.steerRatio * params.wheelbase := by
  have positive := ((Params.check_exact params).mp passed).positive
  have steer : (0.0 : ℝ) < params.steerRatio := (positive _ (.tail _ (.head _))).1
  have wheelbase : (0.0 : ℝ) < params.wheelbase := (positive _ (.tail _ (.tail _ (.head _)))).1
  rw [zero_exact] at steer wheelbase
  exact mul_pos steer wheelbase

theorem enabledProfile_pinnedAccel {planner : Planner σ ℝ} {input : PlannerInput ℝ} {targets : SpeedTargets ℝ}
    (slows : planner.SlowsForLimit input targets) :
    limitAheadDecel input.ego.speed targets.limitAhead targets.aheadDistance ≤
        (planner.enabledProfile input targets).accel ∧
      (planner.enabledProfile input targets).accel ≤ 0 := by
  have cruising := cruising_of_speed input.ego.speed (leadPullsAway input) planner.params.mode
  obtain ⟨limits,reported,_,_,smoothed⟩ := planner.enabledProfile_smoothed input targets
  rw [enabledProfile_pinnedLimits slows] at reported
  rw [smoothed,← Option.some.inj reported,enabledProfile_pinned slows]
  exact smoothSpeed_pinned _ _ (limitAheadDecel_braking _ _ _).2 cruising.falling cruising.rising (by norm_num [courseStep])

-- A cycle that a limit ahead takes over. Its cruise profile brakes no harder than it requires, and does not pull.
structure Pinned (input : PlannerInput ℝ) (targets : SpeedTargets ℝ) (plan : Plan ℝ) (limits : AccelLimits ℝ) : Prop where
  low : limits.min = plan.startAccel
  high : limits.max = plan.startAccel
  start : plan.startAccel = limitAheadDecel input.ego.speed targets.limitAhead targets.aheadDistance
  braking : -3 ≤ plan.startAccel ∧ plan.startAccel ≤ 0
  smoothed : -3 ≤ plan.cruiseAccel ∧ plan.startAccel ≤ plan.cruiseAccel ∧ plan.cruiseAccel ≤ 0

theorem update_capped [Solver σ ℝ] (planner : Planner σ ℝ) (accepted : planner.params.check = .ok ())
    (input : PlannerInput ℝ) (engaged : input.control.engaged = true) :
    let plan := (planner.update input).2.1
    let report := (planner.update input).2.2
    0 < planner.params.steerRatio * planner.params.wheelbase ∧
      ∃ limits, report.accelLimits = some limits ∧
        (¬ planner.SlowsForLimit input report.targets → planner.Capped input plan limits) ∧
        (planner.SlowsForLimit input report.targets → Pinned input report.targets plan limits) := by
  intro plan report
  have profile := planner.profileOf_engaged engaged
  have reported : report.accelLimits = (planner.enabledProfile input report.targets).accelLimits :=
    congrArg CruiseProfile.accelLimits profile
  have seed : plan.startAccel = (planner.enabledProfile input report.targets).seed.accel :=
    congrArg (fun profile => profile.seed.accel) profile
  have smoothed : plan.cruiseAccel = (planner.enabledProfile input report.targets).accel :=
    congrArg CruiseProfile.accel profile
  refine ⟨accepted_divides accepted,?_⟩
  rw [reported]
  by_cases slows : planner.SlowsForLimit input report.targets
  · refine ⟨_,enabledProfile_pinnedLimits slows,fun passes => absurd slows passes,fun _ => ?_⟩
    have start : plan.startAccel =
        limitAheadDecel input.ego.speed report.targets.limitAhead report.targets.aheadDistance := by
      rw [seed,enabledProfile_pinned slows]
    have braking := limitAheadDecel_braking input.ego.speed report.targets.limitAhead report.targets.aheadDistance
    have pinned := enabledProfile_pinnedAccel slows
    rw [← smoothed] at pinned
    rw [← start] at braking pinned ⊢
    exact ⟨rfl,rfl,start,braking,braking.1.trans pinned.1,pinned⟩
  · refine ⟨_,enabledProfile_narrowed slows,fun _ => ?_,fun slows' => absurd slows' slows⟩
    rw [enabledProfile_carried slows] at seed
    exact narrowedLimits_capped planner input report.targets seed

end Cycle

-- Slowing for a limit ahead, and, with nothing ahead, through a turn with an inattentive driver.
noncomputable def slowingDown : PlannerInput ℝ :=
  { onRoad .pid 0 none with ego := .moving 25, map := some (SpeedTargets.announced 25 15 200) }

noncomputable def inattentive : PlannerInput ℝ :=
  { onRoad .pid 0 none with ego := { (onRoad .pid 0 none).ego with steeringAngle := -30 }, forceDecel := true }

theorem idle_accepted : idle.params.check = .ok () := by
  rw [Params.check_exact]
  refine ⟨?_,⟨rfl,rfl⟩,?_,nofun⟩
  · simp only [Params.positives,List.forall_mem_cons,List.not_mem_nil,false_imp_iff,implies_true,and_true]
    norm_num [idle,fresh,Params.standard,MpcParams.standard,Scalar.isFinite]
  · change (0.0 : ℝ) ≤ 0.3
    norm_num

theorem slowingDown_map : currentMap slowingDown = some (SpeedTargets.announced 25 15 200) := by
  have current : (0 : ℝ) - 0.0 < mapTimeout := by norm_num [mapTimeout]
  change (some (SpeedTargets.announced 25 15 200)).filter (fun map => map.usable && 0 - map.receivedAt < mapTimeout) = _
  rw [Option.filter_some,if_pos]
  change (true && decide ((0 : ℝ) - 0.0 < mapTimeout)) = true
  rw [decide_eq_true current,Bool.and_self]

theorem slowingDown_targets :
    let targets := targetsOf idle.params slowingDown
    targets.limit = 25 ∧ targets.limitAhead = 15 ∧ targets.aheadDistance = 200 := by
  intro targets
  have fused : targets = .fuse (metresPerSecond 90) 25 (some (SpeedTargets.announced 25 15 200)) ⟨true,0.0,.standard⟩ := by
    change SpeedTargets.fuse _ _ (currentMap slowingDown) _ = _
    rw [slowingDown_map]
    rfl
  have near : (200 : ℝ) < SpeedTargets.horizonOf .standard := by norm_num [SpeedTargets.horizonOf]
  have high : (SpeedTargets.lowLimit : ℝ) ≤ 15 := by norm_num [SpeedTargets.lowLimit]
  have bare : ¬ SpeedTargets.Ramping (25 : ℝ) 15 25 200 (50.0,SpeedTargets.horizonOf .standard) := by
    norm_num [SpeedTargets.Ramping,SpeedTargets.horizonOf]
  rw [fused]
  refine ⟨?_,?_,?_⟩
  · rw [SpeedTargets.fuse_followed rfl,SpeedTargets.withLimitAhead_frame]
    change (25 : ℝ) + 0.0 = 25
    norm_num
  · rw [(SpeedTargets.fuse_ahead _ _ (SpeedTargets.announced 25 15 200) ⟨true,0.0,.standard⟩ rfl rfl near).2]
    change SpeedTargets.rampedLimit 25 15 200 (SpeedTargets.rampBounds 25 15 (SpeedTargets.horizonOf .standard)).1
      (SpeedTargets.rampBounds 25 15 (SpeedTargets.horizonOf .standard)).2 (some 25) + 0.0 = (15 : ℝ)
    rw [SpeedTargets.rampBounds_high high,SpeedTargets.rampedLimit_bare bare]
    norm_num
  · rw [SpeedTargets.fuse_distances rfl]
    rfl

theorem slowing_pinned_or_capped :
    idle.params.check = .ok () ∧ slowingDown.control.engaged = true ∧ inattentive.control.engaged = true ∧
      idle.SlowsForLimit slowingDown (idle.update slowingDown).2.2.targets ∧
      (∃ limits, (idle.update slowingDown).2.2.accelLimits = some limits ∧ limits.min = -1 ∧ limits.max = -1 ∧
        (idle.update slowingDown).2.1.startAccel = -1 ∧ -1 ≤ (idle.update slowingDown).2.1.cruiseAccel ∧
        (idle.update slowingDown).2.1.cruiseAccel ≤ 0) ∧
      ¬ idle.SlowsForLimit inattentive (idle.update inattentive).2.2.targets ∧
      ∃ limits, (idle.update inattentive).2.2.accelLimits = some limits ∧
        idle.Capped inattentive (idle.update inattentive).2.1 limits := by
  have slows : idle.SlowsForLimit slowingDown (idle.update slowingDown).2.2.targets := by
    obtain ⟨limit,ahead,_⟩ := slowingDown_targets
    refine ⟨?_,rfl,?_⟩
    · change (targetsOf idle.params slowingDown).limitAhead < (targetsOf idle.params slowingDown).limit
      rw [limit,ahead]
      norm_num
    · change (targetsOf idle.params slowingDown).limitAhead < 25
      rw [ahead]
      norm_num
  -- Without a map both limits are the same ceiling.
  have passes : ¬ idle.SlowsForLimit inattentive (idle.update inattentive).2.2.targets :=
    fun slows => lt_irrefl (noCeiling : ℝ) slows.1
  refine ⟨idle_accepted,rfl,rfl,slows,?_,passes,?_⟩
  · obtain ⟨_,ahead,distance⟩ := slowingDown_targets
    obtain ⟨_,limits,reported,_,pinned⟩ := update_capped idle idle_accepted slowingDown rfl
    have required : limitAheadDecel slowingDown.ego.speed (idle.update slowingDown).2.2.targets.limitAhead
        (idle.update slowingDown).2.2.targets.aheadDistance = -1 := by
      change limitAheadDecel 25 (targetsOf idle.params slowingDown).limitAhead
        (targetsOf idle.params slowingDown).aheadDistance = (-1 : ℝ)
      rw [ahead,distance,limitAheadDecel,greater_max,lesser_min]
      norm_num [hardestLimitDecel]
    obtain ⟨low,high,start,_,smoothed⟩ := pinned slows
    rw [required] at start
    rw [start] at low high smoothed
    exact ⟨limits,reported,low,high,start,smoothed.2⟩
  · obtain ⟨_,limits,reported,capped,_⟩ := update_capped idle idle_accepted inattentive rfl
    exact ⟨limits,reported,capped passes⟩

end Planner
end Headway
