import Headway.Proofs.Exact.Table
import Headway.Proofs.Planner.Disengagement
import Headway.Proofs.SpeedSmoother.Definedness

-- At any speed the ego may brake and may pull, so no engaged cycle divides by zero or takes the root of a negative number.
namespace Headway
open Scalar

namespace AccelLimits

theorem cruiseCurve_between {low high y₀ y₅ y₁₀ y₂₀ y₅₅ : ℝ}
    (within : ∀ y ∈ [y₀,y₅,y₁₀,y₂₀,y₅₅], low ≤ y ∧ y ≤ high) (egoSpeed : ℝ) :
    low ≤ (cruiseCurve y₀ y₅ y₁₀ y₂₀ y₅₅).read egoSpeed ∧ (cruiseCurve y₀ y₅ y₁₀ y₂₀ y₅₅).read egoSpeed ≤ high :=
  Table.read_of_between (by simpa using within) egoSpeed

theorem cruiseMin_negative (egoSpeed : ℝ) : -0.8 ≤ cruiseMin.read egoSpeed ∧ cruiseMin.read egoSpeed ≤ -0.3 :=
  cruiseCurve_between (by norm_num) egoSpeed

theorem cruiseMax_positive (mode : DriveMode) (egoSpeed : ℝ) :
    0.1 ≤ (cruiseMax mode).read egoSpeed ∧ (cruiseMax mode).read egoSpeed ≤ 3.5 := by
  cases mode with
  | standard => exact cruiseCurve_between (by norm_num) egoSpeed
  | sport => exact cruiseCurve_between (by norm_num) egoSpeed
  | eco => exact cruiseCurve_between (by norm_num) egoSpeed

theorem followingMax_positive (egoSpeed : ℝ) : 0.3 ≤ followingMax.read egoSpeed ∧ followingMax.read egoSpeed ≤ 1.6 :=
  cruiseCurve_between (by norm_num) egoSpeed

theorem cruise_signs (egoSpeed : ℝ) (following : Bool) (mode : DriveMode) :
    (cruise egoSpeed following mode).min < 0 ∧ 0 < (cruise egoSpeed following mode).max := by
  constructor
  · exact (cruiseMin_negative egoSpeed).2.trans_lt (by norm_num)
  · cases following with
    | false => exact lt_of_lt_of_le (by norm_num) (cruiseMax_positive mode egoSpeed).1
    | true => exact lt_of_lt_of_le (by norm_num) (followingMax_positive egoSpeed).1

end AccelLimits

theorem forMode_around (egoSpeed : ℝ) (mode : DriveMode) (accel : AccelLimits ℝ) :
    (JerkLimits.forMode egoSpeed mode accel).min ≤ -0.1 ∧ (JerkLimits.forMode egoSpeed mode accel).min ≤ accel.min ∧
      accel.max ≤ (JerkLimits.forMode egoSpeed mode accel).max := by
  have within (floor slope atRest : ℝ) (low : floor ≤ -0.1) :
      (JerkLimits.forMode.within egoSpeed accel floor slope atRest).min ≤ -0.1 ∧
        (JerkLimits.forMode.within egoSpeed accel floor slope atRest).min ≤ accel.min ∧
        accel.max ≤ (JerkLimits.forMode.within egoSpeed accel floor slope atRest).max := by
    unfold JerkLimits.forMode.within
    dsimp only
    rw [lesser_min,greater_max]
    exact ⟨(min_le_right _ _).trans low,min_le_left _ _,le_max_left _ _⟩
  cases mode with
  | standard => exact within _ _ _ le_rfl
  | sport => exact within _ _ _ (by norm_num)
  | eco => exact within _ _ _ le_rfl

structure Cruising (accel : AccelLimits ℝ) (jerk : JerkLimits ℝ) : Prop where
  braking : accel.min < 0
  pulling : 0 < accel.max
  floor : jerk.min ≤ -0.1
  fall : jerk.min ≤ accel.min
  rise : accel.max ≤ jerk.max
  rising : 0 < jerk.max

theorem Cruising.falling {accel : AccelLimits ℝ} {jerk : JerkLimits ℝ} (cruising : Cruising accel jerk) : jerk.min < 0 :=
  cruising.fall.trans_lt cruising.braking

theorem cruising_of_speed (egoSpeed : ℝ) (following : Bool) (mode : DriveMode) :
    Cruising (.cruise egoSpeed following mode) (.forMode egoSpeed mode (.cruise egoSpeed following mode)) := by
  obtain ⟨braking,pulling⟩ := AccelLimits.cruise_signs egoSpeed following mode
  obtain ⟨floor,fall,rise⟩ := forMode_around egoSpeed mode (.cruise egoSpeed following mode)
  exact ⟨braking,pulling,floor,fall,rise,pulling.trans_le rise⟩

namespace Planner
open SpeedSmoother

section Profile
variable {σ α : Type} [Scalar α]

-- What an engaged cycle asks of the smoother: to start from the seed, within whatever the limits have come to.
theorem enabledProfile_smoothed (planner : Planner σ α) (input : PlannerInput α) (targets : SpeedTargets α) :
    let profile := planner.enabledProfile input targets
    let jerk := .forMode input.ego.speed planner.params.mode
      (.cruise input.ego.speed (leadPullsAway input) planner.params.mode)
    ∃ limits, profile.accelLimits = some limits ∧ profile.jerkLimits = some jerk ∧
      let next := smoothSpeed ⟨profile.seed.speed,profile.seed.accel⟩ targets.setpoint limits jerk courseStep
      profile.speed = greater next.speed 0.0 ∧ profile.accel = next.accel :=
  ⟨_,rfl,rfl,rfl,rfl⟩

end Profile

def CruiseDefined (plan : Plan ℝ) (report : PlannerReport ℝ) : Prop :=
  ∃ limits jerk next, report.accelLimits = some limits ∧ report.jerkLimits = some jerk ∧
    smoothSpeedBy .strict ⟨plan.startSpeed,plan.startAccel⟩ report.targets.setpoint limits jerk courseStep = some next ∧
    plan.cruiseSpeed = max next.speed 0 ∧ plan.cruiseAccel = next.accel

theorem cruise_defined :
    (∀ (egoSpeed : ℝ) (following : Bool) (mode : DriveMode),
      let cruise := AccelLimits.cruise egoSpeed following mode
      let jerk := JerkLimits.forMode egoSpeed mode cruise
      Cruising cruise jerk ∧ ∀ motion target limits step,
        smoothSpeedBy .strict motion target limits jerk step = some (smoothSpeed motion target limits jerk step)) ∧
    ∀ {σ : Type} [Solver σ ℝ] (planner : Planner σ ℝ) (input : PlannerInput ℝ), input.control.engaged = true →
      CruiseDefined (planner.update input).2.1 (planner.update input).2.2 := by
  constructor
  · intro egoSpeed following mode cruise jerk
    have cruising := cruising_of_speed egoSpeed following mode
    refine ⟨cruising,fun motion target limits step => ?_⟩
    exact smoothSpeedBy_strict motion target limits cruising.falling cruising.rising step
  · intro σ _ planner input engaged
    have cruising := cruising_of_speed input.ego.speed (leadPullsAway input) planner.params.mode
    have profile := planner.profileOf_engaged engaged
    obtain ⟨limits,reported,jerk,speed,accel⟩ := planner.enabledProfile_smoothed input (targetsOf planner.params input)
    rw [← profile] at reported jerk speed accel
    rw [greater_max,zero_exact] at speed
    refine ⟨limits,_,_,reported,jerk,?_,speed,accel⟩
    exact smoothSpeedBy_strict _ _ limits cruising.falling cruising.rising _

theorem forced_decel_defined :
    ({ onRoad .pid 0 none with forceDecel := true } : PlannerInput ℝ).control.engaged = true ∧
      CruiseDefined (pursuing.update { onRoad .pid 0 none with forceDecel := true }).2.1
        (pursuing.update { onRoad .pid 0 none with forceDecel := true }).2.2 :=
  ⟨rfl,cruise_defined.2 pursuing { onRoad .pid 0 none with forceDecel := true } rfl⟩

end Planner
end Headway
