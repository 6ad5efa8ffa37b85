import Headway.Proofs.SpeedSmoother
import Headway.Proofs.Table

-- Three of the steps that narrow the limits set both ends. Raising the lower one for a turn ahead looks at no other.
namespace Headway
open Scalar Double

namespace AccelLimits
section Steps
variable {α : Type} [Scalar α] [Ordered α] {limits : AccelLimits α}

def Coherent (limits : AccelLimits α) : Prop := limits.min ≤ limits.max

theorem capped_coherent {max : α} (number : isNaN max = false) : (limits.capped max).Coherent :=
  Ordered.lesser_le_right number

theorem capped_min_le {max : α} (number : isNaN limits.min = false) : (limits.capped max).min ≤ limits.min :=
  Ordered.lesser_le_left number

theorem inTurn_number (number : isNaN limits.max = false) (egoSpeed angle laterAngle : α)
    (geometry : TurnGeometry α) : isNaN (limits.inTurn egoSpeed angle laterAngle geometry).max = false :=
  Ordered.lesser_number (.inl (Ordered.lesser_number (.inl number)))

theorem inTurn_coherent (number : isNaN limits.max = false) (egoSpeed angle laterAngle : α)
    (geometry : TurnGeometry α) : (limits.inTurn egoSpeed angle laterAngle geometry).Coherent :=
  capped_coherent (inTurn_number number egoSpeed angle laterAngle geometry)

theorem forceDecel_coherent (number : isNaN limits.max = false) : limits.forceDecel.Coherent :=
  capped_coherent (Ordered.lesser_number (.inl number))

theorem pinned_coherent {accel : α} (number : isNaN accel = false) : (pinned accel).Coherent :=
  Ordered.le_refl number

theorem requireDecel_coherent {required : α} (coherent : limits.Coherent)
    (number : isNaN required = false) :
    (limits.requireDecel required).Coherent ↔ required ≤ limits.max :=
  Ordered.greater_le_exact coherent number

theorem requireDecel_min_le {required high : α} (below : limits.min ≤ high) (below' : required ≤ high) :
    (limits.requireDecel required).min ≤ high :=
  (Ordered.greater_le_exact below (Ordered.numbers_of_le below').1).mpr below'

end Steps

theorem cruiseMin_bounded : (cruiseMin : Table Float).Bounded (-0.8) (-0.3) := by decide +kernel

theorem cruiseMax_bounded (mode : DriveMode) : (cruiseMax mode : Table Float).Bounded 0.1 3.5 := by
  cases mode <;> decide +kernel

theorem followingMax_bounded : (followingMax : Table Float).Bounded 0.1 3.5 := by decide +kernel

theorem cruise_between {egoSpeed : Float} (number : egoSpeed.isNaN = false) (following : Bool) (mode : DriveMode) :
    (-0.8 ≤ (cruise egoSpeed following mode).min ∧ (cruise egoSpeed following mode).min ≤ -0.3) ∧
      0.1 ≤ (cruise egoSpeed following mode).max ∧ (cruise egoSpeed following mode).max ≤ 3.5 := by
  refine ⟨cruiseMin_bounded.read_between number,?_⟩
  cases following
  · exact (cruiseMax_bounded mode).read_between number
  · exact followingMax_bounded.read_between number

theorem cruise_number {egoSpeed : Float} (number : egoSpeed.isNaN = false) (following : Bool)
    (mode : DriveMode) : (cruise egoSpeed following mode).max.isNaN = false :=
  (Ordered.numbers_of_le (cruise_between number following mode).2.1).2

end AccelLimits

-- Both are selected against a constant last, so that not even a missing reading makes one of them a missing limit.
theorem turnRequiredDecel_number (egoSpeed curveSpeed turnDistance : Float) :
    (turnRequiredDecel egoSpeed curveSpeed turnDistance).isNaN = false :=
  Ordered.lesser_number (y := (0.0 : Float)) (.inr (by decide))

theorem turnRequiredDecel_nonpos (egoSpeed curveSpeed turnDistance : Float) :
    turnRequiredDecel egoSpeed curveSpeed turnDistance ≤ 0.0 :=
  Ordered.lesser_le_right (by decide)

theorem limitAheadDecel_kept {α : Type} [Scalar α] [Ordered α] (least : (hardestLimitDecel : α) ≤ 0.0)
    (egoSpeed aheadSpeed distance : α) :
    hardestLimitDecel ≤ limitAheadDecel egoSpeed aheadSpeed distance ∧
      limitAheadDecel egoSpeed aheadSpeed distance ≤ 0.0 := by
  obtain ⟨hardest,zero⟩ := Ordered.numbers_of_le least
  unfold limitAheadDecel
  split
  · exact ⟨Ordered.le_refl hardest,least⟩
  · have most : lesser ((aheadSpeed * aheadSpeed - egoSpeed * egoSpeed) / (2.0 * distance)) 0.0 ≤ 0.0 :=
      Ordered.lesser_le_right zero
    exact ⟨Ordered.le_greater_right hardest,(Ordered.greater_le_exact most hardest).mpr least⟩

theorem limitAheadDecel_between (egoSpeed aheadSpeed distance : Float) :
    hardestLimitDecel ≤ limitAheadDecel egoSpeed aheadSpeed distance ∧
      limitAheadDecel egoSpeed aheadSpeed distance ≤ 0.0 :=
  limitAheadDecel_kept (by decide) egoSpeed aheadSpeed distance

theorem limitAheadDecel_number (egoSpeed aheadSpeed distance : Float) :
    (limitAheadDecel egoSpeed aheadSpeed distance).isNaN = false :=
  (Ordered.numbers_of_le (limitAheadDecel_between egoSpeed aheadSpeed distance).1).2

-- The line through the resting value is steep enough to cross the curve, and the curve takes over there.
theorem forMode_between {egoSpeed : Float} (finite : egoSpeed.isFinite = true) (mode : DriveMode)
    {accel : AccelLimits Float} (fall : -0.8 ≤ accel.min ∧ accel.min ≤ -0.3) (rise : 0.1 ≤ accel.max ∧ accel.max ≤ 3.5) :
    (-0.8 ≤ (JerkLimits.forMode egoSpeed mode accel).min ∧ (JerkLimits.forMode egoSpeed mode accel).min ≤ -0.1) ∧
      0.1 ≤ (JerkLimits.forMode egoSpeed mode accel).max ∧
      (JerkLimits.forMode egoSpeed mode accel).max ≤ SpeedSmoother.steepest * 0.2 := by
  have slowest := (within_extremes finite).1
  have within {floor slope atRest : Float} (low : -0.8 ≤ floor) (high : floor ≤ -0.1) (falls : slope < 0.0)
      (slopeFinite : slope.isFinite = true) (atRestFinite : atRest.isFinite = true)
      (steep : extreme .negative * slope + atRest ≤ SpeedSmoother.steepest * 0.2) :
      (-0.8 ≤ (JerkLimits.forMode.within egoSpeed accel floor slope atRest).min ∧
        (JerkLimits.forMode.within egoSpeed accel floor slope atRest).min ≤ -0.1) ∧
      0.1 ≤ (JerkLimits.forMode.within egoSpeed accel floor slope atRest).max ∧
      (JerkLimits.forMode.within egoSpeed accel floor slope atRest).max ≤ SpeedSmoother.steepest * 0.2 := by
    have line : slope * egoSpeed + atRest ≤ SpeedSmoother.steepest * 0.2 := by
      rw [mul_swap]
      exact Ordered.le_trans (add_mono_first atRestFinite (mul_anti slopeFinite falls slowest)) steep
    refine ⟨⟨Ordered.le_lesser fall.1 low,Ordered.le_trans (Ordered.lesser_le_right ?_) high⟩,
      Ordered.le_trans rise.1 (Ordered.le_greater_left (Ordered.numbers_of_le rise.1).2),?_⟩
    · exact (Ordered.numbers_of_le low).2
    · exact (Ordered.greater_le_exact (Ordered.le_trans rise.2 (by decide +kernel)) (Ordered.numbers_of_le line).1).mpr line
  cases mode with
  | standard => exact within (by decide) (by decide) (by decide) (by decide) (by decide) (by decide +kernel)
  | sport => exact within (by decide) (by decide) (by decide) (by decide) (by decide) (by decide +kernel)
  | eco => exact within (by decide) (by decide) (by decide) (by decide) (by decide) (by decide +kernel)

end Headway
