import Headway.Proofs.SpeedSmoother.Profile

-- How far a step can take the speed, in exact arithmetic: not past the target by more than the little that the peak is
-- taken high by.
namespace Headway.SpeedSmoother
open Scalar

section Surge
variable {jerk : ℝ}

theorem surge_mean (accel jerk time : ℝ) : surge accel jerk time = time * (accel + (accel + jerk * time)) / 2 := by
  unfold surge
  rw [half_exact]
  ring

theorem surge_exact (bent : jerk ≠ 0) (accel time : ℝ) :
    surge accel jerk time = ((accel + jerk * time) ^ 2 - accel ^ 2) / (2 * jerk) := by
  rw [surge_mean]
  field_simp
  ring

-- On the way up to a peak the most is made at the peak, unless the acceleration stays below zero.
theorem surge_le_peak (rise : 0 < jerk) {accel time peak : ℝ} (turned : 0 ≤ accel + jerk * time)
    (below : accel + jerk * time ≤ peak) : surge accel jerk time ≤ (peak ^ 2 - accel ^ 2) / (2 * jerk) := by
  rw [surge_exact rise.ne']
  gcongr

theorem surge_nonpos (rise : 0 < jerk) {accel time : ℝ} (lasts : 0 ≤ time) (below : accel + jerk * time ≤ 0) :
    surge accel jerk time ≤ 0 := by
  have paced : 0 ≤ jerk * time := mul_nonneg rise.le lasts
  have both : accel + (accel + jerk * time) ≤ 0 := by linarith
  rw [surge_mean]
  linarith [mul_nonpos_of_nonneg_of_nonpos lasts both]

-- While the acceleration rises, it is on its way to the peak or has yet to reach zero.
theorem surge_rising (rise : 0 < jerk) {accel time peak : ℝ} (lasts : 0 ≤ time) (below : accel + jerk * time ≤ peak) :
    surge accel jerk time ≤ (peak ^ 2 - accel ^ 2) / (2 * jerk) ∨ surge accel jerk time ≤ 0 := by
  rcases le_total 0 (accel + jerk * time) with turned | behind
  · exact .inl (surge_le_peak rise turned below)
  · exact .inr (surge_nonpos rise lasts behind)

-- Going up loses no more speed than is lost on the way to zero.
theorem surge_ge_rest (rise : 0 < jerk) (accel time : ℝ) : -(accel ^ 2 / (2 * jerk)) ≤ surge accel jerk time := by
  have made : 0 ≤ (accel + jerk * time) ^ 2 / (2 * jerk) := by positivity
  rw [surge_exact rise.ne',sub_div]
  linarith

-- Easing off from a peak makes the most where it ends at zero.
theorem surge_le_ease (fall : jerk < 0) (peak time : ℝ) : surge peak jerk time ≤ -(peak ^ 2 / (2 * jerk)) := by
  have lost : (peak + jerk * time) ^ 2 / (2 * jerk) ≤ 0 := div_nonpos_of_nonneg_of_nonpos (sq_nonneg _) (by linarith)
  rw [surge_exact fall.ne,sub_div]
  linarith

theorem surge_le_flat (fall : jerk < 0) (peak time : ℝ) : surge peak jerk time ≤ peak * time := by
  have lost : jerk * time ^ 2 ≤ 0 := mul_nonpos_of_nonpos_of_nonneg fall.le (sq_nonneg _)
  rw [surge_mean]
  linarith

theorem surge_nonneg {peak time : ℝ} (lasts : 0 ≤ time) (nonneg : 0 ≤ peak) (above : 0 ≤ peak + jerk * time) :
    0 ≤ surge peak jerk time := by
  rw [surge_mean]
  exact div_nonneg (mul_nonneg lasts (add_nonneg nonneg above)) two_pos.le

end Surge

section Made
variable {bounds : Bounds ℝ} {accel change step peak hold : ℝ}

theorem Bounds.swell_parts (bounds : Bounds ℝ) (accel peak : ℝ) : bounds.swell accel peak =
    (peak ^ 2 - accel ^ 2) / (2 * bounds.jerkMax) - peak ^ 2 / (2 * bounds.jerkMin) := by
  rw [bounds.swell_exact,bounds.width_exact]
  ring

structure Shares (bounds : Bounds ℝ) (accel change peak hold : ℝ) : Prop where
  rise : surge accel bounds.jerkMax ((peak - accel) / bounds.jerkMax) = (peak ^ 2 - accel ^ 2) / (2 * bounds.jerkMax)
  ease : 0 ≤ -(peak ^ 2 / (2 * bounds.jerkMin))
  flat : 0 ≤ peak * max hold 0
  all : (peak ^ 2 - accel ^ 2) / (2 * bounds.jerkMax) + -(peak ^ 2 / (2 * bounds.jerkMin)) + peak * max hold 0 ≤ change + tiny

theorem Trapezoid.shares (trapezoid : Trapezoid bounds accel change peak hold) (steerable : bounds.Steerable) :
    Shares bounds accel change peak hold where
  rise := by rw [surge_exact steerable.rise.ne',mul_div_cancel₀ _ steerable.rise.ne',add_sub_cancel]
  ease := neg_nonneg.mpr (div_nonpos_of_nonneg_of_nonpos (sq_nonneg _) (by linarith [steerable.fall]))
  flat := mul_nonneg trapezoid.nonneg (le_max_right _ _)
  all := by
    rw [← sub_eq_add_neg,← bounds.swell_parts]
    exact trapezoid.fits

-- A step toward the target makes no more of the wanted change of speed than there is of it and next to nothing.
theorem Trapezoid.made_le (trapezoid : Trapezoid bounds accel change peak hold) (steerable : bounds.Steerable)
    (toward : 0 ≤ change) (lasts : 0 ≤ step) {speed : ℝ} {after : Motion ℝ}
    (phase : Phase bounds (bounds.trapezoid accel peak hold) ⟨speed,accel⟩ change step after) :
    after.speed ≤ speed + (change + tiny) := by
  have little := tiny_pos
  obtain ⟨rise,ease,flat,all⟩ := trapezoid.shares steerable
  have lag := bounds.trapezoid_held accel peak hold
  have risen := bounds.trapezoid_risen steerable accel peak hold
  change surge accel bounds.jerkMax (bounds.trapezoid accel peak hold).riseEnd = _ at rise
  have eased := surge_le_ease steerable.fall peak (step - (bounds.trapezoid accel peak hold).flatEnd)
  have rising (before : step ≤ (bounds.trapezoid accel peak hold).riseEnd) :
      surge accel bounds.jerkMax step ≤ (peak ^ 2 - accel ^ 2) / (2 * bounds.jerkMax) ∨
        surge accel bounds.jerkMax step ≤ 0 := by
    have onward := mul_le_mul_of_nonneg_left before steerable.rise.le
    exact surge_rising steerable.rise lasts (by linarith)
  have nonneg := trapezoid.nonneg
  have missing := trapezoid.missing
  have peaked : (bounds.trapezoid accel peak hold).peak = peak := rfl
  generalize bounds.trapezoid accel peak hold = p at *
  cases phase with
  | ended _ => exact add_le_add_right (le_add_of_nonneg_right little.le) _
  | rising during _ =>
    dsimp only
    rcases rising during with made | none
    · linarith
    · linarith
  | holding late during =>
    have held : p.peak * (step - p.riseEnd) ≤ peak * max hold 0 := by
      rw [peaked]
      exact mul_le_mul_of_nonneg_left (le_max_of_le_left (by linarith)) nonneg
    dsimp only
    linarith
  | easing late _ _ =>
    dsimp only
    rw [peaked,lag]
    linarith
  | dipping early after _ =>
    dsimp only
    rw [peaked]
    rcases rising early.le with made | none
    · linarith
    · have brief : peak * (step - p.flatEnd) ≤ peak * -hold := mul_le_mul_of_nonneg_left (by linarith) nonneg
      linarith [surge_le_flat steerable.fall peak (step - p.flatEnd)]

theorem Trapezoid.made_ge (trapezoid : Trapezoid bounds accel change peak hold) (steerable : bounds.Steerable)
    (enough : -(accel ^ 2 / (2 * bounds.jerkMax)) ≤ change) {speed : ℝ} {after : Motion ℝ}
    (phase : Phase bounds (bounds.trapezoid accel peak hold) ⟨speed,accel⟩ change step after) :
    speed - accel ^ 2 / (2 * bounds.jerkMax) ≤ after.speed := by
  have rising (time : ℝ) := surge_ge_rest steerable.rise accel time
  have nonneg := trapezoid.nonneg
  -- The acceleration is above zero until the ease-off is over.
  have easing (after : (bounds.trapezoid accel peak hold).flatEnd < step)
      (during : step ≤ (bounds.trapezoid accel peak hold).fallEnd) :
      0 ≤ surge peak bounds.jerkMin (step - (bounds.trapezoid accel peak hold).flatEnd) := by
    have left := mul_le_mul_of_nonpos_left during steerable.fall.le
    have whole := bounds.trapezoid_eased steerable accel peak hold
    exact surge_nonneg (sub_pos.mpr after).le nonneg (by linarith)
  have peaked : (bounds.trapezoid accel peak hold).peak = peak := rfl
  generalize bounds.trapezoid accel peak hold = p at *
  cases phase with
  | ended _ =>
    dsimp only
    linarith
  | rising _ _ =>
    dsimp only
    linarith [rising step]
  | holding late _ =>
    dsimp only
    rw [peaked]
    linarith [rising p.riseEnd,mul_nonneg nonneg (sub_nonneg.mpr late)]
  | easing _ after during =>
    dsimp only
    rw [peaked]
    linarith [rising p.riseEnd,mul_nonneg nonneg (le_max_right (p.flatEnd - p.riseEnd) 0),easing after during]
  | dipping _ after during =>
    dsimp only
    rw [peaked]
    linarith [rising step,easing after during]

theorem follow_trapezoid (steerable : bounds.Steerable) (pulling : 0 < bounds.accelMax) (speed : ℝ)
    (inside : accel ≤ bounds.accelMax) (shift : shiftToRest bounds accel ≤ change) (lasts : 0 ≤ step) :
    ∃ peak hold,Trapezoid bounds accel change peak hold ∧
      Phase bounds (bounds.trapezoid accel peak hold) ⟨speed,accel⟩ change step (follow bounds ⟨speed,accel⟩ change step) := by
  obtain ⟨p,shaped,phase⟩ := follow_shaped steerable speed inside shift lasts
  cases shaped with
  | barred none _ => exact absurd none pulling.not_ge
  | raised trapezoid => exact ⟨_,_,trapezoid,phase⟩

theorem within_not_above (steerable : bounds.Steerable) (pulling : 0 < bounds.accelMax) (high : accel ≤ bounds.accelMax)
    (speed : ℝ) (lasts : 0 ≤ step) (toward : 0 ≤ change) (room : accel ≤ 0 ∨ accel ^ 2 / (2 * -bounds.jerkMin) ≤ change) :
    (within bounds ⟨speed,accel⟩ change step).speed ≤ speed + (change + tiny) := by
  have shift : shiftToRest bounds accel ≤ change := by
    rw [shiftToRest_exact]
    split
    · rename_i forward
      rcases room with backward | room
      · rw [le_antisymm backward forward]
        simpa using toward
      · rwa [mul_neg,div_neg] at room
    · have up : 0 ≤ accel ^ 2 / (2 * bounds.jerkMax) := by
        have rise := steerable.rise
        positivity
      linarith
  unfold within
  rw [if_neg (not_lt.mpr shift)]
  obtain ⟨peak,hold,trapezoid,phase⟩ := follow_trapezoid steerable pulling speed high shift lasts
  exact trapezoid.made_le steerable toward lasts phase

-- A change the other way is followed directly only where it is just what comes of easing off.
theorem shift_reached (steerable : bounds.Steerable) (toward : change ≤ 0) (enough : shiftToRest bounds accel ≤ change)
    (room : 0 ≤ accel ∨ accel ^ 2 / (2 * bounds.jerkMax) ≤ -change) : change = -(accel ^ 2 / (2 * bounds.jerkMax)) := by
  rw [shiftToRest_exact] at enough
  split at enough
  · have eased : accel ^ 2 / (2 * bounds.jerkMin) ≤ 0 :=
      div_nonpos_of_nonneg_of_nonpos (sq_nonneg _) (by linarith [steerable.fall])
    have none : accel ^ 2 / (2 * bounds.jerkMin) = 0 := le_antisymm eased (by linarith)
    have still : accel = 0 := by simpa [steerable.fall.ne] using none
    rw [none,neg_zero] at enough
    rw [still,le_antisymm toward enough]
    simp
  · rename_i backward
    have room := room.resolve_left backward
    exact le_antisymm (by linarith) enough

theorem within_not_below (steerable : bounds.Steerable) (braking : bounds.accelMin < 0) (pulling : 0 < bounds.accelMax)
    (low : bounds.accelMin ≤ accel) (high : accel ≤ bounds.accelMax) (speed : ℝ) (lasts : 0 ≤ step) (toward : change ≤ 0)
    (room : 0 ≤ accel ∨ accel ^ 2 / (2 * bounds.jerkMax) ≤ -change) :
    speed + (change - tiny) ≤ (within bounds ⟨speed,accel⟩ change step).speed := by
  unfold within
  split
  · rename_i beyond
    have shift : shiftToRest bounds.mirrored (-accel) ≤ -change := by
      rw [shiftToRest_mirrored]
      exact neg_le_neg beyond.le
    obtain ⟨peak,hold,trapezoid,phase⟩ :=
      follow_trapezoid steerable.mirrored (neg_pos.mpr braking) (-speed) (neg_le_neg low) shift lasts
    have made := trapezoid.made_le steerable.mirrored (neg_nonneg.mpr toward) lasts phase
    dsimp only
    linarith
  · rename_i enough
    have enough := not_lt.mp enough
    have reached := shift_reached steerable toward enough room
    obtain ⟨peak,hold,trapezoid,phase⟩ := follow_trapezoid steerable pulling speed high enough lasts
    have made := trapezoid.made_ge steerable reached.ge phase
    linarith [tiny_pos]

end Made

theorem forReversal_jerk (bounds : Bounds ℝ) (change accel : ℝ) :
    (0 ≤ change → (bounds.forReversal change accel).jerkMin = bounds.jerkMin) ∧
      (change ≤ 0 → (bounds.forReversal change accel).jerkMax = bounds.jerkMax) := by
  unfold Bounds.forReversal
  rw [zero_exact]
  split
  · rename_i back
    exact ⟨fun _ => rfl,fun toward => absurd back.1 toward.not_gt⟩
  · split
    · rename_i back
      exact ⟨fun toward => absurd back.1 toward.not_gt,fun _ => rfl⟩
    · exact ⟨fun _ => rfl,fun _ => rfl⟩

end Headway.SpeedSmoother

namespace Headway
open SpeedSmoother

-- A step that begins within the limits does not overshoot its target unless easing off would.
theorem smoothSpeed_no_overshoot (motion : Motion ℝ) (target : ℝ) (accel : AccelLimits ℝ) (jerk : JerkLimits ℝ) (step : ℝ)
    (braking : accel.min < 0) (pulling : 0 < accel.max) (low : accel.min ≤ motion.accel) (high : motion.accel ≤ accel.max)
    (fall : jerk.min < 0) (rise : 0 < jerk.max) (lasts : 0 ≤ step) :
    (motion.speed ≤ target → motion.accel ≤ 0 ∨ motion.accel ^ 2 / (2 * |jerk.min|) ≤ target - motion.speed →
        (smoothSpeed motion target accel jerk step).speed ≤ target + 1 / 10 ^ 9) ∧
      (target ≤ motion.speed → 0 ≤ motion.accel ∨ motion.accel ^ 2 / (2 * jerk.max) ≤ motion.speed - target →
        target - 1 / 10 ^ 9 ≤ (smoothSpeed motion target accel jerk step).speed) := by
  have steerable : (Bounds.of accel jerk).Steerable := ⟨fall,rise⟩
  have steers := forReversal_steerable steerable (target - motion.speed) motion.accel
  have recovery := smoothSpeed_recovery motion target accel jerk step (low.trans high) steerable
  obtain ⟨least,most⟩ := forReversal_limits (Bounds.of accel jerk) (target - motion.speed) motion.accel
  obtain ⟨kept,kept'⟩ := forReversal_jerk (Bounds.of accel jerk) (target - motion.speed) motion.accel
  change _ = accel.min at least
  change _ = accel.max at most
  change _ → _ = jerk.min at kept
  change _ → _ = jerk.max at kept'
  generalize (Bounds.of accel jerk).forReversal (target - motion.speed) motion.accel = bounds at *
  rw [← least] at braking low
  rw [← most] at pulling high
  rw [recovery.unneeded low high,← tiny_exact]
  constructor
  · intro toward room
    have toward := sub_nonneg.mpr toward
    rw [abs_of_neg fall,← kept toward] at room
    have made := within_not_above steers pulling high motion.speed lasts toward room
    linarith
  · intro toward room
    have toward := sub_nonpos.mpr toward
    rw [← neg_sub target,← kept' toward] at room
    have made := within_not_below steers braking pulling low high motion.speed lasts toward room
    linarith

theorem smoothSpeed_no_overshoot_either_way :
    (smoothSpeed (⟨20,1⟩ : Motion ℝ) 21 ⟨-2,2⟩ ⟨-1,1⟩ (1 / 5)).speed ≤ 21 + 1 / 10 ^ 9 ∧
      21 - 1 / 10 ^ 9 ≤ (smoothSpeed (⟨22,1⟩ : Motion ℝ) 21 ⟨-2,2⟩ ⟨-1,1⟩ (1 / 5)).speed := by
  constructor
  · have bounded := smoothSpeed_no_overshoot ⟨20,1⟩ 21 ⟨-2,2⟩ ⟨-1,1⟩ (1 / 5) (by norm_num) (by norm_num) (by norm_num)
      (by norm_num) (by norm_num) (by norm_num) (by norm_num)
    exact bounded.1 (by norm_num) (.inr (by norm_num))
  · have bounded := smoothSpeed_no_overshoot ⟨22,1⟩ 21 ⟨-2,2⟩ ⟨-1,1⟩ (1 / 5) (by norm_num) (by norm_num) (by norm_num)
      (by norm_num) (by norm_num) (by norm_num) (by norm_num)
    exact bounded.2 (by norm_num) (.inl (by norm_num))

end Headway
