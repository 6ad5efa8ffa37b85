import Headway.Proofs.SpeedSmoother.Profile

-- How far a step can take the acceleration, in exact arithmetic: no further than the limits and the jerk allow, but for
-- the dip of an ease-off that begins before the rise is over.
namespace Headway.SpeedSmoother
open Scalar

section Rest
variable {bounds : Bounds ℝ} {accel change peak hold : ℝ}

theorem Trapezoid.rest (trapezoid : Trapezoid bounds accel change peak hold) :
    (max accel 0 - accel) / bounds.jerkMax - max accel 0 / bounds.jerkMin ≤ (bounds.trapezoid accel peak hold).fallEnd := by
  have spread := trapezoid.spread
  have time : (bounds.trapezoid accel peak hold).fallEnd =
      (max accel 0 - accel) / bounds.jerkMax - max accel 0 / bounds.jerkMin +
        (2 * bounds.width * (peak - max accel 0) + hold) := by
    unfold Bounds.trapezoid
    rw [Bounds.width_exact]
    ring
  rw [time]
  linarith

theorem Trapezoid.rest_down (trapezoid : Trapezoid bounds accel change peak hold) (steerable : bounds.Steerable) :
    max accel 0 ≤ -bounds.jerkMin * (bounds.trapezoid accel peak hold).fallEnd := by
  have time : max accel 0 / -bounds.jerkMin ≤ (bounds.trapezoid accel peak hold).fallEnd := by
    have up : 0 ≤ (max accel 0 - accel) / bounds.jerkMax :=
      div_nonneg (sub_nonneg.mpr (le_max_left _ _)) steerable.rise.le
    rw [div_neg]
    linarith [trapezoid.rest]
  rwa [div_le_iff₀' (neg_pos.mpr steerable.fall)] at time

theorem Trapezoid.rest_up (trapezoid : Trapezoid bounds accel change peak hold) (steerable : bounds.Steerable) :
    -accel ≤ bounds.jerkMax * (bounds.trapezoid accel peak hold).fallEnd := by
  have ahead : 0 ≤ max accel 0 := le_max_right _ _
  have time : (max accel 0 - accel) / bounds.jerkMax ≤ (bounds.trapezoid accel peak hold).fallEnd := by
    have down : max accel 0 / bounds.jerkMin ≤ 0 := div_nonpos_of_nonneg_of_nonpos ahead steerable.fall.le
    linarith [trapezoid.rest]
  rw [div_le_iff₀' steerable.rise] at time
  linarith

end Rest

-- How deep an ease-off can dip that begins before the rise is over. A step in which the rise makes more than that does
-- not dip.
noncomputable def Bounds.dip (bounds : Bounds ℝ) (step : ℝ) : ℝ :=
  max 0 (√(-bounds.jerkMin * tiny) - bounds.jerkMax * step)

theorem Bounds.dip_nonneg (bounds : Bounds ℝ) (step : ℝ) : 0 ≤ bounds.dip step := le_max_left _ _

theorem Bounds.dip_level {bounds : Bounds ℝ} {step : ℝ} (long : √(-bounds.jerkMin * tiny) ≤ bounds.jerkMax * step) :
    bounds.dip step = 0 := max_eq_left (sub_nonpos.mpr long)

theorem Bounds.bump_level {bounds : Bounds ℝ} {step : ℝ} (long : √(bounds.jerkMax * tiny) ≤ -bounds.jerkMin * step) :
    bounds.mirrored.dip step = 0 := by
  apply Bounds.dip_level
  change √(- -bounds.jerkMax * tiny) ≤ -bounds.jerkMin * step
  rwa [neg_neg]

structure Steered (bounds : Bounds ℝ) (accel step dip after : ℝ) : Prop where
  top : after ≤ max bounds.accelMax 0
  rise : after ≤ accel + bounds.jerkMax * step
  low : min (accel - dip) 0 ≤ after
  fall : accel + min (bounds.jerkMin * step) (-dip) ≤ after

section Steps
variable {bounds : Bounds ℝ} {accel change step dip : ℝ}

-- The ease-off begins before the rise is over because the hold at a capped peak is below zero. The steeper the fall, the
-- less of it fits in.
theorem Trapezoid.dip_le {peak hold : ℝ} (trapezoid : Trapezoid bounds accel change peak hold)
    (steerable : bounds.Steerable) (rising : step < (bounds.trapezoid accel peak hold).riseEnd)
    (eased : (bounds.trapezoid accel peak hold).flatEnd < step)
    (during : step ≤ (bounds.trapezoid accel peak hold).fallEnd) :
    -bounds.jerkMin * (step - (bounds.trapezoid accel peak hold).flatEnd) ≤ √(-bounds.jerkMin * tiny) := by
  have down : 0 < -bounds.jerkMin := neg_pos.mpr steerable.fall
  have missing := trapezoid.missing
  have overlap := bounds.trapezoid_held accel peak hold
  have whole := bounds.trapezoid_eased steerable accel peak hold
  generalize (bounds.trapezoid accel peak hold).flatEnd = flatEnd at *
  -- The depth is below the peak, and the time it takes is below the overlap.
  have shallow : -bounds.jerkMin * (step - flatEnd) ≤ peak := by
    have shed := mul_le_mul_of_nonneg_left during down.le
    linarith
  have brief : step - flatEnd ≤ -hold := by linarith
  apply Real.le_sqrt_of_sq_le
  calc (-bounds.jerkMin * (step - flatEnd)) ^ 2
      = -bounds.jerkMin * ((-bounds.jerkMin * (step - flatEnd)) * (step - flatEnd)) := by ring
    _ ≤ -bounds.jerkMin * (peak * -hold) := by
        apply mul_le_mul_of_nonneg_left _ down.le
        exact mul_le_mul shallow brief (by linarith) trapezoid.nonneg
    _ ≤ -bounds.jerkMin * tiny := mul_le_mul_of_nonneg_left (by linarith) down.le

theorem Trapezoid.steered_high {peak hold : ℝ} (trapezoid : Trapezoid bounds accel change peak hold)
    (steerable : bounds.Steerable) {speed : ℝ} {after : Motion ℝ}
    (phase : Phase bounds (bounds.trapezoid accel peak hold) ⟨speed,accel⟩ change step after) :
    after.accel ≤ max bounds.accelMax 0 ∧ after.accel ≤ accel + bounds.jerkMax * step := by
  have rest := trapezoid.rest_up steerable
  have allowed : peak ≤ max bounds.accelMax 0 := le_max_of_le_left trapezoid.allowed
  have risen := bounds.trapezoid_risen steerable accel peak hold
  obtain ⟨fall,rise⟩ := steerable
  generalize bounds.trapezoid accel peak hold = p at *
  cases phase with
  | ended ended =>
    have paced := mul_le_mul_of_nonneg_left ended.le rise.le
    exact ⟨le_max_right _ _,by linarith⟩
  | rising during _ =>
    have within := mul_le_mul_of_nonneg_left during rise.le
    exact ⟨by linarith,le_rfl⟩
  | holding late _ =>
    have within := mul_le_mul_of_nonneg_left late rise.le
    exact ⟨by linarith,by linarith⟩
  | easing late easing _ =>
    have within := mul_le_mul_of_nonneg_left late rise.le
    have shed : bounds.jerkMin * (step - p.flatEnd) ≤ 0 := mul_nonpos_of_nonpos_of_nonneg fall.le (by linarith)
    exact ⟨by linarith,by linarith⟩
  | dipping rising easing _ =>
    have within := mul_le_mul_of_nonneg_left rising.le rise.le
    have shed : bounds.jerkMin * (step - p.flatEnd) ≤ 0 := mul_nonpos_of_nonpos_of_nonneg fall.le (by linarith)
    exact ⟨by linarith,by linarith⟩

theorem Trapezoid.steered_low {peak hold : ℝ} (trapezoid : Trapezoid bounds accel change peak hold)
    (steerable : bounds.Steerable) (lasts : 0 ≤ step) (nonneg : 0 ≤ dip)
    (enough : accel < bounds.accelMax → bounds.dip step ≤ dip) {speed : ℝ} {after : Motion ℝ}
    (phase : Phase bounds (bounds.trapezoid accel peak hold) ⟨speed,accel⟩ change step after) :
    min (accel - dip) 0 ≤ after.accel ∧ accel + min (bounds.jerkMin * step) (-dip) ≤ after.accel := by
  have rest := trapezoid.rest_down steerable
  have deep (rising : step < (bounds.trapezoid accel peak hold).riseEnd) := trapezoid.dip_le steerable rising
  have risen := bounds.trapezoid_risen steerable accel peak hold
  have eased := bounds.trapezoid_eased steerable accel peak hold
  have reached := trapezoid.reached
  obtain ⟨fall,rise⟩ := steerable
  have paced : 0 ≤ bounds.jerkMax * step := mul_nonneg rise.le lasts
  have low : min (accel - dip) 0 ≤ accel - dip := min_le_left _ _
  have slow : min (bounds.jerkMin * step) (-dip) ≤ bounds.jerkMin * step := min_le_left _ _
  have dipped : min (bounds.jerkMin * step) (-dip) ≤ -dip := min_le_right _ _
  generalize bounds.trapezoid accel peak hold = p at *
  cases phase with
  | ended ended =>
    have down := mul_le_mul_of_nonpos_left ended.le fall.le
    exact ⟨min_le_right _ _,by linarith [le_max_left accel 0]⟩
  | rising _ _ => exact ⟨by linarith,by linarith⟩
  | holding _ _ => exact ⟨by linarith,by linarith⟩
  | easing _ _ during =>
    have left := mul_le_mul_of_nonpos_left during fall.le
    exact ⟨by linarith [min_le_right (accel - dip) 0],by linarith [le_max_left accel 0]⟩
  | dipping rising easing during =>
    -- The peak is above, so that the dip is no deeper than what is allowed for.
    have within := mul_lt_mul_of_pos_left rising rise
    have depth := deep rising easing during
    have allowed : √(-bounds.jerkMin * tiny) - bounds.jerkMax * step ≤ dip :=
      (le_max_right _ _).trans (enough (by linarith [trapezoid.allowed]))
    exact ⟨by linarith,by linarith⟩

-- With no acceleration available the limit is approached from below, at the most.
theorem barred_steered {flatEnd speed : ℝ} {after : Motion ℝ} (steerable : bounds.Steerable)
    (inside : accel ≤ bounds.accelMax) (lasts : 0 ≤ step) (nonneg : 0 ≤ dip) (lasting : step < flatEnd)
    (phase : Phase bounds ⟨bounds.accelMax,(bounds.accelMax - accel) / bounds.jerkMax,flatEnd,flatEnd⟩ ⟨speed,accel⟩
      change step after) : Steered bounds accel step dip after.accel := by
  have risen : bounds.jerkMax * ((bounds.accelMax - accel) / bounds.jerkMax) = bounds.accelMax - accel :=
    mul_div_cancel₀ _ steerable.rise.ne'
  have paced : bounds.jerkMin * step ≤ 0 := mul_nonpos_of_nonpos_of_nonneg steerable.fall.le lasts
  have paced' : 0 ≤ bounds.jerkMax * step := mul_nonneg steerable.rise.le lasts
  have top : bounds.accelMax ≤ max bounds.accelMax 0 := le_max_left _ _
  have low : min (accel - dip) 0 ≤ accel - dip := min_le_left _ _
  have fall : min (bounds.jerkMin * step) (-dip) ≤ -dip := min_le_right _ _
  cases phase with
  | ended ended => exact absurd ended lasting.not_gt
  | rising during _ =>
    have within := mul_le_mul_of_nonneg_left during steerable.rise.le
    constructor <;> linarith
  | holding late _ =>
    have within := mul_le_mul_of_nonneg_left late steerable.rise.le
    constructor <;> linarith
  | easing _ easing _ => exact absurd easing lasting.not_gt
  | dipping _ easing _ => exact absurd easing lasting.not_gt

theorem follow_steered (steerable : bounds.Steerable) (speed : ℝ) (inside : accel ≤ bounds.accelMax)
    (shift : shiftToRest bounds accel ≤ change) (lasts : 0 ≤ step) (nonneg : 0 ≤ dip)
    (enough : accel < bounds.accelMax → bounds.dip step ≤ dip) :
    Steered bounds accel step dip (follow bounds ⟨speed,accel⟩ change step).accel := by
  obtain ⟨p,shaped,phase⟩ := follow_shaped steerable speed inside shift lasts
  cases shaped with
  | barred none lasting => exact barred_steered steerable inside lasts nonneg lasting phase
  | raised trapezoid =>
    obtain ⟨top,rise⟩ := trapezoid.steered_high steerable phase
    obtain ⟨low,fall⟩ := trapezoid.steered_low steerable lasts nonneg enough phase
    exact ⟨top,rise,low,fall⟩

end Steps

-- What a whole step makes of an acceleration: `dip` below on the way up, and `bump` above on the way down, for an
-- ease-off that begins too early.
structure Bounded (bounds : Bounds ℝ) (accel step dip bump after : ℝ) : Prop where
  low : min (accel - dip) (min bounds.accelMin 0) ≤ after
  high : after ≤ max (accel + bump) (max bounds.accelMax 0)
  fall : accel + min (bounds.jerkMin * step) (-dip) ≤ after
  rise : after ≤ accel + max (bounds.jerkMax * step) bump

section Whole
variable {bounds : Bounds ℝ} {accel step dip bump after : ℝ}

theorem Bounded.mirrored (bounded : Bounded bounds accel step dip bump after) :
    Bounded bounds.mirrored (-accel) step bump dip (-after) := by
  obtain ⟨low,high,fall,rise⟩ := bounded
  constructor
  · change min (-accel - bump) (min (-bounds.accelMax) 0) ≤ -after
    rw [← neg_add',← neg_zero,min_neg_neg,min_neg_neg]
    exact neg_le_neg high
  · change -after ≤ max (-accel + dip) (max (-bounds.accelMin) 0)
    rw [neg_add_eq_sub,← neg_sub,← neg_zero,max_neg_neg,max_neg_neg]
    exact neg_le_neg low
  · change -accel + min (-bounds.jerkMax * step) (-bump) ≤ -after
    rw [neg_mul,min_neg_neg,← neg_add]
    exact neg_le_neg rise
  · change -after ≤ -accel + max (-bounds.jerkMin * step) dip
    rw [neg_mul,← neg_neg dip,max_neg_neg,← neg_add]
    exact neg_le_neg fall

theorem Bounded.back (bounded : Bounded bounds.mirrored (-accel) step bump dip after) :
    Bounded bounds accel step dip bump (-after) := by
  have back := bounded.mirrored
  unfold Bounds.mirrored at back
  simp only [neg_neg] at back
  exact back

theorem Steered.bounded (steered : Steered bounds accel step dip after) :
    Bounded bounds accel step dip bump after := by
  obtain ⟨top,rise,low,fall⟩ := steered
  refine ⟨?_,le_max_of_le_right top,fall,?_⟩
  · exact (min_le_min_left _ (min_le_right _ _)).trans low
  · linarith [le_max_left (bounds.jerkMax * step) bump]

theorem within_bounded (steerable : bounds.Steerable) (low : bounds.accelMin ≤ accel) (high : accel ≤ bounds.accelMax)
    (speed change : ℝ) (lasts : 0 ≤ step) (nonneg : 0 ≤ dip) (enough : accel < bounds.accelMax → bounds.dip step ≤ dip)
    (nonneg' : 0 ≤ bump) (enough' : bounds.accelMin < accel → bounds.mirrored.dip step ≤ bump) :
    Bounded bounds accel step dip bump (within bounds ⟨speed,accel⟩ change step).accel := by
  unfold within
  split
  · rename_i beyond
    have shift : shiftToRest bounds.mirrored (-accel) ≤ -change := by
      rw [shiftToRest_mirrored]
      exact neg_le_neg beyond.le
    have steered : Steered bounds.mirrored (-accel) step bump
        (follow bounds.mirrored ⟨-speed,-accel⟩ (-change) step).accel :=
      follow_steered steerable.mirrored (-speed) (neg_le_neg low) shift lasts nonneg'
        fun apart => enough' (neg_lt_neg_iff.mp apart)
    exact steered.bounded.back
  · rename_i toward
    exact (follow_steered steerable speed high (not_lt.mp toward) lasts nonneg enough).bounded

-- What is gained before a profile is begun leaves the dip no deeper.
theorem Bounds.dip_later (steerable : bounds.Steerable) (step : ℝ) {gained : ℝ} (nonneg : 0 ≤ gained) :
    bounds.dip (step - gained / bounds.jerkMax) ≤ bounds.dip step + gained := by
  have rest : bounds.jerkMax * (step - gained / bounds.jerkMax) = bounds.jerkMax * step - gained := by
    rw [mul_sub,mul_div_cancel₀ _ steerable.rise.ne']
  unfold Bounds.dip
  rw [rest]
  apply max_le
  · exact add_nonneg (le_max_left _ _) nonneg
  · linarith [le_max_right 0 (√(-bounds.jerkMin * tiny) - bounds.jerkMax * step)]

theorem Bounded.gathered (steerable : bounds.Steerable) (ordered : bounds.accelMin ≤ bounds.accelMax)
    (below : accel < bounds.accelMin) (lasts : (bounds.accelMin - accel) / bounds.jerkMax < step)
    (bounded : Bounded bounds bounds.accelMin (step - (bounds.accelMin - accel) / bounds.jerkMax)
      (bounds.dip (step - (bounds.accelMin - accel) / bounds.jerkMax)) 0 after) :
    Bounded bounds accel step (bounds.dip step) bump after := by
  have gained : 0 < bounds.accelMin - accel := sub_pos.mpr below
  have dip := bounds.dip_later steerable step gained.le
  have spent : 0 ≤ (bounds.accelMin - accel) / bounds.jerkMax := div_nonneg gained.le steerable.rise.le
  have slower := mul_le_mul_of_nonpos_left (sub_le_self step spent) steerable.fall.le
  have rest : 0 ≤ bounds.jerkMax * (step - (bounds.accelMin - accel) / bounds.jerkMax) :=
    mul_nonneg steerable.rise.le (sub_pos.mpr lasts).le
  obtain ⟨low,high,fall,rise⟩ := bounded
  rw [max_eq_left rest,mul_sub,mul_div_cancel₀ _ steerable.rise.ne'] at rise
  generalize step - (bounds.accelMin - accel) / bounds.jerkMax = left at *
  constructor
  · rcases min_le_iff.mp low with dipped | inside
    · exact min_le_of_left_le (by linarith)
    · exact min_le_of_right_le inside
  · rw [add_zero,max_eq_right (le_max_of_le_left ordered)] at high
    exact le_max_of_le_right high
  · rcases min_choice (bounds.jerkMin * left) (-bounds.dip left) with slow | dipped
    · linarith [min_le_left (bounds.jerkMin * step) (-bounds.dip step)]
    · linarith [min_le_right (bounds.jerkMin * step) (-bounds.dip step)]
  · linarith [le_max_left (bounds.jerkMax * step) bump]

theorem Bounded.shed (steerable : bounds.Steerable) (ordered : bounds.accelMin ≤ bounds.accelMax)
    (above : bounds.accelMax < accel) (lasts : (bounds.accelMax - accel) / bounds.jerkMin < step)
    (bounded : Bounded bounds bounds.accelMax (step - (bounds.accelMax - accel) / bounds.jerkMin) 0
      (bounds.mirrored.dip (step - (bounds.accelMax - accel) / bounds.jerkMin)) after) :
    Bounded bounds accel step dip (bounds.mirrored.dip step) after := by
  have time : (bounds.mirrored.accelMin - -accel) / bounds.mirrored.jerkMax =
      (bounds.accelMax - accel) / bounds.jerkMin := by
    change (-bounds.accelMax - -accel) / -bounds.jerkMin = _
    rw [← neg_sub',neg_div_neg_eq]
  have other := bounded.mirrored
  rw [← time] at other lasts
  rw [← neg_neg after]
  exact (Bounded.gathered steerable.mirrored (neg_le_neg ordered) (neg_lt_neg above) lasts other).back

theorem Recovery.bounded {motion after : Motion ℝ} {change : ℝ} (recovery : Recovery bounds motion change step after)
    (steerable : bounds.Steerable) (ordered : bounds.accelMin ≤ bounds.accelMax) (lasts : 0 ≤ step) :
    Bounded bounds motion.accel step (bounds.dip step) (bounds.mirrored.dip step) after.accel := by
  have dip := bounds.dip_nonneg step
  have bump := bounds.mirrored.dip_nonneg step
  cases recovery with
  | shedding above during =>
    have slower : step * bounds.jerkMin ≤ 0 := mul_nonpos_of_nonneg_of_nonpos lasts steerable.fall.le
    rw [le_div_iff_of_neg steerable.fall] at during
    change Bounded _ _ _ _ _ (motion.accel + step * bounds.jerkMin)
    constructor
    · exact min_le_of_right_le (min_le_of_left_le (by linarith))
    · exact le_max_of_le_left (by linarith)
    · linarith [min_le_left (bounds.jerkMin * step) (-bounds.dip step)]
    · linarith [le_max_right (bounds.jerkMax * step) (bounds.mirrored.dip step)]
  | gathering below during =>
    have faster : 0 ≤ step * bounds.jerkMax := mul_nonneg lasts steerable.rise.le
    rw [le_div_iff₀ steerable.rise] at during
    change Bounded _ _ _ _ _ (motion.accel + step * bounds.jerkMax)
    constructor
    · exact min_le_of_left_le (by linarith)
    · exact le_max_of_le_right (le_max_of_le_left (by linarith))
    · linarith [min_le_right (bounds.jerkMin * step) (-bounds.dip step)]
    · linarith [le_max_left (bounds.jerkMax * step) (bounds.mirrored.dip step)]
  | shed speed left above ended =>
    apply Bounded.shed steerable ordered above ended
    exact within_bounded steerable ordered le_rfl speed left (sub_pos.mpr ended).le le_rfl
      (fun apart => absurd apart (lt_irrefl _)) (bounds.mirrored.dip_nonneg _) fun _ => le_rfl
  | gathered speed left below ended =>
    apply Bounded.gathered steerable ordered below ended
    exact within_bounded steerable le_rfl ordered speed left (sub_pos.mpr ended).le (bounds.dip_nonneg _)
      (fun _ => le_rfl) le_rfl fun apart => absurd apart (lt_irrefl _)
  | inside low high =>
    exact within_bounded steerable low high motion.speed change lasts dip (fun _ => le_rfl) bump fun _ => le_rfl

end Whole
end Headway.SpeedSmoother

namespace Headway
open SpeedSmoother

-- Limits that are both a deceleration already reached leave the acceleration nowhere to go but to rest.
theorem smoothSpeed_pinned (speed target : ℝ) {decel : ℝ} (braking : decel ≤ 0) {jerk : JerkLimits ℝ} (fall : jerk.min < 0)
    (rise : 0 < jerk.max) {step : ℝ} (lasts : 0 ≤ step) :
    decel ≤ (smoothSpeed ⟨speed,decel⟩ target (.pinned decel) jerk step).accel ∧
      (smoothSpeed ⟨speed,decel⟩ target (.pinned decel) jerk step).accel ≤ 0 := by
  have steerable : (Bounds.of (.pinned decel) jerk).Steerable := ⟨fall,rise⟩
  have recovery := smoothSpeed_recovery ⟨speed,decel⟩ target (.pinned decel) jerk step le_rfl steerable
  have steers := forReversal_steerable steerable (target - speed) decel
  obtain ⟨least,most⟩ := forReversal_limits (Bounds.of (.pinned decel) jerk) (target - speed) decel
  change _ = decel at least
  change _ = decel at most
  dsimp only at recovery
  generalize (Bounds.of (.pinned decel) jerk).forReversal (target - speed) decel = bounds at *
  have bounded : Bounded bounds decel step 0 0 (within bounds ⟨speed,decel⟩ (target - speed) step).accel :=
    within_bounded steers least.le most.ge speed (target - speed) lasts le_rfl (fun apart => absurd most.symm apart.ne)
      le_rfl fun apart => absurd least apart.ne
  obtain ⟨low,high,_,_⟩ := bounded
  rw [least,min_eq_left braking,sub_zero,min_self] at low
  rw [most,add_zero,max_eq_right braking,max_eq_right braking] at high
  rw [recovery.unneeded least.le most.ge]
  exact ⟨low,high⟩

-- No step takes the acceleration further out than its limits or changes it faster than its jerk limits allow, but for an
-- ease-off that begins while the acceleration still rises. A step too long for that keeps to all of them.
theorem smoothSpeed_bounded (motion : Motion ℝ) (target : ℝ) (accel : AccelLimits ℝ) (jerk : JerkLimits ℝ) (step : ℝ)
    (ordered : accel.min ≤ accel.max) (braking : accel.min ≤ 0) (fall : jerk.min < 0) (rise : 0 < jerk.max)
    (lasts : 0 ≤ step) :
    let bounds := (Bounds.of accel jerk).forReversal (target - motion.speed) motion.accel
    let after := (smoothSpeed motion target accel jerk step).accel
    (min (motion.accel - bounds.dip step) accel.min ≤ after ∧
        motion.accel + min (bounds.jerkMin * step) (-bounds.dip step) ≤ after) ∧
      (after ≤ max (motion.accel + bounds.mirrored.dip step) (max accel.max 0) ∧
        after ≤ motion.accel + max (bounds.jerkMax * step) (bounds.mirrored.dip step)) ∧
      (√(-bounds.jerkMin * tiny) ≤ bounds.jerkMax * step →
        min motion.accel accel.min ≤ after ∧ bounds.jerkMin * step ≤ after - motion.accel) ∧
      (√(bounds.jerkMax * tiny) ≤ -bounds.jerkMin * step →
        after ≤ max motion.accel (max accel.max 0) ∧ after - motion.accel ≤ bounds.jerkMax * step) := by
  intro bounds after
  have steerable : (Bounds.of accel jerk).Steerable := ⟨fall,rise⟩
  have steers : bounds.Steerable := forReversal_steerable steerable _ _
  obtain ⟨least,most⟩ := forReversal_limits (Bounds.of accel jerk) (target - motion.speed) motion.accel
  have least : bounds.accelMin = accel.min := least
  have most : bounds.accelMax = accel.max := most
  have recovery := smoothSpeed_recovery motion target accel jerk step ordered steerable
  obtain ⟨low,high,down,up⟩ := recovery.bounded steers (by rwa [← least,← most] at ordered) lasts
  rw [least,min_eq_left braking] at low
  rw [most] at high
  refine ⟨⟨low,down⟩,⟨high,up⟩,?_,?_⟩
  · intro long
    have paced : bounds.jerkMin * step ≤ 0 := mul_nonpos_of_nonpos_of_nonneg steers.fall.le lasts
    rw [Bounds.dip_level long,sub_zero] at low
    rw [Bounds.dip_level long,neg_zero,min_eq_left paced] at down
    exact ⟨low,le_sub_iff_add_le'.mpr down⟩
  · intro long
    have paced : 0 ≤ bounds.jerkMax * step := mul_nonneg steers.rise.le lasts
    rw [Bounds.bump_level long,add_zero] at high
    rw [Bounds.bump_level long,max_eq_left paced] at up
    exact ⟨high,sub_le_iff_le_add'.mpr up⟩

theorem smoothSpeed_bounded_long :
    let after := (smoothSpeed (⟨20,0⟩ : Motion ℝ) 25 ⟨-2,2⟩ ⟨-1,1⟩ (1 / 5)).accel
    (-2 ≤ after ∧ after ≤ 2) ∧ -(1 / 5) ≤ after ∧ after ≤ 1 / 5 := by
  have plain : (Bounds.of (⟨-2,2⟩ : AccelLimits ℝ) ⟨-1,1⟩).forReversal (25 - 20) 0 = ⟨-2,2,-1,1⟩ := by
    unfold Bounds.forReversal
    rw [zero_exact,if_neg (by norm_num),if_neg (by norm_num)]
    rfl
  have long : √(1 * tiny) ≤ 1 * (1 / 5) := by
    rw [Real.sqrt_le_left (by norm_num),tiny_exact]
    norm_num
  have bounded := smoothSpeed_bounded ⟨20,0⟩ 25 ⟨-2,2⟩ ⟨-1,1⟩ (1 / 5) (by norm_num) (by norm_num) (by norm_num)
    (by norm_num) (by norm_num)
  dsimp only at bounded
  rw [plain] at bounded
  simp only [neg_neg] at bounded
  obtain ⟨-,-,below,above⟩ := bounded
  obtain ⟨low,fall⟩ := below long
  obtain ⟨high,rise⟩ := above long
  intro after
  norm_num at low high fall rise
  exact ⟨⟨low,high⟩,fall,rise⟩

-- A hundred thousandth is all that is available toward a target already reached, and a step of no time takes a third of it
-- away, for the ease-off counts from before the step.
theorem smoothSpeed_dips :
    let after := (smoothSpeed (⟨20,0⟩ : Motion ℝ) 20 ⟨0,1 / 10 ^ 5⟩ ⟨-1,3⟩ 0).accel
    after = -(1 / (3 * 10 ^ 5)) ∧ ¬ min (0 : ℝ) 0 ≤ after ∧ ¬ (-1 : ℝ) * 0 ≤ after - 0 := by
  have free : (1 / 10 ^ 5 : ℝ) < freePeak ⟨0,1 / 10 ^ 5,-1,3⟩ 0 0 := by
    rw [freePeak_exact,Real.lt_sqrt (by norm_num),tiny_exact]
    norm_num [Bounds.width_exact]
  have early : profile (⟨0,1 / 10 ^ 5,-1,3⟩ : Bounds ℝ) 0 0 0 =
      ⟨1 / 10 ^ 5,1 / (3 * 10 ^ 5),-(1 / (3 * 10 ^ 5)),2 / (3 * 10 ^ 5)⟩ := by
    unfold profile
    simp only [if_pos free,zero_exact,half_exact]
    norm_num
  have moved : (smoothSpeed (⟨20,0⟩ : Motion ℝ) 20 ⟨0,1 / 10 ^ 5⟩ ⟨-1,3⟩ 0).accel = -(1 / (3 * 10 ^ 5)) := by
    rw [smoothSpeed_settled 20 le_rfl (by norm_num) ⟨by norm_num [Bounds.of],by norm_num [Bounds.of]⟩]
    change (along _ (profile (⟨0,1 / 10 ^ 5,-1,3⟩ : Bounds ℝ) 0 0 0) _ _ _).accel = _
    rw [early,along_exact]
    norm_num [Bounds.of]
  intro after
  change after = _ at moved
  rw [moved]
  norm_num

end Headway
