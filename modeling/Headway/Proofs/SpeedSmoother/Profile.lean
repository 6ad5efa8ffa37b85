import Headway.Proofs.Exact
import Headway.SpeedSmoother

-- The profile of a step in exact arithmetic. It is a trapezoid of acceleration that makes the wanted change of speed, with
-- one exception: the peak is taken a little high, so that at a capped peak the time to hold it may come out below zero.
namespace Headway.SpeedSmoother
open Scalar

theorem tiny_exact : (tiny : ℝ) = 1 / 10 ^ 9 := by
  unfold tiny
  norm_num

theorem tiny_pos : (0 : ℝ) < tiny := by
  rw [tiny_exact]
  norm_num

namespace Bounds
variable {α : Type} [Scalar α] {bounds : Bounds ℝ}

structure Steerable (bounds : Bounds ℝ) : Prop where
  fall : bounds.jerkMin < 0
  rise : 0 < bounds.jerkMax

theorem Steerable.mirrored (steerable : bounds.Steerable) : bounds.mirrored.Steerable :=
  ⟨neg_lt_zero.mpr steerable.rise,neg_pos.mpr steerable.fall⟩

def width (bounds : Bounds α) : α := 0.5 / bounds.jerkMax - 0.5 / bounds.jerkMin

theorem width_exact (bounds : Bounds ℝ) : bounds.width = 1 / (2 * bounds.jerkMax) - 1 / (2 * bounds.jerkMin) := by
  unfold width
  rw [half_exact,div_div,div_div]

theorem Steerable.width_pos (steerable : bounds.Steerable) : 0 < bounds.width := by
  have up : 0 < 1 / (2 * bounds.jerkMax) := by
    have rise := steerable.rise
    positivity
  have down : 1 / (2 * bounds.jerkMin) < 0 := one_div_neg.mpr (by linarith [steerable.fall])
  rw [width_exact]
  linarith

def swell (bounds : Bounds α) (accel peak : α) : α :=
  peak * peak * bounds.width - 0.5 * accel * accel / bounds.jerkMax

theorem swell_exact (bounds : Bounds ℝ) (accel peak : ℝ) :
    bounds.swell accel peak = peak ^ 2 * bounds.width - accel ^ 2 / (2 * bounds.jerkMax) := by
  unfold swell
  rw [half_exact]
  ring

noncomputable def trapezoid (bounds : Bounds ℝ) (accel peak hold : ℝ) : Profile ℝ where
  peak
  riseEnd := (peak - accel) / bounds.jerkMax
  flatEnd := (peak - accel) / bounds.jerkMax + hold
  fallEnd := (peak - accel) / bounds.jerkMax + hold - peak / bounds.jerkMin

theorem trapezoid_risen (bounds : Bounds ℝ) (steerable : bounds.Steerable) (accel peak hold : ℝ) :
    bounds.jerkMax * (bounds.trapezoid accel peak hold).riseEnd = peak - accel :=
  mul_div_cancel₀ _ steerable.rise.ne'

theorem trapezoid_held (bounds : Bounds ℝ) (accel peak hold : ℝ) :
    (bounds.trapezoid accel peak hold).flatEnd - (bounds.trapezoid accel peak hold).riseEnd = hold :=
  add_sub_cancel_left _ _

theorem trapezoid_eased (bounds : Bounds ℝ) (steerable : bounds.Steerable) (accel peak hold : ℝ) :
    bounds.jerkMin * ((bounds.trapezoid accel peak hold).fallEnd - (bounds.trapezoid accel peak hold).flatEnd) = -peak := by
  change bounds.jerkMin * ((peak - accel) / bounds.jerkMax + hold - peak / bounds.jerkMin -
    ((peak - accel) / bounds.jerkMax + hold)) = -peak
  rw [sub_right_comm,sub_self,zero_sub,mul_neg,mul_div_cancel₀ _ steerable.fall.ne]

end Bounds

-- The last two are what is left of the wanted change of speed where the hold is below zero: it is missing by next to
-- nothing, and the way up and down is longer than what is missing.
structure Trapezoid (bounds : Bounds ℝ) (accel change peak hold : ℝ) : Prop where
  nonneg : 0 ≤ peak
  reached : accel ≤ peak
  allowed : peak ≤ bounds.accelMax
  fits : bounds.swell accel peak + peak * max hold 0 ≤ change + tiny
  missing : -tiny ≤ peak * hold
  spread : 0 ≤ 2 * bounds.width * (peak - max accel 0) + hold

inductive Shaped (bounds : Bounds ℝ) (accel change step : ℝ) : Profile ℝ → Prop where
  | barred {flatEnd : ℝ} (none : bounds.accelMax ≤ 0) (lasting : step < flatEnd) :
    Shaped bounds accel change step
      ⟨bounds.accelMax,(bounds.accelMax - accel) / bounds.jerkMax,flatEnd,flatEnd⟩
  | raised {peak hold : ℝ} (trapezoid : Trapezoid bounds accel change peak hold) :
    Shaped bounds accel change step (bounds.trapezoid accel peak hold)

section Shape
variable {bounds : Bounds ℝ} {accel change step : ℝ}

theorem freePeak_exact (bounds : Bounds ℝ) (accel change : ℝ) : freePeak bounds accel change =
    √((accel ^ 2 / (2 * bounds.jerkMax) + change + tiny) / bounds.width) := by
  have square : (0.5 * accel * accel / bounds.jerkMax + change + tiny) / (0.5 / bounds.jerkMax - 0.5 / bounds.jerkMin) =
      (accel ^ 2 / (2 * bounds.jerkMax) + change + tiny) / bounds.width := by
    rw [Bounds.width_exact,half_exact]
    congr 1 <;> ring
  unfold freePeak
  dsimp only
  rw [square,zero_exact]
  split
  · rename_i below
    rcases below with missing | negative
    · cases missing
    · exact (Real.sqrt_eq_zero_of_nonpos negative.le).symm
  · rfl

theorem shiftToRest_exact (bounds : Bounds ℝ) (accel : ℝ) : shiftToRest bounds accel =
    -(accel ^ 2 / (2 * if 0 ≤ accel then bounds.jerkMin else bounds.jerkMax)) := by
  unfold shiftToRest
  rw [half_exact,zero_exact]
  ring

-- The smallest change that is worth a profile of its own, seen from the other side.
theorem shiftToRest_mirrored (bounds : Bounds ℝ) (accel : ℝ) :
    shiftToRest bounds.mirrored (-accel) = -shiftToRest bounds accel := by
  rw [shiftToRest_exact,shiftToRest_exact]
  change -((-accel) ^ 2 / (2 * if 0 ≤ -accel then -bounds.jerkMax else -bounds.jerkMin)) = _
  rcases lt_trichotomy accel 0 with below | rfl | above
  · rw [if_pos (by linarith),if_neg (not_le.mpr below),neg_sq,mul_neg,div_neg]
  · simp
  · rw [if_neg (by linarith),if_pos above.le,neg_sq,mul_neg,div_neg]

theorem shift_enough (enough : shiftToRest bounds accel ≤ change) :
    max accel 0 ^ 2 * bounds.width ≤ accel ^ 2 / (2 * bounds.jerkMax) + change := by
  rw [shiftToRest_exact] at enough
  split at enough
  · rename_i forward
    rw [max_eq_left forward]
    rw [Bounds.width_exact,mul_sub,mul_one_div,mul_one_div]
    linarith
  · rename_i backward
    rw [max_eq_right (not_le.mp backward).le,zero_pow two_ne_zero,zero_mul]
    linarith

-- What is left at a peak of the wanted change of speed is at least the way from the acceleration to it and back, below zero.
theorem left_over (steerable : bounds.Steerable) (enough : shiftToRest bounds accel ≤ change) (peak : ℝ) :
    -(2 * bounds.width * (peak - max accel 0) * peak) ≤ change - bounds.swell accel peak := by
  have shift := shift_enough enough
  have way : 0 ≤ bounds.width * (peak - max accel 0) ^ 2 := mul_nonneg steerable.width_pos.le (sq_nonneg _)
  rw [Bounds.swell_exact]
  linarith [show bounds.width * (peak - max accel 0) ^ 2 =
    2 * bounds.width * (peak - max accel 0) * peak - peak ^ 2 * bounds.width + max accel 0 ^ 2 * bounds.width by ring]

theorem free_trapezoid (steerable : bounds.Steerable) (enough : shiftToRest bounds accel ≤ change)
    (allowed : freePeak bounds accel change ≤ bounds.accelMax) :
    Trapezoid bounds accel change (freePeak bounds accel change) 0 := by
  rw [freePeak_exact] at allowed ⊢
  have wide := steerable.width_pos
  have shift := shift_enough enough
  have above : max accel 0 ≤ √((accel ^ 2 / (2 * bounds.jerkMax) + change + tiny) / bounds.width) := by
    apply Real.le_sqrt_of_sq_le
    rw [le_div_iff₀ wide]
    linarith [tiny_pos]
  have filled : bounds.swell accel √((accel ^ 2 / (2 * bounds.jerkMax) + change + tiny) / bounds.width) =
      change + tiny := by
    have square : 0 ≤ (accel ^ 2 / (2 * bounds.jerkMax) + change + tiny) / bounds.width := by
      apply div_nonneg _ wide.le
      have nonneg : 0 ≤ max accel 0 ^ 2 * bounds.width := mul_nonneg (sq_nonneg _) wide.le
      linarith [tiny_pos]
    rw [Bounds.swell_exact]
    rw [Real.sq_sqrt square,div_mul_cancel₀ _ wide.ne']
    ring
  exact {
    nonneg := Real.sqrt_nonneg _
    reached := (le_max_left _ _).trans above
    allowed
    fits := by rw [filled,max_self,mul_zero,add_zero]
    missing := by rw [mul_zero]; linarith [tiny_pos]
    spread := by
      rw [add_zero]
      exact mul_nonneg (mul_nonneg two_pos.le wide.le) (sub_nonneg.mpr above) }

-- At a capped peak something is left to be made, or next to nothing is missing.
theorem capped_trapezoid (steerable : bounds.Steerable) (inside : accel ≤ bounds.accelMax)
    (enough : shiftToRest bounds accel ≤ change) (pulling : 0 < bounds.accelMax)
    (capped : bounds.accelMax < freePeak bounds accel change) {hold : ℝ}
    (short : bounds.accelMax * hold ≤ change - bounds.swell accel bounds.accelMax)
    (held : 0 ≤ hold ∨ bounds.accelMax * hold = change - bounds.swell accel bounds.accelMax) :
    Trapezoid bounds accel change bounds.accelMax hold := by
  have wide := steerable.width_pos
  have above : max accel 0 ≤ bounds.accelMax := max_le inside pulling.le
  have room : -tiny < change - bounds.swell accel bounds.accelMax := by
    rw [freePeak_exact,Real.lt_sqrt pulling.le,lt_div_iff₀ wide] at capped
    rw [Bounds.swell_exact]
    linarith
  refine ⟨pulling.le,inside,le_rfl,?_,?_,?_⟩
  · rw [mul_max_of_nonneg _ _ pulling.le,mul_zero]
    rcases max_cases (bounds.accelMax * hold) 0 with ⟨made,_⟩ | ⟨none,_⟩
    · rw [made]
      linarith [tiny_pos]
    · rw [none]
      linarith
  · rcases held with forward | all
    · linarith [mul_nonneg pulling.le forward,tiny_pos]
    · rw [all]
      exact room.le
  · have way : 0 ≤ 2 * bounds.width * (bounds.accelMax - max accel 0) :=
      mul_nonneg (mul_nonneg two_pos.le wide.le) (sub_nonneg.mpr above)
    rcases held with forward | all
    · exact add_nonneg way forward
    · have left := left_over steerable enough bounds.accelMax
      rw [← all] at left
      rw [← mul_nonneg_iff_of_pos_left pulling]
      linarith

theorem profile_shaped (steerable : bounds.Steerable) (inside : accel ≤ bounds.accelMax)
    (enough : shiftToRest bounds accel ≤ change) (lasts : 0 ≤ step) :
    Shaped bounds accel change step (profile bounds accel change step) := by
  have rising : 0 ≤ (bounds.accelMax - accel) / bounds.jerkMax := div_nonneg (sub_nonneg.mpr inside) steerable.rise.le
  unfold profile
  dsimp only
  rw [half_exact,zero_exact]
  split
  · rename_i capped
    split
    · rename_i none
      exact .barred none (by linarith [tiny_pos])
    · rename_i pulling
      have pulling := not_le.mp pulling
      have left : change - 1 / 2 * (bounds.accelMax * bounds.accelMax - accel * accel) / bounds.jerkMax +
          1 / 2 * bounds.accelMax * bounds.accelMax / bounds.jerkMin = change - bounds.swell accel bounds.accelMax := by
        rw [Bounds.swell_exact,Bounds.width_exact]
        ring
      rw [left]
      split
      · exact .raised (capped_trapezoid steerable inside enough pulling capped (mul_div_cancel₀ _ pulling.ne').le
          (.inr (mul_div_cancel₀ _ pulling.ne')))
      · rename_i long
        exact .raised (capped_trapezoid steerable inside enough pulling capped (not_lt.mp long) (.inl lasts))
  · rename_i free
    have shape : Shaped bounds accel change step _ := .raised (free_trapezoid steerable enough (not_lt.mp free))
    unfold Bounds.trapezoid at shape
    rwa [add_zero] at shape

end Shape

def surge {α : Type} [Scalar α] (accel jerk time : α) : α := accel * time + 0.5 * time * time * jerk

-- Where in its profile a step ends, and what it has made until then. The last case is the exception: easing off has begun
-- while the acceleration still rises.
inductive Phase (bounds : Bounds ℝ) (p : Profile ℝ) (motion : Motion ℝ) (change step : ℝ) : Motion ℝ → Prop where
  | ended (after : p.fallEnd < step) : Phase bounds p motion change step ⟨motion.speed + change,0⟩
  | rising (during : step ≤ p.riseEnd) (before : step ≤ p.flatEnd) :
    Phase bounds p motion change step
      ⟨motion.speed + surge motion.accel bounds.jerkMax step,motion.accel + bounds.jerkMax * step⟩
  | holding (after : p.riseEnd ≤ step) (during : step ≤ p.flatEnd) :
    Phase bounds p motion change step
      ⟨motion.speed + (surge motion.accel bounds.jerkMax p.riseEnd + p.peak * (step - p.riseEnd)),
        motion.accel + bounds.jerkMax * p.riseEnd⟩
  | easing (risen : p.riseEnd ≤ step) (after : p.flatEnd < step) (during : step ≤ p.fallEnd) :
    Phase bounds p motion change step
      ⟨motion.speed + (surge motion.accel bounds.jerkMax p.riseEnd + p.peak * max (p.flatEnd - p.riseEnd) 0 +
          surge p.peak bounds.jerkMin (step - p.flatEnd)),
        motion.accel + (bounds.jerkMax * p.riseEnd + bounds.jerkMin * (step - p.flatEnd))⟩
  | dipping (rising : step < p.riseEnd) (after : p.flatEnd < step) (during : step ≤ p.fallEnd) :
    Phase bounds p motion change step
      ⟨motion.speed + (surge motion.accel bounds.jerkMax step + surge p.peak bounds.jerkMin (step - p.flatEnd)),
        motion.accel + (bounds.jerkMax * step + bounds.jerkMin * (step - p.flatEnd))⟩

theorem along_exact (bounds : Bounds ℝ) (p : Profile ℝ) (motion : Motion ℝ) (change step : ℝ) :
    along bounds p motion change step =
      if p.fallEnd < step then ⟨motion.speed + change,0⟩
      else
        let fall := max (min step p.fallEnd - p.flatEnd) 0
        ⟨motion.speed + (surge motion.accel bounds.jerkMax (min step p.riseEnd) +
            p.peak * max (min step p.flatEnd - p.riseEnd) 0 + surge p.peak bounds.jerkMin fall),
          motion.accel + (bounds.jerkMax * min step p.riseEnd + bounds.jerkMin * fall)⟩ := by
  unfold along surge
  simp only [lesser_min,greater_max,zero_exact]
  split
  · rfl
  · congr 1 <;> ring

theorem along_phase (bounds : Bounds ℝ) (p : Profile ℝ) (motion : Motion ℝ) (change step : ℝ) :
    Phase bounds p motion change step (along bounds p motion change step) := by
  rw [along_exact]
  split
  · rename_i after
    exact .ended after
  · rename_i during
    have during := not_lt.mp during
    dsimp only
    rw [min_eq_left during]
    rcases le_or_gt step p.flatEnd with before | after
    · have none : surge p.peak bounds.jerkMin 0 = 0 := by simp [surge]
      rw [max_eq_right (sub_nonpos.mpr before),min_eq_left before,none,mul_zero,add_zero,add_zero]
      rcases le_total step p.riseEnd with rising | risen
      · rw [max_eq_right (sub_nonpos.mpr rising),min_eq_left rising,mul_zero,add_zero]
        exact .rising rising before
      · rw [max_eq_left (sub_nonneg.mpr risen),min_eq_right risen]
        exact .holding risen before
    · rw [max_eq_left (sub_pos.mpr after).le,min_eq_right after.le]
      rcases lt_or_ge step p.riseEnd with rising | risen
      · rw [max_eq_right (sub_nonpos.mpr (after.trans rising).le),min_eq_left rising.le,mul_zero,add_zero]
        exact .dipping rising after during
      · rw [min_eq_right risen]
        exact .easing risen after during

-- A step toward the target goes along a profile of one of these shapes.
theorem follow_shaped {bounds : Bounds ℝ} {accel change step : ℝ} (steerable : bounds.Steerable) (speed : ℝ)
    (inside : accel ≤ bounds.accelMax) (enough : shiftToRest bounds accel ≤ change) (lasts : 0 ≤ step) :
    ∃ p,Shaped bounds accel change step p ∧
      Phase bounds p ⟨speed,accel⟩ change step (follow bounds ⟨speed,accel⟩ change step) :=
  ⟨_,profile_shaped steerable inside enough lasts,along_phase ..⟩

-- What a step is spent on: an acceleration outside its limits is brought back to them first, and from there, or from where
-- it was if it lay within, a profile is followed for the rest of the step.
inductive Recovery (bounds : Bounds ℝ) (motion : Motion ℝ) (change step : ℝ) : Motion ℝ → Prop where
  | shedding (above : bounds.accelMax < motion.accel) (during : step ≤ (bounds.accelMax - motion.accel) / bounds.jerkMin) :
    Recovery bounds motion change step (underJerk motion bounds.jerkMin step)
  | gathering (below : motion.accel < bounds.accelMin) (during : step ≤ (bounds.accelMin - motion.accel) / bounds.jerkMax) :
    Recovery bounds motion change step (underJerk motion bounds.jerkMax step)
  | shed (speed left : ℝ) (above : bounds.accelMax < motion.accel)
    (after : (bounds.accelMax - motion.accel) / bounds.jerkMin < step) :
    Recovery bounds motion change step
      (within bounds ⟨speed,bounds.accelMax⟩ left (step - (bounds.accelMax - motion.accel) / bounds.jerkMin))
  | gathered (speed left : ℝ) (below : motion.accel < bounds.accelMin)
    (after : (bounds.accelMin - motion.accel) / bounds.jerkMax < step) :
    Recovery bounds motion change step
      (within bounds ⟨speed,bounds.accelMin⟩ left (step - (bounds.accelMin - motion.accel) / bounds.jerkMax))
  | inside (low : bounds.accelMin ≤ motion.accel) (high : motion.accel ≤ bounds.accelMax) :
    Recovery bounds motion change step (within bounds motion change step)

theorem Recovery.unneeded {bounds : Bounds ℝ} {motion after : Motion ℝ} {change step : ℝ}
    (recovery : Recovery bounds motion change step after) (low : bounds.accelMin ≤ motion.accel)
    (high : motion.accel ≤ bounds.accelMax) : after = within bounds motion change step := by
  cases recovery with
  | shedding above _ => exact absurd above high.not_gt
  | gathering below _ => exact absurd below low.not_gt
  | shed _ _ above _ => exact absurd above high.not_gt
  | gathered _ _ below _ => exact absurd below low.not_gt
  | inside _ _ => rfl

theorem forReversal_limits (bounds : Bounds ℝ) (change accel : ℝ) :
    (bounds.forReversal change accel).accelMin = bounds.accelMin ∧
      (bounds.forReversal change accel).accelMax = bounds.accelMax := by
  unfold Bounds.forReversal
  split
  · exact ⟨rfl,rfl⟩
  · split
    · exact ⟨rfl,rfl⟩
    · exact ⟨rfl,rfl⟩

theorem forReversal_steerable {bounds : Bounds ℝ} (steerable : bounds.Steerable) (change accel : ℝ) :
    (bounds.forReversal change accel).Steerable := by
  have three : (3.0 : ℝ) = 3 := by norm_num
  obtain ⟨fall,rise⟩ := steerable
  unfold Bounds.forReversal
  rw [three]
  split
  · exact ⟨fall,mul_pos rise three_pos⟩
  · split
    · exact ⟨mul_neg_of_neg_of_pos fall three_pos,rise⟩
    · exact ⟨fall,rise⟩

theorem smoothSpeed_recovery (motion : Motion ℝ) (target : ℝ) (accel : AccelLimits ℝ) (jerk : JerkLimits ℝ) (step : ℝ)
    (ordered : accel.min ≤ accel.max) (steerable : (Bounds.of accel jerk).Steerable) :
    Recovery ((Bounds.of accel jerk).forReversal (target - motion.speed) motion.accel) motion (target - motion.speed) step
      (smoothSpeed motion target accel jerk step) := by
  obtain ⟨least,most⟩ := forReversal_limits (Bounds.of accel jerk) (target - motion.speed) motion.accel
  have steers := forReversal_steerable steerable (target - motion.speed) motion.accel
  have ordered : ((Bounds.of accel jerk).forReversal (target - motion.speed) motion.accel).accelMin ≤
      ((Bounds.of accel jerk).forReversal (target - motion.speed) motion.accel).accelMax := by
    rw [least,most]
    exact ordered
  unfold smoothSpeed
  dsimp only
  generalize (Bounds.of accel jerk).forReversal (target - motion.speed) motion.accel = bounds at *
  unfold recoveryTime recoverOnly? recovered
  rcases lt_or_ge bounds.accelMax motion.accel with above | high
  · have apart : ¬ motion.accel < bounds.accelMin := not_lt.mpr (ordered.trans above.le)
    simp only [if_pos above,if_neg apart]
    split
    · rename_i moved shedding
      split at shedding
      · cases shedding
        rename_i during
        exact .shedding above during
      · cases shedding
    · rename_i more
      split at more
      · cases more
      · rename_i after
        rw [div_mul_cancel₀ _ steers.fall.ne,add_sub_cancel]
        exact .shed _ _ above (not_le.mp after)
  · rcases lt_or_ge motion.accel bounds.accelMin with below | low
    · simp only [if_pos below,if_neg (not_lt.mpr high)]
      split
      · rename_i moved gathering
        split at gathering
        · cases gathering
          rename_i during
          exact .gathering below during
        · cases gathering
      · rename_i more
        split at more
        · cases more
        · rename_i after
          rw [div_mul_cancel₀ _ steers.rise.ne',add_sub_cancel]
          exact .gathered _ _ below (not_le.mp after)
    · simp only [if_neg (not_lt.mpr high),if_neg (not_lt.mpr low),zero_exact,ite_self,sub_zero]
      exact .inside low high

-- A step that begins on its target, and neither braking nor pulling, makes no change but for the profile of none.
theorem smoothSpeed_settled (speed : ℝ) {accel : AccelLimits ℝ} {jerk : JerkLimits ℝ} (braking : accel.min ≤ 0)
    (pulling : 0 ≤ accel.max) (steerable : (Bounds.of accel jerk).Steerable) (step : ℝ) :
    smoothSpeed ⟨speed,0⟩ speed accel jerk step = follow (Bounds.of accel jerk) ⟨speed,0⟩ 0 step := by
  have plain : (Bounds.of accel jerk).forReversal (speed - speed) 0 = Bounds.of accel jerk := by
    unfold Bounds.forReversal
    simp only [zero_exact,lt_irrefl,and_false,if_false]
  have recovery := smoothSpeed_recovery ⟨speed,0⟩ speed accel jerk step (braking.trans pulling) steerable
  rw [plain] at recovery
  rw [recovery.unneeded braking pulling]
  unfold within
  rw [shiftToRest_exact,sub_self,if_neg]
  simp

end Headway.SpeedSmoother
