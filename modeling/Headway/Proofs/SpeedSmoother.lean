import Headway.Proofs.Double.Arithmetic
import Headway.SpeedSmoother

-- What the smoother makes of the acceleration it is handed. A finite one comes out as a number whatever the
-- target and the speed are, and one that is no number does not come out as one.
namespace Headway
open Scalar Double

namespace SpeedSmoother

def steepest : Float := .ofModel (Float.Model.pack (.finite .positive (2 ^ 52) 966 (by decide)))

structure Sloped (bounds : Bounds Float) : Prop where
  rise : 0.0 < bounds.jerkMax
  riseBound : bounds.jerkMax ≤ steepest
  fall : bounds.jerkMin < 0.0
  fallFinite : bounds.jerkMin.isFinite = true

theorem Sloped.riseFinite {bounds : Bounds Float} (sloped : Sloped bounds) : bounds.jerkMax.isFinite = true :=
  finite_of_between (Ordered.le_of_lt sloped.rise) sloped.riseBound (by decide) (by decide +kernel)

structure Drivable (bounds : Bounds Float) : Prop extends Sloped bounds where
  braking : bounds.accelMin ≤ 0.0
  fallBound : -8.0 ≤ bounds.jerkMin

theorem Drivable.mirrored {bounds : Bounds Float} (drivable : Drivable bounds) : Sloped bounds.mirrored where
  rise := negated_pos drivable.fallFinite drivable.fall
  riseBound := Ordered.le_trans (negated_le drivable.fallBound) (by decide +kernel)
  fall := negated_neg drivable.riseFinite drivable.rise
  fallFinite := negated_finite drivable.riseFinite

-- However the times of a profile come out, it rises for no longer than the step and falls for no time below
-- zero, so that no two infinities meet in the change of acceleration.
theorem along_number {bounds : Bounds Float} (sloped : Sloped bounds) {motion : Motion Float} {step : Float}
    (finite : motion.accel.isFinite = true) (short : step ≤ 0.2) (p : Profile Float) (change : Float) :
    (along bounds p motion change step).accel.isNaN = false := by
  unfold along
  split
  · exact (by decide : (0.0 : Float).isNaN = false)
  · have rising : lesser step p.riseEnd ≤ 0.2 :=
      Ordered.le_trans (Ordered.lesser_le_left (Ordered.numbers_of_le short).1) short
    have falling : 0.0 ≤ greater (lesser step p.fallEnd - p.flatEnd) 0.0 := Ordered.le_greater_right (by decide)
    have gained : bounds.jerkMax * lesser step p.riseEnd ≤ steepest * 0.2 := by
      rw [mul_swap]
      apply Ordered.le_trans (mul_mono sloped.riseFinite sloped.rise rising)
      rw [mul_swap]
      exact mul_mono (by decide) (by decide) sloped.riseBound
    have lost := times_nonpos sloped.fallFinite sloped.fall falling
    exact add_number finite (add_number_below gained lost (by decide +kernel) (by decide))

theorem within_number {bounds : Bounds Float} {motion : Motion Float} {change step : Float}
    (drivable : Drivable bounds) (finite : motion.accel.isFinite = true) (short : step ≤ 0.2) :
    (within bounds motion change step).accel.isNaN = false := by
  unfold within
  split
  · change (-(follow bounds.mirrored ⟨-motion.speed,-motion.accel⟩ (-change) step).accel).isNaN = false
    apply negated_number
    apply along_number drivable.mirrored _ short
    exact negated_finite finite
  · exact along_number drivable.toSloped finite short _ _

section Recovery
variable {bounds : Bounds Float} {motion : Motion Float}

theorem recoveryTime_nonneg (drivable : Drivable bounds) {accel : Float} (finite : accel.isFinite = true) :
    0.0 ≤ recoveryTime bounds accel := by
  unfold recoveryTime
  split
  · rename_i above
    have down : bounds.accelMax - accel ≤ 0.0 :=
      Ordered.le_trans (sub_mono_first finite (Ordered.le_of_lt above)) (same_sub finite).1
    exact Ordered.le_trans (zero_over drivable.fallFinite (value_neg drivable.fallFinite drivable.fall).ne).2
      (div_anti drivable.fallFinite drivable.fall down)
  · split
    · rename_i below
      have up : 0.0 ≤ bounds.accelMin - accel := difference_nonneg finite (Ordered.le_of_lt below)
      exact Ordered.le_trans (zero_over drivable.riseFinite (value_pos drivable.riseFinite drivable.rise).ne').2
        (div_mono drivable.riseFinite drivable.rise up)
    · exact (by decide : (0.0 : Float) ≤ 0.0)

theorem underJerk_number {jerk step : Float} (finite : motion.accel.isFinite = true) (jerkFinite : jerk.isFinite = true)
    (stepFinite : step.isFinite = true) : (underJerk motion jerk step).accel.isNaN = false :=
  add_number finite (mul_number stepFinite jerkFinite)

theorem recoverOnly_number {step recovery : Float} {moved : Motion Float} (drivable : Drivable bounds)
    (finite : motion.accel.isFinite = true) (stepFinite : step.isFinite = true)
    (only : recoverOnly? bounds motion step recovery = some moved) : moved.accel.isNaN = false := by
  unfold recoverOnly? at only
  split at only
  · split at only
    · cases only
      exact underJerk_number finite drivable.riseFinite stepFinite
    · split at only
      · cases only
        exact underJerk_number finite drivable.fallFinite stepFinite
      · cases only
  · cases only

theorem recovery_short {step recovery : Float} (number : step.isNaN = false) (number' : recovery.isNaN = false)
    (more : recoverOnly? bounds motion step recovery = none)
    (outside : bounds.accelMax < motion.accel ∨ motion.accel < bounds.accelMin) : recovery ≤ step := by
  unfold recoverOnly? at more
  split at more
  · split at more
    · cases more
    · rename_i inside
      rw [if_pos (outside.resolve_right inside)] at more
      cases more
  · rename_i longer
    exact (Ordered.le_total number' number).resolve_right longer

theorem sum_finite {x y low low' high high' : Float} (x₁ : low ≤ x) (x₂ : x ≤ high) (y₁ : low' ≤ y) (y₂ : y ≤ high')
    (finite : x.isFinite = true) (least : low'.isFinite = true) (most : high'.isFinite = true)
    (bottom : (low + low').isFinite = true) (top : (high + high').isFinite = true) : (x + y).isFinite = true :=
  finite_of_between (Ordered.le_trans (add_mono_first least x₁) (add_mono_second finite y₁))
    (Ordered.le_trans (add_mono_second finite y₂) (add_mono_first most x₂)) bottom top

theorem recovered_finite (drivable : Drivable bounds) (finite : motion.accel.isFinite = true) {step : Float}
    (short : step ≤ 0.2) (change : Float)
    (more : recoverOnly? bounds motion step (recoveryTime bounds motion.accel) = none) :
    (recovered bounds motion change (recoveryTime bounds motion.accel)).1.accel.isFinite = true := by
  have nonneg := recoveryTime_nonneg drivable finite
  have ended : bounds.accelMax < motion.accel ∨ motion.accel < bounds.accelMin →
      recoveryTime bounds motion.accel ≤ 0.2 := fun outside =>
    Ordered.le_trans (recovery_short (Ordered.numbers_of_le short).1 (Ordered.numbers_of_le nonneg).2 more outside) short
  have furthest := within_extremes finite
  generalize recoveryTime bounds motion.accel = recovery at nonneg ended ⊢
  unfold recovered
  split
  · rename_i above
    have bound : -8.0 * 0.2 ≤ recovery * bounds.jerkMin := by
      apply Ordered.le_trans (mul_mono (by decide) (by decide) drivable.fallBound)
      rw [mul_swap]
      exact mul_anti drivable.fallFinite drivable.fall (ended (.inl above))
    have down : recovery * bounds.jerkMin ≤ 0.0 := times_nonpos drivable.fallFinite drivable.fall nonneg
    apply sum_finite furthest.1 furthest.2 bound down finite
    · decide
    · decide
    · decide +kernel
    · decide +kernel
  · split
    · rename_i below
      have negative : motion.accel ≤ 0.0 := Ordered.le_trans (Ordered.le_of_lt below) drivable.braking
      have up : 0.0 ≤ recovery * bounds.jerkMax :=
        Ordered.le_trans (zero_times drivable.riseFinite).2 (mul_mono drivable.riseFinite drivable.rise nonneg)
      have bound : recovery * bounds.jerkMax ≤ steepest * 0.2 := by
        apply Ordered.le_trans (mul_mono drivable.riseFinite drivable.rise (ended (.inr below)))
        rw [mul_swap]
        exact mul_mono (by decide) (by decide) drivable.riseBound
      apply sum_finite furthest.1 negative up bound finite
      · decide
      · decide +kernel
      · decide +kernel
      · decide +kernel
    · exact finite

end Recovery

section Missing
variable {bounds : Bounds Float} {motion : Motion Float}

theorem profile_missing {accel : Float} (missing : accel.isNaN = true) (bounds : Bounds Float) (change step : Float) :
    (profile bounds accel change step).fallEnd.isNaN = true := by
  have rising (peak : Float) : ((peak - accel) / bounds.jerkMax).isNaN = true :=
    div_missing (.inl (sub_missing (.inr missing)))
  unfold profile
  dsimp only
  split
  · split
    · exact add_missing (.inl (add_missing (.inl (rising _))))
    · apply sub_missing
      left
      split
      · exact add_missing (.inl (rising _))
      · exact add_missing (.inl (rising _))
  · exact sub_missing (.inl (rising _))

theorem within_missing (missing : motion.accel.isNaN = true) (change step : Float) :
    (within bounds motion change step).accel.isNaN = true := by
  have rest : (shiftToRest bounds motion.accel).isNaN = true := div_missing (.inl (mul_missing (.inr missing)))
  unfold within
  rw [if_neg (Ordered.not_lt_missing (.inr rest)),follow,along,if_neg (Ordered.not_lt_missing (.inl (profile_missing missing _ _ _)))]
  exact add_missing (.inl missing)

end Missing

end SpeedSmoother

open SpeedSmoother

section Smoothed
variable {motion : Motion Float} {target step : Float} {accel : AccelLimits Float} {jerk : JerkLimits Float}

-- Limits under which the smoother works: braking at least is allowed, and both jerk limits may be tripled
-- for a reversal.
structure Smoothable (accel : AccelLimits Float) (jerk : JerkLimits Float) : Prop where
  braking : accel.min ≤ 0.0
  fall : -0.8 ≤ jerk.min ∧ jerk.min ≤ -0.1
  rise : 0.1 ≤ jerk.max ∧ jerk.max ≤ steepest * 0.2

theorem Smoothable.drivable (smoothable : Smoothable accel jerk) (change own : Float) :
    Drivable ((Bounds.of accel jerk).forReversal change own) := by
  obtain ⟨braking,⟨fallLow,fallHigh⟩,riseLow,riseHigh⟩ := smoothable
  have within {jerkMin jerkMax : Float} (fall : -8.0 ≤ jerkMin ∧ jerkMin ≤ -0.1)
      (rise : 0.1 ≤ jerkMax ∧ jerkMax ≤ steepest) : Drivable ⟨accel.min,accel.max,jerkMin,jerkMax⟩ := {
    braking
    rise := Ordered.lt_of_lt_of_le (by decide : (0.0 : Float) < 0.1) rise.1
    riseBound := rise.2
    fall := Ordered.lt_of_le_of_lt fall.2 (by decide : (-0.1 : Float) < 0.0)
    fallFinite := finite_of_between fall.1 fall.2 (by decide) (by decide)
    fallBound := fall.1 }
  have fall : -8.0 ≤ jerk.min ∧ jerk.min ≤ -0.1 := ⟨Ordered.le_trans (by decide) fallLow,fallHigh⟩
  have rise : 0.1 ≤ jerk.max ∧ jerk.max ≤ steepest := ⟨riseLow,Ordered.le_trans riseHigh (by decide +kernel)⟩
  have thrice {low x high : Float} (above : low ≤ x) (below : x ≤ high) : low * 3.0 ≤ x * 3.0 ∧ x * 3.0 ≤ high * 3.0 :=
    ⟨mul_mono (by decide) (by decide) above,mul_mono (by decide) (by decide) below⟩
  unfold Bounds.forReversal
  split
  · obtain ⟨low,high⟩ := thrice riseLow riseHigh
    exact within fall ⟨Ordered.le_trans (by decide) low,Ordered.le_trans high (by decide +kernel)⟩
  · split
    · obtain ⟨low,high⟩ := thrice fallLow fallHigh
      exact within ⟨Ordered.le_trans (by decide) low,Ordered.le_trans high (by decide)⟩ rise
    · exact within fall rise

theorem smoothSpeed_number (smoothable : Smoothable accel jerk) (finite : motion.accel.isFinite = true)
    (short : step ≤ 0.2) (stepFinite : step.isFinite = true) :
    (smoothSpeed motion target accel jerk step).accel.isNaN = false := by
  unfold smoothSpeed
  have drivable := smoothable.drivable (target - motion.speed) motion.accel
  dsimp only
  generalize (Bounds.of accel jerk).forReversal (target - motion.speed) motion.accel = bounds at drivable ⊢
  have nonneg := recoveryTime_nonneg drivable finite
  cases more : recoverOnly? bounds motion step (recoveryTime bounds motion.accel) with
  | some moved => exact recoverOnly_number drivable finite stepFinite more
  | none =>
    apply within_number drivable (recovered_finite drivable finite short (target - motion.speed) more)
    have left : step - 0.0 ≤ 0.2 := Ordered.le_trans (sub_mono_first (by decide) short) (by decide)
    exact Ordered.le_trans (sub_anti stepFinite nonneg) left

theorem smoothSpeed_missing (missing : motion.accel.isNaN = true) (lasts : 0.0 < step) :
    (smoothSpeed motion target accel jerk step).accel.isNaN = true := by
  unfold smoothSpeed
  dsimp only
  generalize (Bounds.of accel jerk).forReversal (target - motion.speed) motion.accel = bounds
  have above : ¬ bounds.accelMax < motion.accel := Ordered.not_lt_missing (.inr missing)
  have below : ¬ motion.accel < bounds.accelMin := Ordered.not_lt_missing (.inl missing)
  have none : recoveryTime bounds motion.accel = 0.0 := by
    unfold recoveryTime
    rw [if_neg above,if_neg below]
  have goesOn : recoverOnly? bounds motion step 0.0 = Option.none := by
    unfold recoverOnly?
    rw [if_neg (Ordered.lt_exact.mp lasts).2]
  have kept : recovered bounds motion (target - motion.speed) 0.0 = (motion,target - motion.speed) := by
    unfold recovered
    rw [if_neg above,if_neg below]
  rw [none,goesOn,kept]
  exact within_missing missing _ _

end Smoothed
end Headway
