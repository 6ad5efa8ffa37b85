import Headway.Proofs.Exact
import Headway.Proofs.AccelLimits

-- The decelerations that a turn and a limit ahead require, in exact arithmetic. Both ease off with the distance, and
-- neither is ever an acceleration.
namespace Headway
open Scalar

section Anticipation
variable {egoSpeed aheadSpeed near far distance : ℝ}

theorem turnRequiredDecel_exact (egoSpeed curveSpeed distance : ℝ) : turnRequiredDecel egoSpeed curveSpeed distance =
    min ((curveSpeed - egoSpeed) / max (distance / max ((egoSpeed + curveSpeed) / 2) 1) 1) 0 := by
  unfold turnRequiredDecel
  simp only [lesser_min,greater_max]
  norm_num

theorem limitAheadDecel_exact (ahead : 0 < distance) : limitAheadDecel egoSpeed aheadSpeed distance =
    max (min ((aheadSpeed ^ 2 - egoSpeed ^ 2) / (2 * distance)) 0) (-3) := by
  unfold limitAheadDecel hardestLimitDecel
  rw [if_neg (by rw [zero_exact]; exact not_le.mpr ahead),greater_max,lesser_min,pow_two,pow_two]
  norm_num

theorem limitAheadDecel_braking (egoSpeed aheadSpeed distance : ℝ) :
    -3 ≤ limitAheadDecel egoSpeed aheadSpeed distance ∧ limitAheadDecel egoSpeed aheadSpeed distance ≤ 0 := by
  have hardest : (hardestLimitDecel : ℝ) = -3 := by norm_num [hardestLimitDecel]
  have kept := limitAheadDecel_kept (by norm_num [hardestLimitDecel]) egoSpeed aheadSpeed distance
  rwa [hardest,zero_exact] at kept

theorem spread_mono (change : ℝ) (positive : 0 < near) (closer : near ≤ far) :
    min (change / near) 0 ≤ min (change / far) 0 := by
  rcases le_total change 0 with loss | gain
  · rw [div_eq_mul_one_div change near,div_eq_mul_one_div change far]
    exact min_le_min_right 0 (mul_le_mul_of_nonpos_left (one_div_le_one_div_of_le positive closer) loss)
  · rw [min_eq_right (div_nonneg gain (positive.le.trans closer))]
    exact min_le_right _ _

theorem turnRequiredDecel_mono (egoSpeed curveSpeed : ℝ) : Monotone (turnRequiredDecel egoSpeed curveSpeed) := by
  intro near far closer
  rw [turnRequiredDecel_exact,turnRequiredDecel_exact]
  apply spread_mono _ (lt_max_of_lt_right one_pos)
  exact max_le_max_right _ (div_le_div_of_nonneg_right closer (zero_le_one.trans (le_max_right _ _)))

theorem limitAheadDecel_mono (egoSpeed aheadSpeed : ℝ) : Monotone (limitAheadDecel egoSpeed aheadSpeed) := by
  intro near far closer
  rcases le_or_gt near 0 with arrived | ahead
  · have hardest : limitAheadDecel egoSpeed aheadSpeed near = -3 := by
      refine (if_pos ?_).trans (by norm_num [hardestLimitDecel])
      rwa [zero_exact]
    rw [hardest]
    exact (limitAheadDecel_braking egoSpeed aheadSpeed far).1
  · rw [limitAheadDecel_exact ahead,limitAheadDecel_exact (ahead.trans_le closer)]
    exact max_le_max_right _ (spread_mono _ (by linarith) (by linarith))

-- From a mean speed of a metre a second and a second of way on, the mean speed and the time have no floor to stand on.
theorem turnRequiredDecel_steady (slower : aheadSpeed ≤ egoSpeed) (brisk : 1 ≤ (egoSpeed + aheadSpeed) / 2)
    (far : (egoSpeed + aheadSpeed) / 2 ≤ distance) :
    turnRequiredDecel egoSpeed aheadSpeed distance = (aheadSpeed ^ 2 - egoSpeed ^ 2) / (2 * distance) := by
  have moving : 0 < (egoSpeed + aheadSpeed) / 2 := one_pos.trans_le brisk
  have ahead : 0 < distance := moving.trans_le far
  have squares : (aheadSpeed - egoSpeed) / (distance / ((egoSpeed + aheadSpeed) / 2)) =
      (aheadSpeed ^ 2 - egoSpeed ^ 2) / (2 * distance) := by
    field_simp
    ring
  rw [turnRequiredDecel_exact,max_eq_left brisk,max_eq_left ((one_le_div moving).mpr far),squares]
  apply min_eq_left
  rw [← squares]
  exact div_nonpos_of_nonpos_of_nonneg (sub_nonpos.mpr slower) (div_pos ahead moving).le

theorem anticipations_agree (egoSpeed aheadSpeed : ℝ) :
    (∀ distance, aheadSpeed ≤ egoSpeed → 1 ≤ (egoSpeed + aheadSpeed) / 2 → (egoSpeed + aheadSpeed) / 2 ≤ distance →
      egoSpeed ^ 2 + 2 * turnRequiredDecel egoSpeed aheadSpeed distance * distance = aheadSpeed ^ 2 ∧
        limitAheadDecel egoSpeed aheadSpeed distance = max (turnRequiredDecel egoSpeed aheadSpeed distance) (-3)) ∧
    (∀ distance, turnRequiredDecel egoSpeed aheadSpeed distance ≤ 0 ∧
      -3 ≤ limitAheadDecel egoSpeed aheadSpeed distance ∧ limitAheadDecel egoSpeed aheadSpeed distance ≤ 0) ∧
    Monotone (turnRequiredDecel egoSpeed aheadSpeed) ∧ Monotone (limitAheadDecel egoSpeed aheadSpeed) := by
  have nonpos (distance : ℝ) : turnRequiredDecel egoSpeed aheadSpeed distance ≤ 0 := by
    rw [turnRequiredDecel_exact]
    exact min_le_right _ _
  refine ⟨?_,fun distance => ⟨nonpos distance,limitAheadDecel_braking _ _ _⟩,turnRequiredDecel_mono _ _,
    limitAheadDecel_mono _ _⟩
  intro distance slower brisk far
  have ahead : 0 < distance := one_pos.trans_le (brisk.trans far)
  have steady := turnRequiredDecel_steady slower brisk far
  constructor
  · rw [steady]
    field_simp
    ring
  · rw [limitAheadDecel_exact ahead,← steady,min_eq_left (nonpos distance)]

theorem anticipations_agree_short : (0 : ℝ) ≤ 30 ∧ (1 : ℝ) ≤ (30 + 0) / 2 ∧ ((30 : ℝ) + 0) / 2 ≤ 100 ∧
    turnRequiredDecel (30 : ℝ) 0 100 = -4.5 ∧ limitAheadDecel (30 : ℝ) 0 100 = -3 ∧
    turnRequiredDecel (30 : ℝ) 0 100 ≤ turnRequiredDecel 30 0 200 := by
  have slower : (0 : ℝ) ≤ 30 := by norm_num
  have brisk : (1 : ℝ) ≤ (30 + 0) / 2 := by norm_num
  have far : ((30 : ℝ) + 0) / 2 ≤ 100 := by norm_num
  obtain ⟨law,_,eases,_⟩ := anticipations_agree 30 0
  obtain ⟨squares,limited⟩ := law 100 slower brisk far
  have required : turnRequiredDecel (30 : ℝ) 0 100 = -4.5 := by linarith
  refine ⟨slower,brisk,far,required,?_,eases (by norm_num)⟩
  rw [limited,required]
  norm_num

end Anticipation
end Headway
