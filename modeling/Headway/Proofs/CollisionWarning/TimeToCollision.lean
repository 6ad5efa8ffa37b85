import Headway.Proofs.Exact
import Headway.CollisionWarning

-- The time to collision in exact arithmetic. Below its limit it is when the gap is gone for the first time.
namespace Headway
open Scalar

namespace Collision
variable {root closing gaining distance : ℝ}

structure First (distance closing gaining time : ℝ) : Prop where
  ahead : 0 < time
  met : closing * time + gaining * time ^ 2 / 2 = distance
  apart : ∀ earlier, 0 ≤ earlier → earlier < time → closing * earlier + gaining * earlier ^ 2 / 2 < distance

-- The parabola by its roots. The second factor is never below the first, so the gap is gone where the first is zero.
theorem gap_exact (squared : root ^ 2 = closing ^ 2 + 2 * distance * gaining) (time : ℝ) :
    4 * distance * (distance - (closing * time + gaining * time ^ 2 / 2)) =
      (2 * distance - (root + closing) * time) * (2 * distance - (root + closing) * time + 2 * root * time) := by
  linear_combination time ^ 2 * squared

theorem first_of_root (ahead : 0 < distance) (squared : root ^ 2 = closing ^ 2 + 2 * distance * gaining) (nonneg : 0 ≤ root)
    (onward : 0 < root + closing) : First distance closing gaining (2 * distance / (root + closing)) := by
  have way : (root + closing) * (2 * distance / (root + closing)) = 2 * distance := mul_div_cancel₀ _ onward.ne'
  refine ⟨by positivity,?_,?_⟩
  · have gone := gap_exact squared (2 * distance / (root + closing))
    rw [way,sub_self,zero_mul] at gone
    rcases mul_eq_zero.mp gone with nowhere | met
    · linarith
    · exact (sub_eq_zero.mp met).symm
  · intro earlier started before
    have short : 0 < 2 * distance - (root + closing) * earlier := by
      have less := mul_lt_mul_of_pos_left before onward
      linarith
    have share : 0 ≤ 2 * root * earlier := by positivity
    have left : 0 < 4 * distance * (distance - (closing * earlier + gaining * earlier ^ 2 / 2)) := by
      rw [gap_exact squared]
      exact mul_pos short (by linarith)
    exact sub_pos.mp ((mul_pos_iff_of_pos_left (by linarith)).mp left)

end Collision
open Collision

-- The root is taken where both it and what it divides by are clear of zero. Everywhere else the answer is the limit.
theorem timeToCollision_root (egoSpeed egoAccel distance leadSpeed leadAccel : ℝ) :
    let closing := egoSpeed - leadSpeed
    let discriminant := closing ^ 2 + 2 * distance * min (egoAccel - leadAccel) (leadSpeed / 2)
    timeToCollision egoSpeed egoAccel distance leadSpeed leadAccel =
      if 0.1 ≤ discriminant ∧ 0.1 ≤ √discriminant + closing then min 5 (2 * distance / (√discriminant + closing))
      else 5 := by
  intro closing discriminant
  have two : (2.0 : ℝ) = 2 := by norm_num
  have five : (5.0 : ℝ) = 5 := by norm_num
  have same : closing * closing + 2 * distance * min (egoAccel - leadAccel) (leadSpeed / 2) = discriminant := by
    rw [← pow_two]
  unfold timeToCollision
  dsimp only
  rw [lesser_min,lesser_min,two,five,same]
  change (if discriminant < 0.1 ∨ √discriminant + closing < 0.1 then 5 else min (2 * distance / (√discriminant + closing)) 5) = _
  rw [min_comm (2 * distance / (√discriminant + closing)),← ite_not]
  simp only [not_or,not_lt]

theorem timeToCollision_exact (egoSpeed egoAccel leadSpeed leadAccel : ℝ) {distance : ℝ} (ahead : 0 < distance) :
    let closing := egoSpeed - leadSpeed
    let gaining := min (egoAccel - leadAccel) (leadSpeed / 2)
    let discriminant := closing ^ 2 + 2 * distance * gaining
    let time := timeToCollision egoSpeed egoAccel distance leadSpeed leadAccel
    (if 0.1 ≤ discriminant ∧ 0.1 ≤ √discriminant + closing then
      ∃ first, First distance closing gaining first ∧ time = min 5 first
    else time = 5) ∧ 0 < time ∧ time ≤ 5 := by
  intro closing gaining discriminant time
  have root : time = if 0.1 ≤ discriminant ∧ 0.1 ≤ √discriminant + closing then
      min 5 (2 * distance / (√discriminant + closing)) else 5 :=
    timeToCollision_root egoSpeed egoAccel distance leadSpeed leadAccel
  split
  · rename_i clear
    rw [if_pos clear] at root
    have positive : 0 ≤ discriminant := le_trans (by norm_num) clear.1
    have onward : 0 < √discriminant + closing := lt_of_lt_of_le (by norm_num) clear.2
    have first : First distance closing gaining (2 * distance / (√discriminant + closing)) :=
      first_of_root ahead (Real.sq_sqrt positive) (Real.sqrt_nonneg _) onward
    rw [root]
    exact ⟨⟨_,first,rfl⟩,lt_min (by norm_num) first.ahead,min_le_left _ _⟩
  · rename_i unclear
    rw [if_neg unclear] at root
    rw [root]
    norm_num

theorem timeToCollision_of_braking : (0 : ℝ) < 24 ∧ First 24 10 2 2 ∧ timeToCollision (20 : ℝ) 0 24 10 (-2) = 2 := by
  have ahead : (0 : ℝ) < 24 := by norm_num
  obtain ⟨rule,_⟩ := timeToCollision_exact 20 0 10 (-2) ahead
  have gaining : min ((0 : ℝ) - -2) (10 / 2) = 2 := by norm_num
  have closing : (20 : ℝ) - 10 = 10 := by norm_num
  rw [gaining,closing,if_pos ⟨by norm_num,by linarith [Real.sqrt_nonneg ((10 : ℝ) ^ 2 + 2 * 24 * 2)]⟩] at rule
  obtain ⟨first,meets,time⟩ := rule
  have instant : first = 2 := by
    have met : 10 * first + 2 * first ^ 2 / 2 = 24 := meets.met
    have factors : (first - 2) * (first + 12) = 0 := by linear_combination met
    rcases mul_eq_zero.mp factors with here | before
    · exact sub_eq_zero.mp here
    · linarith [meets.ahead]
  subst instant
  exact ⟨ahead,meets,time.trans (by norm_num)⟩

end Headway
