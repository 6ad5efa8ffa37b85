import Headway.Proofs.SpeedSmoother.Profile

-- A step seen in the mirror is the mirror of the step, but for a change that easing off makes by itself.
namespace Headway
open Scalar
variable {α : Type} [Scalar α]

def SpeedSmoother.Motion.mirrored (motion : SpeedSmoother.Motion α) : SpeedSmoother.Motion α :=
  ⟨-motion.speed,-motion.accel⟩

def AccelLimits.mirrored (limits : AccelLimits α) : AccelLimits α := ⟨-limits.max,-limits.min⟩

def JerkLimits.mirrored (limits : JerkLimits α) : JerkLimits α := ⟨-limits.max,-limits.min⟩

namespace SpeedSmoother

theorem Motion.mirrored_mirrored (motion : Motion ℝ) : motion.mirrored.mirrored = motion := by
  simp [mirrored]

theorem Bounds.mirrored_mirrored (bounds : Bounds ℝ) : bounds.mirrored.mirrored = bounds := by
  simp [mirrored]

-- On which side of its limits an acceleration lies. Limits that do not cross leave it no second side.
inductive Lies (bounds : Bounds ℝ) (accel : ℝ) : Prop where
  | above (past : bounds.accelMax < accel) (notUnder : ¬ accel < bounds.accelMin)
  | below (under : accel < bounds.accelMin) (notPast : ¬ bounds.accelMax < accel)
  | inside (notPast : ¬ bounds.accelMax < accel) (notUnder : ¬ accel < bounds.accelMin)

theorem lies_of_ordered {bounds : Bounds ℝ} (ordered : bounds.accelMin ≤ bounds.accelMax) (accel : ℝ) :
    Lies bounds accel := by
  by_cases past : bounds.accelMax < accel
  · exact .above past (not_lt.mpr (ordered.trans past.le))
  · by_cases under : accel < bounds.accelMin
    · exact .below under past
    · exact .inside past under

section Stages
variable {bounds : Bounds ℝ} {motion : Motion ℝ} {change : ℝ}

theorem mirrored_past (bounds : Bounds ℝ) (accel : ℝ) :
    (bounds.mirrored.accelMax < -accel) = (accel < bounds.accelMin) := propext neg_lt_neg_iff

theorem mirrored_under (bounds : Bounds ℝ) (accel : ℝ) :
    (-accel < bounds.mirrored.accelMin) = (bounds.accelMax < accel) := propext neg_lt_neg_iff

theorem forReversal_mirrored (bounds : Bounds ℝ) (change accel : ℝ) :
    bounds.mirrored.forReversal (-change) (-accel) = (bounds.forReversal change accel).mirrored := by
  unfold Bounds.forReversal
  simp only [zero_exact,Left.neg_pos_iff,Left.neg_neg_iff]
  by_cases back : 0 < change ∧ accel < 0
  · rw [if_pos back,if_neg (fun other => back.1.not_gt other.1),if_pos back]
    simp [Bounds.mirrored]
  · rw [if_neg back,if_neg back]
    by_cases forth : change < 0 ∧ 0 < accel
    · rw [if_pos forth,if_pos forth]
      simp [Bounds.mirrored]
    · rw [if_neg forth,if_neg forth]

theorem recoveryTime_mirrored {accel : ℝ} (lies : Lies bounds accel) :
    recoveryTime bounds.mirrored (-accel) = recoveryTime bounds accel := by
  unfold recoveryTime
  simp only [mirrored_past,mirrored_under]
  cases lies with
  | above past notUnder =>
    rw [if_neg notUnder,if_pos past,if_pos past]
    change (-bounds.accelMax - -accel) / -bounds.jerkMin = _
    rw [← neg_sub',neg_div_neg_eq]
  | below under notPast =>
    rw [if_pos under,if_neg notPast,if_pos under]
    change (-bounds.accelMin - -accel) / -bounds.jerkMax = _
    rw [← neg_sub',neg_div_neg_eq]
  | inside notPast notUnder => rw [if_neg notUnder,if_neg notPast,if_neg notPast,if_neg notUnder]

theorem underJerk_mirrored (motion : Motion ℝ) (jerk step : ℝ) :
    underJerk motion.mirrored (-jerk) step = (underJerk motion jerk step).mirrored := by
  simp only [underJerk,Motion.mirrored,Motion.mk.injEq]
  constructor <;> ring

theorem recoverOnly_mirrored (lies : Lies bounds motion.accel) (step recovery : ℝ) :
    recoverOnly? bounds.mirrored motion.mirrored step recovery =
      (recoverOnly? bounds motion step recovery).map Motion.mirrored := by
  unfold recoverOnly?
  change (if step ≤ recovery then if -motion.accel < bounds.mirrored.accelMin then _ else
    if bounds.mirrored.accelMax < -motion.accel then _ else none else none) = _
  simp only [mirrored_past,mirrored_under]
  split
  · cases lies with
    | above past notUnder =>
      rw [if_pos past,if_neg notUnder,if_pos past]
      exact congrArg some (underJerk_mirrored motion bounds.jerkMin step)
    | below under notPast =>
      rw [if_neg notPast,if_pos under,if_pos under]
      exact congrArg some (underJerk_mirrored motion bounds.jerkMax step)
    | inside notPast notUnder =>
      rw [if_neg notPast,if_neg notUnder,if_neg notUnder,if_neg notPast]
      rfl
  · rfl

theorem made_mirrored (limit accel jerk : ℝ) :
    0.5 * (-limit * -limit - -accel * -accel) / -jerk = -(0.5 * (limit * limit - accel * accel) / jerk) := by
  rw [neg_mul_neg,neg_mul_neg,div_neg]

theorem recovered_mirrored (lies : Lies bounds motion.accel) (change recovery : ℝ) :
    recovered bounds.mirrored motion.mirrored (-change) recovery =
      ((recovered bounds motion change recovery).1.mirrored,-(recovered bounds motion change recovery).2) := by
  unfold recovered
  change (if bounds.mirrored.accelMax < -motion.accel then _ else
    if -motion.accel < bounds.mirrored.accelMin then _ else _) = _
  simp only [mirrored_past,mirrored_under]
  cases lies with
  | above past notUnder =>
    rw [if_neg notUnder,if_pos past,if_pos past]
    simp only [Bounds.mirrored,Motion.mirrored,made_mirrored,Prod.mk.injEq,Motion.mk.injEq]
    refine ⟨⟨?_,?_⟩,?_⟩ <;> ring
  | below under notPast =>
    rw [if_pos under,if_neg notPast,if_pos under]
    simp only [Bounds.mirrored,Motion.mirrored,made_mirrored,Prod.mk.injEq,Motion.mk.injEq]
    refine ⟨⟨?_,?_⟩,?_⟩ <;> ring
  | inside notPast notUnder => rw [if_neg notUnder,if_neg notPast,if_neg notPast,if_neg notUnder]

-- What lies to one side of the ease-off is followed as it is, and what lies to the other in the mirror.
theorem within_mirrored (apart : change ≠ shiftToRest bounds motion.accel) (step : ℝ) :
    within bounds.mirrored motion.mirrored (-change) step = (within bounds motion change step).mirrored := by
  have shift : shiftToRest bounds.mirrored motion.mirrored.accel = -shiftToRest bounds motion.accel :=
    shiftToRest_mirrored bounds motion.accel
  unfold within
  rw [shift]
  rcases lt_or_gt_of_ne apart with short | long
  · rw [if_pos short,if_neg (neg_lt_neg_iff.not.mpr short.not_gt)]
    exact (Motion.mirrored_mirrored _).symm
  · rw [if_neg long.not_gt,if_pos (neg_lt_neg_iff.mpr long),neg_neg]
    change (follow bounds.mirrored.mirrored motion.mirrored.mirrored change step).mirrored = _
    rw [bounds.mirrored_mirrored,motion.mirrored_mirrored]

end Stages

-- The exception: the limits are recovered within the step, and easing off makes just the change that is then left.
def EasesExactly (motion : Motion α) (target : α) (accel : AccelLimits α) (jerk : JerkLimits α) (step : α) : Prop :=
  let change := target - motion.speed
  let bounds := (Bounds.of accel jerk).forReversal change motion.accel
  let recovery := recoveryTime bounds motion.accel
  let (left,remaining) := recovered bounds motion change recovery
  recoverOnly? bounds motion step recovery = none ∧ remaining = shiftToRest bounds left.accel

end SpeedSmoother

open SpeedSmoother

-- Nothing is asked of the jerk limits, for the two sides divide by the same numbers but for their sign.
theorem smoothSpeed_mirrored (motion : Motion ℝ) (target : ℝ) (accel : AccelLimits ℝ) (jerk : JerkLimits ℝ) (step : ℝ)
    (ordered : accel.min ≤ accel.max) (apart : ¬ EasesExactly motion target accel jerk step) :
    smoothSpeed motion.mirrored (-target) accel.mirrored jerk.mirrored step =
      (smoothSpeed motion target accel jerk step).mirrored := by
  obtain ⟨least,most⟩ := forReversal_limits (Bounds.of accel jerk) (target - motion.speed) motion.accel
  have lies : Lies ((Bounds.of accel jerk).forReversal (target - motion.speed) motion.accel) motion.accel := by
    apply lies_of_ordered
    rw [least,most]
    exact ordered
  have change : -target - motion.mirrored.speed = -(target - motion.speed) := by
    change -target - -motion.speed = _
    ring
  have turned : (Bounds.of accel.mirrored jerk.mirrored).forReversal (-(target - motion.speed)) motion.mirrored.accel =
      ((Bounds.of accel jerk).forReversal (target - motion.speed) motion.accel).mirrored :=
    forReversal_mirrored (Bounds.of accel jerk) (target - motion.speed) motion.accel
  unfold EasesExactly at apart
  unfold smoothSpeed
  dsimp only at apart ⊢
  rw [change,turned]
  generalize (Bounds.of accel jerk).forReversal (target - motion.speed) motion.accel = bounds at *
  have time : recoveryTime bounds.mirrored motion.mirrored.accel = recoveryTime bounds motion.accel :=
    recoveryTime_mirrored lies
  rw [time,recoverOnly_mirrored lies,recovered_mirrored lies]
  cases only : recoverOnly? bounds motion step (recoveryTime bounds motion.accel) with
  | some moved => rfl
  | none =>
    rw [Option.map_none]
    dsimp only
    exact within_mirrored (fun eased => apart ⟨only,eased⟩) _

-- A pull above its limit is shed at the tripled lower jerk limit, and in the mirror at the upper one.
theorem smoothSpeed_mirrored_reversal :
    (-1 : ℝ) ≤ 2 ∧ ¬ EasesExactly (⟨20,3⟩ : Motion ℝ) 15 ⟨-1,2⟩ ⟨-3,1⟩ (1 / 5) ∧
      smoothSpeed (⟨20,3⟩ : Motion ℝ).mirrored (-15) (AccelLimits.mirrored ⟨-1,2⟩) (JerkLimits.mirrored ⟨-3,1⟩) (1 / 5) =
        (smoothSpeed (⟨20,3⟩ : Motion ℝ) 15 ⟨-1,2⟩ ⟨-3,1⟩ (1 / 5)).mirrored := by
  have ordered : (-1 : ℝ) ≤ 2 := by norm_num
  have apart : ¬ EasesExactly (⟨20,3⟩ : Motion ℝ) 15 ⟨-1,2⟩ ⟨-3,1⟩ (1 / 5) := by
    norm_num [EasesExactly,Bounds.of,Bounds.forReversal,recoveryTime,recovered,shiftToRest]
  exact ⟨ordered,apart,smoothSpeed_mirrored ⟨20,3⟩ 15 ⟨-1,2⟩ ⟨-3,1⟩ (1 / 5) ordered apart⟩

-- At rest on its target: the peak is taken a little high, so that it speeds up at first on either side.
theorem smoothSpeed_rises (speed : ℝ) :
    (smoothSpeed (⟨speed,0⟩ : Motion ℝ) speed ⟨-1,1⟩ ⟨-1,1⟩ (1 / 10 ^ 5)).accel = 1 / 10 ^ 5 := by
  have free : freePeak ⟨-1,1,-1,1⟩ 0 0 = √(1 / 10 ^ 9) := by
    rw [freePeak_exact,tiny_exact]
    norm_num [Bounds.width_exact]
  have small : √(1 / 10 ^ 9) ≤ (1 : ℝ) := by
    rw [Real.sqrt_le_left (by norm_num)]
    norm_num
  have rising : 1 / 10 ^ 5 ≤ √(1 / 10 ^ 9 : ℝ) := by
    apply Real.le_sqrt_of_sq_le
    norm_num
  have shape : profile (⟨-1,1,-1,1⟩ : Bounds ℝ) 0 0 (1 / 10 ^ 5) =
      ⟨√(1 / 10 ^ 9),√(1 / 10 ^ 9),√(1 / 10 ^ 9),2 * √(1 / 10 ^ 9)⟩ := by
    unfold profile
    dsimp only
    rw [free,if_neg (not_lt.mpr small),sub_zero,div_one]
    congr 1
    ring
  rw [smoothSpeed_settled speed (by norm_num) (by norm_num) ⟨by norm_num [Bounds.of],by norm_num [Bounds.of]⟩]
  change (along _ (profile (⟨-1,1,-1,1⟩ : Bounds ℝ) 0 0 (1 / 10 ^ 5)) _ _ _).accel = _
  rw [shape,along_exact,if_neg (by dsimp only; linarith)]
  dsimp only [Bounds.of]
  rw [min_eq_left rising,max_eq_right (sub_nonpos.mpr ((min_le_left _ _).trans rising))]
  norm_num

theorem smoothSpeed_mirror_lost (speed : ℝ) :
    smoothSpeed (⟨speed,0⟩ : Motion ℝ).mirrored (-speed) (AccelLimits.mirrored ⟨-1,1⟩) (JerkLimits.mirrored ⟨-1,1⟩)
      (1 / 10 ^ 5) ≠ (smoothSpeed (⟨speed,0⟩ : Motion ℝ) speed ⟨-1,1⟩ ⟨-1,1⟩ (1 / 10 ^ 5)).mirrored := by
  intro same
  have rises := congrArg Motion.accel same
  simp only [Motion.mirrored,AccelLimits.mirrored,JerkLimits.mirrored,neg_neg,neg_zero,smoothSpeed_rises] at rises
  norm_num at rises

end Headway
