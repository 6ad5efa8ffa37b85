import Headway.Proofs.SpeedSmoother.Profile

-- The smoother with its divisions and its root passed in. Where they are those of the running planner it is the smoother
-- itself; where they refuse what is not defined, no engaged cycle is refused.
namespace Headway
open Scalar
variable {α : Type} [Scalar α]

namespace SpeedSmoother

-- The two operations that exact arithmetic does not define everywhere.
structure Arithmetic (α : Type) (m : Type → Type) where
  divide : α → α → m α
  root : α → m α

namespace Arithmetic

def running : Arithmetic α Id where
  divide x y := pure (x / y)
  root square := pure (if isNaN square ∨ square < 0.0 then 0.0 else sqrt square)

noncomputable def strict : Arithmetic ℝ Option where
  divide x y := if y = 0 then none else some (x / y)
  root square := if square < 0 then none else some √square

@[simp] theorem strict_divide {x y : ℝ} (nonzero : y ≠ 0) : strict.divide x y = some (x / y) := if_neg nonzero

@[simp] theorem strict_root {square : ℝ} (nonneg : 0 ≤ square) : strict.root square = some √square :=
  if_neg nonneg.not_gt

end Arithmetic

section Program
variable {m : Type → Type} [Monad m] (ops : Arithmetic α m) (bounds : Bounds α)

def recoveryTimeBy (accel : α) : m α :=
  if bounds.accelMax < accel then ops.divide (bounds.accelMax - accel) bounds.jerkMin
  else if accel < bounds.accelMin then ops.divide (bounds.accelMin - accel) bounds.jerkMax
  else pure 0.0

def recoveredBy (motion : Motion α) (change recovery : α) : m (Motion α × α) :=
  if bounds.accelMax < motion.accel then do
    let made ← ops.divide (0.5 * (bounds.accelMax * bounds.accelMax - motion.accel * motion.accel)) bounds.jerkMin
    return (⟨motion.speed + made,motion.accel + recovery * bounds.jerkMin⟩,change - made)
  else if motion.accel < bounds.accelMin then do
    let made ← ops.divide (0.5 * (bounds.accelMin * bounds.accelMin - motion.accel * motion.accel)) bounds.jerkMax
    return (⟨motion.speed + made,motion.accel + recovery * bounds.jerkMax⟩,change - made)
  else return (motion,change)

def shiftToRestBy (accel : α) : m α :=
  ops.divide (-0.5 * accel * accel) (if 0.0 ≤ accel then bounds.jerkMin else bounds.jerkMax)

def freePeakBy (accel change : α) : m α := do
  let lost ← ops.divide (0.5 * accel * accel) bounds.jerkMax
  let up ← ops.divide 0.5 bounds.jerkMax
  let down ← ops.divide 0.5 bounds.jerkMin
  let square ← ops.divide (lost + change + tiny) (up - down)
  ops.root square

def profileBy (accel change step : α) : m (Profile α) := do
  let free ← freePeakBy ops bounds accel change
  if bounds.accelMax < free then
    let peak := bounds.accelMax
    let riseEnd ← ops.divide (peak - accel) bounds.jerkMax
    if peak ≤ 0.0 then
      let flatEnd := riseEnd + step + tiny
      return ⟨peak,riseEnd,flatEnd,flatEnd⟩
    else
      let risen ← ops.divide (0.5 * (peak * peak - accel * accel)) bounds.jerkMax
      let eased ← ops.divide (0.5 * peak * peak) bounds.jerkMin
      let flatChange := change - risen + eased
      let flatEnd ← (if flatChange < peak * step then (riseEnd + ·) <$> ops.divide flatChange peak
        else pure (riseEnd + step))
      let fall ← ops.divide peak bounds.jerkMin
      return ⟨peak,riseEnd,flatEnd,flatEnd - fall⟩
  else
    let riseEnd ← ops.divide (free - accel) bounds.jerkMax
    let fall ← ops.divide free bounds.jerkMin
    return ⟨free,riseEnd,riseEnd,riseEnd - fall⟩

def followBy (motion : Motion α) (change step : α) : m (Motion α) := do
  let p ← profileBy ops bounds motion.accel change step
  return along bounds p motion change step

def withinBy (motion : Motion α) (change step : α) : m (Motion α) := do
  let shift ← shiftToRestBy ops bounds motion.accel
  if change < shift then
    let mirrored ← followBy ops bounds.mirrored ⟨-motion.speed,-motion.accel⟩ (-change) step
    return ⟨-mirrored.speed,-mirrored.accel⟩
  else followBy ops bounds motion change step

end Program

def smoothSpeedBy {m : Type → Type} [Monad m] (ops : Arithmetic α m) (motion : Motion α) (target : α)
    (accel : AccelLimits α) (jerk : JerkLimits α) (step : α) : m (Motion α) := do
  let change := target - motion.speed
  let bounds := (Bounds.of accel jerk).forReversal change motion.accel
  let recovery ← recoveryTimeBy ops bounds motion.accel
  match recoverOnly? bounds motion step recovery with
  | some moved => return moved
  | none =>
    let (motion,change) ← recoveredBy ops bounds motion change recovery
    withinBy ops bounds motion change (step - recovery)

-- For running doubles as well.
theorem smoothSpeedBy_running (motion : Motion α) (target : α) (accel : AccelLimits α) (jerk : JerkLimits α) (step : α) :
    (smoothSpeedBy .running motion target accel jerk step).run = smoothSpeed motion target accel jerk step := rfl

section Strict
open Arithmetic
variable {bounds : Bounds ℝ} {motion : Motion ℝ} {accel change step : ℝ}

theorem recoveryTimeBy_strict (steerable : bounds.Steerable) (accel : ℝ) :
    recoveryTimeBy strict bounds accel = some (recoveryTime bounds accel) := by
  unfold recoveryTimeBy recoveryTime
  split
  · exact strict_divide steerable.fall.ne
  · split
    · exact strict_divide steerable.rise.ne'
    · rfl

theorem recoveredBy_strict (steerable : bounds.Steerable) (motion : Motion ℝ) (change recovery : ℝ) :
    recoveredBy strict bounds motion change recovery = some (recovered bounds motion change recovery) := by
  unfold recoveredBy recovered
  split
  · rw [strict_divide steerable.fall.ne]
    rfl
  · split
    · rw [strict_divide steerable.rise.ne']
      rfl
    · rfl

theorem shiftToRestBy_strict (steerable : bounds.Steerable) (accel : ℝ) :
    shiftToRestBy strict bounds accel = some (shiftToRest bounds accel) := by
  apply strict_divide
  split
  · exact steerable.fall.ne
  · exact steerable.rise.ne'

-- A change that easing off does not make by itself leaves something under the root.
theorem freePeakBy_strict (steerable : bounds.Steerable) (enough : shiftToRest bounds accel ≤ change) :
    freePeakBy strict bounds accel change = some (freePeak bounds accel change) := by
  have wide : 0 < 0.5 / bounds.jerkMax - 0.5 / bounds.jerkMin := steerable.width_pos
  have lost : 0.5 * accel * accel / bounds.jerkMax = accel ^ 2 / (2 * bounds.jerkMax) := by
    rw [half_exact]
    ring
  have shift := shift_enough enough
  have least : 0 ≤ max accel 0 ^ 2 * bounds.width := mul_nonneg (sq_nonneg _) wide.le
  have square : 0 ≤ (0.5 * accel * accel / bounds.jerkMax + change + tiny) /
      (0.5 / bounds.jerkMax - 0.5 / bounds.jerkMin) := by
    apply div_nonneg _ wide.le
    rw [lost]
    linarith [tiny_pos]
  have unguarded : freePeak bounds accel change = √((0.5 * accel * accel / bounds.jerkMax + change + tiny) /
      (0.5 / bounds.jerkMax - 0.5 / bounds.jerkMin)) := by
    unfold freePeak
    dsimp only
    rw [zero_exact,if_neg]
    · rfl
    · rintro (missing | below)
      · cases missing
      · exact square.not_gt below
  unfold freePeakBy
  rw [strict_divide steerable.rise.ne',strict_divide steerable.rise.ne',strict_divide steerable.fall.ne]
  simp only [Option.bind_eq_bind,Option.bind_some]
  rw [strict_divide wide.ne',Option.bind_some,strict_root square,unguarded]

theorem profileBy_strict (steerable : bounds.Steerable) (enough : shiftToRest bounds accel ≤ change) (step : ℝ) :
    profileBy strict bounds accel change step = some (profile bounds accel change step) := by
  have fall := steerable.fall.ne
  have rise := steerable.rise.ne'
  unfold profileBy profile
  rw [freePeakBy_strict steerable enough,Option.bind_eq_bind,Option.bind_some]
  dsimp only
  split
  · rw [strict_divide rise,Option.bind_some]
    split
    · rfl
    · rename_i pulling
      rw [zero_exact,not_le] at pulling
      simp only [strict_divide rise,strict_divide fall,strict_divide pulling.ne',Option.bind_some]
      split
      · rfl
      · rfl
  · simp only [strict_divide rise,strict_divide fall,Option.bind_some]
    rfl

theorem withinBy_strict (steerable : bounds.Steerable) (motion : Motion ℝ) (change step : ℝ) :
    withinBy strict bounds motion change step = some (within bounds motion change step) := by
  unfold withinBy within
  rw [shiftToRestBy_strict steerable,Option.bind_eq_bind,Option.bind_some]
  split
  · rename_i short
    have enough : shiftToRest bounds.mirrored (-motion.accel) ≤ -change := by
      rw [shiftToRest_mirrored]
      exact neg_le_neg short.le
    unfold followBy
    rw [profileBy_strict steerable.mirrored enough]
    rfl
  · rename_i enough
    unfold followBy
    rw [profileBy_strict steerable (not_lt.mp enough)]
    rfl

end Strict

-- Whatever the limits of the acceleration are, and whether they cross or not.
theorem smoothSpeedBy_strict (motion : Motion ℝ) (target : ℝ) (accel : AccelLimits ℝ) {jerk : JerkLimits ℝ}
    (fall : jerk.min < 0) (rise : 0 < jerk.max) (step : ℝ) :
    smoothSpeedBy .strict motion target accel jerk step = some (smoothSpeed motion target accel jerk step) := by
  have steerable : (Bounds.of accel jerk).Steerable := ⟨fall,rise⟩
  have steers := forReversal_steerable steerable (target - motion.speed) motion.accel
  unfold smoothSpeedBy smoothSpeed
  dsimp only
  generalize (Bounds.of accel jerk).forReversal (target - motion.speed) motion.accel = bounds at *
  rw [recoveryTimeBy_strict steers,Option.bind_eq_bind,Option.bind_some]
  cases recoverOnly? bounds motion step (recoveryTime bounds motion.accel) with
  | some moved => rfl
  | none =>
    dsimp only
    rw [recoveredBy_strict steers]
    exact withinBy_strict steers _ _ _

end SpeedSmoother
end Headway
