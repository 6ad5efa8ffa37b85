import Headway.AccelLimits

-- Speed and acceleration are moved toward a target speed along a trapezoid of acceleration.
namespace Headway
open Scalar
variable {α : Type} [Scalar α]

namespace SpeedSmoother

structure Motion (α : Type) where
  speed : α
  accel : α
deriving Repr

def tiny : α := 1e-9

structure Bounds (α : Type) where
  accelMin : α
  accelMax : α
  jerkMin : α
  jerkMax : α

def Bounds.of (accel : AccelLimits α) (jerk : JerkLimits α) : Bounds α :=
  ⟨accel.min, accel.max, jerk.min, jerk.max⟩

def Bounds.forReversal (bounds : Bounds α) (change accel : α) : Bounds α :=
  if 0.0 < change ∧ accel < 0.0 then { bounds with jerkMax := bounds.jerkMax * 3.0 }
  else if change < 0.0 ∧ 0.0 < accel then { bounds with jerkMin := bounds.jerkMin * 3.0 }
  else bounds

def recoveryTime (bounds : Bounds α) (accel : α) : α :=
  if bounds.accelMax < accel then (bounds.accelMax - accel) / bounds.jerkMin
  else if accel < bounds.accelMin then (bounds.accelMin - accel) / bounds.jerkMax
  else 0.0

def underJerk (motion : Motion α) (jerk step : α) : Motion α :=
  ⟨motion.speed + step * motion.accel + 0.5 * step * step * jerk, motion.accel + step * jerk⟩

def recoverOnly? (bounds : Bounds α) (motion : Motion α) (step recovery : α) : Option (Motion α) :=
  if step ≤ recovery then
    if motion.accel < bounds.accelMin then some (underJerk motion bounds.jerkMax step)
    else if bounds.accelMax < motion.accel then some (underJerk motion bounds.jerkMin step)
    else none
  else none

def recovered (bounds : Bounds α) (motion : Motion α) (change recovery : α) : Motion α × α :=
  if bounds.accelMax < motion.accel then
    let made := 0.5 * (bounds.accelMax * bounds.accelMax - motion.accel * motion.accel) / bounds.jerkMin
    (⟨motion.speed + made, motion.accel + recovery * bounds.jerkMin⟩, change - made)
  else if motion.accel < bounds.accelMin then
    let made := 0.5 * (bounds.accelMin * bounds.accelMin - motion.accel * motion.accel) / bounds.jerkMax
    (⟨motion.speed + made, motion.accel + recovery * bounds.jerkMax⟩, change - made)
  else (motion, change)

def shiftToRest (bounds : Bounds α) (accel : α) : α :=
  -0.5 * accel * accel / (if 0.0 ≤ accel then bounds.jerkMin else bounds.jerkMax)

def Bounds.mirrored (bounds : Bounds α) : Bounds α :=
  ⟨-bounds.accelMax, -bounds.accelMin, -bounds.jerkMax, -bounds.jerkMin⟩

def freePeak (bounds : Bounds α) (accel change : α) : α :=
  let square := (0.5 * accel * accel / bounds.jerkMax + change + tiny)
    / (0.5 / bounds.jerkMax - 0.5 / bounds.jerkMin)
  if isNaN square ∨ square < 0.0 then 0.0 else sqrt square

structure Profile (α : Type) where
  peak : α
  riseEnd : α
  flatEnd : α
  fallEnd : α

def profile (bounds : Bounds α) (accel change step : α) : Profile α :=
  let free := freePeak bounds accel change
  if bounds.accelMax < free then
    let peak := bounds.accelMax
    let riseEnd := (peak - accel) / bounds.jerkMax
    if peak ≤ 0.0 then
      -- Nothing is available toward the target, and the step ends before the profile does.
      let flatEnd := riseEnd + step + tiny
      ⟨peak, riseEnd, flatEnd, flatEnd⟩
    else
      let flatChange := change - 0.5 * (peak * peak - accel * accel) / bounds.jerkMax
        + 0.5 * peak * peak / bounds.jerkMin
      let flatEnd := if flatChange < peak * step then riseEnd + flatChange / peak else riseEnd + step
      ⟨peak, riseEnd, flatEnd, flatEnd - peak / bounds.jerkMin⟩
  else
    let riseEnd := (free - accel) / bounds.jerkMax
    ⟨free, riseEnd, riseEnd, riseEnd - free / bounds.jerkMin⟩

def along (bounds : Bounds α) (p : Profile α) (motion : Motion α) (change step : α) : Motion α :=
  if p.fallEnd < step then ⟨motion.speed + change, 0.0⟩
  else
    let rise := lesser step p.riseEnd
    let flat := greater (lesser step p.flatEnd - p.riseEnd) 0.0
    let fall := greater (lesser step p.fallEnd - p.flatEnd) 0.0
    ⟨motion.speed + (motion.accel * rise + 0.5 * rise * rise * bounds.jerkMax + p.peak * flat
        + p.peak * fall + 0.5 * fall * fall * bounds.jerkMin),
     motion.accel + (bounds.jerkMax * rise + fall * bounds.jerkMin)⟩

def follow (bounds : Bounds α) (motion : Motion α) (change step : α) : Motion α :=
  along bounds (profile bounds motion.accel change step) motion change step

def within (bounds : Bounds α) (motion : Motion α) (change step : α) : Motion α :=
  if change < shiftToRest bounds motion.accel then
    let mirrored := follow bounds.mirrored ⟨-motion.speed, -motion.accel⟩ (-change) step
    ⟨-mirrored.speed, -mirrored.accel⟩
  else follow bounds motion change step

end SpeedSmoother

open SpeedSmoother in
def smoothSpeed (motion : Motion α) (target : α) (accel : AccelLimits α) (jerk : JerkLimits α)
    (step : α) : Motion α :=
  let change := target - motion.speed
  let bounds := (Bounds.of accel jerk).forReversal change motion.accel
  let recovery := recoveryTime bounds motion.accel
  match recoverOnly? bounds motion step recovery with
  | some moved => moved
  | none =>
      let (motion, change) := recovered bounds motion change recovery
      within bounds motion change (step - recovery)

end Headway
