import Headway.Car
import Headway.Table

-- Limits of acceleration and jerk, found anew every cycle.
namespace Headway
open Scalar
variable {α : Type} [Scalar α]

structure AccelLimits (α : Type) where
  min : α
  max : α
deriving Repr, BEq

structure JerkLimits (α : Type) where
  min : α
  max : α
deriving Repr, BEq

structure TurnGeometry (α : Type) where
  steerRatio : α
  wheelbase : α
  brakeFactor : α

namespace AccelLimits

def cruiseCurve (y₀ y₅ y₁₀ y₂₀ y₅₅ : α) : Table α :=
  .of (0.0, y₀) (5.0, y₅) [(10.0, y₁₀), (20.0, y₂₀), (55.0, y₅₅)]

def cruiseMin : Table α := cruiseCurve (-0.8) (-0.7) (-0.6) (-0.5) (-0.3)

def cruiseMax : DriveMode → Table α
  | .standard => cruiseCurve 3.5 3.0 1.5 0.5 0.3
  | .sport => cruiseCurve 3.5 3.5 3.5 3.5 3.5
  | .eco => cruiseCurve 1.0 1.5 1.0 0.3 0.1

def followingMax : Table α := cruiseCurve 1.3 1.6 1.2 0.7 0.3

def cruise (egoSpeed : α) (following : Bool) (mode : DriveMode) : AccelLimits α :=
  ⟨cruiseMin.read egoSpeed, (if following then followingMax else cruiseMax mode).read egoSpeed⟩

def total : Table α := .of (0.0, 2.3) (25.0, 3.0) [(55.0, 3.9)]

def radiansPerDegree : α := 3.14159265358979323846 / 180.0

def lateral (egoSpeed angle : α) (geometry : TurnGeometry α) : α :=
  egoSpeed * egoSpeed * abs angle * radiansPerDegree / (geometry.steerRatio * geometry.wheelbase)

def turnBudget (egoSpeed angle : α) (geometry : TurnGeometry α) : α :=
  total.read egoSpeed * geometry.brakeFactor - lateral egoSpeed angle geometry

-- Wherever the upper limit falls, the lower one goes along rather than end up above it.
def capped (limits : AccelLimits α) (max : α) : AccelLimits α :=
  ⟨lesser limits.min max, max⟩

def inTurn (limits : AccelLimits α) (egoSpeed angle laterAngle : α) (geometry : TurnGeometry α) :
    AccelLimits α :=
  limits.capped (lesser (lesser limits.max (turnBudget egoSpeed angle geometry))
    (turnBudget egoSpeed laterAngle geometry))

def forceDecel (limits : AccelLimits α) : AccelLimits α :=
  limits.capped (lesser limits.max (-0.2))

def requireDecel (limits : AccelLimits α) (required : α) : AccelLimits α :=
  { limits with min := greater limits.min required }

def pinned (accel : α) : AccelLimits α := ⟨accel, accel⟩

end AccelLimits

def JerkLimits.forMode (egoSpeed : α) (mode : DriveMode) (accel : AccelLimits α) : JerkLimits α :=
  match mode with
  | .standard => within (-0.1) (-0.0018) 0.2
  | .sport => within (-0.25) (-0.002) 0.4
  | .eco => within (-0.1) (-0.0015) 0.1
where
  within (floor slope atRest : α) : JerkLimits α :=
    ⟨lesser accel.min floor, greater accel.max (slope * egoSpeed + atRest)⟩

def hardestLimitDecel : α := -3.0

def turnRequiredDecel (egoSpeed curveSpeed turnDistance : α) : α :=
  let meanSpeed := greater ((egoSpeed + curveSpeed) / 2.0) 1.0
  let timeToTurn := greater (turnDistance / meanSpeed) 1.0
  lesser ((curveSpeed - egoSpeed) / timeToTurn) 0.0

def limitAheadDecel (egoSpeed aheadSpeed distance : α) : α :=
  if distance ≤ 0.0 then hardestLimitDecel
  else
    greater (lesser ((aheadSpeed * aheadSpeed - egoSpeed * egoSpeed) / (2.0 * distance)) 0.0)
      hardestLimitDecel

end Headway
